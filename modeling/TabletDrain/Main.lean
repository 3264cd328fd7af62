import TabletDrain.Json.Printer
import TabletDrain.Shard.Definition

/-! The command that prints the definition of replicated shards, for the API server to take in. -/

def main : IO Unit := IO.println TabletDrain.Shard.Definition.document.text
