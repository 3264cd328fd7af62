import TabletDrain.Pass.Steps

/-! What comes of a drain pass that is run from its start under its time limit. -/
namespace TabletDrain.Pass

structure Report where
  result : Except Fault (Option Nat)
  log : List LogEntry
  elapsed : Nat
  pods : List Pod
  history : List (List Pod)

def run (configuration : Configuration) (replies : Replies) (stamp : String) (shard : Shard)
    (cluster : Cluster) : Report :=
  let limit := configuration.timeouts.pass
  let context : Context := ⟨⟨replies, some limit⟩, configuration, shard, cluster, stamp⟩
  let (done, progress) := context.pass (.start cluster.pods)
  { result := match done with
      | some () => progress.results.result
      | none => .error (.timeout "drain pass" (.ofMilliseconds limit))
    log := progress.log
    elapsed := progress.now
    pods := progress.pods
    history := progress.history }

end TabletDrain.Pass
