import TabletDrain.Shard.Spec

/-! Drains are acted on only while the shard is healthy: every tablet in its status is available and
the topology names a primary. -/
namespace TabletDrain

inductive Unhealthy where
  | tabletUnavailable (tablet : String)
  | noPrimary
  deriving DecidableEq, Repr

def Unhealthy.message : Unhealthy → String
  | tabletUnavailable tablet =>
    "Shard is in an unhealthy state: tablet " ++ tablet ++ " is not Available"
  | noPrimary => "Shard does not have a primary"

namespace Shard

def unavailable? (status : Option ShardStatus) : Option String :=
  status.bind fun status =>
    (status.tablets.entries.find? fun entry => entry.2.available ≠ .true).map Prod.fst

def healthyPrimary (status : Option ShardStatus) (record : ShardRecord) : Except Unhealthy Alias :=
  match unavailable? status with
  | some tablet => .error (.tabletUnavailable tablet)
  | none =>
    match record.primary with
    | some primary => .ok primary
    | none => .error .noPrimary

end Shard

end TabletDrain
