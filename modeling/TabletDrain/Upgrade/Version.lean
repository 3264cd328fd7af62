import TabletDrain.Fault
import TabletDrain.Text.Digit
import TabletDrain.Text.Split

/-! Whether a change of the database version is safe. Releases of the 8.0 series before 8.0.34 may
change the format on disk in a patch release, so a move up to or within them needs a slow shutdown
first; from 8.0.34 on a patch release only mends. A move down that may change the format is
refused. -/
namespace TabletDrain

structure Version where
  major : Nat
  minor : Nat
  patch : Nat
  deriving DecidableEq, Repr

namespace Version

def firstMendingPatch : Nat := 34

def partBound : Nat := 4294967296

def digitRun (text : List Char) : List Char × List Char := text.span Text.isDecimalDigit

/-- Three non-empty runs of digits, with a point after the first and the second. -/
def runs? (text : List Char) : Option (List Char × List Char × List Char) :=
  match digitRun text with
  | (major, '.' :: rest) =>
    match digitRun rest with
    | (minor, '.' :: rest) =>
      let patch := (digitRun rest).1
      if major.isEmpty || minor.isEmpty || patch.isEmpty then none else some (major, minor, patch)
    | _ => none
  | _ => none

def part? (text : List Char) : Option Nat :=
  match Text.readNumeral partBound text with
  | .ok n => some n
  | .error _ => none

def parse? (text : String) : Option Version := do
  let (major, minor, patch) ← runs? text.toList
  let major ← part? major
  let minor ← part? minor
  let patch ← part? patch
  return ⟨major, minor, patch⟩

def inPatchSeries (version : Version) : Bool := version.major = 8 && version.minor = 0

def onlyMends (version : Version) : Bool :=
  version.inPatchSeries && firstMendingPatch ≤ version.patch

end Version

namespace Upgrade

def refused (part current desired : String) : Fault :=
  .downgrade ("cannot downgrade " ++ part ++ " version from " ++ current ++ " to " ++ desired)

/-- Whether the move between two versions needs a slow shutdown first. The texts are for the
refusal. -/
def versionsNeedSlowShutdown (source target : Version) (current desired : String) :
    Except Fault Bool :=
  if source = target then .ok false
  else if target.major < source.major then .error (refused "major" current desired)
  else if target.major = source.major && target.minor < source.minor then
    .error (refused "minor" current desired)
  else if source.inPatchSeries && target.inPatchSeries then
    if source.onlyMends && target.onlyMends then .ok false
    else if target.patch < source.patch then .error (refused "patch" current desired)
    else .ok (target.patch ≠ source.patch)
  else .ok (target.major ≠ source.major || target.minor ≠ source.minor)

/-- Whether moving between the versions that two texts begin with needs a slow shutdown first. It
does where either text begins with none. -/
def needsSlowShutdown (current desired : String) : Except Fault Bool :=
  match Version.parse? current, Version.parse? desired with
  | some source, some target => versionsNeedSlowShutdown source target current desired
  | _, _ => .ok true

/-- The same for two image references, by what follows the first colon of each. An unknown image, an
unchanged one and one without a colon need nothing. -/
def imagesNeedSlowShutdown (current desired : String) : Except Fault Bool :=
  if current.isEmpty || desired.isEmpty || current = desired then .ok false
  else
    match Text.splitFirst ':' current.toList, Text.splitFirst ':' desired.toList with
    | some (_, source), some (_, target) =>
      needsSlowShutdown (String.ofList source) (String.ofList target)
    | _, _ => .ok false

end Upgrade

end TabletDrain
