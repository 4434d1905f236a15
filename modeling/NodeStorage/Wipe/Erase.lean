import NodeStorage.Text.Numeral
import NodeStorage.Wipe.Choice

/-! Erasing disks. A disk that can erase itself is told to; every other one is discarded, and
overwritten with zeros if that fails. What fails on one disk changes nothing for the others. -/

namespace NodeStorage

open Text

inductive WipeMethod where
  | discarded
  | overwritten
  | secureErased
  deriving DecidableEq, Repr

def WipeMethod.text : WipeMethod → String
  | discarded => "discard"
  | overwritten => "dd-overwrite"
  | secureErased => "nvme-secure-erase"

def discardCommand (device : String) : Command :=
  (((Draft.start .mkfsExt4).addFlags ["-F", "-E", "discard"]).operand device).build

def secureEraseCommand (device : String) : Command :=
  (((Draft.start .nvme).addFlags ["format", "--ses=1", "--force"]).operand device).build

/-- Zeros over the first MiB, where partition tables and filesystems begin. -/
def zeroHeadCommand (device : String) : Command :=
  (((Draft.start .dd).addFlags ["if=/dev/zero", "bs=1M", "count=1", "conv=fsync"]).operand
    ("of=" ++ device)).build

/-- Zeros over as many whole blocks as the capacity holds. -/
def overwriteCommand (device : String) (capacity blockSize : Nat) : Command :=
  let blockSize := max blockSize 1
  ((Draft.start .dd)
    |>.flag "if=/dev/zero"
    |>.flag ("bs=" ++ decimal blockSize)
    |>.flag ("count=" ++ decimal (capacity / blockSize))
    |>.flag "conv=fsync"
    |>.operand ("of=" ++ device)).build

namespace WipeDecision

def about (decision : WipeDecision) (level : Level) (text : String) : Notice :=
  ⟨level, text, some decision.device⟩

def wiping (decision : WipeDecision) : Notice :=
  decision.about .info ("wiping " ++ decision.device ++ " (" ++ decimal decision.capacity ++
    " bytes, " ++ (if decision.isRotational then "rotational" else "solid state") ++ ") with " ++
    decision.strategy.text)

def discardFailed (decision : WipeDecision) (failure : Failure) : Notice :=
  { Notice.stepFailed ("discard of " ++ decision.device) failure with
    disk := some decision.device }

def fallingBack (decision : WipeDecision) : Notice :=
  decision.about .warning ("falling back to overwriting " ++ decision.device)

def overwrite (decision : WipeDecision) (blockSize : Nat) : Step WipeMethod := do
  let _ ← Step.naming ("zeroing head of " ++ decision.device)
    (Step.run (zeroHeadCommand decision.device))
  let _ ← Step.naming ("overwrite of " ++ decision.device)
    (Step.run (overwriteCommand decision.device decision.capacity blockSize))
  return .overwritten

def secureErase (decision : WipeDecision) : Step WipeMethod := do
  let _ ← Step.naming ("secure erase of " ++ decision.device)
    (Step.run (secureEraseCommand decision.device))
  return .secureErased

def discard (decision : WipeDecision) (blockSize : Nat) : Step WipeMethod := do
  match ← Step.attempt (Step.run (discardCommand decision.device)) with
  | .ok _ => return .discarded
  | .error failure => do
    Step.note (decision.discardFailed failure)
    Step.note decision.fallingBack
    decision.overwrite blockSize

def erase (blockSize : Nat) (decision : WipeDecision) : Step WipeMethod := do
  Step.note decision.wiping
  match decision.strategy with
  | .secureErase => decision.secureErase
  | .discard => decision.discard blockSize

end WipeDecision

structure WipeResult where
  decision : WipeDecision
  outcome : Except Failure WipeMethod

namespace WipeResult

def notice (result : WipeResult) : Notice :=
  match result.outcome with
  | .ok method =>
    result.decision.about .info ("wiped " ++ result.decision.device ++ " with " ++ method.text)
  | .error failure =>
    result.decision.about .error ("failed to wipe " ++ result.decision.device ++ ": " ++
      failure.message)

def wiped? (result : WipeResult) : Option (String × WipeMethod) :=
  match result.outcome with
  | .ok method => some (result.decision.device, method)
  | .error _ => none

def failed? (result : WipeResult) : Option (String × Failure) :=
  match result.outcome with
  | .ok _ => none
  | .error failure => some (result.decision.device, failure)

end WipeResult

structure WipeSummary where
  wiped : List (String × WipeMethod) := []
  kept : List KeptDisk := []
  failed : List (String × Failure) := []
  deriving DecidableEq, Repr, Inhabited

namespace WipeSummary

def isClean (summary : WipeSummary) : Bool := summary.failed.isEmpty

def byDevice (entries : List (String × α)) : List (String × α) :=
  entries.mergeSort fun a b => decide (a.1 ≤ b.1)

/-- The results, in whatever order they came, sorted by device. -/
def ofResults (kept : List KeptDisk) (results : List WipeResult) : WipeSummary where
  wiped := byDevice (results.filterMap WipeResult.wiped?)
  kept := kept
  failed := byDevice (results.filterMap WipeResult.failed?)

def finished (summary : WipeSummary) : Notice :=
  .info ("wipe finished: " ++ decimal summary.wiped.length ++ " wiped, " ++
    decimal summary.kept.length ++ " skipped, " ++ decimal summary.failed.length ++ " failed")

end WipeSummary

def eraseOne (blockSize : Nat) (decision : WipeDecision) : Step WipeResult :=
  return ⟨decision, ← Step.attempt (decision.erase blockSize)⟩

/-- Wipes every disk that is not kept, with a worker for each. It fails only if the disks cannot be
chosen or the workers cannot be started. -/
def wipeDisks (settings : WipeSettings) : Step WipeSummary := do
  let choices ← chooseDisks settings
  if decisions choices = [] then
    Step.note (.info "no disks to wipe")
    return WipeSummary.ofResults (keptDisks choices) []
  else
    Step.startWorkers (decisions choices).length
    let results ← Step.forEach (eraseOne settings.blockSize) (decisions choices)
    let _ ← Step.forEach (fun result => Step.note (WipeResult.notice result)) results
    let summary := WipeSummary.ofResults (keptDisks choices) results
    Step.note summary.finished
    return summary

end NodeStorage
