import NodeStorage.Proofs.Run.Ensures
import NodeStorage.Wipe.Erase

/-! The work on one disk, cut where other work may come between: at each notice and at each command.
Done in one piece it is the erasing of the disk. By the answers of a machine that answers a command
always in the same way it comes to one list of commands and to one outcome. -/

namespace NodeStorage

open Text

inductive Work where
  | done (outcome : Except Failure WipeMethod)
  | say (notice : Notice) (next : Work)
  | ask (command : Command) (next : Except Failure Output → Work)

namespace Work

variable {m : Machine} {w : World} {answer : Command → Except Failure Output}

def step : Work → Step WipeMethod
  | done outcome => Step.ofExcept outcome
  | say notice next => do
    Step.note notice
    next.step
  | ask command next => do
    let result ← Step.attempt (Step.run command)
    (next result).step

theorem step_done (outcome : Except Failure WipeMethod) : (done outcome).step m w = (outcome, w) :=
  rfl

theorem step_say (notice : Notice) (next : Work) :
    (say notice next).step m w = next.step m { w with notices := w.notices ++ [notice] } := rfl

theorem step_ask (command : Command) (next : Except Failure Output → Work) :
    (ask command next).step m w = (next (m.run w.events command)).step m
      { w with events := w.events ++ [.command command] } := rfl

def commands (answer : Command → Except Failure Output) : Work → List Command
  | done _ => []
  | say _ next => next.commands answer
  | ask command next => command :: (next (answer command)).commands answer

def outcome (answer : Command → Except Failure Output) : Work → Except Failure WipeMethod
  | done outcome => outcome
  | say _ next => next.outcome answer
  | ask command next => (next (answer command)).outcome answer

end Work

namespace WipeDecision

def finalWork (name : String) (command : Command) (method : WipeMethod) : Work :=
  .ask command fun
    | .ok _ => .done (.ok method)
    | .error failure => .done (.error (.target name failure))

def overwriteWork (blockSize : Nat) (decision : WipeDecision) : Work :=
  .ask (zeroHeadCommand decision.device) fun
    | .ok _ => finalWork ("overwrite of " ++ decision.device)
        (overwriteCommand decision.device decision.capacity blockSize) .overwritten
    | .error failure => .done (.error (.target ("zeroing head of " ++ decision.device) failure))

def discardWork (blockSize : Nat) (decision : WipeDecision) : Work :=
  .ask (discardCommand decision.device) fun
    | .ok _ => .done (.ok .discarded)
    | .error failure => .say (decision.discardFailed failure)
        (.say decision.fallingBack (decision.overwriteWork blockSize))

def work (blockSize : Nat) (decision : WipeDecision) : Work :=
  .say decision.wiping (match decision.strategy with
    | .secureErase => finalWork ("secure erase of " ++ decision.device)
        (secureEraseCommand decision.device) .secureErased
    | .discard => decision.discardWork blockSize)

theorem step_finalWork (name : String) (command : Command) (method : WipeMethod) :
    (finalWork name command method).step = (do
      let _ ← Step.naming name (Step.run command)
      return method) := by
  funext m w
  rw [finalWork, Work.step_ask, Step.bind_apply]
  cases answer : m.run w.events command <;>
    simp [Step.naming, Step.run, answer, Work.step_done, Step.pure_apply]

theorem step_overwriteWork (blockSize : Nat) (decision : WipeDecision) :
    (decision.overwriteWork blockSize).step = decision.overwrite blockSize := by
  funext m w
  rw [overwriteWork, Work.step_ask, overwrite, Step.bind_apply]
  cases answer : m.run w.events (zeroHeadCommand decision.device) with
  | error failure => simp [Step.naming, Step.run, answer, Work.step_done]
  | ok output => simp [Step.naming, Step.run, answer, step_finalWork]

theorem step_discardWork (blockSize : Nat) (decision : WipeDecision) :
    (decision.discardWork blockSize).step = decision.discard blockSize := by
  funext m w
  rw [discardWork, Work.step_ask, discard, Step.bind_apply]
  cases answer : m.run w.events (discardCommand decision.device) with
  | error failure =>
    simp [Step.attempt, Step.run, answer, Work.step_say, step_overwriteWork, Step.bind_apply,
      Step.note]
  | ok output => simp [Step.attempt, Step.run, answer, Work.step_done, Step.pure_apply]

/-- The work, done in one piece, is the erasing of the disk. -/
theorem step_work (blockSize : Nat) (decision : WipeDecision) :
    (decision.work blockSize).step = decision.erase blockSize := by
  funext m w
  rw [work, Work.step_say, erase, Step.bind_apply]
  cases h : decision.strategy with
  | secureErase => simp [Step.note, step_finalWork, secureErase]
  | discard => simp [Step.note, step_discardWork]

end WipeDecision

namespace BlockDisk

variable (answer : Command → Except Failure Output) (blockSize : Nat) (disk : BlockDisk)

def secureErasing : Command := ⟨.nvme, ["format", "--ses=1", "--force", disk.device]⟩

def discarding : Command := ⟨.mkfsExt4, ["-F", "-E", "discard", disk.device]⟩

def zeroingHead : Command :=
  ⟨.dd, ["if=/dev/zero", "bs=1M", "count=1", "conv=fsync", "of=" ++ disk.device]⟩

def overwriting : Command :=
  ⟨.dd, ["if=/dev/zero", "bs=" ++ decimal (max blockSize 1),
    "count=" ++ decimal (disk.capacity / max blockSize 1), "conv=fsync", "of=" ++ disk.device]⟩

def ErasesItself : Prop := disk.isRotational = false ∧ "/dev/nvm".toList <+: disk.device.toList

instance : Decidable disk.ErasesItself := inferInstanceAs (Decidable (_ ∧ _))

/-- The commands run for a disk, by the answers to them. -/
def eraseCommands : List Command :=
  if disk.ErasesItself then [disk.secureErasing]
  else disk.discarding ::
    if (answer disk.discarding).isOk then []
    else disk.zeroingHead ::
      if (answer disk.zeroingHead).isOk then [disk.overwriting blockSize] else []

def eraseOutcome : Except Failure WipeMethod :=
  if disk.ErasesItself then
    match answer disk.secureErasing with
    | .ok _ => .ok .secureErased
    | .error failure => .error (.target ("secure erase of " ++ disk.device) failure)
  else
    match answer disk.discarding with
    | .ok _ => .ok .discarded
    | .error _ =>
      match answer disk.zeroingHead with
      | .error failure => .error (.target ("zeroing head of " ++ disk.device) failure)
      | .ok _ =>
        match answer (disk.overwriting blockSize) with
        | .ok _ => .ok .overwritten
        | .error failure => .error (.target ("overwrite of " ++ disk.device) failure)

theorem strategy_decision : disk.decision.strategy =
    if disk.ErasesItself then .secureErase else .discard := by
  have own : (!disk.isRotational && startsWith WipeStrategy.secureErasePrefix disk.device) = true ↔
      disk.ErasesItself := by
    rw [Bool.and_eq_true, Bool.not_eq_true', startsWith_iff]
    exact Iff.rfl
  rw [decision, WipeStrategy.select]
  by_cases h : disk.ErasesItself
  · rw [if_pos h, if_pos (own.2 h)]
  · rw [if_neg h, if_neg (mt own.1 h)]

theorem work_decision : disk.decision.work blockSize = .say disk.decision.wiping
    (if disk.ErasesItself then WipeDecision.finalWork ("secure erase of " ++ disk.device)
        disk.secureErasing .secureErased
      else disk.decision.discardWork blockSize) := by
  rw [WipeDecision.work, strategy_decision]
  by_cases h : disk.ErasesItself
  · rw [if_pos h, if_pos h]
    rfl
  · rw [if_neg h, if_neg h]

theorem discardWork_decision : disk.decision.discardWork blockSize =
    .ask disk.discarding fun
      | .ok _ => .done (.ok .discarded)
      | .error failure => .say (disk.decision.discardFailed failure) (.say disk.decision.fallingBack
          (.ask disk.zeroingHead fun
            | .ok _ => WipeDecision.finalWork ("overwrite of " ++ disk.device)
                (disk.overwriting blockSize) .overwritten
            | .error failure =>
              .done (.error (.target ("zeroing head of " ++ disk.device) failure)))) := rfl

theorem commands_work :
    (disk.decision.work blockSize).commands answer = disk.eraseCommands answer blockSize := by
  rw [work_decision, eraseCommands]
  by_cases own : disk.ErasesItself
  · rw [if_pos own, if_pos own]
    cases h : answer disk.secureErasing <;> simp [Work.commands, WipeDecision.finalWork, h]
  · rw [if_neg own, if_neg own, discardWork_decision]
    cases hd : answer disk.discarding with
    | ok output => simp [Work.commands, hd, Except.isOk, Except.toBool]
    | error failure =>
      cases hz : answer disk.zeroingHead with
      | error failure => simp [Work.commands, hd, hz, Except.isOk, Except.toBool]
      | ok output =>
        cases ho : answer (disk.overwriting blockSize) <;>
          simp [Work.commands, WipeDecision.finalWork, hd, hz, ho, Except.isOk, Except.toBool]

theorem outcome_work :
    (disk.decision.work blockSize).outcome answer = disk.eraseOutcome answer blockSize := by
  rw [work_decision, eraseOutcome]
  by_cases own : disk.ErasesItself
  · rw [if_pos own, if_pos own]
    cases h : answer disk.secureErasing <;> simp [Work.outcome, WipeDecision.finalWork, h]
  · rw [if_neg own, if_neg own, discardWork_decision]
    cases hd : answer disk.discarding with
    | ok output => simp [Work.outcome, hd]
    | error failure =>
      cases hz : answer disk.zeroingHead with
      | error failure => simp [Work.outcome, hd, hz]
      | ok output =>
        cases ho : answer (disk.overwriting blockSize) <;>
          simp [Work.outcome, WipeDecision.finalWork, hd, hz, ho]

variable {answer blockSize disk}

theorem mem_eraseCommands {command : Command} (h : command ∈ disk.eraseCommands answer blockSize) :
    command = disk.secureErasing ∨ command = disk.discarding ∨ command = disk.zeroingHead ∨
      command = disk.overwriting blockSize := by
  unfold eraseCommands at h
  split at h
  · exact .inl (List.mem_singleton.1 h)
  · rcases List.mem_cons.1 h with discard | h
    · exact .inr (.inl discard)
    · split at h
      · cases h
      · rcases List.mem_cons.1 h with head | h
        · exact .inr (.inr (.inl head))
        · split at h
          · exact .inr (.inr (.inr (List.mem_singleton.1 h)))
          · cases h

end BlockDisk

def Command.erases (device : String) (command : Command) : Bool :=
  match command.tool with
  | .mkfsExt4 | .nvme => command.args.getLast? == some device
  | .dd => command.args.getLast? == some ("of=" ++ device)
  | _ => false

theorem BlockDisk.erases_iff {answer : Command → Except Failure Output} {blockSize : Nat}
    {disk : BlockDisk} {command : Command} (h : command ∈ disk.eraseCommands answer blockSize)
    (device : String) : command.erases device = true ↔ disk.device = device := by
  rcases mem_eraseCommands h with rfl | rfl | rfl | rfl
  · simp [Command.erases, secureErasing]
  · simp [Command.erases, discarding]
  · simp [Command.erases, zeroingHead]
  · simp [Command.erases, overwriting]

end NodeStorage
