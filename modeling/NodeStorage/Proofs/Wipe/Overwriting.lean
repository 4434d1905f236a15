import Mathlib.Data.List.Basic
import Mathlib.Data.List.TakeWhile
import Mathlib.Order.MinMax
import NodeStorage.Proofs.Text.Division
import NodeStorage.Proofs.Text.Numeral
import NodeStorage.Proofs.Wipe.Worker

/-! What an overwritten disk has lost. The arguments of the copying commands are read back as the tool
reads them: each copies a number of blocks of zeros to the start of the device. Together they reach to
the end of the last whole block, or of the first MiB; what follows stays as it was. -/

namespace NodeStorage

open Text

def mebibyte : Nat := 1048576

/-- A number of bytes, or of MiB with an `M` after it. -/
def byteCount? (s : String) : Option Nat :=
  let digits := s.toList.takeWhile isDigit
  if digits.isEmpty then none
  else match s.toList.dropWhile isDigit with
    | [] => some (decimalValue digits)
    | ['M'] => some (decimalValue digits * mebibyte)
    | _ => none

namespace Command

def operands (command : Command) : List (String × String) :=
  command.args.filterMap (divide "=")

def operand? (command : Command) (name : String) : Option String :=
  command.operands.reverse.lookup name

/-- How many bytes of zeros the command copies to the start of the device. -/
def zeroed? (device : String) (command : Command) : Option Nat :=
  if command.tool = .dd ∧ command.operand? "if" = some "/dev/zero" ∧
      command.operand? "of" = some device ∧ command.operand? "seek" = none then do
    let blockSize ← byteCount? (← command.operand? "bs")
    let count ← byteCount? (← command.operand? "count")
    return blockSize * count
  else none

def Zeroes (device : String) (offset : Nat) (command : Command) : Prop :=
  ∃ length, command.zeroed? device = some length ∧ offset < length

end Command

def succeeded (m : Machine) (before : List Event) : List Event → List Command
  | [] => []
  | .command command :: rest =>
    (if (m.run before command).isOk then [command] else []) ++
      succeeded m (before ++ [.command command]) rest
  | event :: rest => succeeded m (before ++ [event]) rest

section

variable {m : Machine} {before rest : List Event} {command : Command}

theorem succeeded_cons_of_ok (h : (m.run before command).isOk = true) :
    succeeded m before (.command command :: rest) =
      command :: succeeded m (before ++ [.command command]) rest := by
  rw [succeeded, if_pos h]
  rfl

theorem succeeded_cons_of_error {failure : Failure} (h : m.run before command = .error failure) :
    succeeded m before (.command command :: rest) =
      succeeded m (before ++ [.command command]) rest := by
  rw [succeeded, h]
  rfl

end

theorem byteCount?_decimal (n : Nat) : byteCount? (decimal n) = some n := by
  have digits : ∀ c ∈ Nat.toDigits 10 n, isDigit c = true := fun _ mem =>
    isDigit_of_mem_toDigits mem
  have read : (Nat.toDigits 10 n).takeWhile isDigit = Nat.toDigits 10 n :=
    List.takeWhile_eq_self_iff.2 digits
  have rest : (Nat.toDigits 10 n).dropWhile isDigit = [] := List.dropWhile_eq_nil_iff.2 digits
  simp [byteCount?, decimal, read, rest, decimalValue_toDigits]

theorem Command.operands_eq {command : Command} {pairs : List (String × String)}
    (written : command.args = pairs.map fun (name, value) => name ++ "=" ++ value)
    (names : ∀ pair ∈ pairs, '=' ∉ pair.1.toList) : command.operands = pairs := by
  rw [operands, written, List.filterMap_map]
  refine (List.filterMap_congr fun pair mem => ?_).trans List.filterMap_some
  exact divide_append pair.1 pair.2 (names pair mem)

theorem operands_zeroHeadCommand (device : String) :
    (zeroHeadCommand device).operands =
      [("if", "/dev/zero"), ("bs", "1M"), ("count", "1"), ("conv", "fsync"), ("of", device)] := by
  refine Command.operands_eq rfl ?_
  simp only [List.forall_mem_cons]
  decide

theorem operands_overwriteCommand (device : String) (capacity : Nat) {blockSize : Nat}
    (h : 0 < blockSize) :
    (overwriteCommand device capacity blockSize).operands =
      [("if", "/dev/zero"), ("bs", decimal blockSize), ("count", decimal (capacity / blockSize)),
        ("conv", "fsync"), ("of", device)] := by
  rw [overwriteCommand, max_eq_left h]
  refine Command.operands_eq rfl ?_
  simp only [List.forall_mem_cons]
  decide

theorem zeroed?_zeroHeadCommand (device : String) :
    (zeroHeadCommand device).zeroed? device = some mebibyte := by
  have own : (zeroHeadCommand device).tool = .dd := rfl
  have mega : byteCount? "1M" = some mebibyte := by decide
  have one : byteCount? "1" = some 1 := by decide
  simp [Command.zeroed?, Command.operand?, operands_zeroHeadCommand, own, List.lookup_cons, mega, one]

theorem zeroed?_overwriteCommand (device : String) (capacity : Nat) {blockSize : Nat}
    (h : 0 < blockSize) :
    (overwriteCommand device capacity blockSize).zeroed? device =
      some (blockSize * (capacity / blockSize)) := by
  have own : (overwriteCommand device capacity blockSize).tool = .dd := rfl
  simp [Command.zeroed?, Command.operand?, operands_overwriteCommand device capacity h, own,
    List.lookup_cons, byteCount?_decimal]

namespace WipeDecision

variable {m : Machine} {w : World} {blockSize : Nat} {decision : WipeDecision}

theorem finalWork_ok {name : String} {command : Command} {method found : WipeMethod}
    (h : ((finalWork name command method).step m w).1 = .ok found) :
    ((finalWork name command method).step m w).2.events = w.events ++ [.command command] ∧
      (m.run w.events command).isOk = true ∧ found = method := by
  rw [finalWork, Work.step_ask] at h ⊢
  cases answer : m.run w.events command with
  | error failure =>
    rw [answer] at h
    cases h
  | ok output =>
    rw [answer] at h
    cases h
    exact ⟨rfl, rfl, rfl⟩

theorem overwriteWork_ok (h : ((decision.overwriteWork blockSize).step m w).1 = .ok .overwritten) :
    ∃ added, ((decision.overwriteWork blockSize).step m w).2.events = w.events ++ added ∧
      succeeded m w.events added =
        [zeroHeadCommand decision.device,
          overwriteCommand decision.device decision.capacity blockSize] := by
  rw [overwriteWork, Work.step_ask] at h ⊢
  cases answer : m.run w.events (zeroHeadCommand decision.device) with
  | error failure =>
    rw [answer] at h
    cases h
  | ok output =>
    rw [answer] at h
    obtain ⟨events, second, -⟩ := finalWork_ok h
    refine ⟨[.command (zeroHeadCommand decision.device),
      .command (overwriteCommand decision.device decision.capacity blockSize)], ?_, ?_⟩
    · rw [events, List.append_assoc]
      rfl
    · have first : (m.run w.events (zeroHeadCommand decision.device)).isOk = true := by
        rw [answer]
        rfl
      rw [succeeded_cons_of_ok first, succeeded_cons_of_ok second, succeeded]

theorem discardWork_ok (h : ((decision.discardWork blockSize).step m w).1 = .ok .overwritten) :
    ∃ added, ((decision.discardWork blockSize).step m w).2.events = w.events ++ added ∧
      succeeded m w.events added =
        [zeroHeadCommand decision.device,
          overwriteCommand decision.device decision.capacity blockSize] := by
  rw [discardWork, Work.step_ask] at h ⊢
  cases answer : m.run w.events (discardCommand decision.device) with
  | ok output =>
    rw [answer] at h
    cases h
  | error failure =>
    rw [answer] at h
    obtain ⟨added, events, ran⟩ := overwriteWork_ok h
    refine ⟨.command (discardCommand decision.device) :: added, ?_, ?_⟩
    · exact events.trans (List.append_assoc ..)
    · exact (succeeded_cons_of_error answer).trans ran

theorem succeeded_of_overwritten (h : (decision.erase blockSize m w).1 = .ok .overwritten) :
    ∃ added, (decision.erase blockSize m w).2.events = w.events ++ added ∧
      succeeded m w.events added =
        [zeroHeadCommand decision.device,
          overwriteCommand decision.device decision.capacity blockSize] := by
  rw [← step_work, work, Work.step_say] at h ⊢
  cases strategy : decision.strategy with
  | secureErase =>
    rw [strategy] at h
    cases (finalWork_ok h).2.2
  | discard =>
    rw [strategy] at h
    exact discardWork_ok h

end WipeDecision

theorem block_mul_div_le_iff {capacity blockSize : Nat} :
    capacity ≤ blockSize * (capacity / blockSize) ↔ blockSize ∣ capacity := by
  constructor
  · intro le
    exact ⟨capacity / blockSize, Nat.le_antisymm le (Nat.mul_div_le capacity blockSize)⟩
  · intro whole
    rw [Nat.mul_div_cancel' whole]

/-- An overwritten disk is zeroed over its first MiB and over its whole blocks: all of it, if and only
if it is made of whole blocks or is no larger than a MiB. -/
theorem zeroed_of_overwritten (m : Machine) (w : World) (decision : WipeDecision) (blockSize : Nat)
    (positive : 0 < blockSize) (overwritten : (decision.erase blockSize m w).1 = .ok .overwritten) :
    ∃ added, (decision.erase blockSize m w).2.events = w.events ++ added ∧
      succeeded m w.events added =
        [zeroHeadCommand decision.device,
          overwriteCommand decision.device decision.capacity blockSize] ∧
      (∀ offset, (∃ command ∈ succeeded m w.events added, command.Zeroes decision.device offset) ↔
        offset < max mebibyte (blockSize * (decision.capacity / blockSize))) ∧
      ((∀ offset < decision.capacity,
          ∃ command ∈ succeeded m w.events added, command.Zeroes decision.device offset) ↔
        blockSize ∣ decision.capacity ∨ decision.capacity ≤ mebibyte) := by
  obtain ⟨added, events, ran⟩ := decision.succeeded_of_overwritten overwritten
  have covered (offset : Nat) :
      (∃ command ∈ succeeded m w.events added, command.Zeroes decision.device offset) ↔
        offset < max mebibyte (blockSize * (decision.capacity / blockSize)) := by
    rw [ran, lt_max_iff]
    simp [Command.Zeroes, zeroed?_zeroHeadCommand,
      zeroed?_overwriteCommand decision.device decision.capacity positive]
  refine ⟨added, events, ran, covered, ?_⟩
  simp only [covered]
  rw [forall_lt_iff_le, le_max_iff, block_mul_div_le_iff, or_comm]

def noDiscard : Machine :=
  .ofAnswers
    (fun command =>
      if command.tool = .mkfsExt4 then .error (.toolNotFound Tool.mkfsExt4.binary) else .ok {})
    fun _ => none

def noFiles : World := { files := ⟨[], []⟩ }

def oddDisk : WipeDecision := ⟨"/dev/sda", 2097664, true, .discard⟩

theorem overwritten_oddDisk : (oddDisk.erase 4096 noDiscard noFiles).1 = .ok .overwritten := rfl

theorem zeroed_oddDisk : 0 < 4096 ∧ (oddDisk.erase 4096 noDiscard noFiles).1 = .ok .overwritten ∧
    ∃ added, (oddDisk.erase 4096 noDiscard noFiles).2.events = added ∧
      ∀ offset, (∃ command ∈ succeeded noDiscard [] added, command.Zeroes oddDisk.device offset) ↔
        offset < 2097152 := by
  obtain ⟨added, events, -, covered, -⟩ :=
    zeroed_of_overwritten noDiscard noFiles oddDisk 4096 (by decide) overwritten_oddDisk
  exact ⟨by decide, overwritten_oddDisk, added, events, covered⟩

/-- The last sector of that disk is not zeroed in blocks of 4096 bytes. -/
theorem lastSector_not_zeroed :
    (oddDisk.erase 4096 noDiscard noFiles).1 = .ok .overwritten ∧ 2097152 < oddDisk.capacity ∧
      ¬ ∃ command ∈ succeeded noDiscard [] (oddDisk.erase 4096 noDiscard noFiles).2.events,
        command.Zeroes oddDisk.device 2097152 := by
  have ran : succeeded noDiscard [] (oddDisk.erase 4096 noDiscard noFiles).2.events =
      [zeroHeadCommand oddDisk.device, overwriteCommand oddDisk.device oddDisk.capacity 4096] := rfl
  refine ⟨overwritten_oddDisk, by decide, ?_⟩
  rw [ran]
  simp [Command.Zeroes, zeroed?_zeroHeadCommand, zeroed?_overwriteCommand, oddDisk, mebibyte]

end NodeStorage
