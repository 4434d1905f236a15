import Mathlib.Data.List.Forall2
import Mathlib.Data.List.Nodup
import NodeStorage.Build.Devices
import NodeStorage.Proofs.Plan.Validity
import NodeStorage.Proofs.Text.Division
import NodeStorage.Proofs.Text.Numeral

/-! The arguments that make a partition table, read back. An argument is a flag, the number of a partition
and what the flag says of it; the first flag of a partition makes it, and those that follow are about the
newest. Labels and identifiers are free text, which no argument is divided in: the flag ends at the first
equals sign and the number at the first colon after it. -/

namespace NodeStorage

open Text

/-- What a table has of one partition; without a size the partition takes the rest of the disk. -/
structure MadePartition where
  number : UInt32
  size : Option Nat
  label : String := ""
  gptType : GptType := .linux
  guid : Option String := none
  deriving DecidableEq, Repr

namespace PartitionPlan

def inTable (plan : PartitionPlan) : MadePartition :=
  ⟨plan.number, plan.explicitSize, plan.label, plan.gptType, plan.guid⟩

/-- The same partition, but for how the rest of the disk is asked for. -/
def Alike (plan other : PartitionPlan) : Prop :=
  plan = other ∨
    plan.takesRest ∧ other.takesRest ∧ plan = { other with sizeMib := plan.sizeMib }

theorem explicitSize_eq_some_iff {plan : PartitionPlan} {n : Nat} :
    plan.explicitSize = some n ↔
      ∃ size, plan.sizeMib = some size ∧ 0 < size.toInt ∧ size.toInt = n := by
  rw [explicitSize, Option.bind_eq_some_iff]
  refine exists_congr fun size => and_congr_right fun _ => ?_
  by_cases positive : 0 < size.toInt
  · rw [if_pos positive, Option.some.injEq, and_iff_right positive]
    omega
  · rw [if_neg positive]
    exact iff_of_false nofun fun h => positive h.1

theorem explicitSize_pos {plan : PartitionPlan} {n : Nat} (h : plan.explicitSize = some n) : 1 ≤ n := by
  obtain ⟨size, -, positive, same⟩ := explicitSize_eq_some_iff.1 h
  omega

theorem explicitSize_le {plan : PartitionPlan} {n : Nat} (h : plan.explicitSize = some n) :
    n ≤ 9223372036854775807 := by
  obtain ⟨size, -, -, same⟩ := explicitSize_eq_some_iff.1 h
  have bound := size.toInt_lt
  omega

theorem takesRest_iff_explicitSize {plan : PartitionPlan} :
    plan.takesRest = true ↔ plan.explicitSize = none := by
  rw [takesRest, Option.isNone_iff_eq_none]

theorem inTable_eq_iff {plan other : PartitionPlan} : plan.inTable = other.inTable ↔ plan.Alike other := by
  constructor
  · intro same
    obtain ⟨number, size, label, gptType, guid⟩ := MadePartition.mk.inj same
    obtain ⟨n, l, s, t, g⟩ := plan
    obtain ⟨n', l', s', t', g'⟩ := other
    obtain ⟨rfl, rfl, rfl, rfl⟩ : n = n' ∧ l = l' ∧ t = t' ∧ g = g' := ⟨number, label, gptType, guid⟩
    cases explicit : explicitSize ⟨n, l, s, t, g⟩ with
    | none =>
      exact .inr ⟨takesRest_iff_explicitSize.2 explicit,
        takesRest_iff_explicitSize.2 (size.symm.trans explicit), rfl⟩
    | some mib =>
      obtain ⟨a, rfl, -, own⟩ := explicitSize_eq_some_iff.1 explicit
      obtain ⟨b, rfl, -, others⟩ := explicitSize_eq_some_iff.1 (size.symm.trans explicit)
      rw [Int64.toInt_inj.1 (own.trans others.symm)]
      exact .inl rfl
  · rintro (rfl | ⟨rest, restOther, same⟩)
    · rfl
    · rw [takesRest_iff_explicitSize] at rest restOther
      rw [inTable, inTable, rest, restOther, same]

theorem Alike.flags_eq {plan other : PartitionPlan} (h : plan.Alike other) : plan.flags = other.flags := by
  obtain ⟨number, size, label, gptType, guid⟩ := MadePartition.mk.inj (inTable_eq_iff.2 h)
  have sizeText : plan.sizeText = other.sizeText := by rw [sizeText, sizeText, size]
  have numbered : plan.numbered = other.numbered := by
    funext flag value
    rw [numbered, numbered, number]
  rw [flags, flags, numbered, sizeText, label, gptType, guid]

theorem flatMap_flags_of_alike {plans others : List PartitionPlan} (h : List.Forall₂ Alike plans others) :
    plans.flatMap flags = others.flatMap flags := by
  induction h with
  | nil => rfl
  | cons own _ ih => rw [List.flatMap_cons, List.flatMap_cons, own.flags_eq, ih]

end PartitionPlan

def readFlag? (arg : String) : Option (String × UInt32 × List Char) := do
  let (flag, said) ← divideChars ['='] arg.toList
  let (number, value) ← divideChars [':'] said
  let number ← numeral? 4294967295 (.ofList number)
  return (.ofList flag, .ofNat number, value)

def readSize? (value : List Char) : Option (Option Nat) := do
  let (_, size) ← divideChars [':'] value
  if size = ['0'] then return none
  let (mib, _) ← divideChars ['M'] size
  return some (← numeral? 9223372036854775807 (.ofList mib))

namespace MadePartition

def tell? (entry : MadePartition) (flag : String) (value : List Char) : Option MadePartition :=
  match flag with
  | "-c" => some { entry with label := .ofList value }
  | "-t" => (GptType.ofText? (.ofList value)).map fun type => { entry with gptType := type }
  | "-u" => some { entry with guid := some (.ofList value) }
  | _ => none

def readNext? (entries : List MadePartition) (arg : String) : Option (List MadePartition) := do
  let (flag, number, value) ← readFlag? arg
  if flag = "-n" then return { number, size := ← readSize? value } :: entries
  match entries with
  | newest :: earlier =>
    if newest.number = number then return (← newest.tell? flag value) :: earlier
    none
  | [] => none

end MadePartition

/-- The device that the arguments name, and the partitions that they make on it. -/
def readTable? (args : List String) : Option (String × List MadePartition) := do
  let device ← args.getLast?
  let entries ← args.dropLast.foldlM MadePartition.readNext? []
  return (device, entries.reverse)

namespace PartitionPlan

variable (plan : PartitionPlan)

theorem not_mem_decimal {n : Nat} {c : Char} (h : isDigit c = false) : c ∉ (decimal n).toList := by
  rw [decimal, String.toList_ofList]
  intro mem
  rw [isDigit_of_mem_toDigits mem] at h
  cases h

theorem toList_numbered (flag value : String) : (plan.numbered flag value).toList =
    flag.toList ++ (['='] ++ ((decimal plan.number.toNat).toList ++ ([':'] ++ value.toList))) := by
  simp [numbered]

theorem readFlag?_numbered {flag : String} (plain : '=' ∉ flag.toList) (value : String) :
    readFlag? (plan.numbered flag value) = some (flag, plan.number, value.toList) := by
  have number : numeral? 4294967295 (decimal plan.number.toNat) = some plan.number.toNat :=
    numeral?_decimal (Nat.le_of_lt_succ plan.number.toNat_lt)
  rw [readFlag?, toList_numbered, divideChars_append_piece plain, Option.bind_eq_bind, Option.bind_some]
  simp only [divideChars_append_piece (not_mem_decimal (c := ':') (by decide)), String.ofList_toList,
    number, Option.bind_eq_bind, Option.bind_some, UInt32.ofNat_toNat]
  rfl

theorem readSize?_sizeText : readSize? ("0:" ++ plan.sizeText).toList = some plan.explicitSize := by
  have start : ("0:" ++ plan.sizeText).toList = ['0'] ++ ([':'] ++ plan.sizeText.toList) := by simp
  rw [readSize?, start, divideChars_append_piece (by decide)]
  rw [sizeText]
  cases explicit : plan.explicitSize with
  | none => rfl
  | some n =>
    have shape : (decimal n ++ "M").toList = (decimal n).toList ++ (['M'] ++ []) := by simp
    have sized : (decimal n).toList ++ (['M'] ++ []) ≠ ['0'] := by
      intro same
      have mem : 'M' ∈ ['0'] := same ▸ List.mem_append_right _ (List.mem_singleton_self 'M')
      exact absurd mem (by decide)
    simp only [shape, divideChars_append_piece (not_mem_decimal (c := 'M') (by decide)), if_neg sized,
      String.ofList_toList, numeral?_decimal (explicitSize_le explicit), Option.bind_eq_bind,
      Option.bind_some]
    rfl

theorem readNext?_new (entries : List MadePartition) :
    MadePartition.readNext? entries (plan.numbered "-n" ("0:" ++ plan.sizeText)) =
      some ({ number := plan.number, size := plan.explicitSize } :: entries) := by
  rw [MadePartition.readNext?, plan.readFlag?_numbered (by decide)]
  simp only [Option.bind_eq_bind, Option.bind_some, readSize?_sizeText, if_true]
  rfl

theorem readNext?_told {flag value : String} {newest told : MadePartition} (earlier : List MadePartition)
    (plain : '=' ∉ flag.toList) (other : flag ≠ "-n") (same : newest.number = plan.number)
    (h : newest.tell? flag value.toList = some told) :
    MadePartition.readNext? (newest :: earlier) (plan.numbered flag value) = some (told :: earlier) := by
  rw [MadePartition.readNext?, plan.readFlag?_numbered plain]
  simp only [Option.bind_eq_bind, Option.bind_some, if_neg other, if_pos same, h]
  rfl

theorem foldlM_flags (entries : List MadePartition) :
    plan.flags.foldlM MadePartition.readNext? entries = some (plan.inTable :: entries) := by
  have labelled : MadePartition.readNext?
      (⟨plan.number, plan.explicitSize, "", .linux, none⟩ :: entries) (plan.numbered "-c" plan.label) =
        some (⟨plan.number, plan.explicitSize, plan.label, .linux, none⟩ :: entries) :=
    plan.readNext?_told entries (by decide) (by decide) rfl (by simp [MadePartition.tell?])
  have typed : MadePartition.readNext?
      (⟨plan.number, plan.explicitSize, plan.label, .linux, none⟩ :: entries)
      (plan.numbered "-t" plan.gptType.code) =
        some (⟨plan.number, plan.explicitSize, plan.label, plan.gptType, none⟩ :: entries) :=
    plan.readNext?_told entries (by decide) (by decide) rfl
      (by simp [MadePartition.tell?, GptType.ofText?_code])
  have identified : (plan.guid.map (plan.numbered "-u")).toList.foldlM MadePartition.readNext?
      (⟨plan.number, plan.explicitSize, plan.label, plan.gptType, none⟩ :: entries) =
        some (plan.inTable :: entries) := by
    rw [inTable]
    cases plan.guid with
    | none => rfl
    | some guid =>
      rw [Option.map_some, Option.toList_some, List.foldlM_cons, plan.readNext?_told entries (by decide)
        (by decide) rfl rfl, String.ofList_toList]
      rfl
  simp only [flags, List.cons_append, List.nil_append, List.foldlM_cons, readNext?_new, labelled, typed,
    identified, Option.bind_eq_bind, Option.bind_some]

theorem foldlM_flatMap_flags (plans : List PartitionPlan) (entries : List MadePartition) :
    (plans.flatMap flags).foldlM MadePartition.readNext? entries =
      some ((plans.map inTable).reverse ++ entries) := by
  induction plans generalizing entries with
  | nil => rfl
  | cons plan rest ih =>
    rw [List.flatMap_cons, List.foldlM_append, foldlM_flags, Option.bind_eq_bind, Option.bind_some, ih,
      List.map_cons, List.reverse_cons, List.append_assoc, List.singleton_append]

end PartitionPlan

namespace DiskPlan

theorem args_tableCommand (disk : DiskPlan) :
    disk.tableCommand.args = disk.partitions.flatMap PartitionPlan.flags ++ [disk.device] := rfl

theorem readTable?_tableCommand (disk : DiskPlan) : readTable? disk.tableCommand.args =
    some (disk.device, disk.partitions.map PartitionPlan.inTable) := by
  rw [readTable?, args_tableCommand, List.getLast?_concat, List.dropLast_concat, Option.bind_eq_bind,
    Option.bind_some, PartitionPlan.foldlM_flatMap_flags, Option.bind_eq_bind, Option.bind_some,
    List.append_nil, List.reverse_reverse]
  rfl

/-- Plans make the same command just if they are for the same device and have the same partitions, one
by one, but for how the rest of the disk is asked for. -/
theorem tableCommand_eq_iff (disk other : DiskPlan) : disk.tableCommand = other.tableCommand ↔
    disk.device = other.device ∧
      List.Forall₂ PartitionPlan.Alike disk.partitions other.partitions := by
  have alike : List.Forall₂ PartitionPlan.Alike disk.partitions other.partitions ↔
      disk.partitions.map PartitionPlan.inTable = other.partitions.map PartitionPlan.inTable := by
    rw [← List.forall₂_eq_eq_eq, List.forall₂_map_left_iff, List.forall₂_map_right_iff]
    simp only [PartitionPlan.inTable_eq_iff]
  constructor
  · intro same
    have read := disk.readTable?_tableCommand
    rw [same, other.readTable?_tableCommand] at read
    obtain ⟨device, entries⟩ := Prod.mk.inj (Option.some.inj read)
    exact ⟨device.symm, alike.2 entries.symm⟩
  · rintro ⟨device, partitions⟩
    rw [tableCommand, tableCommand, device, PartitionPlan.flatMap_flags_of_alike partitions]

end DiskPlan

/-- The arguments that make partitions; the last one names the device, whatever it looks like. -/
def newPartitions (args : List String) : List String := args.dropLast.filter (startsWith "-n=")

def newPartition (number mib : Nat) : String :=
  "-n=" ++ decimal number ++ ":0:" ++ if mib = 0 then "0" else decimal mib ++ "M"

namespace PartitionPlan

def mib (plan : PartitionPlan) : Nat := plan.explicitSize.getD 0

theorem IsSized.mib_pos {plan : PartitionPlan} (h : plan.IsSized) : 1 ≤ plan.mib := by
  obtain ⟨size, given, positive⟩ := h
  have explicit : plan.explicitSize = some size.toInt.toNat :=
    explicitSize_eq_some_iff.2 ⟨size, given, positive, by omega⟩
  rw [mib, explicit, Option.getD_some]
  exact explicitSize_pos explicit

theorem numbered_size (plan : PartitionPlan) :
    plan.numbered "-n" ("0:" ++ plan.sizeText) = newPartition plan.number.toNat plan.mib := by
  have size : plan.sizeText = if plan.mib = 0 then "0" else decimal plan.mib ++ "M" := by
    rw [sizeText, mib]
    cases explicit : plan.explicitSize with
    | none => rfl
    | some n => exact (if_neg (Nat.one_le_iff_ne_zero.1 (explicitSize_pos explicit))).symm
  rw [newPartition, ← size, ← String.toList_inj]
  simp [numbered]

theorem filter_flags (plan : PartitionPlan) : plan.flags.filter (startsWith "-n=") =
    [newPartition plan.number.toNat plan.mib] := by
  have own : startsWith "-n=" (plan.numbered "-n" ("0:" ++ plan.sizeText)) = true := by
    rw [startsWith, toList_numbered]
    rfl
  have others : ∀ flag ∈ ["-c", "-t", "-u"], ∀ value,
      ¬ startsWith "-n=" (plan.numbered flag value) = true := by
    intro flag mem value
    rw [startsWith, toList_numbered, Bool.not_eq_true]
    simp only [List.mem_cons, List.not_mem_nil, or_false] at mem
    rcases mem with rfl | rfl | rfl <;> rfl
  have guid : ∀ arg ∈ (plan.guid.map (plan.numbered "-u")).toList, ¬ startsWith "-n=" arg = true := by
    intro arg mem
    obtain ⟨guid, -, rfl⟩ := Option.map_eq_some_iff.1 (Option.mem_toList.1 mem)
    exact others "-u" (by decide) guid
  rw [flags, List.filter_append, List.filter_eq_nil_iff.2 guid, List.append_nil,
    List.filter_cons_of_pos own, List.filter_cons_of_neg (others "-c" (by decide) _),
    List.filter_cons_of_neg (others "-t" (by decide) _), List.filter_nil, numbered_size]

end PartitionPlan

theorem newPartitions_tableCommand (disk : DiskPlan) : newPartitions disk.tableCommand.args =
    disk.partitions.map fun plan => newPartition plan.number.toNat plan.mib := by
  rw [newPartitions, DiskPlan.args_tableCommand, List.dropLast_concat, List.filter_flatMap]
  simp only [PartitionPlan.filter_flags]
  exact List.flatMap_pure_eq_map _ _

/-- Arguments that make partitions of these numbers and sizes in MiB: each number is there once, and only
the last partition can be without a size. -/
structure Makes (args : List String) (made : List (Nat × Nat)) : Prop where
  arguments : newPartitions args = made.map fun (number, mib) => newPartition number mib
  distinct : (made.map Prod.fst).Nodup
  numbered : ∀ partition ∈ made, 1 ≤ partition.1
  sized : ∀ partition ∈ made.dropLast, 1 ≤ partition.2

theorem DiskPlan.Valid.makes {disk : DiskPlan} (valid : disk.Valid) :
    Makes disk.tableCommand.args
      (disk.partitions.map fun plan => (plan.number.toNat, plan.mib)) where
  arguments := by
    rw [newPartitions_tableCommand, List.map_map]
    rfl
  distinct := by
    have distinct := List.Nodup.map (fun _ _ => UInt32.toNat_inj.1) valid.partitions.distinct
    rw [List.map_map] at distinct ⊢
    exact distinct
  numbered := List.forall_mem_map.2 valid.partitions.numbered
  sized := by
    rw [← List.map_dropLast]
    exact List.forall_mem_map.2 fun plan mem => (valid.sized plan mem).mib_pos

/-- The command that makes a partition table tells which table that is: the device and the partitions
are read back from its arguments, so it is the command of no other table. In an accepted layout the
partitions that it makes have numbers of their own, and only the last can be without a size. Whether
old signatures are wiped first is said by another command. -/
theorem table_read_from_command :
    (∀ disk : DiskPlan,
      readTable? disk.tableCommand.args =
        some (disk.device, disk.partitions.map PartitionPlan.inTable) ∧
      ∀ plan ∈ disk.partitions, ∀ size, plan.inTable.size = some size → 1 ≤ size) ∧
    (∀ disk other : DiskPlan, disk.tableCommand = other.tableCommand ↔
      disk.device = other.device ∧
        List.Forall₂ PartitionPlan.Alike disk.partitions other.partitions) ∧
    ∀ layout : Layout, layout.validate = .ok () → ∀ disk ∈ layout.disks,
      ∃ made, Makes disk.tableCommand.args made := by
  refine ⟨fun disk => ⟨disk.readTable?_tableCommand, fun plan _ size given => ?_⟩,
    DiskPlan.tableCommand_eq_iff, fun layout accepted disk mem => ?_⟩
  · exact PartitionPlan.explicitSize_pos given
  · have valid := layout.fault?_spec.1 (layout.validate_eq_ok_iff.1 accepted)
    exact ⟨_, (valid.disks disk mem).makes⟩

def bootAndRest : DiskPlan :=
  { device := "/dev/sda",
    partitions :=
      [{ number := 1, label := "EFI", sizeMib := some 512, gptType := .boot },
        { number := 2, label := "-n=1:0:64M", gptType := .linux }] }

theorem table_read_from_command_of_bootAndRest :
    readTable? bootAndRest.tableCommand.args =
      some ("/dev/sda", [⟨1, some 512, "EFI", .boot, none⟩, ⟨2, none, "-n=1:0:64M", .linux, none⟩]) ∧
    { bootAndRest with partitions := bootAndRest.partitions.take 1 }.tableCommand ≠
      bootAndRest.tableCommand ∧
    ∃ made, Makes bootAndRest.tableCommand.args made := by
  obtain ⟨read, same, made⟩ := table_read_from_command
  refine ⟨(read bootAndRest).1, fun h => ?_,
    made { disks := [bootAndRest] } (by decide) bootAndRest (List.mem_singleton_self _)⟩
  have lengths := ((same _ _).1 h).2.length_eq
  exact absurd lengths (by decide)

end NodeStorage
