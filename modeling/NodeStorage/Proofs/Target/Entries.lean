import NodeStorage.Proofs.Files.WriteBack
import NodeStorage.Proofs.Run.Demand

/-! The texts of the mount table and of the disk descriptor, their entries on a machine that reports
the same identifier of a device whenever it is asked, and what writing both demands: the identifier of
every filesystem they name, and nothing once a file is to be written. -/

namespace NodeStorage

open Text

namespace TableEntry

def written (entry : TableEntry) : String :=
  entry.spec ++ " " ++ entry.mountPath ++ " " ++ entry.type ++ " " ++ entry.options ++ " " ++
    decimal entry.dump ++ " " ++ decimal entry.pass ++ "\n"

theorem toList_written (entry : TableEntry) : entry.written.toList = entry.line.toList ++ ['\n'] := by
  simp [written, line, toList_joined, List.intercalate]

end TableEntry

def writtenLines : List TableEntry → String
  | [] => ""
  | entry :: rest => entry.written ++ writtenLines rest

/-- The mount table: a line that names its author, then the lines of the entries. -/
def writtenTable (entries : List TableEntry) : String :=
  "# created by provision-sys 0.1.0\n" ++ writtenLines entries

theorem toList_writtenLines (entries : List TableEntry) :
    (writtenLines entries).toList = entries.flatMap fun entry => entry.line.toList ++ ['\n'] := by
  induction entries with
  | nil => rfl
  | cons entry rest ih =>
    rw [writtenLines, String.toList_append, ih, entry.toList_written, List.flatMap_cons]

theorem tableText_eq_writtenTable : tableText = writtenTable := by
  funext entries
  apply String.toList_inj.1
  unfold tableText tableHeader writtenTable
  simp [toList_writtenLines, List.flatMap_map]

namespace DescriptorEntry

theorem writtenText_of_plain {s : String} (h : s.toList.all fun c => Json.writtenChar c == [c]) :
    Json.writtenText s = '"' :: s.toList ++ ['"'] := by
  have same : s.toList.flatMap Json.writtenChar = s.toList.flatMap fun c => [c] :=
    List.flatMap_congr fun c mem => eq_of_beq (List.all_eq_true.1 h c mem)
  rw [Json.writtenText, same, List.flatMap_singleton']

def written (entry : DescriptorEntry) : String :=
  let quoted (s : String) : String := .ofList (Json.writtenText s)
  "  \x7b\n    \"label\": " ++ quoted entry.label ++ ",\n    \"device\": " ++ quoted entry.device ++
    ",\n    \"format\": " ++ quoted entry.format.text ++ ",\n    \"uuid\": " ++ quoted entry.uuid ++
    "\n  \x7d"

theorem toList_written (entry : DescriptorEntry) :
    entry.written.toList = ' ' :: ' ' :: Json.printed 1 entry.document := by
  have label := writtenText_of_plain (s := "label") (by decide)
  have device := writtenText_of_plain (s := "device") (by decide)
  have format := writtenText_of_plain (s := "format") (by decide)
  have uuid := writtenText_of_plain (s := "uuid") (by decide)
  unfold written document
  simp [Json.printed, Json.laterFields, label, device, format, uuid,
    Json.newLine, Json.indent, List.replicate]

end DescriptorEntry

def laterEntries : List DescriptorEntry → String
  | [] => ""
  | entry :: rest => ",\n" ++ entry.written ++ laterEntries rest

/-- The disk descriptor: the entries in brackets, with a comma between two. -/
def writtenDescriptor : List DescriptorEntry → String
  | [] => "[]"
  | first :: rest => "[\n" ++ first.written ++ laterEntries rest ++ "\n]"

theorem toList_laterEntries (entries : List DescriptorEntry) :
    (laterEntries entries).toList =
      Json.laterItems 1 (entries.map DescriptorEntry.document) := by
  induction entries with
  | nil => rw [List.map_nil, Json.laterItems]; rfl
  | cons entry rest ih =>
    rw [laterEntries, String.toList_append, String.toList_append, ih, entry.toList_written,
      List.map_cons, Json.laterItems]
    rfl

theorem descriptorText_eq_writtenDescriptor : descriptorText = writtenDescriptor := by
  funext entries
  apply String.toList_inj.1
  unfold descriptorText Json.pretty
  rw [String.toList_ofList]
  cases entries with
  | nil =>
    rw [List.map_nil, Json.printed]
    rfl
  | cons first rest =>
    simp [Json.printed, writtenDescriptor, first.toList_written, toList_laterEntries, Json.newLine,
      Json.indent]

/-- The machine answers a look at a device in the same way whatever came before. -/
def Machine.SteadyLooks (m : Machine) (answer : String → Except Failure Output) : Prop :=
  ∀ history device, m.run history (Properties.command device) = answer device

def Reports (answer : String → Except Failure Output) (uuid : String → String) (device : String) :
    Prop :=
  foundUuid device (answer device) = .ok (uuid device)

def reportedUuid (answer : String → Except Failure Output) (device : String) : String :=
  match foundUuid device (answer device) with
  | .ok uuid => uuid
  | .error _ => ""

namespace FilesystemPlan

def spec (uuid : String → String) (plan : FilesystemPlan) : String :=
  if plan.format = .tmpfs then "tmpfs" else "UUID=" ++ uuid plan.device

def entry (uuid : String → String) (plan : FilesystemPlan) : TableEntry :=
  plan.entryWith (plan.spec uuid)

def description (uuid : String → String) (plan : FilesystemPlan) : DescriptorEntry :=
  ⟨plan.label, plan.device, plan.format, uuid plan.device⟩

theorem isDescribed_eq (plan : FilesystemPlan) : plan.isDescribed =
    decide (plan.label ∈ ["root", "efi", "varlib"] ∧ plan.format ≠ .tmpfs ∧
      plan.format ≠ .untouched) := by
  rw [isDescribed, DescriptorEntry.isRecordedLabel, Bool.decide_and, Bool.decide_and,
    ← Bool.and_assoc, List.contains_eq_mem]
  congr 2
  · exact decide_not.symm
  · exact decide_not.symm

end FilesystemPlan

variable {m : Machine} {w w' : World} {answer : String → Except Failure Output}

theorem Step.forall₂_of_forEach {α β : Type} {f : α → Step β} {R : α → β → Prop}
    (each : ∀ a b w w', f a m w = (.ok b, w') → R a b) {items : List α} {bs : List β}
    (h : Step.forEach f items m w = (.ok bs, w')) : List.Forall₂ R items bs := by
  induction items generalizing w w' bs with
  | nil =>
    cases h
    exact .nil
  | cons a rest ih =>
    rw [Step.forEach_cons] at h
    obtain ⟨b, between, first, h⟩ := Step.exists_of_bind_eq_ok h
    obtain ⟨others, after, later, h⟩ := Step.exists_of_bind_eq_ok h
    cases h
    exact .cons (each a b _ _ first) (ih later)

theorem eq_map_of_forall₂ {α β : Type} {g : α → β} {P : α → Prop} {items : List α} {bs : List β}
    (h : List.Forall₂ (fun a b => b = g a ∧ P a) items bs) : bs = items.map g ∧ ∀ a ∈ items, P a := by
  induction h with
  | nil => exact ⟨rfl, nofun⟩
  | cons own _ ih =>
    obtain ⟨rfl, holds⟩ := own
    obtain ⟨rfl, all⟩ := ih
    exact ⟨rfl, List.forall_mem_cons.2 ⟨holds, all⟩⟩

theorem forall_of_forall₂ {α β : Type} {P : β → Prop} {items : List α} {bs : List β}
    (h : List.Forall₂ (fun _ b => P b) items bs) : ∀ b ∈ bs, P b := by
  induction h with
  | nil => exact nofun
  | cons own _ ih => exact List.forall_mem_cons.2 ⟨own, ih⟩

theorem reports_of_lookUpUuid (steady : m.SteadyLooks answer) {device uuid : String}
    (h : lookUpUuid device m w = (.ok uuid, w')) :
    uuid = reportedUuid answer device ∧ Reports answer (reportedUuid answer) device := by
  rw [lookUpUuid_apply, steady] at h
  have found := (Prod.mk.inj h).1
  unfold Reports reportedUuid
  rw [found]
  exact ⟨rfl, rfl⟩

namespace FilesystemPlan

theorem entryWith_of_tableEntry {plan : FilesystemPlan} {entry : TableEntry}
    (h : plan.tableEntry m w = (.ok entry, w')) :
    ∃ spec, entry = plan.entryWith spec ∧ (spec = "tmpfs" ∨ ∃ uuid, spec = "UUID=" ++ uuid) := by
  unfold tableEntry at h
  by_cases memory : plan.format = .tmpfs
  · rw [if_pos memory, memory] at h
    cases h
    exact ⟨_, rfl, .inl rfl⟩
  · rw [if_neg memory] at h
    obtain ⟨uuid, between, -, h⟩ := Step.exists_of_bind_eq_ok h
    cases h
    exact ⟨_, rfl, .inr ⟨uuid, rfl⟩⟩

theorem eq_entry_of_tableEntry (steady : m.SteadyLooks answer) {plan : FilesystemPlan}
    {entry : TableEntry} (h : plan.tableEntry m w = (.ok entry, w')) :
    entry = plan.entry (reportedUuid answer) ∧
      (plan.format ≠ .tmpfs → Reports answer (reportedUuid answer) plan.device) := by
  unfold tableEntry at h
  by_cases memory : plan.format = .tmpfs
  · rw [if_pos memory] at h
    cases h
    refine ⟨?_, fun other => absurd memory other⟩
    rw [FilesystemPlan.entry, spec, if_pos memory, memory]
    rfl
  · rw [if_neg memory] at h
    obtain ⟨uuid, between, looked, h⟩ := Step.exists_of_bind_eq_ok h
    obtain ⟨rfl, reports⟩ := reports_of_lookUpUuid steady looked
    cases h
    rw [FilesystemPlan.entry, spec, if_neg memory]
    exact ⟨rfl, fun _ => reports⟩

theorem eq_description_of_descriptorEntry (steady : m.SteadyLooks answer) {plan : FilesystemPlan}
    {entry : DescriptorEntry} (h : plan.descriptorEntry m w = (.ok entry, w')) :
    entry = plan.description (reportedUuid answer) ∧
      Reports answer (reportedUuid answer) plan.device := by
  obtain ⟨uuid, between, looked, h⟩ := Step.exists_of_bind_eq_ok h
  obtain ⟨rfl, reports⟩ := reports_of_lookUpUuid steady looked
  cases h
  exact ⟨rfl, reports⟩

end FilesystemPlan

theorem eq_entries_of_writeTable (steady : m.SteadyLooks answer) {plans : List FilesystemPlan}
    {path : Path} {table : List TableEntry} (h : writeTable plans path m w = (.ok table, w')) :
    table = plans.map (FilesystemPlan.entry (reportedUuid answer)) ∧
      ∀ plan ∈ plans, plan.format ≠ .tmpfs → Reports answer (reportedUuid answer) plan.device := by
  obtain ⟨entries, looked, made, h⟩ := Step.exists_of_bind_eq_ok h
  obtain ⟨⟨⟩, written, -, h⟩ := Step.exists_of_bind_eq_ok h
  cases h
  refine eq_map_of_forall₂ (Step.forall₂_of_forEach ?_ made)
  intro plan entry w w' one
  exact FilesystemPlan.eq_entry_of_tableEntry steady (Step.eq_ok_of_naming one)

theorem eq_descriptions_of_writeDescriptor (steady : m.SteadyLooks answer)
    {plans : List FilesystemPlan} {path : Path} {descriptor : List DescriptorEntry}
    (h : writeDescriptor plans path m w = (.ok descriptor, w')) :
    descriptor = (plans.filter FilesystemPlan.isDescribed).map
        (FilesystemPlan.description (reportedUuid answer)) ∧
      ∀ plan ∈ plans.filter FilesystemPlan.isDescribed,
        Reports answer (reportedUuid answer) plan.device := by
  obtain ⟨entries, looked, made, h⟩ := Step.exists_of_bind_eq_ok h
  obtain ⟨⟨⟩, written, -, h⟩ := Step.exists_of_bind_eq_ok h
  cases h
  refine eq_map_of_forall₂ (Step.forall₂_of_forEach ?_ made)
  intro plan entry w w' one
  exact FilesystemPlan.eq_description_of_descriptorEntry steady one

theorem Step.writeText_carries (path : Path) (content : String) :
    (writeText path content).Carries True m w [] := by
  unfold writeText
  refine carries_bind_silent ?_ fun r w' => ?_
  · exact carries_of_ok (ensures_tryWriteText fun r _ => ⟨rfl, r, rfl⟩)
  · cases r with
    | ok _ => exact carries_pure ()
    | error fault => exact carries_of_silent trivial (ensures_fail rfl)

theorem writeFile_carries (path : Path) (content : String) :
    (writeFile path content).Carries True m w [] := by
  unfold writeFile
  refine Step.carries_naming ?_ _
  cases path.parent? with
  | none => exact Step.writeText_carries path content
  | some parent =>
    refine Step.carries_bind_silent ?_ fun _ w' => Step.writeText_carries path content
    exact Step.carries_of_silent trivial (Step.ensures_makeDirectories fun _ _ => rfl)

namespace FilesystemPlan

def tableDemands (plan : FilesystemPlan) : List Demand :=
  if plan.format = .tmpfs then [] else [.identifier plan.device]

def descriptorDemands (plan : FilesystemPlan) : List Demand := [.identifier plan.device]

theorem tableEntry_carries (plan : FilesystemPlan) :
    plan.tableEntry.Carries True m w plan.tableDemands := by
  unfold tableEntry tableDemands
  split
  · exact Step.carries_pure _
  · exact Step.carries_bind_pure (carries_lookUpUuid plan.device) _

theorem descriptorEntry_carries (plan : FilesystemPlan) :
    plan.descriptorEntry.Carries True m w plan.descriptorDemands :=
  Step.carries_bind_pure (carries_lookUpUuid plan.device) _

end FilesystemPlan

theorem writeTable_carries (plans : List FilesystemPlan) (path : Path) :
    (writeTable plans path).Carries True m w (plans.flatMap FilesystemPlan.tableDemands) := by
  unfold writeTable
  rw [← List.append_nil (plans.flatMap _)]
  refine Step.carries_bind (Step.carries_forEach
    (fun plan _ => Step.carries_naming plan.tableEntry_carries _) plans) fun entries w' _ => ?_
  refine Step.carries_bind_silent (writeFile_carries _ _) fun _ w'' => ?_
  exact Step.carries_bind_pure (Step.carries_note _) _

theorem writeDescriptor_carries (plans : List FilesystemPlan) (path : Path) :
    (writeDescriptor plans path).Carries True m w
      ((plans.filter FilesystemPlan.isDescribed).flatMap FilesystemPlan.descriptorDemands) := by
  unfold writeDescriptor
  rw [← List.append_nil (List.flatMap _ _)]
  refine Step.carries_bind (Step.carries_forEach
    (fun plan _ => plan.descriptorEntry_carries) _) fun entries w' _ => ?_
  refine Step.carries_bind_silent (writeFile_carries _ _) fun _ w'' => ?_
  exact Step.carries_bind_pure (Step.carries_note _) _

def sameUuid : Output := { stdout := "UUID=0b3d\n" }

def machineSameUuid : Machine := .ofAnswers (fun _ => .ok sameUuid) some

def emptyWorld : World where
  files := ⟨[], []⟩

end NodeStorage
