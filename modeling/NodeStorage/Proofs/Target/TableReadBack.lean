import NodeStorage.Plan.Validity
import NodeStorage.Proofs.Target.Entries
import NodeStorage.Proofs.Target.TableReader

/-! What is read back from the mount table that was written. Each entry is written as one line, field by
field, and no field is escaped. -/

namespace NodeStorage

open Text

def TableEntry.fields (entry : TableEntry) : List (List UInt8) :=
  [entry.spec, entry.mountPath, entry.type, entry.options, decimal entry.dump,
    decimal entry.pass].map fun text => utf8 text.toList

/-- Those fields of the entry that the plan or the device determine are read as they are written. -/
def TableEntry.IsPlain (entry : TableEntry) : Prop :=
  ∀ text ∈ [entry.spec, entry.mountPath, entry.options], TableReader.Plain (utf8 text.toList)

namespace TableReader

instance (field : List UInt8) : Decidable (Plain field) :=
  decidable_of_iff
    (field.isEmpty = false ∧ field.all isSolid = true ∧ MountSources.unescapeBytes field = field)
    ⟨fun h => ⟨List.isEmpty_eq_false_iff.1 h.1, List.all_eq_true.1 h.2.1, h.2.2⟩,
      fun h => ⟨List.isEmpty_eq_false_iff.2 h.nonempty, List.all_eq_true.2 h.solid, h.unescaped⟩⟩

theorem plain_mountType (format : FilesystemFormat) : Plain (utf8 format.mountType.toList) := by
  cases format <;> decide +kernel

theorem plain_decimal_dump : Plain (utf8 (decimal 0).toList) := by decide +kernel

theorem plain_checkPass (plan : FilesystemPlan) : Plain (utf8 (decimal plan.checkPass).toList) := by
  unfold FilesystemPlan.checkPass
  split
  · decide +kernel
  · split <;> decide +kernel

end TableReader

instance (entry : TableEntry) : Decidable entry.IsPlain :=
  inferInstanceAs (Decidable (∀ text ∈ [entry.spec, entry.mountPath, entry.options], _))

theorem utf8_intercalate (between : List Char) (pieces : List (List Char)) :
    utf8 (between.intercalate pieces) = (utf8 between).intercalate (pieces.map utf8) := by
  induction pieces with
  | nil => rfl
  | cons piece rest ih =>
    cases rest with
    | nil => simp
    | cons next rest =>
      rw [List.intercalate_cons_cons, List.map_cons, List.map_cons, List.intercalate_cons_cons,
        ← List.map_cons, ← ih, utf8_append, utf8_append]

theorem utf8_line (entry : TableEntry) :
    utf8 entry.line.toList = [TableReader.space].intercalate entry.fields := by
  rw [TableEntry.line, toList_joined, utf8_intercalate]
  rfl

theorem rows_lines (lines : List String) :
    TableReader.rows (utf8 (lines.flatMap fun line => line.toList ++ ['\n'])) =
      lines.flatMap fun line => TableReader.rows (utf8 line.toList) := by
  induction lines with
  | nil => rfl
  | cons line rest ih =>
    rw [List.flatMap_cons, List.append_assoc, utf8_append, List.singleton_append, List.flatMap_cons,
      ← ih]
    exact TableReader.rows_append_newline _ _

theorem rows_tableText (entries : List TableEntry) :
    TableReader.rows (utf8 (tableText entries).toList) =
      entries.flatMap fun entry => TableReader.rows (utf8 entry.line.toList) := by
  have header : TableReader.rows (utf8 tableHeader.toList) = [] := by decide +kernel
  rw [tableText, String.toList_ofList, rows_lines, List.flatMap_cons, header, List.flatMap_map,
    List.nil_append]

theorem exists_head_of_spec {spec : String} (h : spec = "tmpfs" ∨ ∃ uuid, spec = "UUID=" ++ uuid) :
    ∃ b rest, utf8 spec.toList = b :: rest ∧ TableReader.isSolid b = true ∧
      b ≠ TableReader.numberSign := by
  rcases h with rfl | ⟨uuid, rfl⟩
  · exact ⟨0x74, _, rfl, rfl, by decide⟩
  · rw [String.toList_append, utf8_append]
    exact ⟨0x55, _, rfl, rfl, by decide⟩

def TableEntry.IsPlanned (entry : TableEntry) : Prop :=
  ∃ (plan : FilesystemPlan) (spec : String), entry = plan.entryWith spec ∧
    (spec = "tmpfs" ∨ ∃ uuid, spec = "UUID=" ++ uuid)

theorem rows_line_ne_nil {entry : TableEntry} (h : entry.IsPlanned) :
    TableReader.rows (utf8 entry.line.toList) ≠ [] := by
  obtain ⟨plan, spec, rfl, named⟩ := h
  obtain ⟨b, rest, begins, solid, field⟩ := exists_head_of_spec named
  have line : ∃ later, utf8 (plan.entryWith spec).line.toList = b :: later := by
    rw [utf8_line]
    exact ⟨_, congrArg (· ++ _) begins⟩
  obtain ⟨later, line⟩ := line
  rw [line]
  exact TableReader.rows_ne_nil solid field later

theorem rows_line_iff {entry : TableEntry} (h : entry.IsPlanned) :
    TableReader.rows (utf8 entry.line.toList) = [entry.fields] ↔ entry.IsPlain := by
  obtain ⟨plan, spec, rfl, named⟩ := h
  obtain ⟨b, rest, begins, -, field⟩ := exists_head_of_spec named
  have head : (utf8 (plan.entryWith spec).spec.toList).head? ≠ some TableReader.numberSign := by
    change (utf8 spec.toList).head? ≠ some TableReader.numberSign
    rw [begins]
    exact fun same => field (Option.some.inj same)
  have type := TableReader.plain_mountType plan.format
  have dump := TableReader.plain_decimal_dump
  have pass := TableReader.plain_checkPass plan
  rw [utf8_line, TableEntry.fields, List.map_cons, TableReader.rows_intercalate_iff head]
  simp only [List.map_cons, List.map_nil, List.forall_mem_cons, TableEntry.IsPlain]
  constructor
  · rintro ⟨spec, mountPath, -, options, -⟩
    exact ⟨spec, mountPath, options, nofun⟩
  · rintro ⟨spec, mountPath, options, -⟩
    exact ⟨spec, mountPath, type, options, dump, pass, nofun⟩

section Lists

variable {α β : Type} {f : α → List β} {g : α → β} {items : List α}

theorem length_le_length_flatMap (filled : ∀ a ∈ items, f a ≠ []) :
    items.length ≤ (items.flatMap f).length := by
  induction items with
  | nil => exact Nat.le_refl _
  | cons a rest ih =>
    obtain ⟨own, others⟩ := List.forall_mem_cons.1 filled
    have first := List.length_pos_iff.2 own
    have later := ih others
    rw [List.flatMap_cons, List.length_append, List.length_cons]
    omega

theorem flatMap_eq_map_iff (filled : ∀ a ∈ items, f a ≠ []) :
    items.flatMap f = items.map g ↔ ∀ a ∈ items, f a = [g a] := by
  induction items with
  | nil => simp
  | cons a rest ih =>
    obtain ⟨own, others⟩ := List.forall_mem_cons.1 filled
    rw [List.flatMap_cons, List.map_cons, List.forall_mem_cons, ← ih others]
    constructor
    · -- If the first list held more than one value, too few would be left for the others.
      intro same
      have count := congrArg List.length same
      rw [List.length_append, List.length_cons, List.length_map] at count
      have later := length_le_length_flatMap others
      obtain ⟨b, more, first⟩ := List.exists_cons_of_ne_nil own
      rw [first, List.length_cons] at count
      have single : more = [] := List.eq_nil_of_length_eq_zero (by omega)
      rw [first, single] at same ⊢
      obtain ⟨rfl, rest⟩ := List.cons.inj same
      exact ⟨rfl, rest⟩
    · rintro ⟨first, later⟩
      rw [first, later]
      rfl

end Lists

theorem isPlanned_of_writeTable {m : Machine} {w w' : World} {plans : List FilesystemPlan}
    {path : Path} {entries : List TableEntry} (h : writeTable plans path m w = (.ok entries, w')) :
    (∀ entry ∈ entries, entry.IsPlanned) ∧
      w'.files.readBytes path = .ok (utf8 (tableText entries).toList) := by
  obtain ⟨made, looked, each, h⟩ := Step.exists_of_bind_eq_ok h
  obtain ⟨⟨⟩, written, ran, h⟩ := Step.exists_of_bind_eq_ok h
  have read := readBytes_of_writeFile ran
  cases h
  refine ⟨forall_of_forall₂ (Step.forall₂_of_forEach ?_ each), read⟩
  intro plan entry w w' one
  exact ⟨plan, plan.entryWith_of_tableEntry (Step.eq_ok_of_naming one)⟩

/-- The mount table that is written is read back as its entries, with all their fields, if and only if
the fields are plain. -/
theorem readBack_iff_plain {m : Machine} {w w' : World} {plans : List FilesystemPlan} {path : Path}
    {entries : List TableEntry} (h : writeTable plans path m w = (.ok entries, w')) :
    ∃ bytes, w'.files.readBytes path = .ok bytes ∧
      (TableReader.rows bytes = entries.map TableEntry.fields ↔ ∀ entry ∈ entries, entry.IsPlain) := by
  obtain ⟨planned, read⟩ := isPlanned_of_writeTable h
  refine ⟨_, read, ?_⟩
  rw [rows_tableText, flatMap_eq_map_iff fun entry mem => rows_line_ne_nil (planned entry mem)]
  exact forall₂_congr fun entry mem => rows_line_iff (planned entry mem)

def rootEntry : TableEntry := ⟨"UUID=0b3d", "/", "ext4", "noatime", 0, 1⟩

theorem readBack_iff_plain_rootEntry :
    ∃ w' bytes, writeTable [⟨"/dev/sda2", .ext4, "/", "root", ["noatime"], []⟩] ⟨"/etc/fstab"⟩
        machineSameUuid emptyWorld = (.ok [rootEntry], w') ∧
      w'.files.readBytes ⟨"/etc/fstab"⟩ = .ok bytes ∧
        TableReader.rows bytes = [rootEntry].map TableEntry.fields := by
  have written : writeTable [⟨"/dev/sda2", .ext4, "/", "root", ["noatime"], []⟩] ⟨"/etc/fstab"⟩
      machineSameUuid emptyWorld = (.ok [rootEntry], _) := Prod.ext (by decide +kernel) rfl
  obtain ⟨bytes, read, plain⟩ := readBack_iff_plain written
  exact ⟨_, bytes, written, read, plain.2 (by decide +kernel)⟩

def spacedLayout : Layout where
  filesystems := [⟨"/dev/sda2", .ext4, "/srv/my data", "", [], []⟩]

def spacedEntry : TableEntry := ⟨"UUID=0b3d", "/srv/my data", "ext4", "defaults", 0, 2⟩

/-- A valid layout whose mount table is not read back: its line has seven fields. -/
theorem spaced_not_read_back :
    spacedLayout.validate = .ok () ∧ ∃ w' bytes,
      writeTable spacedLayout.filesystems ⟨"/etc/fstab"⟩ machineSameUuid emptyWorld =
        (.ok [spacedEntry], w') ∧ w'.files.readBytes ⟨"/etc/fstab"⟩ = .ok bytes ∧
      TableReader.rows bytes ≠ [spacedEntry].map TableEntry.fields ∧
      (TableReader.rows bytes).map List.length = [7] :=
  ⟨by decide +kernel, _, utf8 (tableText [spacedEntry]).toList, Prod.ext (by decide +kernel) rfl,
    by decide +kernel, by decide +kernel, by decide +kernel⟩

end NodeStorage
