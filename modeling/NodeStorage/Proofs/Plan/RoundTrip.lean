import NodeStorage.Plan.Read
import NodeStorage.Plan.Written
import NodeStorage.Proofs.Files.WriteBack
import NodeStorage.Proofs.Json.RoundTrip

/-! Plans read back from the documents that they are written as, one kind of plan after the other from the
parts of a layout up to the layout, and layouts and disk descriptors read back from their JSON text,
whatever texts and numbers they hold. A name in a written document is one that is known, so none of them
is reported. -/

namespace NodeStorage

open Document Json

section Parts

variable {α : Type} {read : Document → Option α} {write : α → Document} {room : Nat}

theorem listOf?_map (back : ∀ a, read (write a) = some a) (items : List α) :
    listOf? read (.list (items.map write)) = some items := by
  have each : (items.map write).mapM read = some items := by
    induction items with
    | nil => rfl
    | cons a rest ih => simp [back, ih]
  exact each

theorem texts?_ofTexts (texts : List String) : texts? (ofTexts texts) = some texts := by
  have back : ∀ s, text? (.text s) = some s := fun _ => rfl
  exact listOf?_map back texts

theorem optional?_ofOption {β : Type} {read : Document → Option β} {f : α → β}
    (back : ∀ a, read (write a) = some (f a)) (present : ∀ a, write a ≠ .null) (value : Option α) :
    optional? read (ofOption write value) = .some (value.map f) := by
  cases value with
  | none => rfl
  | some a =>
    rw [ofOption, optional?, back]
    · rfl
    · exact present a

theorem natural?_of_le {greatest n : Nat} (h : n ≤ greatest) :
    natural? greatest (.integer n) = some n := by
  have fits : (0 : Int) ≤ n ∧ (n : Int) ≤ greatest := ⟨Int.natCast_nonneg n, Int.ofNat_le.2 h⟩
  rw [natural?, integer?, if_pos fits]
  rfl

theorem integer?_toInt (n : Int64) :
    integer? (-Nat.pow 2 63) (Nat.pow 2 63 - 1) (.integer n.toInt) = some n.toInt :=
  if_pos ⟨n.minValue_le_toInt, n.toInt_le⟩

theorem printable_map (each : ∀ a, Printable room (write a)) (items : List α) :
    Printable (room + 1) (.list (items.map write)) := by
  refine .list fun v mem => ?_
  obtain ⟨a, -, rfl⟩ := List.mem_map.1 mem
  exact each a

theorem printable_ofTexts (texts : List String) : Printable (room + 1) (ofTexts texts) :=
  printable_map .text texts

theorem printable_ofOption (each : ∀ a, Printable room (write a)) (value : Option α) :
    Printable room (ofOption write value) := by
  cases value with
  | none => exact .null
  | some a => exact each a

theorem printable_natural {n : Nat} (h : n < Nat.pow 2 64) : Printable room (.integer n) :=
  .integer (by omega) (Int.ofNat_lt.2 h)

end Parts

theorem PartitionPlan.ofDocument?_document (plan : PartitionPlan) :
    ofDocument? plan.document = some plan := by
  have number : natural? (Nat.pow 2 32 - 1) (.integer plan.number.toNat) = some plan.number.toNat :=
    natural?_of_le (Nat.le_pred_of_lt plan.number.toNat_lt)
  have size := optional?_ofOption integer?_toInt (fun _ => nofun) plan.sizeMib
  have gptType : gptType? (.text plan.gptType.code) = some plan.gptType := by
    rw [gptType?, text?, Option.bind_some, GptType.ofText?_code]
  have text : ∀ s, text? (.text s) = some (id s) := fun _ => rfl
  have guid := optional?_ofOption text (fun _ => nofun) plan.guid
  have same : (Int64.ofInt ∘ Int64.toInt) = id := funext Int64.ofInt_toInt
  simp [ofDocument?, document, slots?, named?_singleton, required, orElse, List.lookup_cons, text?, number,
    size, gptType, guid, same, -Nat.pow_eq]

theorem PartitionPlan.printable_document (plan : PartitionPlan) (room : Nat) :
    Printable (room + 1) plan.document := by
  have number : Printable room (.integer plan.number.toNat) :=
    printable_natural (Nat.lt_of_lt_of_le plan.number.toNat_lt (by decide))
  have size : Printable room (ofOption (.integer ·.toInt) plan.sizeMib) :=
    printable_ofOption (fun n => .integer n.minValue_le_toInt
      (Int.lt_of_le_of_lt n.toInt_le (by decide))) plan.sizeMib
  have guid : Printable room (ofOption .text plan.guid) := printable_ofOption .text plan.guid
  exact .record (by simp) (by simp [Printable.text, number, size, guid])

theorem DiskPlan.ofDocument?_document (plan : DiskPlan) : ofDocument? plan.document = some plan := by
  have partitions := listOf?_map PartitionPlan.ofDocument?_document plan.partitions
  have wipe : ∀ device partitions, named? [("device", device),
      ("wipe_on_reinstall", .bool plan.wipeOnReinstall), ("partitions", partitions)]
      ["wipe_on_reinstall", "Wipeonreinstall"] = some (some (.bool plan.wipeOnReinstall)) :=
    fun _ _ => rfl
  simp [ofDocument?, document, slots?, named?_singleton, wipe, required, orElse, List.lookup_cons, text?,
    bool?, partitions]

theorem DiskPlan.printable_document (plan : DiskPlan) (room : Nat) :
    Printable (room + 3) plan.document := by
  have partitions : Printable (room + 2) (.list (plan.partitions.map PartitionPlan.document)) :=
    printable_map (fun partition => partition.printable_document room) plan.partitions
  exact .record (by simp) (by simp [Printable.text, Printable.bool, partitions])

theorem ArrayPlan.ofDocument?_document (plan : ArrayPlan) : ofDocument? plan.document = some plan := by
  have spares : natural? greatestWord (.integer plan.spares.toNat) = some plan.spares.toNat :=
    natural?_of_le (Nat.le_pred_of_lt plan.spares.toNat_lt)
  simp [ofDocument?, document, slots?, named?_singleton, required, orElse, List.lookup_cons, text?,
    texts?_ofTexts, spares]

theorem ArrayPlan.printable_document (plan : ArrayPlan) (room : Nat) :
    Printable (room + 2) plan.document := by
  have spares : Printable (room + 1) (.integer plan.spares.toNat) := printable_natural plan.spares.toNat_lt
  exact .record (by simp) (by simp [Printable.text, printable_ofTexts, spares])

theorem VolumeGroupPlan.ofDocument?_document (plan : VolumeGroupPlan) :
    ofDocument? plan.document = some plan := by
  simp [ofDocument?, document, slots?, named?_singleton, required, orElse, List.lookup_cons, text?,
    texts?_ofTexts]

theorem VolumeGroupPlan.printable_document (plan : VolumeGroupPlan) (room : Nat) :
    Printable (room + 2) plan.document :=
  .record (by simp) (by simp [Printable.text, printable_ofTexts])

theorem LogicalVolumePlan.ofDocument?_document (plan : LogicalVolumePlan) :
    ofDocument? plan.document = some plan := by
  have word : ∀ n : UInt64, natural? greatestWord (.integer n.toNat) = some n.toNat :=
    fun n => natural?_of_le (Nat.le_pred_of_lt n.toNat_lt)
  have size := optional?_ofOption word (fun _ => nofun) plan.sizeMib
  have allocation : allocation? (.text plan.allocation.text) = some plan.allocation :=
    plan.allocation.ofText?_text
  have same : (UInt64.ofNat ∘ UInt64.toNat) = id := funext fun _ => UInt64.ofNat_toNat
  simp [ofDocument?, document, slots?, named?_singleton, required, orElse, List.lookup_cons, text?, size,
    allocation, same]

theorem LogicalVolumePlan.printable_document (plan : LogicalVolumePlan) (room : Nat) :
    Printable (room + 1) plan.document := by
  have size : Printable room (ofOption (fun size => .integer size.toNat) plan.sizeMib) :=
    printable_ofOption (fun n => printable_natural n.toNat_lt) plan.sizeMib
  exact .record (by simp) (by simp [Printable.text, size])

theorem FilesystemPlan.ofDocument?_document (plan : FilesystemPlan) :
    ofDocument? plan.document = some plan := by
  have format : format? (.text plan.format.text) = some plan.format := plan.format.ofText?_text
  simp [ofDocument?, document, slots?, named?_singleton, required, orElse, List.lookup_cons, text?,
    texts?_ofTexts, format]

theorem FilesystemPlan.printable_document (plan : FilesystemPlan) (room : Nat) :
    Printable (room + 2) plan.document :=
  .record (by simp) (by simp [Printable.text, printable_ofTexts])

theorem DescriptorEntry.ofDocument?_document (entry : DescriptorEntry) :
    ofDocument? entry.document = some entry := by
  have format : format? (.text entry.format.text) = some entry.format := entry.format.ofText?_text
  simp [ofDocument?, document, slots?, named?_singleton, required, List.lookup_cons, text?, format]

theorem DescriptorEntry.printable_document (entry : DescriptorEntry) (room : Nat) :
    Printable (room + 1) entry.document :=
  .record (by simp) (by simp [Printable.text])

namespace Layout

variable (layout : Layout)

theorem ofDocument?_document : ofDocument? layout.document = some layout := by
  have disks := listOf?_map DiskPlan.ofDocument?_document layout.disks
  have arrays := listOf?_map ArrayPlan.ofDocument?_document layout.arrays
  have groups := listOf?_map VolumeGroupPlan.ofDocument?_document layout.groups
  have volumes := listOf?_map LogicalVolumePlan.ofDocument?_document layout.volumes
  have filesystems := listOf?_map FilesystemPlan.ofDocument?_document layout.filesystems
  simp [ofDocument?, document, slots?, named?_singleton, orElse, List.lookup_cons, disks, arrays, groups,
    volumes, filesystems]

theorem printable_document (room : Nat) : Printable (room + 5) layout.document := by
  have disks : Printable (room + 4) (.list (layout.disks.map DiskPlan.document)) :=
    printable_map (fun plan => plan.printable_document room) layout.disks
  have arrays : Printable (room + 4) (.list (layout.arrays.map ArrayPlan.document)) :=
    printable_map (fun plan => plan.printable_document (room + 1)) layout.arrays
  have groups : Printable (room + 4) (.list (layout.groups.map VolumeGroupPlan.document)) :=
    printable_map (fun plan => plan.printable_document (room + 1)) layout.groups
  have volumes : Printable (room + 4) (.list (layout.volumes.map LogicalVolumePlan.document)) :=
    printable_map (fun plan => plan.printable_document (room + 2)) layout.volumes
  have filesystems : Printable (room + 4) (.list (layout.filesystems.map FilesystemPlan.document)) :=
    printable_map (fun plan => plan.printable_document (room + 1)) layout.filesystems
  exact .record (by simp) (by simp [disks, arrays, groups, volumes, filesystems])

theorem unsupported?_document : layout.document.unsupported? = none := by
  have formats : (layout.document.entries "filesystems").findSome?
      (unread? "format" FilesystemFormat.ofText?) = none := by
    simp [Document.entries, field?, items?, document, List.lookup_cons, unread?, FilesystemPlan.document,
      text?, FilesystemFormat.ofText?_text]
  have allocations : (layout.document.entries "logical_volumes").findSome?
      (unread? "allocation" Allocation.ofText?) = none := by
    simp [Document.entries, field?, items?, document, List.lookup_cons, unread?,
      LogicalVolumePlan.document, text?, Allocation.ofText?_text]
  have types : (layout.document.entries "disks").findSome? (fun disk =>
      (disk.entries "partitions").findSome? (unread? "gpt_type" GptType.ofText?)) = none := by
    simp [Document.entries, field?, items?, document, List.lookup_cons, unread?, DiskPlan.document,
      PartitionPlan.document, text?, GptType.ofText?_code]
  rw [unsupported?, formats, allocations, types]
  rfl

theorem ofDocument_document : ofDocument layout.document = .ok layout :=
  (ofDocument_eq_ok_iff _ _).2 ⟨layout.unsupported?_document, layout.ofDocument?_document⟩

end Layout

namespace Layout

variable (layout : Layout)

theorem ofJson_pretty_append {spaces : String} (after : ∀ c ∈ spaces.toList, isSpace c = true) :
    ofJson (layout.pretty ++ spaces) = .ok layout := by
  have read : Json.read? (layout.pretty ++ spaces) = some layout.document :=
    read?_pretty_append (layout.printable_document 122) after
  rw [ofJson, read]
  exact layout.ofDocument_document

end Layout

def readDescriptor? (text : String) : Option (List DescriptorEntry) :=
  (Json.read? text).bind (listOf? DescriptorEntry.ofDocument?)

theorem readDescriptor?_descriptorText (entries : List DescriptorEntry) :
    readDescriptor? (descriptorText entries) = some entries := by
  have printable : Printable deepest (.list (entries.map DescriptorEntry.document)) :=
    printable_map (fun entry => entry.printable_document 125) entries
  rw [readDescriptor?, descriptorText, read?_pretty printable]
  exact listOf?_map DescriptorEntry.ofDocument?_document entries

theorem readText_of_writeDescriptor {m : Machine} {w w' : World} {p : Path}
    {plans : List FilesystemPlan} {entries : List DescriptorEntry}
    (h : writeDescriptor plans p m w = (.ok entries, w')) :
    w'.files.readText p = .ok (descriptorText entries) := by
  obtain ⟨found, looked, -, h⟩ := Step.exists_of_bind_eq_ok h
  obtain ⟨⟨⟩, written, ran, h⟩ := Step.exists_of_bind_eq_ok h
  have read := FileTree.readText_of_readBytes (readBytes_of_writeFile ran)
  cases h
  exact read

/-- The text of a layout is read as the layout, as it is printed and as it is written, and the text of a
disk descriptor as its entries, which are also those that a run leaves in the file. -/
theorem plans_read_back (layout : Layout) (entries : List DescriptorEntry)
    (plans : List FilesystemPlan) (path : Path) (m : Machine) (w : World) :
    Layout.ofJson layout.pretty = .ok layout ∧ Layout.ofJson (layout.pretty ++ "\n") = .ok layout ∧
      readDescriptor? (descriptorText entries) = some entries ∧
      match writeDescriptor plans path m w with
      | (.ok written, after) => (after.files.readText path).map readDescriptor? = .ok (some written)
      | (.error _, _) => True := by
  refine ⟨?_, layout.ofJson_pretty_append (by simp [isSpace]), readDescriptor?_descriptorText entries, ?_⟩
  · have read : Layout.ofJson (layout.pretty ++ "") = .ok layout := layout.ofJson_pretty_append (by simp)
    rwa [String.append_empty] at read
  · split
    · next written after ran =>
      rw [readText_of_writeDescriptor ran]
      exact congrArg Except.ok (readDescriptor?_descriptorText written)
    · trivial

end NodeStorage
