import NodeStorage.Plan.Read
import NodeStorage.Proofs.Json.RoundTrip

/-! Names in a document that name no format, no allocation and no partition type. They stand where
the decoder looks for one, in a record under its name or in a list at its position. A document with
such a name is no layout; it is reported as unsupported if it stands in records all the way, and not
told from any other fault of the document if a list is on the way. -/

namespace NodeStorage

open Document Json

namespace Document

/-- Where a field is looked for: by its name, or also at its position in a list. -/
abbrev Lookup : Type := String → Nat → Document → Option Document

def byName : Lookup := fun key _ v => v.field? key

def declared? : Lookup
  | key, _, .record fields => fields.lookup key
  | _, position, .list items => items[position]?
  | _, _, _ => none

section Lookup

variable (look : Lookup)

def itemsAt (key : String) (position : Nat) (v : Document) : List Document :=
  ((look key position v).bind items?).getD []

def unknownAt {α : Type} (key : String) (position : Nat) (read : String → Option α) (v : Document) :
    Option String :=
  ((look key position v).bind text?).bind fun s => if (read s).isNone then some s else none

def unknownFormats (v : Document) : List String :=
  (itemsAt look "filesystems" 4 v).filterMap (unknownAt look "format" 1 FilesystemFormat.ofText?)

def unknownAllocations (v : Document) : List String :=
  (itemsAt look "logical_volumes" 3 v).filterMap (unknownAt look "allocation" 3 Allocation.ofText?)

def unknownTypes (v : Document) : List String :=
  (itemsAt look "disks" 0 v).flatMap fun disk =>
    (itemsAt look "partitions" 2 disk).filterMap (unknownAt look "gpt_type" 3 GptType.ofText?)

/-- All names in a document that name nothing: formats first, then allocations, then partition
types. -/
def unknownNames (v : Document) : List LayoutFault :=
  (unknownFormats look v).map .unsupportedFormat ++
    (unknownAllocations look v).map .unsupportedAllocation ++
    (unknownTypes look v).map .unsupportedGptType

end Lookup

theorem unsupported?_eq_head? (v : Document) : v.unsupported? = (unknownNames byName v).head? := by
  have formats : (unknownFormats byName v).head? =
      (v.entries "filesystems").findSome? (unread? "format" FilesystemFormat.ofText?) :=
    List.head?_filterMap
  have allocations : (unknownAllocations byName v).head? =
      (v.entries "logical_volumes").findSome? (unread? "allocation" Allocation.ofText?) :=
    List.head?_filterMap
  have types : (unknownTypes byName v).head? = (v.entries "disks").findSome? fun disk =>
      (disk.entries "partitions").findSome? (unread? "gpt_type" GptType.ofText?) := by
    rw [unknownTypes, List.head?_flatMap]
    simp only [List.head?_filterMap]
    rfl
  rw [unsupported?, unknownNames, List.head?_append, List.head?_append, List.head?_map, List.head?_map,
    List.head?_map, formats, allocations, types, Option.or_assoc]
  simp only [Option.orElse_eq_orElse, Option.orElse_eq_or]

section Subset

variable {key : String} {position : Nat} {v : Document}

theorem itemsAt_byName_subset :
    itemsAt byName key position v ⊆ itemsAt declared? key position v := by
  cases v with
  | record fields => exact List.Subset.refl _
  | _ => exact List.nil_subset _

theorem unknownAt_of_byName {α : Type} {read : String → Option α} {s : String}
    (h : unknownAt byName key position read v = some s) :
    unknownAt declared? key position read v = some s := by
  cases v with
  | record fields => exact h
  | _ => cases h

theorem unknown_byName_subset {α : Type} {read : String → Option α} {items items' : List Document}
    (h : items ⊆ items') : items.filterMap (unknownAt byName key position read) ⊆
      items'.filterMap (unknownAt declared? key position read) := by
  intro s mem
  obtain ⟨item, inside, unknown⟩ := List.mem_filterMap.1 mem
  exact List.mem_filterMap.2 ⟨item, h inside, unknownAt_of_byName unknown⟩

end Subset

theorem unknownNames_byName_subset (v : Document) :
    unknownNames byName v ⊆ unknownNames declared? v := by
  have formats : unknownFormats byName v ⊆ unknownFormats declared? v :=
    unknown_byName_subset itemsAt_byName_subset
  have allocations : unknownAllocations byName v ⊆ unknownAllocations declared? v :=
    unknown_byName_subset itemsAt_byName_subset
  have types : unknownTypes byName v ⊆ unknownTypes declared? v := by
    intro s mem
    obtain ⟨disk, inside, unknown⟩ := List.mem_flatMap.1 mem
    exact List.mem_flatMap.2 ⟨disk, itemsAt_byName_subset inside,
      unknown_byName_subset itemsAt_byName_subset unknown⟩
  intro fault mem
  simp only [unknownNames, List.mem_append] at mem ⊢
  exact mem.imp (Or.imp (List.map_subset _ formats ·) (List.map_subset _ allocations ·))
    (List.map_subset _ types ·)

theorem exists_of_mapM {α β : Type} {f : α → Option β} {items : List α} {results : List β}
    (h : items.mapM f = some results) {i : Nat} {a : α} (there : items[i]? = some a) :
    ∃ b, f a = some b ∧ results[i]? = some b := by
  induction items generalizing results i with
  | nil => cases there
  | cons first rest ih =>
    rw [List.mapM_cons] at h
    obtain ⟨b, own, h⟩ := Option.bind_eq_some_iff.1 h
    obtain ⟨others, later, h⟩ := Option.bind_eq_some_iff.1 h
    cases h
    cases i with
    | zero =>
      cases there
      exact ⟨b, own, rfl⟩
    | succ i => exact ih later there

theorem slots?_getElem? {fields : List (List String)} {v : Document} {slots : List (Option Document)}
    (h : v.slots? fields = some slots) (key : String) (position : Nat)
    (there : fields[position]? = some [key]) :
    slots[position]? = some (declared? key position v) := by
  cases v with
  | record values =>
    obtain ⟨slot, filled, own⟩ := exists_of_mapM h there
    rw [named?_singleton] at filled
    rw [own, ← filled]
    rfl
  | list items =>
    rw [slots?] at h
    split at h
    · cases h
      have inside : position < fields.length := (List.getElem?_eq_some_iff.1 there).1
      rw [listed, List.getElem?_append, List.length_map, List.getElem?_map, List.getElem?_replicate]
      split
      · next filled =>
        rw [declared?, List.getElem?_eq_getElem filled]
        rfl
      · next absent =>
        have behind := Nat.le_of_not_lt absent
        rw [if_pos (Nat.sub_lt_sub_right behind inside), declared?, List.getElem?_eq_none behind]
    · cases h
  | _ => cases h

section Known

variable {key : String} {position : Nat} {v : Document}

theorem unknownAt_eq_none {α : Type} {read : String → Option α}
    (known : ∀ x, declared? key position v = some x → ∃ a, x.text?.bind read = some a) :
    unknownAt declared? key position read v = none := by
  rw [unknownAt]
  cases value : declared? key position v with
  | none => rfl
  | some x =>
    obtain ⟨a, known⟩ := known x value
    obtain ⟨s, text, known⟩ := Option.bind_eq_some_iff.1 known
    simp [text, known]

theorem exists_of_orElse {α : Type} {absent a : α} {read : Document → Option α}
    (h : orElse absent read (declared? key position v) = some a) :
    ∀ x, declared? key position v = some x → ∃ a, read x = some a := by
  intro x value
  rw [value] at h
  exact ⟨a, h⟩

theorem exists_of_listed {α : Type} {plans : List α} {read : Document → Option α}
    (h : orElse [] (listOf? read) (declared? key position v) = some plans) :
    ∀ item ∈ itemsAt declared? key position v, ∃ plan, read item = some plan := by
  intro item mem
  rw [itemsAt] at mem
  cases value : declared? key position v with
  | none =>
    rw [value] at mem
    cases mem
  | some x =>
    obtain ⟨plans, each⟩ := exists_of_orElse h x value
    obtain ⟨items, listed, each⟩ := Option.bind_eq_some_iff.1 each
    rw [value, Option.bind_some, listed, Option.getD_some] at mem
    obtain ⟨i, there⟩ := List.getElem?_of_mem mem
    obtain ⟨plan, known, -⟩ := exists_of_mapM each there
    exact ⟨plan, known⟩

end Known

theorem unknownAt_format_eq_none {v : Document} {plan : FilesystemPlan}
    (h : FilesystemPlan.ofDocument? v = some plan) :
    unknownAt declared? "format" 1 FilesystemFormat.ofText? v = none := by
  obtain ⟨slots, slotted, h⟩ := Option.bind_eq_some_iff.1 h
  have slot := slots?_getElem? slotted "format" 1 rfl
  split at h
  · cases slot
    obtain ⟨device, -, h⟩ := Option.bind_eq_some_iff.1 h
    obtain ⟨format, read, -⟩ := Option.bind_eq_some_iff.1 h
    exact unknownAt_eq_none (exists_of_orElse read)
  · cases h

theorem unknownAt_allocation_eq_none {v : Document} {plan : LogicalVolumePlan}
    (h : LogicalVolumePlan.ofDocument? v = some plan) :
    unknownAt declared? "allocation" 3 Allocation.ofText? v = none := by
  obtain ⟨slots, slotted, h⟩ := Option.bind_eq_some_iff.1 h
  have slot := slots?_getElem? slotted "allocation" 3 rfl
  split at h
  · cases slot
    obtain ⟨name, -, h⟩ := Option.bind_eq_some_iff.1 h
    obtain ⟨group, -, h⟩ := Option.bind_eq_some_iff.1 h
    obtain ⟨size, -, h⟩ := Option.bind_eq_some_iff.1 h
    obtain ⟨allocation, read, -⟩ := Option.bind_eq_some_iff.1 h
    exact unknownAt_eq_none (exists_of_orElse read)
  · cases h

theorem unknownAt_gptType_eq_none {v : Document} {plan : PartitionPlan}
    (h : PartitionPlan.ofDocument? v = some plan) :
    unknownAt declared? "gpt_type" 3 GptType.ofText? v = none := by
  obtain ⟨slots, slotted, h⟩ := Option.bind_eq_some_iff.1 h
  have slot := slots?_getElem? slotted "gpt_type" 3 rfl
  split at h
  · cases slot
    obtain ⟨number, -, h⟩ := Option.bind_eq_some_iff.1 h
    obtain ⟨label, -, h⟩ := Option.bind_eq_some_iff.1 h
    obtain ⟨size, -, h⟩ := Option.bind_eq_some_iff.1 h
    obtain ⟨gptType, read, -⟩ := Option.bind_eq_some_iff.1 h
    refine unknownAt_eq_none fun x value => ⟨gptType, ?_⟩
    rw [value] at read
    exact read
  · cases h

theorem exists_of_mem_partitions {v : Document} {plan : DiskPlan}
    (h : DiskPlan.ofDocument? v = some plan) :
    ∀ item ∈ itemsAt declared? "partitions" 2 v, ∃ partition,
      PartitionPlan.ofDocument? item = some partition := by
  obtain ⟨slots, slotted, h⟩ := Option.bind_eq_some_iff.1 h
  have slot := slots?_getElem? slotted "partitions" 2 rfl
  split at h
  · cases slot
    obtain ⟨device, -, h⟩ := Option.bind_eq_some_iff.1 h
    obtain ⟨wipe, -, h⟩ := Option.bind_eq_some_iff.1 h
    obtain ⟨partitions, read, -⟩ := Option.bind_eq_some_iff.1 h
    exact exists_of_listed read
  · cases h

theorem exists_of_mem_layout {v : Document} {layout : Layout} (h : Layout.ofDocument? v = some layout) :
    (∀ item ∈ itemsAt declared? "disks" 0 v, ∃ plan, DiskPlan.ofDocument? item = some plan) ∧
    (∀ item ∈ itemsAt declared? "logical_volumes" 3 v, ∃ plan,
      LogicalVolumePlan.ofDocument? item = some plan) ∧
    (∀ item ∈ itemsAt declared? "filesystems" 4 v, ∃ plan,
      FilesystemPlan.ofDocument? item = some plan) := by
  obtain ⟨slots, slotted, h⟩ := Option.bind_eq_some_iff.1 h
  have first := slots?_getElem? slotted "disks" 0 rfl
  have fourth := slots?_getElem? slotted "logical_volumes" 3 rfl
  have last := slots?_getElem? slotted "filesystems" 4 rfl
  split at h
  · cases first
    cases fourth
    cases last
    obtain ⟨disks, readDisks, h⟩ := Option.bind_eq_some_iff.1 h
    obtain ⟨arrays, -, h⟩ := Option.bind_eq_some_iff.1 h
    obtain ⟨groups, -, h⟩ := Option.bind_eq_some_iff.1 h
    obtain ⟨volumes, readVolumes, h⟩ := Option.bind_eq_some_iff.1 h
    obtain ⟨filesystems, readFilesystems, -⟩ := Option.bind_eq_some_iff.1 h
    exact ⟨exists_of_listed readDisks, exists_of_listed readVolumes, exists_of_listed readFilesystems⟩
  · cases h

theorem unknownNames_eq_nil {v : Document} {layout : Layout} (h : Layout.ofDocument? v = some layout) :
    unknownNames declared? v = [] := by
  obtain ⟨disks, volumes, filesystems⟩ := exists_of_mem_layout h
  have formats : unknownFormats declared? v = [] := by
    refine List.filterMap_eq_nil_iff.2 fun item mem => ?_
    obtain ⟨plan, known⟩ := filesystems item mem
    exact unknownAt_format_eq_none known
  have allocations : unknownAllocations declared? v = [] := by
    refine List.filterMap_eq_nil_iff.2 fun item mem => ?_
    obtain ⟨plan, known⟩ := volumes item mem
    exact unknownAt_allocation_eq_none known
  have types : unknownTypes declared? v = [] := by
    refine List.flatMap_eq_nil_iff.2 fun disk mem => List.filterMap_eq_nil_iff.2 fun item inside => ?_
    obtain ⟨plan, known⟩ := disks disk mem
    obtain ⟨partition, known⟩ := exists_of_mem_partitions known item inside
    exact unknownAt_gptType_eq_none known
  rw [unknownNames, formats, allocations, types]
  rfl

end Document

namespace Layout

/-- The look at the names changes nothing about which documents are layouts, nor which layout one is. -/
theorem ofDocument_eq_ok_iff_decoded (v : Document) (layout : Layout) :
    ofDocument v = .ok layout ↔ ofDocument? v = some layout := by
  rw [ofDocument_eq_ok_iff]
  refine and_iff_right_of_imp fun decoded => ?_
  have noNames := List.subset_nil.1 (unknownNames_eq_nil decoded ▸ unknownNames_byName_subset v)
  rw [unsupported?_eq_head?, noNames, List.head?_nil]

theorem malformed_not_mem_unknownNames (look : Document.Lookup) (v : Document) (detail : String) :
    .malformed detail ∉ unknownNames look v := by
  simp [unknownNames]

/-- A text with an unknown name is refused. One of its unknown names is reported, as it is written,
just if one stands in records all the way from the document on, and then the first of those is;
otherwise the text is taken for no layout at all. -/
theorem ofJson_of_unknownNames {s : String} {v : Document} (parsed : Json.read? s = some v)
    (unknown : unknownNames declared? v ≠ []) :
    ((∃ fault ∈ unknownNames declared? v, ofJson s = .error fault) ↔ unknownNames byName v ≠ []) ∧
    (∀ fault, (unknownNames byName v).head? = some fault → ofJson s = .error fault) ∧
    (unknownNames byName v = [] →
      ofJson s = .error (.malformed "the document is not a storage layout")) := by
  have whole : ofJson s = ofDocument v := by rw [ofJson, parsed]
  have refused : ofDocument? v = none :=
    Option.eq_none_iff_forall_ne_some.2 fun _ decoded => unknown (unknownNames_eq_nil decoded)
  have first : ∀ fault, (unknownNames byName v).head? = some fault → ofJson s = .error fault := by
    intro fault head
    rw [← unsupported?_eq_head?] at head
    rw [whole, ofDocument, head]
  have other : unknownNames byName v = [] →
      ofJson s = .error (.malformed "the document is not a storage layout") := by
    intro noNames
    have silent : v.unsupported? = .none := by rw [unsupported?_eq_head?, noNames, List.head?_nil]
    rw [whole, ofDocument, silent, refused]
  refine ⟨⟨?_, fun named => ?_⟩, first, other⟩
  · rintro ⟨fault, mem, reported⟩ noNames
    rw [other noNames] at reported
    cases reported
    exact malformed_not_mem_unknownNames _ _ _ mem
  · obtain ⟨fault, rest, names⟩ := List.exists_cons_of_ne_nil named
    have inside : fault ∈ unknownNames byName v := names ▸ List.mem_cons_self
    exact ⟨fault, unknownNames_byName_subset v inside, first fault (names ▸ List.head?_cons)⟩

def recordDocument (format : String) : Document :=
  .record [("filesystems", .list [.record [("device", .text "/dev/sda1"), ("format", .text format)]])]

theorem ofJson_recordDocument :
    Json.read? (Json.pretty (recordDocument "btrfs")) = some (recordDocument "btrfs") ∧
    unknownNames declared? (recordDocument "btrfs") ≠ [] ∧
    ofJson (Json.pretty (recordDocument "btrfs")) = .error (.unsupportedFormat "btrfs") := by
  have parsed : Json.read? (Json.pretty (recordDocument "btrfs")) = some (recordDocument "btrfs") :=
    Json.read?_pretty (.record (by simp) (by simp [Printable.list, Printable.record, Printable.text]))
  have unknown : unknownNames declared? (recordDocument "btrfs") ≠ [] := by decide
  exact ⟨parsed, unknown, (ofJson_of_unknownNames parsed unknown).2.1 _ (by decide)⟩

def listDocument (format : String) : Document :=
  .record [("filesystems", .list [.list [.text "/dev/sda1", .text format]])]

/-- The document would be a layout with another format, and yet the unknown one is not reported. -/
theorem ofJson_listDocument :
    ofDocument? (listDocument "ext4") =
      some { filesystems := [⟨"/dev/sda1", .ext4, "", "", [], []⟩] } ∧
    unknownNames declared? (listDocument "btrfs") = [.unsupportedFormat "btrfs"] ∧
    ofJson (Json.pretty (listDocument "btrfs")) =
      .error (.malformed "the document is not a storage layout") := by
  have parsed : Json.read? (Json.pretty (listDocument "btrfs")) = some (listDocument "btrfs") :=
    Json.read?_pretty (.record (by simp) (by simp [Printable.list, Printable.text]))
  refine ⟨by decide, by decide +kernel, ?_⟩
  rw [ofJson, parsed]
  rfl

end Layout

end NodeStorage
