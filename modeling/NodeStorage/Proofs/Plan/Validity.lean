import Mathlib.Data.List.Induction
import NodeStorage.Plan.Validity
import NodeStorage.Proofs.Text.Numeral

/-! The layouts that can be had, and the first fault of those that cannot. A layout is valid by what
holds of its entries; a fault is first when its entry breaks a rule and every entry before it, in the
order of the layout, breaks none. -/

namespace NodeStorage

section Scan

variable {α σ φ : Type} (scan : σ → List α → Option φ) (memory : List α → σ)
  {Fits : List α → α → List α → Prop} {Breaks : List α → α → List α → φ → Prop}

/-- A scan stops at the first item that does not fit between those before and those after it. -/
theorem scan_split (stop : ∀ before, scan (memory before) [] = none)
    (step : ∀ before a after,
      (Fits before a after ∧
        scan (memory before) (a :: after) = scan (memory (before ++ [a])) after) ∨
      ∃ fault, Breaks before a after fault ∧ scan (memory before) (a :: after) = some fault)
    (items before : List α) :
    (scan (memory before) items = none → ∀ first a last, items = first ++ a :: last →
      Fits (before ++ first) a last) ∧
    ∀ fault, scan (memory before) items = some fault → ∃ first a last,
      items = first ++ a :: last ∧ Breaks (before ++ first) a last fault ∧
      ∀ front b back, first = front ++ b :: back → Fits (before ++ front) b (back ++ a :: last) := by
  induction items generalizing before with
  | nil => simp [stop]
  | cons a after ih =>
    rcases step before a after with ⟨fits, same⟩ | ⟨fault, breaks, found⟩
    · obtain ⟨clean, faulty⟩ := ih (before ++ [a])
      rw [same]
      refine ⟨fun h first b last parts => ?_, fun fault h => ?_⟩
      · rcases List.cons_eq_append_iff.1 parts with ⟨rfl, front⟩ | ⟨rest, rfl, tail⟩
        · obtain ⟨rfl, rfl⟩ := List.cons.inj front
          rw [List.append_nil]
          exact fits
        · have later := clean h rest b last tail
          rw [List.append_assoc] at later
          exact later
      · obtain ⟨first, b, last, rfl, breaks, earlier⟩ := faulty fault h
        rw [List.append_assoc] at breaks
        refine ⟨a :: first, b, last, rfl, breaks, fun front c back parts => ?_⟩
        rcases List.cons_eq_append_iff.1 parts with ⟨rfl, same⟩ | ⟨rest, rfl, tail⟩
        · obtain ⟨rfl, rfl⟩ := List.cons.inj same
          rw [List.append_nil]
          exact fits
        · have fits := earlier rest c back tail
          rw [List.append_assoc] at fits
          exact fits
    · refine ⟨fun h => ?_, fun other h => ?_⟩
      · rw [found] at h
        cases h
      · obtain rfl : fault = other := Option.some.inj (found.symm.trans h)
        refine ⟨[], a, after, rfl, ?_, fun front b back parts => ?_⟩
        · rw [List.append_nil]
          exact breaks
        · simp at parts

end Scan

theorem findSome?_split {α φ : Type} {f : α → Option φ} {Valid : α → Prop} {Breaks : α → φ → Prop}
    (spec : ∀ a, (f a = none → Valid a) ∧ ∀ fault, f a = some fault → Breaks a fault)
    (items : List α) :
    (items.findSome? f = none → ∀ a ∈ items, Valid a) ∧
      ∀ fault, items.findSome? f = some fault → ∃ before a after, items = before ++ a :: after ∧
        (∀ other ∈ before, Valid other) ∧ Breaks a fault := by
  refine ⟨fun h a mem => (spec a).1 (List.findSome?_eq_none_iff.1 h a mem), fun fault h => ?_⟩
  obtain ⟨before, a, after, parts, found, earlier⟩ := List.findSome?_eq_some_iff.1 h
  exact ⟨before, a, after, parts, fun other mem => (spec other).1 (earlier other mem),
    (spec a).2 fault found⟩

theorem found_spec {φ : Type} {Valid : Prop} {Breaks : φ → Prop} {fault : φ} (h : Breaks fault) :
    (some fault = none → Valid) ∧ ∀ other, some fault = some other → Breaks other := by
  refine ⟨nofun, ?_⟩
  rintro other ⟨⟩
  exact h

theorem nodup_map_of_split {α β : Type} {f : α → β} {items : List α}
    (h : ∀ first a last, items = first ++ a :: last → f a ∉ first.map f) :
    (items.map f).Nodup := by
  induction items using List.reverseRecOn with
  | nil => simp
  | append_singleton items a ih =>
    have fresh := h items a [] rfl
    have rest := ih fun first b last parts => h first b (last ++ [a]) (by simp [parts])
    rw [List.map_append, List.nodup_append]
    refine ⟨rest, by simp, ?_⟩
    rintro b mem c last rfl
    rw [List.map_singleton, List.mem_singleton] at last
    exact fresh (last ▸ mem)

theorem not_mem_map_of_nodup {α β : Type} {f : α → β} {first last : List α} {a : α}
    (h : ((first ++ a :: last).map f).Nodup) : f a ∉ first.map f := by
  intro mem
  rw [List.map_append, List.map_cons, List.nodup_append] at h
  exact h.2.2 _ mem _ (List.mem_cons_self) rfl

namespace PartitionPlan

def IsSized (plan : PartitionPlan) : Prop := ∃ size, plan.sizeMib = some size ∧ 0 < size.toInt

def HasReadableGuid (plan : PartitionPlan) : Prop :=
  ∀ guid, plan.guid = some guid → Text.GuidText guid.toList

theorem takesRest_iff {plan : PartitionPlan} : plan.takesRest = true ↔ ¬ plan.IsSized := by
  unfold takesRest explicitSize IsSized
  cases plan.sizeMib with
  | none => simp
  | some size => simp

theorem guidFault?_eq_none_iff {device : String} {plan : PartitionPlan} :
    guidFault? device plan = none ↔ plan.HasReadableGuid := by
  unfold guidFault? HasReadableGuid
  cases plan.guid with
  | none => simp
  | some guid => simp [Text.isGuid_iff]

structure Fits (before : List PartitionPlan) (plan : PartitionPlan) (after : List PartitionPlan) :
    Prop where
  numbered : plan.number ≠ 0
  fresh : plan.number ∉ before.map number
  sized : after ≠ [] → plan.IsSized
  guid : plan.HasReadableGuid

/-- The first rule that a partition breaks among the others of its disk, with the fault that names
it. -/
inductive Breaks (device : String) (before : List PartitionPlan) (plan : PartitionPlan)
    (after : List PartitionPlan) : LayoutFault → Prop where
  | unnumbered (h : plan.number = 0) :
      Breaks device before plan after (.invalidPartitionNumber device plan.number)
  | repeated (numbered : plan.number ≠ 0) (h : plan.number ∈ before.map number) :
      Breaks device before plan after (.duplicatePartitionNumber device plan.number)
  | unsized (numbered : plan.number ≠ 0) (fresh : plan.number ∉ before.map number)
      (h : ¬ plan.IsSized) (more : after ≠ []) :
      Breaks device before plan after (.restOfDiskNotLast device plan.number)
  | unreadable {guid : String} (numbered : plan.number ≠ 0) (fresh : plan.number ∉ before.map number)
      (sized : after ≠ [] → plan.IsSized) (given : plan.guid = some guid)
      (h : ¬ Text.GuidText guid.toList) :
      Breaks device before plan after (.invalidGuid device plan.number guid)

theorem Breaks.not_fits {device : String} {before after : List PartitionPlan} {plan : PartitionPlan}
    {fault : LayoutFault} (h : plan.Breaks device before after fault) :
    ¬ plan.Fits before after := by
  intro fits
  cases h with
  | unnumbered absent => exact fits.numbered absent
  | repeated _ used => exact fits.fresh used
  | unsized _ _ rest more => exact rest (fits.sized more)
  | unreadable _ _ _ given bad => exact bad (fits.guid _ given)

theorem fits_or_breaks (device : String) (before : List PartitionPlan) (plan : PartitionPlan)
    (after : List PartitionPlan) :
    (plan.Fits before after ∧
      partitionsFault? device (before.map number).reverse (plan :: after) =
        partitionsFault? device ((before ++ [plan]).map number).reverse after) ∨
    ∃ fault, plan.Breaks device before after fault ∧
      partitionsFault? device (before.map number).reverse (plan :: after) = some fault := by
  simp only [partitionsFault?, List.mem_reverse]
  by_cases unnumbered : plan.number = 0
  · rw [if_pos unnumbered]
    exact .inr ⟨_, .unnumbered unnumbered, rfl⟩
  rw [if_neg unnumbered]
  by_cases used : plan.number ∈ before.map number
  · rw [if_pos used]
    exact .inr ⟨_, .repeated unnumbered used, rfl⟩
  rw [if_neg used]
  by_cases rest : plan.takesRest = true ∧ after ≠ []
  · rw [if_pos rest]
    exact .inr ⟨_, .unsized unnumbered used (takesRest_iff.1 rest.1) rest.2, rfl⟩
  rw [if_neg rest]
  have sized : after ≠ [] → plan.IsSized := by
    intro more
    by_contra unsized
    exact rest ⟨takesRest_iff.2 unsized, more⟩
  cases guid : guidFault? device plan with
  | none =>
    refine .inl ⟨⟨unnumbered, used, sized, guidFault?_eq_none_iff.1 guid⟩, ?_⟩
    rw [List.map_append, List.reverse_append]
    rfl
  | some fault =>
    obtain ⟨text, given, bad⟩ := Option.bind_eq_some_iff.1 guid
    split at bad
    · cases bad
    · next unread =>
      obtain rfl := Option.some.inj bad
      exact .inr ⟨_, .unreadable unnumbered used sized given fun form =>
        unread (Text.isGuid_iff.2 form), rfl⟩

end PartitionPlan

/-- The partitions that a disk can have, apart from their sizes. -/
structure PartitionsFit (plans : List PartitionPlan) : Prop where
  numbered : ∀ plan ∈ plans, 1 ≤ plan.number.toNat
  distinct : (plans.map PartitionPlan.number).Nodup
  guids : ∀ plan ∈ plans, plan.HasReadableGuid

theorem partitionsFit_of_fits {plans : List PartitionPlan} (later : List PartitionPlan)
    (h : ∀ first plan last, plans = first ++ plan :: last → plan.Fits first (last ++ later)) :
    PartitionsFit plans := by
  refine ⟨fun plan mem => ?_, nodup_map_of_split fun first plan last parts =>
    (h first plan last parts).fresh, fun plan mem => ?_⟩
  · obtain ⟨first, last, parts⟩ := List.append_of_mem mem
    have nonzero := (h first plan last parts).numbered
    rw [Nat.one_le_iff_ne_zero]
    exact fun zero => nonzero (UInt32.toNat_inj.1 zero)
  · obtain ⟨first, last, parts⟩ := List.append_of_mem mem
    exact (h first plan last parts).guid

structure DiskPlan.Valid (disk : DiskPlan) : Prop where
  device : disk.device ≠ ""
  partitions : PartitionsFit disk.partitions
  sized : ∀ plan ∈ disk.partitions.dropLast, plan.IsSized

theorem PartitionsFit.fits {first last : List PartitionPlan} {plan : PartitionPlan}
    (fit : PartitionsFit (first ++ plan :: last))
    (sized : ∀ other ∈ (first ++ plan :: last).dropLast, other.IsSized) : plan.Fits first last := by
  have mem : plan ∈ first ++ plan :: last := by simp
  refine ⟨fun zero => ?_, not_mem_map_of_nodup fit.distinct, fun more => ?_, fit.guids plan mem⟩
  · have positive := fit.numbered plan mem
    rw [zero] at positive
    exact absurd positive (by decide)
  · refine sized plan ?_
    rw [List.dropLast_append_cons, List.dropLast_cons_of_ne_nil more]
    simp

inductive DiskPlan.Breaks (disk : DiskPlan) : LayoutFault → Prop where
  | device (h : disk.device = "") : Breaks disk .emptyDiskDevice
  | partition {before after : List PartitionPlan} {plan : PartitionPlan} {fault : LayoutFault}
      (device : disk.device ≠ "") (parts : disk.partitions = before ++ plan :: after)
      (earlier : PartitionsFit before) (sized : ∀ other ∈ before, other.IsSized)
      (h : plan.Breaks disk.device before after fault) : Breaks disk fault

theorem DiskPlan.fault?_spec (disk : DiskPlan) :
    (disk.fault? = none → disk.Valid) ∧ ∀ fault, disk.fault? = some fault → disk.Breaks fault := by
  unfold fault?
  by_cases device : disk.device = ""
  · rw [if_pos device]
    exact found_spec (.device device)
  · rw [if_neg device]
    obtain ⟨clean, faulty⟩ := scan_split (partitionsFault? disk.device)
      (fun before => (before.map PartitionPlan.number).reverse) (fun _ => rfl)
      (PartitionPlan.fits_or_breaks disk.device) disk.partitions []
    refine ⟨fun h => ?_, fun fault h => ?_⟩
    · have fits := clean h
      refine ⟨device, partitionsFit_of_fits [] (by simpa using fits), ?_⟩
      intro plan mem
      obtain ⟨first, last, parts⟩ := List.append_of_mem mem
      have whole : disk.partitions ≠ [] := by
        rintro empty
        simp [empty] at mem
      have more := List.dropLast_append_getLast whole
      rw [parts, List.append_assoc, List.cons_append] at more
      exact (fits first plan _ more.symm).sized (by simp)
    · obtain ⟨before, plan, after, parts, breaks, earlier⟩ := faulty fault h
      refine .partition device parts (partitionsFit_of_fits _ earlier) ?_ breaks
      intro other mem
      obtain ⟨front, back, same⟩ := List.append_of_mem mem
      exact (earlier front other back same).sized (by simp)

theorem DiskPlan.Breaks.not_valid {disk : DiskPlan} {fault : LayoutFault} (h : disk.Breaks fault) :
    ¬ disk.Valid := by
  intro valid
  cases h with
  | device empty => exact valid.device empty
  | partition _ parts _ _ breaks =>
    have fit := valid.partitions
    have sized := valid.sized
    rw [parts] at fit sized
    exact breaks.not_fits (fit.fits sized)

structure ArrayPlan.Valid (array : ArrayPlan) : Prop where
  members : 1 ≤ array.devices.length
  spares : array.spares.toNat < array.devices.length

inductive ArrayPlan.Breaks (array : ArrayPlan) : LayoutFault → Prop where
  | members (h : array.devices = []) : Breaks array (.arrayWithoutMembers array.name)
  | spares (members : array.devices ≠ []) (h : array.devices.length ≤ array.spares.toNat) :
      Breaks array (.tooManySpares array.name array.spares.toNat array.devices.length)

theorem ArrayPlan.fault?_spec (array : ArrayPlan) :
    (array.fault? = none → array.Valid) ∧
      ∀ fault, array.fault? = some fault → array.Breaks fault := by
  unfold fault?
  by_cases members : array.devices = []
  · rw [if_pos members]
    exact found_spec (.members members)
  · rw [if_neg members]
    by_cases spares : array.devices.length ≤ array.spares.toNat
    · rw [if_pos spares]
      exact found_spec (.spares members spares)
    · rw [if_neg spares]
      exact ⟨fun _ => ⟨List.length_pos_iff.2 members, Nat.lt_of_not_le spares⟩, nofun⟩

theorem ArrayPlan.Breaks.not_valid {array : ArrayPlan} {fault : LayoutFault}
    (h : array.Breaks fault) : ¬ array.Valid := by
  intro valid
  have members := valid.members
  have spares := valid.spares
  cases h with
  | members empty => simp [empty] at members
  | spares _ many => omega

namespace VolumeGroupPlan

structure Fits (before : List VolumeGroupPlan) (plan : VolumeGroupPlan) : Prop where
  fresh : plan.name ∉ before.map name
  members : plan.devices ≠ []

inductive Breaks (before : List VolumeGroupPlan) (plan : VolumeGroupPlan) : LayoutFault → Prop where
  | repeated (h : plan.name ∈ before.map name) : Breaks before plan (.duplicateGroup plan.name)
  | members (fresh : plan.name ∉ before.map name) (h : plan.devices = []) :
      Breaks before plan (.groupWithoutMembers plan.name)

theorem Breaks.not_fits {before : List VolumeGroupPlan} {plan : VolumeGroupPlan}
    {fault : LayoutFault} (h : plan.Breaks before fault) : ¬ plan.Fits before := by
  intro fits
  cases h with
  | repeated used => exact fits.fresh used
  | members _ empty => exact fits.members empty

theorem fits_or_breaks (before : List VolumeGroupPlan) (plan : VolumeGroupPlan)
    (after : List VolumeGroupPlan) :
    (plan.Fits before ∧ groupsFault? (before.map name).reverse (plan :: after) =
      groupsFault? ((before ++ [plan]).map name).reverse after) ∨
    ∃ fault, plan.Breaks before fault ∧
      groupsFault? (before.map name).reverse (plan :: after) = some fault := by
  simp only [groupsFault?, List.mem_reverse]
  by_cases used : plan.name ∈ before.map name
  · rw [if_pos used]
    exact .inr ⟨_, .repeated used, rfl⟩
  rw [if_neg used]
  by_cases empty : plan.devices = []
  · rw [if_pos empty]
    exact .inr ⟨_, .members used empty, rfl⟩
  rw [if_neg empty, List.map_append, List.reverse_append]
  exact .inl ⟨⟨used, empty⟩, rfl⟩

end VolumeGroupPlan

structure GroupsFit (plans : List VolumeGroupPlan) : Prop where
  distinct : (plans.map VolumeGroupPlan.name).Nodup
  members : ∀ plan ∈ plans, 1 ≤ plan.devices.length

theorem groupsFit_of_fits {plans : List VolumeGroupPlan}
    (h : ∀ first plan last, plans = first ++ plan :: last → plan.Fits first) : GroupsFit plans := by
  refine ⟨nodup_map_of_split fun first plan last parts => (h first plan last parts).fresh, ?_⟩
  intro plan mem
  obtain ⟨first, last, parts⟩ := List.append_of_mem mem
  exact List.length_pos_iff.2 (h first plan last parts).members

theorem GroupsFit.fits {first last : List VolumeGroupPlan} {plan : VolumeGroupPlan}
    (fit : GroupsFit (first ++ plan :: last)) : plan.Fits first :=
  ⟨not_mem_map_of_nodup fit.distinct, List.length_pos_iff.1 (fit.members plan (by simp))⟩

theorem groupsFault?_spec (plans : List VolumeGroupPlan) :
    (groupsFault? [] plans = none → GroupsFit plans) ∧
      ∀ fault, groupsFault? [] plans = some fault → ∃ before plan after,
        plans = before ++ plan :: after ∧ GroupsFit before ∧ plan.Breaks before fault := by
  obtain ⟨clean, faulty⟩ := scan_split groupsFault?
    (fun before => (before.map VolumeGroupPlan.name).reverse) (fun _ => rfl)
    VolumeGroupPlan.fits_or_breaks plans []
  refine ⟨fun h => groupsFit_of_fits (clean h), fun fault h => ?_⟩
  obtain ⟨before, plan, after, parts, breaks, earlier⟩ := faulty fault h
  exact ⟨before, plan, after, parts, groupsFit_of_fits earlier, breaks⟩

theorem LogicalVolumePlan.fault?_spec (volume : LogicalVolumePlan) :
    (volume.fault? = none → volume.group ≠ "") ∧
      ∀ fault, volume.fault? = some fault → volume.group = "" ∧ fault = .missingGroup volume.name := by
  by_cases empty : volume.group = ""
  · simp [fault?, empty, eq_comm]
  · simp [fault?, empty]

theorem FilesystemPlan.fault?_spec (filesystem : FilesystemPlan) :
    (filesystem.fault? = none → filesystem.device ≠ "") ∧
      ∀ fault, filesystem.fault? = some fault →
        filesystem.device = "" ∧ fault = .missingFilesystemDevice filesystem.mountPath := by
  by_cases empty : filesystem.device = ""
  · simp [fault?, empty, eq_comm]
  · simp [fault?, empty]

namespace Layout

structure Valid (layout : Layout) : Prop where
  disks : ∀ disk ∈ layout.disks, disk.Valid
  arrays : ∀ array ∈ layout.arrays, array.Valid
  groups : GroupsFit layout.groups
  volumes : ∀ volume ∈ layout.volumes, volume.group ≠ ""
  filesystems : ∀ filesystem ∈ layout.filesystems, filesystem.device ≠ ""

/-- The fault of the first entry that breaks a rule: all that comes before it in the layout breaks
none. -/
inductive FirstFault (layout : Layout) : LayoutFault → Prop where
  | disk {before after : List DiskPlan} {disk : DiskPlan} {fault : LayoutFault}
      (parts : layout.disks = before ++ disk :: after) (earlier : ∀ other ∈ before, other.Valid)
      (h : disk.Breaks fault) : FirstFault layout fault
  | array {before after : List ArrayPlan} {array : ArrayPlan} {fault : LayoutFault}
      (disks : ∀ disk ∈ layout.disks, disk.Valid)
      (parts : layout.arrays = before ++ array :: after) (earlier : ∀ other ∈ before, other.Valid)
      (h : array.Breaks fault) : FirstFault layout fault
  | group {before after : List VolumeGroupPlan} {group : VolumeGroupPlan} {fault : LayoutFault}
      (disks : ∀ disk ∈ layout.disks, disk.Valid) (arrays : ∀ array ∈ layout.arrays, array.Valid)
      (parts : layout.groups = before ++ group :: after) (earlier : GroupsFit before)
      (h : group.Breaks before fault) : FirstFault layout fault
  | volume {before after : List LogicalVolumePlan} {volume : LogicalVolumePlan}
      (disks : ∀ disk ∈ layout.disks, disk.Valid) (arrays : ∀ array ∈ layout.arrays, array.Valid)
      (groups : GroupsFit layout.groups) (parts : layout.volumes = before ++ volume :: after)
      (earlier : ∀ other ∈ before, other.group ≠ "") (h : volume.group = "") :
      FirstFault layout (.missingGroup volume.name)
  | filesystem {before after : List FilesystemPlan} {filesystem : FilesystemPlan}
      (disks : ∀ disk ∈ layout.disks, disk.Valid) (arrays : ∀ array ∈ layout.arrays, array.Valid)
      (groups : GroupsFit layout.groups) (volumes : ∀ volume ∈ layout.volumes, volume.group ≠ "")
      (parts : layout.filesystems = before ++ filesystem :: after)
      (earlier : ∀ other ∈ before, other.device ≠ "") (h : filesystem.device = "") :
      FirstFault layout (.missingFilesystemDevice filesystem.mountPath)

theorem FirstFault.not_valid {layout : Layout} {fault : LayoutFault} (h : layout.FirstFault fault) :
    ¬ layout.Valid := by
  intro valid
  cases h with
  | disk parts _ breaks => exact breaks.not_valid (valid.disks _ (by simp [parts]))
  | array _ parts _ breaks => exact breaks.not_valid (valid.arrays _ (by simp [parts]))
  | group _ _ parts _ breaks => exact breaks.not_fits (parts ▸ valid.groups).fits
  | volume _ _ _ parts _ empty => exact valid.volumes _ (by simp [parts]) empty
  | filesystem _ _ _ _ parts _ empty => exact valid.filesystems _ (by simp [parts]) empty

theorem fault?_spec (layout : Layout) :
    (layout.fault? = none → layout.Valid) ∧
      ∀ fault, layout.fault? = some fault → layout.FirstFault fault := by
  have disks := findSome?_split DiskPlan.fault?_spec layout.disks
  have arrays := findSome?_split ArrayPlan.fault?_spec layout.arrays
  have groups := groupsFault?_spec layout.groups
  have volumes := findSome?_split LogicalVolumePlan.fault?_spec layout.volumes
  have filesystems := findSome?_split FilesystemPlan.fault?_spec layout.filesystems
  unfold fault?
  cases diskFault : layout.disks.findSome? DiskPlan.fault? with
  | some fault =>
    obtain ⟨before, disk, after, parts, earlier, breaks⟩ := disks.2 fault diskFault
    exact found_spec (.disk parts earlier breaks)
  | none =>
  cases arrayFault : layout.arrays.findSome? ArrayPlan.fault? with
  | some fault =>
    obtain ⟨before, array, after, parts, earlier, breaks⟩ := arrays.2 fault arrayFault
    exact found_spec (.array (disks.1 diskFault) parts earlier breaks)
  | none =>
  cases groupFault : groupsFault? [] layout.groups with
  | some fault =>
    obtain ⟨before, group, after, parts, earlier, breaks⟩ := groups.2 fault groupFault
    exact found_spec (.group (disks.1 diskFault) (arrays.1 arrayFault) parts earlier breaks)
  | none =>
  cases volumeFault : layout.volumes.findSome? LogicalVolumePlan.fault? with
  | some fault =>
    obtain ⟨before, volume, after, parts, earlier, empty, rfl⟩ := volumes.2 fault volumeFault
    exact found_spec (.volume (disks.1 diskFault) (arrays.1 arrayFault) (groups.1 groupFault) parts
      earlier empty)
  | none =>
  cases filesystemFault : layout.filesystems.findSome? FilesystemPlan.fault? with
  | some fault =>
    obtain ⟨before, filesystem, after, parts, earlier, empty, rfl⟩ :=
      filesystems.2 fault filesystemFault
    exact found_spec (.filesystem (disks.1 diskFault) (arrays.1 arrayFault) (groups.1 groupFault)
      (volumes.1 volumeFault) parts earlier empty)
  | none =>
    exact ⟨fun _ => ⟨disks.1 diskFault, arrays.1 arrayFault, groups.1 groupFault,
      volumes.1 volumeFault, filesystems.1 filesystemFault⟩, nofun⟩

/-- A layout is accepted just if it is valid, and refused for its first fault. -/
theorem validate_valid_or_firstFault (layout : Layout) :
    (layout.validate = .ok () ↔ layout.Valid) ∧
      ∀ fault, layout.validate = .error fault → layout.FirstFault fault := by
  obtain ⟨clean, faulty⟩ := layout.fault?_spec
  rw [validate_eq_ok_iff]
  refine ⟨⟨clean, fun valid => ?_⟩, fun fault h => ?_⟩
  · cases found : layout.fault? with
    | none => rfl
    | some fault => exact absurd valid (faulty fault found).not_valid
  · refine faulty fault ?_
    unfold validate at h
    split at h
    · next found =>
      obtain rfl := Except.error.inj h
      exact found
    · cases h

end Layout

end NodeStorage
