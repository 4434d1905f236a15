import Mathlib.Data.Finset.Insert
import Mathlib.Logic.Function.Basic
import NodeStorage.Proofs.Volumes.Report
import NodeStorage.Proofs.Volumes.Session

/-! The groups and volumes of a host. Objects that are to be there are added to it where they are
missing; doing so again, after a part of them or after all, adds what was missing still and changes
nothing of the outcome. A catalog mirrors the host if it knows the same of it. -/

namespace NodeStorage

open Text VolumeCatalog

/-- Each group with the number of its physical volumes, and the volumes with their groups in front. -/
@[ext] structure Host where
  groups : String → Option Nat
  volumes : Finset (String × String)

namespace Host

def holds (host : Host) : ObjectKey → Bool
  | .group name => (host.groups name).isSome
  | .volume group name => decide ((group, name) ∈ host.volumes)

def add (host : Host) : PlannedObject → Host
  | .group plan =>
    { host with groups := Function.update host.groups plan.name (some plan.devices.length) }
  | .volume plan => { host with volumes := insert (plan.group, plan.name) host.volumes }

def commandFor (host : Host) : PlannedObject → Command
  | .group plan => plan.createCommand
  | .volume plan => plan.commandFor ((host.groups plan.group).getD 0)

/-- The host with the object, which is added only if it is missing. -/
def settle (host : Host) (object : PlannedObject) : Host :=
  if host.holds object.key then host else host.add object

def settled (host : Host) (objects : List PlannedObject) : Host := objects.foldl settle host

/-- The objects that are added, each with the command that creates it when it is. -/
def missing (host : Host) : List PlannedObject → List (PlannedObject × Command)
  | [] => []
  | object :: rest =>
    (if host.holds object.key then [] else [(object, host.commandFor object)]) ++
      (host.settle object).missing rest

variable {host : Host} {object : PlannedObject} {objects first second : List PlannedObject}
  {key : ObjectKey}

theorem holds_add : (host.add object).holds key = true ↔ key = object.key ∨ host.holds key = true := by
  cases object with
  | group plan =>
    cases key with
    | group name =>
      by_cases same : name = plan.name
      · simp [holds, add, PlannedObject.key, same]
      · simp [holds, add, PlannedObject.key, same, Function.update_of_ne]
    | volume group name => exact (or_iff_right (by simp [PlannedObject.key])).symm
  | volume plan =>
    cases key with
    | group name => exact (or_iff_right (by simp [PlannedObject.key])).symm
    | volume group name => simp [holds, add, PlannedObject.key]

theorem settle_of_holds (h : host.holds object.key = true) : host.settle object = host := if_pos h

theorem settle_of_not_holds (h : host.holds object.key = false) :
    host.settle object = host.add object := by
  rw [settle, h, if_neg Bool.false_ne_true]

theorem holds_settle :
    (host.settle object).holds key = true ↔ key = object.key ∨ host.holds key = true := by
  cases there : host.holds object.key with
  | true =>
    rw [settle_of_holds there]
    exact ⟨.inr, fun h => h.elim (fun same => same ▸ there) id⟩
  | false => rw [settle_of_not_holds there, holds_add]

theorem settled_cons : host.settled (object :: objects) = (host.settle object).settled objects := rfl

theorem settled_append : host.settled (first ++ second) = (host.settled first).settled second :=
  List.foldl_append

theorem missing_append :
    host.missing (first ++ second) = host.missing first ++ (host.settled first).missing second := by
  induction first generalizing host with
  | nil => rfl
  | cons object rest ih =>
    rw [List.cons_append, missing, missing, ih, settled_cons, List.append_assoc]

theorem missing_cons_of_holds (h : host.holds object.key = true) :
    host.missing (object :: objects) = host.missing objects := by
  rw [missing, settle_of_holds h, if_pos h, List.nil_append]

theorem missing_cons_of_not_holds (h : host.holds object.key = false) :
    host.missing (object :: objects) =
      (object, host.commandFor object) :: (host.add object).missing objects := by
  rw [missing, settle_of_not_holds h, h, if_neg Bool.false_ne_true, List.singleton_append]

theorem holds_settled :
    (host.settled objects).holds key = true ↔
      key ∈ objects.map PlannedObject.key ∨ host.holds key = true := by
  induction objects generalizing host with
  | nil => simp [settled]
  | cons object rest ih =>
    rw [settled_cons, ih, holds_settle, List.map_cons, List.mem_cons, or_left_comm, or_assoc]

theorem settled_of_holds (h : ∀ object ∈ objects, host.holds object.key = true) :
    host.settled objects = host ∧ host.missing objects = [] := by
  induction objects with
  | nil => exact ⟨rfl, rfl⟩
  | cons object rest ih =>
    obtain ⟨here, later⟩ := List.forall_mem_cons.1 h
    rw [settled_cons, settle_of_holds here, missing_cons_of_holds here]
    exact ih later

theorem settled_again :
    (host.settled first).settled first = host.settled first ∧
      (host.settled first).missing first = [] :=
  settled_of_holds fun _ mem => holds_settled.2 (.inl (List.mem_map_of_mem mem))

/-- After a part of the objects all of them are settled as they are at once. -/
theorem settled_resumed :
    (host.settled first).settled (first ++ second) = host.settled (first ++ second) := by
  rw [settled_append, settled_again.1, settled_append]

theorem missing_resumed :
    host.missing first ++ (host.settled first).missing (first ++ second) =
      host.missing (first ++ second) := by
  rw [missing_append, settled_again.1, settled_again.2, List.nil_append, missing_append]

def missingKeys (host : Host) (objects : List PlannedObject) : List ObjectKey :=
  (host.missing objects).map fun made => made.1.key

theorem missingKeys_cons_of_holds (h : host.holds object.key = true) :
    host.missingKeys (object :: objects) = host.missingKeys objects := by
  rw [missingKeys, missing_cons_of_holds h, missingKeys]

theorem missingKeys_cons_of_not_holds (h : host.holds object.key = false) :
    host.missingKeys (object :: objects) = object.key :: (host.add object).missingKeys objects := by
  rw [missingKeys, missing_cons_of_not_holds h, List.map_cons, missingKeys]

theorem mem_missingKeys : key ∈ host.missingKeys objects ↔
    key ∈ objects.map PlannedObject.key ∧ host.holds key = false := by
  induction objects generalizing host with
  | nil => simp [missingKeys, missing]
  | cons object rest ih =>
    rw [List.map_cons, List.mem_cons]
    cases there : host.holds object.key with
    | true =>
      rw [missingKeys_cons_of_holds there, ih]
      refine and_congr_left fun absent => (or_iff_right ?_).symm
      rintro rfl
      cases there.symm.trans absent
    | false =>
      rw [missingKeys_cons_of_not_holds there, List.mem_cons, ih, ← Bool.not_eq_true, holds_add,
        not_or, Bool.not_eq_true]
      by_cases same : key = object.key
      · simp [same, there]
      · simp [same]

theorem nodup_missingKeys : (host.missingKeys objects).Nodup := by
  induction objects generalizing host with
  | nil => exact List.nodup_nil
  | cons object rest ih =>
    cases there : host.holds object.key with
    | true =>
      rw [missingKeys_cons_of_holds there]
      exact ih
    | false =>
      rw [missingKeys_cons_of_not_holds there, List.nodup_cons]
      refine ⟨fun mem => ?_, ih⟩
      have absent := (mem_missingKeys.1 mem).2
      cases (holds_add.2 (.inl rfl)).symm.trans absent

theorem mem_missing {made : PlannedObject × Command} (h : made ∈ host.missing objects) :
    ∃ before after, objects = before ++ made.1 :: after ∧
      made.2 = (host.settled before).commandFor made.1 := by
  induction objects generalizing host with
  | nil => cases h
  | cons object rest ih =>
    rw [missing, List.mem_append] at h
    rcases h with here | later
    · split at here
      · cases here
      · rw [List.mem_singleton.1 here]
        exact ⟨[], rest, rfl, rfl⟩
    · obtain ⟨before, after, rfl, same⟩ := ih later
      exact ⟨object :: before, after, rfl, same⟩

theorem groups_settle_volume (plan : LogicalVolumePlan) :
    (host.settle (.volume plan)).groups = host.groups := by
  unfold settle
  split <;> rfl

theorem groups_settled_volumes (plans : List LogicalVolumePlan) :
    (host.settled (plans.map .volume)).groups = host.groups := by
  induction plans generalizing host with
  | nil => rfl
  | cons plan rest ih => rw [List.map_cons, settled_cons, ih, groups_settle_volume]

theorem mem_missing_groups_volumes {groups : List VolumeGroupPlan} {volumes : List LogicalVolumePlan}
    {made : PlannedObject × Command}
    (h : made ∈ host.missing (groups.map .group ++ volumes.map .volume)) :
    made.2 = (host.settled (groups.map .group ++ volumes.map .volume)).commandFor made.1 := by
  rw [missing_append, List.mem_append] at h
  rw [settled_append]
  rcases h with early | late
  · obtain ⟨before, after, parts, same⟩ := mem_missing early
    have mem : made.1 ∈ groups.map .group := by rw [parts]; simp
    obtain ⟨plan, -, group⟩ := List.mem_map.1 mem
    rw [same, ← group]
    rfl
  · obtain ⟨before, after, parts, same⟩ := mem_missing late
    obtain ⟨past, rest, -, rfl, tail⟩ := List.map_eq_append_iff.1 parts
    have mem : made.1 ∈ rest.map .volume := by rw [tail]; simp
    obtain ⟨plan, -, volume⟩ := List.mem_map.1 mem
    rw [same, ← volume, commandFor, commandFor, groups_settled_volumes, groups_settled_volumes]

/-- The report lists the groups of the host, with counts that fit a word. -/
def ListsGroups (host : Host) (report : String) : Prop :=
  ∃ rows : List (String × Nat), Shows report (rows.map fun row => (row.1, decimal row.2)) ∧
    (∀ row ∈ rows, row.2 ≤ Nat.pow 2 64 - 1) ∧
    ∀ name count, (name, count) ∈ rows ↔ host.groups name = some count

def ListsVolumes (host : Host) (report : String) : Prop :=
  ∃ rows, Shows report rows ∧ ∀ volume, volume ∈ rows ↔ volume ∈ host.volumes

end Host

structure VolumeCatalog.Mirrors (catalog : VolumeCatalog) (host : Host) : Prop where
  groups : ∀ name, catalog.groups.lookup name = host.groups name
  volumes : ∀ volume, volume ∈ catalog.volumes ↔ volume ∈ host.volumes

theorem lookup_eq_of_mem_iff {rows : List (String × Nat)} {groups : String → Option Nat}
    (h : ∀ name count, (name, count) ∈ rows ↔ groups name = some count) (name : String) :
    rows.lookup name = groups name := by
  cases found : rows.lookup name with
  | some count =>
    obtain ⟨before, after, parts, -⟩ := List.lookup_eq_some_iff.1 found
    have mem : (name, count) ∈ rows := by rw [parts]; simp
    exact ((h name count).1 mem).symm
  | none =>
    cases there : groups name with
    | none => rfl
    | some count =>
      have other := List.lookup_eq_none_iff.1 found _ ((h name count).2 there)
      simp at other

theorem VolumeCatalog.mirrors_ofReports {host : Host} {groupReport volumeReport : String}
    (groups : host.ListsGroups groupReport) (volumes : host.ListsVolumes volumeReport) :
    (ofReports groupReport volumeReport).Mirrors host := by
  obtain ⟨groupList, shown, small, listed⟩ := groups
  obtain ⟨volumeList, shown', listed'⟩ := volumes
  constructor
  · intro name
    rw [ofReports, Keyed.lookup_ofPairs, shown.groupRows_eq small]
    refine lookup_eq_of_mem_iff (fun name count => ?_) name
    rw [List.mem_reverse, listed]
  · intro volume
    rw [ofReports, shown'.rows_eq, listed']

namespace VolumeCatalog.Mirrors

variable {catalog : VolumeCatalog} {host : Host}

theorem holds_eq (h : catalog.Mirrors host) (key : ObjectKey) :
    catalog.holds key = host.holds key := by
  cases key with
  | group name => rw [VolumeCatalog.holds, hasGroup, h.groups, Host.holds]
  | volume group name =>
    rw [Bool.eq_iff_iff, VolumeCatalog.holds, hasVolume, List.contains_iff_mem, h.volumes, Host.holds,
      decide_eq_true_iff]

theorem command_eq (h : catalog.Mirrors host) (object : PlannedObject) :
    object.command catalog = host.commandFor object := by
  cases object with
  | group plan => rfl
  | volume plan => rw [PlannedObject.command, volumeCount, h.groups, Host.commandFor]

theorem add (h : catalog.Mirrors host) (object : PlannedObject) :
    (object.addTo catalog).Mirrors (host.add object) := by
  cases object with
  | group plan =>
    refine ⟨fun name => ?_, h.volumes⟩
    by_cases same : name = plan.name
    · simp [PlannedObject.addTo, addGroup, Host.add, same, Keyed.lookup_put]
    · simp [PlannedObject.addTo, addGroup, Host.add, Function.update_of_ne same, h.groups,
        Keyed.lookup_put_ne _ _ _ _ same]
  | volume plan =>
    refine ⟨h.groups, fun volume => ?_⟩
    simp [PlannedObject.addTo, addVolume, Host.add, h.volumes, or_comm]

end VolumeCatalog.Mirrors

end NodeStorage
