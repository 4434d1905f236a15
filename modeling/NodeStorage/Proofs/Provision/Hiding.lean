import NodeStorage.Proofs.Files.Places
import NodeStorage.Proofs.Provision.Outputs

/-! Which planned filesystems the special ones hide. All special filesystems are mounted after all planned
ones, wherever these are, and hide what is mounted at their targets or below. They are mounted in four
directories of the target root; what is planned elsewhere stays in sight. -/

namespace NodeStorage

open FileTree

namespace Path

variable {root p q : Path}

theorem within_isOnWayTo_iff :
    (root.within q).IsOnWayTo (root.within p) ↔ q.components <+: p.components := by
  rw [IsOnWayTo, components_within, components_within, isAbsolute_within, isAbsolute_within,
    List.prefix_append_right_inj]
  exact and_iff_left rfl

end Path

theorem placeOf_within (working : Place) (root p : Path) :
    placeOf working (root.within p) = walk (placeOf working root) p.components := by
  have start : startFrom working (root.within p) = startFrom working root := by
    rw [startFrom, startFrom, Path.isAbsolute_within]
  rw [placeOf, start, Path.components_within, walk, List.foldl_append]
  rfl

namespace SpecialMount

variable {firmwareVariables : Bool}

/-- The directories of the target root that special filesystems are mounted in. -/
def directories : List String := ["proc", "sys", "tmp", "dev"]

theorem not_isUp_of_mem_directories : ∀ name ∈ directories, Path.isUp name.toList = false := by
  decide

theorem components_target : ∀ special ∈ all firmwareVariables, ∃ name ∈ directories,
    [name.toList] <+: special.target.components ∧
      (Path.depthAfter? 0 (special.target.components.drop 1)).isSome = true := by
  cases firmwareVariables with
  | true => decide +kernel
  | false => decide +kernel

theorem exists_target_of_mem_directories : ∀ name ∈ directories, ∃ special ∈ all firmwareVariables,
    special.target.components = [name.toList] := by
  cases firmwareVariables with
  | true => decide +kernel
  | false => decide +kernel

end SpecialMount

def specialRecords (root : Path) (firmwareVariables : Bool) : List MountRecord :=
  ((SpecialMount.all firmwareVariables).map (SpecialMount.request root)).map MountRequest.record

namespace MountRecord

/-- The target is that of the other record or is below it, by the components of both. -/
def IsUnder (record other : MountRecord) : Prop := other.target.IsOnWayTo record.target

/-- The same of the places that they lead to from this working directory. -/
def IsUnderIn (working : Place) (record other : MountRecord) : Prop :=
  placeOf working other.target <+: placeOf working record.target

end MountRecord

open SpecialMount

variable {root p : Path} {firmwareVariables : Bool} {record : MountRecord}

theorem exists_specialRecord_iff (firmwareVariables : Bool) {Q : Path → Prop}
    {P : List (List Char) → Prop}
    (below : ∀ q, Q (root.within q) ↔ P q.components)
    (up : ∀ name ∈ directories, ∀ rest, (Path.depthAfter? 0 rest).isSome = true →
      P (name.toList :: rest) → P [name.toList]) :
    (∃ other ∈ specialRecords root firmwareVariables, Q other.target) ↔
      ∃ name ∈ directories, P [name.toList] := by
  constructor
  · rintro ⟨_, mem, own⟩
    obtain ⟨_, asked, rfl⟩ := List.mem_map.1 mem
    obtain ⟨special, there, rfl⟩ := List.mem_map.1 asked
    obtain ⟨name, known, ⟨rest, whole⟩, stays⟩ := components_target special there
    have components : P special.target.components := (below _).1 own
    rw [← whole] at components stays
    exact ⟨name, known, up name known rest stays components⟩
  · rintro ⟨name, known, own⟩
    obtain ⟨special, there, same⟩ := exists_target_of_mem_directories name known
    rw [← same] at own
    exact ⟨_, List.mem_map_of_mem (List.mem_map_of_mem there), (below _).2 own⟩

theorem isUnder_specialRecord_iff (target : record.target = root.within p) :
    (∃ other ∈ specialRecords root firmwareVariables, record.IsUnder other) ↔
      ∃ name ∈ directories, p.components.head? = some name.toList := by
  have below (q : Path) : (root.within q).IsOnWayTo record.target ↔ q.components <+: p.components := by
    rw [target]
    exact Path.within_isOnWayTo_iff
  have some_special := exists_specialRecord_iff firmwareVariables
    (Q := (Path.IsOnWayTo · record.target)) (P := (· <+: p.components)) below
    fun name _ rest _ own => (List.prefix_append [name.toList] rest).trans own
  refine some_special.trans (exists_congr fun name => and_congr_right fun _ => ?_)
  cases p.components with
  | nil => simp
  | cons first rest => simp [List.cons_prefix_cons, eq_comm]

theorem isUnderIn_specialRecord_iff {working : Place} :
    (∃ other ∈ specialRecords root firmwareVariables, record.IsUnderIn working other) ↔
      ∃ name ∈ directories, placeOf working root ++ [name] <+: placeOf working record.target := by
  have below (q : Path) : placeOf working (root.within q) <+: placeOf working record.target ↔
      walk (placeOf working root) q.components <+: placeOf working record.target := by
    rw [placeOf_within]
  have some_special := exists_specialRecord_iff firmwareVariables
    (Q := (placeOf working · <+: placeOf working record.target))
    (P := (walk (placeOf working root) · <+: placeOf working record.target)) below
    fun name _ rest stays own => (prefix_walk stays).trans own
  refine some_special.trans (exists_congr fun name => and_congr_right fun known => ?_)
  rw [walk, List.foldl_cons, List.foldl_nil, follow, not_isUp_of_mem_directories name known,
    String.ofList_toList]
  rfl

namespace Layout

variable {m : Machine} {w w' : World}

theorem mounts_of_provision {settings : Settings} {reinstall : Bool} {layout : Layout}
    {done : Provisioned} (h : layout.provision settings reinstall m w = (.ok done, w')) :
    ∃ added firmwareVariables, w'.events = w.events ++ added ∧
      granted m w.events added =
        mountedPlans settings.targetRoot (mountOrder layout.filesystems) ++
          (SpecialMount.all firmwareVariables).map (SpecialMount.request settings.targetRoot) ∧
      done.mounts.planned = (mountedPlans settings.targetRoot (mountOrder layout.filesystems)).map
        MountRequest.record ∧
      done.mounts.special = specialRecords settings.targetRoot firmwareVariables := by
  cases fine : layout.validate with
  | error fault =>
    rw [provision_of_fault fine] at h
    cases h
  | ok _ =>
    rw [provision_of_valid fine] at h
    obtain ⟨wipe, between, prepared, finished⟩ := Step.exists_of_bind_eq_ok h
    obtain ⟨first, events, commands⟩ := layout.prepare_commands settings reinstall (m := m) (w := w)
    rw [prepared] at events
    obtain ⟨after, populated, last⟩ := populate_of_finish finished
    obtain ⟨second, events', mounted⟩ := layout.populate_mounts_all settings (m := m) (w := between)
    rw [populated] at events' mounted
    obtain ⟨firmwareVariables, -, all, planned, special, -⟩ := mounted _ rfl
    refine ⟨first ++ second, firmwareVariables, ?_, ?_, planned, special⟩
    · rw [last, events', events, List.append_assoc]
    · rw [granted_append, granted_eq_nil_of_commands commands, List.nil_append, ← events]
      exact all

/-- The special filesystems are mounted after the planned ones, and hide one of these if and only if
its mount path begins with one of the four directories; by the places that the paths lead to, if and
only if it is in or at one of them. -/
theorem provision_hides (settings : Settings) (reinstall : Bool) (layout : Layout)
    {done : Provisioned} (h : layout.provision settings reinstall m w = (.ok done, w')) :
    ∃ added firmwareVariables, w'.events = w.events ++ added ∧
      (granted m w.events added).map MountRequest.record =
        done.mounts.planned ++ done.mounts.special ∧
      done.mounts.planned = (mountedPlans settings.targetRoot (mountOrder layout.filesystems)).map
        MountRequest.record ∧
      done.mounts.special = specialRecords settings.targetRoot firmwareVariables ∧
      ∀ record ∈ done.mounts.planned, ∃ plan ∈ layout.filesystems,
        record.target = settings.inTarget ⟨plan.mountPath⟩ ∧
        ((∃ other ∈ done.mounts.special, record.IsUnder other) ↔
          ∃ name ∈ directories,
            (Path.components ⟨plan.mountPath⟩).head? = some name.toList) ∧
        ∀ working, (∃ other ∈ done.mounts.special, record.IsUnderIn working other) ↔
          ∃ name ∈ directories,
            placeOf working settings.targetRoot ++ [name] <+: placeOf working record.target := by
  obtain ⟨added, firmwareVariables, events, all, planned, special⟩ := mounts_of_provision h
  refine ⟨added, firmwareVariables, events, ?_, planned, special, fun record mem => ?_⟩
  · rw [all, List.map_append, planned, special]
    rfl
  · rw [planned] at mem
    obtain ⟨_, asked, rfl⟩ := List.mem_map.1 mem
    obtain ⟨plan, there, rfl⟩ := List.mem_map.1 asked
    have own := (mountOrder_perm _).mem_iff.1 (List.mem_filter.1 there).1
    rw [special]
    exact ⟨plan, (List.mem_filter.1 own).1, rfl, isUnder_specialRecord_iff rfl,
      fun working => isUnderIn_specialRecord_iff⟩

end Layout

theorem hides_smallLayout :
    ∃ done w', smallLayout.provision {} false machineSameUuid emptyWorld = (.ok done, w') ∧
      ∀ record ∈ done.mounts.planned, ∃ plan ∈ smallLayout.filesystems,
        record.target = (⟨"/target"⟩ : Path).within ⟨plan.mountPath⟩ ∧
        ((∃ other ∈ done.mounts.special, record.IsUnder other) ↔
          ∃ name ∈ directories, (Path.components ⟨plan.mountPath⟩).head? = some name.toList) := by
  have fine := isOk_provision_smallLayout
  rcases ran : smallLayout.provision {} false machineSameUuid emptyWorld with ⟨failure | done, w'⟩
  · rw [ran] at fine
    cases fine
  · obtain ⟨-, -, -, -, -, -, hides⟩ := smallLayout.provision_hides {} false ran
    refine ⟨done, w', rfl, fun record mem => ?_⟩
    obtain ⟨plan, there, target, written, -⟩ := hides record mem
    exact ⟨plan, there, target, written⟩

def scratchLayout : Layout where
  filesystems := [⟨"/dev/sda4", .ext4, "/tmp", "", [], []⟩]

/-- A valid layout whose only filesystem is hidden by a special one at the same target. -/
theorem scratch_hidden :
    scratchLayout.validate = .ok () ∧ ∃ done w',
      scratchLayout.provision {} false machineSameUuid emptyWorld = (.ok done, w') ∧
        ∃ record ∈ done.mounts.planned, ∃ other ∈ done.mounts.special,
          other.target = record.target ∧ record.IsUnder other := by
  have order : mountOrder scratchLayout.filesystems = scratchLayout.filesystems :=
    Layout.mountOrder_eq (by decide +kernel) (by decide +kernel)
  have hidden : ((scratchLayout.provision {} false machineSameUuid emptyWorld).1.toOption.any
      fun done => done.mounts.planned.any fun record =>
        done.mounts.special.any fun other => other.target = record.target) = true := by
    simp only [Layout.provision, Layout.populate]
    rw [Layout.mountFilesystems_of_mountOrder order]
    decide +kernel
  rcases ran : scratchLayout.provision {} false machineSameUuid emptyWorld with ⟨failure | done, w'⟩
  · rw [ran] at hidden
    cases hidden
  · rw [ran] at hidden
    obtain ⟨record, planned, found⟩ := List.any_eq_true.1 hidden
    obtain ⟨other, special, same⟩ := List.any_eq_true.1 found
    have target : other.target = record.target := of_decide_eq_true same
    refine ⟨by decide +kernel, done, w', rfl, record, planned, other, special, target, ?_⟩
    rw [MountRecord.IsUnder, target]
    exact ⟨List.prefix_rfl, rfl⟩

end NodeStorage
