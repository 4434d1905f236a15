import NodeStorage.Proofs.Provision.Stages

/-! What a run leaves mounted. A run that succeeds has recorded all that it mounted, in order; one
that fails has asked for all of it to be unmounted, in the opposite order, and fails as it would have
without. -/

namespace NodeStorage

variable {m : Machine} {w : World}

theorem granted_eq_nil_of_commands {before events : List Event}
    (h : ∀ event ∈ events, event.IsCommand) : granted m before events = [] :=
  granted_eq_nil fun event mem => (h event mem).not_isMount

theorem unmounted_eq_nil_of_commands {events : List Event}
    (h : ∀ event ∈ events, event.IsCommand) : unmounted events = [] :=
  unmounted_eq_nil fun event mem => (h event mem).not_isUnmount

namespace Layout

theorem Populated.records {layout : Layout} {before added : List Event} {α : Type}
    {r : Except Failure α} {mounts : Mounts} (h : layout.Populated m before added r mounts) :
    mounts.planned ++ mounts.special = (granted m before added).map MountRequest.record ∧
      unmounted added = [] := by
  obtain ⟨mounting, looked, planned, special, rfl, mounted, commands, _⟩ := h
  constructor
  · rw [granted_append, granted_eq_nil_of_commands commands, List.append_nil, mounted.granted_eq,
      mounted.planned_eq, mounted.special_eq, List.map_append]
    rfl
  · rw [unmounted_append, unmounted_eq_nil_of_commands commands, List.append_nil]
    exact unmounted_eq_nil fun event mem => (mounted.only event mem).not_isUnmount

end Layout

theorem unmounted_map (records : List MountRecord) :
    unmounted (records.map fun record => .unmount record.target) =
      records.map MountRecord.target := by
  simp [unmounted, List.filterMap_map]

theorem granted_unmounts (before : List Event) (records : List MountRecord) :
    granted m before (records.map fun record => .unmount record.target) = [] :=
  granted_eq_nil fun _ mem mount => mount.not_isUnmount (isUnmount_of_mem_unmounts mem)

theorem Mounts.targets_newestFirst {mounts : Mounts} {requests : List MountRequest}
    (h : mounts.planned ++ mounts.special = requests.map MountRequest.record) :
    mounts.newestFirst.map MountRecord.target = (requests.map MountRequest.target).reverse := by
  have reversed : mounts.newestFirst = (mounts.planned ++ mounts.special).reverse :=
    List.reverse_append.symm
  rw [reversed, h, List.map_reverse, List.map_map]
  rfl

namespace Layout

theorem Finished.records {settings : Settings} {layout : Layout} {added : List Event}
    {done : Provisioned} (h : layout.Finished m settings w added (.ok done)) :
    unmounted added = [] ∧ done.mounts.planned ++ done.mounts.special =
      (granted m w.events added).map MountRequest.record := by
  obtain ⟨mounts, populated, unmounting, populates, parts, same, unmountsNothing⟩ := h
  obtain ⟨records, kept⟩ := populates.records
  rw [parts, unmountsNothing, List.append_nil, same]
  exact ⟨kept, records⟩

theorem Finished.unmounts {settings : Settings} {layout : Layout} {added : List Event}
    {failure : Failure} (h : layout.Finished m settings w added (.error failure)) :
    unmounted added = ((granted m w.events added).map MountRequest.target).reverse ∧
      (layout.populate settings m {} w).1 = .error failure := by
  obtain ⟨mounts, populated, unmounting, populates, parts, torn, failed⟩ := h
  obtain ⟨records, kept⟩ := populates.records
  refine ⟨?_, failed⟩
  rw [parts, torn, unmounted_append, kept, List.nil_append, unmounted_map, granted_append,
    granted_unmounts, List.append_nil]
  exact Mounts.targets_newestFirst records

theorem prepare_commands (settings : Settings) (reinstall : Bool) (layout : Layout) :
    (layout.prepare settings reinstall).Ensures m w fun added _ _ =>
      ∀ event ∈ added, event.IsCommand := by
  refine (layout.prepare_ensures settings reinstall).mono ?_
  intro added r w' _ h
  obtain ⟨wiping, built, rfl, wiped, commands, _⟩ := h
  refine List.forall_mem_append.2 ⟨fun event mem => ?_, commands⟩
  obtain ⟨command, same, _⟩ := wiped.own event mem
  exact ⟨command, same⟩

def MountsFrom (settings : Settings) (reinstall : Bool) (layout : Layout) (m : Machine)
    (w w' : World) : Prop :=
  layout.validate = .ok () ∧ ∃ wipe, layout.prepare settings reinstall m w = (.ok wipe, w')

/-- Of what a run had mounted, nothing is unmounted if it succeeds, and everything once, newest first,
if it fails; then the failure is the one that stopped it. -/
theorem provision_unmounts (settings : Settings) (reinstall : Bool) (layout : Layout) (m : Machine)
    (w : World) :
    ∃ added, (layout.provision settings reinstall m w).2.events = w.events ++ added ∧
      ((∃ event ∈ added, event.IsMount) → ∃ w', layout.MountsFrom settings reinstall m w w') ∧
      (∀ done, (layout.provision settings reinstall m w).1 = .ok done →
        unmounted added = [] ∧ done.mounts.planned ++ done.mounts.special =
          (granted m w.events added).map MountRequest.record) ∧
      ∀ failure, (layout.provision settings reinstall m w).1 = .error failure →
        unmounted added = ((granted m w.events added).map MountRequest.target).reverse ∧
        ∀ w', layout.MountsFrom settings reinstall m w w' →
          (layout.populate settings m {} w').1 = .error failure := by
  cases fine : layout.validate with
  | error fault =>
    rw [provision_of_fault fine]
    have invalid : ∀ w', ¬ layout.MountsFrom settings reinstall m w w' := by
      intro w' h
      cases fine.symm.trans h.1
    refine ⟨[], (List.append_nil _).symm, by simp, nofun, fun _ _ => ⟨rfl, fun w' h => ?_⟩⟩
    exact absurd h (invalid w')
  | ok _ =>
    rw [provision_of_valid fine, Step.bind_apply]
    -- Before the mounting, commands are all that is asked for: nothing is granted or unmounted.
    obtain ⟨first, events, commands⟩ := layout.prepare_commands settings reinstall (m := m) (w := w)
    have quiet := unmounted_eq_nil_of_commands commands
    have nothing : granted m w.events first = [] := granted_eq_nil_of_commands commands
    rcases prepared : layout.prepare settings reinstall m w with ⟨r, w'⟩
    rw [prepared] at events
    cases r with
    | error failure =>
      refine ⟨first, events, ?_, nofun, fun _ _ => ⟨by rw [quiet, nothing]; rfl, fun w'' h => ?_⟩⟩
      · intro mounts
        obtain ⟨event, mem, mount⟩ := mounts
        exact absurd mount (commands event mem).not_isMount
      · obtain ⟨wipe, succeeded⟩ := h.2
        cases prepared.symm.trans succeeded
    | ok wipe =>
      obtain ⟨later, events', finished⟩ := layout.finish_ensures settings wipe (m := m) (w := w')
      have before : w'.events = w.events ++ first := events
      have from_here : layout.MountsFrom settings reinstall m w w' := ⟨fine, wipe, prepared⟩
      refine ⟨first ++ later, ?_, fun _ => ⟨w', from_here⟩, fun done succeeded => ?_,
        fun failure failed => ?_⟩
      · rw [← List.append_assoc, ← before]
        exact events'
      · have finishes : (layout.finish settings wipe m w').1 = .ok done := succeeded
        rw [finishes] at finished
        obtain ⟨kept, records⟩ := finished.records
        rw [unmounted_append, quiet, granted_append, nothing, ← before]
        exact ⟨kept, records⟩
      · have failed' : (layout.finish settings wipe m w').1 = .error failure := failed
        rw [failed'] at finished
        obtain ⟨unmounts, original⟩ := finished.unmounts
        rw [unmounted_append, quiet, granted_append, nothing, ← before]
        refine ⟨unmounts, ?_⟩
        intro w'' h
        obtain ⟨wipe', same⟩ := h.2
        obtain ⟨-, rfl⟩ := Prod.mk.inj (prepared.symm.trans same)
        exact original

end Layout

end NodeStorage
