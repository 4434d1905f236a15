import Mathlib.Data.List.Basic
import NodeStorage.Proofs.Target.MountPass

/-! What is mounted, and what is recorded of it. The records follow the requests that the machine
granted, in order, wherever the mounting stops; unmounting goes through all records from the last
one back, whatever the machine says to it. -/

namespace NodeStorage

variable {m : Machine} {w : World} {s : Mounts}

/-- The mounts that the machine granted, among these events after the earlier ones. -/
def granted (m : Machine) (before : List Event) : List Event → List MountRequest
  | [] => []
  | .mount request :: rest =>
    (if (m.mount before request).isOk then [request] else []) ++
      granted m (before ++ [.mount request]) rest
  | event :: rest => granted m (before ++ [event]) rest

def unmounted (events : List Event) : List Path :=
  events.filterMap fun
    | .unmount target => some target
    | _ => none

theorem granted_append (before first second : List Event) :
    granted m before (first ++ second) =
      granted m before first ++ granted m (before ++ first) second := by
  induction first generalizing before with
  | nil => simp [granted]
  | cons event rest ih =>
    cases event with
    | mount request => simp [granted, ih, List.append_assoc]
    | command command => simp [granted, ih, List.append_assoc]
    | unmount target => simp [granted, ih, List.append_assoc]

theorem granted_eq_nil {before events : List Event} (h : ∀ event ∈ events, ¬ event.IsMount) :
    granted m before events = [] := by
  induction events generalizing before with
  | nil => rfl
  | cons event rest ih =>
    have others : ∀ e ∈ rest, ¬ e.IsMount := fun e mem => h e (by simp [mem])
    cases event with
    | mount request => exact absurd ⟨request, rfl⟩ (h (.mount request) (by simp))
    | command command => exact ih others
    | unmount target => exact ih others

theorem unmounted_append (first second : List Event) :
    unmounted (first ++ second) = unmounted first ++ unmounted second :=
  List.filterMap_append

theorem unmounted_eq_nil {events : List Event} (h : ∀ event ∈ events, ¬ event.IsUnmount) :
    unmounted events = [] := by
  refine List.filterMap_eq_nil_iff.2 fun event mem => ?_
  cases event with
  | unmount target => exact absurd ⟨target, rfl⟩ (h _ mem)
  | command command => rfl
  | mount request => rfl

theorem MountAct.requests_eq (root : Path) (act : MountAct) :
    act.requests root = act.planned root ++ act.special root := by
  rcases act with plan | item | item | ⟨plan | other⟩ | record <;> rfl

theorem MountCourse.granted_eq {root : Path} {before : List Event} {files after : FileTree}
    {acts : List MountAct} (h : MountCourse root m before files acts after) :
    granted m before (mountEvents root acts) = acts.flatMap (MountAct.requests root) := by
  induction h with
  | done => rfl
  | @next before files between after act acts happens rest ih =>
    have first : granted m before (act.events root) = act.requests root := by
      cases happens with
      | noted | blocked | unmounted => rfl
      | refused _ _ answer =>
        simp [MountAct.events, MountAct.requests, granted, answer, Except.isOk, Except.toBool]
      | mounted _ _ answer =>
        simp [MountAct.events, MountAct.requests, granted, answer, Except.isOk, Except.toBool]
    rw [mountEvents, List.flatMap_cons, granted_append, first, List.flatMap_cons, ← ih, mountEvents]

structure Mounted (m : Machine) (before : List Event) (s : Mounts) (added : List Event)
    (planned special : List MountRequest) (s' : Mounts) : Prop where
  only : ∀ event ∈ added, event.IsMount
  granted_eq : granted m before added = planned ++ special
  planned_eq : s'.planned = s.planned ++ planned.map MountRequest.record
  special_eq : s'.special = s.special ++ special.map MountRequest.record

theorem Mounted.trans {before first second : List Event} {s' s'' : Mounts}
    {planned special planned' special' : List MountRequest}
    (h : Mounted m before s first planned special s')
    (h' : Mounted m (before ++ first) s' second planned' special' s'')
    (last : special = [] ∨ planned' = []) :
    Mounted m before s (first ++ second) (planned ++ planned') (special ++ special') s'' where
  only := List.forall_mem_append.2 ⟨h.only, h'.only⟩
  granted_eq := by
    rw [granted_append, h.granted_eq, h'.granted_eq]
    rcases last with rfl | rfl
    · simp
    · simp
  planned_eq := by rw [h'.planned_eq, h.planned_eq, List.map_append, List.append_assoc]
  special_eq := by rw [h'.special_eq, h.special_eq, List.map_append, List.append_assoc]

theorem mountFilesystems_ensures (root : Path) (plans : List FilesystemPlan) :
    (mountFilesystems root plans).Ensures m s w fun added r s' _ =>
      (∃ planned, Mounted m w.events s added planned [] s') ∧
        (r = .ok () → s'.tablePlans = s.tablePlans ++ mountOrder plans) := by
  refine (mountFilesystems_passes root plans).mono ?_
  rintro added r s' w' _ ⟨acts, rfl, course, rfl, pass⟩
  have unspecial : acts.flatMap (MountAct.special root) = [] :=
    List.flatMap_eq_nil_iff.2 pass.special_eq_nil
  refine ⟨⟨acts.flatMap (MountAct.planned root), pass.isMount, ?_, ?_, ?_⟩, fun ok => ?_⟩
  · rw [course.granted_eq, List.append_nil]
    refine List.flatMap_congr fun act mem => ?_
    rw [act.requests_eq, pass.special_eq_nil act mem, List.append_nil]
  · exact planned_foldl_addTo root acts s
  · rw [special_foldl_addTo, unspecial]
  · rw [tablePlans_foldl_addTo, pass.processed.all ok]

theorem mountSpecial_ensures (root : Path) (firmwareVariables : Bool) :
    (mountSpecial root firmwareVariables).Ensures m s w fun added r s' _ =>
      (∃ special, Mounted m w.events s added [] special s') ∧
        (r = .ok () → s'.tablePlans = s.tablePlans) := by
  refine (mountSpecial_passes root firmwareVariables).mono ?_
  rintro added r s' w' _ ⟨acts, rfl, course, rfl, pass⟩
  have unplanned : acts.flatMap (MountAct.planned root) = [] :=
    List.flatMap_eq_nil_iff.2 pass.planned_eq_nil
  have unlisted : acts.flatMap MountAct.tablePlans = [] :=
    List.flatMap_eq_nil_iff.2 pass.tablePlans_eq_nil
  refine ⟨⟨acts.flatMap (MountAct.special root), pass.isMount, ?_, ?_, ?_⟩, fun _ => ?_⟩
  · rw [course.granted_eq, List.nil_append]
    refine List.flatMap_congr fun act mem => ?_
    rw [act.requests_eq, pass.planned_eq_nil act mem, List.nil_append]
  · rw [planned_foldl_addTo, unplanned]
  · exact special_foldl_addTo root acts s
  · rw [tablePlans_foldl_addTo, unlisted, List.append_nil]

theorem mountFilesystems_mounts_all (root : Path) (plans : List FilesystemPlan) :
    (mountFilesystems root plans).Ensures m s w fun added r s' _ => r = .ok () →
      granted m w.events added = mountedPlans root (mountOrder plans) ∧
        s'.planned = s.planned ++ (mountedPlans root (mountOrder plans)).map MountRequest.record ∧
        s'.special = s.special ∧ s'.tablePlans = s.tablePlans ++ mountOrder plans := by
  refine (mountFilesystems_passes root plans).mono ?_
  rintro added r s' w' _ ⟨acts, rfl, course, rfl, pass⟩ rfl
  have all : acts.flatMap (MountAct.planned root) = mountedPlans root (mountOrder plans) := by
    rw [pass.acts_eq, planned_acts]
  have unspecial : acts.flatMap (MountAct.special root) = [] :=
    List.flatMap_eq_nil_iff.2 pass.special_eq_nil
  refine ⟨?_, ?_, ?_, ?_⟩
  · rw [course.granted_eq, ← all]
    refine List.flatMap_congr fun act mem => ?_
    rw [act.requests_eq, pass.special_eq_nil act mem, List.append_nil]
  · rw [planned_foldl_addTo, all]
  · rw [special_foldl_addTo, unspecial]
    exact List.append_nil _
  · rw [tablePlans_foldl_addTo, pass.processed.all rfl]

theorem mountSpecial_mounts_all (root : Path) (firmwareVariables : Bool) :
    (mountSpecial root firmwareVariables).Ensures m s w fun added r s' _ => r = .ok () →
      granted m w.events added = (SpecialMount.all firmwareVariables).map (SpecialMount.request root) ∧
        s'.planned = s.planned ∧
        s'.special = s.special ++ ((SpecialMount.all firmwareVariables).map
          (SpecialMount.request root)).map MountRequest.record ∧
        s'.tablePlans = s.tablePlans := by
  refine (mountSpecial_passes root firmwareVariables).mono ?_
  rintro added r s' w' _ ⟨acts, rfl, course, rfl, pass⟩ rfl
  have unplanned : acts.flatMap (MountAct.planned root) = [] :=
    List.flatMap_eq_nil_iff.2 pass.planned_eq_nil
  have unlisted : acts.flatMap MountAct.tablePlans = [] :=
    List.flatMap_eq_nil_iff.2 pass.tablePlans_eq_nil
  have all : acts.flatMap (MountAct.special root) =
      (SpecialMount.all firmwareVariables).map (SpecialMount.request root) := by
    rw [pass.acts_eq, List.map_map, List.flatMap_map]
    exact List.map_eq_flatMap.symm
  refine ⟨?_, ?_, ?_, ?_⟩
  · rw [course.granted_eq, ← all]
    refine List.flatMap_congr fun act mem => ?_
    rw [act.requests_eq, pass.planned_eq_nil act mem, List.nil_append]
  · rw [planned_foldl_addTo, unplanned]
    exact List.append_nil _
  · rw [special_foldl_addTo, all]
  · rw [tablePlans_foldl_addTo, unlisted, List.append_nil]

theorem unmountRecord_ensures (record : MountRecord) :
    (unmountRecord record).Ensures m w fun added r _ =>
      added = [.unmount record.target] ∧ r = .ok () := by
  unfold unmountRecord
  have asked : (Step.attempt (Step.unmount record.target)).Ensures m w fun added r _ =>
      added = [.unmount record.target] ∧ ∃ answer, r = .ok answer :=
    Step.ensures_attempt (Step.ensures_unmount ⟨rfl, _, rfl⟩)
  refine Step.ensures_bind asked ?_ ?_
  · intro added failure w' _ h
    obtain ⟨answer, failed⟩ := h.2
    cases failed
  · intro added answer w' _ h
    rw [h.1]
    cases answer with
    | ok _ => exact Step.ensures_pure ⟨rfl, rfl⟩
    | error failure => exact Step.ensures_note ⟨rfl, rfl⟩

theorem forEach_unmountRecord_ensures (records : List MountRecord) :
    (Step.forEach unmountRecord records).Ensures m w fun added r _ =>
      added = records.map (fun record => .unmount record.target) ∧ ∃ units, r = .ok units := by
  induction records generalizing w with
  | nil => exact Step.ensures_pure ⟨rfl, [], rfl⟩
  | cons record rest ih =>
    rw [Step.forEach_cons]
    refine Step.ensures_bind (unmountRecord_ensures record) ?_ ?_
    · intro added failure w' _ h
      cases h.2
    · intro added a w' _ h
      rw [h.1]
      refine Step.ensures_bind ih ?_ ?_
      · intro more failure w'' _ h'
        obtain ⟨units, failed⟩ := h'.2
        cases failed
      · intro more units w'' _ h'
        rw [h'.1]
        exact Step.ensures_pure ⟨by simp, _, rfl⟩

theorem isUnmount_of_mem_unmounts {records : List MountRecord} {event : Event}
    (h : event ∈ records.map fun record => .unmount record.target) : event.IsUnmount := by
  obtain ⟨record, _, rfl⟩ := List.mem_map.1 h
  exact ⟨record.target, rfl⟩

theorem teardown_apply : teardown m s w =
    ((Step.forEach unmountRecord s.newestFirst m w).1.map fun _ => (), s.withoutRecords,
      (Step.forEach unmountRecord s.newestFirst m w).2) := by
  have asked : teardown m s w = ((liftM (Step.forEach unmountRecord s.newestFirst) >>= fun _ =>
      Pure.pure () : MountSession Unit)) m s.withoutRecords w := rfl
  rw [asked, Session.bind_apply, Session.lift_apply]
  rcases Step.forEach unmountRecord s.newestFirst m w with ⟨failure | units, w'⟩
  · rfl
  · rfl

/-- Unmounting asks for every record once, the newest first, and never fails; no record is left. -/
theorem teardown_unmounts :
    teardown.Ensures m s w fun added r s' _ =>
      added = s.newestFirst.map (fun record => .unmount record.target) ∧ r = .ok () ∧
        s' = s.withoutRecords := by
  obtain ⟨added, events, same, units, ok⟩ := forEach_unmountRecord_ensures (m := m) (w := w)
    s.newestFirst
  rw [Session.Ensures, teardown_apply, ok]
  exact ⟨added, events, same, rfl, rfl⟩

theorem teardown_ensures :
    (Session.whole s teardown).Ensures m w fun added r _ =>
      added = s.newestFirst.map (fun record => .unmount record.target) ∧ r = .ok () :=
  Session.ensures_whole (teardown_unmounts.mono fun _ _ _ _ _ h => ⟨h.1, h.2.1⟩)

end NodeStorage
