import Mathlib.Data.List.DropRight
import Mathlib.Data.List.Perm.Basic
import NodeStorage.Proofs.Target.Mounting

/-! Calls on the mounts below one target root, in any order and number. The machine and the files may
be others at each call, so that anything can fail and anything can be there. The records hold what was
mounted since the last unmounting; the plans of the mount table are only added to. -/

namespace NodeStorage

inductive MountCall where
  | filesystems (plans : List FilesystemPlan)
  | special (firmwareVariables : Bool)
  | teardown
  deriving DecidableEq, Repr

namespace MountCall

def session (root : Path) : MountCall → MountSession Unit
  | filesystems plans => mountFilesystems root plans
  | special firmwareVariables => mountSpecial root firmwareVariables
  | teardown => NodeStorage.teardown

def isTeardown : MountCall → Bool
  | teardown => true
  | filesystems _ | special _ => false

def recorded (root : Path) (s : Mounts) (acts : List MountAct) : MountCall → Mounts
  | teardown => s.withoutRecords
  | filesystems _ | special _ => acts.foldl (MountAct.addTo root) s

inductive Goes (s : Mounts) : MountCall → List MountAct → Except Failure Unit → Prop where
  | filesystems {plans : List FilesystemPlan} {acts : List MountAct} {r : Except Failure Unit}
      (pass : MountPass ((mountOrder plans).map MountItem.planned) acts r) :
      Goes s (.filesystems plans) acts r
  | special {firmwareVariables : Bool} {acts : List MountAct} {r : Except Failure Unit}
      (pass : MountPass ((SpecialMount.all firmwareVariables).map MountItem.special) acts r) :
      Goes s (.special firmwareVariables) acts r
  | teardown : Goes s .teardown (s.newestFirst.map .unmounted) (.ok ())

end MountCall

/-- A call with the machine and the files that it meets. -/
structure MountVisit where
  call : MountCall
  machine : Machine
  files : FileTree

def MountVisit.make (root : Path) (visit : MountVisit) (s : Mounts) (w : World) :
    Except Failure Unit × Mounts × World :=
  visit.call.session root visit.machine s { w with files := visit.files }

/-- A call that was made: the events that came before it, what it did, and its outcome. -/
structure MadeCall where
  visit : MountVisit
  before : List Event
  acts : List MountAct
  result : Except Failure Unit

namespace MadeCall

def isTeardown (call : MadeCall) : Bool := call.visit.call.isTeardown

def events (root : Path) (call : MadeCall) : List Event := mountEvents root call.acts

def granted (root : Path) (call : MadeCall) : List MountRequest :=
  NodeStorage.granted call.visit.machine call.before (call.events root)

def planned (root : Path) (call : MadeCall) : List MountRequest :=
  call.acts.flatMap (MountAct.planned root)

def special (root : Path) (call : MadeCall) : List MountRequest :=
  call.acts.flatMap (MountAct.special root)

def tablePlans (call : MadeCall) : List FilesystemPlan :=
  call.acts.flatMap MountAct.tablePlans

structure Made (root : Path) (s : Mounts) (w : World) (call : MadeCall) : Prop where
  before_eq : call.before = w.events
  result_eq : (call.visit.make root s w).1 = call.result
  events_eq : (call.visit.make root s w).2.2.events = w.events ++ call.events root
  recorded_eq : (call.visit.make root s w).2.1 = call.visit.call.recorded root s call.acts
  goes : call.visit.call.Goes s call.acts call.result
  course : ∃ after,
    MountCourse root call.visit.machine call.before call.visit.files call.acts after

end MadeCall

def sinceTeardown (calls : List MadeCall) : List MadeCall :=
  calls.rtakeWhile fun call => !call.isTeardown

/-- The records as the calls have left them. -/
structure MountAccount (root : Path) (calls : List MadeCall) (s : Mounts) : Prop where
  planned_eq : s.planned =
    ((sinceTeardown calls).flatMap (MadeCall.planned root)).map MountRequest.record
  special_eq : s.special =
    ((sinceTeardown calls).flatMap (MadeCall.special root)).map MountRequest.record
  tablePlans_eq : s.tablePlans = calls.flatMap MadeCall.tablePlans
  balance (target : Path) :
    ((calls.flatMap (MadeCall.granted root)).map MountRequest.target).count target =
      (unmounted (calls.flatMap (MadeCall.events root))).count target +
        ((s.planned ++ s.special).map MountRecord.target).count target

variable {root : Path} {m : Machine} {w : World} {s : Mounts} {call : MadeCall}
  {calls : List MadeCall}

theorem sinceTeardown_concat (calls : List MadeCall) (call : MadeCall) :
    sinceTeardown (calls ++ [call]) =
      if call.isTeardown then [] else sinceTeardown calls ++ [call] := by
  rw [sinceTeardown, List.rtakeWhile_concat]
  cases call.isTeardown <;> rfl

theorem mountEvents_unmounts (root : Path) (records : List MountRecord) :
    mountEvents root (records.map .unmounted) = records.map fun record => .unmount record.target := by
  rw [mountEvents, List.flatMap_map]
  exact List.map_eq_flatMap.symm

theorem MadeCall.Made.granted_eq (h : call.Made root s w) :
    call.granted root = call.acts.flatMap (MountAct.requests root) := by
  obtain ⟨after, course⟩ := h.course
  exact course.granted_eq

theorem MountCall.Goes.processed {plans : List FilesystemPlan} {acts : List MountAct}
    {r : Except Failure Unit} (h : (MountCall.filesystems plans).Goes s acts r) :
    Processed (mountOrder plans) acts r := by
  cases h with
  | filesystems pass => exact pass.processed

theorem MountCall.Goes.acts_teardown {acts : List MountAct} {r : Except Failure Unit}
    (h : MountCall.teardown.Goes s acts r) : acts = s.newestFirst.map .unmounted := by
  cases h
  rfl

theorem MountCall.Goes.unmounted_eq_nil {kind : MountCall} {acts : List MountAct}
    {r : Except Failure Unit} (h : kind.Goes s acts r) (mounts : kind.isTeardown = false) :
    unmounted (mountEvents root acts) = [] := by
  cases h with
  | filesystems pass | special pass =>
    exact NodeStorage.unmounted_eq_nil fun event mem => (pass.isMount event mem).not_isUnmount
  | teardown => cases mounts

theorem MountAct.requests_perm (root : Path) (acts : List MountAct) :
    (acts.flatMap (MountAct.requests root)).Perm
      (acts.flatMap (MountAct.planned root) ++ acts.flatMap (MountAct.special root)) := by
  have each : acts.flatMap (MountAct.requests root) =
      acts.flatMap fun act => act.planned root ++ act.special root :=
    List.flatMap_congr fun act _ => act.requests_eq root
  rw [each]
  exact (List.flatMap_append_perm acts _ _).symm

theorem map_target_record (requests : List MountRequest) :
    (requests.map MountRequest.record).map MountRecord.target = requests.map MountRequest.target :=
  List.map_map

theorem MountAccount.mounting (h : MountAccount root calls s) (made : call.Made root s w)
    (mounts : call.isTeardown = false) :
    MountAccount root (calls ++ [call]) (call.acts.foldl (MountAct.addTo root) s) where
  planned_eq := by
    rw [planned_foldl_addTo, h.planned_eq, sinceTeardown_concat, mounts]
    simp [MadeCall.planned]
  special_eq := by
    rw [special_foldl_addTo, h.special_eq, sinceTeardown_concat, mounts]
    simp [MadeCall.special]
  tablePlans_eq := by
    rw [tablePlans_foldl_addTo, h.tablePlans_eq, List.flatMap_append, List.flatMap_singleton]
    rfl
  balance target := by
    have more : ((call.granted root).map MountRequest.target).count target =
        ((call.planned root).map MountRequest.target).count target +
          ((call.special root).map MountRequest.target).count target := by
      rw [made.granted_eq, ← List.count_append, ← List.map_append]
      exact ((MountAct.requests_perm root call.acts).map _).count_eq target
    have quiet : unmounted (call.events root) = [] := made.goes.unmounted_eq_nil mounts
    have balance := h.balance target
    rw [planned_foldl_addTo, special_foldl_addTo]
    simp only [List.flatMap_append, List.flatMap_singleton, List.map_append, List.count_append,
      unmounted_append, quiet, List.count_nil, map_target_record] at balance more ⊢
    unfold MadeCall.planned MadeCall.special at more
    -- Mounts granted and mounts recorded grow by the same; no unmount is added.
    omega

theorem MountAccount.teardown (h : MountAccount root calls s) (made : call.Made root s w)
    (unmounts : call.isTeardown = true) (acts : call.acts = s.newestFirst.map .unmounted) :
    MountAccount root (calls ++ [call]) s.withoutRecords where
  planned_eq := by
    rw [sinceTeardown_concat, unmounts]
    rfl
  special_eq := by
    rw [sinceTeardown_concat, unmounts]
    rfl
  tablePlans_eq := by
    have noPlans : call.tablePlans = [] := by
      rw [MadeCall.tablePlans, acts, List.flatMap_map]
      exact List.flatMap_eq_nil_iff.2 fun _ _ => rfl
    rw [List.flatMap_append, List.flatMap_singleton, noPlans, List.append_nil]
    exact h.tablePlans_eq
  balance target := by
    have quiet : call.granted root = [] := by
      rw [made.granted_eq, acts, List.flatMap_map]
      exact List.flatMap_eq_nil_iff.2 fun _ _ => rfl
    have all : unmounted (call.events root) = s.newestFirst.map MountRecord.target := by
      rw [MadeCall.events, acts, mountEvents_unmounts]
      simp [unmounted, List.filterMap_map]
    have balance := h.balance target
    simp only [List.flatMap_append, List.flatMap_singleton, List.map_append, List.count_append,
      unmounted_append, quiet, all, List.append_nil, Mounts.newestFirst, Mounts.withoutRecords,
      List.map_reverse, List.count_reverse, List.map_nil, List.count_nil] at balance ⊢
    omega

theorem MountAccount.next (h : MountAccount root calls s) (made : call.Made root s w) :
    MountAccount root (calls ++ [call]) (call.visit.call.recorded root s call.acts) := by
  have goes := made.goes
  cases kind : call.visit.call with
  | filesystems plans => exact h.mounting made (by rw [MadeCall.isTeardown, kind]; rfl)
  | special firmwareVariables => exact h.mounting made (by rw [MadeCall.isTeardown, kind]; rfl)
  | teardown =>
    rw [kind] at goes
    exact h.teardown made (by rw [MadeCall.isTeardown, kind]; rfl) goes.acts_teardown

theorem MountAccount.start : MountAccount root [] {} := ⟨rfl, rfl, rfl, fun _ => rfl⟩

end NodeStorage
