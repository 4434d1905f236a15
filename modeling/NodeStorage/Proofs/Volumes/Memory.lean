import NodeStorage.Proofs.Volumes.Session

/-! What a session remembers of groups and volumes, whatever it is called for and however the machine
answers. Nothing is known before a listing succeeds; from then on exactly what was listed and what has
been created is known, so nothing is listed again and nothing is created twice. -/

namespace NodeStorage

open VolumeCatalog

inductive VolumeCall where
  | groups (plans : List VolumeGroupPlan)
  | volumes (plans : List LogicalVolumePlan)
  deriving DecidableEq, Repr

namespace VolumeCall

def perform : VolumeCall → VolumeSession Unit
  | groups plans => createGroups plans
  | volumes plans => createVolumes plans

def objects : VolumeCall → List PlannedObject
  | groups plans => plans.map .group
  | volumes plans => plans.map .volume

end VolumeCall

theorem VolumeCall.perform_eq (call : VolumeCall) :
    call.perform = Session.forEach PlannedObject.create call.objects := by
  cases call with
  | groups plans => exact (Session.forEach_map PlannedObject.create PlannedObject.group plans).symm
  | volumes plans => exact (Session.forEach_map PlannedObject.create PlannedObject.volume plans).symm

/-- All calls one after the other, whether or not they fail. -/
def performAll (m : Machine) : List VolumeCall → Option VolumeCatalog → World →
    List (Except Failure Unit) × Option VolumeCatalog × World
  | [], s, w => ([], s, w)
  | call :: rest, s, w =>
    let (r, s, w) := call.perform m s w
    let (rs, s, w) := performAll m rest s w
    (r :: rs, s, w)

/-- The objects of a call, its acts and its result. -/
structure CallRecord where
  objects : List PlannedObject
  acts : List VolumeAct
  result : Except Failure Unit

/-- A call lists only before the first of its objects, gives them their turns in order, and ends with
the first failure. -/
structure CallRecord.Sound (record : CallRecord) : Prop where
  idle : record.objects = [] → record.acts = []
  lists_first : ∀ act ∈ record.acts.tail, ¬ act.IsListing
  turns : record.acts.filterMap VolumeAct.object? <+: record.objects
  complete : record.result = .ok () → record.acts.filterMap VolumeAct.object? = record.objects
  fails_last : ∀ act ∈ record.acts.dropLast, ¬ act.IsFailure
  succeeds_iff : record.result = .ok () ↔ ∀ act ∈ record.acts, ¬ act.IsFailure

theorem Turn.object_eq {object : PlannedObject} {act : VolumeAct} {r : Except Failure Unit}
    (h : Turn object act r) : act.object? = some object := by
  cases h <;> rfl

theorem Turn.not_listing {object : PlannedObject} {act : VolumeAct} {r : Except Failure Unit}
    (h : Turn object act r) : ¬ act.IsListing := by
  cases h <;> exact id

theorem Turn.succeeds_iff {object : PlannedObject} {act : VolumeAct} {r : Except Failure Unit}
    (h : Turn object act r) : r = .ok () ↔ ¬ act.IsFailure := by
  cases h <;> simp [VolumeAct.IsFailure]

namespace Turns

variable {objects : List PlannedObject} {acts : List VolumeAct} {r : Except Failure Unit}

theorem not_listing (h : Turns objects acts r) : ∀ act ∈ acts, ¬ act.IsListing := by
  induction h with
  | none => simp
  | next turn _ ih => exact List.forall_mem_cons.2 ⟨turn.not_listing, ih⟩
  | last turn => exact List.forall_mem_singleton.2 turn.not_listing

theorem objects_eq (h : Turns objects acts r) : acts.filterMap VolumeAct.object? <+: objects ∧
    (r = .ok () → acts.filterMap VolumeAct.object? = objects) := by
  induction h with
  | none => simp
  | next turn _ ih =>
    rw [List.filterMap_cons_some turn.object_eq]
    exact ⟨(List.prefix_cons_inj _).2 ih.1, fun ok => congrArg _ (ih.2 ok)⟩
  | last turn =>
    rw [List.filterMap_cons_some turn.object_eq]
    exact ⟨(List.prefix_cons_inj _).2 List.nil_prefix, nofun⟩

theorem fails_last (h : Turns objects acts r) : ∀ act ∈ acts.dropLast, ¬ act.IsFailure := by
  induction h with
  | none => simp
  | @next _ _ act acts _ turn _ ih =>
    cases acts with
    | nil => simp
    | cons later rest =>
      rw [List.dropLast_cons_cons]
      exact List.forall_mem_cons.2 ⟨turn.succeeds_iff.1 rfl, ih⟩
  | last turn => simp

theorem succeeds_iff (h : Turns objects acts r) : r = .ok () ↔ ∀ act ∈ acts, ¬ act.IsFailure := by
  induction h with
  | none => simp
  | next turn _ ih =>
    rw [ih, List.forall_mem_cons]
    exact (and_iff_right (turn.succeeds_iff.1 rfl)).symm
  | last turn =>
    rw [List.forall_mem_singleton]
    exact turn.succeeds_iff

theorem sound (h : Turns objects acts r) : CallRecord.Sound ⟨objects, acts, r⟩ where
  idle empty := by
    cases h with
    | none => rfl
    | _ => cases empty
  lists_first act mem := h.not_listing act (List.mem_of_mem_tail mem)
  turns := h.objects_eq.1
  complete := h.objects_eq.2
  fails_last := h.fails_last
  succeeds_iff := h.succeeds_iff

end Turns

theorem Attended.sound {known : Option VolumeCatalog} {objects : List PlannedObject}
    {acts : List VolumeAct} {r : Except Failure Unit} (h : Attended known objects acts r) :
    CallRecord.Sound ⟨objects, acts, r⟩ := by
  cases h with
  | idle => exact Turns.none.sound
  | known turns => exact turns.sound
  | @listed _ _ _ _ acts _ turns =>
    refine ⟨nofun, turns.not_listing, turns.objects_eq.1, turns.objects_eq.2, ?_, ?_⟩
    · intro act mem
      cases acts with
      | nil => simp at mem
      | cons later rest =>
        rcases List.mem_cons.1 mem with rfl | mem
        · exact id
        · exact turns.fails_last act mem
    · rw [turns.succeeds_iff, List.forall_mem_cons]
      exact (and_iff_right id).symm
  | unlisted =>
    exact ⟨nofun, by simp, List.nil_prefix, nofun, by simp, by simp [VolumeAct.IsFailure]⟩

def actsOf (records : List CallRecord) : List VolumeAct := records.flatMap CallRecord.acts

/-- The records are those of the calls, and their acts are what the session did. -/
structure Recorded (m : Machine) (calls : List VolumeCall) (s : Option VolumeCatalog) (w : World)
    (records : List CallRecord) : Prop where
  objects : records.map CallRecord.objects = calls.map VolumeCall.objects
  results : records.map CallRecord.result = (performAll m calls s w).1
  sound : ∀ record ∈ records, record.Sound
  known : (performAll m calls s w).2.1 = knownAfter s (actsOf records)
  events : (performAll m calls s w).2.2.events = w.events ++ eventsOf (actsOf records)
  course : Course m w.events s (actsOf records)

theorem exists_recorded_notices (m : Machine) (calls : List VolumeCall) (s : Option VolumeCatalog)
    (w : World) : ∃ records, Recorded m calls s w records ∧
      (performAll m calls s w).2.2.notices = w.notices ++ noticesOf s (actsOf records) := by
  induction calls generalizing s w with
  | nil =>
    exact ⟨[], ⟨rfl, rfl, by simp, rfl, (List.append_nil _).symm, .start⟩,
      (List.append_nil _).symm⟩
  | cons call rest ih =>
    obtain ⟨added, events, acts, rfl, known, course, attended, said⟩ :=
      forEach_create_ensures (m := m) call.objects s w
    rw [← call.perform_eq] at events known attended said
    rcases performed : call.perform m s w with ⟨r, s', w'⟩
    rw [performed] at events known attended said
    obtain rfl : s' = knownAfter s acts := known
    have before : w'.events = w.events ++ eventsOf acts := events
    have saidBefore : w'.notices = w.notices ++ noticesOf s acts := said
    -- The later calls begin with what the first has left known.
    obtain ⟨records, more, later⟩ := ih (knownAfter s acts) w'
    have whole : performAll m (call :: rest) s w =
        (r :: (performAll m rest (knownAfter s acts) w').1,
          (performAll m rest (knownAfter s acts) w').2) := by
      rw [performAll, performed]
    have parts : actsOf (⟨call.objects, acts, r⟩ :: records) = acts ++ actsOf records := rfl
    refine ⟨⟨call.objects, acts, r⟩ :: records, ⟨?_, ?_, ?_, ?_, ?_, ?_⟩, ?_⟩
    · rw [List.map_cons, List.map_cons, more.objects]
    · rw [whole, List.map_cons, more.results]
    · exact List.forall_mem_cons.2 ⟨attended.sound, more.sound⟩
    · rw [whole, parts, knownAfter_append]
      exact more.known
    · rw [whole, parts, eventsOf_append, ← List.append_assoc, ← before]
      exact more.events
    · have next := more.course
      rw [before] at next
      exact course.append next
    · rw [whole, parts, noticesOf_append, ← List.append_assoc, ← saidBefore]
      exact later

def listedKeys (groupReport volumeReport : String) : List ObjectKey :=
  (groupRows groupReport).map (fun row => .group row.1) ++
    (rows volumeReport).map fun row => .volume row.1 row.2

def VolumeAct.createdKey? : VolumeAct → Option ObjectKey
  | created object _ => some object.key
  | _ => none

def createdKeys (acts : List VolumeAct) : List ObjectKey := acts.filterMap VolumeAct.createdKey?

theorem VolumeCatalog.holds_ofReports {groupReport volumeReport : String} {key : ObjectKey} :
    (ofReports groupReport volumeReport).holds key = true ↔
      key ∈ listedKeys groupReport volumeReport := by
  cases key with
  | group name => simp [holds, hasGroup, ofReports, Keyed.lookup_ofPairs, listedKeys]
  | volume group name => simp [holds, hasVolume, ofReports, listedKeys]

def listedCount (groupReport name : String) : Option Nat :=
  (groupRows groupReport).reverse.lookup name

theorem VolumeCatalog.volumeCount_ofReports (groupReport volumeReport name : String) :
    (ofReports groupReport volumeReport).volumeCount name =
      (listedCount groupReport name).getD 0 := by
  rw [volumeCount, ofReports, Keyed.lookup_ofPairs, listedCount]

theorem PlannedObject.holds_addTo {object : PlannedObject} {catalog : VolumeCatalog}
    {key : ObjectKey} :
    (object.addTo catalog).holds key = true ↔ key = object.key ∨ catalog.holds key = true := by
  cases object with
  | group plan =>
    cases key with
    | group name =>
      by_cases same : name = plan.name
      · simp [addTo, VolumeCatalog.holds, hasGroup, addGroup, PlannedObject.key, same,
          Keyed.lookup_put]
      · simp [addTo, VolumeCatalog.holds, hasGroup, addGroup, PlannedObject.key, same,
          Keyed.lookup_put_ne]
    | volume group name => simp [addTo, VolumeCatalog.holds, hasVolume, addGroup, PlannedObject.key]
  | volume plan =>
    cases key with
    | group name => simp [addTo, VolumeCatalog.holds, hasGroup, addVolume, PlannedObject.key]
    | volume group name =>
      simp [addTo, VolumeCatalog.holds, hasVolume, addVolume, PlannedObject.key, or_comm]

theorem PlannedObject.volumeCount_addTo_self (plan : VolumeGroupPlan) (catalog : VolumeCatalog) :
    ((group plan).addTo catalog).volumeCount plan.name = plan.devices.length := by
  simp [addTo, volumeCount, addGroup, Keyed.lookup_put]

theorem PlannedObject.volumeCount_addTo {object : PlannedObject} {catalog : VolumeCatalog}
    {name : String} (other : .group name ≠ object.key) :
    (object.addTo catalog).volumeCount name = catalog.volumeCount name := by
  cases object with
  | group plan =>
    have different : name ≠ plan.name := fun same => other (congrArg _ same)
    simp [addTo, volumeCount, addGroup, Keyed.lookup_put_ne _ _ _ _ different]
  | volume plan => rfl

structure Reflects (groupReport volumeReport : String) (turns : List VolumeAct)
    (catalog : VolumeCatalog) : Prop where
  holds_iff : ∀ key, catalog.holds key = true ↔
    key ∈ listedKeys groupReport volumeReport ∨ key ∈ createdKeys turns
  created_once : (createdKeys turns).Nodup
  created_unlisted : ∀ key ∈ createdKeys turns, key ∉ listedKeys groupReport volumeReport
  count_created : ∀ plan command, .created (.group plan) command ∈ turns →
    catalog.volumeCount plan.name = plan.devices.length
  count_listed : ∀ name, .group name ∉ createdKeys turns →
    catalog.volumeCount name = (listedCount groupReport name).getD 0

/-- What is known after these acts. While all listings failed nothing is known; after the one that did
not there is no other. -/
inductive Memory (acts : List VolumeAct) : Option VolumeCatalog → Prop where
  | nothing (failed : ∀ act ∈ acts, ∃ asked, act = .unlisted asked) : Memory acts none
  | something {failures turns : List VolumeAct} {groupReport volumeReport : String}
      {catalog : VolumeCatalog} (parts : acts = failures ++ .listed groupReport volumeReport :: turns)
      (failed : ∀ act ∈ failures, ∃ asked, act = .unlisted asked)
      (later : ∀ act ∈ turns, ¬ act.IsListing)
      (reflects : Reflects groupReport volumeReport turns catalog) : Memory acts (some catalog)

theorem createdKeys_concat (acts : List VolumeAct) (act : VolumeAct) :
    createdKeys (acts ++ [act]) = createdKeys acts ++ act.createdKey?.toList := by
  rw [createdKeys, List.filterMap_append]
  cases created : act.createdKey? with
  | none => rw [List.filterMap_cons_none created]; rfl
  | some key => rw [List.filterMap_cons_some created]; rfl

theorem reflects_ofReports (groupReport volumeReport : String) :
    Reflects groupReport volumeReport [] (ofReports groupReport volumeReport) where
  holds_iff key := by
    rw [holds_ofReports]
    simp [createdKeys]
  created_once := List.nodup_nil
  created_unlisted := by simp [createdKeys]
  count_created := by simp
  count_listed name _ := volumeCount_ofReports groupReport volumeReport name

theorem Reflects.unchanged {groupReport volumeReport : String} {turns : List VolumeAct}
    {catalog : VolumeCatalog} {act : VolumeAct} (h : Reflects groupReport volumeReport turns catalog)
    (uncreated : act.createdKey? = none) :
    Reflects groupReport volumeReport (turns ++ [act]) catalog := by
  have same : createdKeys (turns ++ [act]) = createdKeys turns := by
    rw [createdKeys_concat, uncreated]
    exact List.append_nil _
  refine ⟨same ▸ h.holds_iff, same ▸ h.created_once, same ▸ h.created_unlisted, ?_,
    same ▸ h.count_listed⟩
  intro plan command mem
  rcases List.mem_append.1 mem with mem | last
  · exact h.count_created plan command mem
  · rw [← List.mem_singleton.1 last] at uncreated
    cases uncreated

theorem Reflects.created {groupReport volumeReport : String} {turns : List VolumeAct}
    {catalog : VolumeCatalog} {object : PlannedObject} {command : Command}
    (h : Reflects groupReport volumeReport turns catalog)
    (new : catalog.holds object.key = false) :
    Reflects groupReport volumeReport (turns ++ [.created object command])
      (object.addTo catalog) := by
  -- The object is neither listed nor created before, so it is new to both.
  have unheld : ¬ (object.key ∈ listedKeys groupReport volumeReport ∨
      object.key ∈ createdKeys turns) := by
    rw [← h.holds_iff, new]
    exact Bool.false_ne_true
  have keys : createdKeys (turns ++ [.created object command]) =
      createdKeys turns ++ [object.key] := createdKeys_concat turns _
  refine ⟨fun key => ?_, ?_, fun key mem => ?_, fun plan command' mem => ?_, fun name absent => ?_⟩
  · rw [PlannedObject.holds_addTo, h.holds_iff, keys, List.mem_append, List.mem_singleton, or_comm,
      or_assoc]
  · rw [keys, List.nodup_append]
    refine ⟨h.created_once, by simp, ?_⟩
    rintro key mem last same rfl
    rw [List.mem_singleton] at same
    exact unheld (.inr (same ▸ mem))
  · rw [keys, List.mem_append, List.mem_singleton] at mem
    rcases mem with mem | rfl
    · exact h.created_unlisted key mem
    · exact fun listed => unheld (.inl listed)
  · rcases List.mem_append.1 mem with mem | last
    · have other : .group plan.name ≠ object.key := by
        intro same
        refine unheld (.inr ?_)
        rw [← same]
        exact List.mem_filterMap.2 ⟨_, mem, rfl⟩
      rw [PlannedObject.volumeCount_addTo other]
      exact h.count_created plan command' mem
    · obtain ⟨rfl, rfl⟩ := VolumeAct.created.inj (List.mem_singleton.1 last)
      exact PlannedObject.volumeCount_addTo_self plan catalog
  · rw [keys, List.mem_append, List.mem_singleton, not_or] at absent
    rw [PlannedObject.volumeCount_addTo absent.2]
    exact h.count_listed name absent.1

theorem Memory.listed {acts : List VolumeAct} (h : Memory acts none) (groupReport volumeReport : String) :
    Memory (acts ++ [.listed groupReport volumeReport])
      (some (ofReports groupReport volumeReport)) := by
  cases h with
  | nothing failed => exact .something rfl failed (by simp) (reflects_ofReports _ _)

theorem Memory.unlisted {acts : List VolumeAct} (h : Memory acts none) (asked : List Command) :
    Memory (acts ++ [.unlisted asked]) none := by
  cases h with
  | nothing failed =>
    exact .nothing (List.forall_mem_append.2 ⟨failed, List.forall_mem_singleton.2 ⟨asked, rfl⟩⟩)

theorem Memory.turn {acts : List VolumeAct} {catalog after : VolumeCatalog} {act : VolumeAct}
    (h : Memory acts (some catalog)) (quiet : ¬ act.IsListing)
    (reflects : ∀ {groupReport volumeReport turns},
      Reflects groupReport volumeReport turns catalog →
        Reflects groupReport volumeReport (turns ++ [act]) after) :
    Memory (acts ++ [act]) (some after) := by
  cases h with
  | something parts failed later was =>
    refine .something ?_ failed (List.forall_mem_append.2 ⟨later, List.forall_mem_singleton.2 quiet⟩)
      (reflects was)
    rw [parts, List.append_assoc, List.cons_append]

/-- The memory of a course that starts with nothing. -/
theorem Course.memory {m : Machine} {before : List Event} {acts : List VolumeAct}
    (h : Course m before none acts) : Memory acts (knownAfter none acts) := by
  induction h with
  | start => exact .nothing (by simp)
  | @next past act _ happens ih =>
    rw [knownAfter_append]
    generalize knownAfter none past = known at happens ih
    cases happens with
    | listed => exact ih.listed _ _
    | groupsUnlisted => exact ih.unlisted _
    | volumesUnlisted => exact ih.unlisted _
    | kept => exact ih.turn id fun was => was.unchanged rfl
    | refused => exact ih.turn id fun was => was.unchanged rfl
    | created new => exact ih.turn id fun was => was.created new

def VolumeAct.listedCount? (name : String) : VolumeAct → Option Nat
  | listed groupReport _ => listedCount groupReport name
  | _ => none

/-- What a session does and what it remembers at each moment of it. -/
structure VolumeAccount (m : Machine) (before : List Event) (acts : List VolumeAct) : Prop where
  course : Course m before none acts
  memory : ∀ past, past <+: acts → Memory past (knownAfter none past)
  unlisted : ∀ past asked, past ++ [.unlisted asked] <+: acts →
    knownAfter none (past ++ [.unlisted asked]) = none
  refused : ∀ past object command, past ++ [.refused object command] <+: acts →
    knownAfter none (past ++ [.refused object command]) = knownAfter none past
  count_created : ∀ past, past <+: acts → ∀ plan command, .created (.group plan) command ∈ past →
    recordedCount (knownAfter none past) plan.name = plan.devices.length
  count_listed : ∀ past, past <+: acts → ∀ name, .group name ∉ createdKeys past →
    recordedCount (knownAfter none past) name =
      (past.findSome? (VolumeAct.listedCount? name)).getD 0

theorem Course.of_prefix {m : Machine} {before : List Event} {known : Option VolumeCatalog}
    {past acts : List VolumeAct} (h : Course m before known acts) (le : past <+: acts) :
    Course m before known past := by
  obtain ⟨later, rfl⟩ := le
  exact h.of_append

theorem Memory.count_created {past : List VolumeAct} {known : Option VolumeCatalog}
    (h : Memory past known) {plan : VolumeGroupPlan} {command : Command}
    (mem : .created (.group plan) command ∈ past) :
    recordedCount known plan.name = plan.devices.length := by
  cases h with
  | nothing failed =>
    obtain ⟨asked, same⟩ := failed _ mem
    cases same
  | something parts failed _ reflects =>
    refine reflects.count_created plan command ?_
    rw [parts, List.mem_append, List.mem_cons] at mem
    rcases mem with mem | same | mem
    · obtain ⟨asked, same⟩ := failed _ mem
      cases same
    · cases same
    · exact mem

theorem findSome?_listedCount?_eq_none {acts : List VolumeAct} (name : String)
    (h : ∀ act ∈ acts, ∀ groupReport volumeReport, act ≠ .listed groupReport volumeReport) :
    acts.findSome? (VolumeAct.listedCount? name) = none := by
  rw [List.findSome?_eq_none_iff]
  intro act mem
  cases act with
  | listed groupReport volumeReport => exact absurd rfl (h _ mem groupReport volumeReport)
  | _ => rfl

theorem Memory.count_listed {past : List VolumeAct} {known : Option VolumeCatalog}
    (h : Memory past known) {name : String} (absent : .group name ∉ createdKeys past) :
    recordedCount known name = (past.findSome? (VolumeAct.listedCount? name)).getD 0 := by
  have unlisted : ∀ {acts : List VolumeAct}, (∀ act ∈ acts, ∃ asked, act = .unlisted asked) →
      acts.findSome? (VolumeAct.listedCount? name) = none := by
    intro acts failed
    refine findSome?_listedCount?_eq_none name fun act mem groupReport volumeReport same => ?_
    obtain ⟨asked, same'⟩ := failed act mem
    cases same.symm.trans same'
  cases h with
  | nothing failed =>
    rw [unlisted failed]
    rfl
  | @something failures turns groupReport volumeReport catalog parts failed later reflects =>
    -- There is one listing that succeeds; before it all fail, and after it there is no other.
    have quiet : turns.findSome? (VolumeAct.listedCount? name) = none := by
      refine findSome?_listedCount?_eq_none name fun act mem groupReport volumeReport same => ?_
      exact later act mem (same ▸ trivial)
    have absent' : .group name ∉ createdKeys turns := by
      intro mem
      refine absent ?_
      rw [parts, List.append_cons, createdKeys, List.filterMap_append]
      exact List.mem_append_right _ mem
    rw [parts, List.findSome?_append, List.findSome?_cons, unlisted failed, quiet]
    refine (reflects.count_listed name absent').trans ?_
    rw [VolumeAct.listedCount?]
    cases listedCount groupReport name <;> rfl

theorem Course.volumeAccount {m : Machine} {before : List Event} {acts : List VolumeAct}
    (h : Course m before none acts) : VolumeAccount m before acts where
  course := h
  memory past le := (h.of_prefix le).memory
  unlisted past asked le := by
    have happens := (h.of_prefix le).happens
    rw [knownAfter_append]
    generalize knownAfter none past = known at happens
    cases happens <;> rfl
  refused past object command _ := by rw [knownAfter_append]; rfl
  count_created past le plan command mem := (h.of_prefix le).memory.count_created mem
  count_listed past le name absent := (h.of_prefix le).memory.count_listed absent

end NodeStorage
