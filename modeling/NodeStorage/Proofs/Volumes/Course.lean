import NodeStorage.Proofs.Build.Demands

/-! The course of creating groups and volumes, act by act. Existing objects are listed before the
first object is looked at while nothing is known; then each object in turn is kept, created or
refused. What is known after an act follows from the act and what was known before, and so does what is
said during it. -/

namespace NodeStorage

open Text VolumeCatalog

inductive ObjectKey where
  | group (name : String)
  | volume (group name : String)
  deriving DecidableEq, Repr

def VolumeCatalog.holds (catalog : VolumeCatalog) : ObjectKey → Bool
  | .group name => catalog.hasGroup name
  | .volume group name => catalog.hasVolume group name

/-- A group or a volume that is to be there. -/
inductive PlannedObject where
  | group (plan : VolumeGroupPlan)
  | volume (plan : LogicalVolumePlan)
  deriving DecidableEq, Repr

namespace PlannedObject

def key : PlannedObject → ObjectKey
  | group plan => .group plan.name
  | volume plan => .volume plan.group plan.name

def command (catalog : VolumeCatalog) : PlannedObject → Command
  | group plan => plan.createCommand
  | volume plan => plan.commandFor (catalog.volumeCount plan.group)

def addTo (catalog : VolumeCatalog) : PlannedObject → VolumeCatalog
  | group plan => catalog.addGroup plan.name plan.devices.length
  | volume plan => catalog.addVolume plan.group plan.name

def create : PlannedObject → VolumeSession Unit
  | group plan => plan.create
  | volume plan => plan.create

def skipped : PlannedObject → Notice
  | group plan => .info ("volume group " ++ plan.name ++ " already exists, skipping")
  | volume plan => .info ("logical volume " ++ plan.fullName ++ " already exists, skipping")

def announced (catalog : VolumeCatalog) : PlannedObject → List Notice
  | group plan => [.info ("creating volume group " ++ plan.name ++ " over " ++ joined ", " plan.devices)]
  | volume plan =>
    let count := catalog.volumeCount plan.group
    (if plan.isDowngraded count then [plan.downgraded count] else []) ++
      [.info ("creating " ++ (plan.resolved count).text ++ " logical volume " ++ plan.fullName)]

end PlannedObject

/-- One act of a session. Existing objects are listed from two reports or cannot be listed, and an
object is kept because it is known, created, or refused by the machine. -/
inductive VolumeAct where
  | listed (groupReport volumeReport : String)
  | unlisted (asked : List Command)
  | kept (object : PlannedObject)
  | created (object : PlannedObject) (command : Command)
  | refused (object : PlannedObject) (command : Command)
  deriving DecidableEq, Repr

namespace VolumeAct

def commands : VolumeAct → List Command
  | listed _ _ => [groupsCommand, volumesCommand]
  | unlisted asked => asked
  | kept _ => []
  | created _ command | refused _ command => [command]

def events (act : VolumeAct) : List Event := act.commands.map .command

def known (before : Option VolumeCatalog) : VolumeAct → Option VolumeCatalog
  | listed groupReport volumeReport => some (ofReports groupReport volumeReport)
  | created object _ => before.map object.addTo
  | unlisted _ | kept _ | refused _ _ => before

def notices (before : Option VolumeCatalog) : VolumeAct → List Notice
  | kept object => [object.skipped]
  | created object _ | refused object _ => (before.map object.announced).getD []
  | listed _ _ | unlisted _ => []

def object? : VolumeAct → Option PlannedObject
  | kept object | created object _ | refused object _ => some object
  | listed _ _ | unlisted _ => none

def IsListing : VolumeAct → Prop
  | listed _ _ | unlisted _ => True
  | kept _ | created _ _ | refused _ _ => False

def IsFailure : VolumeAct → Prop
  | unlisted _ | refused _ _ => True
  | listed _ _ | kept _ | created _ _ => False

/-- The act can be the next one after these events, when this much is known: the machine answers as
the act says, nothing is listed that is known, and an object is created just if it is not known. -/
inductive Happens (m : Machine) (before : List Event) : Option VolumeCatalog → VolumeAct → Prop where
  | listed {groups volumes : Output} (first : m.run before groupsCommand = .ok groups)
      (second : m.run (before ++ [.command groupsCommand]) volumesCommand = .ok volumes) :
      Happens m before none (.listed groups.stdout volumes.stdout)
  | groupsUnlisted {failure : Failure} (first : m.run before groupsCommand = .error failure) :
      Happens m before none (.unlisted [groupsCommand])
  | volumesUnlisted {groups : Output} {failure : Failure}
      (first : m.run before groupsCommand = .ok groups)
      (second : m.run (before ++ [.command groupsCommand]) volumesCommand = .error failure) :
      Happens m before none (.unlisted [groupsCommand, volumesCommand])
  | kept {catalog : VolumeCatalog} {object : PlannedObject} (there : catalog.holds object.key = true) :
      Happens m before (some catalog) (.kept object)
  | created {catalog : VolumeCatalog} {object : PlannedObject} {output : Output}
      (new : catalog.holds object.key = false)
      (answer : m.run before (object.command catalog) = .ok output) :
      Happens m before (some catalog) (.created object (object.command catalog))
  | refused {catalog : VolumeCatalog} {object : PlannedObject} {failure : Failure}
      (new : catalog.holds object.key = false)
      (answer : m.run before (object.command catalog) = .error failure) :
      Happens m before (some catalog) (.refused object (object.command catalog))

end VolumeAct

def knownAfter (known : Option VolumeCatalog) (acts : List VolumeAct) : Option VolumeCatalog :=
  acts.foldl VolumeAct.known known

def eventsOf (acts : List VolumeAct) : List Event := acts.flatMap VolumeAct.events

def noticesOf : Option VolumeCatalog → List VolumeAct → List Notice
  | _, [] => []
  | known, act :: rest => act.notices known ++ noticesOf (act.known known) rest

@[simp] theorem knownAfter_append (known : Option VolumeCatalog) (first second : List VolumeAct) :
    knownAfter known (first ++ second) = knownAfter (knownAfter known first) second :=
  List.foldl_append

@[simp] theorem eventsOf_append (first second : List VolumeAct) :
    eventsOf (first ++ second) = eventsOf first ++ eventsOf second :=
  List.flatMap_append

theorem noticesOf_append (known : Option VolumeCatalog) (first second : List VolumeAct) :
    noticesOf known (first ++ second) =
      noticesOf known first ++ noticesOf (knownAfter known first) second := by
  induction first generalizing known with
  | nil => rfl
  | cons act rest ih =>
    rw [List.cons_append, noticesOf, ih, noticesOf, List.append_assoc]
    rfl

inductive Course (m : Machine) (before : List Event) (known : Option VolumeCatalog) :
    List VolumeAct → Prop where
  | start : Course m before known []
  | next {acts : List VolumeAct} {act : VolumeAct} (past : Course m before known acts)
      (h : act.Happens m (before ++ eventsOf acts) (knownAfter known acts)) :
      Course m before known (acts ++ [act])

namespace Course

variable {m : Machine} {before : List Event} {known : Option VolumeCatalog}
  {first second acts : List VolumeAct} {act : VolumeAct}

theorem single (h : act.Happens m before known) : Course m before known [act] :=
  have first : act.Happens m (before ++ eventsOf []) (knownAfter known []) := by
    rw [eventsOf, List.flatMap_nil, List.append_nil]
    exact h
  Course.start.next first

theorem append (h : Course m before known first)
    (h' : Course m (before ++ eventsOf first) (knownAfter known first) second) :
    Course m before known (first ++ second) := by
  induction h' with
  | start =>
    rw [List.append_nil]
    exact h
  | next _ happens ih =>
    rw [← List.append_assoc]
    refine .next ih ?_
    rw [eventsOf_append, knownAfter_append, ← List.append_assoc]
    exact happens

theorem cons (h : act.Happens m before known)
    (h' : Course m (before ++ act.events) (act.known known) acts) :
    Course m before known (act :: acts) := by
  refine append (.single h) ?_
  rw [eventsOf, List.flatMap_singleton]
  exact h'

theorem of_append (h : Course m before known (first ++ second)) : Course m before known first := by
  generalize parts : first ++ second = acts at h
  induction h generalizing second with
  | start =>
    rw [(List.append_eq_nil_iff.1 parts).1]
    exact .start
  | @next past act h happens ih =>
    rcases List.eq_nil_or_concat second with rfl | ⟨rest, last, rfl⟩
    · rw [List.append_nil] at parts
      rw [parts]
      exact .next h happens
    · rw [List.concat_eq_append, ← List.append_assoc] at parts
      exact ih (List.append_inj' parts rfl).1

theorem happens (h : Course m before known (first ++ act :: second)) :
    act.Happens m (before ++ eventsOf first) (knownAfter known first) := by
  rw [List.append_cons] at h
  have upTo := of_append h
  generalize parts : first ++ [act] = acts at upTo
  cases upTo with
  | start => simp at parts
  | next past happens =>
    obtain ⟨rfl, same⟩ := List.append_inj' parts rfl
    rw [List.singleton_inj.1 same]
    exact happens

end Course

end NodeStorage
