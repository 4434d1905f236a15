import NodeStorage.Proofs.Volumes.Host

/-! Sessions on a machine that has a host. What is known mirrors the host from the listing on, so the
objects that have had their turn are settled there, and a command that creates an object is asked for
only where the object is missing. -/

namespace NodeStorage

open VolumeCatalog

def PlannedObject.IsCreatedBy (object : PlannedObject) (command : Command) : Prop :=
  ∃ catalog, command = object.command catalog

/-- The machine has this host after any events. A command that fails leaves the host as it is, and so
do the two that list it; one that creates an object of these which is missing adds it. -/
structure Machine.Hosts (m : Machine) (host : List Event → Host) (objects : List PlannedObject) :
    Prop where
  failed : ∀ {before command failure}, m.run before command = .error failure →
    host (before ++ [.command command]) = host before
  groups : ∀ {before output}, m.run before groupsCommand = .ok output →
    host (before ++ [.command groupsCommand]) = host before ∧
      (host before).ListsGroups output.stdout
  volumes : ∀ {before output}, m.run before volumesCommand = .ok output →
    host (before ++ [.command volumesCommand]) = host before ∧
      (host before).ListsVolumes output.stdout
  created : ∀ {before object command output}, object ∈ objects →
    (host before).holds object.key = false → object.IsCreatedBy command →
    m.run before command = .ok output →
    host (before ++ [.command command]) = (host before).add object

def Along (P : List Event → Event → Prop) (before : List Event) : List Event → Prop
  | [] => True
  | event :: later => P before event ∧ Along P (before ++ [event]) later

theorem along_append {P : List Event → Event → Prop} {before first second : List Event} :
    Along P before (first ++ second) ↔ Along P before first ∧ Along P (before ++ first) second := by
  induction first generalizing before with
  | nil => simp [Along]
  | cons event rest ih => simp [Along, ih, and_assoc]

instance decidableAlong {P : List Event → Event → Prop}
    [each : ∀ before event, Decidable (P before event)] :
    ∀ before events, Decidable (Along P before events)
  | _, [] => .isTrue trivial
  | before, event :: later =>
    @instDecidableAnd _ _ (each before event) (decidableAlong (before ++ [event]) later)

def Machine.Grants (m : Machine) (before : List Event) : Event → Prop
  | .command command => (m.run before command).isOk = true
  | .mount _ | .unmount _ => True

instance (m : Machine) (before : List Event) : ∀ event, Decidable (m.Grants before event)
  | .command command => inferInstanceAs (Decidable ((m.run before command).isOk = true))
  | .mount _ | .unmount _ => .isTrue trivial

def Command.creates (command : Command) : Bool :=
  command.tool == .vgcreate || command.tool == .lvcreate

theorem PlannedObject.creates_command (object : PlannedObject) (catalog : VolumeCatalog) :
    (object.command catalog).creates = true := by
  cases object <;> rfl

theorem creates_listing : ∀ command ∈ [groupsCommand, volumesCommand], command.creates = false := by
  decide

def Machine.creation? (m : Machine) (before : List Event) : Event → Option Command
  | .command command =>
    if command.creates && (m.run before command).isOk then some command else none
  | .mount _ | .unmount _ => none

/-- The commands among these events that created something. -/
def Machine.creations (m : Machine) (before : List Event) : List Event → List Command
  | [] => []
  | event :: later => (m.creation? before event).toList ++ m.creations (before ++ [event]) later

variable {m : Machine} {host : List Event → Host} {objects : List PlannedObject}
  {before : List Event} {known : Option VolumeCatalog}

theorem creations_append {first second : List Event} :
    m.creations before (first ++ second) =
      m.creations before first ++ m.creations (before ++ first) second := by
  induction first generalizing before with
  | nil => simp [Machine.creations]
  | cons event rest ih => simp [Machine.creations, ih]

def CreatesMissing (host : List Event → Host) (objects : List PlannedObject) (before : List Event)
    (event : Event) : Prop :=
  ∀ command, event = .command command → command.creates = true →
    ∃ object ∈ objects, (host before).holds object.key = false ∧
      command = (host before).commandFor object

theorem creations_eq_nil {commands : List Command}
    (h : ∀ command ∈ commands, command.creates = false) :
    m.creations before (commands.map .command) = [] := by
  induction commands generalizing before with
  | nil => rfl
  | cons command rest ih =>
    obtain ⟨here, later⟩ := List.forall_mem_cons.1 h
    rw [List.map_cons, Machine.creations, ih later, Machine.creation?, here]
    rfl

theorem along_createsMissing {commands : List Command}
    (h : ∀ command ∈ commands, command.creates = false) :
    Along (CreatesMissing host objects) before (commands.map .command) := by
  induction commands generalizing before with
  | nil => trivial
  | cons command rest ih =>
    obtain ⟨here, later⟩ := List.forall_mem_cons.1 h
    refine ⟨?_, ih later⟩
    rintro _ ⟨⟩ creates
    cases here.symm.trans creates

def VolumeAct.settled? : VolumeAct → Option PlannedObject
  | kept object | created object _ => some object
  | listed _ _ | unlisted _ | refused _ _ => none

def settledObjects (acts : List VolumeAct) : List PlannedObject := acts.filterMap VolumeAct.settled?

theorem settledObjects_append (first second : List VolumeAct) :
    settledObjects (first ++ second) = settledObjects first ++ settledObjects second :=
  List.filterMap_append

structure Traced (m : Machine) (host : List Event → Host) (objects : List PlannedObject)
    (before : List Event) (known : Option VolumeCatalog) (acts : List VolumeAct) : Prop where
  host_eq : host (before ++ eventsOf acts) = (host before).settled (settledObjects acts)
  creations_eq : m.creations before (eventsOf acts) =
    ((host before).missing (settledObjects acts)).map Prod.snd
  creates_missing : Along (CreatesMissing host objects) before (eventsOf acts)
  mirrors : ∀ catalog, knownAfter known acts = some catalog →
    catalog.Mirrors (host (before ++ eventsOf acts))

theorem Traced.append {first second : List VolumeAct} (h : Traced m host objects before known first)
    (h' : Traced m host objects (before ++ eventsOf first) (knownAfter known first) second) :
    Traced m host objects before known (first ++ second) := by
  refine ⟨?_, ?_, ?_, ?_⟩
  · rw [eventsOf_append, ← List.append_assoc, h'.host_eq, h.host_eq, settledObjects_append,
      Host.settled_append]
  · rw [eventsOf_append, creations_append, h.creations_eq, h'.creations_eq, h.host_eq,
      settledObjects_append, Host.missing_append, List.map_append]
  · rw [eventsOf_append]
    exact along_append.2 ⟨h.creates_missing, h'.creates_missing⟩
  · rw [eventsOf_append, knownAfter_append, ← List.append_assoc]
    exact h'.mirrors

theorem Traced.of_unchanged {act : VolumeAct} (there : ∀ object, act.settled? = some object →
      (host before).holds object.key = true)
    (plain : ∀ command ∈ act.commands, command.creates = false)
    (host_eq : host (before ++ act.events) = host before)
    (mirrors : ∀ catalog, act.known known = some catalog → catalog.Mirrors (host before)) :
    Traced m host objects before known [act] := by
  have events : eventsOf [act] = act.commands.map .command := List.flatMap_singleton ..
  have settled : ∀ object ∈ settledObjects [act], (host before).holds object.key = true := by
    simpa [settledObjects] using there
  obtain ⟨same, nothing⟩ := Host.settled_of_holds settled
  have after : host (before ++ eventsOf [act]) = host before := by
    rw [events]
    exact host_eq
  refine ⟨after.trans same.symm, ?_, ?_, ?_⟩
  · rw [events, creations_eq_nil plain, nothing]
    rfl
  · rw [events]
    exact along_createsMissing plain
  · rw [after]
    exact mirrors

theorem createsMissing_of_mirrors {catalog : VolumeCatalog} {object : PlannedObject}
    (mirrors : catalog.Mirrors (host before)) (mem : object ∈ objects)
    (new : catalog.holds object.key = false) :
    Along (CreatesMissing host objects) before [.command (object.command catalog)] := by
  refine ⟨?_, trivial⟩
  rintro _ ⟨⟩ -
  exact ⟨object, mem, by rw [← mirrors.holds_eq, new], mirrors.command_eq object⟩

theorem VolumeAct.Happens.traced {act : VolumeAct} (hosted : m.Hosts host objects)
    (h : act.Happens m before known) (planned : ∀ object, act.object? = some object → object ∈ objects)
    (mirrors : ∀ catalog, known = some catalog → catalog.Mirrors (host before)) :
    Traced m host objects before known [act] := by
  have pair : ∀ command command', before ++ [Event.command command, Event.command command'] =
      before ++ [.command command] ++ [.command command'] := fun _ _ => by simp
  cases h with
  | @listed groups volumes first second =>
    obtain ⟨same, listed⟩ := hosted.groups first
    obtain ⟨same', listed'⟩ := hosted.volumes second
    refine .of_unchanged nofun creates_listing ?_ ?_
    · exact (congrArg host (pair _ _)).trans (same'.trans same)
    · rintro _ ⟨⟩
      exact mirrors_ofReports listed (same ▸ listed')
  | groupsUnlisted first =>
    exact .of_unchanged nofun (by decide) (hosted.failed first) nofun
  | volumesUnlisted first second =>
    refine .of_unchanged nofun creates_listing ?_ nofun
    exact (congrArg host (pair _ _)).trans ((hosted.failed second).trans (hosted.groups first).1)
  | @kept catalog object there =>
    refine .of_unchanged ?_ nofun (by rw [VolumeAct.events]; simp [VolumeAct.commands]) mirrors
    rintro _ ⟨⟩
    rw [← (mirrors catalog rfl).holds_eq, there]
  | @created catalog object output new answer =>
    have mirror := mirrors catalog rfl
    -- What is not known is missing on the host, so the machine adds it.
    have absent : (host before).holds object.key = false := by rw [← mirror.holds_eq, new]
    have after : host (before ++ [.command (object.command catalog)]) = (host before).add object :=
      hosted.created (planned object rfl) absent ⟨catalog, rfl⟩ answer
    refine ⟨?_, ?_, createsMissing_of_mirrors mirror (planned object rfl) new, ?_⟩
    · exact after.trans (Host.settle_of_not_holds absent).symm
    · have made : m.creations before [.command (object.command catalog)] =
          [object.command catalog] := by
        simp [Machine.creations, Machine.creation?, object.creates_command, answer,
          Except.isOk, Except.toBool]
      refine made.trans ?_
      rw [show settledObjects [.created object (object.command catalog)] = [object] from rfl,
        Host.missing_cons_of_not_holds absent, mirror.command_eq]
      rfl
    · rintro _ ⟨⟩
      exact after ▸ mirror.add object
  | @refused catalog object failure new answer =>
    have mirror := mirrors catalog rfl
    have after : host (before ++ [.command (object.command catalog)]) = host before :=
      hosted.failed answer
    refine ⟨after, ?_, createsMissing_of_mirrors mirror (planned object rfl) new, ?_⟩
    · have made : m.creations before [.command (object.command catalog)] = [] := by
        simp [Machine.creations, Machine.creation?, answer, Except.isOk, Except.toBool]
      exact made
    · rintro _ ⟨⟩
      exact after ▸ mirror

theorem Course.traced {acts : List VolumeAct} (hosted : m.Hosts host objects)
    (h : Course m before known acts)
    (planned : ∀ object ∈ acts.filterMap VolumeAct.object?, object ∈ objects)
    (mirrors : ∀ catalog, known = some catalog → catalog.Mirrors (host before)) :
    Traced m host objects before known acts := by
  induction h with
  | start =>
    have nothing : before ++ eventsOf [] = before := List.append_nil before
    refine ⟨?_, rfl, trivial, ?_⟩
    · rw [nothing]
      rfl
    · rw [nothing]
      exact mirrors
  | @next past act _ happens ih =>
    rw [List.filterMap_append, List.forall_mem_append] at planned
    have traced := ih planned.1
    refine traced.append (happens.traced hosted ?_ traced.mirrors)
    intro object turn
    exact planned.2 object (List.mem_filterMap.2 ⟨act, List.mem_singleton.2 rfl, turn⟩)

end NodeStorage
