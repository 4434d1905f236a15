import NodeStorage.Proofs.Run.Ensures
import NodeStorage.Target.Mounts

/-! A pass over what is to be mounted, item by item. What is not mounted is only noted for the mount
table. Of all else the directory is made first, and the machine is asked only if that succeeds. The
first item that is not mounted ends the pass. -/

namespace NodeStorage

def Machine.makeDirectories (m : Machine) (before : List Event) (files : FileTree) (p : Path) :
    Except IoFault Unit × FileTree :=
  match m.refuse before p with
  | some fault => (.error fault, files)
  | none => files.makeDirectories p

theorem Step.makeDirectories_apply (p : Path) (m : Machine) (w : World) :
    makeDirectories p m w = ((m.makeDirectories w.events w.files p).1.mapError .io,
      { w with files := (m.makeDirectories w.events w.files p).2 }) := by
  unfold makeDirectories Machine.makeDirectories
  cases m.refuse w.events p with
  | some fault => rfl
  | none => rfl

def MountRequest.record (request : MountRequest) : MountRecord :=
  ⟨request.source, request.target, request.type.getD "bind"⟩

def SpecialMount.request (root : Path) (special : SpecialMount) : MountRequest :=
  ⟨special.source, root.within special.target, special.type, special.flags, none⟩

def mountedPlans (root : Path) (plans : List FilesystemPlan) : List MountRequest :=
  (plans.filter (·.format.isMountedDuringInstall)).map (·.mountRequest root)

inductive MountItem where
  | planned (plan : FilesystemPlan)
  | special (special : SpecialMount)
  deriving DecidableEq, Repr

/-- What comes of an item: it is only noted, its directory is not made, the machine does not mount it,
or it is mounted. What is recorded as mounted may be unmounted later. -/
inductive MountAct where
  | noted (plan : FilesystemPlan)
  | blocked (item : MountItem)
  | refused (item : MountItem)
  | mounted (item : MountItem)
  | unmounted (record : MountRecord)
  deriving DecidableEq, Repr

namespace MountItem

def isMounted : MountItem → Bool
  | planned plan => plan.format.isMountedDuringInstall
  | special _ => true

def request (root : Path) : MountItem → MountRequest
  | planned plan => plan.mountRequest root
  | special other => other.request root

def mount (root : Path) : MountItem → MountSession Unit
  | planned plan => plan.mount root
  | special other => other.mount root

def act : MountItem → MountAct
  | planned plan =>
    if plan.format.isMountedDuringInstall then .mounted (.planned plan) else .noted plan
  | special other => .mounted (.special other)

theorem act_of_isMounted {item : MountItem} (h : item.isMounted = true) :
    item.act = .mounted item := by
  cases item with
  | planned plan => exact if_pos h
  | special other => rfl

theorem act_of_skipped {plan : FilesystemPlan} (h : plan.format.isMountedDuringInstall = false) :
    (planned plan).act = .noted plan :=
  if_neg (Bool.eq_false_iff.1 h)

theorem act_planned (plan : FilesystemPlan) :
    plan.format.isMountedDuringInstall = true ∧ (planned plan).act = .mounted (.planned plan) ∨
      plan.format.isMountedDuringInstall = false ∧ (planned plan).act = .noted plan := by
  cases wanted : plan.format.isMountedDuringInstall with
  | true => exact .inl ⟨rfl, act_of_isMounted wanted⟩
  | false => exact .inr ⟨rfl, act_of_skipped wanted⟩

end MountItem

namespace MountAct

def events (root : Path) : MountAct → List Event
  | noted _ | blocked _ => []
  | refused item | mounted item => [.mount (item.request root)]
  | unmounted record => [.unmount record.target]

def addTo (root : Path) (s : Mounts) : MountAct → Mounts
  | noted plan => s.addTablePlan plan
  | mounted (.planned plan) => s.addPlanned (plan.mountRequest root).record plan
  | mounted (.special other) => s.addSpecial (other.request root).record
  | blocked _ | refused _ | unmounted _ => s

def requests (root : Path) : MountAct → List MountRequest
  | mounted item => [item.request root]
  | _ => []

def planned (root : Path) : MountAct → List MountRequest
  | mounted (.planned plan) => [plan.mountRequest root]
  | _ => []

def special (root : Path) : MountAct → List MountRequest
  | mounted (.special other) => [other.request root]
  | _ => []

def tablePlans : MountAct → List FilesystemPlan
  | noted plan | mounted (.planned plan) => [plan]
  | _ => []

def item? : MountAct → Option MountItem
  | blocked item | refused item | mounted item => some item
  | noted _ | unmounted _ => none

/-- The act can come after these events, when these are the files, and leaves those. -/
inductive Happens (root : Path) (m : Machine) (before : List Event) (files : FileTree) :
    MountAct → FileTree → Prop where
  | noted {plan : FilesystemPlan} (skipped : plan.format.isMountedDuringInstall = false) :
      Happens root m before files (.noted plan) files
  | blocked {item : MountItem} {fault : IoFault} {after : FileTree} (wanted : item.isMounted = true)
      (made : m.makeDirectories before files (item.request root).target = (.error fault, after)) :
      Happens root m before files (.blocked item) after
  | refused {item : MountItem} {failure : Failure} {after : FileTree} (wanted : item.isMounted = true)
      (made : m.makeDirectories before files (item.request root).target = (.ok (), after))
      (answer : m.mount before (item.request root) = .error failure) :
      Happens root m before files (.refused item) after
  | mounted {item : MountItem} {after : FileTree} (wanted : item.isMounted = true)
      (made : m.makeDirectories before files (item.request root).target = (.ok (), after))
      (answer : m.mount before (item.request root) = .ok ()) :
      Happens root m before files (.mounted item) after
  | unmounted {record : MountRecord} : Happens root m before files (.unmounted record) files

end MountAct

def mountEvents (root : Path) (acts : List MountAct) : List Event :=
  acts.flatMap (MountAct.events root)

inductive MountCourse (root : Path) (m : Machine) :
    List Event → FileTree → List MountAct → FileTree → Prop where
  | done {before : List Event} {files : FileTree} : MountCourse root m before files [] files
  | next {before : List Event} {files between after : FileTree} {act : MountAct}
      {acts : List MountAct} (h : act.Happens root m before files between)
      (rest : MountCourse root m (before ++ act.events root) between acts after) :
      MountCourse root m before files (act :: acts) after

/-- The acts of a pass: those of all items, or those before an item that is not mounted and the act
that ends the pass. -/
inductive MountPass (items : List MountItem) : List MountAct → Except Failure Unit → Prop where
  | whole : MountPass items (items.map MountItem.act) (.ok ())
  | stopped {done rest : List MountItem} {item : MountItem} {act : MountAct} {failure : Failure}
      (parts : items = done ++ item :: rest) (last : act = .blocked item ∨ act = .refused item) :
      MountPass items (done.map MountItem.act ++ [act]) (.error failure)

/-- Of these plans, the acts put all into the mount table, or those before the one that is not
mounted. -/
structure Processed (plans : List FilesystemPlan) (acts : List MountAct) (r : Except Failure Unit) :
    Prop where
  all : r = .ok () → acts.flatMap MountAct.tablePlans = plans
  before_failing : ∀ failure, r = .error failure → ∃ plan rest,
    plans = acts.flatMap MountAct.tablePlans ++ plan :: rest ∧
      (acts.getLast? = some (.blocked (.planned plan)) ∨
        acts.getLast? = some (.refused (.planned plan)))

variable {m : Machine} {w : World} {s : Mounts} {root : Path} {items : List MountItem}
  {acts : List MountAct} {r : Except Failure Unit}

theorem foldl_addTo {β : Type} {list : Mounts → List β} {added : MountAct → List β}
    (h : ∀ s act, list (MountAct.addTo root s act) = list s ++ added act) (acts : List MountAct)
    (s : Mounts) : list (acts.foldl (MountAct.addTo root) s) = list s ++ acts.flatMap added := by
  induction acts generalizing s with
  | nil => exact (List.append_nil _).symm
  | cons act rest ih => rw [List.foldl_cons, ih, h, List.flatMap_cons, List.append_assoc]

theorem planned_foldl_addTo (root : Path) (acts : List MountAct) (s : Mounts) :
    (acts.foldl (MountAct.addTo root) s).planned =
      s.planned ++ (acts.flatMap (MountAct.planned root)).map MountRequest.record := by
  rw [List.map_flatMap]
  refine foldl_addTo (fun s act => ?_) acts s
  rcases act with plan | item | item | ⟨plan | other⟩ | record <;>
    simp [MountAct.addTo, MountAct.planned, Mounts.addTablePlan, Mounts.addPlanned, Mounts.addSpecial]

theorem special_foldl_addTo (root : Path) (acts : List MountAct) (s : Mounts) :
    (acts.foldl (MountAct.addTo root) s).special =
      s.special ++ (acts.flatMap (MountAct.special root)).map MountRequest.record := by
  rw [List.map_flatMap]
  refine foldl_addTo (fun s act => ?_) acts s
  rcases act with plan | item | item | ⟨plan | other⟩ | record <;>
    simp [MountAct.addTo, MountAct.special, Mounts.addTablePlan, Mounts.addPlanned, Mounts.addSpecial]

theorem tablePlans_foldl_addTo (root : Path) (acts : List MountAct) (s : Mounts) :
    (acts.foldl (MountAct.addTo root) s).tablePlans =
      s.tablePlans ++ acts.flatMap MountAct.tablePlans := by
  refine foldl_addTo (fun s act => ?_) acts s
  rcases act with plan | item | item | ⟨plan | other⟩ | record <;>
    simp [MountAct.addTo, MountAct.tablePlans, Mounts.addTablePlan, Mounts.addPlanned,
      Mounts.addSpecial]

inductive MountTurn (item : MountItem) : MountAct → Except Failure Unit → Prop where
  | done : MountTurn item item.act (.ok ())
  | blocked {failure : Failure} : MountTurn item (.blocked item) (.error failure)
  | refused {failure : Failure} : MountTurn item (.refused item) (.error failure)

def TurnIn (root : Path) (m : Machine) (w : World) (s : Mounts) (item : MountItem)
    (added : List Event) (r : Except Failure Unit) (s' : Mounts) (w' : World) : Prop :=
  ∃ act : MountAct, added = act.events root ∧ act.Happens root m w.events w.files w'.files ∧
    s' = act.addTo root s ∧ MountTurn item act r

theorem makeMountPoint_apply (target : Path) :
    makeMountPoint target m w =
      ((m.makeDirectories w.events w.files target).1.mapError
          fun fault => .target ("mount point " ++ target.text) (.io fault),
        { w with files := (m.makeDirectories w.events w.files target).2 }) := by
  unfold makeMountPoint Step.naming
  rw [Step.makeDirectories_apply]
  rcases m.makeDirectories w.events w.files target with ⟨fault | _, files⟩
  · rfl
  · rfl

theorem turnIn_after_directories {target : Path} {item : MountItem} {rest : MountSession Unit}
    (wanted : item.isMounted = true) (same : (item.request root).target = target)
    (h : ∀ after, m.makeDirectories w.events w.files (item.request root).target = (.ok (), after) →
      rest.Ensures m s { w with files := after } (TurnIn root m w s item)) :
    ((liftM (makeMountPoint target) : MountSession Unit) >>= fun _ => rest).Ensures m s w
      (TurnIn root m w s item) := by
  rw [Session.Ensures, Session.bind_apply, Session.lift_apply, makeMountPoint_apply, ← same]
  rcases made : m.makeDirectories w.events w.files (item.request root).target with ⟨fault | _, after⟩
  · exact ⟨[], (List.append_nil _).symm, .blocked item, rfl, .blocked wanted made, rfl, .blocked⟩
  · exact h after made

theorem turnIn_of_request {item : MountItem} {request : MountRequest} {name : String}
    {next : Mounts → Mounts} {w' : World} (wanted : item.isMounted = true)
    (same : item.request root = request) (events : w'.events = w.events)
    (made : m.makeDirectories w.events w.files (item.request root).target = (.ok (), w'.files))
    (records : next s = (MountAct.mounted item).addTo root s) :
    (do
      Step.naming name (Step.mount request)
      Session.update next : MountSession Unit).Ensures m s w' (TurnIn root m w s item) := by
  have asked : (liftM (Step.naming name (Step.mount request)) : MountSession Unit) m s w' =
      ((m.mount w.events request).mapError (.target name), s,
        { w' with events := w'.events ++ [.mount request] }) := by
    rw [← events]
    rfl
  subst same
  rw [Session.Ensures, Session.bind_apply, asked]
  cases answer : m.mount w.events (item.request root) with
  | ok _ =>
    refine ⟨[.mount (item.request root)], rfl, .mounted item, rfl, .mounted wanted made answer,
      records, ?_⟩
    exact MountItem.act_of_isMounted wanted ▸ .done
  | error failure =>
    exact ⟨[.mount (item.request root)], rfl, .refused item, rfl, .refused wanted made answer, rfl,
      .refused⟩

theorem MountItem.mount_ensures (root : Path) (item : MountItem) (s : Mounts) (w : World) :
    (item.mount root).Ensures m s w (TurnIn root m w s item) := by
  cases item with
  | planned plan =>
    by_cases wanted : plan.format.isMountedDuringInstall = true
    · rw [mount, FilesystemPlan.mount, if_pos wanted]
      refine turnIn_after_directories wanted rfl fun after made => ?_
      refine Session.ensures_said ?_
      exact turnIn_of_request wanted rfl rfl made rfl
    · rw [mount, FilesystemPlan.mount, if_neg wanted]
      have skipped : plan.format.isMountedDuringInstall = false := Bool.eq_false_iff.2 wanted
      refine Session.ensures_update ⟨.noted plan, rfl, .noted skipped, rfl, ?_⟩
      exact act_of_skipped skipped ▸ .done
  | special other =>
    have wanted : (MountItem.special other).isMounted = true := rfl
    rw [mount, SpecialMount.mount]
    refine turnIn_after_directories wanted rfl fun after made => ?_
    exact turnIn_of_request wanted rfl rfl made rfl

theorem MountPass.cons {item : MountItem} (h : MountPass items acts r) :
    MountPass (item :: items) (item.act :: acts) r := by
  cases h with
  | whole => exact .whole
  | @stopped done rest stop act failure parts last =>
    have later : item :: items = (item :: done) ++ stop :: rest := by rw [parts, List.cons_append]
    exact .stopped later last

theorem forEach_mount_ensures (root : Path) (items : List MountItem) (s : Mounts) (w : World) :
    (Session.forEach (MountItem.mount root) items).Ensures m s w fun added r s' w' => ∃ acts,
      added = mountEvents root acts ∧ MountCourse root m w.events w.files acts w'.files ∧
        s' = acts.foldl (MountAct.addTo root) s ∧ MountPass items acts r := by
  induction items generalizing s w with
  | nil => exact Session.ensures_pure ⟨[], rfl, .done, rfl, .whole⟩
  | cons item rest ih =>
    rw [Session.forEach_cons]
    refine Session.ensures_bind (item.mount_ensures root s w) ?_ ?_
    · rintro added failure s' w' _ ⟨act, rfl, happens, rfl, turn⟩
      refine ⟨[act], (List.flatMap_singleton ..).symm, .next happens .done, rfl, ?_⟩
      cases turn with
      | blocked => exact MountPass.stopped (List.nil_append (item :: rest)).symm (.inl rfl)
      | refused => exact MountPass.stopped (List.nil_append (item :: rest)).symm (.inr rfl)
    · rintro added _ s' w' events ⟨act, rfl, happens, rfl, turn⟩
      refine (ih _ w').mono ?_
      rintro more r s'' w'' _ ⟨acts, rfl, course, rfl, pass⟩
      rw [events] at course
      cases turn with
      | done => exact ⟨item.act :: acts, rfl, .next happens course, rfl, pass.cons⟩

theorem mountFilesystems_passes (root : Path) (plans : List FilesystemPlan) :
    (mountFilesystems root plans).Ensures m s w fun added r s' w' => ∃ acts,
      added = mountEvents root acts ∧ MountCourse root m w.events w.files acts w'.files ∧
        s' = acts.foldl (MountAct.addTo root) s ∧
        MountPass ((mountOrder plans).map MountItem.planned) acts r := by
  have items : mountFilesystems root plans =
      Session.forEach (MountItem.mount root) ((mountOrder plans).map MountItem.planned) :=
    (Session.forEach_map (MountItem.mount root) MountItem.planned _).symm
  rw [items]
  exact forEach_mount_ensures root _ s w

theorem mountSpecial_passes (root : Path) (firmwareVariables : Bool) :
    (mountSpecial root firmwareVariables).Ensures m s w fun added r s' w' => ∃ acts,
      added = mountEvents root acts ∧ MountCourse root m w.events w.files acts w'.files ∧
        s' = acts.foldl (MountAct.addTo root) s ∧
        MountPass ((SpecialMount.all firmwareVariables).map MountItem.special) acts r := by
  have items : mountSpecial root firmwareVariables =
      Session.forEach (MountItem.mount root)
        ((SpecialMount.all firmwareVariables).map MountItem.special) :=
    (Session.forEach_map (MountItem.mount root) MountItem.special _).symm
  rw [items]
  exact forEach_mount_ensures root _ s w

theorem MountPass.acts_eq (h : MountPass items acts (.ok ())) : acts = items.map MountItem.act := by
  cases h
  rfl

/-- Where an act of a pass stands, the pass has come to one item, and the acts before it are those of the
items before that one. -/
theorem MountPass.exists_split (h : MountPass items acts r) {earlier later : List MountAct}
    {act : MountAct} (parts : acts = earlier ++ act :: later) :
    ∃ done item rest, items = done ++ item :: rest ∧ earlier = done.map MountItem.act ∧
      (act = item.act ∨ act = .blocked item ∨ act = .refused item) := by
  cases h with
  | whole =>
    obtain ⟨done, rest, rfl, rfl, own⟩ := List.map_eq_append_iff.1 parts
    obtain ⟨item, rest, rfl, rfl, -⟩ := List.map_eq_cons_iff.1 own
    exact ⟨done, item, rest, rfl, rfl, .inl rfl⟩
  | @stopped done rest stop last failure items_eq ends =>
    rcases List.eq_nil_or_concat later with rfl | ⟨middle, other, rfl⟩
    · obtain ⟨rfl, same⟩ := List.append_inj' parts rfl
      cases same
      exact ⟨done, stop, rest, items_eq, rfl, .inr ends⟩
    · rw [List.concat_eq_append, ← List.cons_append, ← List.append_assoc] at parts
      obtain ⟨early, -⟩ := List.append_inj' parts rfl
      obtain ⟨front, back, rfl, rfl, own⟩ := List.map_eq_append_iff.1 early
      obtain ⟨item, back, rfl, rfl, -⟩ := List.map_eq_cons_iff.1 own
      refine ⟨front, item, back ++ stop :: rest, ?_, rfl, .inl rfl⟩
      rw [items_eq, List.append_assoc, List.cons_append]

theorem MountPass.exists_item (h : MountPass items acts r) {act : MountAct} (mem : act ∈ acts) :
    ∃ item ∈ items, act = item.act ∨ act = .blocked item ∨ act = .refused item := by
  obtain ⟨earlier, later, parts⟩ := List.append_of_mem mem
  obtain ⟨done, item, rest, rfl, -, own⟩ := h.exists_split parts
  exact ⟨item, by simp, own⟩

theorem MountItem.eq_of_item? {item other : MountItem} {act : MountAct}
    (h : act = item.act ∨ act = .blocked item ∨ act = .refused item)
    (about : act.item? = some other) : other = item := by
  rcases h with rfl | rfl | rfl
  · cases item with
    | planned plan =>
      rcases MountItem.act_planned plan with ⟨-, same⟩ | ⟨-, same⟩
      · rw [same] at about
        exact (Option.some.inj about).symm
      · rw [same] at about
        cases about
    | special other => exact (Option.some.inj about).symm
  · exact (Option.some.inj about).symm
  · exact (Option.some.inj about).symm

theorem MountPass.isMount (h : MountPass items acts r) :
    ∀ event ∈ mountEvents root acts, event.IsMount := by
  intro event mem
  obtain ⟨act, mem, own⟩ := List.mem_flatMap.1 mem
  obtain ⟨item, -, rfl | rfl | rfl⟩ := h.exists_item mem
  · cases item with
    | planned plan =>
      rcases MountItem.act_planned plan with ⟨-, same⟩ | ⟨-, same⟩
      · rw [same] at own
        exact ⟨_, List.mem_singleton.1 own⟩
      · rw [same] at own
        cases own
    | special other => exact ⟨_, List.mem_singleton.1 own⟩
  · cases own
  · exact ⟨_, List.mem_singleton.1 own⟩

section Planned

variable {plans : List FilesystemPlan}

theorem MountPass.special_eq_nil (h : MountPass (plans.map MountItem.planned) acts r) :
    ∀ act ∈ acts, act.special root = [] := by
  intro act mem
  obtain ⟨item, there, own⟩ := h.exists_item mem
  obtain ⟨plan, -, rfl⟩ := List.mem_map.1 there
  rcases own with rfl | rfl | rfl
  · rcases MountItem.act_planned plan with ⟨-, same⟩ | ⟨-, same⟩
    · rw [same]
      rfl
    · rw [same]
      rfl
  · rfl
  · rfl

theorem tablePlans_act (plan : FilesystemPlan) :
    (MountItem.planned plan).act.tablePlans = [plan] := by
  rcases MountItem.act_planned plan with ⟨-, same⟩ | ⟨-, same⟩
  · rw [same]
    rfl
  · rw [same]
    rfl

theorem planned_act (root : Path) (plan : FilesystemPlan) :
    (MountItem.planned plan).act.planned root =
      if plan.format.isMountedDuringInstall then [plan.mountRequest root] else [] := by
  rcases MountItem.act_planned plan with ⟨wanted, same⟩ | ⟨skipped, same⟩
  · rw [same, if_pos wanted]
    rfl
  · rw [same, if_neg (Bool.eq_false_iff.1 skipped)]
    rfl

theorem planned_acts (root : Path) (plans : List FilesystemPlan) :
    ((plans.map MountItem.planned).map MountItem.act).flatMap (MountAct.planned root) =
      mountedPlans root plans := by
  induction plans with
  | nil => rfl
  | cons plan rest ih =>
    rw [List.map_cons, List.map_cons, List.flatMap_cons, planned_act, ih, mountedPlans, mountedPlans,
      List.filter_cons]
    split
    · rfl
    · rfl

theorem tablePlans_acts (plans : List FilesystemPlan) :
    ((plans.map MountItem.planned).map MountItem.act).flatMap MountAct.tablePlans = plans := by
  rw [List.map_map, List.flatMap_map]
  simp [tablePlans_act]

theorem MountPass.processed (h : MountPass (plans.map MountItem.planned) acts r) :
    Processed plans acts r := by
  cases h with
  | whole => exact ⟨fun _ => tablePlans_acts plans, nofun⟩
  | @stopped done rest stop last failure parts own =>
    obtain ⟨before, after, rfl, rfl, later⟩ := List.map_eq_append_iff.1 parts
    obtain ⟨plan, after, rfl, rfl, -⟩ := List.map_eq_cons_iff.1 later
    have last_nil : last.tablePlans = [] := by
      rcases own with rfl | rfl
      · rfl
      · rfl
    have noted : ((before.map MountItem.planned).map MountItem.act ++ [last]).flatMap
        MountAct.tablePlans = before := by
      rw [List.flatMap_append, tablePlans_acts, List.flatMap_singleton, last_nil, List.append_nil]
    refine ⟨nofun, fun _ _ => ⟨plan, after, ?_, ?_⟩⟩
    · rw [noted]
    · rw [List.getLast?_concat]
      exact own.imp (congrArg some) (congrArg some)

end Planned

section Special

variable {specials : List SpecialMount}

theorem MountPass.planned_eq_nil (h : MountPass (specials.map MountItem.special) acts r) :
    ∀ act ∈ acts, act.planned root = [] := by
  intro act mem
  obtain ⟨item, there, own⟩ := h.exists_item mem
  obtain ⟨other, -, rfl⟩ := List.mem_map.1 there
  rcases own with rfl | rfl | rfl <;> rfl

theorem MountPass.tablePlans_eq_nil (h : MountPass (specials.map MountItem.special) acts r) :
    ∀ act ∈ acts, act.tablePlans = [] := by
  intro act mem
  obtain ⟨item, there, own⟩ := h.exists_item mem
  obtain ⟨other, -, rfl⟩ := List.mem_map.1 there
  rcases own with rfl | rfl | rfl <;> rfl

end Special

end NodeStorage
