import NodeStorage.Proofs.Volumes.Hosting
import NodeStorage.Proofs.Volumes.Memory

/-! Building volumes once more after a run that was stopped. The second run goes on where the first
stopped: both together create what one run would have created, with the same commands, and leave the
host that one run would have left. -/

namespace NodeStorage

open Text VolumeCatalog

variable {m : Machine} {w : World} {host : List Event → Host}

theorem Turns.settled {objects : List PlannedObject} {acts : List VolumeAct} {r : Except Failure Unit}
    (h : Turns objects acts r) : settledObjects acts <+: objects ∧
      (r = .ok () → settledObjects acts = objects) := by
  induction h with
  | none => exact ⟨List.nil_prefix, fun _ => rfl⟩
  | @next object _ act acts _ turn _ ih =>
    have first : settledObjects (act :: acts) = object :: settledObjects acts := by
      cases turn <;> rfl
    rw [first]
    exact ⟨(List.prefix_cons_inj _).2 ih.1, fun succeeded => congrArg _ (ih.2 succeeded)⟩
  | last turn =>
    cases turn
    exact ⟨List.nil_prefix, nofun⟩

theorem Attended.settled {known : Option VolumeCatalog} {objects : List PlannedObject}
    {acts : List VolumeAct} {r : Except Failure Unit} (h : Attended known objects acts r) :
    settledObjects acts <+: objects ∧ (r = .ok () → settledObjects acts = objects) := by
  cases h with
  | idle => exact Turns.none.settled
  | known turns => exact turns.settled
  | listed turns => exact turns.settled
  | unlisted => exact ⟨List.nil_prefix, nofun⟩

theorem Machine.not_grants_of_error {before : List Event} {command : Command} {failure : Failure}
    (h : m.run before command = .error failure) : ¬ m.Grants before (.command command) := by
  rw [Machine.Grants, h]
  exact Bool.false_ne_true

theorem Course.not_isFailure {before : List Event} {known : Option VolumeCatalog}
    {acts : List VolumeAct} (h : Course m before known acts)
    (granted : Along m.Grants before (eventsOf acts)) : ∀ act ∈ acts, ¬ act.IsFailure := by
  induction h with
  | start => nofun
  | @next past act _ happens ih =>
    rw [eventsOf_append, along_append] at granted
    refine List.forall_mem_append.2 ⟨ih granted.1, List.forall_mem_singleton.2 ?_⟩
    have asked := granted.2
    generalize knownAfter known past = now at happens
    cases happens with
    | listed | kept | created => exact id
    | groupsUnlisted first => exact absurd asked.1 (Machine.not_grants_of_error first)
    | volumesUnlisted _ second => exact absurd asked.2.1 (Machine.not_grants_of_error second)
    | refused _ answer => exact absurd asked.1 (Machine.not_grants_of_error answer)

theorem Session.forEach_append {σ α : Type} (f : α → Session σ Unit) (first second : List α) :
    Session.forEach f (first ++ second) = (do
      Session.forEach f first
      Session.forEach f second) := by
  induction first with
  | nil => rfl
  | cons a rest ih =>
    funext m s w
    rw [List.cons_append, Session.forEach_cons, Session.forEach_cons, ih]
    simp only [Session.bind_apply]
    rcases f a m s w with ⟨_ | _, s, w⟩ <;> rfl

namespace Layout

def plannedObjects (layout : Layout) : List PlannedObject :=
  layout.groups.map .group ++ layout.volumes.map .volume

theorem buildVolumes_eq (layout : Layout) :
    layout.buildVolumes = Session.forEach PlannedObject.create layout.plannedObjects := by
  rw [plannedObjects, Session.forEach_append, Session.forEach_map, Session.forEach_map]
  rfl

/-- One run, from a host that is not known, up to the first command that fails. -/
def BuiltVolumes (m : Machine) (host : List Event → Host) (before : List Event) (layout : Layout)
    (added : List Event) (r : Except Failure Unit) : Prop :=
  ∃ settled rest, layout.plannedObjects = settled ++ rest ∧ (r = .ok () → rest = []) ∧
    (Along m.Grants before added → r = .ok ()) ∧
    host (before ++ added) = (host before).settled settled ∧
    m.creations before added = ((host before).missing settled).map Prod.snd ∧
    Along (CreatesMissing host layout.plannedObjects) before added

theorem buildVolumes_ensures (layout : Layout) (hosted : m.Hosts host layout.plannedObjects)
    (w : World) : (Session.whole none layout.buildVolumes).Ensures m w fun added r _ =>
      layout.BuiltVolumes m host w.events added r := by
  rw [buildVolumes_eq]
  refine Session.ensures_whole ((forEach_create_ensures _ _ _).mono ?_)
  rintro _ r _ _ _ ⟨acts, rfl, -, course, attended, -⟩
  have sound := attended.sound
  obtain ⟨⟨rest, parts⟩, complete⟩ := attended.settled
  have traced := course.traced hosted (fun object mem => sound.turns.subset mem) nofun
  refine ⟨settledObjects acts, rest, parts.symm, ?_, ?_, traced.host_eq, traced.creations_eq,
    traced.creates_missing⟩
  · intro succeeded
    rw [complete succeeded] at parts
    exact List.append_right_eq_self.1 parts
  · intro granted
    exact sound.succeeds_iff.2 (course.not_isFailure granted)

theorem BuiltVolumes.of_granted {layout : Layout} {before added : List Event}
    {r : Except Failure Unit} (h : layout.BuiltVolumes m host before added r)
    (granted : Along m.Grants before added) :
    r = .ok () ∧ host (before ++ added) = (host before).settled layout.plannedObjects ∧
      m.creations before added = ((host before).missing layout.plannedObjects).map Prod.snd := by
  obtain ⟨settled, rest, parts, complete, succeeds, after, creations, -⟩ := h
  have succeeded := succeeds granted
  rw [complete succeeded, List.append_nil] at parts
  rw [parts]
  exact ⟨succeeded, after, creations⟩

theorem missing_plannedObjects (host : Host) (layout : Layout) :
    ∃ made, (host.missing layout.plannedObjects).map Prod.snd =
        made.map (host.settled layout.plannedObjects).commandFor ∧
      made ⊆ layout.plannedObjects ∧ (made.map PlannedObject.key).Nodup ∧
      ∀ key, key ∈ made.map PlannedObject.key ↔
        key ∈ layout.plannedObjects.map PlannedObject.key ∧ host.holds key = false := by
  refine ⟨(host.missing layout.plannedObjects).map Prod.fst, ?_, ?_, ?_, ?_⟩
  · rw [List.map_map]
    exact List.map_congr_left fun made mem => Host.mem_missing_groups_volumes mem
  · intro object mem
    obtain ⟨made, added, rfl⟩ := List.mem_map.1 mem
    obtain ⟨before, after, parts, -⟩ := Host.mem_missing added
    rw [parts]
    simp
  · rw [List.map_map]
    exact Host.nodup_missingKeys
  · intro key
    rw [List.map_map]
    exact Host.mem_missingKeys

end Layout

def World.since (w earlier : World) : List Event := w.events.drop earlier.events.length

theorem World.since_eq {w earlier : World} {added : List Event}
    (h : w.events = earlier.events ++ added) : w.since earlier = added := by
  rw [since, h, List.drop_left]

namespace Layout

/-- However a run on a host ends, another one in which no command fails succeeds, and leaves the host
that an uninterrupted run leaves. Both together create what that one creates: every planned object that
was missing, once, with the command that fits the host; nothing is created that is there already. -/
theorem buildVolumes_resumed (layout : Layout) {m m' : Machine} {host host' : List Event → Host}
    {w w₁ w₂ w' w₃ : World} {r r₂ r₃ : Except Failure Unit}
    (hosted : m.Hosts host layout.plannedObjects) (hosted' : m'.Hosts host' layout.plannedObjects)
    (same : host w.events = host' w'.events)
    (stopped : Session.whole none layout.buildVolumes m w = (r, w₁))
    (resumed : Session.whole none layout.buildVolumes m w₁ = (r₂, w₂))
    (granted : Along m.Grants w₁.events (w₂.since w₁))
    (uninterrupted : Session.whole none layout.buildVolumes m' w' = (r₃, w₃))
    (granted' : Along m'.Grants w'.events (w₃.since w')) :
    r₂ = .ok () ∧ r₃ = .ok () ∧ host w₂.events = host' w₃.events ∧
      m.creations w.events (w₂.since w) = m'.creations w'.events (w₃.since w') ∧
      (∃ made, m'.creations w'.events (w₃.since w') = made.map (host' w₃.events).commandFor ∧
        made ⊆ layout.plannedObjects ∧ (made.map PlannedObject.key).Nodup ∧
        ∀ key, key ∈ made.map PlannedObject.key ↔
          key ∈ layout.plannedObjects.map PlannedObject.key ∧ (host w.events).holds key = false) ∧
      Along (CreatesMissing host layout.plannedObjects) w.events (w₂.since w) := by
  obtain ⟨first, events₁, built₁⟩ := layout.buildVolumes_ensures hosted w
  obtain ⟨second, events₂, built₂⟩ := layout.buildVolumes_ensures hosted w₁
  obtain ⟨whole, events₃, built₃⟩ := layout.buildVolumes_ensures hosted' w'
  rw [stopped] at events₁ built₁
  rw [resumed] at events₂ built₂
  rw [uninterrupted] at events₃ built₃
  have events : w₂.events = w.events ++ (first ++ second) := by
    rw [← List.append_assoc, ← events₁, ← events₂]
  rw [World.since_eq events₂] at granted
  rw [World.since_eq events₃] at granted' ⊢
  rw [World.since_eq events]
  obtain ⟨ok₂, host₂, creations₂⟩ := built₂.of_granted granted
  obtain ⟨ok₃, host₃, creations₃⟩ := built₃.of_granted granted'
  obtain ⟨settled, rest, parts, -, -, host₁, creations₁, missing₁⟩ := built₁
  obtain ⟨-, -, -, -, -, -, -, missing₂⟩ := built₂
  rw [← events₁] at host₁
  -- The second run meets the host with a part of the objects settled.
  have last : host w₂.events = (host w.events).settled layout.plannedObjects := by
    rw [events₂, host₂, host₁, parts, Host.settled_resumed]
  have creations : m.creations w.events (first ++ second) =
      ((host w.events).missing layout.plannedObjects).map Prod.snd := by
    rw [creations_append, creations₁, ← events₁, creations₂, host₁, ← List.map_append, parts,
      Host.missing_resumed]
  rw [← events₃, ← same] at host₃
  rw [← same] at creations₃
  have missing : Along (CreatesMissing host layout.plannedObjects) w.events (first ++ second) := by
    rw [along_append, ← events₁]
    exact ⟨missing₁, missing₂⟩
  rw [creations, creations₃, last, host₃]
  exact ⟨ok₂, ok₃, rfl, rfl, missing_plannedObjects _ _, missing⟩

end Layout

def timesAsked (tool : Tool) (events : List Event) : Nat :=
  events.countP fun
    | .command command => command.tool == tool
    | .mount _ | .unmount _ => false

theorem timesAsked_concat (tool : Tool) (before : List Event) (command : Command) :
    timesAsked tool (before ++ [.command command]) =
      timesAsked tool before + if command.tool = tool then 1 else 0 := by
  simp [timesAsked, List.countP_append, List.countP_cons]

/-- The group is there once it was asked for, the volume when it was asked for twice. -/
def hostOnceRefused (before : List Event) : Host where
  groups name := if name = "vg0" ∧ 0 < timesAsked .vgcreate before then some 2 else none
  volumes := if 1 < timesAsked .lvcreate before then {("vg0", "root")} else ∅

def machineOnceRefused : Machine where
  run before command :=
    match command.tool with
    | .vgs => .ok ⟨if 0 < timesAsked .vgcreate before then rowText "vg0" "2" else "", ""⟩
    | .lvs => .ok ⟨if 1 < timesAsked .lvcreate before then rowText "vg0" "root" else "", ""⟩
    | .lvcreate => if 0 < timesAsked .lvcreate before then .ok {} else .error (.missingTools [])
    | _ => .ok {}
  mount _ _ := .ok ()
  unmount _ _ := .ok ()
  canonical _ := none

def stripedLayout : Layout where
  groups := [{ name := "vg0", devices := ["/dev/sdb", "/dev/sdc"] }]
  volumes := [{ name := "root", group := "vg0", allocation := .striped }]

theorem listsGroups_onceRefused (before : List Event) : (hostOnceRefused before).ListsGroups
    (if 0 < timesAsked .vgcreate before then rowText "vg0" "2" else "") := by
  unfold Host.ListsGroups hostOnceRefused
  by_cases there : 0 < timesAsked .vgcreate before
  · rw [if_pos there]
    refine ⟨[("vg0", 2)], shows_rowText (by decide) (by decide), by decide, fun name count => ?_⟩
    simp [there, eq_comm]
  · rw [if_neg there]
    exact ⟨[], shows_nothing, by decide, by simp [there]⟩

theorem listsVolumes_onceRefused (before : List Event) : (hostOnceRefused before).ListsVolumes
    (if 1 < timesAsked .lvcreate before then rowText "vg0" "root" else "") := by
  unfold Host.ListsVolumes hostOnceRefused
  by_cases there : 1 < timesAsked .lvcreate before
  · rw [if_pos there]
    exact ⟨[("vg0", "root")], shows_rowText (by decide) (by decide), by simp [there]⟩
  · rw [if_neg there]
    exact ⟨[], shows_nothing, by simp [there]⟩

theorem hostOnceRefused_concat {before : List Event} {command : Command}
    (group : command.tool ≠ .vgcreate)
    (volume : command.tool = .lvcreate → timesAsked .lvcreate before = 0) :
    hostOnceRefused (before ++ [.command command]) = hostOnceRefused before := by
  unfold hostOnceRefused
  rw [timesAsked_concat, timesAsked_concat, if_neg group, Nat.add_zero]
  by_cases other : command.tool = .lvcreate
  · rw [if_pos other, volume other]
    rfl
  · rw [if_neg other, Nat.add_zero]

theorem hostOnceRefused_group {before : List Event} {command : Command}
    (tool : command.tool = .vgcreate) :
    hostOnceRefused (before ++ [.command command]) =
      (hostOnceRefused before).add (.group ⟨"vg0", ["/dev/sdb", "/dev/sdc"], []⟩) := by
  ext1
  · funext name
    by_cases same : name = "vg0"
    · simp [hostOnceRefused, timesAsked_concat, tool, Host.add, same]
    · simp [hostOnceRefused, Host.add, same]
  · simp [hostOnceRefused, timesAsked_concat, tool, Host.add]

theorem hostOnceRefused_volume {before : List Event} {command : Command}
    (tool : command.tool = .lvcreate) (asked : 0 < timesAsked .lvcreate before) :
    hostOnceRefused (before ++ [.command command]) =
      (hostOnceRefused before).add (.volume ⟨"root", "vg0", none, .striped⟩) := by
  ext1
  · simp [hostOnceRefused, timesAsked_concat, tool, Host.add]
  · by_cases twice : 1 < timesAsked .lvcreate before
    · simp [hostOnceRefused, timesAsked_concat, tool, Host.add, twice, Nat.lt_succ_of_lt twice]
    · simp [hostOnceRefused, timesAsked_concat, tool, Host.add, twice, asked]

theorem hosts_onceRefused : machineOnceRefused.Hosts hostOnceRefused stripedLayout.plannedObjects where
  failed := by
    intro before command failure refused
    simp only [machineOnceRefused] at refused
    split at refused <;> try cases refused
    next tool =>
      split at refused
      · cases refused
      · next never => exact hostOnceRefused_concat (by simp [tool]) fun _ => by omega
  groups := by
    rintro before _ ⟨⟩
    exact ⟨hostOnceRefused_concat (by decide) nofun, listsGroups_onceRefused before⟩
  volumes := by
    rintro before _ ⟨⟩
    exact ⟨hostOnceRefused_concat (by decide) nofun, listsVolumes_onceRefused before⟩
  created := by
    intro before object command output mem _ creates answer
    obtain ⟨catalog, rfl⟩ := creates
    have planned : object = .group ⟨"vg0", ["/dev/sdb", "/dev/sdc"], []⟩ ∨
        object = .volume ⟨"root", "vg0", none, .striped⟩ := by
      simpa [Layout.plannedObjects, stripedLayout] using mem
    rcases planned with rfl | rfl
    · exact hostOnceRefused_group rfl
    · refine hostOnceRefused_volume rfl (Nat.pos_iff_ne_zero.2 fun never => ?_)
      have refused : machineOnceRefused.run before
          ((PlannedObject.volume ⟨"root", "vg0", none, .striped⟩).command catalog) =
            .error (.missingTools []) := if_neg (Nat.not_lt.2 (Nat.le_of_eq never))
      cases refused.symm.trans answer

def worldAfter (events : List Event) : World := ⟨⟨[], []⟩, events, []⟩

def buildOnceRefused (w : World) : Except Failure Unit × World :=
  Session.whole none stripedLayout.buildVolumes machineOnceRefused w

/-- The volume is refused, then created in a second run, as in a run on a machine that has refused
another one before. -/
theorem buildVolumes_resumed_onceRefused :
    let stopped := buildOnceRefused (worldAfter [])
    let resumed := buildOnceRefused stopped.2
    stopped.1 = .error (.target "logical volume vg0/root" (.missingTools [])) ∧
      resumed.1 = .ok () ∧
      machineOnceRefused.creations [] (resumed.2.since (worldAfter [])) =
        [⟨.vgcreate, ["--yes", "vg0", "/dev/sdb", "/dev/sdc"]⟩,
          ⟨.lvcreate, ["--yes", "--wipesignatures", "y", "--name", "root", "--extents", "100%FREE",
            "--type", "striped", "--stripes", "2", "vg0"]⟩] := by
  have same : hostOnceRefused (worldAfter []).events =
      hostOnceRefused (worldAfter [.command ⟨.lvcreate, []⟩]).events := rfl
  obtain ⟨succeeded, -, -, creations, -⟩ := stripedLayout.buildVolumes_resumed hosts_onceRefused
    hosts_onceRefused same Prod.mk.eta.symm Prod.mk.eta.symm (by decide) Prod.mk.eta.symm
    (by decide)
  exact ⟨by decide, succeeded, creations.trans (by decide +kernel)⟩

end NodeStorage
