import NodeStorage.Proofs.Volumes.Course

/-! Sessions follow courses. A call gives each of its objects a turn, in order, up to the first that
is refused; if nothing is known, the turn of the first object begins with the listing. -/

namespace NodeStorage

open VolumeCatalog

variable {m : Machine} {w : World}

inductive Turn (object : PlannedObject) : VolumeAct → Except Failure Unit → Prop where
  | kept : Turn object (.kept object) (.ok ())
  | created {command : Command} : Turn object (.created object command) (.ok ())
  | refused {command : Command} {failure : Failure} :
      Turn object (.refused object command) (.error failure)

inductive Turns : List PlannedObject → List VolumeAct → Except Failure Unit → Prop where
  | none : Turns [] [] (.ok ())
  | next {object : PlannedObject} {objects : List PlannedObject} {act : VolumeAct}
      {acts : List VolumeAct} {r : Except Failure Unit} (turn : Turn object act (.ok ()))
      (rest : Turns objects acts r) : Turns (object :: objects) (act :: acts) r
  | last {object : PlannedObject} {objects : List PlannedObject} {act : VolumeAct}
      {failure : Failure} (turn : Turn object act (.error failure)) :
      Turns (object :: objects) [act] (.error failure)

inductive Attended : Option VolumeCatalog → List PlannedObject → List VolumeAct →
    Except Failure Unit → Prop where
  | idle : Attended none [] [] (.ok ())
  | known {catalog : VolumeCatalog} {objects : List PlannedObject} {acts : List VolumeAct}
      {r : Except Failure Unit} (turns : Turns objects acts r) :
      Attended (some catalog) objects acts r
  | listed {object : PlannedObject} {objects : List PlannedObject} {groups volumes : String}
      {acts : List VolumeAct} {r : Except Failure Unit} (turns : Turns (object :: objects) acts r) :
      Attended none (object :: objects) (.listed groups volumes :: acts) r
  | unlisted {object : PlannedObject} {objects : List PlannedObject} {asked : List Command}
      {failure : Failure} :
      Attended none (object :: objects) [.unlisted asked] (.error failure)

theorem create_new_ensures (object : PlannedObject) {catalog : VolumeCatalog} (label : String)
    (new : catalog.holds object.key = false) :
    (do
      let _ ← Step.naming label (Step.run (object.command catalog))
      Session.update fun _ => some (object.addTo catalog) : VolumeSession Unit).Ensures m
      (some catalog) w fun added r last w' => ∃ act : VolumeAct, added = act.events ∧
        last = act.known (some catalog) ∧ act.Happens m w.events (some catalog) ∧
        Turn object act r ∧ act.notices (some catalog) = object.announced catalog ∧
        w'.notices = w.notices := by
  cases answer : m.run w.events (object.command catalog) with
  | ok output =>
    refine ⟨[.command (object.command catalog)], ?_, .created object _, rfl, ?_,
      .created new answer, ?_, rfl, ?_⟩ <;>
      simp only [Session.bind_apply, Session.lift_apply, Step.naming, Step.run, answer, mapError_ok]
    · rfl
    · rfl
    · exact .created
    · rfl
  | error failure =>
    refine ⟨[.command (object.command catalog)], ?_, .refused object _, rfl, ?_,
      .refused new answer, ?_, rfl, ?_⟩ <;>
      simp only [Session.bind_apply, Session.lift_apply, Step.naming, Step.run, answer,
        mapError_error]
    · rfl
    · exact .refused

theorem ensures_known {α : Type} {f : VolumeCatalog → VolumeSession α} {catalog : VolumeCatalog}
    {Q : List Event → Except Failure α → Option VolumeCatalog → World → Prop}
    (h : (f catalog).Ensures m (some catalog) w Q) :
    (knownVolumes >>= f).Ensures m (some catalog) w Q := h

theorem ensures_resolved {α : Type} {plan : LogicalVolumePlan} {count : Nat}
    {f : Allocation → VolumeSession α} {s : Option VolumeCatalog}
    {Q : List Event → Except Failure α → Option VolumeCatalog → World → Prop}
    (h : (f (plan.resolved count)).Ensures m s
      { w with notices := w.notices ++
        if plan.isDowngraded count then [plan.downgraded count] else [] } Q) :
    ((liftM (plan.resolve count) : VolumeSession Allocation) >>= f).Ensures m s w Q := by
  unfold LogicalVolumePlan.resolve
  cases down : plan.isDowngraded count with
  | true =>
    rw [down, if_pos rfl] at h
    exact h
  | false =>
    rw [down, if_neg Bool.false_ne_true, List.append_nil] at h
    exact h

theorem PlannedObject.create_ensures (object : PlannedObject) (catalog : VolumeCatalog) (w : World) :
    object.create.Ensures m (some catalog) w fun added r last w' => ∃ act : VolumeAct,
      added = act.events ∧ last = act.known (some catalog) ∧
      act.Happens m w.events (some catalog) ∧ Turn object act r ∧
      w'.notices = w.notices ++ act.notices (some catalog) := by
  cases object with
  | group plan =>
    refine ensures_known ?_
    by_cases there : catalog.hasGroup plan.name = true
    · rw [if_pos there]
      exact ⟨[], (List.append_nil _).symm, .kept (.group plan), rfl, rfl, .kept there, .kept, rfl⟩
    · rw [if_neg there]
      refine Session.ensures_said ?_
      refine (create_new_ensures (.group plan) _ (Bool.eq_false_iff.2 there)).mono ?_
      rintro added r last w' _ ⟨act, events, known, happens, turn, said, same⟩
      exact ⟨act, events, known, happens, turn, by rw [same, said]; rfl⟩
  | volume plan =>
    refine ensures_known ?_
    by_cases there : catalog.hasVolume plan.group plan.name = true
    · rw [if_pos there]
      exact ⟨[], (List.append_nil _).symm, .kept (.volume plan), rfl, rfl, .kept there, .kept, rfl⟩
    · rw [if_neg there]
      refine ensures_resolved (Session.ensures_said ?_)
      refine (create_new_ensures (.volume plan) _ (Bool.eq_false_iff.2 there)).mono ?_
      rintro added r last w' _ ⟨act, events, known, happens, turn, said, same⟩
      exact ⟨act, events, known, happens, turn, by rw [same, said, announced, List.append_assoc]⟩

theorem Turn.known_eq {object : PlannedObject} {act : VolumeAct} {r : Except Failure Unit}
    (h : Turn object act r) (catalog : VolumeCatalog) :
    ∃ after, act.known (some catalog) = some after := by
  cases h with
  | kept => exact ⟨catalog, rfl⟩
  | created => exact ⟨object.addTo catalog, rfl⟩
  | refused => exact ⟨catalog, rfl⟩

theorem forEach_create_known_ensures (objects : List PlannedObject) (catalog : VolumeCatalog)
    (w : World) :
    (Session.forEach PlannedObject.create objects).Ensures m (some catalog) w fun added r last w' =>
      ∃ acts, added = eventsOf acts ∧ last = knownAfter (some catalog) acts ∧
        Course m w.events (some catalog) acts ∧ Turns objects acts r ∧
        w'.notices = w.notices ++ noticesOf (some catalog) acts := by
  induction objects generalizing catalog w with
  | nil => exact Session.ensures_pure ⟨[], rfl, rfl, .start, .none, (List.append_nil _).symm⟩
  | cons object rest ih =>
    rw [Session.forEach_cons]
    refine Session.ensures_bind (object.create_ensures catalog w) ?_ ?_
    · rintro added failure last w' _ ⟨act, rfl, rfl, happens, turn, said⟩
      refine ⟨[act], (List.flatMap_singleton ..).symm, rfl, .single happens, .last turn, ?_⟩
      rw [said, noticesOf, noticesOf, List.append_nil]
    · rintro added _ last w' events ⟨act, rfl, rfl, happens, turn, said⟩
      obtain ⟨after, known⟩ := turn.known_eq catalog
      rw [known]
      refine (ih after w').mono ?_
      rintro more r last w'' _ ⟨acts, rfl, rfl, course, turns, later⟩
      rw [events, ← known] at course
      refine ⟨act :: acts, rfl, ?_, .cons happens course, .next turn turns, ?_⟩
      · rw [knownAfter, knownAfter, List.foldl_cons, known]
      · rw [later, said, noticesOf, known, List.append_assoc]

theorem VolumeCatalog.list_ensures : list.Ensures m w fun added r w' => ∃ act : VolumeAct,
    added = act.events ∧ act.Happens m w.events none ∧ w'.notices = w.notices ∧
      ((∃ groups volumes, act = .listed groups volumes ∧ r = .ok (ofReports groups volumes)) ∨
        ∃ asked failure, act = .unlisted asked ∧ r = .error failure) := by
  cases first : m.run w.events groupsCommand with
  | error failure =>
    refine ⟨[.command groupsCommand], ?_, .unlisted [groupsCommand], rfl, .groupsUnlisted first, ?_,
      .inr ⟨_, .target "listing volume groups" failure, rfl, ?_⟩⟩ <;>
      simp only [list, Step.bind_apply, Step.naming, Step.run, first, mapError_error]
  | ok groups =>
    cases second : m.run (w.events ++ [.command groupsCommand]) volumesCommand with
    | error failure =>
      refine ⟨[.command groupsCommand, .command volumesCommand], ?_,
        .unlisted [groupsCommand, volumesCommand], rfl, .volumesUnlisted first second, ?_,
        .inr ⟨_, .target "listing logical volumes" failure, rfl, ?_⟩⟩ <;>
        simp only [list, Step.bind_apply, Step.naming, Step.run, first, second, mapError_ok,
          mapError_error, List.append_assoc, List.singleton_append]
    | ok volumes =>
      refine ⟨[.command groupsCommand, .command volumesCommand], ?_,
        .listed groups.stdout volumes.stdout, rfl, .listed first second, ?_, .inl ⟨_, _, rfl, ?_⟩⟩ <;>
        simp only [list, Step.bind_apply, Step.naming, Step.run, first, second, mapError_ok,
          List.append_assoc, List.singleton_append]
      · rfl
      · rfl
      · rfl

theorem forEach_create_ensures (objects : List PlannedObject) (s : Option VolumeCatalog) (w : World) :
    (Session.forEach PlannedObject.create objects).Ensures m s w fun added r last w' =>
      ∃ acts, added = eventsOf acts ∧ last = knownAfter s acts ∧ Course m w.events s acts ∧
        Attended s objects acts r ∧ w'.notices = w.notices ++ noticesOf s acts := by
  cases s with
  | some catalog =>
    refine (forEach_create_known_ensures objects catalog w).mono ?_
    rintro added r last w' _ ⟨acts, events, known, course, turns, said⟩
    exact ⟨acts, events, known, course, .known turns, said⟩
  | none =>
    cases objects with
    | nil => exact Session.ensures_pure ⟨[], rfl, rfl, .start, .idle, (List.append_nil _).symm⟩
    | cons object rest =>
      -- Nothing is known yet: whatever the first object is, its turn begins with the listing.
      have first : ListsFirst (Session.forEach PlannedObject.create (object :: rest)) := by
        rw [Session.forEach_cons]
        cases object with
        | group plan => exact (listsFirst_known _).bind _
        | volume plan => exact (listsFirst_known _).bind _
      obtain ⟨added, events, act, rfl, happens, silent, outcome⟩ := list_ensures (m := m) (w := w)
      rw [Session.Ensures, first]
      rcases listed : VolumeCatalog.list m w with ⟨r, w'⟩
      rw [listed] at events silent outcome
      rcases outcome with ⟨groups, volumes, rfl, rfl⟩ | ⟨asked, failure, rfl, rfl⟩
      · obtain ⟨more, events', acts, rfl, known, course, turns, said⟩ :=
          forEach_create_known_ensures (m := m) (object :: rest) (ofReports groups volumes) w'
        rw [events] at events' course
        rw [silent] at said
        exact ⟨_, events'.trans (List.append_assoc ..), .listed groups volumes :: acts, rfl, known,
          .cons happens course, .listed turns, said⟩
      · exact ⟨_, events, [.unlisted asked], (List.flatMap_singleton ..).symm, rfl, .single happens,
          .unlisted, silent.trans (List.append_nil _).symm⟩

end NodeStorage
