import NodeStorage.Device.Properties

/-! What steps and sessions ensure. A step only adds to the events that were there before it; what
it ensures is a property of the events it adds, of its outcome and of the world it leaves. There is
one rule for each way to build a step, so that a composed step is followed from its first part on,
and never has to be unfolded as a whole. -/

namespace NodeStorage

/-- A machine that answers a command in the same way whatever came before. -/
def Machine.Steady (m : Machine) (answer : Command → Except Failure Output) : Prop :=
  ∀ history command, m.run history command = answer command

def Machine.ofAnswers (answer : Command → Except Failure Output)
    (canonical : String → Option String) : Machine where
  run _ := answer
  mount _ _ := .ok ()
  unmount _ _ := .ok ()
  canonical := canonical

theorem Machine.steady_ofAnswers (answer : Command → Except Failure Output)
    (canonical : String → Option String) : (ofAnswers answer canonical).Steady answer :=
  fun _ _ => rfl

namespace Event

def IsCommand (event : Event) : Prop := ∃ command, event = .command command

def IsMount (event : Event) : Prop := ∃ request, event = .mount request

def IsUnmount (event : Event) : Prop := ∃ target, event = .unmount target

variable {event : Event}

theorem IsCommand.not_isMount (h : event.IsCommand) : ¬ event.IsMount := by
  obtain ⟨command, rfl⟩ := h
  intro mount
  obtain ⟨request, same⟩ := mount
  cases same

theorem IsCommand.not_isUnmount (h : event.IsCommand) : ¬ event.IsUnmount := by
  obtain ⟨command, rfl⟩ := h
  intro unmount
  obtain ⟨target, same⟩ := unmount
  cases same

theorem IsMount.not_isUnmount (h : event.IsMount) : ¬ event.IsUnmount := by
  obtain ⟨request, rfl⟩ := h
  intro unmount
  obtain ⟨target, same⟩ := unmount
  cases same

end Event

@[simp] theorem mapError_ok {ε ε' α : Type} (f : ε → ε') (a : α) :
    (Except.ok a : Except ε α).mapError f = .ok a := rfl

@[simp] theorem mapError_error {ε ε' α : Type} (f : ε → ε') (e : ε) :
    (Except.error e : Except ε α).mapError f = .error (f e) := rfl

namespace Step

variable {α β : Type} {m : Machine} {w : World}

/-- The step adds events to the earlier ones, and it is as `Q` says. -/
def Ensures (x : Step α) (m : Machine) (w : World)
    (Q : List Event → Except Failure α → World → Prop) : Prop :=
  ∃ added, (x m w).2.events = w.events ++ added ∧ Q added (x m w).1 (x m w).2

theorem Ensures.mono {x : Step α} {Q R : List Event → Except Failure α → World → Prop}
    (h : x.Ensures m w Q) (imp : ∀ added r w', w'.events = w.events ++ added → Q added r w' →
      R added r w') : x.Ensures m w R := by
  obtain ⟨added, events, q⟩ := h
  exact ⟨added, events, imp _ _ _ events q⟩

theorem Ensures.known {x : Step α} {Q : List Event → Except Failure α → World → Prop}
    (h : x.Ensures m w Q) : x.Ensures m w fun added r w' => x m w = (r, w') ∧ Q added r w' := by
  obtain ⟨added, events, q⟩ := h
  exact ⟨added, events, rfl, q⟩

theorem map_apply (f : α → β) (x : Step α) :
    (f <$> x) m w = ((x m w).1.map f, (x m w).2) := by
  rw [← bind_pure_comp, bind_apply]
  rcases x m w with ⟨failure | a, w'⟩
  · rfl
  · rfl

theorem attempt_read_apply (device : String) :
    attempt (Properties.read device) m w =
      (.ok ((m.run w.events (Properties.command device)).map fun output =>
          Properties.ofText output.stdout),
        { w with events := w.events ++ [.command (Properties.command device)] }) := by
  unfold Properties.read
  rw [bind_pure_comp, attempt, map_apply]
  rfl

theorem ensures_pure {a : α} {Q : List Event → Except Failure α → World → Prop}
    (h : Q [] (.ok a) w) : (Pure.pure a : Step α).Ensures m w Q :=
  ⟨[], (List.append_nil _).symm, h⟩

theorem ensures_bind {x : Step α} {f : α → Step β}
    {Q : List Event → Except Failure α → World → Prop}
    {R : List Event → Except Failure β → World → Prop} (hx : x.Ensures m w Q)
    (failed : ∀ added failure w', w'.events = w.events ++ added → Q added (.error failure) w' →
      R added (.error failure) w')
    (passed : ∀ added a w', w'.events = w.events ++ added → Q added (.ok a) w' →
      (f a).Ensures m w' fun more r w'' => R (added ++ more) r w'') :
    (x >>= f).Ensures m w R := by
  obtain ⟨added, events, q⟩ := hx
  rw [Ensures, bind_apply]
  rcases hxw : x m w with ⟨failure | a, w'⟩
  · rw [hxw] at events q
    exact ⟨added, events, failed _ _ _ events q⟩
  · rw [hxw] at events q
    obtain ⟨more, events', r⟩ := passed _ _ _ events q
    exact ⟨added ++ more, by rw [events', events, List.append_assoc], r⟩

theorem ensures_bind_of_eq {x : Step α} {f : α → Step β} {a : α} {w' : World}
    {R : List Event → Except Failure β → World → Prop} (hx : x m w = (.ok a, w'))
    (events : w'.events = w.events) (h : (f a).Ensures m w' R) : (x >>= f).Ensures m w R := by
  obtain ⟨added, events', r⟩ := h
  rw [Ensures, bind_apply, hx]
  exact ⟨added, by rw [events', events], r⟩

theorem ensures_fail {failure : Failure} {Q : List Event → Except Failure α → World → Prop}
    (h : Q [] (.error failure) w) : (fail failure : Step α).Ensures m w Q :=
  ⟨[], (List.append_nil _).symm, h⟩

theorem ensures_attempt {x : Step α} {Q : List Event → Except Failure (Except Failure α) → World →
    Prop} (h : x.Ensures m w fun added r w' => Q added (.ok r) w') :
    (attempt x).Ensures m w Q := h

theorem ensures_naming {x : Step α} {name : String}
    {Q : List Event → Except Failure α → World → Prop}
    (h : x.Ensures m w fun added r w' => Q added (r.mapError (.target name)) w') :
    (naming name x).Ensures m w Q := h

theorem ensures_note {notice : Notice} {Q : List Event → Except Failure Unit → World → Prop}
    (h : Q [] (.ok ()) { w with notices := w.notices ++ [notice] }) :
    (note notice).Ensures m w Q :=
  ⟨[], (List.append_nil _).symm, h⟩

theorem ensures_run {command : Command} {Q : List Event → Except Failure Output → World → Prop}
    (h : Q [.command command] (m.run w.events command)
      { w with events := w.events ++ [.command command] }) : (run command).Ensures m w Q :=
  ⟨_, rfl, h⟩

theorem ensures_unmount {target : Path} {Q : List Event → Except Failure Unit → World → Prop}
    (h : Q [.unmount target] (m.unmount w.events target)
      { w with events := w.events ++ [.unmount target] }) : (unmount target).Ensures m w Q :=
  ⟨_, rfl, h⟩

theorem ensures_look {f : FileTree → α} {Q : List Event → Except Failure α → World → Prop}
    (h : Q [] (.ok (f w.files)) w) : (look f).Ensures m w Q :=
  ⟨[], (List.append_nil _).symm, h⟩

theorem startWorkers_of_started {count : Nat} (h : m.unstarted w.events count = none) :
    startWorkers count m w = (.ok (), w) := by
  rw [startWorkers, h]

theorem startWorkers_of_unstarted {count : Nat} {reason : String}
    (h : m.unstarted w.events count = some reason) :
    startWorkers count m w = (.error (.workersNotStarted reason), w) := by
  rw [startWorkers, h]

theorem ensures_startWorkers {count : Nat} {Q : List Event → Except Failure Unit → World → Prop}
    (h : ∀ r, Q [] r w) : (startWorkers count).Ensures m w Q := by
  refine ⟨[], ?_⟩
  cases started : m.unstarted w.events count with
  | none =>
    rw [startWorkers_of_started started]
    exact ⟨(List.append_nil _).symm, h _⟩
  | some reason =>
    rw [startWorkers_of_unstarted started]
    exact ⟨(List.append_nil _).symm, h _⟩

theorem ensures_tryWriteText {p : Path} {content : String}
    {Q : List Event → Except Failure (Except IoFault Unit) → World → Prop}
    (h : ∀ r files, Q [] (.ok r) { w with files := files }) :
    (tryWriteText p content).Ensures m w Q := by
  refine ⟨[], ?_, ?_⟩ <;> unfold tryWriteText
  · split
    · exact (List.append_nil _).symm
    · split <;> exact (List.append_nil _).symm
  · split
    · exact h _ w.files
    · split
      · exact h _ _
      · exact h _ w.files

theorem ensures_makeDirectories {p : Path} {Q : List Event → Except Failure Unit → World → Prop}
    (h : ∀ r files, Q [] r { w with files := files }) : (makeDirectories p).Ensures m w Q := by
  refine ⟨[], ?_, ?_⟩ <;> unfold makeDirectories
  · split <;> exact (List.append_nil _).symm
  · split
    · exact h _ w.files
    · exact h _ _

theorem forEach_cons (f : α → Step β) (a : α) (rest : List α) :
    forEach f (a :: rest) = (do
      let b ← f a
      let bs ← forEach f rest
      return b :: bs) := rfl

theorem bind_of_ok {x : Step α} {f : α → Step β} {a : α} {w' : World} (h : x m w = (.ok a, w')) :
    (x >>= f) m w = f a m w' := by
  rw [bind_apply, h]

theorem bind_of_error {x : Step α} {f : α → Step β} {failure : Failure} {w' : World}
    (h : x m w = (.error failure, w')) : (x >>= f) m w = (.error failure, w') := by
  rw [bind_apply, h]

theorem forEach_cons_of_ok {f : α → Step β} {a : α} {b : β} {w' : World}
    (h : f a m w = (.ok b, w')) (rest : List α) :
    forEach f (a :: rest) m w =
      ((forEach f rest m w').1.map (b :: ·), (forEach f rest m w').2) := by
  rw [forEach_cons, bind_of_ok h, bind_pure_comp, map_apply]

theorem forEach_cons_of_error {f : α → Step β} {a : α} {failure : Failure} {w' : World}
    (h : f a m w = (.error failure, w')) (rest : List α) :
    forEach f (a :: rest) m w = (.error failure, w') := by
  rw [forEach_cons, bind_of_error h]

end Step

namespace Session

variable {σ α β : Type} {m : Machine} {s : σ} {w : World}

def Ensures (x : Session σ α) (m : Machine) (s : σ) (w : World)
    (Q : List Event → Except Failure α → σ → World → Prop) : Prop :=
  ∃ added, (x m s w).2.2.events = w.events ++ added ∧
    Q added (x m s w).1 (x m s w).2.1 (x m s w).2.2

theorem Ensures.mono {x : Session σ α} {Q R : List Event → Except Failure α → σ → World → Prop}
    (h : x.Ensures m s w Q) (imp : ∀ added r s' w', w'.events = w.events ++ added →
      Q added r s' w' → R added r s' w') : x.Ensures m s w R := by
  obtain ⟨added, events, q⟩ := h
  exact ⟨added, events, imp _ _ _ _ events q⟩

theorem ensures_pure {a : α} {Q : List Event → Except Failure α → σ → World → Prop}
    (h : Q [] (.ok a) s w) : (Pure.pure a : Session σ α).Ensures m s w Q :=
  ⟨[], (List.append_nil _).symm, h⟩

theorem ensures_bind {x : Session σ α} {f : α → Session σ β}
    {Q : List Event → Except Failure α → σ → World → Prop}
    {R : List Event → Except Failure β → σ → World → Prop} (hx : x.Ensures m s w Q)
    (failed : ∀ added failure s' w', w'.events = w.events ++ added →
      Q added (.error failure) s' w' → R added (.error failure) s' w')
    (passed : ∀ added a s' w', w'.events = w.events ++ added → Q added (.ok a) s' w' →
      (f a).Ensures m s' w' fun more r s'' w'' => R (added ++ more) r s'' w'') :
    (x >>= f).Ensures m s w R := by
  obtain ⟨added, events, q⟩ := hx
  rw [Ensures, bind_apply]
  rcases hxw : x m s w with ⟨failure | a, s', w'⟩
  · rw [hxw] at events q
    exact ⟨added, events, failed _ _ _ _ events q⟩
  · rw [hxw] at events q
    obtain ⟨more, events', r⟩ := passed _ _ _ _ events q
    exact ⟨added ++ more, by rw [events', events, List.append_assoc], r⟩

theorem lift_apply (x : Step α) :
    (liftM x : Session σ α) m s w = ((x m w).1, s, (x m w).2) := rfl

theorem ensures_lift {x : Step α} {Q : List Event → Except Failure α → σ → World → Prop}
    (h : x.Ensures m w fun added r w' => Q added r s w') :
    (liftM x : Session σ α).Ensures m s w Q := h

theorem ensures_update {f : σ → σ} {Q : List Event → Except Failure Unit → σ → World → Prop}
    (h : Q [] (.ok ()) (f s) w) : (update f).Ensures m s w Q :=
  ⟨[], (List.append_nil _).symm, h⟩

theorem forEach_cons (f : α → Session σ Unit) (a : α) (rest : List α) :
    forEach f (a :: rest) = (do
      f a
      forEach f rest) := rfl

theorem forEach_map {γ : Type} (f : β → Session σ Unit) (g : γ → β) (items : List γ) :
    forEach f (items.map g) = forEach (fun a => f (g a)) items := by
  induction items with
  | nil => rfl
  | cons a rest ih => rw [List.map_cons, forEach_cons, forEach_cons, ih]

theorem ensures_said {notice : Notice} {x : Session σ α}
    {Q : List Event → Except Failure α → σ → World → Prop}
    (h : x.Ensures m s { w with notices := w.notices ++ [notice] } Q) :
    ((liftM (Step.note notice) : Session σ Unit) >>= fun _ => x).Ensures m s w Q := h

theorem ensures_whole {first : σ} {x : Session σ α}
    {Q : List Event → Except Failure α → World → Prop}
    (h : x.Ensures m first w fun added r _ w' => Q added r w') : (whole first x).Ensures m w Q := h

end Session

end NodeStorage
