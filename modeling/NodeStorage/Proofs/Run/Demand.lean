import NodeStorage.Proofs.Run.Ensures

/-! What a run demands of the machine, in order. A run passes its demands one after the other, until
one of them is not met or, where it is free to, the run stops for a reason of its own; after a demand
that is not met it demands nothing more, and fails with the reason why. Events other than commands may
come between. -/

namespace NodeStorage

/-- The identifier of a device by the answer to the look at its properties. -/
def foundUuid (device : String) : Except Failure Output → Except Failure String
  | .error failure => .error (.propertyLookupFailed device failure)
  | .ok output =>
    match (Properties.ofText output.stdout).get? "UUID" with
    | some uuid => .ok uuid
    | none => .error (.propertyLookupFailed device (.missingProperty "UUID"))

/-- A command whose failure does not matter, one that must succeed, or the lookup of the identifier
of a device. -/
inductive Demand where
  | advisory (command : Command)
  | required (command : Command)
  | identifier (device : String)
  deriving DecidableEq, Repr

namespace Demand

def command : Demand → Command
  | advisory command | required command => command
  | identifier device => ⟨.blkid, ["-o", "export", device]⟩

theorem command_identifier (device : String) :
    (identifier device).command = Properties.command device := rfl

def event (demand : Demand) : Event := .command demand.command

def fault? (answer : Except Failure Output) : Demand → Option Failure
  | advisory _ => none
  | required _ =>
    match answer with
    | .ok _ => none
    | .error failure => some failure
  | identifier device =>
    match foundUuid device answer with
    | .ok _ => none
    | .error failure => some failure

end Demand

inductive Failure.Under (cause : Failure) : Failure → Prop where
  | here : Under cause cause
  | named {name : String} {failure : Failure} (h : Under cause failure) :
      Under cause (.target name failure)

/-- All demands are met, in order, by these events. -/
inductive Passed (m : Machine) : List Event → List Demand → List Event → Prop where
  | nil {before : List Event} : Passed m before [] []
  | other {before rest : List Event} {demands : List Demand} {event : Event}
      (h : ¬ event.IsCommand) (passed : Passed m (before ++ [event]) demands rest) :
      Passed m before demands (event :: rest)
  | met {before rest : List Event} {demand : Demand} {demands : List Demand}
      (h : demand.fault? (m.run before demand.command) = none)
      (passed : Passed m (before ++ [.command demand.command]) demands rest) :
      Passed m before (demand :: demands) (.command demand.command :: rest)

/-- The run fails: all but the last of what it came to demand was met, and it fails with the reason why
that was not, or all of it was met and the run is free to stop. -/
inductive Stopped (free : Prop) (m : Machine) (before : List Event) (demands : List Demand)
    (events : List Event) (failure : Failure) : Prop where
  | cut (may : free) (served rest : List Demand) (demands_eq : demands = served ++ rest)
      (passed : Passed m before served events)
  | unmet (served rest : List Demand) (demand : Demand) (first last : List Event)
      {fault : Failure} (demands_eq : demands = served ++ demand :: rest)
      (passed : Passed m before served first)
      (h : demand.fault? (m.run (before ++ first) demand.command) = some fault)
      (under : fault.Under failure) (root : failure.rootCause = fault.rootCause)
      (events_eq : events = first ++ .command demand.command :: last)
      (quiet : ∀ event ∈ last, ¬ event.IsCommand)

/-- The outcome of a run goes with the demands that were met. -/
def Carried {α : Type} (free : Prop) (m : Machine) (before : List Event) (demands : List Demand)
    (events : List Event) : Except Failure α → Prop
  | .ok _ => Passed m before demands events
  | .error failure => Stopped free m before demands events failure

variable {α β : Type} {free : Prop} {m : Machine} {w : World} {before first second : List Event}
  {demands more : List Demand}

theorem Passed.append (h : Passed m before demands first)
    (h' : Passed m (before ++ first) more second) :
    Passed m before (demands ++ more) (first ++ second) := by
  induction h with
  | nil => simpa using h'
  | other quiet _ ih => exact .other quiet (ih (by simpa using h'))
  | met met _ ih => exact .met met (ih (by simpa using h'))

theorem Passed.of_quiet (quiet : ∀ event ∈ first, ¬ event.IsCommand) :
    Passed m before [] first := by
  induction first generalizing before with
  | nil => exact .nil
  | cons event rest ih =>
    exact .other (quiet event (by simp)) (ih fun other mem => quiet other (by simp [mem]))

theorem Passed.events_eq (h : Passed m before demands first)
    (commands : ∀ event ∈ first, event.IsCommand) : first = demands.map Demand.event := by
  induction h with
  | nil => rfl
  | other quiet _ ih => exact absurd (commands _ (by simp)) quiet
  | met met _ ih =>
    rw [List.map_cons, ← ih fun event mem => commands event (by simp [mem])]
    rfl

theorem Stopped.after (h : Passed m before demands first) {failure : Failure}
    (h' : Stopped free m (before ++ first) more second failure) :
    Stopped free m before (demands ++ more) (first ++ second) failure := by
  cases h' with
  | cut may served rest demands_eq passed =>
    exact .cut may (demands ++ served) rest (by rw [demands_eq, List.append_assoc]) (h.append passed)
  | unmet served rest demand middle last demands_eq passed met under root events_eq quiet =>
    refine .unmet (demands ++ served) rest demand (first ++ middle) last ?_ (h.append passed) ?_
      under root ?_ quiet
    · rw [demands_eq, List.append_assoc]
    · rw [← List.append_assoc]
      exact met
    · rw [events_eq, List.append_assoc]

theorem Stopped.early {failure : Failure} (h : Stopped free m before demands first failure)
    (later : List Demand) : Stopped free m before (demands ++ later) first failure := by
  cases h with
  | cut may served rest demands_eq passed =>
    exact .cut may served (rest ++ later) (by rw [demands_eq, List.append_assoc]) passed
  | unmet served rest demand middle last demands_eq passed met under root events_eq quiet =>
    refine .unmet served (rest ++ later) demand middle last ?_ passed met under root events_eq quiet
    rw [demands_eq, List.append_assoc, List.cons_append]

theorem Stopped.named {failure : Failure} (h : Stopped free m before demands first failure)
    (name : String) : Stopped free m before demands first (.target name failure) := by
  cases h with
  | cut may served rest demands_eq passed => exact .cut may served rest demands_eq passed
  | unmet served rest demand middle last demands_eq passed met under root events_eq quiet =>
    exact .unmet served rest demand middle last demands_eq passed met (.named under) root events_eq quiet

theorem Stopped.quiet {failure : Failure} (h : Stopped free m before demands first failure)
    (quiet : ∀ event ∈ second, ¬ event.IsCommand) :
    Stopped free m before demands (first ++ second) failure := by
  cases h with
  | cut may served rest demands_eq passed =>
    have longer := passed.append (.of_quiet quiet)
    rw [List.append_nil] at longer
    exact .cut may served rest demands_eq longer
  | unmet served rest demand middle last demands_eq passed met under root events_eq quiet' =>
    refine .unmet served rest demand middle (last ++ second) demands_eq passed met under root ?_ ?_
    · rw [events_eq, List.append_assoc, List.cons_append]
    · exact List.forall_mem_append.2 ⟨quiet', quiet⟩

theorem Stopped.freed {failure : Failure} (h : Stopped False m before demands first failure) :
    Stopped free m before demands first failure := by
  cases h with
  | cut may => exact may.elim
  | unmet served rest demand middle last demands_eq passed met under root events_eq quiet =>
    exact .unmet served rest demand middle last demands_eq passed met under root events_eq quiet

theorem Passed.carried (h : Passed m before demands first) {r : Except Failure α}
    (h' : Carried free m (before ++ first) more second r) :
    Carried free m before (demands ++ more) (first ++ second) r := by
  cases r with
  | ok a => exact h.append h'
  | error failure => exact .after h h'

theorem Carried.eq_nil {r : Except Failure α} (h : Carried free m before [] first r)
    (commands : ∀ event ∈ first, event.IsCommand) : first = [] := by
  cases r with
  | ok a => exact Passed.events_eq h commands
  | error failure =>
    cases h with
    | cut may served rest demands_eq passed =>
      obtain ⟨rfl, -⟩ := List.nil_eq_append_iff.1 demands_eq
      exact passed.events_eq commands
    | unmet served rest demand _ _ demands_eq => exact absurd demands_eq.symm (by simp)

namespace Step

/-- The step asks only commands, to carry these demands. -/
def Carries (x : Step α) (free : Prop) (m : Machine) (w : World) (demands : List Demand) : Prop :=
  x.Ensures m w fun added r _ =>
    (∀ event ∈ added, event.IsCommand) ∧ Carried free m w.events demands added r

theorem carries_of_silent {x : Step α} (may : free)
    (h : x.Ensures m w fun added _ _ => added = []) : x.Carries free m w [] := by
  refine h.mono fun added r w' _ silent => ?_
  rw [silent]
  cases r with
  | ok a => exact ⟨by simp, .nil⟩
  | error failure => exact ⟨by simp, .cut may [] [] rfl .nil⟩

theorem carries_of_ok {x : Step α}
    (h : x.Ensures m w fun added r _ => added = [] ∧ ∃ a, r = .ok a) : x.Carries free m w [] := by
  refine h.mono ?_
  rintro added _ w' _ ⟨rfl, a, rfl⟩
  exact ⟨by simp, .nil⟩

theorem Carries.events_eq {x : Step α} (h : x.Carries free m w []) : (x m w).2.events = w.events := by
  obtain ⟨added, events, commands, carried⟩ := h
  rw [events, carried.eq_nil commands, List.append_nil]

theorem carries_pure (a : α) : (Pure.pure a : Step α).Carries free m w [] :=
  carries_of_ok (ensures_pure ⟨rfl, a, rfl⟩)

theorem carries_note (notice : Notice) : (note notice).Carries free m w [] :=
  carries_of_ok (ensures_note ⟨rfl, (), rfl⟩)

theorem carries_bind {x : Step α} {f : α → Step β} (hx : x.Carries free m w demands)
    (hf : ∀ a w', w'.events = w.events ++ demands.map Demand.event → (f a).Carries free m w' more) :
    (x >>= f).Carries free m w (demands ++ more) := by
  refine ensures_bind hx ?_ ?_
  · intro added failure w' _ h
    have stopped : Stopped free m w.events demands added failure := h.2
    exact ⟨h.1, stopped.early more⟩
  · intro added a w' events h
    have passed : Passed m w.events demands added := h.2
    refine (hf a w' (by rw [events, passed.events_eq h.1])).mono ?_
    intro added' r w'' _ h'
    have carried := h'.2
    rw [events] at carried
    exact ⟨List.forall_mem_append.2 ⟨h.1, h'.1⟩, passed.carried carried⟩

theorem carries_naming {x : Step α} (h : x.Carries free m w demands) (name : String) :
    (naming name x).Carries free m w demands := by
  refine ensures_naming (h.mono ?_)
  intro added r w' _ h
  cases r with
  | ok a => exact h
  | error failure =>
    have stopped : Stopped free m w.events demands added failure := h.2
    exact ⟨h.1, stopped.named name⟩

theorem carries_bind_silent {x : Step α} {f : α → Step β} (hx : x.Carries free m w [])
    (hf : ∀ a w', (f a).Carries free m w' demands) : (x >>= f).Carries free m w demands :=
  carries_bind hx fun a w' _ => hf a w'

theorem carries_bind_pure {x : Step α} (h : x.Carries free m w demands) (f : α → β) :
    (x >>= fun a => Pure.pure (f a)).Carries free m w demands := by
  rw [← List.append_nil demands]
  exact carries_bind h fun a w' _ => carries_pure (f a)

theorem carries_forEach {f : α → Step β} {demandsOf : α → List Demand}
    (hf : ∀ a w', (f a).Carries free m w' (demandsOf a)) (items : List α) :
    (forEach f items).Carries free m w (items.flatMap demandsOf) := by
  induction items generalizing w with
  | nil => exact carries_pure []
  | cons a rest ih =>
    rw [forEach_cons, List.flatMap_cons]
    exact carries_bind (hf a w) fun b w' _ => carries_bind_pure ih _

theorem carries_of_answer {x : Step α} (demand : Demand)
    (events : (x m w).2.events = w.events ++ [.command demand.command])
    (h : (∃ a, (x m w).1 = .ok a ∧ demand.fault? (m.run w.events demand.command) = none) ∨
      ∃ failure, (x m w).1 = .error failure ∧
        demand.fault? (m.run w.events demand.command) = some failure) :
    x.Carries free m w [demand] := by
  refine ⟨[.command demand.command], events, ?_, ?_⟩
  · intro event mem
    exact ⟨demand.command, List.mem_singleton.1 mem⟩
  · rcases h with ⟨a, succeeded, met⟩ | ⟨failure, failed, unmet⟩
    · rw [succeeded]
      exact .met met .nil
    · rw [failed]
      refine .unmet [] [] demand [] [] rfl .nil ?_ .here rfl rfl (by simp)
      rw [List.append_nil]
      exact unmet

theorem carries_run (command : Command) : (run command).Carries free m w [.required command] := by
  refine carries_of_answer (.required command) rfl ?_
  cases answer : m.run w.events command with
  | ok output => exact .inl ⟨output, answer, by simp [Demand.fault?, Demand.command, answer]⟩
  | error failure =>
    exact .inr ⟨failure, answer, by simp [Demand.fault?, Demand.command, answer]⟩

theorem carries_naming_run (name : String) (command : Command) :
    (naming name (run command)).Carries free m w [.required command] :=
  carries_naming (carries_run command) name

theorem carries_bestEffort (what : String) (command : Command) :
    (bestEffort what (run command)).Carries free m w [.advisory command] := by
  cases answer : m.run w.events command with
  | ok output =>
    refine carries_of_answer (.advisory command) ?_ (.inl ⟨true, ?_, rfl⟩) <;>
      simp [bestEffort, bind_apply, attempt, run, answer, pure_apply, Demand.command]
  | error failure =>
    refine carries_of_answer (.advisory command) ?_ (.inl ⟨false, ?_, rfl⟩) <;>
      simp [bestEffort, bind_apply, attempt, run, answer, map_apply, note, Except.map,
        Demand.command]

end Step

namespace Session

variable {σ : Type} {s s' s'' : σ}

def Carries (x : Session σ α) (free : Prop) (m : Machine) (s : σ) (w : World) (demands : List Demand)
    (s' : σ) : Prop :=
  x.Ensures m s w fun added r last _ => (∀ event ∈ added, event.IsCommand) ∧
    Carried free m w.events demands added r ∧ ∀ a, r = .ok a → last = s'

theorem carries_lift {x : Step α} (h : x.Carries free m w demands) :
    (liftM x : Session σ α).Carries free m s w demands s := by
  refine ensures_lift (Step.Ensures.mono h ?_)
  intro added r w' _ h
  exact ⟨h.1, h.2, fun _ _ => rfl⟩

theorem carries_pure (a : α) : (Pure.pure a : Session σ α).Carries free m s w [] s :=
  ensures_pure ⟨by simp, .nil, fun _ _ => rfl⟩

theorem carries_update (f : σ → σ) : (update f).Carries free m s w [] (f s) :=
  ensures_update ⟨by simp, .nil, fun _ _ => rfl⟩

theorem carries_bind {x : Session σ α} {f : α → Session σ β} (hx : x.Carries free m s w demands s')
    (hf : ∀ a w', w'.events = w.events ++ demands.map Demand.event →
      (f a).Carries free m s' w' more s'') : (x >>= f).Carries free m s w (demands ++ more) s'' := by
  refine ensures_bind hx ?_ ?_
  · intro added failure last w' _ h
    have stopped : Stopped free m w.events demands added failure := h.2.1
    exact ⟨h.1, stopped.early more, fun _ => nofun⟩
  · intro added a last w' events h
    have passed : Passed m w.events demands added := h.2.1
    have same : last = s' := h.2.2 a rfl
    rw [same]
    refine (hf a w' (by rw [events, passed.events_eq h.1])).mono ?_
    intro added' r last' w'' _ h'
    have carried := h'.2.1
    rw [events] at carried
    exact ⟨List.forall_mem_append.2 ⟨h.1, h'.1⟩, passed.carried carried, h'.2.2⟩

theorem carries_bind_silent {x : Session σ α} {f : α → Session σ β} (hx : x.Carries free m s w [] s')
    (hf : ∀ a w', (f a).Carries free m s' w' demands s'') : (x >>= f).Carries free m s w demands s'' :=
  carries_bind hx fun a w' _ => hf a w'

theorem carries_whole {x : Session σ α} (h : x.Carries free m s w demands s') :
    (whole s x).Carries free m w demands :=
  ensures_whole (h.mono fun _ _ _ _ _ carried => ⟨carried.1, carried.2.1⟩)

theorem carries_bind_value {x : Step α} {a : α} {f : α → Session σ β}
    (hx : x.Ensures m w fun added r _ => added = [] ∧ r = .ok a)
    (hf : ∀ w', (f a).Carries free m s w' demands s') : ((liftM x : Session σ α) >>= f).Carries free m s w
      demands s' := by
  have lifted : (liftM x : Session σ α).Ensures m s w fun added r last _ =>
      added = [] ∧ r = .ok a ∧ last = s := by
    refine ensures_lift (Step.Ensures.mono hx ?_)
    intro added r w' _ h
    exact ⟨h.1, h.2, rfl⟩
  refine ensures_bind lifted ?_ ?_
  · intro added failure last w' _ h
    cases h.2.1
  · rintro added b last w' events ⟨rfl, value, rfl⟩
    obtain rfl := Except.ok.inj value
    have carried := hf w'
    rw [Carries, events, List.append_nil] at carried
    exact carried

/-- What items demand one after the other, when each may change what the state demands for the next
one. -/
def along {state : Type} (demandsOf : state → α → List Demand) (next : state → α → state) :
    state → List α → List Demand
  | _, [] => []
  | k, a :: rest => demandsOf k a ++ along demandsOf next (next k a) rest

theorem carries_forEach {state : Type} {f : α → Session σ Unit} {place : state → σ}
    {demandsOf : state → α → List Demand} {next : state → α → state}
    (hf : ∀ a k w', (f a).Carries free m (place k) w' (demandsOf k a) (place (next k a)))
    (items : List α) (k : state) :
    (forEach f items).Carries free m (place k) w (along demandsOf next k items)
      (place (items.foldl next k)) := by
  induction items generalizing k w with
  | nil => exact carries_pure ()
  | cons a rest ih => exact carries_bind (hf a k w) fun _ w' _ => ih (next k a)

end Session

theorem lookUpUuid_apply (device : String) :
    lookUpUuid device m w = (foundUuid device (m.run w.events (Properties.command device)),
      { w with events := w.events ++ [.command (Properties.command device)] }) := by
  unfold lookUpUuid
  rw [Step.bind_apply, Step.attempt_read_apply]
  cases m.run w.events (Properties.command device) with
  | error failure => rfl
  | ok output =>
    have told : (Properties.ofText output.stdout).uuid? =
        (Properties.ofText output.stdout).get? "UUID" := rfl
    cases uuid : (Properties.ofText output.stdout).get? "UUID" with
    | none => simp [Except.map, foundUuid, told, uuid, Step.fail]
    | some id => simp [Except.map, foundUuid, told, uuid, Step.pure_apply]

theorem carries_lookUpUuid (device : String) :
    (lookUpUuid device).Carries free m w [.identifier device] := by
  refine Step.carries_of_answer (.identifier device) (by rw [lookUpUuid_apply]; rfl) ?_
  rw [lookUpUuid_apply]
  cases found : foundUuid device (m.run w.events (Properties.command device)) with
  | ok uuid => exact .inl ⟨uuid, rfl, by simp [Demand.fault?, Demand.command_identifier, found]⟩
  | error failure =>
    exact .inr ⟨failure, rfl, by simp [Demand.fault?, Demand.command_identifier, found]⟩

end NodeStorage
