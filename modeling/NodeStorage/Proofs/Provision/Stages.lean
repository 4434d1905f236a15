import NodeStorage.Proofs.Build.Demands
import NodeStorage.Proofs.Target.Entries
import NodeStorage.Proofs.Target.MountOrder
import NodeStorage.Proofs.Target.Mounting
import NodeStorage.Proofs.Wipe.Tools

/-! The stages of a run. After the wiping comes the building, then the mounting, then the lookups for
the files below the target root, and at the end of a failed run the unmounting. -/

namespace NodeStorage

variable {m : Machine} {w : World}

namespace Layout

/-- The plans with a mount path, shallow ones first. -/
def tableOrder (layout : Layout) : List FilesystemPlan :=
  (layout.filesystems.filter fun plan => plan.mountPath ≠ "").mergeSort
    fun a b => a.mountDepth ≤ b.mountDepth

def lookupDemands (layout : Layout) : List Demand :=
  layout.tableOrder.flatMap FilesystemPlan.tableDemands ++
    (layout.filesystems.filter fun plan => plan.label ∈ ["root", "efi", "varlib"] ∧
      plan.format ≠ .tmpfs ∧ plan.format ≠ .untouched).flatMap FilesystemPlan.descriptorDemands

theorem mountOrder_filesystems (layout : Layout) :
    mountOrder layout.filesystems = layout.tableOrder := by
  rw [mountOrder, tableOrder, filter_hasMountPath]

theorem lookupDemands_eq (layout : Layout) : layout.lookupDemands =
    (mountOrder layout.filesystems).flatMap FilesystemPlan.tableDemands ++
      (layout.filesystems.filter FilesystemPlan.isDescribed).flatMap
        FilesystemPlan.descriptorDemands := by
  have described : layout.filesystems.filter FilesystemPlan.isDescribed =
      layout.filesystems.filter fun plan => plan.label ∈ ["root", "efi", "varlib"] ∧
        plan.format ≠ .tmpfs ∧ plan.format ≠ .untouched :=
    List.filter_congr fun plan _ => plan.isDescribed_eq
  rw [lookupDemands, mountOrder_filesystems, described]

def describe (settings : Settings) (layout : Layout) (plans : List FilesystemPlan) :
    Step (List TableEntry × List DescriptorEntry) := do
  let table ← writeTable plans (settings.inTarget settings.tablePath)
  let descriptor ← writeDescriptor layout.filesystems (settings.inTarget settings.descriptorPath)
  return (table, descriptor)

theorem describe_carries (settings : Settings) (layout : Layout) :
    (layout.describe settings (mountOrder layout.filesystems)).Carries True m w
      layout.lookupDemands := by
  rw [lookupDemands_eq]
  exact Step.carries_bind (writeTable_carries _ _) fun _ _ _ =>
    Step.carries_bind_pure (writeDescriptor_carries _ _) _

/-- The mounts of a run, and what it asks once they are there. -/
def Populated {α : Type} (m : Machine) (before : List Event) (layout : Layout)
    (added : List Event) (r : Except Failure α) (mounts : Mounts) : Prop :=
  ∃ mounting looked planned special, added = mounting ++ looked ∧
    Mounted m before {} mounting planned special mounts ∧ (∀ event ∈ looked, event.IsCommand) ∧
    Carried True m (before ++ mounting) layout.lookupDemands looked r

theorem describe_after_mounts (settings : Settings) (layout : Layout) (s : Mounts) :
    (do
      let mounts ← Session.state
      let table ← writeTable mounts.tablePlans (settings.inTarget settings.tablePath)
      let descriptor ← writeDescriptor layout.filesystems
        (settings.inTarget settings.descriptorPath)
      return (table, descriptor) : MountSession (List TableEntry × List DescriptorEntry)) m s w =
    ((layout.describe settings s.tablePlans m w).1, s,
      (layout.describe settings s.tablePlans m w).2) := by
  have stated : (Session.state : MountSession Mounts) m s w = (.ok s, s, w) := rfl
  rw [Session.bind_apply, stated]
  simp only [describe, Session.bind_apply, Session.lift_apply, Step.bind_apply]
  cases writeTable s.tablePlans (settings.inTarget settings.tablePath) m w with
  | mk r w' =>
    cases r with
    | error failure => rfl
    | ok table =>
      simp only
      cases writeDescriptor layout.filesystems (settings.inTarget settings.descriptorPath) m w' with
      | mk r w'' => cases r <;> rfl

theorem populate_ensures (settings : Settings) (layout : Layout) :
    (layout.populate settings).Ensures m {} w fun added r mounts _ =>
      layout.Populated m w.events added r mounts := by
  unfold populate
  refine Session.ensures_bind (mountFilesystems_ensures _ _) ?_ ?_
  · intro added failure mounts w' _ h
    obtain ⟨planned, mounted⟩ := h.1
    refine ⟨added, [], planned, [], (List.append_nil _).symm, mounted, by simp, ?_⟩
    exact .cut trivial [] _ rfl .nil
  · intro first _ mounts w₁ events₁ h
    obtain ⟨planned, mounted⟩ := h.1
    have looks : (liftM (Step.look (·.isDirectory settings.firmwareVariablesPath)) :
        MountSession Bool).Ensures m mounts w₁ fun added r last _ =>
          added = [] ∧ last = mounts ∧ ∃ there, r = .ok there :=
      Session.ensures_lift (Step.ensures_look ⟨rfl, rfl, _, rfl⟩)
    refine Session.ensures_bind looks ?_ ?_
    · intro added failure last w₂ _ h'
      obtain ⟨there, failed⟩ := h'.2.2
      cases failed
    intro added there last w₂ events₂ h'
    rw [h'.1, List.append_nil] at events₂
    rw [h'.1, h'.2.1]
    refine Session.ensures_bind (mountSpecial_ensures _ _) ?_ ?_
    · intro second failure mounts' w₃ _ h''
      obtain ⟨special, mounted'⟩ := h''.1
      rw [events₂, events₁] at mounted'
      refine ⟨first ++ second, [], _, _, by simp, mounted.trans mounted' (.inl rfl), by simp, ?_⟩
      exact .cut trivial [] _ rfl .nil
    · intro second _ mounts' w₃ events₃ h''
      obtain ⟨special, mounted'⟩ := h''.1
      rw [events₂, events₁] at mounted' events₃
      have plans : mounts'.tablePlans = mountOrder layout.filesystems := by
        rw [h''.2 rfl, h.2 rfl]
        rfl
      obtain ⟨looked, events, commands, carried⟩ :=
        layout.describe_carries settings (m := m) (w := w₃)
      rw [← plans] at events carried
      have all := mounted.trans mounted' (.inl rfl)
      unfold Session.Ensures
      -- The mounts stay as they are while the files are described.
      rw [describe_after_mounts]
      refine ⟨looked, events, first ++ second, looked, _, _, by simp, all, commands, ?_⟩
      rw [← List.append_assoc, ← events₃]
      exact carried

def wipeFor (settings : Settings) (reinstall : Bool) : Step (Option WipeSummary) :=
  if reinstall then some <$> wipeDisks settings.wipe else pure none

def prepare (settings : Settings) (reinstall : Bool) (layout : Layout) :
    Step (Option WipeSummary) := do
  let wipe ← wipeFor settings reinstall
  layout.build settings
  return wipe

def finish (settings : Settings) (layout : Layout) (wipe : Option WipeSummary) :
    Step Provisioned := do
  let (result, mounts) ← Session.outcome {} (layout.populate settings)
  match result with
  | .ok (table, descriptor) => do
    Step.note (layout.provisioned settings)
    return ⟨mounts, wipe, table, descriptor⟩
  | .error failure => do
    Step.note (populateFailed failure)
    Session.whole mounts teardown
    Step.fail failure

theorem provision_of_fault {settings : Settings} {reinstall : Bool} {layout : Layout}
    {fault : LayoutFault} (h : layout.validate = .error fault) :
    layout.provision settings reinstall m w = (.error (.ofLayoutFault fault), w) := by
  have bad : layout.fault? = some fault := by
    unfold validate at h
    split at h
    · cases h
      assumption
    · cases h
  simp [provision, check, bad, Step.bind_apply, Step.fail]

theorem provision_of_valid {settings : Settings} {reinstall : Bool} {layout : Layout}
    (h : layout.validate = .ok ()) :
    layout.provision settings reinstall m w =
      (layout.prepare settings reinstall >>= layout.finish settings) m w := by
  have fine := layout.validate_eq_ok_iff.1 h
  cases reinstall with
  | false =>
    simp only [provision, check, fine, prepare, wipeFor, bind_assoc, pure_bind, Bool.false_eq_true,
      if_false]
    rfl
  | true =>
    simp only [provision, check, fine, prepare, wipeFor, bind_assoc, pure_bind, if_true]
    rfl

theorem wipeFor_ensures (settings : Settings) (reinstall : Bool) :
    (wipeFor settings reinstall).Ensures m w fun added _ _ =>
      (reinstall = false → added = []) ∧ ∀ event ∈ added, event.IsWiping := by
  unfold wipeFor
  cases reinstall with
  | false => exact Step.ensures_pure ⟨fun _ => rfl, by simp⟩
  | true =>
    have all : (some <$> wipeDisks settings.wipe).Wipes m w :=
      Step.wipes_bind (wipeDisks_wipes settings.wipe) fun _ _ =>
        Step.wipes_of_silent (Step.ensures_pure rfl)
    exact Step.Ensures.mono all fun _ _ _ _ own => ⟨nofun, own⟩

/-- The wiping is what a run does first; nothing comes after a wiping that fails. -/
structure Wiped {α : Type} (settings : Settings) (reinstall : Bool) (m : Machine) (w : World)
    (wiping work : List Event) (r : Except Failure α) : Prop where
  events : (wipeFor settings reinstall m w).2.events = w.events ++ wiping
  absent : reinstall = false → wiping = []
  own : ∀ event ∈ wiping, event.IsWiping
  failed : ∀ failure, (wipeFor settings reinstall m w).1 = .error failure →
    work = [] ∧ r = .error failure

theorem Wiped.stopped {α β : Type} {settings : Settings} {reinstall : Bool} {wiping work : List Event}
    {failure : Failure}
    (h : Wiped settings reinstall m w wiping work (.error failure : Except Failure α)) :
    Wiped settings reinstall m w wiping work (.error failure : Except Failure β) := by
  refine ⟨h.events, h.absent, h.own, fun cause failed => ?_⟩
  obtain ⟨nothing, same⟩ := h.failed cause failed
  cases same
  exact ⟨nothing, rfl⟩

/-- The building fails for a demand that is not met and for nothing else. -/
def Prepared {α : Type} (settings : Settings) (reinstall : Bool) (layout : Layout) (m : Machine)
    (w : World) (wiping built : List Event) (r : Except Failure α) : Prop :=
  (∃ failure, (wipeFor settings reinstall m w).1 = .error failure) ∨
    Carried False m (w.events ++ wiping) (layout.buildDemands m (w.events ++ wiping)) built r

theorem prepare_ensures (settings : Settings) (reinstall : Bool) (layout : Layout) :
    (layout.prepare settings reinstall).Ensures m w fun added r _ =>
      ∃ wiping built, added = wiping ++ built ∧ Wiped settings reinstall m w wiping built r ∧
        (∀ event ∈ built, event.IsCommand) ∧ layout.Prepared settings reinstall m w wiping built r := by
  unfold prepare
  refine Step.ensures_bind (wipeFor_ensures settings reinstall).known ?_ ?_
  · intro wiping failure w' events h
    obtain ⟨ran, absent, own⟩ := h
    refine ⟨wiping, [], (List.append_nil _).symm, ⟨?_, absent, own, ?_⟩, by simp,
      .inl ⟨failure, by rw [ran]⟩⟩
    · rw [ran]
      exact events
    · intro cause failed
      rw [ran] at failed
      exact ⟨rfl, failed⟩
  · intro wiping summary w' events h
    obtain ⟨ran, absent, own⟩ := h
    have builds : (do layout.build settings; return summary).Carries False m w' _ :=
      Step.carries_bind_pure (layout.build_carries settings) _
    refine Step.Ensures.mono builds ?_
    intro built r w'' _ h
    have carried := h.2
    rw [events] at carried
    refine ⟨wiping, built, rfl, ⟨?_, absent, own, ?_⟩, h.1, .inr carried⟩
    · rw [ran]
      exact events
    · intro cause failed
      rw [ran] at failed
      cases failed

def Finished (m : Machine) (settings : Settings) (layout : Layout) (w : World)
    (added : List Event) (r : Except Failure Provisioned) : Prop :=
  ∃ mounts populated unmounting, layout.Populated m w.events populated r mounts ∧
    added = populated ++ unmounting ∧
    match r with
    | .ok done => done.mounts = mounts ∧ unmounting = []
    | .error failure =>
      unmounting = mounts.newestFirst.map (fun record => .unmount record.target) ∧
        (layout.populate settings m {} w).1 = .error failure

theorem abandon_ensures (mounts : Mounts) (failure : Failure) :
    (do
      Step.note (populateFailed failure)
      Session.whole mounts teardown
      Step.fail failure : Step Provisioned).Ensures m w fun added r _ =>
        added = mounts.newestFirst.map (fun record => .unmount record.target) ∧
          r = .error failure := by
  have notes : (Step.note (populateFailed failure)).Ensures m w fun added r _ =>
      added = [] ∧ r = .ok () := Step.ensures_note ⟨rfl, rfl⟩
  refine Step.ensures_bind notes ?_ ?_
  · intro added other w' _ h
    cases h.2
  · intro added _ w' _ h
    rw [h.1]
    refine Step.ensures_bind teardown_ensures ?_ ?_
    · intro more other w'' _ h'
      cases h'.2
    · intro more _ w'' _ h'
      rw [h'.1]
      exact Step.ensures_fail ⟨by simp, rfl⟩

theorem finish_ensures (settings : Settings) (layout : Layout) (wipe : Option WipeSummary) :
    (layout.finish settings wipe).Ensures m w fun added r _ =>
      layout.Finished m settings w added r := by
  have populates : (Session.outcome {} (layout.populate settings)).Ensures m w fun added r _ =>
      r = .ok ((layout.populate settings m {} w).1, (layout.populate settings m {} w).2.1) ∧
        layout.Populated m w.events added (layout.populate settings m {} w).1
          (layout.populate settings m {} w).2.1 := by
    obtain ⟨added, events, populated⟩ := layout.populate_ensures settings (m := m) (w := w)
    exact ⟨added, events, rfl, populated⟩
  unfold finish
  refine Step.ensures_bind populates ?_ ?_
  · intro added failure w' _ h
    cases h.1
  · intro added ended w' _ h
    obtain ⟨r, mounts⟩ := ended
    have same := Prod.mk.inj (Except.ok.inj h.1)
    have populated := h.2
    rw [← same.1, ← same.2] at populated
    cases r with
    | ok written =>
      have notes : (Step.note (layout.provisioned settings)).Ensures m w' fun more r _ =>
          more = [] ∧ r = .ok () := Step.ensures_note ⟨rfl, rfl⟩
      refine Step.ensures_bind notes ?_ ?_
      · intro more failure w'' _ h'
        cases h'.2
      · intro more _ w'' _ h'
        rw [h'.1]
        exact Step.ensures_pure ⟨mounts, added, [], populated, rfl, rfl, rfl⟩
    | error failure =>
      refine (abandon_ensures mounts failure).mono ?_
      intro more r w'' _ h'
      rw [h'.1, h'.2]
      exact ⟨mounts, added, _, populated, rfl, rfl, same.1.symm⟩

theorem Populated.carried {layout : Layout} {before added : List Event} {α : Type}
    {r : Except Failure α} {mounts : Mounts} (h : layout.Populated m before added r mounts) :
    Carried True m before layout.lookupDemands added r := by
  obtain ⟨mounting, looked, planned, special, rfl, mounted, commands, carried⟩ := h
  have quiet : ∀ event ∈ mounting, ¬ event.IsCommand := fun event mem command =>
    command.not_isMount (mounted.only event mem)
  exact Passed.carried (.of_quiet quiet) carried

theorem Finished.carried {settings : Settings} {layout : Layout} {added : List Event}
    {r : Except Failure Provisioned} (h : layout.Finished m settings w added r) :
    Carried True m w.events layout.lookupDemands added r := by
  obtain ⟨mounts, populated, unmounting, ran, rfl, rest⟩ := h
  have carried := ran.carried
  cases r with
  | ok provisioned =>
    rw [rest.2, List.append_nil]
    exact carried
  | error failure =>
    refine Stopped.quiet carried fun event mem command => ?_
    rw [rest.1] at mem
    exact command.not_isUnmount (isUnmount_of_mem_unmounts mem)

def demands (m : Machine) (before : List Event) (layout : Layout) : List Demand :=
  layout.buildDemands m before ++ layout.lookupDemands

/-- A run in stages: the wiping, and then the demands in order. Unless the wiping fails or a demand of
the building is not met, all is built, and nothing is mounted before. -/
structure Staged (settings : Settings) (reinstall : Bool) (layout : Layout) (m : Machine) (w : World)
    (wiping work : List Event) (r : Except Failure Provisioned) : Prop where
  wiped : Wiped settings reinstall m w wiping work r
  carried : Carried True m (w.events ++ wiping) (layout.demands m (w.events ++ wiping)) work r
  reached : (∃ failure, (wipeFor settings reinstall m w).1 = .error failure) ∨
    (∃ failure, r = .error failure ∧ Stopped False m (w.events ++ wiping)
      (layout.buildDemands m (w.events ++ wiping)) work failure) ∨
    ∃ built later, work = built ++ later ∧
      Passed m (w.events ++ wiping) (layout.buildDemands m (w.events ++ wiping)) built
  built : (∃ event ∈ work, event.IsMount) → ∃ built later, work = built ++ later ∧
    (∀ event ∈ built, event.IsCommand) ∧
    Passed m (w.events ++ wiping) (layout.buildDemands m (w.events ++ wiping)) built

theorem Staged.of_unprepared {settings : Settings} {reinstall : Bool} {layout : Layout}
    {wiping work : List Event} {failure : Failure}
    (wiped : Wiped settings reinstall m w wiping work (.error failure : Except Failure Provisioned))
    (commands : ∀ event ∈ work, event.IsCommand)
    (prepared : layout.Prepared settings reinstall m w wiping work
      (.error failure : Except Failure Provisioned)) :
    layout.Staged settings reinstall m w wiping work (.error failure) := by
  have unmounted (h : ∃ event ∈ work, event.IsMount) : False := by
    obtain ⟨event, mem, mount⟩ := h
    exact (commands event mem).not_isMount mount
  rcases prepared with ⟨cause, failed⟩ | stopped
  · obtain ⟨rfl, -⟩ := wiped.failed cause failed
    exact ⟨wiped, .cut trivial [] _ rfl .nil, .inl ⟨cause, failed⟩, fun mounts =>
      (unmounted mounts).elim⟩
  · have stopped : Stopped False m _ _ work failure := stopped
    exact ⟨wiped, stopped.freed.early _, .inr (.inl ⟨failure, rfl, stopped⟩), fun mounts =>
      (unmounted mounts).elim⟩

/-- A layout that is not valid leaves all as it was. The run of a valid one wipes if it is asked to,
and then carries its demands stage by stage; nothing is mounted until all is built. -/
theorem provision_carries_stages (settings : Settings) (reinstall : Bool) (layout : Layout)
    (m : Machine) (w : World) :
    (∀ fault, layout.validate = .error fault →
      layout.provision settings reinstall m w = (.error (.ofLayoutFault fault), w)) ∧
    (layout.validate = .ok () → ∃ wiping work,
      (layout.provision settings reinstall m w).2.events = w.events ++ wiping ++ work ∧
      layout.Staged settings reinstall m w wiping work
        (layout.provision settings reinstall m w).1) := by
  refine ⟨fun fault bad => provision_of_fault bad, fun fine => ?_⟩
  rw [provision_of_valid fine]
  obtain ⟨added, events, wiping, built, rfl, wiped, commands, ready⟩ :=
    layout.prepare_ensures settings reinstall (m := m) (w := w)
  rw [Step.bind_apply]
  rcases prepared : layout.prepare settings reinstall m w with ⟨r, w'⟩
  rw [prepared] at events wiped ready
  have before : w'.events = w.events ++ wiping ++ built := by
    rw [List.append_assoc]
    exact events
  cases r with
  | error failure =>
    exact ⟨wiping, built, before, .of_unprepared wiped.stopped commands ready⟩
  | ok wipe =>
    -- The preparation succeeded, so neither the wiping nor a demand has stopped it.
    have carried : Passed m (w.events ++ wiping) (layout.buildDemands m (w.events ++ wiping)) built := by
      refine ready.resolve_left fun ⟨cause, failed⟩ => ?_
      cases (wiped.failed cause failed).2
    obtain ⟨later, events', finished⟩ := layout.finish_ensures settings wipe (m := m) (w := w')
    have looked := finished.carried
    rw [before] at events' looked
    refine ⟨wiping, built ++ later, ?_, ?_, Passed.carried carried looked,
      .inr (.inr ⟨built, later, rfl, carried⟩), fun _ => ⟨built, later, rfl, commands, carried⟩⟩
    · rw [events', List.append_assoc (w.events ++ wiping)]
    · refine ⟨wiped.events, wiped.absent, wiped.own, fun failure failed => ?_⟩
      cases (wiped.failed failure failed).2

end Layout

end NodeStorage
