import NodeStorage.Proofs.Files.Touching
import NodeStorage.Proofs.Provision.Outputs

/-! Where a run mounts, and where it changes files from the mounting on. Each target is a path below the
target root, and each change is on the way to one; they lie inside the root as far as the paths
themselves do not climb above it. -/

namespace NodeStorage

open FileTree

variable {m : Machine} {w w' : World} {root : Path}

def MountItem.path : MountItem → Path
  | planned plan => ⟨plan.mountPath⟩
  | special other => other.target

theorem MountItem.target_request (root : Path) (item : MountItem) :
    (item.request root).target = root.within item.path := by
  cases item <;> rfl

theorem MountAct.item?_of_mount {act : MountAct} {request : MountRequest}
    (h : .mount request ∈ act.events root) :
    ∃ item, act.item? = some item ∧ request = item.request root := by
  cases act with
  | noted | blocked => cases h
  | unmounted => cases List.mem_singleton.1 h
  | refused item | mounted item =>
    cases List.mem_singleton.1 h
    exact ⟨item, rfl, rfl⟩

theorem MountAct.Happens.isMounted {before : List Event} {files after : FileTree} {act : MountAct}
    (h : act.Happens root m before files after) {item : MountItem} (own : act.item? = some item) :
    item.isMounted = true := by
  cases h with
  | noted | unmounted => cases own
  | blocked wanted | refused wanted | mounted wanted =>
    cases own
    exact wanted

theorem MountAct.Happens.onlyAt {before : List Event} {files after : FileTree} {act : MountAct}
    (h : act.Happens root m before files after) {changed : Place → Prop}
    (all : ∀ item, act.item? = some item → ∀ place,
      OnWay (root.within item.path) files.working place → changed place) :
    OnlyAt changed files after := by
  have directory (item : MountItem) (own : act.item? = some item) :
      OnlyAt changed files (m.makeDirectories before files (item.request root).target).2 := by
    rw [item.target_request]
    refine (m.onlyAt_makeDirectories before ?_).mono (all item own)
    exact allOnWay_ancestors _
  cases h with
  | noted | unmounted => exact .refl
  | blocked _ made | refused _ made | mounted _ made =>
    have own := directory _ rfl
    rw [made] at own
    exact own

theorem MountCourse.onlyAt {before : List Event} {files after : FileTree} {acts : List MountAct}
    (h : MountCourse root m before files acts after) {changed : Place → Prop}
    (all : ∀ act ∈ acts, ∀ item, act.item? = some item → ∀ place,
      OnWay (root.within item.path) files.working place → changed place) :
    OnlyAt changed files after := by
  induction h with
  | done => exact .refl
  | next happens rest ih =>
    obtain ⟨own, others⟩ := List.forall_mem_cons.1 all
    have first := happens.onlyAt own
    exact first.trans (ih (first.working_eq ▸ others))

theorem MountCourse.isMounted {before : List Event} {files after : FileTree} {acts : List MountAct}
    (h : MountCourse root m before files acts after) :
    ∀ act ∈ acts, ∀ item, act.item? = some item → item.isMounted = true := by
  induction h with
  | done => exact nofun
  | next happens rest ih =>
    exact List.forall_mem_cons.2 ⟨fun _ own => happens.isMounted own, ih⟩

theorem MountPass.item_mem {items : List MountItem} {acts : List MountAct} {r : Except Failure Unit}
    (h : MountPass items acts r) : ∀ act ∈ acts, ∀ item, act.item? = some item → item ∈ items := by
  intro act mem item own
  obtain ⟨other, there, is⟩ := h.exists_item mem
  rw [MountItem.eq_of_item? is own]
  exact there

namespace Layout

def mountPaths (layout : Layout) : List Path :=
  (layout.filesystems.filter fun plan =>
      plan.hasMountPath && plan.format.isMountedDuringInstall).map (fun plan => ⟨plan.mountPath⟩) ++
    (SpecialMount.all true).map SpecialMount.target

def targetPaths (settings : Settings) (layout : Layout) : List Path :=
  layout.mountPaths ++ [settings.tablePath, settings.descriptorPath]

def OnWays (settings : Settings) (layout : Layout) (working place : Place) : Prop :=
  ∃ p ∈ layout.targetPaths settings, OnWay (settings.inTarget p) working place

/-- The mounts and the changes of files are where the paths of the layout and the settings lead. -/
structure Confined (settings : Settings) (layout : Layout) (added : List Event)
    (files after : FileTree) : Prop where
  targets (request : MountRequest) (mem : .mount request ∈ added) :
    ∃ p ∈ layout.mountPaths, request.target = settings.inTarget p
  only_at : OnlyAt (layout.OnWays settings files.working) files after

variable {settings : Settings} {layout : Layout} {files between after : FileTree}
  {added more : List Event}

theorem Confined.trans (h : layout.Confined settings added files between)
    (h' : layout.Confined settings more between after) :
    layout.Confined settings (added ++ more) files after where
  targets request mem := (List.mem_append.1 mem).elim (h.targets request) (h'.targets request)
  only_at := h.only_at.trans (h.only_at.working_eq ▸ h'.only_at)

theorem confined_of_quiet (quiet : ∀ event ∈ added, ¬ event.IsMount)
    (changes : OnlyAt (layout.OnWays settings files.working) files after) :
    layout.Confined settings added files after where
  targets request mem := absurd ⟨request, rfl⟩ (quiet _ mem)
  only_at := changes

theorem confined_of_pass {items : List MountItem} {acts : List MountAct} {r : Except Failure Unit}
    {before : List Event} (course : MountCourse settings.targetRoot m before files acts after)
    (pass : MountPass items acts r)
    (known : ∀ item ∈ items, item.isMounted = true → item.path ∈ layout.mountPaths) :
    layout.Confined settings (mountEvents settings.targetRoot acts) files after where
  targets request mem := by
    obtain ⟨act, there, own⟩ := List.mem_flatMap.1 mem
    obtain ⟨item, about, rfl⟩ := MountAct.item?_of_mount own
    refine ⟨item.path, known item (pass.item_mem act there item about) ?_, item.target_request _⟩
    exact course.isMounted act there item about
  only_at := by
    refine course.onlyAt fun act there item about place way => ?_
    have path := known item (pass.item_mem act there item about)
      (course.isMounted act there item about)
    exact ⟨item.path, List.mem_append_left _ path, way⟩

theorem planned_mem_mountPaths (layout : Layout) :
    ∀ item ∈ (mountOrder layout.filesystems).map MountItem.planned, item.isMounted = true →
      item.path ∈ layout.mountPaths := by
  intro item mem wanted
  obtain ⟨plan, there, rfl⟩ := List.mem_map.1 mem
  obtain ⟨planned, has⟩ := List.mem_filter.1 ((List.mergeSort_perm _ _).mem_iff.1 there)
  refine List.mem_append_left _ (List.mem_map.2 ⟨plan, List.mem_filter.2 ⟨planned, ?_⟩, rfl⟩)
  exact Bool.and_eq_true_iff.2 ⟨has, wanted⟩

theorem special_mem_mountPaths (layout : Layout) (firmwareVariables : Bool) :
    ∀ item ∈ (SpecialMount.all firmwareVariables).map MountItem.special, item.isMounted = true →
      item.path ∈ layout.mountPaths := by
  intro item mem _
  obtain ⟨other, there, rfl⟩ := List.mem_map.1 mem
  have fewer : ∀ other ∈ SpecialMount.all false, other ∈ SpecialMount.all true := by decide
  have known : other ∈ SpecialMount.all true := by
    cases firmwareVariables with
    | true => exact there
    | false => exact fewer other there
  exact List.mem_append_right _ (List.mem_map.2 ⟨other, known, rfl⟩)

theorem describe_touches (settings : Settings) (layout : Layout) (plans : List FilesystemPlan) :
    (layout.describe settings plans).Touches m (layout.OnWays settings) := by
  have table : settings.tablePath ∈ layout.targetPaths settings :=
    List.mem_append_right _ List.mem_cons_self
  have descriptor : settings.descriptorPath ∈ layout.targetPaths settings :=
    List.mem_append_right _ (List.mem_cons_of_mem _ List.mem_cons_self)
  refine Step.touches_bind ?_ fun _ => Step.touches_bind ?_ fun _ => Step.touches_pure _
  · exact (writeTable_touches plans _).mono fun _ _ way => ⟨_, table, way⟩
  · exact (writeDescriptor_touches layout.filesystems _).mono fun _ _ way => ⟨_, descriptor, way⟩

theorem populate_confined (settings : Settings) (layout : Layout) (s : Mounts) (w : World) :
    (layout.populate settings).Ensures m s w fun added _ _ w' =>
      layout.Confined settings added w.files w'.files := by
  have filesystems : (mountFilesystems settings.targetRoot layout.filesystems).Ensures m s w
      fun added _ _ w' => layout.Confined settings added w.files w'.files := by
    refine (mountFilesystems_passes _ _).mono ?_
    rintro added r s' w' _ ⟨acts, rfl, course, -, pass⟩
    exact confined_of_pass course pass layout.planned_mem_mountPaths
  unfold populate
  refine Session.ensures_bind filesystems (fun _ _ _ _ _ confined => confined) ?_
  intro first _ s₁ w₁ _ confined₁
  have looks : (liftM (Step.look (·.isDirectory settings.firmwareVariablesPath)) :
      MountSession Bool).Ensures m s₁ w₁ fun added _ _ w' =>
        layout.Confined settings added w₁.files w'.files :=
    Session.ensures_lift (Step.ensures_look (confined_of_quiet nofun .refl))
  refine Session.ensures_bind looks (fun _ _ _ _ _ confined => confined₁.trans confined) ?_
  intro looked firmwareVariables s₂ w₂ _ confined₂
  have special : (mountSpecial settings.targetRoot firmwareVariables).Ensures m s₂ w₂
      fun added _ _ w' => layout.Confined settings added w₂.files w'.files := by
    refine (mountSpecial_passes _ _).mono ?_
    rintro added r s' w' _ ⟨acts, rfl, course, -, pass⟩
    exact confined_of_pass course pass (layout.special_mem_mountPaths firmwareVariables)
  refine Session.ensures_bind special
    (fun _ _ _ _ _ confined => confined₁.trans (confined₂.trans confined)) ?_
  intro second _ s₃ w₃ _ confined₃
  -- What is left asks for no mount, so of it only the files matter.
  have describes : (layout.describe settings s₃.tablePlans).Carries True m w₃ _ :=
    Step.carries_bind (writeTable_carries _ _) fun _ _ _ =>
      Step.carries_bind_pure (writeDescriptor_carries _ _) _
  obtain ⟨looked, events, ⟨commands, -⟩, changes⟩ :=
    Step.Ensures.touching describes (layout.describe_touches settings s₃.tablePlans)
  have confined₄ : layout.Confined settings looked w₃.files _ :=
    confined_of_quiet (fun event mem => (commands event mem).not_isMount) changes
  unfold Session.Ensures
  rw [describe_after_mounts]
  exact ⟨looked, events, confined₁.trans (confined₂.trans (confined₃.trans confined₄))⟩

theorem finish_confined (settings : Settings) (layout : Layout) (wipe : Option WipeSummary) :
    (layout.finish settings wipe).Ensures m w fun added _ w' =>
      layout.Confined settings added w.files w'.files := by
  have populates : (Session.outcome {} (layout.populate settings)).Ensures m w fun added _ w' =>
      layout.Confined settings added w.files w'.files := layout.populate_confined settings {} w
  unfold finish
  refine Step.ensures_bind populates (fun _ _ _ _ confined => confined) ?_
  rintro added ⟨r, mounts⟩ w₁ _ confined
  cases r with
  | ok written =>
    have notes : (Step.note (layout.provisioned settings)).Ensures m w₁ fun more _ w' =>
        layout.Confined settings (added ++ more) w.files w'.files := by
      refine Step.ensures_note ?_
      rw [List.append_nil]
      exact confined
    refine Step.ensures_bind notes (fun _ _ _ _ confined => confined) fun more _ w₂ _ confined => ?_
    refine Step.ensures_pure ?_
    rw [List.append_nil]
    exact confined
  | error failure =>
    have quiet : (do
        Step.note (populateFailed failure)
        Session.whole mounts teardown
        Step.fail failure : Step Provisioned).Touches m (layout.OnWays settings) :=
      Step.touches_bind (Step.touches_note _) fun _ =>
        Step.touches_bind (teardown_touches mounts) fun _ => Step.touches_of_quiet fun _ => rfl
    refine ((abandon_ensures mounts failure).touching quiet).mono ?_
    rintro more r w' _ ⟨⟨rfl, -⟩, changes⟩
    refine confined.trans (confined_of_quiet (fun event mem mount => ?_) changes)
    exact mount.not_isUnmount (isUnmount_of_mem_unmounts mem)

/-- From the mounting on, a run mounts at paths of the layout below the target root, and changes files
only on the way to those and to the paths of the settings. A target lies inside the root if and only
if its path does not climb above it; if none does, all changes are inside, or make the root. -/
theorem provision_confined {settings : Settings} {reinstall : Bool} {layout : Layout}
    (mounts : layout.MountsFrom settings reinstall m w w') :
    ∃ added, (layout.provision settings reinstall m w).2.events = w'.events ++ added ∧
      (∀ request, .mount request ∈ added → ∃ p ∈ layout.mountPaths,
        request.target = settings.inTarget p ∧
          (request.target.LiesIn settings.targetRoot ↔ p.StaysBelow)) ∧
      (∀ place, (layout.provision settings reinstall m w).2.files.lookup? place ≠
          w'.files.lookup? place → layout.OnWays settings w'.files.working place) ∧
      ((∀ p ∈ layout.targetPaths settings, p.StaysBelow) →
        ∀ place, (layout.provision settings reinstall m w).2.files.lookup? place ≠
            w'.files.lookup? place →
          placeOf w'.files.working settings.targetRoot <+: place ∨
            OnWay settings.targetRoot w'.files.working place) := by
  obtain ⟨fine, wipe, prepared⟩ := mounts
  have ran : layout.provision settings reinstall m w = layout.finish settings wipe m w' := by
    rw [provision_of_valid fine, Step.bind_apply, prepared]
  obtain ⟨added, events, confined⟩ := layout.finish_confined settings wipe (m := m) (w := w')
  rw [ran]
  have changes (place : Place) (differs : (layout.finish settings wipe m w').2.files.lookup? place ≠
      w'.files.lookup? place) : layout.OnWays settings w'.files.working place :=
    Classical.byContradiction fun other => differs (confined.only_at.lookup?_eq place other)
  refine ⟨added, events, fun request mem => ?_, changes, fun stays place differs => ?_⟩
  · obtain ⟨p, known, target⟩ := confined.targets request mem
    refine ⟨p, known, target, ?_⟩
    rw [target]
    exact Path.liesIn_within_iff settings.targetRoot p
  · obtain ⟨p, known, way⟩ := changes place differs
    exact way.below_or_above (stays p known)

end Layout

theorem confined_smallLayout :
    ∃ w', smallLayout.MountsFrom {} false machineSameUuid emptyWorld w' ∧
      ∀ place, (smallLayout.provision {} false machineSameUuid emptyWorld).2.files.lookup? place ≠
          w'.files.lookup? place →
        placeOf w'.files.working ⟨"/target"⟩ <+: place ∨ OnWay ⟨"/target"⟩ w'.files.working place := by
  have mounts : smallLayout.MountsFrom {} false machineSameUuid emptyWorld _ :=
    ⟨by decide +kernel, none, Prod.ext (by decide +kernel) rfl⟩
  obtain ⟨added, events, targets, changes, inside⟩ := Layout.provision_confined mounts
  exact ⟨_, mounts, inside (by decide +kernel)⟩

def climbingLayout : Layout where
  filesystems := [⟨"/dev/sda2", .ext4, "/../outside", "", [], []⟩]

/-- A valid layout that is mounted outside the target root, in a directory that is made there. -/
theorem climbing_mounted_outside :
    climbingLayout.validate = .ok () ∧ ∃ request : MountRequest,
      .mount request ∈ (climbingLayout.provision {} false machineSameUuid emptyWorld).2.events ∧
      ¬ request.target.LiesIn ⟨"/target"⟩ ∧
      (climbingLayout.provision {} false machineSameUuid emptyWorld).2.files.lookup? ["outside"] =
        some .directory := by
  have order : mountOrder climbingLayout.filesystems = climbingLayout.filesystems :=
    Layout.mountOrder_eq (by decide +kernel) (by decide +kernel)
  have outside : ¬ ((⟨"/target"⟩ : Path).within ⟨"/../outside"⟩).LiesIn ⟨"/target"⟩ :=
    (Path.liesIn_within_iff _ _).not.2 (by decide +kernel)
  have ran : .mount ⟨"/dev/sda2", (⟨"/target"⟩ : Path).within ⟨"/../outside"⟩, some "ext4", 0, none⟩ ∈
        (climbingLayout.provision {} false machineSameUuid emptyWorld).2.events ∧
      (climbingLayout.provision {} false machineSameUuid emptyWorld).2.files.lookup? ["outside"] =
        some .directory := by
    simp only [Layout.provision, Layout.populate]
    rw [Layout.mountFilesystems_of_mountOrder order]
    decide +kernel
  exact ⟨by decide +kernel, _, ran.1, outside, ran.2⟩

end NodeStorage
