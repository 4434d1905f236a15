import NodeStorage.Proofs.Provision.Unmounting
import NodeStorage.Proofs.Target.Entries
import NodeStorage.Proofs.Target.MountOrder

/-! What a finished run leaves of the filesystems of a layout: the mounts, the mount table and the disk
descriptor. All three name the same devices, and the two files the same identifiers. -/

namespace NodeStorage

variable {m : Machine} {w w' : World} {answer : String → Except Failure Output}

namespace Layout

def describedPlans (layout : Layout) : List FilesystemPlan :=
  layout.filesystems.filter fun plan =>
    plan.label ∈ ["root", "efi", "varlib"] ∧ plan.format ≠ .tmpfs ∧ plan.format ≠ .untouched

/-- What a finished run has mounted and written, where the devices have these identifiers. -/
structure Outputs (root : Path) (layout : Layout) (answer : String → Except Failure Output)
    (uuid : String → String) (mounts : List MountRequest) (done : Provisioned) : Prop where
  ordered : (mountOrder layout.filesystems).Perm
    (layout.filesystems.filter fun plan => plan.mountPath ≠ "")
  table : done.table = (mountOrder layout.filesystems).map (FilesystemPlan.entry uuid)
  mounts_eq : ∃ firmwareVariables, mounts =
    ((mountOrder layout.filesystems).filter fun plan => plan.format ∈ [.ext3, .ext4, .vfat]).map
        (fun plan => plan.mountRequest root) ++
      (SpecialMount.all firmwareVariables).map (SpecialMount.request root)
  planned : done.mounts.planned =
    ((mountOrder layout.filesystems).filter fun plan => plan.format ∈ [.ext3, .ext4, .vfat]).map
      fun plan => ⟨plan.device, root.within ⟨plan.mountPath⟩, (plan.entry uuid).type⟩
  descriptor : done.descriptor = layout.describedPlans.map (FilesystemPlan.description uuid)
  table_reports : ∀ plan ∈ mountOrder layout.filesystems, plan.format ≠ .tmpfs →
    Reports answer uuid plan.device
  descriptor_reports : ∀ plan ∈ layout.describedPlans, Reports answer uuid plan.device
  same_uuid : ∀ plan ∈ layout.describedPlans,
    (plan.entry uuid).spec = "UUID=" ++ (plan.description uuid).uuid

theorem describedPlans_eq (layout : Layout) :
    layout.describedPlans = layout.filesystems.filter FilesystemPlan.isDescribed := by
  exact List.filter_congr fun plan _ => plan.isDescribed_eq.symm

theorem mountedPlans_eq (root : Path) (plans : List FilesystemPlan) :
    mountedPlans root plans = (plans.filter fun plan => plan.format ∈ [.ext3, .ext4, .vfat]).map
      fun plan => plan.mountRequest root := by
  have same : ∀ format : FilesystemFormat,
      format.isMountedDuringInstall = decide (format ∈ [.ext3, .ext4, .vfat]) := by
    intro format
    cases format <;> rfl
  simp [mountedPlans, same]

theorem mountOrder_eq {plans : List FilesystemPlan}
    (all : plans.filter FilesystemPlan.hasMountPath = plans)
    (shallow : plans.Pairwise fun a b => a.mountDepth ≤ b.mountDepth) : mountOrder plans = plans := by
  rw [mountOrder, all]
  exact List.mergeSort_of_pairwise (shallow.imp fun h => decide_eq_true h)

/-- Without the sorting, which does not evaluate. -/
theorem mountFilesystems_of_mountOrder {plans : List FilesystemPlan} (h : mountOrder plans = plans)
    (root : Path) :
    mountFilesystems root plans = Session.forEach (FilesystemPlan.mount root) plans := by
  rw [mountFilesystems, h]

theorem spec_of_describedPlans {layout : Layout} {plan : FilesystemPlan}
    (h : plan ∈ layout.describedPlans) (uuid : String → String) :
    (plan.entry uuid).spec = "UUID=" ++ (plan.description uuid).uuid := by
  have described := of_decide_eq_true (List.mem_filter.1 h).2
  exact if_neg described.2.1

theorem entries_of_describe (steady : m.SteadyLooks answer) {settings : Settings} {layout : Layout}
    {plans : List FilesystemPlan} {table : List TableEntry} {descriptor : List DescriptorEntry}
    (h : layout.describe settings plans m w = (.ok (table, descriptor), w')) :
    (table = plans.map (FilesystemPlan.entry (reportedUuid answer)) ∧
      ∀ plan ∈ plans, plan.format ≠ .tmpfs → Reports answer (reportedUuid answer) plan.device) ∧
    descriptor = (layout.filesystems.filter FilesystemPlan.isDescribed).map
        (FilesystemPlan.description (reportedUuid answer)) ∧
      ∀ plan ∈ layout.filesystems.filter FilesystemPlan.isDescribed,
        Reports answer (reportedUuid answer) plan.device := by
  obtain ⟨entries, between, written, h⟩ := Step.exists_of_bind_eq_ok h
  obtain ⟨descriptions, after, described, h⟩ := Step.exists_of_bind_eq_ok h
  cases h
  exact ⟨eq_entries_of_writeTable steady written, eq_descriptions_of_writeDescriptor steady described⟩

theorem populate_mounts_all (settings : Settings) (layout : Layout) :
    (layout.populate settings).Ensures m {} w fun added r s' w' => ∀ written, r = .ok written →
      ∃ firmwareVariables between,
        granted m w.events added =
          mountedPlans settings.targetRoot (mountOrder layout.filesystems) ++
            (SpecialMount.all firmwareVariables).map (SpecialMount.request settings.targetRoot) ∧
        s'.planned = (mountedPlans settings.targetRoot (mountOrder layout.filesystems)).map
          MountRequest.record ∧
        s'.special = ((SpecialMount.all firmwareVariables).map
          (SpecialMount.request settings.targetRoot)).map MountRequest.record ∧
        layout.describe settings (mountOrder layout.filesystems) m between = (.ok written, w') := by
  unfold populate
  refine Session.ensures_bind (mountFilesystems_mounts_all _ _) ?_ ?_
  · exact fun _ _ _ _ _ _ _ => nofun
  intro first _ s₁ w₁ events₁ filesystems
  obtain ⟨granted₁, planned₁, special₁, tablePlans₁⟩ := filesystems rfl
  have looks : (liftM (Step.look (·.isDirectory settings.firmwareVariablesPath)) :
      MountSession Bool).Ensures m s₁ w₁ fun added _ s' _ => added = [] ∧ s' = s₁ :=
    Session.ensures_lift (Step.ensures_look ⟨rfl, rfl⟩)
  refine Session.ensures_bind looks (fun _ _ _ _ _ _ _ => nofun) ?_
  rintro _ firmwareVariables _ w₂ events₂ ⟨rfl, rfl⟩
  refine Session.ensures_bind (mountSpecial_mounts_all _ _) (fun _ _ _ _ _ _ _ => nofun) ?_
  intro second _ s₂ w₃ events₃ special
  obtain ⟨granted₂, planned₂, special₂, tablePlans₂⟩ := special rfl
  obtain ⟨looked, events, commands, -⟩ := layout.describe_carries settings (m := m) (w := w₃)
  have plans : s₂.tablePlans = mountOrder layout.filesystems := by
    rw [tablePlans₂, tablePlans₁]
    rfl
  have all : granted m w.events (first ++ ([] ++ (second ++ looked))) =
      mountedPlans settings.targetRoot (mountOrder layout.filesystems) ++
        (SpecialMount.all firmwareVariables).map (SpecialMount.request settings.targetRoot) := by
    rw [events₂, List.append_nil, events₁] at granted₂
    rw [List.nil_append, granted_append, granted_append, granted₁, granted₂,
      granted_eq_nil_of_commands commands, List.append_nil]
  unfold Session.Ensures
  rw [describe_after_mounts, plans]
  refine ⟨looked, events, fun written ok => ⟨firmwareVariables, w₃, all, ?_, ?_, Prod.ext ok rfl⟩⟩
  · rw [planned₂, planned₁]
    rfl
  · rw [special₂, special₁]
    rfl

theorem populate_outputs (steady : m.SteadyLooks answer) (settings : Settings) (layout : Layout) :
    (layout.populate settings).Ensures m {} w fun added r s' _ => ∀ wipe table descriptor,
      r = .ok (table, descriptor) →
        Outputs settings.targetRoot layout answer (reportedUuid answer) (granted m w.events added)
          ⟨s', wipe, table, descriptor⟩ := by
  refine (layout.populate_mounts_all settings).mono ?_
  intro added r s' w' _ populated wipe table descriptor ok
  obtain ⟨firmwareVariables, between, all, planned, -, described⟩ := populated _ ok
  obtain ⟨tables, descriptors⟩ := entries_of_describe steady described
  rw [← describedPlans_eq] at descriptors
  rw [mountedPlans_eq] at all planned
  refine ⟨mountOrder_perm _, tables.1, ⟨firmwareVariables, all⟩, ?_, descriptors.1, tables.2,
    descriptors.2, fun plan mem => spec_of_describedPlans mem _⟩
  rw [planned, List.map_map]
  rfl

theorem populate_of_finish {settings : Settings} {layout : Layout} {wipe : Option WipeSummary}
    {done : Provisioned} (h : layout.finish settings wipe m w = (.ok done, w')) :
    ∃ after, layout.populate settings m {} w =
        (.ok (done.table, done.descriptor), done.mounts, after) ∧ w'.events = after.events := by
  obtain ⟨⟨r, mounts⟩, after, populated, h⟩ := Step.exists_of_bind_eq_ok h
  have same : layout.populate settings m {} w = (r, mounts, after) := by
    have parts := Prod.mk.inj populated
    have values := Prod.mk.inj (Except.ok.inj parts.1)
    exact Prod.ext values.1 (Prod.ext values.2 parts.2)
  cases r with
  | ok written =>
    obtain ⟨_, noted, note, h⟩ := Step.exists_of_bind_eq_ok h
    cases note
    cases h
    exact ⟨after, same, rfl⟩
  | error failure =>
    obtain ⟨_, _, -, h⟩ := Step.exists_of_bind_eq_ok h
    obtain ⟨_, _, -, h⟩ := Step.exists_of_bind_eq_ok h
    cases h

/-- After a run that succeeds, mounts, mount table and disk descriptor go together, plan by plan. -/
theorem provision_outputs (settings : Settings) (reinstall : Bool) (layout : Layout)
    (steady : m.SteadyLooks answer) {done : Provisioned}
    (h : layout.provision settings reinstall m w = (.ok done, w')) :
    ∃ added uuid, w'.events = w.events ++ added ∧
      Outputs settings.targetRoot layout answer uuid (granted m w.events added) done := by
  cases fine : layout.validate with
  | error fault =>
    rw [provision_of_fault fine] at h
    cases h
  | ok _ =>
    rw [provision_of_valid fine] at h
    obtain ⟨wipe, between, prepared, finished⟩ := Step.exists_of_bind_eq_ok h
    obtain ⟨first, events, commands⟩ := layout.prepare_commands settings reinstall (m := m) (w := w)
    rw [prepared] at events
    obtain ⟨after, populated, last⟩ := populate_of_finish finished
    obtain ⟨second, events', outputs⟩ := layout.populate_outputs steady settings (w := between)
    rw [populated] at events' outputs
    refine ⟨first ++ second, reportedUuid answer, ?_, ?_⟩
    · rw [last, events', events, List.append_assoc]
    · rw [granted_append, granted_eq_nil_of_commands commands, List.nil_append, ← events]
      exact outputs done.wipe done.table done.descriptor rfl

end Layout

def smallLayout : Layout where
  filesystems := [
    ⟨"/dev/sda2", .ext4, "/", "root", ["noatime"], []⟩,
    ⟨"tmpfs", .tmpfs, "/tmp", "", [], []⟩,
    ⟨"/dev/sda3", .swap, "none", "", [], []⟩,
    ⟨"/dev/sda1", .vfat, "/boot/efi", "efi", [], []⟩]

theorem mountOrder_smallLayout : mountOrder smallLayout.filesystems = smallLayout.filesystems :=
  Layout.mountOrder_eq (by decide +kernel) (by decide +kernel)

theorem isOk_provision_smallLayout :
    (smallLayout.provision {} false machineSameUuid emptyWorld).1.isOk = true := by
  simp only [Layout.provision, Layout.populate]
  rw [Layout.mountFilesystems_of_mountOrder mountOrder_smallLayout]
  decide +kernel

theorem outputs_smallLayout :
    ∃ done w', smallLayout.provision {} false machineSameUuid emptyWorld = (.ok done, w') ∧
      machineSameUuid.SteadyLooks (fun _ => .ok sameUuid) ∧ ∃ added uuid, w'.events = [] ++ added ∧
        smallLayout.Outputs ⟨"/target"⟩ (fun _ => .ok sameUuid) uuid
          (granted machineSameUuid [] added) done := by
  have fine := isOk_provision_smallLayout
  rcases ran : smallLayout.provision {} false machineSameUuid emptyWorld with ⟨failure | done, w'⟩
  · rw [ran] at fine
    cases fine
  · exact ⟨done, w', rfl, fun _ _ => rfl,
      smallLayout.provision_outputs {} false (fun _ _ => rfl) ran⟩

end NodeStorage
