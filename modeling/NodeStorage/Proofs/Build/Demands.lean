import NodeStorage.Proofs.Build.ArrayArguments
import NodeStorage.Proofs.Run.Demand
import NodeStorage.Provision

/-! What building a layout demands, stage by stage. Groups and volumes that the machine lists are
left as they are; what it lists is asked for once, before the first of them. -/

namespace NodeStorage

open Text

variable {α : Type} {free : Prop} {m : Machine} {w : World}

namespace DiskPlan

def demands (disk : DiskPlan) : List Demand :=
  (if disk.wipeOnReinstall then [.advisory ⟨.wipefs, ["--all", disk.device]⟩] else []) ++
    [.required ⟨.sgdisk, disk.partitions.flatMap PartitionPlan.flags ++ [disk.device]⟩]

theorem create_carries (disk : DiskPlan) : disk.create.Carries free m w disk.demands := by
  have wipes : signatureWipeCommand disk.device = ⟨.wipefs, ["--all", disk.device]⟩ := rfl
  have writes : disk.tableCommand =
      ⟨.sgdisk, disk.partitions.flatMap PartitionPlan.flags ++ [disk.device]⟩ := rfl
  rw [demands, ← wipes, ← writes]
  unfold create
  by_cases wipe : disk.wipeOnReinstall
  · simp only [wipe, if_true]
    refine Step.carries_bind (Step.carries_bestEffort _ _) fun _ w' _ => ?_
    refine Step.carries_bind_silent (Step.carries_note _) fun _ w'' => ?_
    exact Step.carries_bind_pure (Step.carries_naming_run _ _) _
  · simp only [wipe, Bool.false_eq_true, if_false, List.nil_append]
    refine Step.carries_bind_silent (Step.carries_note _) fun _ w' => ?_
    exact Step.carries_bind_pure (Step.carries_naming_run _ _) _

end DiskPlan

namespace ArrayPlan

def demands (array : ArrayPlan) : List Demand :=
  [.required ⟨.mdadm, ["--create", array.name] ++ array.ownFlags ++ array.options ++ array.devices⟩]

theorem raiseResyncSpeed_carries (settings : ResyncSettings) :
    (raiseResyncSpeed settings).Carries free m w [] := by
  unfold raiseResyncSpeed
  refine Step.carries_bind_silent ?_ fun r w' => ?_
  · exact Step.carries_of_ok (Step.ensures_tryWriteText fun r _ => ⟨rfl, r, rfl⟩)
  · cases r with
    | ok _ => exact Step.carries_pure ()
    | error fault => exact Step.carries_note _

theorem create_carries (settings : ResyncSettings) (array : ArrayPlan) :
    (array.create settings).Carries free m w array.demands := by
  unfold create demands
  rw [← array.createCommand_eq]
  refine Step.carries_bind_silent (Step.carries_note _) fun _ w' => ?_
  rw [← List.append_nil [Demand.required array.createCommand]]
  exact Step.carries_bind (Step.carries_naming_run _ _) fun _ w'' _ =>
    raiseResyncSpeed_carries settings

end ArrayPlan

namespace FilesystemPlan

def labelArguments (plan : FilesystemPlan) (flag label : String) : List String :=
  if plan.label = "" then [] else [flag, label]

/-- One command for each filesystem that is made; nothing is made in memory or on a device that is left
as it is. -/
def formatDemands (plan : FilesystemPlan) : List Demand :=
  match plan.format with
  | .ext3 => [.required ⟨.mkfsExt3, ["-v", "-F"] ++ plan.labelArguments "-L" plan.label ++
      plan.createOptions ++ [plan.device]⟩]
  | .ext4 => [.required ⟨.mkfsExt4, ["-v", "-F"] ++ plan.labelArguments "-L" plan.label ++
      plan.createOptions ++ [plan.device]⟩]
  | .vfat => [.required ⟨.mkfsVfat, ["-v", "-F", "32"] ++
      plan.labelArguments "-n" (upper plan.label) ++ plan.createOptions ++ [plan.device]⟩]
  | .swap => [.required ⟨.mkswap, ["-f"] ++ plan.labelArguments "-L" plan.label ++
      plan.createOptions ++ [plan.device]⟩]
  | .tmpfs | .untouched => []

theorem formatDemands_eq (plan : FilesystemPlan) :
    plan.formatDemands = (plan.formatCommand?.map Demand.required).toList := by
  unfold formatDemands formatCommand? formatTool?
  cases plan.format <;> rfl

theorem create_carries (plan : FilesystemPlan) : plan.create.Carries free m w plan.formatDemands := by
  rw [formatDemands_eq]
  unfold create
  cases plan.formatCommand? with
  | none => exact Step.carries_pure ()
  | some command =>
    refine Step.carries_bind_silent (Step.carries_note _) fun _ w' => ?_
    exact Step.carries_bind_pure (Step.carries_naming_run _ _) _

end FilesystemPlan

theorem carries_known {f : VolumeCatalog → VolumeSession α} {catalog : VolumeCatalog}
    {demands : List Demand} {s' : Option VolumeCatalog}
    (h : (f catalog).Carries free m (some catalog) w demands s') :
    (knownVolumes >>= f).Carries free m (some catalog) w demands s' := h

namespace VolumeCatalog

theorem hasGroup_iff {catalog : VolumeCatalog} {name : String} :
    catalog.hasGroup name = true ↔ name ∈ catalog.groups.map Prod.fst := by
  rw [hasGroup, List.lookup_isSome_iff]
  simp

theorem hasVolume_iff {catalog : VolumeCatalog} {group name : String} :
    catalog.hasVolume group name = true ↔ (group, name) ∈ catalog.volumes := by
  rw [hasVolume, List.contains_iff_mem]

end VolumeCatalog

namespace VolumeGroupPlan

def demands (catalog : VolumeCatalog) (plan : VolumeGroupPlan) : List Demand :=
  if plan.name ∈ catalog.groups.map Prod.fst then []
  else [.required ⟨.vgcreate, ["--yes"] ++ plan.tags.flatMap (fun tag => ["--addtag", tag]) ++
    [plan.name] ++ plan.devices⟩]

def recorded (catalog : VolumeCatalog) (plan : VolumeGroupPlan) : VolumeCatalog :=
  if plan.name ∈ catalog.groups.map Prod.fst then catalog
  else { catalog with groups := Keyed.put plan.name plan.devices.length catalog.groups }

theorem create_carries (plan : VolumeGroupPlan) (catalog : VolumeCatalog) (w : World) :
    plan.create.Carries free m (some catalog) w (plan.demands catalog) (some (plan.recorded catalog)) := by
  refine carries_known ?_
  unfold demands recorded
  by_cases there : plan.name ∈ catalog.groups.map Prod.fst
  · have known : catalog.hasGroup plan.name = true := VolumeCatalog.hasGroup_iff.2 there
    simp only [known, there, if_true]
    exact Session.carries_lift (Step.carries_note _)
  · have unknown : catalog.hasGroup plan.name = false :=
      Bool.eq_false_iff.2 (mt VolumeCatalog.hasGroup_iff.1 there)
    simp only [unknown, there, if_false]
    refine Session.carries_bind_silent (Session.carries_lift (Step.carries_note _)) fun _ w' => ?_
    exact Session.carries_bind (Session.carries_lift (Step.carries_naming_run _ _)) fun _ _ _ =>
      Session.carries_update fun _ => some (catalog.addGroup plan.name plan.devices.length)

end VolumeGroupPlan

namespace LogicalVolumePlan

def commandFor (plan : LogicalVolumePlan) (count : Nat) : Command :=
  plan.createCommand (plan.resolved count) count

def volumeArguments (plan : LogicalVolumePlan) (count : Nat) : List String :=
  ["--yes", "--wipesignatures", "y", "--name", plan.name] ++ plan.sizeFlags ++
    typeFlags (plan.resolved count) count ++ [plan.group]

def demands (catalog : VolumeCatalog) (plan : LogicalVolumePlan) : List Demand :=
  if (plan.group, plan.name) ∈ catalog.volumes then []
  else [.required ⟨.lvcreate, plan.volumeArguments ((catalog.groups.lookup plan.group).getD 0)⟩]

def recorded (catalog : VolumeCatalog) (plan : LogicalVolumePlan) : VolumeCatalog :=
  if (plan.group, plan.name) ∈ catalog.volumes then catalog
  else { catalog with volumes := catalog.volumes ++ [(plan.group, plan.name)] }

theorem resolve_ensures (plan : LogicalVolumePlan) (count : Nat) :
    (plan.resolve count).Ensures m w fun added r _ => added = [] ∧ r = .ok (plan.resolved count) := by
  unfold resolve
  by_cases down : plan.isDowngraded count
  · refine ⟨[], ?_, ?_⟩ <;> simp [down, Step.map_apply, Step.note, Except.map]
  · refine ⟨[], ?_, ?_⟩ <;> simp [down, Step.pure_apply]

theorem create_carries (plan : LogicalVolumePlan) (catalog : VolumeCatalog) (w : World) :
    plan.create.Carries free m (some catalog) w (plan.demands catalog) (some (plan.recorded catalog)) := by
  refine carries_known ?_
  unfold demands recorded
  by_cases there : (plan.group, plan.name) ∈ catalog.volumes
  · have known : catalog.hasVolume plan.group plan.name = true := VolumeCatalog.hasVolume_iff.2 there
    simp only [known, there, if_true]
    exact Session.carries_lift (Step.carries_note _)
  · have unknown : catalog.hasVolume plan.group plan.name = false :=
      Bool.eq_false_iff.2 (mt VolumeCatalog.hasVolume_iff.1 there)
    simp only [unknown, there, if_false]
    refine Session.carries_bind_value (plan.resolve_ensures _) fun w' => ?_
    refine Session.carries_bind_silent (Session.carries_lift (Step.carries_note _)) fun _ w'' => ?_
    exact Session.carries_bind (Session.carries_lift (Step.carries_naming_run _ _)) fun _ _ _ =>
      Session.carries_update fun _ => some (catalog.addVolume plan.group plan.name)

end LogicalVolumePlan

namespace VolumeCatalog

def reported (m : Machine) (before : List Event) (command : Command) : String :=
  match m.run before command with
  | .ok output => output.stdout
  | .error _ => ""

def listed (m : Machine) (before : List Event) : VolumeCatalog :=
  ofReports (reported m before groupsCommand)
    (reported m (before ++ [.command groupsCommand]) volumesCommand)

def listDemands : List Demand :=
  [.required ⟨.vgs, ["--noheadings", "-o", "vg_name,pv_count", "--separator", "\t"]⟩,
    .required ⟨.lvs, ["--noheadings", "-o", "vg_name,lv_name", "--separator", "\t"]⟩]

theorem list_carries : list.Carries free m w listDemands := by
  unfold list listDemands
  exact Step.carries_bind (Step.carries_naming_run _ _) fun _ w' _ =>
    Step.carries_bind_pure (Step.carries_naming_run _ _) _

theorem eq_listed_of_list {catalog : VolumeCatalog} {w' : World}
    (h : list m w = (.ok catalog, w')) : catalog = listed m w.events := by
  unfold list at h
  unfold listed reported
  simp only [Step.bind_apply, Step.naming, Step.run] at h
  cases groups : m.run w.events groupsCommand with
  | error failure => simp [groups] at h
  | ok groupOutput =>
    rw [groups] at h
    simp only [mapError_ok] at h
    cases volumes : m.run (w.events ++ [.command groupsCommand]) volumesCommand with
    | error failure => simp [volumes] at h
    | ok volumeOutput =>
      rw [volumes] at h
      exact (Except.ok.inj (Prod.mk.inj h).1).symm

end VolumeCatalog

def ListsFirst (x : VolumeSession α) : Prop :=
  ∀ m w, x m none w = match VolumeCatalog.list m w with
    | (.ok catalog, w') => x m (some catalog) w'
    | (.error failure, w') => (.error failure, none, w')

theorem listsFirst_known (f : VolumeCatalog → VolumeSession α) : ListsFirst (knownVolumes >>= f) := by
  intro m w
  have known : knownVolumes m none w = match VolumeCatalog.list m w with
      | (.ok catalog, w') => (.ok catalog, some catalog, w')
      | (.error failure, w') => (.error failure, none, w') := by
    have asked : knownVolumes m none w = (liftM VolumeCatalog.list >>= fun catalog => (do
        Session.update fun _ => some catalog
        return catalog : VolumeSession VolumeCatalog)) m none w := rfl
    rw [asked, Session.bind_apply, Session.lift_apply]
    cases VolumeCatalog.list m w with
    | mk r w' => cases r <;> rfl
  rw [Session.bind_apply, known]
  cases VolumeCatalog.list m w with
  | mk r w' => cases r <;> rfl

theorem ListsFirst.bind {β : Type} {x : VolumeSession α} (h : ListsFirst x) (f : α → VolumeSession β) :
    ListsFirst (x >>= f) := by
  intro m w
  rw [Session.bind_apply, h]
  cases VolumeCatalog.list m w with
  | mk r w' => cases r <;> rfl

theorem carries_of_listsFirst {x : VolumeSession α} {demands : List Demand}
    {s' : Option VolumeCatalog} (h : ListsFirst x)
    (hx : ∀ w', x.Carries free m (some (VolumeCatalog.listed m w.events)) w' demands s') :
    x.Carries free m none w (VolumeCatalog.listDemands ++ demands) s' := by
  obtain ⟨added, events, commands, carried⟩ := VolumeCatalog.list_carries (m := m) (w := w)
  have applied := h m w
  unfold Session.Carries Session.Ensures
  rw [applied]
  cases listed : VolumeCatalog.list m w with
  | mk r w' =>
    rw [listed] at events carried
    cases r with
    | error failure => exact ⟨added, events, commands, carried.early demands, fun _ => nofun⟩
    | ok catalog =>
      obtain rfl := VolumeCatalog.eq_listed_of_list listed
      obtain ⟨more, events', commands', carried', same⟩ := hx w'
      rw [events] at carried'
      refine ⟨added ++ more, ?_, List.forall_mem_append.2 ⟨commands, commands'⟩,
        Passed.carried carried carried', same⟩
      rw [events', events, List.append_assoc]

namespace Layout

theorem listsFirst_buildVolumes {layout : Layout}
    (planned : ¬ (layout.groups = [] ∧ layout.volumes = [])) : ListsFirst layout.buildVolumes := by
  unfold buildVolumes createGroups createVolumes
  cases groups : layout.groups with
  | cons group rest =>
    rw [Session.forEach_cons]
    exact ((listsFirst_known _).bind _).bind _
  | nil =>
    cases volumes : layout.volumes with
    | cons volume rest => exact (listsFirst_known _).bind _
    | nil => exact absurd ⟨groups, volumes⟩ planned

def volumeDemands (m : Machine) (before : List Event) (layout : Layout) : List Demand :=
  if layout.groups = [] ∧ layout.volumes = [] then []
  else
    VolumeCatalog.listDemands ++
      (Session.along VolumeGroupPlan.demands VolumeGroupPlan.recorded
          (VolumeCatalog.listed m before) layout.groups ++
        Session.along LogicalVolumePlan.demands LogicalVolumePlan.recorded
          (layout.groups.foldl VolumeGroupPlan.recorded (VolumeCatalog.listed m before))
          layout.volumes)

theorem buildVolumes_carries (layout : Layout) :
    (Session.whole none layout.buildVolumes).Carries free m w (layout.volumeDemands m w.events) := by
  unfold volumeDemands
  by_cases empty : layout.groups = [] ∧ layout.volumes = []
  · rw [if_pos empty, buildVolumes, createGroups, createVolumes, empty.1, empty.2]
    exact Session.carries_whole (Session.carries_pure ())
  · rw [if_neg empty]
    have known : ∀ w', layout.buildVolumes.Carries free m
        (some (VolumeCatalog.listed m w.events)) w' _ _ := fun w' => Session.carries_bind
      (Session.carries_forEach (fun plan catalog w' => plan.create_carries catalog w') _ _)
      fun _ w'' _ =>
        Session.carries_forEach (fun plan catalog w' => plan.create_carries catalog w') _ _
    exact Session.carries_whole (carries_of_listsFirst (listsFirst_buildVolumes empty) known)

def deviceDemands (layout : Layout) : List Demand :=
  layout.disks.flatMap DiskPlan.demands ++ layout.arrays.flatMap ArrayPlan.demands

def buildDemands (m : Machine) (before : List Event) (layout : Layout) : List Demand :=
  layout.deviceDemands ++
    (layout.volumeDemands m (before ++ layout.deviceDemands.map Demand.event) ++
      layout.filesystems.flatMap FilesystemPlan.formatDemands)

theorem build_carries (settings : Settings) (layout : Layout) :
    (layout.build settings).Carries free m w (layout.buildDemands m w.events) := by
  unfold build buildDemands deviceDemands
  rw [List.append_assoc]
  refine Step.carries_bind (Step.carries_forEach (fun disk _ => disk.create_carries) _) ?_
  intro _ w₁ disks
  refine Step.carries_bind (Step.carries_forEach (fun array _ => array.create_carries _) _) ?_
  intro _ w₂ arrays
  rw [List.map_append, ← List.append_assoc, ← disks, ← arrays]
  refine Step.carries_bind (buildVolumes_carries layout) fun _ w₃ _ => ?_
  exact Step.carries_bind_pure (Step.carries_forEach (fun plan _ => plan.create_carries) _) _

end Layout

end NodeStorage
