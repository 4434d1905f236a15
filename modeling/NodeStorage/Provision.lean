import NodeStorage.Build.Devices
import NodeStorage.Build.Volumes
import NodeStorage.Plan.Validity
import NodeStorage.Run.Step
import NodeStorage.Settings
import NodeStorage.Target.Mounts
import NodeStorage.Target.TableFile
import NodeStorage.Text.Numeral
import NodeStorage.Wipe.Erase

/-! Provisioning a machine from one layout: checking that tools are there before anything is done with
them, wiping the disks if the machine is installed anew, building what the layout asks for from the
partitions up, and mounting and describing it below the target root. The first failure ends the run;
what is mounted by then is unmounted. -/

namespace NodeStorage

open Text

def withoutRepeats [DecidableEq α] : List α → List α
  | [] => []
  | [a] => [a]
  | a :: b :: rest =>
    if a = b then withoutRepeats (b :: rest) else a :: withoutRepeats (b :: rest)

def missingTools (isPresent : String → Bool) (tools : List Tool) : List String :=
  withoutRepeats ((tools.map Tool.binary).filter (!isPresent ·))

def checkTools (isPresent : String → Bool) (tools : List Tool) : Step Unit :=
  if (missingTools isPresent tools).isEmpty then
    Step.note (.info ("all " ++ decimal tools.length ++ " required tools found"))
  else Step.fail (.missingTools (missingTools isPresent tools))

structure Provisioned where
  mounts : Mounts
  wipe : Option WipeSummary
  table : List TableEntry
  descriptor : List DescriptorEntry
  deriving DecidableEq, Repr

namespace Layout

def buildVolumes (layout : Layout) : VolumeSession Unit := do
  createGroups layout.groups
  createVolumes layout.volumes

def build (settings : Settings) (layout : Layout) : Step Unit := do
  let _ ← Step.forEach DiskPlan.create layout.disks
  let _ ← Step.forEach (ArrayPlan.create settings.resync) layout.arrays
  Session.whole none layout.buildVolumes
  let _ ← Step.forEach FilesystemPlan.create layout.filesystems

def populate (settings : Settings) (layout : Layout) :
    MountSession (List TableEntry × List DescriptorEntry) := do
  mountFilesystems settings.targetRoot layout.filesystems
  mountSpecial settings.targetRoot
    (← Step.look (·.isDirectory settings.firmwareVariablesPath))
  let mounts ← Session.state
  let table ← writeTable mounts.tablePlans (settings.inTarget settings.tablePath)
  let descriptor ← writeDescriptor layout.filesystems
    (settings.inTarget settings.descriptorPath)
  return (table, descriptor)

def countText (count : Nat) (noun : String) : String :=
  decimal count ++ " " ++ noun ++ (if count = 1 then "" else "s")

def provisioned (settings : Settings) (layout : Layout) : Notice :=
  .info ("provisioned " ++ countText layout.filesystems.length "filesystem" ++ " under " ++
    settings.targetRoot.text)

def populateFailed (failure : Failure) : Notice :=
  .error ("provisioning failed after mounting began, unmounting: " ++ failure.message)

def check (layout : Layout) : Step Unit :=
  match layout.fault? with
  | some fault => Step.fail (.ofLayoutFault fault)
  | none => pure ()

def provision (settings : Settings) (reinstall : Bool) (layout : Layout) : Step Provisioned := do
  layout.check
  let wipe ← if reinstall then some <$> wipeDisks settings.wipe else pure none
  layout.build settings
  let (result, mounts) ← Session.outcome {} (layout.populate settings)
  match result with
  | .ok (table, descriptor) => do
    Step.note (layout.provisioned settings)
    return ⟨mounts, wipe, table, descriptor⟩
  | .error failure => do
    Step.note (populateFailed failure)
    Session.whole mounts teardown
    Step.fail failure

end Layout

end NodeStorage
