import NodeStorage.Plan.Layout
import NodeStorage.Run.Step
import NodeStorage.Text.Search
import NodeStorage.Text.Upper

/-! Making partition tables, RAID arrays and filesystems. One command makes all partitions of a disk, in
the order of the plan; old signatures are wiped first if the plan says so, which a disk without any may
refuse. Members of an array of a level without parity need no first synchronisation; once an array is
there the machine is asked to synchronise faster, and that it does not is no failure. The label of a FAT
filesystem is stored in capitals. -/

namespace NodeStorage

open Text

def signatureWipeCommand (device : String) : Command :=
  (((Draft.start .wipefs).flag "--all").operand device).build

namespace PartitionPlan

def numbered (plan : PartitionPlan) (flag value : String) : String :=
  flag ++ "=" ++ decimal plan.number.toNat ++ ":" ++ value

def flags (plan : PartitionPlan) : List String :=
  [plan.numbered "-n" ("0:" ++ plan.sizeText), plan.numbered "-c" plan.label,
    plan.numbered "-t" plan.gptType.code] ++ (plan.guid.map (plan.numbered "-u")).toList

end PartitionPlan

namespace DiskPlan

def tableCommand (disk : DiskPlan) : Command :=
  (((Draft.start .sgdisk).addFlags (disk.partitions.flatMap PartitionPlan.flags)).operand
    disk.device).build

def create (disk : DiskPlan) : Step Unit := do
  if disk.wipeOnReinstall then
    let _ ← Step.bestEffort ("signature wipe of " ++ disk.device)
      (Step.run (signatureWipeCommand disk.device))
  Step.note (.info ("creating " ++ decimal disk.partitions.length ++ " partitions on " ++
    disk.device))
  let _ ← Step.naming ("disk " ++ disk.device) (Step.run disk.tableCommand)

end DiskPlan

/-- How fast arrays are synchronised at least, and the file that the machine reads it from. -/
structure ResyncSettings where
  speedLimit : Nat := 200000
  speedLimitPath : Path := ⟨"/proc/sys/dev/raid/speed_limit_min"⟩
  deriving DecidableEq, Repr, Inhabited

/-- The level without surrounding blanks and without one leading `raid`. -/
def plainLevel (level : String) : List Char :=
  let level := trimChars level.toList
  if "raid".toList.isPrefixOf level then level.drop "raid".length else level

def skipsFirstResync (level : String) : Bool :=
  plainLevel level == ['0'] || plainLevel level == ['1']

namespace ArrayPlan

def createCommand (array : ArrayPlan) : Command :=
  ((Draft.start .mdadm)
    |>.addFlags ["--create", array.name]
    |>.addFlags ["--force", "--run"]
    |>.flag ("--level=" ++ array.level)
    |>.flag ("--raid-devices=" ++ decimal array.activeDevices)
    |>.flag "--homehost=any"
    |>.flagIf (skipsFirstResync array.level) "--assume-clean"
    |>.flagIf (0 < array.spares.toNat) ("--spare-devices=" ++ decimal array.spares.toNat)
    |>.addFlags array.options
    |>.addOperands array.devices).build

def creating (array : ArrayPlan) : Notice :=
  .info ("creating raid" ++ array.level ++ " array " ++ array.name ++ " over " ++
    decimal array.devices.length ++ " devices (" ++ decimal array.spares.toNat ++ " spares)")

def speedNotRaised (path : Path) (fault : IoFault) : Notice :=
  .warning ("failed to raise raid resync speed via " ++ quoted path.text ++ ", continuing: " ++
    fault.message)

def raiseResyncSpeed (settings : ResyncSettings) : Step Unit := do
  match ← Step.tryWriteText settings.speedLimitPath (decimal settings.speedLimit) with
  | .ok _ => return
  | .error fault => Step.note (speedNotRaised settings.speedLimitPath fault)

def create (settings : ResyncSettings) (array : ArrayPlan) : Step Unit := do
  Step.note array.creating
  let _ ← Step.naming ("raid " ++ array.name) (Step.run array.createCommand)
  raiseResyncSpeed settings

end ArrayPlan

namespace FilesystemPlan

def labelFlags (plan : FilesystemPlan) (flag : String) (label : String) : List String :=
  if plan.label = "" then [] else [flag, label]

/-- The tool that makes the filesystem, with its own flags; nothing is made in memory or on a device
that is left as it is. -/
def formatTool? (plan : FilesystemPlan) : Option (Tool × List String) :=
  match plan.format with
  | .ext3 => some (.mkfsExt3, ["-v", "-F"] ++ plan.labelFlags "-L" plan.label)
  | .ext4 => some (.mkfsExt4, ["-v", "-F"] ++ plan.labelFlags "-L" plan.label)
  | .vfat => some (.mkfsVfat, ["-v", "-F", "32"] ++ plan.labelFlags "-n" (upper plan.label))
  | .swap => some (.mkswap, ["-f"] ++ plan.labelFlags "-L" plan.label)
  | .tmpfs | .untouched => none

def formatCommand? (plan : FilesystemPlan) : Option Command :=
  plan.formatTool?.map fun (tool, flags) =>
    ((((Draft.start tool).addFlags flags).addFlags plan.createOptions).operand plan.device).build

def create (plan : FilesystemPlan) : Step Unit :=
  match plan.formatCommand? with
  | none => pure ()
  | some command => do
    Step.note (.info ("formatting " ++ plan.device ++ " as " ++ plan.format.text))
    let _ ← Step.naming ("filesystem on " ++ plan.device) (Step.run command)

end FilesystemPlan

end NodeStorage
