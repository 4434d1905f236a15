import NodeStorage.Plan.Layout
import NodeStorage.Text.Numeral
import NodeStorage.Text.Quoted

/-! What can be wrong with a layout, first while it is read and then in what it asks for. The first thing
that it asks for and cannot have is reported: disks come first, then arrays, volume groups, logical
volumes and filesystems, each in the order of the layout. -/

namespace NodeStorage

open Text

inductive LayoutFault where
  | unsupportedFormat (text : String)
  | unsupportedGptType (text : String)
  | unsupportedAllocation (text : String)
  | malformed (detail : String)
  | emptyDiskDevice
  | invalidPartitionNumber (device : String) (number : UInt32)
  | duplicatePartitionNumber (device : String) (number : UInt32)
  | restOfDiskNotLast (device : String) (number : UInt32)
  | invalidGuid (device : String) (number : UInt32) (guid : String)
  | arrayWithoutMembers (name : String)
  | tooManySpares (name : String) (spares members : Nat)
  | duplicateGroup (name : String)
  | groupWithoutMembers (name : String)
  | missingGroup (name : String)
  | missingFilesystemDevice (mountPath : String)
  deriving DecidableEq, Repr

namespace LayoutFault

def partition (device : String) (number : UInt32) (problem : String) : String :=
  device ++ ": partition " ++ decimal number.toNat ++ problem

def partitionNumber (device : String) (number : UInt32) (problem : String) : String :=
  device ++ ": partition number " ++ decimal number.toNat ++ problem

def message : LayoutFault → String
  | unsupportedFormat text => "unsupported filesystem format: " ++ quoted text
  | unsupportedGptType text => "unsupported GPT type: " ++ quoted text
  | unsupportedAllocation text => "unsupported LVM allocation type: " ++ quoted text
  | malformed detail => "failed to parse layout: " ++ detail
  | emptyDiskDevice => "disk plan has an empty device path"
  | invalidPartitionNumber device number =>
    partitionNumber device number " is invalid (numbers start at 1)"
  | duplicatePartitionNumber device number =>
    partitionNumber device number " is declared twice"
  | restOfDiskNotLast device number =>
    partition device number " consumes the rest of the disk but is not last"
  | invalidGuid device number guid =>
    partition device number (" has an invalid GUID override " ++ quoted guid)
  | arrayWithoutMembers name => "raid " ++ name ++ ": no member devices"
  | tooManySpares name spares members =>
    "raid " ++ name ++ ": " ++ decimal spares ++ " spares leave no active members out of " ++
      decimal members
  | duplicateGroup name => "volume group " ++ name ++ " is declared twice"
  | groupWithoutMembers name => "volume group " ++ name ++ ": no member devices"
  | missingGroup name => "logical volume " ++ name ++ ": no owning volume group"
  | missingFilesystemDevice mountPath =>
    "filesystem for mount path " ++ quoted mountPath ++ " has no device"

def isUnsupported : LayoutFault → Bool
  | unsupportedFormat _ | unsupportedGptType _ | unsupportedAllocation _ => true
  | _ => false

end LayoutFault

def guidFault? (device : String) (partition : PartitionPlan) : Option LayoutFault :=
  partition.guid.bind fun guid =>
    if isGuid guid then none else some (.invalidGuid device partition.number guid)

/-- The first fault among the remaining partitions of a disk, when the numbers `used` are taken. -/
def partitionsFault? (device : String) (used : List UInt32) :
    List PartitionPlan → Option LayoutFault
  | [] => none
  | partition :: rest =>
    if partition.number = 0 then some (.invalidPartitionNumber device partition.number)
    else if partition.number ∈ used then some (.duplicatePartitionNumber device partition.number)
    else if partition.takesRest ∧ rest ≠ [] then some (.restOfDiskNotLast device partition.number)
    else match guidFault? device partition with
      | some fault => some fault
      | none => partitionsFault? device (partition.number :: used) rest

def DiskPlan.fault? (disk : DiskPlan) : Option LayoutFault :=
  if disk.device = "" then some .emptyDiskDevice
  else partitionsFault? disk.device [] disk.partitions

def ArrayPlan.fault? (array : ArrayPlan) : Option LayoutFault :=
  if array.devices = [] then some (.arrayWithoutMembers array.name)
  else if array.devices.length ≤ array.spares.toNat then
    some (.tooManySpares array.name array.spares.toNat array.devices.length)
  else none

def groupsFault? (used : List String) : List VolumeGroupPlan → Option LayoutFault
  | [] => none
  | group :: rest =>
    if group.name ∈ used then some (.duplicateGroup group.name)
    else if group.devices = [] then some (.groupWithoutMembers group.name)
    else groupsFault? (group.name :: used) rest

/-- A group that the layout does not declare may exist already, so a volume only needs a name. -/
def LogicalVolumePlan.fault? (volume : LogicalVolumePlan) : Option LayoutFault :=
  if volume.group = "" then some (.missingGroup volume.name) else none

def FilesystemPlan.fault? (filesystem : FilesystemPlan) : Option LayoutFault :=
  if filesystem.device = "" then some (.missingFilesystemDevice filesystem.mountPath) else none

def Layout.fault? (layout : Layout) : Option LayoutFault :=
  layout.disks.findSome? DiskPlan.fault? <|>
    layout.arrays.findSome? ArrayPlan.fault? <|>
    groupsFault? [] layout.groups <|>
    layout.volumes.findSome? LogicalVolumePlan.fault? <|>
    layout.filesystems.findSome? FilesystemPlan.fault?

def Layout.validate (layout : Layout) : Except LayoutFault Unit :=
  match layout.fault? with
  | some fault => .error fault
  | none => .ok ()

theorem Layout.validate_eq_ok_iff (layout : Layout) :
    layout.validate = .ok () ↔ layout.fault? = none := by
  cases h : layout.fault? <;> simp [Layout.validate, h]

end NodeStorage
