import NodeStorage.Text.Numeral
import NodeStorage.Text.Search

/-! The storage layout of one machine: everything that is to be built on its disks. A partition without
positive size takes what is left of the disk, and a logical volume without one all free space of its
group. The last members of an array are spares. A filesystem without mount path is formatted only; swap
areas, memory filesystems and untouched devices appear in the mount table of the installed machine but
are not mounted while it is installed. -/

namespace NodeStorage

open Text

inductive GptType where
  | boot
  | biosBoot
  | linux
  | raid
  | lvm
  | swap
  deriving DecidableEq, Repr, Inhabited

namespace GptType

def code : GptType → String
  | boot => "ef00"
  | biosBoot => "ef02"
  | linux => "8300"
  | raid => "fd00"
  | lvm => "8e00"
  | swap => "8200"

def name : GptType → String
  | boot => "boot"
  | biosBoot => "bios-boot"
  | linux => "linux"
  | raid => "raid"
  | lvm => "lvm"
  | swap => "swap"

def all : List GptType := [boot, biosBoot, linux, raid, lvm, swap]

def plainText (s : String) : String := .ofList ((trimChars s.toList).map Char.toLower)

def ofText? (s : String) : Option GptType :=
  all.find? fun type => type.code == plainText s || type.name == plainText s

theorem ofText?_code (type : GptType) : ofText? type.code = some type := by
  cases type <;> decide

end GptType

structure PartitionPlan where
  number : UInt32
  label : String := ""
  sizeMib : Option Int64 := none
  gptType : GptType
  guid : Option String := none
  deriving DecidableEq, Repr

namespace PartitionPlan

/-- The size in MiB, where the plan asks for a positive one. -/
def explicitSize (plan : PartitionPlan) : Option Nat :=
  plan.sizeMib.bind fun size => if 0 < size.toInt then some size.toInt.toNat else none

def takesRest (plan : PartitionPlan) : Bool := plan.explicitSize.isNone

/-- The size as the partitioner takes it, zero for the rest of the disk. -/
def sizeText (plan : PartitionPlan) : String :=
  match plan.explicitSize with
  | some size => decimal size ++ "M"
  | none => "0"

end PartitionPlan

structure DiskPlan where
  device : String
  wipeOnReinstall : Bool := false
  partitions : List PartitionPlan := []
  deriving DecidableEq, Repr

structure ArrayPlan where
  name : String
  level : String
  devices : List String
  spares : UInt64 := 0
  options : List String := []
  deriving DecidableEq, Repr

namespace ArrayPlan

def activeDevices (plan : ArrayPlan) : Nat := plan.devices.length - plan.spares.toNat

theorem activeDevices_add_spares (plan : ArrayPlan) (h : plan.spares.toNat ≤ plan.devices.length) :
    plan.activeDevices + plan.spares.toNat = plan.devices.length :=
  Nat.sub_add_cancel h

end ArrayPlan

inductive Allocation where
  | linear
  | striped
  | mirrored
  deriving DecidableEq, Repr, Inhabited

namespace Allocation

def text : Allocation → String
  | linear => "linear"
  | striped => "striped"
  | mirrored => "mirrored"

def ofText? (s : String) : Option Allocation :=
  if s = "linear" ∨ s = "" then some linear
  else if s = "striped" then some striped
  else if s = "mirrored" ∨ s = "raid1" then some mirrored
  else none

theorem ofText?_text (allocation : Allocation) : ofText? allocation.text = some allocation := by
  cases allocation <;> decide

def needsSeveralVolumes : Allocation → Bool
  | linear => false
  | striped | mirrored => true

end Allocation

structure VolumeGroupPlan where
  name : String
  devices : List String
  tags : List String := []
  deriving DecidableEq, Repr

structure LogicalVolumePlan where
  name : String
  group : String
  sizeMib : Option UInt64 := none
  allocation : Allocation := .linear
  deriving DecidableEq, Repr

namespace LogicalVolumePlan

def explicitSize (plan : LogicalVolumePlan) : Option Nat :=
  plan.sizeMib.bind fun size => if 0 < size.toNat then some size.toNat else none

def devicePath (plan : LogicalVolumePlan) : String := "/dev/" ++ plan.group ++ "/" ++ plan.name

end LogicalVolumePlan

inductive FilesystemFormat where
  | ext3
  | ext4
  | vfat
  | swap
  | tmpfs
  | untouched
  deriving DecidableEq, Repr, Inhabited

namespace FilesystemFormat

def text : FilesystemFormat → String
  | ext3 => "ext3"
  | ext4 => "ext4"
  | vfat => "vfat"
  | swap => "swap"
  | tmpfs => "tmpfs"
  | untouched => "none"

def all : List FilesystemFormat := [ext3, ext4, vfat, swap, tmpfs, untouched]

def ofText? (s : String) : Option FilesystemFormat :=
  if s = "" then some untouched else all.find? (·.text == s)

theorem ofText?_text (format : FilesystemFormat) : ofText? format.text = some format := by
  cases format <;> decide

def mountType : FilesystemFormat → String
  | untouched => "auto"
  | format => format.text

def isMountedDuringInstall : FilesystemFormat → Bool
  | ext3 | ext4 | vfat => true
  | swap | tmpfs | untouched => false

end FilesystemFormat

structure FilesystemPlan where
  device : String
  format : FilesystemFormat := .untouched
  mountPath : String := ""
  label : String := ""
  mountOptions : List String := []
  createOptions : List String := []
  deriving DecidableEq, Repr

namespace FilesystemPlan

def hasMountPath (plan : FilesystemPlan) : Bool := plan.mountPath != ""

def mountComponents (plan : FilesystemPlan) : List (List Char) :=
  (plan.mountPath.toList.splitOn '/').filter (!·.isEmpty)

def mountDepth (plan : FilesystemPlan) : Nat := plan.mountComponents.length

end FilesystemPlan

structure DescriptorEntry where
  label : String
  device : String
  format : FilesystemFormat
  uuid : String
  deriving DecidableEq, Repr

namespace DescriptorEntry

def recordedLabels : List String := ["root", "efi", "varlib"]

def isRecordedLabel (label : String) : Bool := recordedLabels.contains label

end DescriptorEntry

structure Layout where
  disks : List DiskPlan := []
  arrays : List ArrayPlan := []
  groups : List VolumeGroupPlan := []
  volumes : List LogicalVolumePlan := []
  filesystems : List FilesystemPlan := []
  deriving DecidableEq, Repr, Inhabited

end NodeStorage
