import NodeStorage.Plan.Layout
import NodeStorage.Run.Step
import NodeStorage.Text.Search

/-! Mounting planned filesystems and those that a change of root needs below a target root. Shallow mount
paths come first, so that the parent of a mount point is in place. What was mounted is remembered, to be
unmounted newest first. Of the mount options, those that the kernel knows as flags become bits; all
others are handed to the filesystem as they are, with commas between. -/

namespace NodeStorage

open Text

namespace MountOptions

def flagBits : List (String × Nat) := [
  ("ro", 1), ("nosuid", 2), ("nodev", 4), ("noexec", 8), ("sync", 16), ("noatime", 1024),
  ("nodiratime", 2048), ("relatime", 2097152)]

def bindBit : Nat := 4096

def neutral : List String := ["", "defaults", "rw"]

def bit (option : String) : Nat := (flagBits.lookup option).getD 0

def isData (option : String) : Bool :=
  !neutral.contains option && (flagBits.lookup option).isNone

/-- The single options, without surrounding blanks: an item may hold several between commas. -/
def single (options : List String) : List String :=
  options.flatMap fun option =>
    (option.toList.splitOn ',').map fun piece => .ofList (trimChars piece)

theorem single_append (a b : List String) : single (a ++ b) = single a ++ single b := by
  simp [single]

def flags (options : List String) : Nat :=
  (single options).foldl (fun bits option => bits ||| bit option) 0

def data? (options : List String) : Option String :=
  match (single options).filter isData with
  | [] => none
  | pieces => some (joined "," pieces)

end MountOptions

structure MountRecord where
  source : String
  target : Path
  type : String
  deriving DecidableEq, Repr

/-- What is mounted, in order of mounting, and the plans that belong in the mount table of the
installed machine. -/
structure Mounts where
  planned : List MountRecord := []
  special : List MountRecord := []
  tablePlans : List FilesystemPlan := []
  deriving DecidableEq, Repr, Inhabited

namespace Mounts

def formatAt? (mounts : Mounts) (mountPath : String) : Option FilesystemFormat :=
  (mounts.tablePlans.find? (·.mountPath == mountPath)).map (·.format)

def addPlanned (mounts : Mounts) (record : MountRecord) (plan : FilesystemPlan) : Mounts :=
  { mounts with planned := mounts.planned ++ [record], tablePlans := mounts.tablePlans ++ [plan] }

def addTablePlan (mounts : Mounts) (plan : FilesystemPlan) : Mounts :=
  { mounts with tablePlans := mounts.tablePlans ++ [plan] }

def addSpecial (mounts : Mounts) (record : MountRecord) : Mounts :=
  { mounts with special := mounts.special ++ [record] }

def newestFirst (mounts : Mounts) : List MountRecord :=
  mounts.special.reverse ++ mounts.planned.reverse

def withoutRecords (mounts : Mounts) : Mounts := { mounts with planned := [], special := [] }

end Mounts

abbrev MountSession := Session Mounts

/-- The plans with a mount path, shallow ones first and otherwise in the given order. -/
def mountOrder (plans : List FilesystemPlan) : List FilesystemPlan :=
  (plans.filter FilesystemPlan.hasMountPath).mergeSort fun a b => a.mountDepth ≤ b.mountDepth

def makeMountPoint (target : Path) : Step Unit :=
  Step.naming ("mount point " ++ target.text) (Step.makeDirectories target)

namespace FilesystemPlan

def mountTarget (plan : FilesystemPlan) (root : Path) : Path := root.within ⟨plan.mountPath⟩

def mountRequest (plan : FilesystemPlan) (root : Path) : MountRequest where
  source := plan.device
  target := plan.mountTarget root
  type := some plan.format.mountType
  flags := MountOptions.flags plan.mountOptions
  data := MountOptions.data? plan.mountOptions

def mount (root : Path) (plan : FilesystemPlan) : MountSession Unit :=
  if plan.format.isMountedDuringInstall then do
    let target := plan.mountTarget root
    makeMountPoint target
    Step.note (.info ("mounting " ++ plan.device ++ " at " ++ target.text))
    Step.naming ("mount of " ++ plan.device ++ " at " ++ plan.mountPath)
      (Step.mount (plan.mountRequest root))
    Session.update (·.addPlanned ⟨plan.device, target, plan.format.mountType⟩ plan)
  else Session.update (·.addTablePlan plan)

end FilesystemPlan

def mountFilesystems (root : Path) (plans : List FilesystemPlan) : MountSession Unit :=
  Session.forEach (FilesystemPlan.mount root) (mountOrder plans)

structure SpecialMount where
  source : String
  target : Path
  type : Option String
  flags : Nat := 0
  deriving DecidableEq, Repr

namespace SpecialMount

/-- The firmware variables lie below the system filesystem and are there only if the machine has
any. -/
def all (firmwareVariables : Bool) : List SpecialMount :=
  [⟨"proc", ⟨"/proc"⟩, some "proc", 0⟩, ⟨"sysfs", ⟨"/sys"⟩, some "sysfs", 0⟩] ++
    (if firmwareVariables then
      [⟨"efivarfs", ⟨"/sys/firmware/efi/efivars"⟩, some "efivarfs", 0⟩] else []) ++
    [⟨"tmpfs", ⟨"/tmp"⟩, some "tmpfs", 0⟩, ⟨"/dev", ⟨"/dev"⟩, none, MountOptions.bindBit⟩]

def mount (root : Path) (special : SpecialMount) : MountSession Unit := do
  let target := root.within special.target
  makeMountPoint target
  Step.naming ("chroot mount " ++ special.target.text)
    (Step.mount ⟨special.source, target, special.type, special.flags, none⟩)
  Session.update (·.addSpecial ⟨special.source, target, special.type.getD "bind"⟩)

end SpecialMount

def mountSpecial (root : Path) (firmwareVariables : Bool) : MountSession Unit :=
  Session.forEach (SpecialMount.mount root) (SpecialMount.all firmwareVariables)

def unmountFailed (target : Path) (failure : Failure) : Notice :=
  .warning ("failed to unmount " ++ target.text ++ ", continuing: " ++ failure.message)

/-- Unmounts one record; what stays mounted is only reported. -/
def unmountRecord (record : MountRecord) : Step Unit := do
  match ← Step.attempt (Step.unmount record.target) with
  | .ok _ => return
  | .error failure => Step.note (unmountFailed record.target failure)

/-- Unmounts everything, newest first, the special filesystems before the planned ones. -/
def teardown : MountSession Unit := do
  let mounts ← Session.state
  Session.update Mounts.withoutRecords
  let _ ← Step.forEach unmountRecord mounts.newestFirst

end NodeStorage
