import NodeStorage.Device.Properties
import NodeStorage.Run.Step
import NodeStorage.Text.Search
import NodeStorage.Wipe.BlockTree

/-! Which disks of the machine are wiped, and why the others are not. A disk is kept if its name begins in
a way that is to be ignored, if it has no capacity, if something mounted lies on it, or if it belongs to
an array that the firmware runs.

The device files that something is mounted from are read from the kernel's table of mounts. In a line,
behind the first hyphen between spaces, stand the type and the source. The kernel writes some characters
of a source as a backslash and three octal digits, one for each byte. -/

namespace NodeStorage

open Text

namespace MountSources

def isOctal (b : UInt8) : Bool := 0x30 ≤ b && b ≤ 0x37

def octalValue (b : UInt8) : Nat := b.toNat - 0x30

def octalByte? (a b c : UInt8) : Option UInt8 :=
  let n := 64 * octalValue a + 8 * octalValue b + octalValue c
  if isOctal a && isOctal b && isOctal c && decide (n ≤ 255) then some (.ofNat n) else none

/-- Replaces every escape by its byte; a backslash that begins none stands for itself. -/
def unescapeBytes : List UInt8 → List UInt8
  | 0x5C :: a :: b :: c :: rest =>
    match octalByte? a b c with
    | some byte => byte :: unescapeBytes rest
    | none => 0x5C :: unescapeBytes (a :: b :: c :: rest)
  | byte :: rest => byte :: unescapeBytes rest
  | [] => []

def unescape (s : String) : String := .ofList (lossyChars (unescapeBytes (utf8 s.toList)))

def ofLine? (line : String) : Option String :=
  (divide " - " line).bind fun (_, right) => ((words right)[1]?).map unescape

def ofText (s : String) : List String :=
  let sources := ((lines s).filterMap ofLine?).filter (startsWith "/dev/")
  sources.eraseDups.mergeSort fun a b => decide (a ≤ b)

def read (path : Path) : Step (List String) := do
  let text ← Step.naming ("reading " ++ path.text) (Step.lookOrFail (·.readText path))
  return ofText text

end MountSources

structure WipeSettings where
  ignoredPrefixes : List String := ["loop", "ram", "zram", "sr", "fd", "nbd", "dm-", "md"]
  blockSize : Nat := 4096
  blockRoot : Path := ⟨"/sys/block"⟩
  mountTablePath : Path := ⟨"/proc/self/mountinfo"⟩
  deriving DecidableEq, Repr, Inhabited

inductive WipeStrategy where
  | discard
  | secureErase
  deriving DecidableEq, Repr, Inhabited

namespace WipeStrategy

def text : WipeStrategy → String
  | discard => "discard"
  | secureErase => "nvme-secure-erase"

def secureErasePrefix : String := "/dev/nvm"

/-- Only a disk without moving parts behind an NVMe name can erase itself. -/
def select (device : String) (isRotational : Bool) : WipeStrategy :=
  if !isRotational && startsWith secureErasePrefix device then .secureErase else .discard

end WipeStrategy

structure WipeDecision where
  device : String
  capacity : Nat
  isRotational : Bool
  strategy : WipeStrategy
  deriving DecidableEq, Repr

def BlockDisk.decision (disk : BlockDisk) : WipeDecision :=
  ⟨disk.device, disk.capacity, disk.isRotational,
    WipeStrategy.select disk.device disk.isRotational⟩

inductive KeepReason where
  | ignoredPrefix (start : String)
  | noCapacity
  | backsLiveMount (source : String)
  | foreignArrayMember
  deriving DecidableEq, Repr

def KeepReason.text : KeepReason → String
  | ignoredPrefix start => "name matches ignored prefix " ++ start
  | noCapacity => "reports zero capacity"
  | backsLiveMount source => "backs live mount source " ++ source
  | foreignArrayMember => "member of a firmware RAID array"

structure KeptDisk where
  device : String
  reason : KeepReason
  deriving DecidableEq, Repr

/-- The kernel's name of a device file that is resolved, as far as it can be, to its own name. -/
def kernelName (resolved : String) : String := .ofList (dropLeading "/dev/".toList resolved.toList)

def kernelNameOf (source : String) : Step String :=
  return kernelName ((← Step.canonical source).getD source)

def liveNames (settings : WipeSettings) : Step (List String) := do
  Step.forEach kernelNameOf (← MountSources.read settings.mountTablePath)

def foreignArrayType : String := "isw_raid"

def Properties.isForeignArrayMember (properties : Properties) : Bool :=
  match properties.type? with
  | some type => holds foreignArrayType type
  | none => false

def BlockDisk.reason? (disk : BlockDisk) (settings : WipeSettings) (live : List String) :
    Option KeepReason :=
  match settings.ignoredPrefixes.find? (startsWith · disk.name) with
  | some start => some (.ignoredPrefix start)
  | none =>
    if disk.capacity = 0 then some .noCapacity
    else (disk.members.find? live.contains).map fun member => .backsLiveMount ("/dev/" ++ member)

/-- Why a disk is kept, if it is. A disk whose properties cannot be read has none. -/
def BlockDisk.keepReason? (disk : BlockDisk) (settings : WipeSettings) (live : List String) :
    Step (Option KeepReason) := do
  match disk.reason? settings live with
  | some reason => return some reason
  | none =>
    match ← Step.attempt (Properties.read disk.device) with
    | .ok properties =>
      return if properties.isForeignArrayMember then some .foreignArrayMember else none
    | .error _ => return none

inductive Choice where
  | wipe (decision : WipeDecision)
  | keep (disk : KeptDisk)
  deriving DecidableEq, Repr

namespace Choice

def decision? : Choice → Option WipeDecision
  | wipe decision => some decision
  | keep _ => none

def kept? : Choice → Option KeptDisk
  | wipe _ => none
  | keep disk => some disk

end Choice

def BlockDisk.choose (settings : WipeSettings) (live : List String) (disk : BlockDisk) :
    Step Choice := do
  match ← disk.keepReason? settings live with
  | some reason => do
    Step.note (.info ("not wiping " ++ disk.device ++ ": " ++ reason.text))
    return .keep ⟨disk.device, reason⟩
  | none => return .wipe disk.decision

/-- The choice for every disk, by name. No disk is touched. -/
def chooseDisks (settings : WipeSettings) : Step (List Choice) := do
  let live ← liveNames settings
  Step.forEach (BlockDisk.choose settings live) (← BlockTree.disks settings.blockRoot)

def decisions (choices : List Choice) : List WipeDecision := choices.filterMap Choice.decision?

def keptDisks (choices : List Choice) : List KeptDisk := choices.filterMap Choice.kept?

end NodeStorage
