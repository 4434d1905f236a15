import NodeStorage.Run.Step
import NodeStorage.Text.Search

/-! The tree of block devices that the kernel shows, with a directory for each disk. A partition is a
directory in that of its disk with a file `partition`; a device that uses another one is an entry
in the directory `holders` of the other. -/

namespace NodeStorage

open Text

/-- A disk, and among the `members` everything that is stacked on it, itself first. -/
structure BlockDisk where
  name : String
  capacity : Nat
  isRotational : Bool
  members : List String
  deriving DecidableEq, Repr

def BlockDisk.device (disk : BlockDisk) : String := "/dev/" ++ disk.name

namespace BlockTree

def sectorBytes : UInt64 := 512

/-- The capacity in bytes, in a word of 64 bits; zero where none can be read. -/
def capacity (files : FileTree) (dir : Path) : Nat :=
  match files.readText (dir.child "size") with
  | .ok text =>
    (sectorBytes * UInt64.ofNat ((numeral? (Nat.pow 2 64 - 1) (trim text)).getD 0)).toNat
  | .error _ => 0

/-- A disk that does not say it has no moving parts has some. -/
def isRotational (files : FileTree) (dir : Path) : Bool :=
  match files.readText (dir.child "queue/rotational") with
  | .ok text => trim text != "0"
  | .error _ => true

def namesIn (files : FileTree) (dir : Path) : List String := (files.list dir).toOption.getD []

def holders (files : FileTree) (dir : Path) : List String := namesIn files (dir.child "holders")

def isPartition (files : FileTree) (disk : Path) (name : String) : Bool :=
  files.isFile ((disk.child name).child "partition")

def partitions (files : FileTree) (disk : Path) : List String :=
  (namesIn files disk).filter (isPartition files disk)

def allNames (files : FileTree) : List String := files.entries.filterMap (·.1.getLast?)

theorem length_filter_not_mem_lt {h : String} {names members : List String} (mem : h ∈ names)
    (new : h ∉ members) :
    (names.filter (· ∉ members ++ [h])).length < (names.filter (· ∉ members)).length := by
  induction names with
  | nil => simp at mem
  | cons name rest ih =>
    have le : (rest.filter (· ∉ members ++ [h])).length ≤ (rest.filter (· ∉ members)).length := by
      rw [← List.countP_eq_length_filter, ← List.countP_eq_length_filter]
      exact List.countP_mono_left fun x _ => by simp; exact fun a _ => a
    by_cases same : name = h
    · subst same
      rw [List.filter_cons_of_neg (by simp), List.filter_cons_of_pos (by simpa using new),
        List.length_cons]
      omega
    · have := ih ((List.mem_cons.1 mem).resolve_left (Ne.symm same))
      by_cases old : name ∈ members
      · simpa [List.filter_cons, old, same] using this
      · simpa [List.filter_cons, old, same] using this

/-- Adds to the members, one at a time, what is on the stack and is no member yet, and puts what
comes next on top; only one of the given names has anything next. -/
def spread (names : List String) (next : String → List String) :
    (members stack : List String) → List String
  | members, [] => members
  | members, h :: stack =>
    if _new : h ∈ members then spread names next members stack
    else if _known : h ∈ names then
      spread names next (members ++ [h]) ((next h).reverse ++ stack)
    else spread names next (members ++ [h]) stack
termination_by members stack => ((names.filter (· ∉ members)).length, stack.length)
decreasing_by
  · exact Prod.Lex.right _ (by simp)
  · exact Prod.Lex.left _ _ (length_filter_not_mem_lt _known _new)
  · have same : names.filter (· ∉ members ++ [h]) = names.filter (· ∉ members) := by
      apply List.filter_congr
      intro x hx
      have : x ≠ h := fun e => _known (e ▸ hx)
      simp [this]
    rw [same]
    exact Prod.Lex.right _ (by simp)

/-- The disk, its partitions, and all that holds one of them, directly or through other holders. -/
def members (files : FileTree) (root : Path) (name : String) : List String :=
  let disk := root.child name
  let parts := partitions files disk
  let direct := holders files disk ++ parts.flatMap fun part => holders files (disk.child part)
  spread (allNames files) (fun h => holders files (root.child h)) (name :: parts) direct.reverse

def disk (files : FileTree) (root : Path) (name : String) : BlockDisk where
  name := name
  capacity := capacity files (root.child name)
  isRotational := isRotational files (root.child name)
  members := members files root name

def disks (root : Path) : Step (List BlockDisk) := do
  let names ← Step.naming ("listing " ++ root.text) (Step.lookOrFail (·.list root))
  Step.look fun files => (names.mergeSort fun a b => decide (a ≤ b)).map (disk files root)

end BlockTree

end NodeStorage
