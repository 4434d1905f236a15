import NodeStorage.Proofs.Wipe.HolderSearch

/-! What is stacked on a disk, and how much of it the members of the disk hold. A link leads from a
device to one of its partitions or to a device that holds it; the stack of a disk is all that links
lead to. The members are found by fewer links: only the disk itself is divided into partitions, and
a holder that bears the name of one of these partitions is not looked into. -/

namespace NodeStorage.BlockTree

inductive Device where
  | whole (name : String)
  | part (disk name : String)
  deriving DecidableEq, Repr

namespace Device

def name : Device → String
  | whole name | part _ name => name

def dir (root : Path) : Device → Path
  | whole name => root.child name
  | part disk name => (root.child disk).child name

end Device

inductive Link (files : FileTree) (root : Path) : Device → Device → Prop where
  | partition {disk part : String} (h : part ∈ partitions files (root.child disk)) :
      Link files root (.whole disk) (.part disk part)
  | holder {device : Device} {holder : String} (h : holder ∈ holders files (device.dir root)) :
      Link files root device (.whole holder)

/-- A chain of links of any length, both kinds at every level. -/
def Stacked (files : FileTree) (root : Path) : Device → Device → Prop :=
  Relation.ReflTransGen (Link files root)

variable {files : FileTree} {root : Path} {disk : String}

/-- The disk, its partitions and their holders: the devices whose names are the members. -/
inductive Found (files : FileTree) (root : Path) (disk : String) : Device → Prop where
  | disk : Found files root disk (.whole disk)
  | partition {part : String} (h : part ∈ partitions files (root.child disk)) :
      Found files root disk (.part disk part)
  | holder {holder : String} (h : Holder files root disk holder) :
      Found files root disk (.whole holder)

theorem Found.eq_disk_or_holder {n : String} (found : Found files root disk (.whole n)) :
    n = disk ∨ Holder files root disk n := by
  cases found with
  | disk => exact .inl rfl
  | holder h => exact .inr h

/-- A link from a holder that is not followed: to one of its partitions, or to what holds it if it
bears the name of a partition of the disk. -/
inductive Missed (files : FileTree) (root : Path) (disk : String) : Device → Device → Prop where
  | partition {holder part : String} (hd : holder ≠ disk)
      (h : part ∈ partitions files (root.child holder)) :
      Missed files root disk (.whole holder) (.part holder part)
  | namesake {lower holder : String} (hd : lower ≠ disk)
      (hp : lower ∈ partitions files (root.child disk))
      (h : holder ∈ holders files (root.child lower)) :
      Missed files root disk (.whole lower) (.whole holder)

theorem Missed.link {x y : Device} (h : Missed files root disk x y) : Link files root x y := by
  cases h with
  | partition hd h => exact .partition h
  | namesake hd hp h => exact .holder h

theorem mem_members_iff_found {n : String} :
    n ∈ BlockTree.members files root disk ↔ ∃ x, Found files root disk x ∧ x.name = n := by
  rw [mem_members_iff]
  constructor
  · rintro (rfl | part | held)
    · exact ⟨_, .disk, rfl⟩
    · exact ⟨_, .partition (mem_partitions_iff.2 part), rfl⟩
    · exact ⟨_, .holder held, rfl⟩
  · rintro ⟨x, found, rfl⟩
    cases found with
    | disk => exact .inl rfl
    | partition h => exact .inr (.inl (mem_partitions_iff.1 h))
    | holder h => exact .inr (.inr h)

theorem Holder.stacked {holder : String} (held : Holder files root disk holder) :
    Stacked files root (.whole disk) (.whole holder) := by
  induction held with
  | ofDisk h => exact .single (.holder (mem_holders_iff.2 h))
  | ofPartition hp h =>
    exact .tail (.single (.partition (mem_partitions_iff.2 hp))) (.holder (mem_holders_iff.2 h))
  | ofHolder hl hd hp h ih => exact .tail ih (.holder (mem_holders_iff.2 h))

theorem Found.stacked {x : Device} (found : Found files root disk x) :
    Stacked files root (.whole disk) x := by
  cases found with
  | disk => exact .refl
  | partition h => exact .single (.partition h)
  | holder h => exact h.stacked

theorem Found.found_or_missed {x y : Device} (found : Found files root disk x)
    (link : Link files root x y) :
    Found files root disk y ∨ Missed files root disk x y := by
  cases found with
  | disk =>
    cases link with
    | partition h => exact .inl (.partition h)
    | holder h => exact .inl (.holder (.ofDisk (mem_holders_iff.1 h)))
  | partition hp =>
    cases link with
    | holder h =>
      exact .inl (.holder (.ofPartition (mem_partitions_iff.1 hp) (mem_holders_iff.1 h)))
  -- Only the links of a holder can be missed.
  | @holder lower held =>
    by_cases hd : lower = disk
    · subst hd
      cases link with
      | partition h => exact .inl (.partition h)
      | holder h => exact .inl (.holder (.ofDisk (mem_holders_iff.1 h)))
    · cases link with
      | partition h => exact .inr (.partition hd h)
      | holder h =>
        by_cases hp : lower ∈ partitions files (root.child disk)
        · exact .inr (.namesake hd hp h)
        · exact .inl (.holder
            (.ofHolder held hd (mt mem_partitions_iff.2 hp) (mem_holders_iff.1 h)))

/-- What is stacked on a disk is found or lies behind a missed link. -/
theorem Stacked.found_or_missed {x : Device} (stacked : Stacked files root (.whole disk) x) :
    Found files root disk x ∨ ∃ y z, Found files root disk y ∧ Missed files root disk y z ∧
      Stacked files root z x := by
  induction stacked with
  | refl => exact .inl .disk
  | tail chain link ih =>
    rcases ih with found | ⟨y, z, found, missed, rest⟩
    · rcases found.found_or_missed link with found' | missed
      · exact .inl found'
      · exact .inr ⟨_, _, found, missed, .refl⟩
    · exact .inr ⟨y, z, found, missed, rest.tail link⟩

end NodeStorage.BlockTree
