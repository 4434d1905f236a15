import NodeStorage.Proofs.Files.Below
import NodeStorage.Proofs.Wipe.Protection

/-! What the choice of one disk rests on. Of the tree of block devices it is the directory of the disk
and the holders of what is found on it, of the machine the answer to the look at the disk; the other
disks only come before or after it. -/

namespace NodeStorage

namespace BlockTree

variable {files files' : FileTree} {root : Path} {name : String}

theorem spread_congr {names names' first : List String} {next next' : String → List String}
    (Held : String → Prop) (known : ∀ h, Held h → h ∈ names ∧ h ∈ names')
    (same : ∀ h, Held h → next' h = next h)
    (onward : ∀ h, Held h → h ∉ first → ∀ n ∈ next h, Held n) {members stack : List String}
    (old : first ⊆ members) (held : ∀ h ∈ stack, Held h) :
    spread names' next' members stack = spread names next members stack := by
  fun_induction spread names next members stack with
  | case1 members => rw [spread]
  | case2 members h stack seen ih =>
    rw [spread, dif_pos seen]
    exact ih old (List.forall_mem_cons.1 held).2
  | case3 members h stack new inNames ih =>
    obtain ⟨own, others⟩ := List.forall_mem_cons.1 held
    rw [spread, dif_neg new, dif_pos (known h own).2, same h own]
    refine ih (List.Subset.trans old (List.subset_append_left _ _)) (List.forall_mem_append.2 ⟨?_, others⟩)
    exact fun n mem => onward h own (fun at_first => new (old at_first)) n (List.mem_reverse.1 mem)
  | case4 members h stack new unknown ih =>
    exact absurd (known h (List.forall_mem_cons.1 held).1).1 unknown

theorem Holder.exists_found {n : String} (held : Holder files root name n) :
    ∃ x, Found files root name x ∧ n ∈ holders files (x.dir root) := by
  cases held with
  | ofDisk own => exact ⟨_, .disk, mem_holders_iff.2 own⟩
  | ofPartition hp own =>
    exact ⟨_, .partition (mem_partitions_iff.2 hp), mem_holders_iff.2 own⟩
  | ofHolder hl _ _ own => exact ⟨_, .holder hl, mem_holders_iff.2 own⟩

/-- The trees have the same in the directory of the disk, and what is found on the disk has the same
holders. -/
structure SameDisk (files files' : FileTree) (root : Path) (name : String) : Prop where
  own : ∀ p, files.Below (root.child name) p → files.SameAt files' p
  stacked : ∀ x, Found files root name x → holders files' (x.dir root) = holders files (x.dir root)

namespace SameDisk

variable (same : SameDisk files files' root name)
include same

theorem dir_sameAt {entry : String} (own : Path.IsName entry) :
    files.SameAt files' ((root.child name).child entry) :=
  same.own _ (.name .here own)

theorem capacity_eq : capacity files' (root.child name) = capacity files (root.child name) := by
  have size := (same.dir_sameAt (by decide : Path.IsName "size")).readText_eq
  -- The equation of the definition takes seconds to derive; its body is all that is needed.
  delta capacity
  rw [size]

theorem isRotational_eq :
    isRotational files' (root.child name) = isRotational files (root.child name) := by
  have queue : Path.IsName "queue" := by decide
  have below : files.SameAt files' (((root.child name).child "queue").child "rotational") :=
    same.own _ (.name (.name .here queue) (by decide))
  rw [Path.child_child queue] at below
  have text : "queue" ++ "/" ++ "rotational" = "queue/rotational" := by decide
  rw [text] at below
  delta isRotational
  rw [below.readText_eq]

theorem partitions_eq : partitions files' (root.child name) = partitions files (root.child name) := by
  have names_eq : namesIn files' (root.child name) = namesIn files (root.child name) := by
    rw [namesIn, namesIn, (same.own _ .here).list_eq]
  rw [partitions, partitions, names_eq]
  refine List.filter_congr fun part mem => ?_
  obtain ⟨names, list, mem⟩ := mem_namesIn_iff.1 mem
  have below : files.Below (root.child name) (((root.child name).child part).child "partition") :=
    .name (.listed .here list mem) (by decide)
  rw [isPartition, isPartition, (same.own _ below).isFile_eq]

theorem holders_part_eq {part : String} (mem : part ∈ partitions files (root.child name)) :
    holders files' ((root.child name).child part) = holders files ((root.child name).child part) :=
  same.stacked (.part name part) (.partition mem)

theorem searchInOrder_eq : searchInOrder files' root name = searchInOrder files root name := by
  have own : holders files' (root.child name) = holders files (root.child name) :=
    same.stacked (.whole name) .disk
  rw [searchInOrder, searchInOrder, same.partitions_eq, own,
    List.flatMap_congr fun _ mem => same.holders_part_eq mem]

theorem mem_allNames {h : String} (held : Holder files root name h) : h ∈ allNames files' := by
  obtain ⟨x, found, own⟩ := held.exists_found
  rw [← same.stacked x found] at own
  exact namesIn_subset_allNames _ own

theorem members_eq : members files' root name = members files root name := by
  rw [members_eq_spread, members_eq_spread, same.searchInOrder_eq]
  have onward : ∀ h, Holder files root name h → h ∉ (searchInOrder files root name).found →
      ∀ n ∈ holders files (root.child h), Holder files root name n := by
    intro h held new n mem
    obtain ⟨apart, notPart⟩ := not_or.1 (mt List.mem_cons.2 new)
    exact .ofHolder held apart (mt mem_partitions_iff.2 notPart) (mem_holders_iff.1 mem)
  exact spread_congr (Holder files root name)
    (fun h held => ⟨held.mem_allNames, same.mem_allNames held⟩)
    (fun h held => same.stacked (.whole h) (.holder held)) onward (List.Subset.refl _)
    (fun h mem => starts_searchInOrder.sound.held h (.inr mem))

theorem disk_eq : disk files' root name = disk files root name := by
  rw [disk, disk, same.capacity_eq, same.isRotational_eq, same.members_eq]

end SameDisk

end BlockTree

def Choice.device : Choice → String
  | .wipe decision => decision.device
  | .keep disk => disk.device

namespace BlockDisk

variable {settings : WipeSettings} {live : List String} {m : Machine} {w : World}

theorem device_choiceOn (answer : Except Failure Output) (disk : BlockDisk) :
    (disk.choiceOn settings live answer).device = disk.device := by
  unfold choiceOn
  split
  · rfl
  · split <;> rfl

theorem probe_of_unknown {disk : BlockDisk} (known : disk.reason? settings live = none) :
    disk.probe settings live = [.command (Properties.command disk.device)] := by
  rw [probe, known]
  rfl

theorem choiceOn_congr {disk : BlockDisk} {answer answer' : Except Failure Output}
    (same : disk.reason? settings live = none → answer' = answer) :
    disk.choiceOn settings live answer' = disk.choiceOn settings live answer := by
  unfold choiceOn
  cases known : disk.reason? settings live with
  | some reason => rfl
  | none => rw [same known]

end BlockDisk

theorem Machine.liveNames_congr {m m' : Machine} (links : m'.canonical = m.canonical)
    (table : String) : m'.liveNames table = m.liveNames table := by
  unfold liveNames kernelName
  rw [links]

def Step.Asks {α : Type} (x : Step α) (m : Machine) (w : World) (command : Command)
    (answer : Except Failure Output) : Prop :=
  ∃ before after, (x m w).2.events = w.events ++ before ++ .command command :: after ∧
    answer = m.run (w.events ++ before) command

variable {settings : WipeSettings} {m m' : Machine} {w w' : World} {names names' : List String}
  {table name : String}

theorem exists_choices (readable : w.files.readText settings.mountTablePath = .ok table)
    (listed : w.files.list settings.blockRoot = .ok names) (mem : name ∈ names) :
    ∃ choices, (chooseDisks settings m w).1 = .ok choices ∧
      (∃ choice ∈ choices, choice.device = "/dev/" ++ name) ∧
      ∀ choice ∈ choices, choice.device = "/dev/" ++ name → ∃ answer,
        choice = (BlockTree.disk w.files settings.blockRoot name).choiceOn settings
          (m.liveNames table) answer ∧
        ((BlockTree.disk w.files settings.blockRoot name).reason? settings
            (m.liveNames table) = none →
          (chooseDisks settings).Asks m w (Properties.command ("/dev/" ++ name)) answer) := by
  obtain ⟨added, events, rfl, _, succeeds⟩ := chooseDisks_ensures_choices (m := m) readable listed
  have inTree : BlockTree.disk w.files settings.blockRoot name ∈
      BlockTree.disksNamed w.files settings.blockRoot names := BlockTree.mem_disksNamed mem
  refine ⟨_, succeeds, ?_, fun choice chosen device => ?_⟩
  · obtain ⟨front, back, parts⟩ := List.append_of_mem inTree
    exact ⟨_, mem_choicesAfter_iff.2 ⟨front, _, back, parts, rfl⟩, BlockDisk.device_choiceOn _ _⟩
  · obtain ⟨front, disk, back, parts, rfl⟩ := mem_choicesAfter_iff.1 chosen
    rw [BlockDisk.device_choiceOn] at device
    obtain rfl : disk = BlockTree.disk w.files settings.blockRoot name :=
      BlockTree.eq_of_device_eq (by simp [parts]) inTree device
    refine ⟨_, rfl, fun known => ?_⟩
    refine ⟨front.flatMap (BlockDisk.probe settings (m.liveNames table)),
      back.flatMap (BlockDisk.probe settings (m.liveNames table)), ?_, rfl⟩
    rw [events, parts, List.flatMap_append, List.flatMap_cons, BlockDisk.probe_of_unknown known,
      List.singleton_append, List.append_assoc]
    rfl

/-- The choice for a disk rests on what is found on the disk, on the table of mounts and on the answer to
the look at the disk. Whatever else the two trees list, and whatever the machines answer about it, the
choices for the disk are the same in both. -/
theorem choice_rests_on_disk
    (mounts : w'.files.readText settings.mountTablePath = w.files.readText settings.mountTablePath)
    (links : m'.canonical = m.canonical) (listed : w.files.list settings.blockRoot = .ok names)
    (listed' : w'.files.list settings.blockRoot = .ok names') (mem : name ∈ names)
    (mem' : name ∈ names')
    (same : BlockTree.SameDisk w.files w'.files settings.blockRoot name)
    (answered : ∀ answer answer',
      (chooseDisks settings).Asks m w (Properties.command ("/dev/" ++ name)) answer →
      (chooseDisks settings).Asks m' w' (Properties.command ("/dev/" ++ name)) answer' →
      answer' = answer) :
    (∀ fault, w.files.readText settings.mountTablePath = .error fault →
      ∃ failure, (chooseDisks settings m w).1 = .error failure ∧
        (chooseDisks settings m' w').1 = .error failure) ∧
    ∀ table, w.files.readText settings.mountTablePath = .ok table →
      ∃ choices choices', (chooseDisks settings m w).1 = .ok choices ∧
        (chooseDisks settings m' w').1 = .ok choices' ∧
        ∃ choice, choice.device = "/dev/" ++ name ∧ choice ∈ choices ∧ choice ∈ choices' ∧
          ∀ other, other ∈ choices ∨ other ∈ choices' → other.device = "/dev/" ++ name →
            other = choice := by
  constructor
  · intro fault unreadable
    refine ⟨.target ("reading " ++ settings.mountTablePath.text) (.io fault), ?_, ?_⟩
    · rw [chooseDisks_of_fault unreadable]
    · rw [chooseDisks_of_fault (mounts.trans unreadable)]
  · intro table readable
    have live := Machine.liveNames_congr links table
    obtain ⟨choices, succeeds, ⟨choice, own, device⟩, all⟩ := exists_choices (m := m) readable listed mem
    obtain ⟨choices', succeeds', ⟨choice', own', device'⟩, all'⟩ :=
      exists_choices (m := m') (mounts.trans readable) listed' mem'
    rw [live, same.disk_eq] at all'
    -- Any choice for the disk in one run is any choice for it in the other.
    have equal : ∀ a ∈ choices, a.device = "/dev/" ++ name → ∀ b ∈ choices',
        b.device = "/dev/" ++ name → b = a := by
      intro a ha deviceA b hb deviceB
      obtain ⟨answer, rfl, asked⟩ := all a ha deviceA
      obtain ⟨answer', rfl, asked'⟩ := all' b hb deviceB
      exact BlockDisk.choiceOn_congr fun known => answered _ _ (asked known) (asked' known)
    have there := equal choice own device choice' own' device'
    refine ⟨choices, choices', succeeds, succeeds', choice, device, own, there ▸ own', ?_⟩
    rintro other (mem | mem) about
    · exact (equal other mem about choice' own' device').symm.trans there
    · exact equal choice own device other mem about

def besideAnother : FileTree where
  working := []
  entries :=
    [(["proc"], .directory), (["proc", "self"], .directory),
      (["proc", "self", "mountinfo"],
        .file (Text.utf8 "36 25 259:1 / / rw,relatime - ext4 /dev/md0p1 rw\n".toList)),
      (["sys"], .directory), (["sys", "block"], .directory),
      (["sys", "block", "md0"], .directory),
      (["sys", "block", "sda"], .directory),
      (["sys", "block", "sda", "size"], .file (Text.utf8 "4096\n".toList)),
      (["sys", "block", "sdb"], .directory),
      (["sys", "block", "sdb", "size"], .file (Text.utf8 "2048\n".toList)),
      (["sys", "block", "sdb", "sdb1"], .directory),
      (["sys", "block", "sdb", "sdb1", "partition"], .file (Text.utf8 "1\n".toList)),
      (["sys", "block", "sdb", "sdb1", "holders"], .directory),
      (["sys", "block", "sdb", "sdb1", "holders", "md0"], .directory)]

theorem sameDisk_besideAnother :
    BlockTree.SameDisk arrayOnDisk besideAnother ⟨"/sys/block"⟩ "sdb" where
  own p below := by
    have found : arrayOnDisk.find ⟨"/sys/block"⟩ = .ok (["sys", "block"], .directory) := by
      decide
    have found' : besideAnother.find ⟨"/sys/block"⟩ = .ok (["sys", "block"], .directory) := by
      decide
    have same : arrayOnDisk.SameFrom besideAnother ["sys", "block", "sdb"] :=
      FileTree.sameFrom_of_entriesFrom (by decide)
    have names : ∀ n ∈ BlockTree.allNames arrayOnDisk, Path.IsName n := by decide
    exact FileTree.sameAt_of_below found found' same (by decide)
      (fun _ n mem => names n (BlockTree.namesBelow_subset_allNames _ mem)) below
  stacked x found := by
    cases found with
    | disk => decide
    | partition h =>
      rw [partitions_arrayOnDisk] at h
      obtain rfl := List.mem_singleton.1 h
      decide
    | holder h =>
      obtain rfl := holder_arrayOnDisk h
      decide

def clearSighted : Machine := .ofAnswers (fun _ => .ok {}) fun _ => some "/dev/sda1"

def blindToOther : Machine :=
  .ofAnswers (fun command => if command = Properties.command "/dev/sda" then
    .error (.executionFailed "blkid" none "") else .ok {}) fun _ => some "/dev/sda1"

theorem choice_rests_on_disk_besideAnother :
    ∃ choices choices', (chooseDisks {} clearSighted ⟨arrayOnDisk, [], []⟩).1 = .ok choices ∧
      (chooseDisks {} blindToOther ⟨besideAnother, [], []⟩).1 = .ok choices' ∧
      ∃ choice, choice.device = "/dev/sdb" ∧ choice ∈ choices ∧ choice ∈ choices' ∧
        ∀ other, other ∈ choices ∨ other ∈ choices' → other.device = "/dev/sdb" → other = choice := by
  have listed : besideAnother.list ⟨"/sys/block"⟩ = .ok ["md0", "sda", "sdb"] := by decide
  have mounts : besideAnother.readText ⟨"/proc/self/mountinfo"⟩ =
      arrayOnDisk.readText ⟨"/proc/self/mountinfo"⟩ := by decide
  have same : ∀ before, blindToOther.run before (Properties.command "/dev/sdb") = .ok {} := by
    have other : Properties.command "/dev/sdb" ≠ Properties.command "/dev/sda" := by decide
    simp [blindToOther, Machine.ofAnswers, other]
  refine (@choice_rests_on_disk {} clearSighted blindToOther ⟨arrayOnDisk, [], []⟩
    ⟨besideAnother, [], []⟩ _ _ "sdb" mounts rfl list_arrayOnDisk listed (by decide) (by decide)
    sameDisk_besideAnother ?_).2 _ readText_arrayOnDisk
  rintro answer answer' ⟨_, _, _, rfl⟩ ⟨_, _, _, rfl⟩
  exact same _

end NodeStorage
