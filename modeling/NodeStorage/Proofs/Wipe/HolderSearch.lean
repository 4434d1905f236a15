import Mathlib.Data.List.Forall2
import Mathlib.Logic.Relation
import Mathlib.Order.Bounds.Basic
import NodeStorage.Wipe.BlockTree

/-! The search for what holds a disk, name by name. Directories list their entries in no fixed order, so
a step may list the holders of a name in any; whatever the orders, the search ends, looks into no name
twice and finds the same names. The holders may form circles, be shared, and name devices that have no
directory. -/

namespace NodeStorage.BlockTree

/-- The directory can be listed, and the name is one of those it lists. -/
def Lists (files : FileTree) (dir : Path) (name : String) : Prop :=
  ∃ names, files.list dir = .ok names ∧ name ∈ names

/-- An entry of the directory of a disk, with a file `partition` in it. -/
def HasPart (files : FileTree) (dir : Path) (part : String) : Prop :=
  Lists files dir part ∧ files.isFile ((dir.child part).child "partition")

/-- What listing a directory may come to: its names in any order, or none if it cannot be listed. -/
inductive Listing (files : FileTree) (dir : Path) : List String → Prop where
  | listed {names listed : List String} (h : files.list dir = .ok names) (perm : listed.Perm names) :
      Listing files dir listed
  | unlisted {fault : IoFault} (h : files.list dir = .error fault) : Listing files dir []

/-- The holders that the members of a disk are completed with. -/
inductive Holder (files : FileTree) (root : Path) (disk : String) : String → Prop where
  | ofDisk {holder : String} (h : Lists files ((root.child disk).child "holders") holder) :
      Holder files root disk holder
  | ofPartition {part holder : String} (hp : HasPart files (root.child disk) part)
      (h : Lists files (((root.child disk).child part).child "holders") holder) :
      Holder files root disk holder
  | ofHolder {lower holder : String} (hl : Holder files root disk lower) (hd : lower ≠ disk)
      (hp : ¬ HasPart files (root.child disk) lower)
      (h : Lists files ((root.child lower).child "holders") holder) : Holder files root disk holder

/-- A set that holds the holders of the disk and of its partitions and, with every other name in it, the
holders of that name. -/
structure Holding (files : FileTree) (root : Path) (disk : String) (held : Set String) : Prop where
  ofDisk : ∀ h, Lists files ((root.child disk).child "holders") h → h ∈ held
  ofPartition : ∀ part, HasPart files (root.child disk) part →
    ∀ h, Lists files (((root.child disk).child part).child "holders") h → h ∈ held
  ofHolder : ∀ lower ∈ held, lower ≠ disk → ¬ HasPart files (root.child disk) lower →
    ∀ h, Lists files ((root.child lower).child "holders") h → h ∈ held

/-- The names found so far, those still to be taken up, the next one first, and those that were looked
into. -/
structure Search where
  found : List String
  pending : List String
  looked : List String

theorem namesBelow_subset_allNames {files : FileTree} (place : Place) :
    files.namesBelow place ⊆ allNames files := by
  intro n hn
  obtain ⟨⟨p, entry⟩, mem, last⟩ := List.mem_filterMap.1 hn
  refine List.mem_filterMap.2 ⟨⟨p, entry⟩, mem, ?_⟩
  simp only at last
  split at last
  · exact last
  · cases last

theorem namesIn_subset_allNames {files : FileTree} (dir : Path) :
    namesIn files dir ⊆ allNames files := by
  unfold namesIn FileTree.list
  split
  · exact List.nil_subset _
  · exact namesBelow_subset_allNames _
  · exact List.nil_subset _

theorem mem_namesIn_iff {files : FileTree} {dir : Path} {n : String} :
    n ∈ namesIn files dir ↔ Lists files dir n := by
  unfold namesIn Lists
  cases listed : files.list dir with
  | error fault => simp [Except.toOption]
  | ok names => simp [Except.toOption]

theorem mem_holders_iff {files : FileTree} {dir : Path} {n : String} :
    n ∈ holders files dir ↔ Lists files (dir.child "holders") n := mem_namesIn_iff

theorem mem_partitions_iff {files : FileTree} {dir : Path} {n : String} :
    n ∈ partitions files dir ↔ HasPart files dir n := by
  rw [partitions, List.mem_filter, mem_namesIn_iff, isPartition, HasPart]

theorem listing_namesIn (files : FileTree) (dir : Path) : Listing files dir (namesIn files dir) := by
  unfold namesIn
  cases listed : files.list dir with
  | error fault => exact .unlisted listed
  | ok names => exact .listed listed (.refl _)

theorem Listing.mem_iff {files : FileTree} {dir : Path} {listed : List String} {n : String}
    (h : Listing files dir listed) : n ∈ listed ↔ Lists files dir n := by
  cases h with
  | listed own perm => simp [Lists, own, perm.mem_iff]
  | unlisted own => simp [Lists, own]

theorem Lists.mem_allNames {files : FileTree} {dir : Path} {n : String} (h : Lists files dir n) :
    n ∈ allNames files :=
  namesIn_subset_allNames dir (mem_namesIn_iff.2 h)

theorem Holder.mem_allNames {files : FileTree} {root : Path} {disk n : String}
    (h : Holder files root disk n) : n ∈ allNames files := by
  cases h with
  | ofDisk own | ofPartition _ own | ofHolder _ _ _ own => exact own.mem_allNames

namespace Search

inductive Starts (files : FileTree) (root : Path) (disk : String) : Search → Prop where
  | listed {names parts own : List String} {others : List (List String)}
      (dir : Listing files (root.child disk) names)
      (parts_eq : parts =
        names.filter fun n => files.isFile (((root.child disk).child n).child "partition"))
      (own_listed : Listing files ((root.child disk).child "holders") own)
      (others_listed : List.Forall₂
        (fun part => Listing files (((root.child disk).child part).child "holders")) parts others) :
      Starts files root disk ⟨disk :: parts, (own ++ others.flatten).reverse, []⟩

/-- Takes up one name. If it is new, it is looked into, and its holders are taken up next. -/
inductive Step (files : FileTree) (root : Path) : Search → Search → Prop where
  | pass {found pending looked : List String} {name : String} (known : name ∈ found) :
      Step files root ⟨found, name :: pending, looked⟩ ⟨found, pending, looked⟩
  | look {found pending looked listed : List String} {name : String} (new : name ∉ found)
      (dir : Listing files ((root.child name).child "holders") listed) :
      Step files root ⟨found, name :: pending, looked⟩
        ⟨found ++ [name], listed.reverse ++ pending, looked ++ [name]⟩

def Reaches (files : FileTree) (root : Path) : Search → Search → Prop :=
  Relation.ReflTransGen (Step files root)

def Knows (s : Search) (name : String) : Prop := name ∈ s.found ∨ name ∈ s.pending

structure Sound (files : FileTree) (root : Path) (disk : String) (s : Search) : Prop where
  mem_found_iff : ∀ n, n ∈ s.found ↔
    n = disk ∨ HasPart files (root.child disk) n ∨ n ∈ s.looked
  once : s.looked.Nodup
  held : ∀ n, n ∈ s.looked ∨ n ∈ s.pending → Holder files root disk n
  ofDisk : ∀ h, Lists files ((root.child disk).child "holders") h → s.Knows h
  ofPartition : ∀ part, HasPart files (root.child disk) part →
    ∀ h, Lists files (((root.child disk).child part).child "holders") h → s.Knows h
  ofLooked : ∀ lower ∈ s.looked,
    ∀ h, Lists files ((root.child lower).child "holders") h → s.Knows h

variable {files : FileTree} {root : Path} {disk n : String} {s s' : Search}

theorem mem_flatten_iff {parts : List String} {others : List (List String)}
    (h : List.Forall₂ (fun part => Listing files (((root.child disk).child part).child "holders"))
      parts others) :
    n ∈ others.flatten ↔
      ∃ part ∈ parts, Lists files (((root.child disk).child part).child "holders") n := by
  induction h with
  | nil => simp
  | cons first _ ih => simp [ih, first.mem_iff]

theorem Starts.sound (h : Starts files root disk s) : s.Sound files root disk := by
  cases h with
  | @listed names parts own others dir parts_eq own_listed others_listed =>
    have isPart {n : String} : n ∈ parts ↔ HasPart files (root.child disk) n := by
      rw [parts_eq, List.mem_filter, dir.mem_iff, HasPart]
    have pending {n : String} : n ∈ (own ++ others.flatten).reverse ↔
        Lists files ((root.child disk).child "holders") n ∨
          ∃ part, HasPart files (root.child disk) part ∧
            Lists files (((root.child disk).child part).child "holders") n := by
      rw [List.mem_reverse, List.mem_append, own_listed.mem_iff, mem_flatten_iff others_listed]
      simp only [isPart]
    refine ⟨fun n => ?_, List.nodup_nil, ?_, ?_, ?_, nofun⟩
    · rw [List.mem_cons, isPart, or_iff_left (List.not_mem_nil (a := n))]
    · rintro n (looked | listed)
      · cases looked
      · rcases pending.1 listed with own | ⟨part, hp, other⟩
        · exact .ofDisk own
        · exact .ofPartition hp other
    · exact fun h own => .inr (pending.2 (.inl own))
    · exact fun part hp h other => .inr (pending.2 (.inr ⟨part, hp, other⟩))

theorem Step.knows (step : Step files root s s') (h : s.Knows n) : s'.Knows n := by
  cases step with
  | pass known =>
    rcases h with old | later
    · exact .inl old
    · rcases List.mem_cons.1 later with rfl | later
      · exact .inl known
      · exact .inr later
  | look new dir =>
    rcases h with old | later
    · exact .inl (List.mem_append_left _ old)
    · rcases List.mem_cons.1 later with rfl | later
      · exact .inl (List.mem_append_right _ List.mem_cons_self)
      · exact .inr (List.mem_append_right _ later)

theorem Step.sound (step : Step files root s s') (h : s.Sound files root disk) :
    s'.Sound files root disk := by
  have ofDisk := fun h' own => step.knows (h.ofDisk h' own)
  have ofPartition := fun part hp h' own => step.knows (h.ofPartition part hp h' own)
  have ofLooked := fun lower hl h' own => step.knows (h.ofLooked lower hl h' own)
  cases step with
  | pass known =>
    exact ⟨h.mem_found_iff, h.once,
      fun n mem => h.held n (mem.imp_right (List.mem_cons_of_mem _)), ofDisk, ofPartition, ofLooked⟩
  | @look found pending looked listed name new dir =>
    have own : Holder files root disk name := h.held name (.inr List.mem_cons_self)
    -- A name that is new is neither the disk nor one of its partitions, so what it lists are holders.
    have apart : name ≠ disk ∧ ¬ HasPart files (root.child disk) name ∧ name ∉ looked := by
      simpa only [not_or] using mt (h.mem_found_iff name).2 new
    refine ⟨fun n => ?_, ?_, ?_, ofDisk, ofPartition, ?_⟩
    · have earlier : n ∈ found ↔ _ := h.mem_found_iff n
      simp only [List.mem_append, earlier, or_assoc]
    · refine List.nodup_append.2 ⟨h.once, List.pairwise_singleton _ _, fun a ha b hb same => ?_⟩
      rw [same, List.mem_singleton.1 hb] at ha
      exact apart.2.2 ha
    · intro n mem
      simp only [List.mem_append, List.mem_singleton, List.mem_reverse] at mem
      rcases mem with (old | rfl) | (next | later)
      · exact h.held n (.inl old)
      · exact own
      · exact .ofHolder own apart.1 apart.2.1 (dir.mem_iff.1 next)
      · exact h.held n (.inr (List.mem_cons_of_mem _ later))
    · intro lower hl h' other
      rcases List.mem_append.1 hl with old | same
      · exact ofLooked lower old h' other
      · rw [List.mem_singleton.1 same] at other
        exact .inr (List.mem_append_left _ (List.mem_reverse.2 (dir.mem_iff.2 other)))

theorem Reaches.sound (run : Reaches files root s s') (h : s.Sound files root disk) :
    s'.Sound files root disk := by
  induction run with
  | refl => exact h
  | tail _ step ih => exact step.sound ih

/-- A search with nothing left to take up has found the disk, its partitions and all holders. -/
theorem Sound.mem_found_iff_of_ended (h : s.Sound files root disk) (ended : s.pending = []) :
    n ∈ s.found ↔
      n = disk ∨ HasPart files (root.child disk) n ∨ Holder files root disk n := by
  have found_of_knows {n : String} (known : s.Knows n) : n ∈ s.found :=
    known.resolve_right (ended ▸ List.not_mem_nil)
  constructor
  · intro found
    exact ((h.mem_found_iff n).1 found).imp_right fun rest => rest.imp_right fun looked =>
      h.held n (.inl looked)
  · rintro (same | part | held)
    · exact (h.mem_found_iff n).2 (.inl same)
    · exact (h.mem_found_iff n).2 (.inr (.inl part))
    · induction held with
      | ofDisk own => exact found_of_knows (h.ofDisk _ own)
      | ofPartition hp own => exact found_of_knows (h.ofPartition _ hp _ own)
      | ofHolder hl hd hp own found =>
        have looked := ((h.mem_found_iff _).1 found).resolve_left hd |>.resolve_left hp
        exact found_of_knows (h.ofLooked _ looked _ own)

theorem Step.pending_subset (step : Step files root s s') (h : s.pending ⊆ allNames files) :
    s'.pending ⊆ allNames files := by
  cases step with
  | pass _ => exact (List.cons_subset.1 h).2
  | look _ dir =>
    refine List.append_subset.2 ⟨fun n mem => ?_, (List.cons_subset.1 h).2⟩
    exact (dir.mem_iff.1 (List.mem_reverse.1 mem)).mem_allNames

/-- Every step leaves fewer names of the tree to be found, or as many and fewer to be taken up. -/
theorem acc_of_subset {found pending looked : List String} (known : pending ⊆ allNames files) :
    Acc (fun later earlier => Step files root earlier later) ⟨found, pending, looked⟩ := by
  -- A look puts the whole listing on top, so the pending names are counted again, within fewer unfound ones.
  generalize unfound : ((allNames files).filter (· ∉ found)).length = n
  induction n using Nat.strongRecOn generalizing found pending looked with
  | _ n fewer =>
    induction pending with
    | nil => exact .intro _ fun later step => nomatch step
    | cons name rest shorter =>
      obtain ⟨inTree, restKnown⟩ := List.cons_subset.1 known
      refine .intro _ fun later step => ?_
      have laterKnown := step.pending_subset known
      cases step with
      | pass _ => exact shorter restKnown
      | look new _ => exact fewer _ (unfound ▸ length_filter_not_mem_lt inTree new) laterKnown rfl

theorem Starts.pending_subset (h : Starts files root disk s) : s.pending ⊆ allNames files :=
  fun n mem => (h.sound.held n (.inr mem)).mem_allNames

theorem Starts.acc (h : Starts files root disk s) :
    Acc (fun later earlier => Step files root earlier later) s := by
  have known := h.pending_subset
  cases s
  exact acc_of_subset known

end Search

variable {files files' : FileTree} {root : Path} {disk n : String}

theorem exists_reaches_spread {members stack looked : List String} (known : stack ⊆ allNames files) :
    ∃ looked', Search.Reaches files root ⟨members, stack, looked⟩
      ⟨spread (allNames files) (fun h => holders files (root.child h)) members stack, [], looked'⟩ := by
  fun_induction spread (allNames files) (fun h => holders files (root.child h)) members stack
    generalizing looked with
  | case1 members => exact ⟨looked, .refl⟩
  | case2 members h stack old ih =>
    obtain ⟨looked', run⟩ := ih (List.cons_subset.1 known).2
    exact ⟨looked', .head (.pass old) run⟩
  | case3 members h stack new inTree ih =>
    have look : Search.Step files root ⟨members, h :: stack, looked⟩ _ := .look new (listing_namesIn _ _)
    obtain ⟨looked', run⟩ := ih (look.pending_subset known)
    exact ⟨looked', .head look run⟩
  | case4 members h stack new unknown ih => exact absurd (List.cons_subset.1 known).1 unknown

theorem Search.Starts.exists_reaches_spread {s : Search} (h : Search.Starts files root disk s) :
    ∃ looked, Search.Reaches files root s
      ⟨spread (allNames files) (fun h => holders files (root.child h)) s.found s.pending, [],
        looked⟩ := by
  have known := h.pending_subset
  cases s
  exact BlockTree.exists_reaches_spread known

def searchInOrder (files : FileTree) (root : Path) (disk : String) : Search where
  found := disk :: partitions files (root.child disk)
  pending := (holders files (root.child disk) ++
    (partitions files (root.child disk)).flatMap fun part =>
      holders files ((root.child disk).child part)).reverse
  looked := []

theorem starts_searchInOrder : Search.Starts files root disk (searchInOrder files root disk) := by
  rw [searchInOrder, List.flatMap_def]
  refine .listed (listing_namesIn _ _) rfl (listing_namesIn _ _) ?_
  exact List.forall₂_map_right_iff.2 (List.forall₂_same.2 fun _ _ => listing_namesIn _ _)

theorem members_eq_spread : members files root disk =
    spread (allNames files) (fun h => holders files (root.child h))
      (searchInOrder files root disk).found (searchInOrder files root disk).pending := by
  simp only [members, searchInOrder]

theorem exists_reaches_members (files : FileTree) (root : Path) (disk : String) : ∃ looked,
    Search.Reaches files root (searchInOrder files root disk)
      ⟨members files root disk, [], looked⟩ := by
  rw [members_eq_spread]
  exact starts_searchInOrder.exists_reaches_spread

/-- The members are the disk, its partitions and their holders, at any depth. -/
theorem mem_members_iff :
    n ∈ members files root disk ↔
      n = disk ∨ HasPart files (root.child disk) n ∨ Holder files root disk n := by
  obtain ⟨looked, run⟩ := exists_reaches_members files root disk
  exact (run.sound starts_searchInOrder.sound).mem_found_iff_of_ended rfl

theorem isLeast_holder (files : FileTree) (root : Path) (disk : String) :
    IsLeast {held | Holding files root disk held} {n | Holder files root disk n} := by
  constructor
  · exact ⟨fun h own => .ofDisk own, fun part hp h own => .ofPartition hp own,
      fun lower hl hd hp h own => .ofHolder hl hd hp own⟩
  · intro held closed n holder
    induction holder with
    | ofDisk own => exact closed.ofDisk _ own
    | ofPartition hp own => exact closed.ofPartition _ hp _ own
    | ofHolder _ hd hp own ih => exact closed.ofHolder _ ih hd hp _ own

/-- The same directories and files, and in each directory the same names in any order. -/
structure Relisted (files files' : FileTree) : Prop where
  working_eq : files'.working = files.working
  lookup_eq : ∀ place, files'.lookup? place = files.lookup? place
  listed_perm : ∀ place, (files'.namesBelow place).Perm (files.namesBelow place)

namespace Relisted

variable (same : Relisted files files')
include same

theorem symm : Relisted files' files where
  working_eq := same.working_eq.symm
  lookup_eq place := (same.lookup_eq place).symm
  listed_perm place := (same.listed_perm place).symm

theorem find_eq (p : Path) : files'.find p = files.find p := by
  have enter_eq : files'.enter = files.enter := by
    funext place name
    rw [FileTree.enter, FileTree.enter, same.lookup_eq]
  simp only [FileTree.find, FileTree.start, enter_eq, same.working_eq, same.lookup_eq]

theorem namesIn_perm (dir : Path) : (namesIn files' dir).Perm (namesIn files dir) := by
  simp only [namesIn, FileTree.list, same.find_eq]
  split
  · exact .refl _
  · exact same.listed_perm _
  · exact .refl _

theorem lists_iff {dir : Path} : Lists files' dir n ↔ Lists files dir n := by
  rw [← mem_namesIn_iff, ← mem_namesIn_iff, (same.namesIn_perm dir).mem_iff]

theorem hasPart_iff {dir : Path} : HasPart files' dir n ↔ HasPart files dir n := by
  rw [HasPart, HasPart, same.lists_iff, FileTree.isFile, FileTree.isFile, same.find_eq]

theorem holder (held : Holder files root disk n) : Holder files' root disk n := by
  induction held with
  | ofDisk own => exact .ofDisk (same.lists_iff.2 own)
  | ofPartition hp own => exact .ofPartition (same.hasPart_iff.2 hp) (same.lists_iff.2 own)
  | ofHolder _ hd hp own ih =>
    exact .ofHolder ih hd (mt same.hasPart_iff.1 hp) (same.lists_iff.2 own)

theorem mem_members_iff : n ∈ members files' root disk ↔ n ∈ members files root disk := by
  rw [BlockTree.mem_members_iff, BlockTree.mem_members_iff, same.hasPart_iff,
    Iff.intro same.symm.holder same.holder]

end Relisted

theorem Search.exists_step (files : FileTree) (root : Path) (s : Search) :
    s.pending = [] ∨ ∃ s', Search.Step files root s s' := by
  obtain ⟨found, pending, looked⟩ := s
  cases pending with
  | nil => exact .inl rfl
  | cons name rest =>
    refine .inr ?_
    by_cases known : name ∈ found
    · exact ⟨_, .pass known⟩
    · exact ⟨_, .look known (listing_namesIn _ _)⟩

/-- The members are the disk, its partitions and the least set of holders. They are found by a search
that cannot go on for ever, looks into no name twice and, in whatever orders the directories list their
entries, finds the same. -/
theorem members_searched (files : FileTree) (root : Path) (disk : String) :
    ∃ parts held : Set String,
      (∀ n, n ∈ parts ↔ Lists files (root.child disk) n ∧
        files.isFile (((root.child disk).child n).child "partition")) ∧
      IsLeast {held | Holding files root disk held} held ∧
      {n | n ∈ members files root disk} = {disk} ∪ parts ∪ held ∧
      (∃ start looked, Search.Starts files root disk start ∧
        Search.Reaches files root start ⟨members files root disk, [], looked⟩) ∧
      (∀ start, Search.Starts files root disk start →
        Acc (fun later earlier => Search.Step files root earlier later) start ∧
        ∀ s, Search.Reaches files root start s →
          s.looked.Nodup ∧
          (s.pending = [] ∨ ∃ s', Search.Step files root s s') ∧
          (s.pending = [] → {n | n ∈ s.found} = {disk} ∪ parts ∪ held)) ∧
      ∀ files', Relisted files files' →
        {n | n ∈ members files' root disk} = {disk} ∪ parts ∪ held := by
  have whole : {n | n ∈ members files root disk} =
      {disk} ∪ {n | HasPart files (root.child disk) n} ∪ {n | Holder files root disk n} := by
    ext n
    exact mem_members_iff.trans or_assoc.symm
  obtain ⟨looked, run⟩ := exists_reaches_members files root disk
  refine ⟨{n | HasPart files (root.child disk) n}, {n | Holder files root disk n},
    fun n => Iff.rfl, isLeast_holder files root disk, whole,
    ⟨_, looked, starts_searchInOrder, run⟩, fun start starts => ⟨starts.acc, fun s reached => ?_⟩,
    fun files' same => ?_⟩
  · have sound := reached.sound starts.sound
    refine ⟨sound.once, s.exists_step files root, fun ended => ?_⟩
    ext n
    exact (sound.mem_found_iff_of_ended ended).trans or_assoc.symm
  · rw [← whole]
    ext n
    exact same.mem_members_iff

end NodeStorage.BlockTree
