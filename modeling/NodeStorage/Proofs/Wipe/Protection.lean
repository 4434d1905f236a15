import NodeStorage.Proofs.Wipe.Choosing
import NodeStorage.Proofs.Wipe.Stacking

/-! What the choice of a disk for wiping says about what is mounted. Nothing that is found on the
disk is live. Whether anything stacked on it is live is left to the links that are not followed, and
a partition of a holder lies behind one. -/

namespace NodeStorage

open BlockTree

variable {settings : WipeSettings} {m : Machine} {w : World} {table : String}
  {choices : List Choice}

theorem disk_of_wipe_mem (readable : w.files.readText settings.mountTablePath = .ok table)
    (chosen : (chooseDisks settings m w).1 = .ok choices) {decision : WipeDecision}
    (mem : .wipe decision ∈ choices) :
    ∃ names name, w.files.list settings.blockRoot = .ok names ∧ name ∈ names ∧
      decision = (disk w.files settings.blockRoot name).decision ∧
      (disk w.files settings.blockRoot name).reason? settings (m.liveNames table) = none := by
  obtain ⟨names, listed⟩ := (readable_of_chooseDisks_eq_ok chosen).2
  obtain ⟨added, _, _, _, choices', succeeds, all⟩ := chooseDisks_ensures (m := m) readable listed
  obtain rfl : choices = choices' := Except.ok.inj (chosen.symm.trans succeeds)
  obtain ⟨i, hi, at_i⟩ := List.mem_iff_getElem.1 mem
  have hd : i < (disksNamed w.files settings.blockRoot names).length := by rw [all.length_eq]; exact hi
  obtain ⟨asked, choice⟩ := all.get hd hi
  rw [List.get_eq_getElem, at_i] at choice
  obtain ⟨unprotected, _, same⟩ := BlockDisk.reason?_of_choiceOn_eq_wipe choice.symm
  obtain ⟨name, known, is⟩ := List.mem_map.1 (List.get_mem (disksNamed _ _ names) ⟨i, hd⟩)
  rw [List.mem_mergeSort] at known
  rw [← is] at unprotected same
  exact ⟨names, name, listed, known, same, unprotected⟩

/-- Nothing that is found on a disk chosen for wiping is live, and nothing stacked on it is live just
if nothing is behind the links that are not followed. -/
theorem stacked_not_live_iff (readable : w.files.readText settings.mountTablePath = .ok table)
    (chosen : (chooseDisks settings m w).1 = .ok choices) {decision : WipeDecision} {name : String}
    (mem : .wipe decision ∈ choices) (own : decision.device = "/dev/" ++ name) :
    (∀ x, Found w.files settings.blockRoot name x → x.name ∉ m.liveNames table) ∧
      ((∀ x, Stacked w.files settings.blockRoot (.whole name) x → x.name ∉ m.liveNames table) ↔
        ∀ y z x, Found w.files settings.blockRoot name y →
          Missed w.files settings.blockRoot name y z → Stacked w.files settings.blockRoot z x →
            x.name ∉ m.liveNames table) := by
  obtain ⟨_, listed, _, _, rfl, unprotected⟩ := disk_of_wipe_mem readable chosen mem
  obtain rfl : listed = name := by
    have same : "/dev/" ++ listed = "/dev/" ++ name := own
    simpa using same
  have found : ∀ x, Found w.files settings.blockRoot listed x → x.name ∉ m.liveNames table := by
    intro x hx
    have member : x.name ∈ BlockTree.members w.files settings.blockRoot listed :=
      mem_members_iff_found.2 ⟨x, hx, rfl⟩
    exact (BlockDisk.reason?_eq_none_iff.1 unprotected).2.2 _ member
  refine ⟨found, fun free y z x hy hm hz => ?_, fun free x hx => ?_⟩
  · refine free x ?_
    exact (hy.stacked.tail hm.link).trans hz
  · rcases hx.found_or_missed with hx | ⟨y, z, hy, hm, hz⟩
    · exact found x hx
    · exact free y z x hy hm hz

/-- A disk with a partition that is under an array; something is mounted from a partition of the
array. -/
def arrayOnDisk : FileTree where
  working := []
  entries :=
    [(["proc"], .directory), (["proc", "self"], .directory),
      (["proc", "self", "mountinfo"],
        .file (Text.utf8 "36 25 259:1 / / rw,relatime - ext4 /dev/md0p1 rw\n".toList)),
      (["sys"], .directory), (["sys", "block"], .directory),
      (["sys", "block", "sdb"], .directory),
      (["sys", "block", "sdb", "size"], .file (Text.utf8 "2048\n".toList)),
      (["sys", "block", "sdb", "sdb1"], .directory),
      (["sys", "block", "sdb", "sdb1", "partition"], .file (Text.utf8 "1\n".toList)),
      (["sys", "block", "sdb", "sdb1", "holders"], .directory),
      (["sys", "block", "sdb", "sdb1", "holders", "md0"], .directory),
      (["sys", "block", "md0"], .directory), (["sys", "block", "md0", "md0p1"], .directory),
      (["sys", "block", "md0", "md0p1", "partition"], .file (Text.utf8 "1\n".toList))]

theorem readText_arrayOnDisk : arrayOnDisk.readText ⟨"/proc/self/mountinfo"⟩ =
    .ok "36 25 259:1 / / rw,relatime - ext4 /dev/md0p1 rw\n" := by decide

theorem partitions_arrayOnDisk :
    partitions arrayOnDisk ((⟨"/sys/block"⟩ : Path).child "sdb") = ["sdb1"] := by decide

theorem holders_arrayOnDisk : holders arrayOnDisk ((⟨"/sys/block"⟩ : Path).child "sdb") = [] ∧
    holders arrayOnDisk (((⟨"/sys/block"⟩ : Path).child "sdb").child "sdb1") = ["md0"] ∧
    holders arrayOnDisk ((⟨"/sys/block"⟩ : Path).child "md0") = [] := by decide

theorem holder_arrayOnDisk {n : String} (held : Holder arrayOnDisk ⟨"/sys/block"⟩ "sdb" n) :
    n = "md0" := by
  obtain ⟨ofDisk, ofPart, ofArray⟩ := holders_arrayOnDisk
  induction held with
  | ofDisk h =>
    rw [← mem_holders_iff, ofDisk] at h
    cases h
  | ofPartition hp h =>
    rw [← mem_partitions_iff, partitions_arrayOnDisk, List.mem_singleton] at hp
    rw [← mem_holders_iff, hp, ofPart] at h
    exact List.mem_singleton.1 h
  | ofHolder hl hd hp h ih =>
    rw [← mem_holders_iff, ih, ofArray] at h
    cases h

theorem list_arrayOnDisk : arrayOnDisk.list ⟨"/sys/block"⟩ = .ok ["sdb", "md0"] := by decide

theorem decision_arrayOnDisk : (disk arrayOnDisk ⟨"/sys/block"⟩ "sdb").decision =
    ⟨"/dev/sdb", 1048576, true, .discard⟩ := by
  have capacity : capacity arrayOnDisk ((⟨"/sys/block"⟩ : Path).child "sdb") = 1048576 := by
    decide
  have rotational : isRotational arrayOnDisk ((⟨"/sys/block"⟩ : Path).child "sdb") = true := by
    decide
  simp [disk, BlockDisk.decision, BlockDisk.device, capacity, rotational, WipeStrategy.select]

theorem reason?_arrayOnDisk {live : List String} (free : ∀ n ∈ ["sdb", "sdb1", "md0"], n ∉ live) :
    (disk arrayOnDisk ⟨"/sys/block"⟩ "sdb").reason? {} live = none := by
  have plain : ∀ start ∈ ({} : WipeSettings).ignoredPrefixes,
      Text.startsWith start "sdb" = false := by decide
  have capacity := congrArg WipeDecision.capacity decision_arrayOnDisk
  refine BlockDisk.reason?_eq_none_iff.2 ⟨plain, ne_of_eq_of_ne capacity (by decide), ?_⟩
  intro n hn
  refine free n ?_
  rcases mem_members_iff.1 hn with rfl | part | held
  · simp
  · rw [← mem_partitions_iff, partitions_arrayOnDisk, List.mem_singleton] at part
    simp [part]
  · simp [holder_arrayOnDisk held]

theorem wipe_mem_of_arrayOnDisk (canonical : String → Option String)
    (free : ∀ n ∈ ["sdb", "sdb1", "md0"], n ∉ (Machine.ofAnswers (fun _ => .ok {})
      canonical).liveNames "36 25 259:1 / / rw,relatime - ext4 /dev/md0p1 rw\n") :
    ∃ choices, (chooseDisks {} (.ofAnswers (fun _ => .ok {}) canonical) ⟨arrayOnDisk, [], []⟩).1 =
        .ok choices ∧ .wipe ⟨"/dev/sdb", 1048576, true, .discard⟩ ∈ choices := by
  have own : showsForeignArray (.ok {}) = false := by decide
  rw [← decision_arrayOnDisk]
  exact exists_wipe_mem (w := ⟨arrayOnDisk, [], []⟩) readText_arrayOnDisk list_arrayOnDisk (by simp)
    (reason?_arrayOnDisk free) fun _ => own

theorem name_of_missed_arrayOnDisk {y z x : Device}
    (found : Found arrayOnDisk ⟨"/sys/block"⟩ "sdb" y)
    (missed : Missed arrayOnDisk ⟨"/sys/block"⟩ "sdb" y z)
    (stacked : Stacked arrayOnDisk ⟨"/sys/block"⟩ z x) : x.name = "md0p1" := by
  have parts : partitions arrayOnDisk ((⟨"/sys/block"⟩ : Path).child "md0") = ["md0p1"] := by
    decide
  have top : holders arrayOnDisk (((⟨"/sys/block"⟩ : Path).child "md0").child "md0p1") = [] := by
    decide
  have last : z = .part "md0" "md0p1" := by
    cases missed with
    | @partition holder part hd h =>
      obtain rfl : holder = "md0" :=
        holder_arrayOnDisk (found.eq_disk_or_holder.resolve_left hd)
      rw [parts, List.mem_singleton] at h
      rw [h]
    | @namesake lower holder hd hp h =>
      have array : lower = "md0" := holder_arrayOnDisk (found.eq_disk_or_holder.resolve_left hd)
      simp [partitions_arrayOnDisk, array] at hp
  subst last
  rcases stacked.cases_head with rfl | ⟨next, link, _⟩
  · rfl
  · cases link with
    | holder h =>
      have h' : _ ∈ holders arrayOnDisk (((⟨"/sys/block"⟩ : Path).child "md0").child "md0p1") := h
      simp [top] at h'

theorem stacked_not_live_iff_arrayOnDisk :
    ∃ choices, (chooseDisks {} (.ofAnswers (fun _ => .ok {}) fun _ => some "/dev/sda1")
        ⟨arrayOnDisk, [], []⟩).1 = .ok choices ∧ .wipe ⟨"/dev/sdb", 1048576, true, .discard⟩ ∈ choices ∧
      ∀ x, Stacked arrayOnDisk ⟨"/sys/block"⟩ (.whole "sdb") x →
        x.name ∉ (Machine.ofAnswers (fun _ => .ok {}) fun _ => some "/dev/sda1").liveNames
          "36 25 259:1 / / rw,relatime - ext4 /dev/md0p1 rw\n" := by
  have live : (Machine.ofAnswers (fun _ => .ok {}) fun _ => some "/dev/sda1").liveNames
      "36 25 259:1 / / rw,relatime - ext4 /dev/md0p1 rw\n" = ["sda1"] := by decide +kernel
  obtain ⟨choices, chosen, mem⟩ := wipe_mem_of_arrayOnDisk (fun _ => some "/dev/sda1")
    (by rw [live]; decide)
  have own : "/dev/sdb" = "/dev/" ++ "sdb" := by decide
  refine ⟨choices, chosen, mem, ?_⟩
  refine (stacked_not_live_iff readText_arrayOnDisk chosen mem own).2.2 ?_
  intro y z x found missed stacked
  rw [name_of_missed_arrayOnDisk found missed stacked, live]
  decide

/-- The disk is chosen for wiping while a partition of the array on it is live. -/
theorem live_stacked_on_chosen_disk :
    ∃ choices, (chooseDisks {} (.ofAnswers (fun _ => .ok {}) fun _ => none)
        ⟨arrayOnDisk, [], []⟩).1 = .ok choices ∧
      .wipe ⟨"/dev/sdb", 1048576, true, .discard⟩ ∈ choices ∧
      Stacked arrayOnDisk ⟨"/sys/block"⟩ (.whole "sdb") (.part "md0" "md0p1") ∧
      "md0p1" ∈ (Machine.ofAnswers (fun _ => .ok {}) fun _ => none).liveNames
        "36 25 259:1 / / rw,relatime - ext4 /dev/md0p1 rw\n" := by
  have live : (Machine.ofAnswers (fun _ => .ok {}) fun _ => none).liveNames
      "36 25 259:1 / / rw,relatime - ext4 /dev/md0p1 rw\n" = ["md0p1"] := by decide +kernel
  obtain ⟨choices, chosen, mem⟩ := wipe_mem_of_arrayOnDisk (fun _ => none)
    (by rw [live]; decide)
  have part : Link arrayOnDisk ⟨"/sys/block"⟩ (.whole "sdb") (.part "sdb" "sdb1") :=
    .partition (by rw [partitions_arrayOnDisk]; simp)
  have array : Link arrayOnDisk ⟨"/sys/block"⟩ (.part "sdb" "sdb1") (.whole "md0") :=
    .holder (holders_arrayOnDisk.2.1 ▸ List.mem_singleton_self _)
  have top : Link arrayOnDisk ⟨"/sys/block"⟩ (.whole "md0") (.part "md0" "md0p1") :=
    .partition (by decide)
  refine ⟨choices, chosen, mem, ((Relation.ReflTransGen.single part).tail array).tail top, ?_⟩
  rw [live]
  decide

end NodeStorage
