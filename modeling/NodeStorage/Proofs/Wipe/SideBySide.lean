import Mathlib.Data.List.Nodup
import NodeStorage.Proofs.Wipe.HolderSearch
import NodeStorage.Proofs.Wipe.Interleaving
import NodeStorage.Proofs.Wipe.Summary

/-! Wiping all disks with the workers side by side. The wiping of one disk after the other is one of
these runs. On a steady machine all of them end with the same summary, and with the same commands for
each disk. -/

namespace NodeStorage

open Text

variable {settings : WipeSettings} {m : Machine} {w : World}

def Pool.start (blockSize : Nat) (decisions : List WipeDecision) (w : World) : Pool :=
  ⟨decisions.map fun decision => (decision, decision.work blockSize), [], w⟩

/-- A run of the wiping of all disks, in which the workers advance in any order. -/
inductive WipeRun (settings : WipeSettings) (m : Machine) (w : World) :
    Except Failure WipeSummary → World → Prop where
  | unchosen {failure : Failure} {w' : World}
      (chosen : chooseDisks settings m w = (.error failure, w')) :
      WipeRun settings m w (.error failure) w'
  | idle {choices : List Choice} {w' : World}
      (chosen : chooseDisks settings m w = (.ok choices, w')) (kept : decisions choices = []) :
      WipeRun settings m w (.ok (.ofResults (keptDisks choices) []))
        { w' with notices := w'.notices ++ [.info "no disks to wipe"] }
  | unstarted {choices : List Choice} {w' : World} {reason : String}
      (chosen : chooseDisks settings m w = (.ok choices, w')) (busy : decisions choices ≠ [])
      (h : m.unstarted w'.events (decisions choices).length = some reason) :
      WipeRun settings m w (.error (.workersNotStarted reason)) w'
  | wiped {choices : List Choice} {w' w'' : World} {results : List WipeResult}
      (chosen : chooseDisks settings m w = (.ok choices, w')) (busy : decisions choices ≠ [])
      (started : m.unstarted w'.events (decisions choices).length = none)
      (run : Pool.Reaches m (.start settings.blockSize (decisions choices) w') ⟨[], results, w''⟩) :
      WipeRun settings m w (.ok (.ofResults (keptDisks choices) results))
        { w'' with notices := w''.notices ++ results.map WipeResult.notice ++
            [(WipeSummary.ofResults (keptDisks choices) results).finished] }

theorem Step.forEach_note {α : Type} (f : α → Notice) (items : List α) :
    forEach (fun a => note (f a)) items m w =
      (.ok (items.map fun _ => ()), { w with notices := w.notices ++ items.map f }) := by
  induction items generalizing w with
  | nil => simp [forEach, pure_apply]
  | cons a rest ih => simp [forEach_cons, bind_apply, map_apply, note, ih, Except.map]

theorem reaches_forEach_eraseOne (blockSize : Nat) (decisions : List WipeDecision)
    (arrived : List WipeResult) :
    ∃ results w', Step.forEach (eraseOne blockSize) decisions m w = (.ok results, w') ∧
      Pool.Reaches m ⟨decisions.map fun decision => (decision, decision.work blockSize), arrived, w⟩
        ⟨[], arrived ++ results, w'⟩ := by
  induction decisions generalizing arrived w with
  | nil => exact ⟨[], w, rfl, by rw [List.append_nil]; exact .refl⟩
  | cons decision rest ih =>
    have first := Pool.reaches_of_work (m := m) []
      (rest.map fun decision => (decision, decision.work blockSize)) decision
      (decision.work blockSize) arrived w
    rw [decision.step_work blockSize] at first
    obtain ⟨results, w', same, others⟩ := ih (w := (decision.erase blockSize m w).2)
      (arrived ++ [⟨decision, (decision.erase blockSize m w).1⟩])
    refine ⟨⟨decision, (decision.erase blockSize m w).1⟩ :: results, w', ?_, ?_⟩
    · simp [Step.forEach_cons, Step.bind_apply, eraseOne, Step.map_apply, Step.attempt, Except.map,
        same]
    · rw [List.append_assoc, List.singleton_append] at others
      exact first.trans others

/-- The wiping itself is one of the runs. -/
theorem wipeRun_wipeDisks :
    WipeRun settings m w (wipeDisks settings m w).1 (wipeDisks settings m w).2 := by
  rcases chosen : chooseDisks settings m w with ⟨failure | choices, w'⟩
  · rw [wipeDisks, Step.bind_of_error chosen]
    exact .unchosen chosen
  · rw [wipeDisks, Step.bind_of_ok chosen]
    by_cases kept : decisions choices = []
    · rw [if_pos kept]
      exact .idle chosen kept
    · rw [if_neg kept]
      cases started : m.unstarted w'.events (decisions choices).length with
      | some reason =>
        rw [Step.bind_of_error (Step.startWorkers_of_unstarted started)]
        exact .unstarted chosen kept started
      | none =>
        obtain ⟨results, w'', same, run⟩ := reaches_forEach_eraseOne (m := m) (w := w')
          settings.blockSize (decisions choices) []
        rw [Step.bind_of_ok (Step.startWorkers_of_started started)]
        simp only [Step.bind_apply, same, Step.forEach_note]
        exact .wiped chosen kept started run

section

variable (settings : WipeSettings) (live : List String) (answer : Command → Except Failure Output)
  (disks : List BlockDisk)

def looks : List Event :=
  (disks.filter (BlockDisk.Examined settings live ·)).map fun disk => .command disk.look

def eraseLists : List (List Command) :=
  (unprotectedDisks settings live answer disks).map
    (BlockDisk.eraseCommands answer settings.blockSize)

def eraseResults : List WipeResult :=
  (unprotectedDisks settings live answer disks).map fun disk =>
    ⟨disk.decision, disk.eraseOutcome answer settings.blockSize⟩

/-- What wiping these disks comes to on a steady machine, however the workers advance. The work is
what is asked after the looks at the disks. -/
structure WipeAccount (work : List Command) (summary : WipeSummary) : Prop where
  interleaved : Interleaved (eraseLists settings live answer disks) work
  aimed : ∀ command ∈ work, ∃ disk ∈ disks, disk.Unprotected settings live answer ∧
    command.erases disk.device = true
  attempted : ∀ disk ∈ disks, disk.Unprotected settings live answer →
    (disk.eraseCommands answer settings.blockSize).Sublist work
  own : (disks.map BlockDisk.name).Nodup → ∀ disk ∈ disks, disk.Unprotected settings live answer →
    work.filter (Command.erases disk.device) = disk.eraseCommands answer settings.blockSize
  wiped : ∀ device method, (device, method) ∈ summary.wiped ↔
    ∃ disk ∈ disks, disk.Unprotected settings live answer ∧ disk.device = device ∧
      disk.eraseOutcome answer settings.blockSize = .ok method
  failed : ∀ device failure, (device, failure) ∈ summary.failed ↔
    ∃ disk ∈ disks, disk.Unprotected settings live answer ∧ disk.device = device ∧
      disk.eraseOutcome answer settings.blockSize = .error failure
  kept : ∀ device reason, ⟨device, reason⟩ ∈ summary.kept ↔
    ∃ disk ∈ disks, disk.device = device ∧ disk.KeptFor settings live answer reason
  once : (disks.map BlockDisk.device).Perm (summary.wiped.map Prod.fst ++
    summary.kept.map KeptDisk.device ++ summary.failed.map Prod.fst)
  sorted : summary.wiped.Pairwise (fun a b => a.1 ≤ b.1) ∧
    summary.failed.Pairwise fun a b => a.1 ≤ b.1
  results : summary = .ofResults (keptDisks (disks.map (BlockDisk.settled settings live answer)))
    (eraseResults settings live answer disks)

/-- How the wiping ends once the disks are known: after the looks at them there are no workers for those
that nothing protects, or these have all been attempted. -/
inductive WipeEnds (m : Machine) (before : List Event) : Except Failure WipeSummary → World → Prop where
  | unstarted {reason : String} {w' : World} (busy : unprotectedDisks settings live answer disks ≠ [])
      (h : m.unstarted (before ++ looks settings live disks)
        (unprotectedDisks settings live answer disks).length = some reason)
      (events : w'.events = before ++ looks settings live disks) :
      WipeEnds m before (.error (.workersNotStarted reason)) w'
  | attempted {work : List Command} {summary : WipeSummary} {w' : World}
      (started : unprotectedDisks settings live answer disks = [] ∨
        m.unstarted (before ++ looks settings live disks)
          (unprotectedDisks settings live answer disks).length = none)
      (events : w'.events = before ++ looks settings live disks ++ work.map .command)
      (account : WipeAccount settings live answer disks work summary) :
      WipeEnds m before (.ok summary) w'

/-- The wiping fails without a command if it cannot be read what is mounted or which disks there are, and
otherwise each disk is accounted for on its own. -/
structure Accounted (m : Machine) (w : World) (result : Except Failure WipeSummary) (w' : World) :
    Prop where
  unreadable : (∃ fault, w.files.readText settings.mountTablePath = .error fault) ∨
      (∃ fault, w.files.list settings.blockRoot = .error fault) →
    (∃ failure, result = .error failure) ∧ w'.events = w.events
  readable : ∀ table names, w.files.readText settings.mountTablePath = .ok table →
    w.files.list settings.blockRoot = .ok names →
      WipeEnds settings (m.liveNames table) answer
        (BlockTree.disksNamed w.files settings.blockRoot names) m w.events result w'

end

variable {live : List String} {answer : Command → Except Failure Output} {disks : List BlockDisk}
  {work : List Command}

theorem flatMap_probe (disks : List BlockDisk) :
    disks.flatMap (BlockDisk.probe settings live) = looks settings live disks := by
  induction disks with
  | nil => rfl
  | cons disk rest ih =>
    rw [List.flatMap_cons, ih, looks, looks]
    by_cases examined : disk.Examined settings live
    · have unknown := BlockDisk.examined_iff.1 examined
      rw [BlockDisk.probe, if_neg (by simp [unknown]),
        List.filter_cons_of_pos (by simpa using examined)]
      rfl
    · have known := Option.isSome_iff_ne_none.2 (mt BlockDisk.examined_iff.2 examined)
      rw [BlockDisk.probe, if_pos known, List.filter_cons_of_neg (by simpa using examined)]
      rfl

theorem remaining_start (blockSize : Nat) (disks : List BlockDisk) (w : World) :
    (Pool.start blockSize (disks.map BlockDisk.decision) w).remaining answer =
      disks.map (BlockDisk.eraseCommands answer blockSize) := by
  simp only [Pool.remaining, Pool.start, List.map_map]
  exact List.map_congr_left fun disk _ => disk.commands_work answer blockSize

theorem pending_start (blockSize : Nat) (disks : List BlockDisk) (w : World) :
    (Pool.start blockSize (disks.map BlockDisk.decision) w).pending answer =
      disks.map fun disk => ⟨disk.decision, disk.eraseOutcome answer blockSize⟩ := by
  simp only [Pool.pending, Pool.start, List.map_map]
  exact List.map_congr_left fun disk _ =>
    congrArg (WipeResult.mk disk.decision) (disk.outcome_work answer blockSize)

namespace WipeAccount

theorem aimed_of_interleaved (h : Interleaved (eraseLists settings live answer disks) work) :
    ∀ command ∈ work, ∃ disk ∈ disks, disk.Unprotected settings live answer ∧
      command.erases disk.device = true := by
  intro command mem
  obtain ⟨list, hl, hc⟩ := List.mem_flatten.1 (h.perm.mem_iff.1 mem)
  obtain ⟨disk, hd, rfl⟩ := List.mem_map.1 hl
  obtain ⟨listed, free⟩ := mem_unprotectedDisks.1 hd
  exact ⟨disk, listed, free, (BlockDisk.erases_iff hc _).2 rfl⟩

theorem own_of_interleaved (h : Interleaved (eraseLists settings live answer disks) work)
    (distinct : (disks.map BlockDisk.name).Nodup) {disk : BlockDisk} (listed : disk ∈ disks)
    (free : disk.Unprotected settings live answer) :
    work.filter (Command.erases disk.device) = disk.eraseCommands answer settings.blockSize := by
  have distinct' : ((unprotectedDisks settings live answer disks).map BlockDisk.name).Nodup :=
    distinct.sublist (List.filter_sublist.map _)
  obtain ⟨before, after, parts⟩ := List.append_of_mem (mem_unprotectedDisks.2 ⟨listed, free⟩)
  rw [eraseLists, parts, List.map_append, List.map_cons] at h
  rw [parts, List.map_append, List.map_cons, List.nodup_middle, List.nodup_cons,
    ← List.map_append] at distinct'
  have alone : ∀ other ∈ before ++ after, other.device ≠ disk.device := by
    intro other mem same
    have names : other.name = disk.name := by simpa [BlockDisk.device] using same
    exact distinct'.1 (names ▸ List.mem_map_of_mem mem)
  refine h.filter_eq (fun command hc => (BlockDisk.erases_iff hc _).2 rfl) ?_
  intro list hl command hc
  rw [← List.map_append] at hl
  obtain ⟨other, mem, rfl⟩ := List.mem_map.1 hl
  rw [BlockDisk.erases_iff hc]
  exact alone other mem

theorem exists_eraseResults_iff {device : String} {outcome : Except Failure WipeMethod} :
    (∃ r ∈ eraseResults settings live answer disks,
      r.decision.device = device ∧ r.outcome = outcome) ↔
    ∃ disk ∈ disks, disk.Unprotected settings live answer ∧ disk.device = device ∧
      disk.eraseOutcome answer settings.blockSize = outcome := by
  constructor
  · rintro ⟨r, mem, device, outcome⟩
    obtain ⟨disk, own, rfl⟩ := List.mem_map.1 mem
    obtain ⟨listed, free⟩ := mem_unprotectedDisks.1 own
    exact ⟨disk, listed, free, device, outcome⟩
  · rintro ⟨disk, listed, free, device, outcome⟩
    exact ⟨_, List.mem_map_of_mem (mem_unprotectedDisks.2 ⟨listed, free⟩), device, outcome⟩

theorem of_arrived {files : FileTree} {root : Path} {names : List String}
    {results : List WipeResult} (hd : disks = BlockTree.disksNamed files root names)
    (interleaved : Interleaved (eraseLists settings live answer disks) work)
    (arrived : results.Perm (eraseResults settings live answer disks)) :
    WipeAccount settings live answer disks work
      (.ofResults (keptDisks (disks.map (BlockDisk.settled settings live answer))) results) := by
  have same (kept : List KeptDisk) : WipeSummary.ofResults kept results =
      .ofResults kept (eraseResults settings live answer disks) := by
    -- The order of arrival does not show, for the disks of a tree have different device files.
    refine WipeSummary.ofResults_congr arrived ?_
    intro x hx y hy same
    obtain ⟨a, ha, rfl⟩ := List.mem_map.1 (arrived.mem_iff.1 hx)
    obtain ⟨b, hb, rfl⟩ := List.mem_map.1 (arrived.mem_iff.1 hy)
    rw [BlockTree.eq_of_device_eq (hd ▸ (mem_unprotectedDisks.1 ha).1)
      (hd ▸ (mem_unprotectedDisks.1 hb).1) same]
  rw [same]
  refine ⟨interleaved, aimed_of_interleaved interleaved, ?_, ?_, ?_, ?_, ?_, ?_, ?_, rfl⟩
  · exact fun _ listed free =>
      interleaved.sublist (List.mem_map_of_mem (mem_unprotectedDisks.2 ⟨listed, free⟩))
  · exact fun distinct _ listed free => own_of_interleaved interleaved distinct listed free
  · exact fun _ _ => WipeSummary.mem_wiped_ofResults_iff.trans exists_eraseResults_iff
  · exact fun _ _ => WipeSummary.mem_failed_ofResults_iff.trans exists_eraseResults_iff
  · exact fun _ _ => mem_keptDisks_settled_iff
  · have listed := WipeSummary.devices_ofResults
      (keptDisks (disks.map (BlockDisk.settled settings live answer)))
      (eraseResults settings live answer disks)
    rw [eraseResults, List.map_map] at listed
    refine (devices_settled disks).trans ((listed.append_right _).trans ?_)
    rw [List.append_assoc, List.append_assoc]
    exact List.Perm.append_left _ List.perm_append_comm
  · exact ⟨WipeSummary.pairwise_byDevice _, WipeSummary.pairwise_byDevice _⟩

end WipeAccount

theorem WipeRun.accounted (steady : m.Steady answer) {result : Except Failure WipeSummary}
    {w' : World} (run : WipeRun settings m w result w') : Accounted settings answer m w result w' where
  unreadable unreadable := by
    obtain ⟨failure, failed⟩ := chooseDisks_of_unreadable (m := m) unreadable
    cases run with
    | unchosen chosen =>
      obtain ⟨-, rfl⟩ := Prod.mk.inj (failed.symm.trans chosen)
      exact ⟨⟨_, rfl⟩, rfl⟩
    | idle chosen | unstarted chosen | wiped chosen => cases failed.symm.trans chosen
  readable table names readable listed := by
    obtain ⟨added, events, rfl, -, settled⟩ := chooseDisks_ensures_settled steady readable listed
    rw [flatMap_probe] at events
    cases run with
    | unchosen chosen => simp [chosen] at settled
    | idle chosen kept =>
      rw [chosen] at events settled
      obtain rfl := Except.ok.inj settled
      rw [decisions_settled, List.map_eq_nil_iff] at kept
      have silent : ([] : List Command).map Event.command = [] := rfl
      rw [← List.append_nil (w.events ++ _), ← silent] at events
      refine .attempted (.inl kept) events (.of_arrived rfl ?_ ?_)
      · rw [eraseLists, kept]
        exact .nil
      · rw [eraseResults, kept]
        exact .refl _
    | unstarted chosen busy h =>
      rw [chosen] at events settled
      obtain rfl := Except.ok.inj settled
      rw [decisions_settled] at busy h
      rw [List.length_map, events] at h
      exact .unstarted (mt List.map_eq_nil_iff.2 busy) h events
    | wiped chosen busy started run =>
      rw [chosen] at events settled
      obtain rfl := Except.ok.inj settled
      -- The workers have asked their own commands in order, and handed in the outcomes in some order.
      obtain ⟨work, more, interleaved, -, arrived⟩ := run.finished steady rfl
      rw [decisions_settled] at started interleaved arrived
      rw [remaining_start] at interleaved
      rw [pending_start] at arrived
      rw [List.length_map, events] at started
      refine .attempted (.inr started) ?_ (.of_arrived rfl interleaved arrived)
      rw [← events]
      exact more

/-- The wiping is accounted for, and so is every run in which the workers advance in another order. These
are runs of the same work: in one piece, what a worker does is the erasing of its disk, the wiping itself
is one of the runs, and from every state on all workers may get done. -/
theorem wipeDisks_accounted (settings : WipeSettings) (m : Machine) (w : World)
    (answer : Command → Except Failure Output) (steady : m.Steady answer) :
    Accounted settings answer m w (wipeDisks settings m w).1 (wipeDisks settings m w).2 ∧
      (∀ result w', WipeRun settings m w result w' → Accounted settings answer m w result w') ∧
      WipeRun settings m w (wipeDisks settings m w).1 (wipeDisks settings m w).2 ∧
      (∀ (decision : WipeDecision) (blockSize : Nat),
        (decision.work blockSize).step = decision.erase blockSize) ∧
      ∀ pool : Pool, ∃ ended, Pool.Reaches m pool ended ∧ ended.running = [] :=
  ⟨wipeRun_wipeDisks.accounted steady, fun _ _ run => run.accounted steady, wipeRun_wipeDisks,
    fun decision blockSize => decision.step_work blockSize, Pool.exists_reaches_finished⟩

section DiskRow

open BlockTree

def diskRow : FileTree where
  working := []
  entries :=
    [(["proc"], .directory), (["proc", "self"], .directory),
      (["proc", "self", "mountinfo"],
        .file (Text.utf8 "36 25 8:1 / / rw,relatime - ext4 /dev/sda1 rw\n".toList)),
      (["sys"], .directory), (["sys", "block"], .directory),
      (["sys", "block", "md0"], .directory),
      (["sys", "block", "sda"], .directory),
      (["sys", "block", "sda", "size"], .file (Text.utf8 "2048\n".toList)),
      (["sys", "block", "sda", "sda1"], .directory),
      (["sys", "block", "sda", "sda1", "partition"], .file (Text.utf8 "1\n".toList)),
      (["sys", "block", "sdb"], .directory),
      (["sys", "block", "sdb", "size"], .file (Text.utf8 "2048\n".toList)),
      (["sys", "block", "sdc"], .directory),
      (["sys", "block", "sdc", "size"], .file (Text.utf8 "2048\n".toList)),
      (["sys", "block", "sdc", "sdc1"], .directory),
      (["sys", "block", "sdc", "sdc1", "partition"], .file (Text.utf8 "1\n".toList)),
      (["sys", "block", "sdc", "sdc1", "holders"], .directory),
      (["sys", "block", "sdc", "sdc1", "holders", "md0"], .directory)]

def rowDisks : List BlockDisk :=
  [⟨"md0", 0, true, ["md0"]⟩, ⟨"sda", 1048576, true, ["sda", "sda1"]⟩, ⟨"sdb", 1048576, true, ["sdb"]⟩,
    ⟨"sdc", 1048576, true, ["sdc", "sdc1", "md0"]⟩]

def rowAnswer (command : Command) : Except Failure Output :=
  if command.tool = .mkfsExt4 then .error (.toolNotFound "mkfs.ext4")
  else if command = ⟨.blkid, ["-o", "export", "/dev/sdb"]⟩ then
    .ok { stdout := "DEVNAME=/dev/sdb\nTYPE=isw_raid_member\n" }
  else .ok {}

def machineRow : Machine := .ofAnswers rowAnswer fun _ => none

theorem readText_diskRow : diskRow.readText ⟨"/proc/self/mountinfo"⟩ =
    .ok "36 25 8:1 / / rw,relatime - ext4 /dev/sda1 rw\n" := by decide

theorem list_diskRow : diskRow.list ⟨"/sys/block"⟩ = .ok ["md0", "sda", "sdb", "sdc"] := by decide

theorem members_diskRow_of_unheld {name : String} {parts : List String}
    (partitioned : partitions diskRow ((⟨"/sys/block"⟩ : Path).child name) = parts)
    (unheld : holders diskRow ((⟨"/sys/block"⟩ : Path).child name) ++ parts.flatMap (fun part =>
      holders diskRow (((⟨"/sys/block"⟩ : Path).child name).child part)) = []) :
    members diskRow ⟨"/sys/block"⟩ name = name :: parts := by
  rw [members_eq_spread, searchInOrder, partitioned, unheld, List.reverse_nil, spread]

theorem members_diskRow_of_held :
    members diskRow ⟨"/sys/block"⟩ "sdc" = ["sdc", "sdc1", "md0"] := by
  have parts : partitions diskRow ((⟨"/sys/block"⟩ : Path).child "sdc") = ["sdc1"] := by decide
  have held : holders diskRow ((⟨"/sys/block"⟩ : Path).child "sdc") ++ ["sdc1"].flatMap (fun part =>
      holders diskRow (((⟨"/sys/block"⟩ : Path).child "sdc").child part)) = ["md0"] := by decide
  have last : holders diskRow ((⟨"/sys/block"⟩ : Path).child "md0") = [] := by decide
  rw [members_eq_spread, searchInOrder, parts, held, List.reverse_singleton, spread,
    dif_neg (by decide), dif_pos (by decide), last, List.reverse_nil, List.append_nil, spread]
  rfl

theorem disksNamed_diskRow :
    disksNamed diskRow ⟨"/sys/block"⟩ ["md0", "sda", "sdb", "sdc"] = rowDisks := by
  have names : (["md0", "sda", "sdb", "sdc"].mergeSort fun a b => decide (a ≤ b)) =
      ["md0", "sda", "sdb", "sdc"] := List.mergeSort_of_pairwise (by decide)
  have sizes : ["md0", "sda", "sdb", "sdc"].map (fun name =>
      capacity diskRow ((⟨"/sys/block"⟩ : Path).child name)) = [0, 1048576, 1048576, 1048576] := by
    decide
  have moving : ∀ name ∈ ["md0", "sda", "sdb", "sdc"],
      isRotational diskRow ((⟨"/sys/block"⟩ : Path).child name) = true := by decide
  have array : members diskRow ⟨"/sys/block"⟩ "md0" = ["md0"] :=
    members_diskRow_of_unheld (by decide) (by decide)
  have mounted : members diskRow ⟨"/sys/block"⟩ "sda" = ["sda", "sda1"] :=
    members_diskRow_of_unheld (by decide) (by decide)
  have foreign : members diskRow ⟨"/sys/block"⟩ "sdb" = ["sdb"] :=
    members_diskRow_of_unheld (by decide) (by decide)
  simp only [List.map_cons, List.map_nil, List.cons.injEq, and_true] at sizes
  simp only [List.forall_mem_cons] at moving
  simp only [disksNamed, names, rowDisks, List.map_cons, List.map_nil, disk, sizes, moving,
    array, mounted, foreign, members_diskRow_of_held]

theorem unprotected_rowDisks : unprotectedDisks {} ["sda1"] rowAnswer rowDisks =
    [⟨"sdc", 1048576, true, ["sdc", "sdc1", "md0"]⟩] := by decide

theorem looks_rowDisks : looks {} ["sda1"] rowDisks =
    [.command ⟨.blkid, ["-o", "export", "/dev/sdb"]⟩,
      .command ⟨.blkid, ["-o", "export", "/dev/sdc"]⟩] := by decide

theorem erase_rowDisks : eraseLists {} ["sda1"] rowAnswer rowDisks =
      [[⟨.mkfsExt4, ["-F", "-E", "discard", "/dev/sdc"]⟩,
        ⟨.dd, ["if=/dev/zero", "bs=1M", "count=1", "conv=fsync", "of=/dev/sdc"]⟩,
        ⟨.dd, ["if=/dev/zero", "bs=4096", "count=256", "conv=fsync", "of=/dev/sdc"]⟩]] := by
  rw [eraseLists, unprotected_rowDisks]
  decide

theorem outcome_rowDisks : (⟨"sdc", 1048576, true, ["sdc", "sdc1", "md0"]⟩ : BlockDisk).eraseOutcome
    rowAnswer 4096 = .ok .overwritten := by
  decide

theorem wipeDisks_accounted_diskRow : machineRow.Steady rowAnswer ∧
    ∃ summary, (wipeDisks {} machineRow ⟨diskRow, [], []⟩).1 = .ok summary ∧
      (wipeDisks {} machineRow ⟨diskRow, [], []⟩).2.events =
        [.command ⟨.blkid, ["-o", "export", "/dev/sdb"]⟩,
          .command ⟨.blkid, ["-o", "export", "/dev/sdc"]⟩,
          .command ⟨.mkfsExt4, ["-F", "-E", "discard", "/dev/sdc"]⟩,
          .command ⟨.dd, ["if=/dev/zero", "bs=1M", "count=1", "conv=fsync", "of=/dev/sdc"]⟩,
          .command ⟨.dd, ["if=/dev/zero", "bs=4096", "count=256", "conv=fsync", "of=/dev/sdc"]⟩] ∧
      ("/dev/sdc", .overwritten) ∈ summary.wiped ∧ summary.failed = [] ∧
      ⟨"/dev/md0", .ignoredPrefix "md"⟩ ∈ summary.kept ∧
      ⟨"/dev/sda", .backsLiveMount "/dev/sda1"⟩ ∈ summary.kept ∧
      ⟨"/dev/sdb", .foreignArrayMember⟩ ∈ summary.kept := by
  have steady : machineRow.Steady rowAnswer := Machine.steady_ofAnswers _ _
  have live : machineRow.liveNames "36 25 8:1 / / rw,relatime - ext4 /dev/sda1 rw\n" = ["sda1"] := by
    decide +kernel
  refine ⟨steady, ?_⟩
  have ends := (wipeDisks_accounted {} machineRow ⟨diskRow, [], []⟩ rowAnswer steady).1.readable _ _
    readText_diskRow list_diskRow
  rw [live, disksNamed_diskRow] at ends
  generalize wipeDisks {} machineRow ⟨diskRow, [], []⟩ = run at ends ⊢
  obtain ⟨r, w'⟩ := run
  cases ends with
  | unstarted busy h => cases h
  | @attempted work summary _ started events account =>
    have interleaved := account.interleaved
    rw [erase_rowDisks] at interleaved
    rw [looks_rowDisks, interleaved.eq_of_single] at events
    have own := mem_unprotectedDisks.1 (unprotected_rowDisks ▸ List.mem_singleton_self _)
    refine ⟨summary, rfl, events, (account.wiped _ _).2 ⟨_, own.1, own.2, rfl, outcome_rowDisks⟩, ?_,
      (account.kept _ _).2 ⟨⟨"md0", 0, true, ["md0"]⟩, by decide, rfl, ?_⟩,
      (account.kept _ _).2 ⟨⟨"sda", 1048576, true, ["sda", "sda1"]⟩, by decide, rfl, ?_⟩,
      (account.kept _ _).2 ⟨⟨"sdb", 1048576, true, ["sdb"]⟩, by decide, rfl, ?_⟩⟩
    · refine List.eq_nil_iff_forall_not_mem.2 fun entry mem => ?_
      obtain ⟨disk, listed, free, -, failed⟩ := (account.failed entry.1 entry.2).1 mem
      have same := mem_unprotectedDisks.2 ⟨listed, free⟩
      rw [unprotected_rowDisks, List.mem_singleton] at same
      rw [same] at failed
      cases outcome_rowDisks.symm.trans failed
    · exact BlockDisk.keptFor_of_reason?_eq_some (by decide)
    · exact BlockDisk.keptFor_of_reason?_eq_some (by decide)
    · exact .foreignArrayMember (by decide) (BlockDisk.showsForeignArray_iff.1 (by decide))

end DiskRow

end NodeStorage
