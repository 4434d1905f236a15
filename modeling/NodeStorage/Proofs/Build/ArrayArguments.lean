import NodeStorage.Build.Devices
import NodeStorage.Proofs.Plan.Validity
import NodeStorage.Proofs.Text.Division

/-! The arguments that make an array. Between the name of the array and the options that the layout hands
on stand the flags that are made here; the members come last. In an accepted layout the numbers of active
members and of spares that these flags give make up all members, and at least one is active. -/

namespace NodeStorage

open Text

namespace ArrayPlan

/-- The flags made for an array: how many of its members are active and how many are spares, and whether
the first synchronisation is left out. -/
structure Assembles (array : ArrayPlan) (own : List String) (active spare : Nat) : Prop where
  tool : array.createCommand.tool = .mdadm
  arguments : array.createCommand.args =
    ["--create", array.name] ++ own ++ array.options ++ array.devices
  values : own.filterMap (divide "=") =
    [("--level", array.level), ("--raid-devices", decimal active), ("--homehost", "any")] ++
      if spare = 0 then [] else [("--spare-devices", decimal spare)]
  clean : "--assume-clean" ∈ own ↔ trim array.level ∈ ["0", "1", "raid0", "raid1"]
  some_active : 1 ≤ active
  members : active + spare = array.devices.length

theorem trim_eq_iff {s t : String} : trim s = t ↔ trimChars s.toList = t.toList := by
  rw [← String.toList_inj, toList_trim]

theorem plainLevel_eq_iff (level : String) {digit : Char} (other : digit ≠ 'r') :
    plainLevel level = [digit] ↔ trimChars level.toList = [digit] ∨
      trimChars level.toList = "raid".toList ++ [digit] := by
  rw [plainLevel]
  by_cases led : "raid".toList.isPrefixOf (trimChars level.toList) = true
  · obtain ⟨rest, whole⟩ := List.isPrefixOf_iff_prefix.1 led
    have length : "raid".length = "raid".toList.length := rfl
    have single : "raid".toList ++ rest ≠ [digit] := fun same => other (List.cons.inj same).1.symm
    rw [if_pos led, ← whole, length, List.drop_left, List.append_right_inj]
    exact (or_iff_right single).symm
  · rw [if_neg led]
    refine (or_iff_left fun same => led ?_).symm
    rw [same]
    exact List.isPrefixOf_iff_prefix.2 (List.prefix_append _ _)

theorem skipsFirstResync_iff {level : String} : skipsFirstResync level = true ↔
    trim level ∈ ["0", "1", "raid0", "raid1"] := by
  have striped : "raid0".toList = "raid".toList ++ ['0'] := rfl
  have one : "raid1".toList = "raid".toList ++ ['1'] := rfl
  rw [skipsFirstResync, Bool.or_eq_true, beq_iff_eq, beq_iff_eq, plainLevel_eq_iff level (by decide),
    plainLevel_eq_iff level (by decide), or_or_or_comm, or_assoc]
  simp only [List.mem_cons, List.not_mem_nil, or_false, trim_eq_iff, striped, one]
  rfl

def cleanFlag (array : ArrayPlan) : List String :=
  if skipsFirstResync array.level then ["--assume-clean"] else []

def spareFlag (array : ArrayPlan) : List String :=
  if array.spares.toNat = 0 then [] else ["--spare-devices=" ++ decimal array.spares.toNat]

def ownFlags (array : ArrayPlan) : List String :=
  ["--force", "--run", "--level=" ++ array.level, "--raid-devices=" ++ decimal array.activeDevices,
    "--homehost=any"] ++ array.cleanFlag ++ array.spareFlag

theorem createCommand_eq (array : ArrayPlan) : array.createCommand =
    ⟨.mdadm, ["--create", array.name] ++ array.ownFlags ++ array.options ++ array.devices⟩ := by
  have spare : (if decide (0 < array.spares.toNat) = true then
      ["--spare-devices=" ++ decimal array.spares.toNat] else []) = array.spareFlag := by
    by_cases unspared : array.spares.toNat = 0
    · rw [spareFlag, if_pos unspared, if_neg (by simp [unspared])]
    · rw [spareFlag, if_neg unspared, if_pos (by simp [Nat.pos_of_ne_zero unspared])]
  simp [createCommand, Draft.flagIf_eq, Draft.start, Draft.addFlags, Draft.flag, Draft.addOperands,
    Draft.build, ownFlags, cleanFlag, ← spare]

theorem values_ownFlags (array : ArrayPlan) : array.ownFlags.filterMap (divide "=") =
    [("--level", array.level), ("--raid-devices", decimal array.activeDevices), ("--homehost", "any")] ++
      if array.spares.toNat = 0 then [] else [("--spare-devices", decimal array.spares.toNat)] := by
  have level : divide "=" ("--level=" ++ array.level) = some ("--level", array.level) :=
    divide_append "--level" array.level (by decide)
  have active (n : Nat) : divide "=" ("--raid-devices=" ++ decimal n) =
      some ("--raid-devices", decimal n) := divide_append "--raid-devices" (decimal n) (by decide)
  have spare (n : Nat) : divide "=" ("--spare-devices=" ++ decimal n) =
      some ("--spare-devices", decimal n) := divide_append "--spare-devices" (decimal n) (by decide)
  have clean : array.cleanFlag.filterMap (divide "=") = [] := by
    unfold cleanFlag
    split <;> rfl
  have others : divide "=" "--force" = none ∧ divide "=" "--run" = none ∧
      divide "=" "--homehost=any" = some ("--homehost", "any") := by decide
  rw [ownFlags, spareFlag, List.filterMap_append, List.filterMap_append, clean]
  split <;> simp [others, level, active, spare]

theorem valued_ne_clean (name value : String) (plain : '=' ∉ name.toList) :
    name ++ "=" ++ value ≠ "--assume-clean" := by
  intro same
  have undivided : divide "=" "--assume-clean" = none := by decide
  rw [← same, divide_append name value plain] at undivided
  cases undivided

theorem clean_mem_ownFlags (array : ArrayPlan) : "--assume-clean" ∈ array.ownFlags ↔
    trim array.level ∈ ["0", "1", "raid0", "raid1"] := by
  have level : "--level=" ++ array.level ≠ "--assume-clean" :=
    valued_ne_clean "--level" array.level (by decide)
  have active : "--raid-devices=" ++ decimal array.activeDevices ≠ "--assume-clean" :=
    valued_ne_clean "--raid-devices" _ (by decide)
  have spare : "--assume-clean" ∉ array.spareFlag := by
    unfold spareFlag
    split
    · exact List.not_mem_nil
    · exact fun mem => valued_ne_clean "--spare-devices" _ (by decide) (List.mem_singleton.1 mem).symm
  rw [← skipsFirstResync_iff, ownFlags, List.mem_append, List.mem_append, or_iff_left spare, cleanFlag]
  split
  · next skips => simp [skips]
  · next syncs => simp [syncs, level.symm, active.symm]

theorem Valid.assembles {array : ArrayPlan} (valid : array.Valid) :
    array.Assembles array.ownFlags array.activeDevices array.spares.toNat where
  tool := by rw [array.createCommand_eq]
  arguments := by rw [array.createCommand_eq]
  values := array.values_ownFlags
  clean := array.clean_mem_ownFlags
  some_active := Nat.sub_pos_of_lt valid.spares
  members := array.activeDevices_add_spares (Nat.le_of_lt valid.spares)

end ArrayPlan

/-- The command that makes an array of an accepted layout: its own flags give at least one active member,
and with the planned spares all members; they leave the first synchronisation out just for the levels
that hold no parity. -/
theorem arrays_assembled (layout : Layout) (accepted : layout.validate = .ok ()) :
    ∀ array ∈ layout.arrays, ∃ own active, array.Assembles own active array.spares.toNat := by
  intro array mem
  have valid := layout.fault?_spec.1 (layout.validate_eq_ok_iff.1 accepted)
  exact ⟨_, _, (valid.arrays array mem).assembles⟩

def mirrorAndParity : Layout where
  arrays :=
    [{ name := "/dev/md0", level := " raid1", devices := ["/dev/sda1", "/dev/sdb1", "/dev/sdc1"],
       spares := 1 },
      { name := "/dev/md1", level := "5", devices := ["/dev/sda2", "/dev/sdb2", "/dev/sdc2"],
        options := ["--assume-clean", "--raid-devices=2"] }]

theorem arrays_assembled_mirrorAndParity : mirrorAndParity.validate = .ok () ∧
    (∃ mirror ∈ mirrorAndParity.arrays, ∃ own, mirror.Assembles own 2 1 ∧ "--assume-clean" ∈ own) ∧
    ∃ parity ∈ mirrorAndParity.arrays, ∃ own, parity.Assembles own 3 0 ∧ "--assume-clean" ∉ own := by
  have accepted : mirrorAndParity.validate = .ok () := by decide
  refine ⟨accepted, ⟨_, List.mem_cons_self, ?_⟩, _, List.mem_cons_of_mem _ List.mem_cons_self, ?_⟩
  · obtain ⟨own, active, assembled⟩ :=
      arrays_assembled mirrorAndParity accepted _ List.mem_cons_self
    obtain rfl : active = 2 := Nat.add_right_cancel assembled.members
    exact ⟨own, assembled, assembled.clean.2 (by decide)⟩
  · obtain ⟨own, active, assembled⟩ :=
      arrays_assembled mirrorAndParity accepted _ (List.mem_cons_of_mem _ List.mem_cons_self)
    obtain rfl : active = 3 := assembled.members
    exact ⟨own, assembled, mt assembled.clean.1 (by decide)⟩

end NodeStorage
