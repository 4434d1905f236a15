import NodeStorage.Command

/-! What is added to a draft, and where it stands in the command. Each addition gives flags or operands
and leaves the others as they are, so that the command depends on the flags in their order and on the
operands in theirs, but not on how the additions were mixed. -/

namespace NodeStorage

namespace Draft

namespace Addition

def isOfFlags : Addition → Bool
  | flag _ | flags _ | flagIf _ _ => true
  | operand _ | operands _ => false

def givenFlags : Addition → List String
  | flag s => [s]
  | flags ss => ss
  | flagIf condition s => if condition then [s] else []
  | operand _ | operands _ => []

def givenOperands : Addition → List String
  | flag _ | flags _ | flagIf _ _ => []
  | operand s => [s]
  | operands ss => ss

theorem givenFlags_eq_nil {a : Addition} (h : a.isOfFlags = false) : a.givenFlags = [] := by
  cases a with
  | operand s => rfl
  | operands ss => rfl
  | _ => cases h

theorem givenOperands_eq_nil {a : Addition} (h : a.isOfFlags = true) : a.givenOperands = [] := by
  cases a with
  | operand s => cases h
  | operands ss => cases h
  | _ => rfl

end Addition

theorem add_eq (d : Draft) (a : Addition) :
    d.add a = ⟨d.tool, d.flags ++ a.givenFlags, d.operands ++ a.givenOperands⟩ := by
  cases a with
  | flagIf condition s => simp [add, flagIf_eq, addFlags, Addition.givenFlags, Addition.givenOperands]
  | _ => simp [add, flag, addFlags, operand, addOperands, Addition.givenFlags, Addition.givenOperands]

theorem foldl_add (d : Draft) (additions : List Addition) :
    additions.foldl add d = ⟨d.tool, d.flags ++ additions.flatMap Addition.givenFlags,
      d.operands ++ additions.flatMap Addition.givenOperands⟩ := by
  induction additions generalizing d with
  | nil => simp
  | cons a later ih =>
    rw [List.foldl_cons, ih, add_eq]
    simp only [List.flatMap_cons, List.append_assoc]

theorem build_ofAdditions (tool : Tool) (additions : List Addition) :
    (ofAdditions tool additions).build = ⟨tool, additions.flatMap Addition.givenFlags ++
      additions.flatMap Addition.givenOperands⟩ := by
  rw [ofAdditions, foldl_add]
  rfl

end Draft

theorem flatMap_filter_of_nil {α β : Type} {f : α → List β} {p : α → Bool} {items : List α}
    (nothing : ∀ a ∈ items, p a = false → f a = []) : (items.filter p).flatMap f = items.flatMap f := by
  induction items with
  | nil => rfl
  | cons a rest ih =>
    obtain ⟨own, others⟩ := List.forall_mem_cons.1 nothing
    cases kept : p a with
    | true => rw [List.filter_cons_of_pos kept, List.flatMap_cons, List.flatMap_cons, ih others]
    | false =>
      rw [List.filter_cons_of_neg (by simp [kept]), List.flatMap_cons, own kept, List.nil_append,
        ih others]

open Draft in
/-- A command has all flags before all operands, each in the order in which they were added; additions
of flags and additions of operands can be mixed in any way. -/
theorem flags_before_operands (tool : Tool) (additions : List Addition) :
    (ofAdditions tool additions).build = ⟨tool, additions.flatMap Addition.givenFlags ++
        additions.flatMap Addition.givenOperands⟩ ∧
      ∀ others : List Addition,
        others.filter (·.isOfFlags) = additions.filter (·.isOfFlags) →
        others.filter (!·.isOfFlags) = additions.filter (!·.isOfFlags) →
        (ofAdditions tool others).build = (ofAdditions tool additions).build := by
  refine ⟨build_ofAdditions tool additions, fun others sameFlags sameOperands => ?_⟩
  have flags (steps : List Addition) :
      (steps.filter (·.isOfFlags)).flatMap Addition.givenFlags = steps.flatMap Addition.givenFlags :=
    flatMap_filter_of_nil fun _ _ => Addition.givenFlags_eq_nil
  have operands (steps : List Addition) : (steps.filter (!·.isOfFlags)).flatMap
      Addition.givenOperands = steps.flatMap Addition.givenOperands :=
    flatMap_filter_of_nil fun _ _ other => Addition.givenOperands_eq_nil (by simpa using other)
  rw [build_ofAdditions, build_ofAdditions, ← flags others, ← operands others, sameFlags, sameOperands,
    flags, operands]

def mixedMirror : List Draft.Addition :=
  [.operand "/dev/sda1", .flags ["--create", "/dev/md0"], .operands ["/dev/sdb1", "/dev/sdc1"],
    .flagIf false "--assume-clean", .flag "--force", .operand "/dev/sdd1"]

def orderedMirror : List Draft.Addition :=
  [.flags ["--create", "/dev/md0"], .flagIf false "--assume-clean", .flag "--force",
    .operand "/dev/sda1", .operands ["/dev/sdb1", "/dev/sdc1"], .operand "/dev/sdd1"]

theorem flags_before_operands_mirror :
    (Draft.ofAdditions .mdadm mixedMirror).build = (Draft.ofAdditions .mdadm orderedMirror).build ∧
      (Draft.ofAdditions .mdadm mixedMirror).build.args = ["--create", "/dev/md0", "--force",
        "/dev/sda1", "/dev/sdb1", "/dev/sdc1", "/dev/sdd1"] := by
  have same := (flags_before_operands .mdadm orderedMirror).2 mixedMirror (by decide) (by decide)
  exact ⟨same, by rw [(flags_before_operands .mdadm mixedMirror).1]; decide⟩

end NodeStorage
