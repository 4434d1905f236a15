import Mathlib.Data.List.Basic
import NodeStorage.Text.Numeral

/-! Numbers read back from the digits they are written in, and globally unique identifiers described by
the parts of their text. The texts that are read as identifiers are those of the four forms and no
others. -/

namespace NodeStorage.Text

theorem decimalValue_toDigits (n : Nat) : decimalValue (Nat.toDigits 10 n) = n :=
  Nat.ofDigitChars_toDigits (by decide) (by decide)

theorem isDigit_of_mem_toDigits {n : Nat} {c : Char} (h : c ∈ Nat.toDigits 10 n) :
    isDigit c = true := by
  have digit := Nat.isDigit_of_mem_toDigits (by decide) (by decide) h
  simpa [isDigit, Char.isDigit, Char.le_def] using digit

theorem numeralDigits_toDigits (n : Nat) : numeralDigits (Nat.toDigits 10 n) = Nat.toDigits 10 n := by
  unfold numeralDigits
  split
  · next rest same =>
    have digit : isDigit '+' = true := isDigit_of_mem_toDigits (n := n) (by rw [same]; simp)
    exact absurd digit (by decide)
  · rfl

theorem numeral?_decimal {greatest n : Nat} (h : n ≤ greatest) :
    numeral? greatest (decimal n) = some n := by
  have digits : (Nat.toDigits 10 n).all isDigit = true :=
    List.all_eq_true.2 fun _ mem => isDigit_of_mem_toDigits mem
  have nonempty : (Nat.toDigits 10 n).isEmpty = false :=
    List.isEmpty_eq_false_iff.2 Nat.toDigits_ne_nil
  simp [numeral?, decimal, numeralDigits_toDigits, digits, nonempty, decimalValue_toDigits, h]

theorem toDigits_eq_zero_cons {n : Nat} {rest : List Char} (h : Nat.toDigits 10 n = '0' :: rest) :
    rest = [] := by
  induction n using Nat.strongRecOn generalizing rest with
  | _ n ih =>
    by_cases small : n < 10
    · rw [Nat.toDigits_of_lt_base small] at h
      exact (List.cons.inj h).2.symm
    · rw [Nat.toDigits_of_base_le (by decide) (Nat.le_of_not_lt small)] at h
      rcases List.append_eq_cons_iff.1 h with ⟨empty, -⟩ | ⟨later, front, rfl⟩
      · exact absurd empty Nat.toDigits_ne_nil
      · have alone := ih (n / 10) (by omega) front
        have front_value := decimalValue_toDigits (n / 10)
        rw [front, alone] at front_value
        have zero_value : decimalValue ['0'] = 0 := by decide
        omega

def IsHexadecimal (c : Char) : Prop :=
  ('0' ≤ c ∧ c ≤ '9') ∨ ('a' ≤ c ∧ c ≤ 'f') ∨ ('A' ≤ c ∧ c ≤ 'F')

theorem isHexDigit_iff {c : Char} : isHexDigit c = true ↔ IsHexadecimal c := by
  unfold isHexDigit hexValue? IsHexadecimal
  by_cases decimal : '0' ≤ c ∧ c ≤ '9'
  · simp [isDigit, decimal]
  · by_cases small : 'a' ≤ c ∧ c ≤ 'f'
    · simp [isDigit, decimal, small]
    · simp [isDigit, decimal, small]

/-- Groups of 8, 4, 4, 4 and 12 hexadecimal digits with a hyphen between each two. -/
def IsGrouped (cs : List Char) : Prop :=
  ∃ groups : List (List Char), groups.map List.length = [8, 4, 4, 4, 12] ∧
    (∀ group ∈ groups, ∀ c ∈ group, IsHexadecimal c) ∧ cs = ['-'].intercalate groups

/-- The four forms of an identifier. The library that reads them is assumed to take the mark of the
last form in either case, so that `URN:UUID:` counts as `urn:uuid:`. -/
inductive GuidText : List Char → Prop where
  | plain {cs : List Char} (length : cs.length = 32) (digits : ∀ c ∈ cs, IsHexadecimal c) :
      GuidText cs
  | grouped {cs : List Char} (h : IsGrouped cs) : GuidText cs
  | braced {cs : List Char} (h : IsGrouped cs) : GuidText ('\x7b' :: (cs ++ ['\x7d']))
  | marked {mark cs : List Char} (reads : mark.map Char.toLower = guidMark) (h : IsGrouped cs) :
      GuidText (mark ++ cs)

theorem isPlainGuid_iff {cs : List Char} :
    isPlainGuid cs = true ↔ cs.length = 32 ∧ ∀ c ∈ cs, IsHexadecimal c := by
  simp [isPlainGuid, isHexDigit_iff]

theorem isGroupedGuid_iff {cs : List Char} : isGroupedGuid cs = true ↔ IsGrouped cs := by
  have digits : ∀ groups : List (List Char), (groups.all (·.all isHexDigit)) = true ↔
      ∀ group ∈ groups, ∀ c ∈ group, IsHexadecimal c := by
    intro groups
    simp [isHexDigit_iff]
  unfold isGroupedGuid IsGrouped
  rw [Bool.and_eq_true, beq_iff_eq, digits]
  constructor
  · intro h
    exact ⟨cs.splitOn '-', h.1, h.2, (List.intercalate_splitOn '-').symm⟩
  · rintro ⟨groups, lengths, all, rfl⟩
    have plain : ∀ group ∈ groups, '-' ∉ group := by
      intro group mem hyphen
      exact absurd (all group mem '-' hyphen) (by unfold IsHexadecimal; decide)
    have nonempty : groups ≠ [] := by
      rintro rfl
      simp at lengths
    rw [List.splitOn_intercalate '-' plain nonempty]
    exact ⟨lengths, all⟩

theorem isBracedGuid_iff {cs : List Char} :
    isBracedGuid cs = true ↔ ∃ body, cs = '\x7b' :: (body ++ ['\x7d']) ∧ IsGrouped body := by
  constructor
  · intro h
    match cs with
    | [] => simp [isBracedGuid] at h
    | c :: rest =>
      unfold isBracedGuid at h
      split at h
      · next tail same =>
        obtain ⟨rfl, rfl⟩ := List.cons.inj same
        rw [Bool.and_eq_true, beq_iff_eq, isGroupedGuid_iff] at h
        refine ⟨rest.dropLast, ?_, h.2⟩
        rw [List.dropLast_append_getLast? _ (Option.mem_def.2 h.1)]
      · simp at h
  · rintro ⟨body, rfl, h⟩
    simp [isBracedGuid, isGroupedGuid_iff.2 h]

theorem isMarkedGuid_iff {cs : List Char} : isMarkedGuid cs = true ↔
    ∃ mark body, cs = mark ++ body ∧ mark.map Char.toLower = guidMark ∧ IsGrouped body := by
  unfold isMarkedGuid
  rw [Bool.and_eq_true, beq_iff_eq, isGroupedGuid_iff]
  constructor
  · intro h
    exact ⟨_, _, (List.take_append_drop guidMark.length cs).symm, h⟩
  · rintro ⟨mark, body, rfl, reads, h⟩
    have length : guidMark.length = mark.length := by rw [← reads, List.length_map]
    rw [length, List.take_left, List.drop_left]
    exact ⟨reads, h⟩

theorem isGuid_iff {s : String} : isGuid s = true ↔ GuidText s.toList := by
  simp only [isGuid, Bool.or_eq_true, isPlainGuid_iff, isGroupedGuid_iff, isBracedGuid_iff,
    isMarkedGuid_iff]
  generalize s.toList = cs
  constructor
  · rintro (((⟨length, digits⟩ | h) | ⟨body, same, h⟩) | ⟨mark, body, same, reads, h⟩)
    · exact .plain length digits
    · exact .grouped h
    · exact same ▸ .braced h
    · exact same ▸ .marked reads h
  · intro h
    cases h with
    | plain length digits => exact .inl (.inl (.inl ⟨length, digits⟩))
    | grouped h => exact .inl (.inl (.inr h))
    | braced h => exact .inl (.inr ⟨_, rfl, h⟩)
    | marked reads h => exact .inr ⟨_, _, rfl, reads, h⟩

end NodeStorage.Text
