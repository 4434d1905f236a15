import Mathlib.Data.List.TakeWhile
import NodeStorage.Json.Reader
import NodeStorage.Json.Text
import NodeStorage.Proofs.Text.Numeral

/-! Integers and strings read back from the JSON text that they are written as. What follows the digits of
an integer must not go on with the number. -/

namespace NodeStorage.Json

open Text

def EndsNumber (rest : List Char) : Prop :=
  ∀ c ∈ rest.head?, isDigit c = false ∧ c ≠ '.' ∧ c ≠ 'e' ∧ c ≠ 'E'

theorem le_foldl_digits (n : Nat) (ds : List Char) :
    n ≤ ds.foldl (fun n c => 10 * n + digitValue c) n := by
  induction ds generalizing n with
  | nil => exact Nat.le_refl n
  | cons d ds ih =>
    have next := ih (10 * n + digitValue d)
    rw [List.foldl_cons]
    omega

theorem absorb_of_lt {n : Nat} {ds : List Char}
    (h : ds.foldl (fun n c => 10 * n + digitValue c) n < Nat.pow 2 64) :
    absorb n ds = (ds.foldl (fun n c => 10 * n + digitValue c) n, []) := by
  induction ds generalizing n with
  | nil => rfl
  | cons d ds ih =>
    have fits := Nat.lt_of_le_of_lt (le_foldl_digits (10 * n + digitValue d) ds) h
    rw [absorb, if_pos fits, ih h]
    rfl

theorem absorb_toDigits {n : Nat} (h : n < Nat.pow 2 64) : absorb 0 (Nat.toDigits 10 n) = (n, []) := by
  have value : (Nat.toDigits 10 n).foldl (fun n c => 10 * n + digitValue c) 0 = n :=
    decimalValue_toDigits n
  rw [absorb_of_lt (value.symm ▸ h), value]

theorem span_digits {ds rest : List Char} (digits : ∀ c ∈ ds, isDigit c = true)
    (ends : EndsNumber rest) :
    (ds ++ rest).takeWhile isDigit = ds ∧ (ds ++ rest).dropWhile isDigit = rest := by
  rw [List.takeWhile_append_of_pos digits, List.dropWhile_append_of_pos digits]
  cases rest with
  | nil => simp
  | cons c rest => simp [(ends c rfl).1]

theorem wholeDigits_toDigits (n : Nat) {rest : List Char} (ends : EndsNumber rest) :
    wholeDigits (Nat.toDigits 10 n ++ rest) = some (Nat.toDigits 10 n, rest) := by
  obtain ⟨taken, remains⟩ := span_digits (fun _ => isDigit_of_mem_toDigits (n := n)) ends
  rw [wholeDigits, taken, remains]
  split
  · next empty => exact absurd empty Nat.toDigits_ne_nil
  · next alone => rw [alone]
  · next d ds notZero same =>
    have leading : d ≠ '0' := by
      rintro rfl
      exact notZero rfl (toDigits_eq_zero_cons same)
    rw [if_neg leading, same]

theorem fractionDigits_of_ends {rest : List Char} (ends : EndsNumber rest) :
    fractionDigits rest = some (none, rest) := by
  unfold fractionDigits
  split
  · exact absurd rfl (ends '.' rfl).2.1
  · rfl

theorem exponentValue_of_ends {rest : List Char} (ends : EndsNumber rest) :
    exponentValue rest = some (none, rest) := by
  cases rest with
  | nil => rfl
  | cons c rest =>
    obtain ⟨-, -, small, capital⟩ := ends c rfl
    rw [exponentValue, if_neg (not_or.2 ⟨small, capital⟩)]

theorem unsignedNumber_toDigits {n : Nat} (h : n < Nat.pow 2 64) (negative : Bool) {rest : List Char}
    (ends : EndsNumber rest) : unsignedNumber negative (Nat.toDigits 10 n ++ rest) =
      some (wholeNumber negative n, rest) := by
  simp [unsignedNumber, wholeDigits_toDigits n ends, fractionDigits_of_ends ends,
    exponentValue_of_ends ends, absorb_toDigits h]

theorem number_of_digit {c : Char} (digit : isDigit c = true) (rest : List Char) :
    number (c :: rest) = unsignedNumber false (c :: rest) := by
  unfold number
  split
  · next same =>
    obtain ⟨rfl, -⟩ := List.cons.inj same
    exact absurd digit (by decide)
  · rfl

theorem number_signedDecimal {n : Int} (least : -Nat.pow 2 63 ≤ n) (greatest : n < Nat.pow 2 64)
    {rest : List Char} (ends : EndsNumber rest) :
    number ((signedDecimal n).toList ++ rest) = some (.integer n, rest) := by
  cases n with
  | ofNat n =>
    have small : n < Nat.pow 2 64 := Int.ofNat_lt.1 greatest
    have read := unsignedNumber_toDigits small false ends
    obtain ⟨d, ds, same⟩ := List.exists_cons_of_ne_nil (Nat.toDigits_ne_nil (b := 10) (n := n))
    have digit : isDigit d = true := isDigit_of_mem_toDigits (n := n) (by rw [same]; simp)
    rw [same] at read
    simp only [signedDecimal, decimal, String.toList_ofList, same]
    rw [List.cons_append, number_of_digit digit, ← List.cons_append, read]
    rfl
  | negSucc n =>
    have low : n + 1 ≤ Nat.pow 2 63 := by omega
    have small : n + 1 < Nat.pow 2 64 := by
      have wider : Nat.pow 2 63 < Nat.pow 2 64 := by decide
      omega
    have read := unsignedNumber_toDigits small true ends
    have text : (signedDecimal (.negSucc n)).toList ++ rest =
        '-' :: (Nat.toDigits 10 (n + 1) ++ rest) := by
      simp [signedDecimal, decimal]
    have value : wholeNumber true (n + 1) = .integer (.negSucc n) := by
      rw [wholeNumber, if_pos rfl, if_pos ⟨Nat.succ_pos n, low⟩, Int.negSucc_eq]
      rfl
    rw [text, ← value]
    exact read

theorem hexValue?_hexDigit : ∀ d < 16, hexValue? (hexDigit d) = some d := by decide

theorem codeUnit?_written {c : Char} (h : c.toNat < 0x20) (rest : List Char) :
    codeUnit? ('0' :: '0' :: hexDigit (c.toNat / 16) :: hexDigit (c.toNat % 16) :: rest) =
      some (c, rest) := by
  have naught : hexValue? '0' = some 0 := by decide
  have high := hexValue?_hexDigit (c.toNat / 16) (by omega)
  have low := hexValue?_hexDigit (c.toNat % 16) (by omega)
  have number : hexNumber? 4 0
      ('0' :: '0' :: hexDigit (c.toNat / 16) :: hexDigit (c.toNat % 16) :: rest) =
        some (c.toNat, rest) := by
    simp only [hexNumber?, naught, high, low, Option.bind_some]
    rw [show 16 * (16 * (16 * (16 * 0 + 0) + 0) + c.toNat / 16) + c.toNat % 16 = c.toNat by omega]
  have notHigh : isHighHalf c.toNat = false := by
    simp [isHighHalf]
    omega
  have notLow : isLowHalf c.toNat = false := by
    simp [isLowHalf]
    omega
  rw [codeUnit?, number]
  simp [notHigh, notLow, Char.ofNat_toNat]

theorem textBody?_quote (rest : List Char) : textBody? ('"' :: rest) = some ([], rest) := by
  rw [textBody?, if_pos rfl]

theorem textBody?_escaped {escape after : List Char} {c : Char} (h : escaped? escape = some (c, after)) :
    textBody? ('\\' :: escape) = (textBody? after).map fun (body, tail) => (c :: body, tail) := by
  rw [textBody?, if_neg (by decide), if_pos rfl]
  split
  · next missed => cases missed.symm.trans h
  · next d after' found =>
    obtain ⟨rfl, rfl⟩ := Prod.mk.inj (Option.some.inj (found.symm.trans h))
    rfl

theorem textBody?_plain {c : Char} (quote : c ≠ '"') (slash : c ≠ '\\') (high : ¬ c.toNat < 0x20)
    (rest : List Char) :
    textBody? (c :: rest) = (textBody? rest).map fun (body, tail) => (c :: body, tail) := by
  rw [textBody?, if_neg quote, if_neg slash, if_neg high]

theorem writtenChar_cases (c : Char) :
    (c ≠ '"' ∧ c ≠ '\\' ∧ ¬ c.toNat < 0x20 ∧ writtenChar c = [c]) ∨
      ∃ escape, writtenChar c = '\\' :: escape ∧
        ∀ rest, escaped? (escape ++ rest) = some (c, rest) := by
  unfold writtenChar
  -- Seven characters have an escape of their own.
  iterate 7
    split
    · next h => exact .inr ⟨_, rfl, fun rest => by rw [h]; rfl⟩
  split
  · next low => exact .inr ⟨_, rfl, fun rest => codeUnit?_written low rest⟩
  · next quote slash _ _ _ _ _ high => exact .inl ⟨quote, slash, high, rfl⟩

theorem textBody?_writtenChar (c : Char) (rest : List Char) :
    textBody? (writtenChar c ++ rest) =
      (textBody? rest).map fun (body, tail) => (c :: body, tail) := by
  rcases writtenChar_cases c with ⟨quote, slash, high, same⟩ | ⟨escape, same, means⟩
  · rw [same]
    exact textBody?_plain quote slash high rest
  · rw [same]
    exact textBody?_escaped (means rest)

theorem textBody?_written (cs rest : List Char) :
    textBody? (cs.flatMap writtenChar ++ '"' :: rest) = some (cs, rest) := by
  induction cs with
  | nil => exact textBody?_quote rest
  | cons c cs ih =>
    rw [List.flatMap_cons, List.append_assoc, textBody?_writtenChar, ih]
    rfl

theorem writtenText_eq (s : String) (rest : List Char) :
    writtenText s ++ rest = '"' :: (s.toList.flatMap writtenChar ++ '"' :: rest) := by
  simp [writtenText]

end NodeStorage.Json
