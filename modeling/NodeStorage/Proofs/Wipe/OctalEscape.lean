import NodeStorage.Wipe.Choice

/-! Text in which some characters are written as octal digits: for each byte of the character a
backslash and three digits. Reading gives the text back, whichever characters are written in this
way, if only every backslash is; what follows is read as if it stood alone. Any text at all is read
from its first byte on: digits that write a byte are taken together with the backslash in front of
them, and nothing else is taken together. -/

namespace NodeStorage

open Text

namespace MountSources

def octal (b : UInt8) : List Char :=
  ['\\', Nat.digitChar (b.toNat / 64), Nat.digitChar (b.toNat / 8 % 8), Nat.digitChar (b.toNat % 8)]

def octalChar (c : Char) : List Char := (String.utf8EncodeChar c).flatMap octal

def escapeChars (chosen : Char → Bool) (cs : List Char) : List Char :=
  cs.flatMap fun c => if chosen c then octalChar c else [c]

def escape (chosen : Char → Bool) (s : String) : String := .ofList (escapeChars chosen s.toList)

def escapeCharsAt (chosen : Nat → Bool) : List Char → List Char
  | [] => []
  | c :: cs =>
    (if chosen 0 then octalChar c else [c]) ++ escapeCharsAt (fun i => chosen (i + 1)) cs

def escapeAt (chosen : Nat → Bool) (s : String) : String := .ofList (escapeCharsAt chosen s.toList)

structure IsCode (x y z : Nat) : Prop where
  first : x < 8
  second : y < 8
  third : z < 8
  fits : 64 * x + 8 * y + z ≤ 255

def codeBytes (x y z : Nat) : List UInt8 := [.ofNat (0x30 + x), .ofNat (0x30 + y), .ofNat (0x30 + z)]

def BeginsWithCode (bytes : List UInt8) : Prop :=
  ∃ x y z rest, IsCode x y z ∧ bytes = codeBytes x y z ++ rest

/-- How bytes are read, from the first of them on: a backslash either writes a byte together with the
digits behind it or stands for itself alone. -/
inductive Unescapes : List UInt8 → List UInt8 → Prop where
  | nil : Unescapes [] []
  | code {x y z : Nat} {rest out : List UInt8} (digits : IsCode x y z) (later : Unescapes rest out) :
      Unescapes (0x5C :: (codeBytes x y z ++ rest)) (.ofNat (64 * x + 8 * y + z) :: out)
  | kept {rest out : List UInt8} (free : ¬ BeginsWithCode rest) (later : Unescapes rest out) :
      Unescapes (0x5C :: rest) (0x5C :: out)
  | plain {b : UInt8} {rest out : List UInt8} (other : b ≠ 0x5C) (later : Unescapes rest out) :
      Unescapes (b :: rest) (b :: out)

variable {chosen : Char → Bool}

theorem escapeChars_append (a b : List Char) :
    escapeChars chosen (a ++ b) = escapeChars chosen a ++ escapeChars chosen b :=
  List.flatMap_append

theorem escapeChars_cons_of_false {c : Char} (h : chosen c = false) (cs : List Char) :
    escapeChars chosen (c :: cs) = c :: escapeChars chosen cs := by
  rw [escapeChars, List.flatMap_cons, h]
  rfl

theorem escapeChars_cons_of_true {c : Char} (h : chosen c = true) (cs : List Char) :
    escapeChars chosen (c :: cs) = octalChar c ++ escapeChars chosen cs := by
  rw [escapeChars, List.flatMap_cons, if_pos h]
  rfl

section Digit

variable {n : Nat} (h : n < 8)

include h

theorem utf8EncodeChar_digitChar :
    String.utf8EncodeChar (Nat.digitChar n) = [.ofNat (0x30 + n)] := by decide +revert

theorem isOctal_digit : isOctal (.ofNat (0x30 + n)) = true := by decide +revert

theorem octalValue_digit : octalValue (.ofNat (0x30 + n)) = n := by decide +revert

end Digit

theorem utf8_octal (b : UInt8) :
    utf8 (octal b) = 0x5C :: codeBytes (b.toNat / 64) (b.toNat / 8 % 8) (b.toNat % 8) := by
  have large := b.toNat_lt
  have backslash : String.utf8EncodeChar '\\' = [0x5C] := by decide
  have first := utf8EncodeChar_digitChar (n := b.toNat / 64) (by omega)
  have second := utf8EncodeChar_digitChar (n := b.toNat / 8 % 8) (by omega)
  have third := utf8EncodeChar_digitChar (n := b.toNat % 8) (by omega)
  simp only [utf8, octal, List.flatMap_cons, List.flatMap_nil, backslash, first, second, third]
  rfl

theorem octalByte?_code {x y z : Nat} (digits : IsCode x y z) :
    octalByte? (.ofNat (0x30 + x)) (.ofNat (0x30 + y)) (.ofNat (0x30 + z)) =
      some (.ofNat (64 * x + 8 * y + z)) := by
  rw [octalByte?, isOctal_digit digits.first, isOctal_digit digits.second, isOctal_digit digits.third,
    octalValue_digit digits.first, octalValue_digit digits.second, octalValue_digit digits.third]
  simp [digits.fits]

theorem digit_of_isOctal {b : UInt8} (h : isOctal b = true) :
    octalValue b < 8 ∧ b = .ofNat (0x30 + octalValue b) := by
  simp only [isOctal, Bool.and_eq_true, decide_eq_true_eq, UInt8.le_iff_toNat_le] at h
  have low : 0x30 ≤ b.toNat := h.1
  have high : b.toNat ≤ 0x37 := h.2
  refine ⟨by rw [octalValue]; omega, ?_⟩
  rw [octalValue, Nat.add_sub_cancel' low, UInt8.ofNat_toNat]

theorem exists_code_of_octalByte? {a b c byte : UInt8} (h : octalByte? a b c = some byte) :
    ∃ x y z, IsCode x y z ∧ [a, b, c] = codeBytes x y z ∧ byte = .ofNat (64 * x + 8 * y + z) := by
  simp only [octalByte?, Option.ite_none_right_eq_some, Bool.and_eq_true, decide_eq_true_eq,
    Option.some.injEq] at h
  obtain ⟨⟨⟨⟨first, second⟩, third⟩, fits⟩, value⟩ := h
  obtain ⟨x, own⟩ := digit_of_isOctal first
  obtain ⟨y, next⟩ := digit_of_isOctal second
  obtain ⟨z, last⟩ := digit_of_isOctal third
  exact ⟨_, _, _, ⟨x, y, z, fits⟩, by rw [codeBytes, ← own, ← next, ← last], value.symm⟩

theorem beginsWithCode_cons_iff {a b c : UInt8} {rest : List UInt8} :
    BeginsWithCode (a :: b :: c :: rest) ↔ (octalByte? a b c).isSome = true := by
  rw [Option.isSome_iff_exists]
  constructor
  · rintro ⟨x, y, z, later, digits, same⟩
    cases same
    exact ⟨_, octalByte?_code digits⟩
  · rintro ⟨byte, value⟩
    obtain ⟨x, y, z, digits, own, -⟩ := exists_code_of_octalByte? value
    exact ⟨x, y, z, rest, digits, by rw [← own]; rfl⟩

theorem BeginsWithCode.le_length {bytes : List UInt8} (h : BeginsWithCode bytes) :
    3 ≤ bytes.length := by
  obtain ⟨x, y, z, rest, -, rfl⟩ := h
  exact Nat.le_add_left 3 rest.length

instance : DecidablePred BeginsWithCode
  | _ :: _ :: _ :: _ => decidable_of_iff' _ beginsWithCode_cons_iff
  | [_, _] => .isFalse fun h => absurd h.le_length (by simp)
  | [_] => .isFalse fun h => absurd h.le_length (by simp)
  | [] => .isFalse fun h => absurd h.le_length (by decide)

theorem isCode_of_byte (b : UInt8) : IsCode (b.toNat / 64) (b.toNat / 8 % 8) (b.toNat % 8) := by
  have large := b.toNat_lt
  constructor <;> omega

theorem unescapeBytes_code {x y z : Nat} (digits : IsCode x y z) (rest : List UInt8) :
    unescapeBytes (0x5C :: (codeBytes x y z ++ rest)) =
      .ofNat (64 * x + 8 * y + z) :: unescapeBytes rest := by
  simp only [codeBytes, List.cons_append, List.nil_append]
  rw [unescapeBytes, octalByte?_code digits]

theorem unescapeBytes_kept {rest : List UInt8} (free : ¬ BeginsWithCode rest) :
    unescapeBytes (0x5C :: rest) = 0x5C :: unescapeBytes rest := by
  rw [unescapeBytes.eq_def]
  split
  · next a b c later same =>
    cases same
    rw [beginsWithCode_cons_iff, Bool.not_eq_true, Option.isSome_eq_false_iff,
      Option.isNone_iff_eq_none] at free
    rw [free]
  · next byte later other same =>
    cases same
    rfl
  · next same => cases same

theorem unescapeBytes_plain {b : UInt8} (other : b ≠ 0x5C) (rest : List UInt8) :
    unescapeBytes (b :: rest) = b :: unescapeBytes rest := by
  rw [unescapeBytes]
  exact fun _ _ _ _ same => absurd same other

theorem Unescapes.eq {bytes out : List UInt8} (h : Unescapes bytes out) :
    unescapeBytes bytes = out := by
  induction h with
  | nil => rfl
  | code digits _ ih => rw [unescapeBytes_code digits, ih]
  | kept free _ ih => rw [unescapeBytes_kept free, ih]
  | plain other _ ih => rw [unescapeBytes_plain other, ih]

theorem Unescapes.length_le {bytes out : List UInt8} (h : Unescapes bytes out) :
    out.length ≤ bytes.length := by
  induction h with
  | nil => exact Nat.le_refl _
  | code _ _ ih =>
    rw [List.length_cons, List.length_cons, List.length_append]
    omega
  | kept _ _ ih => exact Nat.succ_le_succ ih
  | plain _ _ ih => exact Nat.succ_le_succ ih

theorem unescapes_unescapeBytes (bytes : List UInt8) : Unescapes bytes (unescapeBytes bytes) := by
  fun_induction unescapeBytes bytes with
  | case1 a b c rest byte value ih =>
    obtain ⟨x, y, z, digits, own, rfl⟩ := exists_code_of_octalByte? value
    have read := Unescapes.code digits ih
    rwa [← own] at read
  | case2 a b c rest value ih =>
    exact .kept (by rw [beginsWithCode_cons_iff, value]; exact Bool.false_ne_true) ih
  | case3 byte rest other ih =>
    by_cases backslash : byte = 0x5C
    · subst backslash
      refine .kept (fun begins => ?_) ih
      obtain ⟨x, y, z, later, -, same⟩ := begins
      exact other _ _ _ later rfl same
    · exact .plain backslash ih
  | case4 => exact .nil

theorem unescapes_iff {bytes out : List UInt8} : Unescapes bytes out ↔ out = unescapeBytes bytes :=
  ⟨fun read => read.eq.symm, fun same => same ▸ unescapes_unescapeBytes bytes⟩

theorem unescapeBytes_octal (b : UInt8) (rest : List UInt8) :
    unescapeBytes (utf8 (octal b) ++ rest) = b :: unescapeBytes rest := by
  have value : 64 * (b.toNat / 64) + 8 * (b.toNat / 8 % 8) + b.toNat % 8 = b.toNat := by omega
  rw [utf8_octal, List.cons_append, unescapeBytes_code (isCode_of_byte b), value, UInt8.ofNat_toNat]

theorem unescapeBytes_flatMap_octal (bytes rest : List UInt8) :
    unescapeBytes (utf8 (bytes.flatMap octal) ++ rest) = bytes ++ unescapeBytes rest := by
  induction bytes with
  | nil => rfl
  | cons b later ih =>
    rw [List.flatMap_cons, utf8_append, List.append_assoc, unescapeBytes_octal, ih, List.cons_append]

theorem toNat_eq_of_mem_utf8EncodeChar {c : Char} {b : UInt8} (mem : b ∈ String.utf8EncodeChar c)
    (h : b.toNat < 0x80) : c.toNat = b.toNat := by
  have value : c.toNat = c.val.toNat := rfl
  simp only [String.utf8EncodeChar] at mem
  split at mem
  · simp only [List.mem_singleton, ← UInt8.toNat_inj, UInt8.toNat_ofNat'] at mem
    omega
  · -- All bytes of a longer character are large.
    refine absurd h (Nat.not_lt_of_le ?_)
    split at mem
    · simp only [List.mem_cons, List.not_mem_nil, or_false, ← UInt8.toNat_inj, UInt8.toNat_ofNat'] at mem
      omega
    · split at mem <;>
        simp only [List.mem_cons, List.not_mem_nil, or_false, ← UInt8.toNat_inj,
          UInt8.toNat_ofNat'] at mem <;>
        omega

theorem ne_backslash_of_mem_utf8EncodeChar {c : Char} (h : c ≠ '\\') :
    ∀ b ∈ String.utf8EncodeChar c, b ≠ 0x5C := by
  rintro b mem rfl
  exact h (Char.toNat_inj.1 (toNat_eq_of_mem_utf8EncodeChar mem (by decide)))

theorem unescapeBytes_append {bytes : List UInt8} (h : ∀ b ∈ bytes, b ≠ 0x5C) (rest : List UInt8) :
    unescapeBytes (bytes ++ rest) = bytes ++ unescapeBytes rest := by
  induction bytes with
  | nil => rfl
  | cons b later ih =>
    obtain ⟨own, others⟩ := List.forall_mem_cons.1 h
    rw [List.cons_append, unescapeBytes_plain own, ih others, List.cons_append]

theorem escape_eq_escapeAt (s : String) :
    escape chosen s = escapeAt (fun i => s.toList[i]?.any chosen) s := by
  refine congrArg String.ofList ?_
  induction s.toList with
  | nil => rfl
  | cons c rest ih =>
    rw [escapeChars, List.flatMap_cons, escapeCharsAt]
    exact congrArg (_ ++ ·) ih

theorem unescapeBytes_escapeCharsAt {places : Nat → Bool} {cs : List Char}
    (backslashes : ∀ i : Nat, cs[i]? = some '\\' → places i = true) (rest : List UInt8) :
    unescapeBytes (utf8 (escapeCharsAt places cs) ++ rest) = utf8 cs ++ unescapeBytes rest := by
  induction cs generalizing places with
  | nil => rfl
  | cons c later ih =>
    have others : ∀ i : Nat, later[i]? = some '\\' → places (i + 1) = true :=
      fun i => backslashes (i + 1)
    have parts : utf8 (c :: later) = String.utf8EncodeChar c ++ utf8 later := List.flatMap_cons
    rw [escapeCharsAt, utf8_append, List.append_assoc, parts, List.append_assoc]
    cases choice : places 0 with
    | true => rw [if_pos rfl, octalChar, unescapeBytes_flatMap_octal, ih others]
    | false =>
      have raw : c ≠ '\\' := by
        rintro rfl
        cases (backslashes 0 rfl).symm.trans choice
      have own : utf8 [c] = String.utf8EncodeChar c := List.append_nil _
      rw [if_neg Bool.false_ne_true, own,
        unescapeBytes_append (ne_backslash_of_mem_utf8EncodeChar raw), ih others]

theorem unescape_escapeAt_append {places : Nat → Bool} {s : String}
    (backslashes : ∀ i : Nat, s.toList[i]? = some '\\' → places i = true) (t : String) :
    unescape (escapeAt places s ++ t) = s ++ unescape t := by
  rw [unescape, String.toList_append, escapeAt, String.toList_ofList, utf8_append,
    unescapeBytes_escapeCharsAt backslashes, lossyChars_utf8_append, String.ofList_append,
    String.ofList_toList]
  rfl

theorem unescape_escapeAt {places : Nat → Bool} {s : String}
    (backslashes : ∀ i : Nat, s.toList[i]? = some '\\' → places i = true) :
    unescape (escapeAt places s) = s := by
  have empty : unescape "" = "" := congrArg String.ofList (lossyChars_utf8 [])
  have read := unescape_escapeAt_append backslashes ""
  rwa [empty, String.append_empty, String.append_empty] at read

theorem unescape_escape (backslash : chosen '\\' = true) (s : String) :
    unescape (escape chosen s) = s := by
  rw [escape_eq_escapeAt]
  refine unescape_escapeAt fun i place => ?_
  rw [place]
  exact backslash

theorem unescape_kept {t : String} (free : ¬ BeginsWithCode (utf8 t.toList)) :
    unescape ("\\" ++ t) = "\\" ++ unescape t := by
  have parts : utf8 ("\\" ++ t).toList = 0x5C :: utf8 t.toList := by
    rw [String.toList_append, utf8_append]
    rfl
  have read := lossyChars_utf8_append ['\\'] (unescapeBytes (utf8 t.toList))
  rw [unescape, parts, unescapeBytes_kept free]
  exact (congrArg String.ofList read).trans String.ofList_append

theorem octalChar_ne_nil (c : Char) : octalChar c ≠ [] := by
  obtain ⟨b, later, bytes⟩ := List.exists_cons_of_ne_nil (String.utf8EncodeChar_ne_nil (c := c))
  rw [octalChar, bytes, List.flatMap_cons, octal]
  exact List.cons_ne_nil _ _

theorem escapeChars_ne_nil {cs : List Char} (h : cs ≠ []) : escapeChars chosen cs ≠ [] := by
  obtain ⟨c, rest, rfl⟩ := List.exists_cons_of_ne_nil h
  cases choice : chosen c with
  | true =>
    rw [escapeChars_cons_of_true choice]
    exact List.append_ne_nil_of_left_ne_nil (octalChar_ne_nil c) _
  | false =>
    rw [escapeChars_cons_of_false choice]
    exact List.cons_ne_nil c _

theorem isBlank_of_mem_octalChar {c d : Char} (h : d ∈ octalChar c) : isBlank d = false := by
  obtain ⟨b, -, mem⟩ := List.mem_flatMap.1 h
  have digit : ∀ n < 8, isBlank (Nat.digitChar n) = false := by decide
  have large := b.toNat_lt
  simp only [octal, List.mem_cons, List.not_mem_nil, or_false] at mem
  rcases mem with rfl | rfl | rfl | rfl
  · rfl
  · exact digit _ (by omega)
  · exact digit _ (by omega)
  · exact digit _ (by omega)

/-- Text is read back whichever characters are in octal form, if all backslashes are, and nothing that
follows is read twice or differently for it. A backslash in front of no digits that write a byte stands
for itself alone. -/
theorem octal_text_read_back (s : String) (places : Nat → Bool)
    (backslashes : ∀ i : Nat, s.toList[i]? = some '\\' → places i = true) :
    unescape (escapeAt places s) = s ∧
      (∀ t, unescape (escapeAt places s ++ t) = s ++ unescape t) ∧
      (∀ t, ¬ BeginsWithCode (utf8 t.toList) →
        unescape (escapeAt places s ++ ("\\" ++ t)) = s ++ ("\\" ++ unescape t)) ∧
      ∀ t, ∃ out, unescape t = .ofList (lossyChars out) ∧
        ∀ other, Unescapes (utf8 t.toList) other ↔ other = out := by
  refine ⟨unescape_escapeAt backslashes, unescape_escapeAt_append backslashes, fun t free => ?_,
    fun t => ⟨_, rfl, fun _ => unescapes_iff⟩⟩
  rw [unescape_escapeAt_append backslashes, unescape_kept free]

/-- A name in which the backslash and one letter are in octal form, in front of digits that write no
byte. -/
theorem octal_text_read_back_accented :
    escapeAt (fun i => i ∈ [1, 5]) "a\\040é" = "a\\134040\\303\\251" ∧
      unescape "a\\134040\\303\\251" = "a\\040é" ∧
      unescape ("a\\134040\\303\\251" ++ ("\\" ++ "777")) = "a\\040é" ++ ("\\" ++ unescape "777") := by
  have written : escapeAt (fun i => i ∈ [1, 5]) "a\\040é" = "a\\134040\\303\\251" := by decide
  have within : ∀ i < 6, "a\\040é".toList[i]? = some '\\' → decide (i ∈ [1, 5]) = true := by decide
  have backslashes : ∀ i : Nat, "a\\040é".toList[i]? = some '\\' → decide (i ∈ [1, 5]) = true :=
    fun i place => within i (List.getElem?_eq_some_iff.1 place).1 place
  obtain ⟨back, -, kept, -⟩ := octal_text_read_back "a\\040é" _ backslashes
  rw [written] at back kept
  exact ⟨written, back, kept "777" (by decide)⟩

end MountSources

end NodeStorage
