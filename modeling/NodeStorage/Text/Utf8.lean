/-! Bytes and characters in UTF-8. Reading never fails: where the bytes hold no character, the
longest run of bytes that could still begin one (at least one byte) is given up together and read
as one replacement character. -/

namespace NodeStorage.Text

def utf8 (cs : List Char) : List UInt8 := cs.flatMap String.utf8EncodeChar

theorem utf8_append (a b : List Char) : utf8 (a ++ b) = utf8 a ++ utf8 b := List.flatMap_append

def headChar? (bytes : List UInt8) : Option Char :=
  (bytes.take 4).toByteArray.utf8DecodeChar? 0

def isContinuation (b : UInt8) : Bool := 0x80 ≤ b && b ≤ 0xBF

/-- Whether `second` may stand after `lead` in a character of three or four bytes. -/
def mayFollow (lead second : UInt8) : Bool :=
  if lead == 0xE0 then 0xA0 ≤ second && second ≤ 0xBF
  else if lead == 0xED then 0x80 ≤ second && second ≤ 0x9F
  else if lead == 0xF0 then 0x90 ≤ second && second ≤ 0xBF
  else if lead == 0xF4 then 0x80 ≤ second && second ≤ 0x8F
  else 0xE1 ≤ lead && lead ≤ 0xF3 && isContinuation second

/-- How many of the bytes after `lead` are given up with it. -/
def brokenTail (lead : UInt8) : List UInt8 → Nat
  | second :: third :: _ =>
    if !mayFollow lead second then 0
    else if 0xF0 ≤ lead && isContinuation third then 2 else 1
  | [second] => if mayFollow lead second then 1 else 0
  | [] => 0

def lossyChars : List UInt8 → List Char
  | [] => []
  | lead :: rest =>
    match headChar? (lead :: rest) with
    | some c => c :: lossyChars (rest.drop (c.utf8Size - 1))
    | none => '\uFFFD' :: lossyChars (rest.drop (brokenTail lead rest))
termination_by bytes => bytes.length
decreasing_by all_goals simp only [List.length_drop, List.length_cons]; omega

theorem headChar?_utf8EncodeChar (c : Char) (rest : List UInt8) :
    headChar? (String.utf8EncodeChar c ++ rest) = some c := by
  have size : (String.utf8EncodeChar c).length ≤ 4 := by
    rw [String.length_utf8EncodeChar]
    exact Char.utf8Size_le_four c
  rw [headChar?, List.take_append, List.take_of_length_le size, List.toByteArray_append]
  exact ByteArray.utf8DecodeChar?_utf8EncodeChar_append

theorem lossyChars_utf8_append (cs : List Char) (bytes : List UInt8) :
    lossyChars (utf8 cs ++ bytes) = cs ++ lossyChars bytes := by
  induction cs with
  | nil => rfl
  | cons c cs ih =>
    have parts : utf8 (c :: cs) ++ bytes = String.utf8EncodeChar c ++ (utf8 cs ++ bytes) := by
      simp [utf8]
    have size := String.length_utf8EncodeChar c
    have pos := Char.utf8Size_pos c
    obtain ⟨lead, tail, shape⟩ := List.exists_cons_of_length_pos
      (l := String.utf8EncodeChar c) (by omega)
    have read := headChar?_utf8EncodeChar c (utf8 cs ++ bytes)
    have length : tail.length = c.utf8Size - 1 := by
      rw [shape, List.length_cons] at size
      omega
    rw [parts]
    rw [shape, List.cons_append] at read ⊢
    rw [lossyChars]
    simp only [read, ← length, List.drop_left, ih, List.cons_append]

theorem lossyChars_utf8 (cs : List Char) : lossyChars (utf8 cs) = cs := by
  have read := lossyChars_utf8_append cs []
  rwa [List.append_nil, lossyChars, List.append_nil] at read

end NodeStorage.Text
