import NodeStorage.Json.Reader
import NodeStorage.Json.Text
import NodeStorage.Proofs.Json.Scalars
import NodeStorage.Proofs.Keyed

/-! Documents read back from the JSON text that they are printed as. A document is read back if its
integers have 64 bits, no field of a record comes twice and no more lists and records lie inside each
other than a reader keeps open. -/

namespace NodeStorage

namespace Json

open Text

/-- A document that is read back from its text, with room for so many lists and records inside each
other. -/
inductive Printable : Nat → Document → Prop where
  | null {room : Nat} : Printable room .null
  | bool {room : Nat} (value : Bool) : Printable room (.bool value)
  | integer {room : Nat} {n : Int} (least : -Nat.pow 2 63 ≤ n) (greatest : n < Nat.pow 2 64) :
      Printable room (.integer n)
  | text {room : Nat} (value : String) : Printable room (.text value)
  | list {room : Nat} {items : List Document} (each : ∀ v ∈ items, Printable room v) :
      Printable (room + 1) (.list items)
  | record {room : Nat} {fields : List (String × Document)} (distinct : (fields.map Prod.fst).Nodup)
      (each : ∀ field ∈ fields, Printable room field.2) : Printable (room + 1) (.record fields)

theorem skipSpace_append {spaces : List Char} (h : ∀ c ∈ spaces, isSpace c = true) (cs : List Char) :
    skipSpace (spaces ++ cs) = skipSpace cs :=
  List.dropWhile_append_of_pos h

theorem skipSpace_newLine (depth : Nat) (cs : List Char) :
    skipSpace (newLine depth ++ cs) = skipSpace cs := by
  refine skipSpace_append (fun c mem => ?_) cs
  rcases List.mem_cons.1 mem with rfl | mem
  · rfl
  · rw [List.eq_of_mem_replicate mem]
    rfl

theorem skipSpace_blank (cs : List Char) : skipSpace (' ' :: cs) = skipSpace cs :=
  List.dropWhile_cons_of_pos rfl

theorem skipSpace_cons {c : Char} (h : isSpace c = false) (cs : List Char) :
    skipSpace (c :: cs) = c :: cs := by
  rw [skipSpace, List.dropWhile_cons, h, if_neg Bool.false_ne_true]

theorem value_congr {cs cs' : List Char} (h : skipSpace cs = skipSpace cs') (room : Nat) :
    value room cs = value room cs' := by
  cases room with
  | zero => rw [value, value, h]
  | succ room => rw [value, value, h]

theorem field_congr {cs cs' : List Char} (h : skipSpace cs = skipSpace cs')
    (read : List Char → Option (Document × List Char)) : field read cs = field read cs' := by
  rw [field, field, h]

def closedItems {α : Type} (close : Char) (depth : Nat) (text : α → List Char) : List α → List Char
  | [] => [close]
  | a :: as =>
    newLine (depth + 1) ++ (text a ++ as.flatMap fun b => ',' :: (newLine (depth + 1) ++ text b)) ++
      (newLine depth ++ [close])

section Brackets

variable {α : Type} {close : Char} {text : α → List Char}
  {item : List Char → Option (α × List Char)}

theorem endsNumber_comma (cs : List Char) : EndsNumber (',' :: cs) := by
  rintro _ ⟨⟩
  decide

theorem endsNumber_newLine (depth : Nat) (cs : List Char) : EndsNumber (newLine depth ++ cs) := by
  rintro _ ⟨⟩
  decide

theorem itemsUntil_newLine (skips : ∀ depth cs, item (newLine depth ++ cs) = item cs)
    (budget depth : Nat) (cs : List Char) :
    itemsUntil close item budget (newLine depth ++ cs) = itemsUntil close item budget cs := by
  cases budget with
  | zero => rfl
  | succ budget => rw [itemsUntil, itemsUntil, skips]

theorem itemsUntil_closedItems (depth : Nat) (shut : isSpace close = false) (comma : close ≠ ',')
    (skips : ∀ depth cs, item (newLine depth ++ cs) = item cs) (a : α) (as : List α)
    (reads : ∀ b ∈ a :: as, ∀ rest, EndsNumber rest → item (text b ++ rest) = some (b, rest))
    (budget : Nat) (enough : as.length < budget) (rest : List Char) :
    itemsUntil close item budget
        (text a ++ (as.flatMap fun b => ',' :: (newLine (depth + 1) ++ text b)) ++
          (newLine depth ++ close :: rest)) = some (a :: as, rest) := by
  induction as generalizing a budget with
  | nil =>
    cases budget with
    | zero => cases enough
    | succ budget =>
      have first := reads a (by simp) _ (endsNumber_newLine depth (close :: rest))
      simp [itemsUntil, first, skipSpace_newLine, skipSpace_cons shut, comma]
  | cons b bs ih =>
    cases budget with
    | zero => cases enough
    | succ budget =>
      have later := ih b (fun c mem => reads c (List.mem_cons_of_mem a mem)) budget
        (Nat.lt_of_succ_lt_succ enough)
      -- What the induction reads stands behind the comma.
      generalize parts : text b ++ (bs.flatMap fun b => ',' :: (newLine (depth + 1) ++ text b)) ++
        (newLine depth ++ close :: rest) = tail at later
      have whole : text a ++ ((b :: bs).flatMap fun b => ',' :: (newLine (depth + 1) ++ text b)) ++
          (newLine depth ++ close :: rest) = text a ++ ',' :: (newLine (depth + 1) ++ tail) := by
        simp [← parts]
      have first := reads a (by simp) _ (endsNumber_comma (newLine (depth + 1) ++ tail))
      rw [whole, itemsUntil, first]
      simp [skipSpace_cons (show isSpace ',' = false by decide), itemsUntil_newLine skips, later]

theorem length_le_flatMap (depth : Nat) (text : α → List Char) (as : List α) :
    as.length ≤ (as.flatMap fun b => ',' :: (newLine (depth + 1) ++ text b)).length := by
  induction as with
  | nil => exact Nat.le_refl 0
  | cons b bs ih =>
    simp only [List.flatMap_cons, List.length_cons, List.length_append]
    omega

def Begins (close : Char) (cs : List Char) : Prop :=
  ∃ c rest, cs = c :: rest ∧ isSpace c = false ∧ c ≠ close

theorem bracketed_closedItems (depth : Nat) (shut : isSpace close = false) (comma : close ≠ ',')
    (skips : ∀ depth cs, item (newLine depth ++ cs) = item cs) (items : List α)
    (begins : ∀ a ∈ items, Begins close (text a))
    (reads : ∀ a ∈ items, ∀ rest, EndsNumber rest → item (text a ++ rest) = some (a, rest))
    (rest : List Char) :
    bracketed close item (closedItems close depth text items ++ rest) = some (items, rest) := by
  cases items with
  | nil =>
    rw [closedItems, List.singleton_append, bracketed, skipSpace_cons shut]
    exact if_pos rfl
  | cons a as =>
    obtain ⟨c, cs, first, space, other⟩ := begins a (by simp)
    have read := itemsUntil_closedItems depth shut comma skips a as reads
    have many := length_le_flatMap depth text as
    generalize between : (as.flatMap fun b => ',' :: (newLine (depth + 1) ++ text b)) = later at *
    have whole : closedItems close depth text (a :: as) ++ rest =
        newLine (depth + 1) ++ (c :: (cs ++ later ++ (newLine depth ++ close :: rest))) := by
      simp [closedItems, between, first]
    have body : text a ++ later ++ (newLine depth ++ close :: rest) =
        c :: (cs ++ later ++ (newLine depth ++ close :: rest)) := by
      simp [first]
    rw [whole, bracketed, skipSpace_newLine, skipSpace_cons space]
    refine (if_neg other).trans ?_
    rw [← body]
    refine read _ ?_ rest
    simp only [List.length_append, List.length_cons]
    omega

end Brackets

def fieldText (depth : Nat) (field : String × Document) : List Char :=
  writtenText field.1 ++ ':' :: ' ' :: printed depth field.2

theorem laterItems_eq (depth : Nat) (items : List Document) :
    laterItems depth items = items.flatMap fun v => ',' :: (newLine depth ++ printed depth v) := by
  induction items with
  | nil => rw [laterItems, List.flatMap_nil]
  | cons v vs ih => rw [laterItems, ih, List.flatMap_cons, List.cons_append]

theorem laterFields_eq (depth : Nat) (fields : List (String × Document)) :
    laterFields depth fields =
      fields.flatMap fun field => ',' :: (newLine depth ++ fieldText depth field) := by
  induction fields with
  | nil => rw [laterFields, List.flatMap_nil]
  | cons field rest ih =>
    obtain ⟨key, v⟩ := field
    simp [laterFields, ih, fieldText]

theorem printed_list (depth : Nat) (items : List Document) :
    printed depth (.list items) = '[' :: closedItems ']' depth (printed (depth + 1)) items := by
  cases items with
  | nil => rw [printed]; rfl
  | cons v vs => simp [printed, closedItems, laterItems_eq]

theorem printed_record (depth : Nat) (fields : List (String × Document)) :
    printed depth (.record fields) =
      '\x7b' :: closedItems '\x7d' depth (fieldText (depth + 1)) fields := by
  cases fields with
  | nil => rw [printed]; rfl
  | cons field rest =>
    obtain ⟨key, v⟩ := field
    simp [printed, closedItems, laterFields_eq, fieldText]

theorem exists_signedDecimal (n : Int) :
    ∃ c rest, (signedDecimal n).toList = c :: rest ∧ (c = '-' ∨ isDigit c = true) := by
  cases n with
  | ofNat n =>
    obtain ⟨d, ds, same⟩ := List.exists_cons_of_ne_nil (Nat.toDigits_ne_nil (b := 10) (n := n))
    have digit : isDigit d = true := isDigit_of_mem_toDigits (n := n) (by rw [same]; simp)
    exact ⟨d, ds, by simp [signedDecimal, decimal, same], .inr digit⟩
  | negSucc n => exact ⟨'-', Nat.toDigits 10 (n + 1), by simp [signedDecimal, decimal], .inl rfl⟩

theorem ne_of_begins_integer {c d : Char} (h : c = '-' ∨ isDigit c = true) (sign : d ≠ '-')
    (digit : isDigit d = false) : c ≠ d := by
  rintro rfl
  rcases h with rfl | h
  · exact sign rfl
  · cases h.symm.trans digit

theorem isSpace_eq_false_of_begins_integer {c : Char} (h : c = '-' ∨ isDigit c = true) :
    isSpace c = false := by
  have apart : ∀ d, d ≠ '-' → isDigit d = false → c ≠ d := fun _ => ne_of_begins_integer h
  simp [isSpace, apart ' ' (by decide) (by decide), apart '\n' (by decide) (by decide),
    apart '\t' (by decide) (by decide), apart '\r' (by decide) (by decide)]

theorem begins_printed {room : Nat} {v : Document} (h : Printable room v) (depth : Nat) :
    Begins ']' (printed depth v) := by
  cases h with
  | null => exact ⟨'n', _, by rw [printed]; rfl, by decide, by decide⟩
  | bool value =>
    cases value with
    | true => exact ⟨'t', _, by rw [printed]; rfl, by decide, by decide⟩
    | false => exact ⟨'f', _, by rw [printed]; rfl, by decide, by decide⟩
  | @integer _ n =>
    obtain ⟨c, rest, same, start⟩ := exists_signedDecimal n
    exact ⟨c, rest, by rw [printed, same], isSpace_eq_false_of_begins_integer start,
      ne_of_begins_integer start (by decide) (by decide)⟩
  | text value => exact ⟨'"', _, by rw [printed]; rfl, by decide, by decide⟩
  | list => exact ⟨'[', _, printed_list _ _, by decide, by decide⟩
  | record => exact ⟨'\x7b', _, printed_record _ _, by decide, by decide⟩

theorem value_eq_scalar {c : Char} (space : isSpace c = false) (list : c ≠ '[') (record : c ≠ '\x7b')
    (room : Nat) (cs : List Char) : value room (c :: cs) = scalar (c :: cs) := by
  have other : ∀ rest, c :: cs ≠ '[' :: rest := fun rest same => list (List.cons.inj same).1
  have other' : ∀ rest, c :: cs ≠ '\x7b' :: rest := fun rest same => record (List.cons.inj same).1
  cases room with
  | zero | succ =>
    rw [value, skipSpace_cons space]
    split
    · next same => exact absurd same (other _)
    · next same => exact absurd same (other' _)
    · rfl

theorem word_append (letters rest : List Char) (v : Document) :
    word letters v (letters ++ rest) = some (v, rest) := by
  rw [word, if_pos (List.isPrefixOf_iff_prefix.2 (List.prefix_append letters rest)), List.drop_left]

theorem scalar_writtenText (s : String) (rest : List Char) :
    scalar (writtenText s ++ rest) = some (.text s, rest) := by
  rw [writtenText_eq, scalar, if_pos rfl, textBody?_written]
  simp

theorem scalar_signedDecimal {n : Int} (least : -Nat.pow 2 63 ≤ n) (greatest : n < Nat.pow 2 64)
    {rest : List Char} (ends : EndsNumber rest) :
    scalar ((signedDecimal n).toList ++ rest) = some (.integer n, rest) := by
  have read := number_signedDecimal least greatest ends
  obtain ⟨c, cs, same, start⟩ := exists_signedDecimal n
  rw [same, List.cons_append] at read ⊢
  rw [scalar, if_neg (ne_of_begins_integer start (by decide) (by decide)),
    if_neg (ne_of_begins_integer start (by decide) (by decide)),
    if_neg (ne_of_begins_integer start (by decide) (by decide)),
    if_neg (ne_of_begins_integer start (by decide) (by decide)), read]

theorem field_fieldText {read : List Char → Option (Document × List Char)} {depth : Nat}
    {entry : String × Document} {rest : List Char}
    (skips : ∀ cs, read (' ' :: cs) = read cs)
    (reads : read (printed depth entry.2 ++ rest) = some (entry.2, rest)) :
    field read (fieldText depth entry ++ rest) = some (entry, rest) := by
  have whole : fieldText depth entry ++ rest = '"' :: (entry.1.toList.flatMap writtenChar ++
      '"' :: (':' :: ' ' :: (printed depth entry.2 ++ rest))) := by
    simp [fieldText, writtenText]
  rw [whole, field, skipSpace_cons (by decide)]
  simp [textBody?_written, skipSpace_cons (show isSpace ':' = false by decide), skips, reads]

/-- A document is read back from its text, wherever that stands in a longer one. -/
theorem value_printed {room : Nat} {v : Document} (h : Printable room v) (depth : Nat)
    {rest : List Char} (ends : EndsNumber rest) :
    value room (printed depth v ++ rest) = some (v, rest) := by
  induction h generalizing depth rest with
  | null =>
    rw [printed, show "null".toList = ['n', 'u', 'l', 'l'] from rfl, List.cons_append,
      value_eq_scalar (by decide) (by decide) (by decide)]
    exact word_append "null".toList rest .null
  | bool value =>
    cases value with
    | true =>
      rw [printed]
      exact (value_eq_scalar (by decide) (by decide) (by decide) _ _).trans
        (word_append "true".toList rest (.bool true))
    | false =>
      rw [printed]
      exact (value_eq_scalar (by decide) (by decide) (by decide) _ _).trans
        (word_append "false".toList rest (.bool false))
  | @integer room n least greatest =>
    have read := scalar_signedDecimal least greatest ends
    obtain ⟨c, cs, same, start⟩ := exists_signedDecimal n
    rw [printed, same, List.cons_append, value_eq_scalar (isSpace_eq_false_of_begins_integer start)
      (ne_of_begins_integer start (by decide) (by decide))
      (ne_of_begins_integer start (by decide) (by decide)), ← List.cons_append, ← same, read]
  | text s =>
    rw [printed, writtenText_eq, value_eq_scalar (by decide) (by decide) (by decide), ← writtenText_eq,
      scalar_writtenText]
  | @list room items each ih =>
    -- The induction reads each item in front of whatever follows it.
    have read : bracketed ']' (value room) (closedItems ']' depth (printed (depth + 1)) items ++ rest) =
        some (items, rest) :=
      bracketed_closedItems depth (by decide) (by decide)
        (fun depth cs => value_congr (skipSpace_newLine depth cs) room) items
        (fun v mem => begins_printed (each v mem) (depth + 1))
        (fun v mem _ ends => ih v mem (depth + 1) ends) rest
    rw [printed_list, List.cons_append, value, skipSpace_cons (by decide)]
    simp [read]
  | @record room fields distinct each ih =>
    have space : ∀ cs, value room (' ' :: cs) = value room cs :=
      fun cs => value_congr (skipSpace_blank cs) room
    have read : bracketed '\x7d' (field (value room))
        (closedItems '\x7d' depth (fieldText (depth + 1)) fields ++ rest) = some (fields, rest) :=
      bracketed_closedItems depth (by decide) (by decide)
        (fun depth cs => field_congr (skipSpace_newLine depth cs) (value room)) fields
        (fun entry _ => ⟨'"', _, rfl, by decide, by decide⟩)
        (fun entry mem _ ends => field_fieldText space (ih entry mem (depth + 1) ends)) rest
    rw [printed_record, List.cons_append, value, skipSpace_cons (by decide)]
    simp [read, Document.ofFields, Keyed.ofPairs_of_nodup distinct]

theorem read?_pretty_append {v : Document} (h : Printable deepest v) {spaces : String}
    (after : ∀ c ∈ spaces.toList, isSpace c = true) : read? (pretty v ++ spaces) = some v := by
  have ends : EndsNumber spaces.toList := by
    intro c mem
    have space := after c (List.mem_of_mem_head? mem)
    simp only [isSpace, Bool.or_eq_true, beq_iff_eq] at space
    rcases space with ((rfl | rfl) | rfl) | rfl <;> decide
  have blank : skipSpace spaces.toList = [] := by
    have whole := skipSpace_append after []
    rwa [List.append_nil] at whole
  rw [read?, String.toList_append, pretty, String.toList_ofList, value_printed h 0 ends]
  simp [blank]

theorem read?_pretty {v : Document} (h : Printable deepest v) : read? (pretty v) = some v := by
  have read : read? (pretty v ++ "") = some v := read?_pretty_append h (by simp)
  rwa [String.append_empty] at read

end Json

end NodeStorage
