import NodeStorage.Device.Properties
import NodeStorage.Proofs.Keyed
import NodeStorage.Proofs.Text.Division

/-! What is exported about a device, read back. A line tells of a property if it has one equals sign and
something before it that is not blank; all other lines, and the blanks around a line, tell nothing. Of
several lines with one key the last holds. -/

namespace NodeStorage

open Text

namespace Properties

/-- Each key of the pairs, with the value of its last pair. -/
structure HoldsLast (properties : Properties) (pairs : List (String × String)) : Prop where
  distinct : (properties.map Prod.fst).Nodup
  size : properties.size = (pairs.map Prod.fst).toFinset.card
  get? (key value : String) : properties.get? key = some value ↔
    ∃ earlier later, pairs = earlier ++ (key, value) :: later ∧ key ∉ later.map Prod.fst

theorem holdsLast_ofPairs (pairs : List (String × String)) : (ofPairs pairs).HoldsLast pairs where
  distinct := Keyed.nodup_keys_ofPairs pairs
  size := Keyed.length_ofPairs pairs
  get? _ _ := Keyed.lookup_ofPairs_eq_some_iff

theorem ofLine?_congr {a b : List Char} (same : trimChars a = trimChars b) :
    ofLine? (.ofList a) = ofLine? (.ofList b) := by
  rw [ofLine?, ofLine?, String.toList_ofList, String.toList_ofList, same]

/-- A line with one equals sign and a key before it; the blanks around it do not count. -/
def Tells (line : List Char) (key value : String) : Prop :=
  trimChars line = key.toList ++ '=' :: value.toList ∧ key ≠ "" ∧
    '=' ∉ key.toList ∧ '=' ∉ value.toList

theorem ofLine?_eq_some_iff {line key value : String} :
    ofLine? line = some (key, value) ↔ Tells line.toList key value := by
  constructor
  · intro h
    rw [ofLine?] at h
    split at h
    · next k v parts =>
      obtain ⟨shape, plain, plain'⟩ := splitOn_eq_pair_iff.1 parts
      split at h
      · cases h
      · next filled =>
        cases h
        simp only [Tells, String.toList_ofList]
        refine ⟨shape, fun same => filled ?_, plain, plain'⟩
        have empty := congrArg String.toList same
        rw [String.toList_ofList] at empty
        exact List.isEmpty_iff.2 empty
    · cases h
  · rintro ⟨shape, filled, plain, plain'⟩
    have nonempty : key.toList.isEmpty = false :=
      List.isEmpty_eq_false_iff.2 (mt String.toList_eq_nil_iff.1 filled)
    rw [ofLine?, splitOn_eq_pair_iff.2 ⟨shape, plain, plain'⟩]
    simp [nonempty]

structure IsWritable (key value : String) : Prop where
  filled : key ≠ ""
  key_plain : '=' ∉ key.toList ∧ '\n' ∉ key.toList
  value_plain : '=' ∉ value.toList ∧ '\n' ∉ value.toList
  key_trimmed : trim key = key
  value_trimmed : trim value = value

instance (key value : String) : Decidable (IsWritable key value) :=
  decidable_of_iff
    (key ≠ "" ∧ ('=' ∉ key.toList ∧ '\n' ∉ key.toList) ∧ ('=' ∉ value.toList ∧ '\n' ∉ value.toList) ∧
      trim key = key ∧ trim value = value)
    ⟨fun ⟨filled, key, value, first, second⟩ => ⟨filled, key, value, first, second⟩,
      fun ⟨filled, key, value, first, second⟩ => ⟨filled, key, value, first, second⟩⟩

/-- No equals sign, several, or nothing but blanks before it. -/
def TellsNothing (line : List Char) : Prop :=
  '=' ∉ line ∨ 2 ≤ line.count '=' ∨ ∃ before after, line = before ++ '=' :: after ∧ IsPadding before

theorem IsWritable.ofLine?_eq {key value : String} (h : IsWritable key value) :
    ofLine? (.ofList (key.toList ++ '=' :: value.toList)) = some (key, value) := by
  refine ofLine?_eq_some_iff.2 ⟨?_, h.filled, h.key_plain.1, h.value_plain.1⟩
  rw [String.toList_ofList]
  have key_trimmed : trimChars key.toList = key.toList := by rw [← toList_trim, h.key_trimmed]
  have value_trimmed : trimChars value.toList = value.toList := by rw [← toList_trim, h.value_trimmed]
  refine trimChars_eq_self (fun c first => ?_) fun c last => ?_
  · rw [List.head?_append_of_ne_nil _ (mt String.toList_eq_nil_iff.1 h.filled), ← key_trimmed] at first
    exact isBlank_of_head?_trimChars first
  · -- The last character is that of the value, or the sign itself.
    rw [List.getLast?_append_cons, List.getLast?_cons] at last
    cases tail : value.toList.getLast? with
    | none =>
      rw [tail] at last
      cases last
      rfl
    | some d =>
      rw [tail] at last
      cases last
      rw [← value_trimmed] at tail
      exact isBlank_of_getLast?_trimChars tail

theorem splitOn_of_ofLine?_eq_some {line : List Char} {key value : String}
    (told : ofLine? (.ofList line) = some (key, value)) :
    ∃ before after, line.splitOn '=' = [before, after] ∧ ¬ IsPadding before := by
  obtain ⟨shape, filled, plain, plain'⟩ := ofLine?_eq_some_iff.1 told
  rw [String.toList_ofList] at shape
  obtain ⟨front, back, front_padding, back_padding, whole⟩ := exists_padding_trimChars line
  have solid : ∀ padding : List Char, IsPadding padding → '=' ∉ padding :=
    fun padding blank mem => absurd (blank _ mem) (by decide)
  refine ⟨front ++ key.toList, value.toList ++ back, splitOn_eq_pair_iff.2 ⟨?_, ?_, ?_⟩, fun padded => ?_⟩
  · rw [whole, shape]
    simp
  · exact mt List.mem_append.1 (not_or.2 ⟨solid front front_padding, plain⟩)
  · exact mt List.mem_append.1 (not_or.2 ⟨plain', solid back back_padding⟩)
  · -- The key begins with the first character that is left of the line.
    obtain ⟨c, rest, chars⟩ := List.exists_cons_of_ne_nil (mt String.toList_eq_nil_iff.1 filled)
    have leads : c ∈ (trimChars line).head? := by
      rw [shape, chars]
      rfl
    have first := isBlank_of_head?_trimChars leads
    have blank : isBlank c = true := padded c (by simp [chars])
    cases first.symm.trans blank

theorem TellsNothing.ofLine?_eq {line : List Char} (h : TellsNothing line) :
    ofLine? (.ofList line) = none := by
  refine Option.eq_none_iff_forall_ne_some.2 fun (key, value) told => ?_
  obtain ⟨before, after, divided, filled⟩ := splitOn_of_ofLine?_eq_some told
  obtain ⟨halves, before_sign, after_sign⟩ := splitOn_eq_pair_iff.1 divided
  rcases h with unsigned | several | ⟨lead, rest, led, padded⟩
  · rw [halves] at unsigned
    simp at unsigned
  · rw [halves, List.count_append, List.count_cons_self, List.count_eq_zero.2 before_sign,
      List.count_eq_zero.2 after_sign] at several
    omega
  · have lead_sign : '=' ∉ lead := fun mem => absurd (padded _ mem) (by decide)
    rw [led, List.splitOn_append_cons_self_of_not_mem lead_sign] at divided
    exact filled ((List.cons.inj divided).1 ▸ padded)

inductive LineBody where
  | property (key value : String)
  | other (text : String)
  deriving DecidableEq, Repr

namespace LineBody

def chars : LineBody → List Char
  | property key value => key.toList ++ '=' :: value.toList
  | other text => text.toList

def pair? : LineBody → Option (String × String)
  | property key value => some (key, value)
  | other _ => none

def Shaped : LineBody → Prop
  | property key value => IsWritable key value
  | other text => '\n' ∉ text.toList ∧ TellsNothing text.toList

theorem Shaped.newline_not_mem {body : LineBody} (h : body.Shaped) : '\n' ∉ body.chars := by
  cases body with
  | property key value =>
    simp [chars, h.key_plain.2, h.value_plain.2]
  | other text => exact h.1

theorem Shaped.ofLine?_eq {body : LineBody} (h : body.Shaped) :
    ofLine? (.ofList body.chars) = body.pair? := by
  cases body with
  | property key value => exact IsWritable.ofLine?_eq h
  | other text => exact TellsNothing.ofLine?_eq h.2

end LineBody

/-- A line as it is written, with blanks around it; a carriage return can stand before the line feed. -/
structure ExportedLine where
  body : LineBody
  before : List Char := []
  after : List Char := []
  returned : Bool := false
  deriving DecidableEq, Repr

namespace ExportedLine

def chars (line : ExportedLine) : List Char :=
  line.before ++ line.body.chars ++ line.after ++ if line.returned then ['\r', '\n'] else ['\n']

structure Shaped (line : ExportedLine) : Prop where
  body : line.body.Shaped
  before : IsPadding line.before
  after : IsPadding line.after

theorem chars_eq (line : ExportedLine) (h : line.Shaped) : ∃ padding, IsPadding padding ∧
    line.chars = line.before ++ (line.body.chars ++ padding ++ ['\n']) := by
  cases returned : line.returned with
  | false => exact ⟨line.after, h.after, by simp [chars, returned]⟩
  | true =>
    refine ⟨line.after ++ ['\r'], List.forall_mem_append.2 ⟨h.after, ?_⟩, by simp [chars, returned]⟩
    exact List.forall_mem_singleton.2 rfl

end ExportedLine

def exportText (lines : List ExportedLine) : String := .ofList (lines.flatMap ExportedLine.chars)

def ofPiece? (piece : List Char) : Option (String × String) := ofLine? (.ofList piece)

theorem ofPiece?_trimChars (piece : List Char) : ofPiece? (trimChars piece) = ofPiece? piece :=
  ofLine?_congr (trimChars_trimChars piece)

theorem ofText_eq (s : String) : ofText s = ofPairs ((s.toList.splitOn '\n').filterMap ofPiece?) := by
  rw [ofText, filterMap_lines rfl fun piece => ofLine?_congr (trimChars_withoutReturn piece)]
  rfl

theorem ofPiece?_eq_some_iff {piece : List Char} {key value : String} :
    ofPiece? piece = some (key, value) ↔ Tells piece key value := by
  rw [ofPiece?, ofLine?_eq_some_iff, String.toList_ofList]

theorem get?_ofText_eq_some_iff {s key value : String} : (ofText s).get? key = some value ↔
    ∃ before line after, s.toList.splitOn '\n' = before ++ line :: after ∧ Tells line key value ∧
      ∀ other ∈ after, ∀ v, ¬ Tells other key v := by
  rw [ofText_eq, get?, ofPairs, Keyed.lookup_ofPairs_eq_some_iff]
  simp only [← ofPiece?_eq_some_iff]
  constructor
  · rintro ⟨earlier, later, pairs, new⟩
    obtain ⟨front, _, parts, -, rest⟩ := List.filterMap_eq_append_iff.1 pairs
    obtain ⟨silent, line, after, rfl, -, told, rfl⟩ := List.filterMap_eq_cons_iff.1 rest
    refine ⟨front ++ silent, line, after, by rw [parts, List.append_assoc], told, ?_⟩
    exact fun other mem v own => new (List.mem_map_of_mem (List.mem_filterMap.2 ⟨other, mem, own⟩))
  · rintro ⟨before, line, after, parts, told, last⟩
    refine ⟨before.filterMap ofPiece?, after.filterMap ofPiece?, ?_, fun mem => ?_⟩
    · rw [parts, List.filterMap_append, List.filterMap_cons_some told]
    · obtain ⟨⟨k, v⟩, own, rfl⟩ := List.mem_map.1 mem
      obtain ⟨other, later, told⟩ := List.mem_filterMap.1 own
      exact last other later v told

theorem ofText_append_newline (s : String) : ofText (s ++ "\n") = ofText s := by
  have ended : (s ++ "\n").toList = s.toList ++ '\n' :: [] := String.toList_append
  have nothing : ([[]] : List (List Char)).filterMap ofPiece? = [] := List.filterMap_cons_none rfl
  rw [ofText_eq, ofText_eq, ended, List.splitOn_append_cons_self, List.filterMap_append,
    List.splitOn_nil, nothing, List.append_nil]

theorem filterMap_flatMap_chars {lines : List ExportedLine} (shaped : ∀ line ∈ lines, line.Shaped) :
    ((lines.flatMap ExportedLine.chars).splitOn '\n').filterMap ofPiece? =
      lines.filterMap fun line => line.body.pair? := by
  induction lines with
  | nil => exact List.filterMap_cons_none rfl
  | cons line rest ih =>
    obtain ⟨own, others⟩ := List.forall_mem_cons.1 shaped
    obtain ⟨padding, blank, chars⟩ := line.chars_eq own
    have told : ofPiece? line.body.chars = line.body.pair? := own.body.ofLine?_eq
    rw [List.flatMap_cons, chars, List.append_assoc, List.append_assoc _ ['\n'],
      filterMap_splitOn_padding_append rfl ofPiece?_trimChars own.before, List.singleton_append,
      filterMap_splitOn_line rfl ofPiece?_trimChars own.body.newline_not_mem blank, told, ih others,
      List.filterMap_cons]
    cases line.body.pair? <;> rfl

/-- The properties that are read from an exported text are those of its lines that tell of one, each key
with its last value; lines that tell of none leave no trace. -/
theorem holdsLast_of_exported {lines : List ExportedLine} (shaped : ∀ line ∈ lines, line.Shaped)
    {text : String} (written : text = exportText lines ∨ text ++ "\n" = exportText lines) :
    ofText text = ofPairs (lines.filterMap fun line => line.body.pair?) ∧
      (ofText text).HoldsLast (lines.filterMap fun line => line.body.pair?) := by
  have whole : ofText text = ofText (exportText lines) := by
    rcases written with rfl | ended
    · rfl
    · rw [← ended, ofText_append_newline]
  have read : ofText text = ofPairs (lines.filterMap fun line => line.body.pair?) := by
    rw [whole, ofText_eq, exportText, String.toList_ofList, filterMap_flatMap_chars shaped]
  exact ⟨read, read ▸ holdsLast_ofPairs _⟩

def relabelledSwap : List ExportedLine :=
  [{ body := .property "UUID" "0b3d", returned := true }, { body := .other "garbage" },
    { body := .property "TYPE" "swap", before := [' ', '\t'], after := [' '] },
    { body := .other "UUID=A=B" }, { body := .other "  =orphan", returned := true },
    { body := .property "LABEL" "" }, { body := .property "UUID" "77aa" }]

def relabelledSwapText : String :=
  "UUID=0b3d\r\ngarbage\n \tTYPE=swap \nUUID=A=B\n  =orphan\r\nLABEL=\nUUID=77aa"

theorem shaped_relabelledSwap : ∀ line ∈ relabelledSwap, line.Shaped := by
  have orphan : TellsNothing "  =orphan".toList :=
    .inr (.inr ⟨[' ', ' '], "orphan".toList, rfl, by decide⟩)
  have several : TellsNothing "UUID=A=B".toList := .inr (.inl (by decide))
  have garbage : TellsNothing "garbage".toList := .inl (by decide)
  have writable : ∀ pair ∈ relabelledSwap.filterMap fun line => line.body.pair?,
      IsWritable pair.1 pair.2 := by decide
  have padded : ∀ line ∈ relabelledSwap, IsPadding line.before ∧ IsPadding line.after := by
    decide
  refine fun line mem => ⟨?_, (padded line mem).1, (padded line mem).2⟩
  simp only [relabelledSwap, List.mem_cons, List.not_mem_nil, or_false] at mem
  rcases mem with rfl | rfl | rfl | rfl | rfl | rfl | rfl
  · exact writable ("UUID", "0b3d") (by decide)
  · exact ⟨by decide, garbage⟩
  · exact writable ("TYPE", "swap") (by decide)
  · exact ⟨by decide, several⟩
  · exact ⟨by decide, orphan⟩
  · exact writable ("LABEL", "") (by decide)
  · exact writable ("UUID", "77aa") (by decide)

theorem holdsLast_relabelledSwap :
    (∀ line ∈ relabelledSwap, line.Shaped) ∧
      relabelledSwapText ++ "\n" = exportText relabelledSwap ∧
      (ofText relabelledSwapText).size = 3 ∧
      (ofText relabelledSwapText).get? "UUID" = some "77aa" ∧
      (ofText relabelledSwapText).get? "TYPE" = some "swap" := by
  have written : relabelledSwapText ++ "\n" = exportText relabelledSwap := by decide
  obtain ⟨-, -, size, get?⟩ := holdsLast_of_exported shaped_relabelledSwap (.inr written)
  refine ⟨shaped_relabelledSwap, written, size.trans (by decide), (get? "UUID" "77aa").2 ?_,
    (get? "TYPE" "swap").2 ?_⟩
  · exact ⟨[("UUID", "0b3d"), ("TYPE", "swap"), ("LABEL", "")], [], rfl, by decide⟩
  · exact ⟨[("UUID", "0b3d")], [("LABEL", ""), ("UUID", "77aa")], rfl, by decide⟩

end Properties

end NodeStorage
