import NodeStorage.Proofs.Text.Division
import NodeStorage.Proofs.Wipe.OctalEscape

/-! The table of mounts as the kernel shows it, and the devices that are read from it. Of the blanks in
a source the kernel escapes the space, the tab and the line feed; a source with any other blank is
read only up to the first of these. -/

namespace NodeStorage

open Text

namespace MountSources

/-- Whether the kernel shows a character of a source as octal digits. -/
def isHidden (c : Char) : Bool := c == ' ' || c == '\t' || c == '\n' || c == '\\' || c == '#'

/-- Whether the kernel shows a character of a source as it is and readers take it for a blank. -/
def isBareBlank (c : Char) : Bool := isBlank c && !isHidden c

def IsUnbroken (s : String) : Prop := ∀ c ∈ s.toList, isBareBlank c = false

def beginning (s : String) : String := .ofList (s.toList.takeWhile fun c => !isBareBlank c)

def hyphen : List Char := [' ', '-', ' ']

/-- One mount: the fields before the hyphen and those behind it. All fields but the source are given as
they are shown. -/
structure Row where
  leading : List String
  type : String
  source : String
  options : String
  deriving DecidableEq, Repr

namespace Row

def shownTail (row : Row) : String :=
  joined " " [row.type, escape isHidden row.source, row.options]

def shown (row : Row) : String := joined " " row.leading ++ " - " ++ row.shownTail

end Row

inductive TableLine where
  | mount (row : Row)
  | other (text : String)
  deriving DecidableEq, Repr

def TableLine.shown : TableLine → String
  | mount row => row.shown
  | other text => text

def showTable (lines : List TableLine) : String :=
  .ofList ((lines.map fun line => line.shown.toList).flatMap (· ++ ['\n']))

def IsField (s : String) : Prop := s ≠ "" ∧ ∀ c ∈ s.toList, c ≠ ' ' ∧ c ≠ '\t' ∧ c ≠ '\n'

-- Only the characters of the text are to be tried, not all there are.
instance (s : String) : Decidable (IsUnbroken s) :=
  List.decidableBAll (fun c => isBareBlank c = false) s.toList

instance (s : String) : Decidable (IsField s) :=
  @instDecidableAnd _ _ instDecidableNot
    (List.decidableBAll (fun c => c ≠ ' ' ∧ c ≠ '\t' ∧ c ≠ '\n') s.toList)

structure Row.Shaped (row : Row) : Prop where
  leading : ∀ field ∈ row.leading, IsField field ∧ field ≠ "-"
  type : IsField row.type
  source : row.source ≠ ""
  options : IsField row.options

def TableLine.Shaped : TableLine → Prop
  | mount row => row.Shaped
  | other text => '\n' ∉ text.toList ∧ ¬ hyphen <:+: text.toList

theorem mem_ofText {s table : String} : s ∈ ofText table ↔
    startsWith "/dev/" s = true ∧ ∃ line ∈ lines table, ofLine? line = some s := by
  simp only [ofText, List.mem_mergeSort, List.mem_eraseDups, List.mem_filter, List.mem_filterMap]
  exact and_comm

theorem hyphen_ne_nil : hyphen ≠ [] := nofun

theorem ofLine?_ofList (cs : List Char) : ofLine? (.ofList cs) =
    (divideChars hyphen cs).bind fun (_, after) => ((words (.ofList after))[1]?).map unescape := by
  have sign : " - ".toList = hyphen := rfl
  rw [ofLine?, divide, sign, String.toList_ofList]
  cases divideChars hyphen cs <;> rfl

theorem ofLine?_withoutReturn (piece : List Char) :
    ofLine? (.ofList (withoutReturn piece)) = ofLine? (.ofList piece) := by
  unfold withoutReturn
  split
  · next ended =>
    obtain ⟨front, rfl⟩ := List.getLast?_eq_some_iff.1 ended
    have same : ∀ after, words (.ofList (after ++ ['\r'])) = words (.ofList after) := by
      intro after
      rw [words_eq_pieces, pieces_append_cons rfl, pieces_nil, List.append_nil]
    rw [List.dropLast_concat, ofLine?_ofList, ofLine?_ofList,
      divideChars_concat hyphen_ne_nil (by decide)]
    cases divideChars hyphen front with
    | none => rfl
    | some parts =>
      simp only [Option.map_some, Option.bind_some]
      rw [same]
  · rfl

theorem splitOn_ended {pieces : List (List Char)} (h : ∀ piece ∈ pieces, '\n' ∉ piece) :
    (pieces.flatMap (· ++ ['\n'])).splitOn '\n' = pieces ++ [[]] := by
  induction pieces with
  | nil => rfl
  | cons piece rest ih =>
    obtain ⟨own, others⟩ := List.forall_mem_cons.1 h
    rw [List.flatMap_cons, List.append_assoc, List.singleton_append,
      List.splitOn_append_cons_self_of_not_mem own, ih others, List.cons_append]

theorem filterMap_ofLine?_showTable {table : List TableLine}
    (h : ∀ line ∈ table, '\n' ∉ line.shown.toList) :
    (lines (showTable table)).filterMap ofLine? = table.filterMap fun line => ofLine? line.shown := by
  have whole : ∀ piece ∈ table.map fun line => line.shown.toList, '\n' ∉ piece := by
    intro piece mem
    obtain ⟨line, inside, rfl⟩ := List.mem_map.1 mem
    exact h line inside
  have empty : ofLine? "" = none := rfl
  have last : [[]].filterMap (fun piece => ofLine? (.ofList piece)) = [] :=
    List.filterMap_cons_none empty
  rw [filterMap_lines empty ofLine?_withoutReturn, showTable, String.toList_ofList, splitOn_ended whole,
    List.filterMap_append, List.filterMap_map, last, List.append_nil]
  refine List.filterMap_congr fun line _ => ?_
  rw [Function.comp_apply, String.ofList_toList]

theorem of_mem_escapeChars {chosen : Char → Bool} {cs : List Char} {d : Char}
    (h : d ∈ escapeChars chosen cs) : (d ∈ cs ∧ chosen d = false) ∨ isBlank d = false := by
  obtain ⟨c, mem, inside⟩ := List.mem_flatMap.1 h
  cases choice : chosen c with
  | true =>
    rw [if_pos choice] at inside
    exact .inr (isBlank_of_mem_octalChar inside)
  | false =>
    rw [choice, if_neg Bool.false_ne_true, List.mem_singleton] at inside
    subst inside
    exact .inl ⟨mem, choice⟩

theorem Row.Shaped.newline_not_mem {row : Row} (h : row.Shaped) : '\n' ∉ row.shown.toList := by
  have field : ∀ {s : String}, IsField s → '\n' ∉ s.toList := fun f mem => (f.2 _ mem).2.2 rfl
  intro mem
  rw [shown, shownTail, String.toList_append, String.toList_append, List.mem_append, List.mem_append,
    toList_joined, toList_joined] at mem
  rcases mem with (front | sign) | back
  · rcases mem_of_mem_intercalate front with sign | ⟨_, mem, inside⟩
    · exact absurd sign (by decide)
    · obtain ⟨s, known, rfl⟩ := List.mem_map.1 mem
      exact field (h.leading s known).1 inside
  · exact absurd sign (by decide)
  · rcases mem_of_mem_intercalate back with sign | ⟨_, mem, inside⟩
    · exact absurd sign (by decide)
    · simp only [List.map_cons, List.map_nil, List.mem_cons, List.not_mem_nil, or_false] at mem
      rcases mem with rfl | rfl | rfl
      · exact field h.type inside
      · rw [escape, String.toList_ofList] at inside
        rcases of_mem_escapeChars inside with ⟨-, shown⟩ | solid
        · exact absurd shown (by decide)
        · exact absurd solid (by decide)
      · exact field h.options inside

theorem not_hyphen_leads {field : List Char} (solid : ' ' ∉ field) (other : field ≠ ['-'])
    (rest : List Char) : ¬ hyphen <+: ' ' :: (field ++ ' ' :: rest) := by
  intro led
  have next : ['-', ' '] <+: field ++ ' ' :: rest := (List.cons_prefix_cons.1 led).2
  match field with
  | [] => exact absurd (List.cons_prefix_cons.1 next).1 (by decide)
  | [c] =>
    have sign : '-' = c := (List.cons_prefix_cons.1 next).1
    exact other (sign ▸ rfl)
  | c :: d :: later =>
    have blank : ' ' = d := (List.cons_prefix_cons.1 (List.cons_prefix_cons.1 next).2).1
    exact solid (blank ▸ List.mem_cons_of_mem c List.mem_cons_self)

theorem divideChars_leading {fields : List (List Char)}
    (h : ∀ field ∈ fields, ' ' ∉ field ∧ field ≠ ['-']) (after : List Char) :
    divideChars hyphen ([' '].intercalate fields ++ (hyphen ++ after)) =
      some ([' '].intercalate fields, after) := by
  induction fields with
  | nil => exact divideChars_piece_append hyphen_ne_nil after
  | cons field rest ih =>
    obtain ⟨⟨solid, -⟩, others⟩ := List.forall_mem_cons.1 h
    cases rest with
    | nil =>
      rw [List.intercalate_singleton]
      exact divideChars_append_piece solid after
    | cons next later =>
      have apart : ¬ hyphen <+: ' ' :: ([' '].intercalate (next :: later) ++ (hyphen ++ after)) := by
        obtain ⟨solid', other⟩ := others next List.mem_cons_self
        cases later with
        | nil =>
          rw [List.intercalate_singleton]
          exact not_hyphen_leads solid' other _
        | cons last later =>
          rw [List.intercalate_cons_cons, List.append_assoc, List.append_assoc]
          exact not_hyphen_leads solid' other _
      rw [List.intercalate_cons_cons, List.append_assoc, List.append_assoc, hyphen,
        divideChars_append_of_not_mem solid, ← hyphen, List.singleton_append,
        divideChars_cons_of_not_led apart, ih others]
      simp

theorem Row.toList_shownTail (row : Row) : row.shownTail.toList = row.type.toList ++
    ' ' :: (escapeChars isHidden row.source.toList ++ ' ' :: row.options.toList) := by
  simp [shownTail, toList_joined, escape, List.intercalate_cons_cons]

theorem Row.Shaped.ofLine?_shown {row : Row} (h : row.Shaped) :
    ofLine? row.shown = ((words row.shownTail)[1]?).map unescape := by
  have shown : row.shown = .ofList ([' '].intercalate (row.leading.map String.toList) ++
      (hyphen ++ row.shownTail.toList)) := by
    rw [← String.ofList_toList (s := row.shown), Row.shown, String.toList_append, String.toList_append,
      toList_joined, List.append_assoc]
    rfl
  have fields : ∀ field ∈ row.leading.map String.toList, ' ' ∉ field ∧ field ≠ ['-'] := by
    intro field mem
    obtain ⟨s, known, rfl⟩ := List.mem_map.1 mem
    obtain ⟨plain, other⟩ := h.leading s known
    refine ⟨fun inside => (plain.2 _ inside).1 rfl, fun sign => other ?_⟩
    rw [← String.ofList_toList (s := s), sign]
  rw [shown, ofLine?_ofList, divideChars_leading fields]
  simp only [Option.bind_some, String.ofList_toList]

theorem isBlank_eq_false_of_isBareBlank {c : Char} (h : isBareBlank c = false)
    (shown : c ≠ ' ' ∧ c ≠ '\t' ∧ c ≠ '\n') : isBlank c = false := by
  by_cases hidden : isHidden c = true
  · simp only [isHidden, Bool.or_eq_true, beq_iff_eq, shown.1, shown.2.1, shown.2.2, false_or] at hidden
    rcases hidden with rfl | rfl <;> rfl
  · simpa [isBareBlank, hidden] using h

theorem isBlank_of_mem_escapeChars {cs : List Char} (h : ∀ c ∈ cs, isBareBlank c = false) :
    ∀ c ∈ escapeChars isHidden cs, isBlank c = false := by
  intro c mem
  rcases of_mem_escapeChars mem with ⟨inside, shown⟩ | solid
  · have bare := h c inside
    rwa [isBareBlank, shown, Bool.not_false, Bool.and_true] at bare
  · exact solid

theorem words_escapeChars_solid {cs : List Char} (h : ∀ c ∈ cs, isBareBlank c = false) :
    words (.ofList (escapeChars isHidden cs)) =
      (pieces isBareBlank (.ofList cs)).map (escape isHidden) := by
  rw [words_eq_pieces]
  cases cs with
  | nil => rw [escapeChars, List.flatMap_nil, pieces_nil, pieces_nil, List.map_nil]
  | cons c later =>
    have filled := List.cons_ne_nil c later
    rw [pieces_solid filled h, pieces_solid (escapeChars_ne_nil filled) (isBlank_of_mem_escapeChars h),
      List.map_singleton, escape, String.toList_ofList]

theorem words_escapeChars (cs : List Char) : words (.ofList (escapeChars isHidden cs)) =
    (pieces isBareBlank (.ofList cs)).map (escape isHidden) := by
  -- The characters before the ones of the induction have no bare blank.
  suffices general : ∀ rest front : List Char, (∀ c ∈ front, isBareBlank c = false) →
      words (.ofList (escapeChars isHidden (front ++ rest))) =
        (pieces isBareBlank (.ofList (front ++ rest))).map (escape isHidden) from
    general cs [] fun _ none => absurd none List.not_mem_nil
  intro rest
  induction rest with
  | nil =>
    intro front solid
    rw [List.append_nil]
    exact words_escapeChars_solid solid
  | cons c later ih =>
    intro front solid
    cases bare : isBareBlank c with
    | true =>
      obtain ⟨blank, shown⟩ := Bool.and_eq_true_iff.1 bare
      have here := words_escapeChars_solid solid
      have behind := ih [] fun _ none => absurd none List.not_mem_nil
      rw [escapeChars_append, escapeChars_cons_of_false (by simpa using shown), words_eq_pieces,
        pieces_append_cons blank, pieces_append_cons bare, List.map_append]
      exact congrArg₂ (· ++ ·) here behind
    | false =>
      rw [List.append_cons]
      refine ih (front ++ [c]) fun d mem => ?_
      rcases List.mem_append.1 mem with inside | last
      · exact solid d inside
      · rwa [List.mem_singleton.1 last]

/-- What is read as the source: the second word behind the hyphen. -/
def Row.read? (row : Row) : Option String :=
  ((words row.type).map unescape ++ pieces isBareBlank row.source ++
    (words row.options).map unescape)[1]?

theorem Row.words_shownTail (row : Row) : words row.shownTail =
    words row.type ++ (pieces isBareBlank row.source).map (escape isHidden) ++ words row.options := by
  have source := words_escapeChars row.source.toList
  rw [words_eq_pieces, String.ofList_toList] at source
  rw [← String.ofList_toList (s := row.shownTail), row.toList_shownTail, words_eq_pieces,
    pieces_append_cons rfl, pieces_append_cons rfl, source, String.ofList_toList, String.ofList_toList,
    List.append_assoc]

theorem Row.Shaped.ofLine?_eq {row : Row} (h : row.Shaped) : ofLine? row.shown = row.read? := by
  have back : unescape ∘ escape isHidden = id := funext (unescape_escape rfl)
  rw [h.ofLine?_shown, row.words_shownTail, ← List.getElem?_map, List.map_append, List.map_append,
    List.map_map, back, List.map_id, Row.read?]

theorem ofLine?_of_not_hyphen {text : String} (h : ¬ hyphen <:+: text.toList) :
    ofLine? text = none := by
  rw [← String.ofList_toList (s := text), ofLine?_ofList, (divideChars_eq_none_iff hyphen_ne_nil _).2 h,
    Option.bind_none]

theorem Row.read?_eq_beginning {row : Row} (type : IsField row.type) (whole : IsUnbroken row.type)
    (begins : row.source.toList.takeWhile (fun c => !isBareBlank c) ≠ []) :
    row.read? = some (beginning row.source) := by
  have single : words (.ofList row.type.toList) = [.ofList row.type.toList] :=
    pieces_solid (mt String.toList_eq_nil_iff.1 type.1) fun c mem =>
      isBlank_eq_false_of_isBareBlank (whole c mem) (type.2 c mem)
  have first := head?_pieces begins
  rw [String.ofList_toList] at single first
  obtain ⟨more, source⟩ := List.head?_eq_some_iff.1 first
  rw [Row.read?, single, source]
  rfl

theorem beginning_eq_self_iff {s : String} : beginning s = s ↔ IsUnbroken s := by
  have chars : beginning s = s ↔ s.toList.takeWhile (fun c => !isBareBlank c) = s.toList := by
    rw [beginning, ← String.toList_inj, String.toList_ofList]
  rw [chars, List.takeWhile_eq_self_iff]
  simp [IsUnbroken]

theorem Row.Shaped.read?_eq_source {row : Row} (h : row.Shaped) (type : IsUnbroken row.type)
    (source : IsUnbroken row.source) : row.read? = some row.source := by
  have kept := beginning_eq_self_iff.2 source
  have begins : row.source.toList.takeWhile (fun c => !isBareBlank c) ≠ [] := by
    intro none
    rw [beginning, none] at kept
    exact h.source kept.symm
  rw [Row.read?_eq_beginning h.type type begins, kept]

theorem begins_of_startsWith {s : String} (h : startsWith "/dev/" s = true) :
    s.toList.takeWhile (fun c => !isBareBlank c) ≠ [] := by
  obtain ⟨rest, same⟩ := List.isPrefixOf_iff_prefix.1 h
  rw [← same]
  exact nofun

/-- The sources read from a table are those of the mounts, each as far as its first bare blank. A
table without bare blanks in types and sources gives just the device files among its sources. -/
theorem ofText_showTable {table : List TableLine} (shaped : ∀ line ∈ table, line.Shaped) :
    (∀ source, source ∈ ofText (showTable table) ↔
      startsWith "/dev/" source = true ∧ ∃ row, .mount row ∈ table ∧ row.read? = some source) ∧
    (∀ row, .mount row ∈ table → IsUnbroken row.type → startsWith "/dev/" row.source = true →
      row.read? = some (beginning row.source) ∧
        (row.read? = some row.source ↔ IsUnbroken row.source)) ∧
    ((∀ row, .mount row ∈ table → IsUnbroken row.type ∧ IsUnbroken row.source) →
      ∀ source, source ∈ ofText (showTable table) ↔
        startsWith "/dev/" source = true ∧ ∃ row, .mount row ∈ table ∧ row.source = source) := by
  have mounts : ∀ row, .mount row ∈ table → row.Shaped := fun row mem => shaped _ mem
  have ended : ∀ line ∈ table, '\n' ∉ line.shown.toList := by
    rintro (row | text) mem
    · exact (mounts row mem).newline_not_mem
    · exact (shaped _ mem).1
  have read : ∀ source, source ∈ ofText (showTable table) ↔
      startsWith "/dev/" source = true ∧ ∃ row, .mount row ∈ table ∧ row.read? = some source := by
    intro source
    rw [mem_ofText, ← List.mem_filterMap, filterMap_ofLine?_showTable ended, List.mem_filterMap]
    refine and_congr_right fun _ => ⟨?_, fun ⟨row, mem, same⟩ => ?_⟩
    · rintro ⟨row | text, mem, same⟩
      · exact ⟨row, mem, (mounts row mem).ofLine?_eq.symm.trans same⟩
      · cases (ofLine?_of_not_hyphen (shaped _ mem).2).symm.trans same
    · exact ⟨.mount row, mem, (mounts row mem).ofLine?_eq.trans same⟩
  refine ⟨read, ?_, ?_⟩
  · intro row mem whole device
    have cut := Row.read?_eq_beginning (mounts row mem).type whole (begins_of_startsWith device)
    exact ⟨cut, by rw [cut, Option.some_inj, beginning_eq_self_iff]⟩
  · intro unbroken source
    rw [read source]
    refine and_congr_right fun _ => exists_congr fun row => and_congr_right fun mem => ?_
    rw [(mounts row mem).read?_eq_source (unbroken row mem).1 (unbroken row mem).2, Option.some_inj]

instance (row : Row) : Decidable row.Shaped :=
  decidable_of_iff ((∀ field ∈ row.leading, IsField field ∧ field ≠ "-") ∧ IsField row.type ∧
      row.source ≠ "" ∧ IsField row.options)
    ⟨fun ⟨leading, type, source, options⟩ => ⟨leading, type, source, options⟩,
      fun ⟨leading, type, source, options⟩ => ⟨leading, type, source, options⟩⟩

instance : (line : TableLine) → Decidable line.Shaped
  | .mount row => inferInstanceAs (Decidable row.Shaped)
  | .other text => inferInstanceAs (Decidable ('\n' ∉ text.toList ∧ ¬ hyphen <:+: text.toList))

def spacedTable : List TableLine :=
  [.mount ⟨["36", "25", "8:2", "/", "/srv", "rw,relatime"], "ext4", "/dev/mapper/my data", "rw"⟩,
    .mount ⟨["37", "25", "0:5", "/", "/dev", "rw", "shared:2"], "devtmpfs", "udev", "rw,size=4k"⟩,
    .other "-"]

theorem ofText_spacedTable : (∀ line ∈ spacedTable, line.Shaped) ∧
    (∀ source, source ∈ ofText (showTable spacedTable) ↔
      startsWith "/dev/" source = true ∧ ∃ row, .mount row ∈ spacedTable ∧ row.source = source) := by
  have shaped : ∀ line ∈ spacedTable, line.Shaped := by decide
  refine ⟨shaped, (ofText_showTable shaped).2.2 ?_⟩
  intro row mem
  simp only [spacedTable, List.mem_cons, TableLine.mount.injEq, reduceCtorEq, List.not_mem_nil,
    or_false] at mem
  rcases mem with rfl | rfl <;> decide

def brokenTable : List TableLine :=
  [.mount ⟨["36", "25", "8:2", "/", "/srv", "rw,relatime"], "ext4", "/dev/disk/by-label/my\u00a0data",
    "rw"⟩]

/-- Of the source only the part before that space is read. -/
theorem ofText_brokenTable : (∀ line ∈ brokenTable, line.Shaped) ∧
    (∃ row, .mount row ∈ brokenTable ∧ startsWith "/dev/" row.source = true ∧
      row.source ∉ ofText (showTable brokenTable)) ∧
    ofText (showTable brokenTable) = ["/dev/disk/by-label/my"] := by
  have read : ofText (showTable brokenTable) = ["/dev/disk/by-label/my"] := by decide +kernel
  refine ⟨by decide, ⟨_, List.mem_singleton_self _, by decide +kernel, ?_⟩, read⟩
  rw [read]
  decide

end MountSources

end NodeStorage
