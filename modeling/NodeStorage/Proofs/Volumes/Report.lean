import NodeStorage.Build.Volumes
import NodeStorage.Proofs.Text.Blank
import NodeStorage.Proofs.Text.Numeral

/-! Reports read back. A report shows its rows in lines of their own, each with two words that a tab
divides; there may be blanks around the words and lines without any row. -/

namespace NodeStorage

open Text VolumeCatalog

inductive ReportLine : List Char → Option (String × String) → Prop where
  | blank {padding : List Char} (blank : IsPadding padding) : ReportLine padding none
  | row {before left right after : List Char} {first second : String} (word : IsWord first)
      (word' : IsWord second) (around : IsPadding before ∧ IsPadding after)
      (between : IsPadding left ∧ IsPadding right) (one_tab : '\t' ∉ left ∧ '\t' ∉ right) :
      ReportLine (before ++ (first.toList ++ left ++ '\t' :: (right ++ second.toList)) ++ after)
        (some (first, second))

def Shows (report : String) (rows : List (String × String)) : Prop :=
  ∃ entries : List (List Char × Option (String × String)), entries ≠ [] ∧
    (∀ entry ∈ entries, '\n' ∉ entry.1 ∧ ReportLine entry.1 entry.2) ∧
    report.toList = ['\n'].intercalate (entries.map Prod.fst) ∧
    entries.filterMap Prod.snd = rows

def rowText (first second : String) : String := "  " ++ first ++ "\t" ++ second ++ "\n"

theorem shows_rowText {first second : String} (word : IsWord first) (word' : IsWord second) :
    Shows (rowText first second) [(first, second)] := by
  have line : ReportLine (' ' :: ' ' :: (first.toList ++ '\t' :: second.toList))
      (some (first, second)) := by
    have row : ReportLine
        ([' ', ' '] ++ (first.toList ++ [] ++ '\t' :: ([] ++ second.toList)) ++ []) _ :=
      .row word word' (by decide) (by decide) (by decide)
    simpa using row
  have feed : isBlank '\n' = true := by decide
  refine ⟨[(' ' :: ' ' :: (first.toList ++ '\t' :: second.toList), some (first, second)), ([], none)],
    List.cons_ne_nil _ _, List.forall_mem_cons.2 ⟨⟨?_, line⟩, ?_⟩, ?_, rfl⟩
  · simp [word.not_mem feed, word'.not_mem feed]
  · exact List.forall_mem_singleton.2 ⟨List.not_mem_nil, .blank (by decide)⟩
  · simp [rowText, List.intercalate]

theorem shows_nothing : Shows "" [] :=
  ⟨[([], none)], List.cons_ne_nil _ _,
    List.forall_mem_singleton.2 ⟨List.not_mem_nil, .blank (by decide)⟩, rfl, rfl⟩

theorem row?_of_columns {cs first second : List Char} {more : List (List Char)}
    (h : (trimChars cs).splitOn '\t' = first :: second :: more) :
    row? (.ofList cs) = some (.ofList (trimChars first), .ofList (trimChars second)) := by
  simp [row?, h]

theorem row?_congr {cs cs' : List Char} (h : trimChars cs = trimChars cs') :
    row? (.ofList cs) = row? (.ofList cs') := by
  simp [row?, h]

theorem ReportLine.row?_eq {cs : List Char} {row : Option (String × String)}
    (h : ReportLine cs row) : row? (.ofList cs) = row := by
  cases h with
  | blank blank =>
    have nothing : row? (.ofList []) = none := rfl
    rw [← nothing]
    exact row?_congr (trimChars_padding blank)
  | @row before left right after first second word word' around between one_tab =>
    have core : trimChars (before ++ (first.toList ++ left ++ '\t' :: (right ++ second.toList)) ++
        after) = first.toList ++ left ++ '\t' :: (right ++ second.toList) := by
      rw [trimChars_append_padding around.2, trimChars_padding_append around.1]
      refine trimChars_eq_self (fun c mem => ?_) fun c mem => ?_
      · rw [List.append_assoc, List.head?_append_of_ne_nil _ word.1] at mem
        exact word.2 c (List.mem_of_mem_head? mem)
      · rw [← List.cons_append, ← List.append_assoc, List.getLast?_append_of_ne_nil _ word'.1] at mem
        exact word'.2 c (List.mem_of_mem_getLast? mem)
    have tab : isBlank '\t' = true := by decide
    have columns : (first.toList ++ left ++ '\t' :: (right ++ second.toList)).splitOn '\t' =
        [first.toList ++ left, right ++ second.toList] := by
      have joined : first.toList ++ left ++ '\t' :: (right ++ second.toList) =
          ['\t'].intercalate [first.toList ++ left, right ++ second.toList] := by
        simp [List.intercalate]
      rw [joined]
      refine List.splitOn_intercalate '\t' ?_ (List.cons_ne_nil _ _)
      simp [word.not_mem tab, word'.not_mem tab, one_tab]
    rw [row?_of_columns (core ▸ columns), trimChars_append_padding between.1,
      trimChars_padding_append between.2, word.trimChars_eq, word'.trimChars_eq, String.ofList_toList,
      String.ofList_toList]

namespace Shows

variable {report : String}

theorem rows_eq {rows : List (String × String)} (h : Shows report rows) :
    VolumeCatalog.rows report = rows := by
  obtain ⟨entries, nonempty, lines, text, rfl⟩ := h
  have ending : ∀ piece, row? (.ofList (withoutReturn piece)) = row? (.ofList piece) :=
    fun piece => row?_congr (trimChars_withoutReturn piece)
  have pieces : report.toList.splitOn '\n' = entries.map Prod.fst := by
    rw [text]
    refine List.splitOn_intercalate '\n' ?_ (by simpa using nonempty)
    simpa using fun line row mem => (lines (line, row) mem).1
  rw [VolumeCatalog.rows, filterMap_lines rfl ending, pieces, List.filterMap_map]
  exact List.filterMap_congr fun entry mem => (lines entry mem).2.row?_eq

theorem groupRows_eq {rows : List (String × Nat)}
    (h : Shows report (rows.map fun row => (row.1, decimal row.2)))
    (small : ∀ row ∈ rows, row.2 ≤ Nat.pow 2 64 - 1) : groupRows report = rows := by
  rw [groupRows, h.rows_eq, List.filterMap_map]
  have same : rows.filterMap some = rows := List.filterMap_some
  refine (List.filterMap_congr fun row mem => ?_).trans same
  simp [numeral?_decimal (small row mem)]

end Shows

end NodeStorage
