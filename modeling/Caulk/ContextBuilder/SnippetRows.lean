import Caulk.ContextBuilder.FileSnippet

namespace Caulk
namespace ContextBuilders

open Foundation

/-!
# The rows of a snippet

Every file with at least one line has a snippet: the bounds of the window lie
inside the file, so no subtraction underflows and no access misses.  The
window contains the requested line, clamped to the file, and has at most fifty
lines.  In a file of at least fifty lines it has exactly fifty and is the
window around the requested line, moved by as little as possible.

The text of a snippet can be taken apart again.  Between its line feeds stand
the header and the rows, and the final trimming reaches only into the last of
them: a row begins with its number and a bar, and trimming stops at the bar.
-/

namespace FileSnippetBuilder

/-- The requested line, clamped to the lines of the file. -/
def targetLine (line total : Nat) : Nat :=
  max 1 (min line total)

/-- The first of fifty lines around the target, moved to stay in the file. -/
def largeStart (line total : Nat) : Nat :=
  max 1 (min (targetLine line total - 25) (total - 49))

/-! ## Where the bounds lie -/

theorem checkedSub_of_le {left right : Nat} (fits : right ≤ left) :
    checkedSub left right = some (left - right) :=
  if_pos fits

/-- The correction at the end of the file, for at least fifty lines. -/
private theorem bounds_end {start total : Nat} (positive : 1 ≤ start) (inside : start ≤ total)
    (large : window ≤ total) :
    ((checkedSub (min (start + window - 1) total) start).bind fun span =>
      if span + 1 < window then
        (checkedSub total window).bind fun before => some (before + 1, total)
      else some (start, min (start + window - 1) total)) =
    some (min start (total - 49), min start (total - 49) + 49) := by
  have forward : start ≤ min (start + window - 1) total := by
    unfold window
    omega
  rw [checkedSub_of_le forward, checkedSub_of_le large]
  simp only [Option.bind_some]
  unfold window at *
  by_cases fits : start + 49 ≤ total
  · have full : ¬ min (start + 50 - 1) total - start + 1 < 50 := by omega
    have first : min start (total - 49) = start := by omega
    have last : min (start + 50 - 1) total = start + 49 := by omega
    rw [if_neg full, first, last]
  · have short : min (start + 50 - 1) total - start + 1 < 50 := by omega
    have first : min start (total - 49) = total - 49 := by omega
    have last : total - 49 + 49 = total := by omega
    have advanced : total - 50 + 1 = total - 49 := by omega
    rw [if_pos short, first, last, advanced]

theorem bounds_large {line total : Nat} (large : window ≤ total) :
    bounds line total = some (largeStart line total, largeStart line total + 49) := by
  unfold bounds
  simp only [large, if_true, Option.pure_def, Option.bind_eq_bind]
  split
  · rename_i far
    have fits : half ≤ max 1 (min line total) := Nat.le_of_lt far
    have start : min (max 1 (min line total) - half) (total - 49) = largeStart line total := by
      unfold largeStart targetLine half window at *
      omega
    have positive : 1 ≤ max 1 (min line total) - half := Nat.sub_pos_of_lt far
    have inside : max 1 (min line total) - half ≤ total := by
      unfold window at large
      omega
    rw [checkedSub_of_le fits, Option.bind_some, bounds_end positive inside large, start]
  · rename_i near
    have start : min 1 (total - 49) = largeStart line total := by
      unfold largeStart targetLine half window at *
      omega
    have nonempty : 1 ≤ total := Nat.le_trans (by decide) large
    rw [Option.bind_some, bounds_end (Nat.le_refl 1) nonempty large, start]

theorem firstRow_eq (line total : Nat) :
    firstRow line total = max 1 (targetLine line total - 25) := by
  unfold firstRow targetLine half window
  split <;> omega

/-- The bounds contain the target, lie inside the file, and span at most fifty
lines. -/
theorem bounds_spec (line : Nat) {total : Nat} (nonempty : 1 ≤ total) :
    ∃ start stop, bounds line total = some (start, stop) ∧ 1 ≤ start ∧
      start ≤ targetLine line total ∧ targetLine line total ≤ stop ∧ stop ≤ total ∧
      stop - start < 50 := by
  by_cases large : window ≤ total
  · refine ⟨largeStart line total, largeStart line total + 49, bounds_large large, ?_⟩
    unfold largeStart targetLine window at *
    omega
  · have small : total < window := Nat.lt_of_not_le large
    refine ⟨firstRow line total, total, bounds_small nonempty small, ?_⟩
    rw [firstRow_eq]
    unfold targetLine window at *
    omega

/-- Every file with a line has a snippet, the rendering of its bounds. -/
theorem windowSnippet_bounds (file : String) (line : Nat) (content : String)
    (nonempty : 1 ≤ (Text.lines content.toList).length) :
    ∃ start stop, bounds line (Text.lines content.toList).length = some (start, stop) ∧
      1 ≤ start ∧ start ≤ targetLine line (Text.lines content.toList).length ∧
      targetLine line (Text.lines content.toList).length ≤ stop ∧
      stop ≤ (Text.lines content.toList).length ∧ stop - start < 50 ∧
      windowSnippet file line content =
        some (rendering file line (Text.lines content.toList) start stop) := by
  rcases bounds_spec line nonempty with ⟨start, stop, chosen, positive, before, after, inside, span⟩
  refine ⟨start, stop, chosen, positive, before, after, inside, span, ?_⟩
  exact windowSnippet_eq file line content chosen positive (Nat.le_trans before after) inside

/-- The snippet of a file with at least fifty lines is the rendering of the
fifty lines from 25 before the target to 24 after it, moved just enough to
stay in the file: the first fifty for a target up to line 26, the last fifty
for a line past the end. -/
theorem large_file_shows_fifty_lines (file : String) (line : Nat) (content : String)
    (large : 50 ≤ (Text.lines content.toList).length) :
    let lines := Text.lines content.toList
    let target := max 1 (min line lines.length)
    let start := max 1 (min (target - 25) (lines.length - 49))
    windowSnippet file line content = some (rendering file line lines start (start + 49)) ∧
    start + 49 ≤ lines.length ∧
    (26 ≤ target -> target + 24 ≤ lines.length -> start + 25 = target) ∧
    (target ≤ 26 -> start = 1) ∧ (lines.length ≤ line -> start + 49 = lines.length) := by
  intro lines target start
  have chosen : bounds line lines.length = some (start, start + 49) := bounds_large large
  have nonempty : 50 ≤ lines.length := large
  have inside : start + 49 ≤ lines.length := by omega
  refine ⟨?_, inside, ?_, ?_, ?_⟩
  · exact windowSnippet_eq file line content chosen (Nat.le_max_left _ _) (Nat.le_add_right _ _)
      inside
  · intro far room
    omega
  · intro near
    omega
  · intro past
    omega

theorem length_lines_equalLines (count : Nat) :
    (Text.lines (equalLines count).toList).length = count := by
  unfold equalLines
  rw [String.toList_ofList]
  induction count with
  | zero => decide
  | succ count ih =>
      rw [List.replicate_succ, List.flatten_cons]
      have first := Text.lines_append_newline ['x'] (List.replicate count ['x', '\n']).flatten
      simp only [List.cons_append, List.nil_append] at first ⊢
      rw [first, List.length_append, ih, Nat.add_comm]
      rfl

/-- Line 30 of a file of 60 lines is shown with the lines from 5 to 54. -/
theorem sixty_lines_at_30_shown_from_5 :
    windowSnippet "notes.md" 30 (equalLines 60) =
      some (rendering "notes.md" 30 (Text.lines (equalLines 60).toList) 5 54) := by
  have length := length_lines_equalLines 60
  have large : 50 ≤ (Text.lines (equalLines 60).toList).length := by
    rw [length]
    decide
  have shown := (large_file_shows_fifty_lines "notes.md" 30 (equalLines 60) large).1
  rw [length] at shown
  exact shown

/-! ## Taking a snippet apart -/

/-- The header without its line feed. -/
def title (file : String) (line : Nat) : List Char :=
  (file ++ ":" ++ toString line).toList

/-- A row without its line feed. -/
def rowText (number : Nat) (text : List Char) : List Char :=
  Text.padLeft 4 (toString number).toList ++ [' ', '|', ' '] ++ text

/-- The `number`-th line of a file, as a row. -/
def rowOf (lines : List (List Char)) (number : Nat) : List Char :=
  rowText number (lines.getD (number - 1) [])

theorem header_eq (file : String) (line : Nat) : header file line = title file line ++ ['\n'] := by
  simp [header, title, String.toList_append]

theorem rows_eq (lines : List (List Char)) (start count : Nat) :
    rows lines start count =
      ((List.range' start count).map (rowOf lines)).flatMap (fun text => text ++ ['\n']) := by
  rw [List.flatMap_map]
  rfl

theorem newline_not_mem_number (number : Nat) : '\n' ∉ (toString number).toList := by
  intro member
  have digit := Nat.isDigit_of_mem_toDigits (by decide) (by decide)
    (Nat.toList_repr (n := number) ▸ member)
  exact absurd digit (by decide)

theorem newline_not_mem_rowText (number : Nat) {text : List Char} (clean : '\n' ∉ text) :
    '\n' ∉ rowText number text := by
  have cleanNumber := newline_not_mem_number number
  simp only [rowText, Text.padLeft, List.mem_append, not_or]
  refine ⟨⟨⟨?_, cleanNumber⟩, by decide⟩, clean⟩
  intro padding
  exact absurd (List.eq_of_mem_replicate padding) (by decide)

theorem newline_not_mem_rowOf (content : String) (number : Nat) :
    '\n' ∉ rowOf (Text.lines content.toList) number := by
  apply newline_not_mem_rowText
  rw [List.getD_eq_getElem?_getD]
  cases found : (Text.lines content.toList)[number - 1]? with
  | none => exact List.not_mem_nil
  | some text => exact Text.newline_not_mem_line (List.mem_of_getElem? found)

theorem newline_not_mem_title {file : String} (line : Nat) (clean : '\n' ∉ file.toList) :
    '\n' ∉ title file line := by
  simp only [title, String.toList_append, List.mem_append, not_or]
  exact ⟨⟨clean, by decide⟩, newline_not_mem_number line⟩

/-- Trimming a row stops at its bar. -/
theorem trimEnd_rowText (front : List Char) (number : Nat) (text : List Char) :
    Text.trimEnd (front ++ rowText number text) =
      front ++ (gutter number ++ '|' :: Text.trimEnd (' ' :: text)) := by
  have barred : front ++ rowText number text = (front ++ gutter number) ++ '|' :: ' ' :: text := by
    simp [rowText, gutter]
  rw [barred, Text.trimEnd_append _ _ (by decide), List.append_assoc]

/-- The text of a rendering: all rows but the last are ended by a line feed,
and only the last is trimmed. -/
theorem rendering_rows (file : String) (line : Nat) (lines : List (List Char)) {start stop : Nat}
    (ordered : start ≤ stop) :
    (rendering file line lines start stop).toList =
      (title file line :: (List.range' start (stop - start)).map (rowOf lines)).flatMap
        (fun text => text ++ ['\n']) ++ Text.trimEnd (rowOf lines stop) := by
  have counted : stop + 1 - start = stop - start + 1 := Nat.succ_sub ordered
  have last : start + (stop - start) = stop := Nat.add_sub_cancel' ordered
  have whole : header file line ++ rows lines start (stop + 1 - start) =
      (title file line :: (List.range' start (stop - start)).map (rowOf lines)).flatMap
        (fun text => text ++ ['\n']) ++ rowOf lines stop ++ ['\n'] := by
    rw [header_eq, rows_eq, counted, List.range'_1_concat, last, List.map_append,
      List.flatMap_append, List.flatMap_cons]
    simp
  have final : forall character, character ∈ ['\n'] -> Text.isWhitespace character = true :=
    List.forall_mem_singleton.mpr (by decide)
  rw [rendering, String.toList_ofList, whole, Text.trimEnd,
    Text.rdropWhile_append_stripped _ final, ← Text.trimEnd, rowOf, trimEnd_rowText]
  have alone := trimEnd_rowText [] stop (lines.getD (stop - 1) [])
  rw [List.nil_append, List.nil_append] at alone
  rw [alone]

/-- For every file with a line, every file name without a line feed and every
requested line, the snippet exists, and splitting it at its line feeds gives
the header and the rows of the lines from `start` to `stop`, of which only the
last is trimmed, and not past its bar. -/
theorem snippet_splits_into_rows (file : String) (line : Nat) (content : String)
    (clean : '\n' ∉ file.toList) (nonempty : 1 ≤ (Text.lines content.toList).length) :
    let lines := Text.lines content.toList
    let target := max 1 (min line lines.length)
    ∃ start stop output, windowSnippet file line content = some output ∧
      1 ≤ start ∧ start ≤ target ∧ target ≤ stop ∧ stop ≤ lines.length ∧ stop - start < 50 ∧
      output.toList.splitOn '\n' =
        title file line :: (List.range' start (stop - start)).map (rowOf lines) ++
          [Text.trimEnd (rowOf lines stop)] ∧
      (output.toList.splitOn '\n').length = stop - start + 2 ∧
      gutter stop ++ ['|'] <+: Text.trimEnd (rowOf lines stop) := by
  intro lines target
  rcases windowSnippet_bounds file line content nonempty with
    ⟨start, stop, _, positive, before, after, inside, span, shown⟩
  have barred := trimEnd_rowText [] stop (lines.getD (stop - 1) [])
  have split : (rendering file line lines start stop).toList.splitOn '\n' =
      title file line :: (List.range' start (stop - start)).map (rowOf lines) ++
        [Text.trimEnd (rowOf lines stop)] := by
    rw [rendering_rows file line lines (Nat.le_trans before after)]
    apply Text.splitOn_terminated
    · intro part member
      rcases List.mem_cons.mp member with first | row
      · rw [first]
        exact newline_not_mem_title line clean
      · rcases List.mem_map.mp row with ⟨number, _, same⟩
        rw [← same]
        exact newline_not_mem_rowOf content number
    · intro hidden
      exact newline_not_mem_rowOf content stop ((List.rdropWhile_prefix _ _).subset hidden)
  refine ⟨start, stop, _, shown, positive, before, after, inside, span, split, ?_, ?_⟩
  · rw [split]
    simp
  · rw [List.nil_append, List.nil_append] at barred
    rw [rowOf, barred]
    exact ⟨Text.trimEnd (' ' :: lines.getD (stop - 1) []), by rw [List.append_assoc]; rfl⟩

/-- The blank last line of a file is a row of its own, for a line past the
end. -/
theorem blank_tail_splits_into_rows :
    ∃ start stop output, windowSnippet "notes.md" 9 "x\n \n" = some output ∧
      1 ≤ start ∧ start ≤ 2 ∧ 2 ≤ stop ∧ stop ≤ 2 ∧ stop - start < 50 ∧
      output.toList.splitOn '\n' =
        title "notes.md" 9 :: (List.range' start (stop - start)).map (rowOf [['x'], [' ']]) ++
          [Text.trimEnd (rowOf [['x'], [' ']] stop)] ∧
      (output.toList.splitOn '\n').length = stop - start + 2 ∧
      gutter stop ++ ['|'] <+: Text.trimEnd (rowOf [['x'], [' ']] stop) :=
  snippet_splits_into_rows "notes.md" 9 "x\n \n" (by decide) (by decide)

end FileSnippetBuilder

end ContextBuilders
end Caulk
