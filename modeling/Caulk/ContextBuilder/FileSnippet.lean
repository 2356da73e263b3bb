import Caulk.ContextBuilder
import Caulk.Foundation.Text

namespace Caulk
namespace ContextBuilders

open Caulk.Core
open Foundation

/-!
# Windows of a file

`window_snippet` shows a file around a requested line: up to fifty numbered
rows under a header.  Its subtractions and its indexing can panic in the
source, so they are partial here and the whole function is.

The first row is computed from the requested line before the length of the
file is looked at.  The correction that follows is meant for windows that run
past the end, but it applies to files of at least fifty lines only; a shorter
file is shown from that first row on.
-/

namespace FileSnippetBuilder

def window : Nat := 50

def half : Nat := window / 2

/-- Subtraction of machine integers: an underflow panics. -/
def checkedSub (left right : Nat) : Option Nat :=
  if right ≤ left then some (left - right) else none

/-- The numbers of the first and the last row, for a file with at least one
line. -/
def bounds (line total : Nat) : Option (Nat × Nat) := do
  let target := max 1 (min line total)
  let start ← if target > half then checkedSub target half else some 1
  let stop := min (start + window - 1) total
  if window ≤ total then
    let span ← checkedSub stop start
    if span + 1 < window then
      let before ← checkedSub total window
      return (before + 1, total)
  return (start, stop)

/-- The first row of every snippet, with the number as it was requested. -/
def header (file : String) (line : Nat) : List Char :=
  (file ++ ":" ++ toString line ++ "\n").toList

/-- One numbered row. -/
def row (number : Nat) (text : List Char) : List Char :=
  Text.padLeft 4 (toString number).toList ++ [' ', '|', ' '] ++ text ++ ['\n']

/-- One round of the loop over the rows. -/
def pushRow (lines : List (List Char)) (out : List Char) (lineno : Nat) : Option (List Char) := do
  let index ← checkedSub lineno 1
  let text ← lines[index]?
  return out ++ row lineno text

def windowSnippet (file : String) (line : Nat) (content : String) : Option String := do
  let lines := Text.lines content.toList
  let total := lines.length
  if total = 0 then
    return file ++ ":" ++ toString line ++ " (empty file)"
  let (start, stop) ← bounds line total
  let out ← (List.range' start (stop + 1 - start)).foldlM (pushRow lines) (header file line)
  return String.ofList (Text.trimEnd out)

/-! ## The text of a snippet -/

/-- The rows of the lines from one number up to another. -/
def rows (lines : List (List Char)) (start count : Nat) : List Char :=
  (List.range' start count).flatMap (fun number => row number (lines.getD (number - 1) []))

/-- The snippet that shows the lines from `start` to `stop`. -/
def rendering (file : String) (line : Nat) (lines : List (List Char)) (start stop : Nat) : String :=
  String.ofList (Text.trimEnd (header file line ++ rows lines start (stop + 1 - start)))

/-- The loop appends the rows, and none of its accesses panics. -/
theorem foldlM_pushRow (lines : List (List Char)) (out : List Char) {start count : Nat}
    (positive : 1 ≤ start) (inside : start + count ≤ lines.length + 1) :
    (List.range' start count).foldlM (pushRow lines) out = some (out ++ rows lines start count) := by
  induction count generalizing start out with
  | zero =>
      simp [rows]
  | succ count ih =>
      have early : start - 1 < lines.length := by omega
      have pushed : pushRow lines out start = some (out ++ row start (lines.getD (start - 1) [])) := by
        simp [pushRow, checkedSub, positive, early]
      rw [List.range'_succ, List.foldlM_cons, pushed]
      simp only [Option.bind_eq_bind, Option.bind_some]
      rw [ih _ (by omega) (by omega)]
      simp [rows, List.range'_succ]

/-- Where the bounds lie inside the file, the snippet is their rendering. -/
theorem windowSnippet_eq (file : String) (line : Nat) (content : String) {start stop : Nat}
    (chosen : bounds line (Text.lines content.toList).length = some (start, stop))
    (positive : 1 ≤ start) (ordered : start ≤ stop) (inside : stop ≤ (Text.lines content.toList).length) :
    windowSnippet file line content =
      some (rendering file line (Text.lines content.toList) start stop) := by
  have nonempty : (Text.lines content.toList).length ≠ 0 := by omega
  unfold windowSnippet
  simp only [nonempty, if_false, chosen, Option.bind_eq_bind, Option.bind_some]
  rw [foldlM_pushRow _ _ positive (by omega)]
  rfl

/-! ## Files of fewer than fifty lines -/

/-- The number of the first row, for a file of fewer than fifty lines. -/
def firstRow (line total : Nat) : Nat :=
  if max 1 (min line total) > half then max 1 (min line total) - half else 1

/-- Such a file is shown from its first row to its end. -/
theorem bounds_small {line total : Nat} (nonempty : 1 ≤ total) (small : total < window) :
    bounds line total = some (firstRow line total, total) := by
  have short : ¬ window ≤ total := Nat.not_le_of_lt small
  unfold bounds firstRow
  simp only [short, if_false, Option.pure_def, Option.bind_eq_bind]
  unfold window at small
  split
  · rename_i far
    have fits : half ≤ max 1 (min line total) := Nat.le_of_lt far
    have past : min (max 1 (min line total) - half + window - 1) total = total := by
      unfold half window at *
      omega
    simp only [checkedSub, if_pos fits, Option.bind_some, past]
  · have past : min (1 + window - 1) total = total := by
      unfold window
      omega
    simp only [Option.bind_some, past]

theorem firstRow_bounds {line total : Nat} (nonempty : 1 ≤ total) :
    1 ≤ firstRow line total ∧ firstRow line total ≤ total := by
  unfold firstRow half window
  split <;> omega

/-- It is shown from the start unless both the requested line and the file
reach past line 26. -/
theorem firstRow_eq_one_iff {line total : Nat} :
    firstRow line total = 1 <-> line ≤ 26 ∨ total ≤ 26 := by
  unfold firstRow half window
  split <;> omega

theorem windowSnippet_small (file : String) (line : Nat) (content : String)
    (nonempty : 1 ≤ (Text.lines content.toList).length)
    (small : (Text.lines content.toList).length < 50) :
    windowSnippet file line content =
      some (rendering file line (Text.lines content.toList)
        (firstRow line (Text.lines content.toList).length) (Text.lines content.toList).length) := by
  have inside := @firstRow_bounds line _ nonempty
  exact windowSnippet_eq file line content (bounds_small nonempty small) inside.1 inside.2
    (Nat.le_refl _)

/-! ## Different first rows give different texts -/

/-- The padded number of a row. -/
def gutter (number : Nat) : List Char :=
  Text.padLeft 4 (toString number).toList ++ [' ']

theorem gutter_length : forall number, number < 50 -> (gutter number).length = 5 := by
  decide

theorem gutter_eq_one : forall number, number < 50 -> gutter number = gutter 1 -> number = 1 := by
  decide

/-- A rendering begins with its header and the number of its first row. -/
theorem rendering_toList (file : String) (line : Nat) (lines : List (List Char)) {start stop : Nat}
    (ordered : start ≤ stop) :
    ∃ rest, (rendering file line lines start stop).toList =
      header file line ++ (gutter start ++ '|' :: rest) := by
  have counted : stop + 1 - start = stop - start + 1 := by omega
  have split : ∃ rest, header file line ++ rows lines start (stop + 1 - start) =
      (header file line ++ gutter start) ++ '|' :: rest := by
    rw [counted]
    exact ⟨' ' :: lines.getD (start - 1) [] ++ ['\n'] ++ rows lines (start + 1) (stop - start),
      by simp [rows, row, gutter, List.range'_succ]⟩
  rcases split with ⟨rest, whole⟩
  refine ⟨Text.trimEnd rest, ?_⟩
  rw [rendering, String.toList_ofList, whole, Text.trimEnd_append _ _ (by decide),
    List.append_assoc]

theorem rendering_from_start {file : String} {line start stop : Nat} {lines : List (List Char)}
    (positive : 1 ≤ start) (ordered : start ≤ stop) (small : stop < 50)
    (same : rendering file line lines start stop = rendering file line lines 1 stop) : start = 1 := by
  rcases rendering_toList file line lines ordered with ⟨rest, text⟩
  rcases rendering_toList file line lines (Nat.le_trans positive ordered) with ⟨rest', text'⟩
  rw [same, text'] at text
  have afterHeader := List.append_cancel_left text
  have lengths : (gutter 1).length = (gutter start).length := by
    rw [gutter_length 1 (by omega), gutter_length start (by omega)]
  exact gutter_eq_one start (by omega) (List.append_inj afterHeader lengths).1.symm

/-- A file of fewer than fifty lines is shown whole, from line 1 to its last,
if and only if the requested line or the length of the file is at most 26. -/
theorem small_file_shown_whole_iff (file : String) (line : Nat) (content : String)
    (nonempty : 1 ≤ (Text.lines content.toList).length)
    (small : (Text.lines content.toList).length < 50) :
    windowSnippet file line content =
        some (rendering file line (Text.lines content.toList) 1 (Text.lines content.toList).length) <->
      line ≤ 26 ∨ (Text.lines content.toList).length ≤ 26 := by
  rw [windowSnippet_small file line content nonempty small, ← firstRow_eq_one_iff]
  have inside := @firstRow_bounds line _ nonempty
  constructor
  · intro same
    exact rendering_from_start inside.1 inside.2 small (Option.some.inj same)
  · intro first
    rw [first]

/-- A file of equal lines. -/
def equalLines (count : Nat) : String :=
  String.ofList (List.replicate count ['x', '\n']).flatten

/-- Line 26 of a file of 30 lines is the last one for which it is shown whole. -/
theorem thirty_lines_at_26_shown_whole :
    windowSnippet "notes.md" 26 (equalLines 30) =
      some (rendering "notes.md" 26 (Text.lines (equalLines 30).toList) 1
        (Text.lines (equalLines 30).toList).length) :=
  (small_file_shown_whole_iff "notes.md" 26 (equalLines 30) (by decide) (by decide)).mpr
    (Or.inl (Nat.le_refl 26))

/-- At line 27 its first line is missing. -/
theorem thirty_lines_at_27_cut :
    (Text.lines (equalLines 30).toList).length = 30 ∧
    windowSnippet "notes.md" 27 (equalLines 30) ≠
      some (rendering "notes.md" 27 (Text.lines (equalLines 30).toList) 1 30) := by
  have length : (Text.lines (equalLines 30).toList).length = 30 := by decide
  refine ⟨length, ?_⟩
  intro same
  rw [windowSnippet_small _ _ _ (by decide) (by decide), length] at same
  have first : firstRow 27 30 = 1 :=
    rendering_from_start (by decide) (by decide) (by decide) (Option.some.inj same)
  exact absurd first (by decide)

end FileSnippetBuilder

end ContextBuilders
end Caulk
