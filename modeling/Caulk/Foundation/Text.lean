import Caulk.Foundation.Runs
import Mathlib.Data.List.DropRight

namespace Foundation

/-!
# Lines, white space and padding

The text functions of the source language's standard library, on lists of
characters.  A line ends at a line feed, and a carriage return right before
the line feed belongs to the line end; a last piece without a line feed is a
line too unless it is empty.

Trimming removes the longest stretch of unwanted characters at an end.  Its
lemmas come in two kinds: where trimming stops, and what it took away.
-/

namespace Text

/-- The characters with the Unicode property White_Space. -/
def isWhitespace (character : Char) : Bool :=
  let code := character.toNat
  (9 ≤ code && code ≤ 13) || code == 32 || code == 133 || code == 160 || code == 5760 ||
    (8192 ≤ code && code ≤ 8202) || code == 8232 || code == 8233 || code == 8239 ||
    code == 8287 || code == 12288

/-- Remove one carriage return at the end. -/
def stripCr (line : List Char) : List Char :=
  if line.getLast? = some '\r' then line.dropLast else line

/-- The lines among the pieces between line feeds: every piece but the last
was ended by one. -/
def linesOfParts : List (List Char) -> List (List Char)
  | [] => []
  | [last] => if last = [] then [] else [last]
  | part :: rest => stripCr part :: linesOfParts rest

/-- `str::lines`. -/
def lines (text : List Char) : List (List Char) :=
  linesOfParts (text.splitOn '\n')

/-- `str::trim_end_matches`, for a predicate. -/
def trimEndMatches (strip : Char -> Bool) (text : List Char) : List Char :=
  text.rdropWhile strip

/-- `str::trim_matches`, for a predicate. -/
def trimMatches (strip : Char -> Bool) (text : List Char) : List Char :=
  (text.dropWhile strip).rdropWhile strip

/-- `str::trim_end`. -/
def trimEnd (text : List Char) : List Char :=
  text.rdropWhile isWhitespace

/-- `str::trim_start`. -/
def trimStart (text : List Char) : List Char :=
  text.dropWhile isWhitespace

/-- `str::trim`. -/
def trim (text : List Char) : List Char :=
  trimMatches isWhitespace text

/-- Pad with blanks on the left to a width. -/
def padLeft (width : Nat) (text : List Char) : List Char :=
  List.replicate (width - text.length) ' ' ++ text

/-! ## Trimming -/

section Trimming

variable {strip : Char -> Bool}

/-- Trimming at the end stops at the last character that stays. -/
theorem rdropWhile_append_solid (front back : List Char) {last : Char}
    (solid : strip last = false) :
    (front ++ last :: back).rdropWhile strip = front ++ last :: back.rdropWhile strip := by
  induction back using List.reverseRecOn with
  | nil =>
      rw [List.rdropWhile_nil, List.rdropWhile_concat_neg]
      rw [solid]
      exact Bool.false_ne_true
  | append_singleton back final ih =>
      rw [← List.cons_append, ← List.append_assoc, List.rdropWhile_concat, List.rdropWhile_concat]
      split
      · exact ih
      · rw [List.append_assoc, List.cons_append]

/-- Trimming stops at the last character that is not white space. -/
theorem trimEnd_append (front back : List Char) {last : Char} (solid : isWhitespace last = false) :
    trimEnd (front ++ last :: back) = front ++ last :: trimEnd back :=
  rdropWhile_append_solid front back solid

/-- It takes away a stretch of unwanted characters, and removes from what is
before them as if they were not there. -/
theorem rdropWhile_append_stripped (front : List Char) {back : List Char}
    (stripped : forall character, character ∈ back -> strip character = true) :
    (front ++ back).rdropWhile strip = front.rdropWhile strip := by
  unfold List.rdropWhile
  rw [List.reverse_append, List.dropWhile_append_of_pos]
  intro character member
  exact stripped character (List.mem_reverse.mp member)

/-- Trimming at the start stops at the first character that stays. -/
theorem dropWhile_append_solid {front : List Char} (back : List Char) {first : Char}
    (stripped : forall character, character ∈ front -> strip character = true)
    (solid : strip first = false) : (front ++ first :: back).dropWhile strip = first :: back := by
  rw [List.dropWhile_append_of_pos stripped, List.dropWhile_cons_of_neg]
  rw [solid]
  exact Bool.false_ne_true

/-- What trimming took away, and where it stopped. -/
theorem trimMatches_split (strip : Char -> Bool) (text : List Char) :
    ∃ front back, text = front ++ trimMatches strip text ++ back ∧
      (forall character, character ∈ front -> strip character = true) ∧
      (forall character, character ∈ back -> strip character = true) ∧
      (forall first, (trimMatches strip text).head? = some first -> strip first = false) := by
  refine ⟨text.takeWhile strip, (text.dropWhile strip).rtakeWhile strip, ?_, ?_, ?_, ?_⟩
  · rw [trimMatches, List.append_assoc, List.rdropWhile_append_rtakeWhile,
      List.takeWhile_append_dropWhile]
  · intro character member
    exact List.mem_takeWhile_imp member
  · intro character member
    exact List.mem_rtakeWhile_imp member
  · intro first starts
    rcases List.rdropWhile_prefix strip (text.dropWhile strip) with ⟨rest, whole⟩
    have kept : (text.dropWhile strip).head? = some first := by
      rw [← whole, List.head?_append]
      exact congrArg (fun head => head.or rest.head?) starts
    have stops := List.head?_dropWhile_not strip text
    rw [kept] at stops
    exact stops

/-- Nothing is left of a text where everything is unwanted. -/
theorem trimMatches_eq_nil_iff {text : List Char} :
    trimMatches strip text = [] <-> forall character, character ∈ text -> strip character = true := by
  constructor
  · intro empty character member
    rcases trimMatches_split strip text with ⟨front, back, whole, wrapsFront, wrapsBack, _⟩
    rw [whole, empty, List.append_nil] at member
    exact (List.mem_append.mp member).elim (wrapsFront character) (wrapsBack character)
  · intro stripped
    rw [trimMatches, List.dropWhile_eq_nil_iff.mpr stripped, List.rdropWhile_nil]

/-- What is before or after a text does not matter if it is unwanted. -/
theorem trimMatches_absorb {front back : List Char} (text : List Char)
    (wrapsFront : forall character, character ∈ front -> strip character = true)
    (wrapsBack : forall character, character ∈ back -> strip character = true) :
    trimMatches strip (front ++ text ++ back) = trimMatches strip text := by
  unfold trimMatches
  rw [List.append_assoc, List.dropWhile_append_of_pos wrapsFront, List.dropWhile_append]
  split
  · rename_i nothing
    rw [List.dropWhile_eq_nil_iff.mpr wrapsBack, List.isEmpty_iff.mp nothing]
  · exact rdropWhile_append_stripped _ wrapsBack

theorem trimMatches_idempotent (strip : Char -> Bool) (text : List Char) :
    trimMatches strip (trimMatches strip text) = trimMatches strip text := by
  rcases trimMatches_split strip text with ⟨front, back, whole, wrapsFront, wrapsBack, _⟩
  have absorbed := trimMatches_absorb (trimMatches strip text) wrapsFront wrapsBack
  rw [← whole] at absorbed
  exact absorbed.symm

/-- Nothing is trimmed where nothing is unwanted. -/
theorem trimMatches_of_solid {text : List Char}
    (solid : forall character, character ∈ text -> strip character = false) :
    trimMatches strip text = text := by
  have kept : text.dropWhile strip = text := by
    cases text with
    | nil => rfl
    | cons first rest =>
        rw [List.dropWhile_cons_of_neg]
        rw [solid first List.mem_cons_self]
        exact Bool.false_ne_true
  rw [trimMatches, kept, List.rdropWhile_eq_self_iff]
  intro nonempty
  rw [solid _ (List.getLast_mem nonempty)]
  exact Bool.false_ne_true

end Trimming

/-! ## Lines -/

theorem newline_not_mem_part {text part : List Char} (member : part ∈ text.splitOn '\n') :
    '\n' ∉ part := by
  intro inside
  rw [List.splitOn_eq_splitOnP] at member
  exact absurd (Runs.item_of_mem_splitOnP member '\n' inside).1 (by decide)

/-- A piece keeps all of its characters but perhaps one carriage return. -/
theorem stripCr_split (line : List Char) :
    line = stripCr line ∨ line = stripCr line ++ ['\r'] := by
  unfold stripCr
  split
  · rename_i ended
    rcases List.getLast?_eq_some_iff.mp ended with ⟨front, whole⟩
    right
    rw [whole, List.dropLast_concat]
  · exact Or.inl rfl

theorem mem_of_mem_stripCr {line : List Char} {character : Char}
    (member : character ∈ stripCr line) : character ∈ line := by
  rcases stripCr_split line with same | shorter
  · rw [same]
    exact member
  · rw [shorter]
    exact List.mem_append_left _ member

/-- Every piece that another one follows was ended. -/
theorem linesOfParts_append (front : List (List Char)) {back : List (List Char)}
    (continued : back ≠ []) :
    linesOfParts (front ++ back) = front.map stripCr ++ linesOfParts back := by
  induction front with
  | nil => rfl
  | cons part rest ih =>
      cases following : rest ++ back with
      | nil => exact absurd (List.append_eq_nil_iff.mp following).2 continued
      | cons next others =>
          rw [List.cons_append, following, linesOfParts, ← following, ih]
          · rfl
          · intro impossible
            cases impossible

@[simp] theorem lines_nil : lines [] = [] :=
  rfl

/-- A line feed ends the lines before it. -/
theorem lines_append_newline (front back : List Char) :
    lines (front ++ '\n' :: back) = (front.splitOn '\n').map stripCr ++ lines back := by
  unfold lines
  rw [List.splitOn_append_cons_self]
  exact linesOfParts_append _ (List.splitOn_ne_nil _ _)

/-- There is a last piece, which no line feed ended. -/
theorem exists_parts (text : List Char) :
    ∃ parts last, text.splitOn '\n' = parts ++ [last] := by
  rcases List.eq_nil_or_concat' (text.splitOn '\n') with empty | split
  · exact absurd empty (List.splitOn_ne_nil _ _)
  · exact split

/-- The same for a text without a final line feed. -/
theorem lines_of_parts {text last : List Char} {parts : List (List Char)}
    (pieces : text.splitOn '\n' = parts ++ [last]) :
    lines text = parts.map stripCr ++ linesOfParts [last] := by
  unfold lines
  rw [pieces]
  exact linesOfParts_append _ (List.cons_ne_nil _ _)

/-- Every line is taken from a piece. -/
theorem part_of_mem_lines {text line : List Char} (member : line ∈ lines text) :
    ∃ part, part ∈ text.splitOn '\n' ∧ forall character, character ∈ line -> character ∈ part := by
  rcases exists_parts text with ⟨parts, last, pieces⟩
  rw [lines_of_parts pieces] at member
  rw [pieces]
  rcases List.mem_append.mp member with ended | final
  · rcases List.mem_map.mp ended with ⟨part, inside, stripped⟩
    refine ⟨part, List.mem_append_left _ inside, ?_⟩
    intro character found
    rw [← stripped] at found
    exact mem_of_mem_stripCr found
  · simp only [linesOfParts] at final
    split at final
    · cases final
    · refine ⟨last, List.mem_append_right _ List.mem_cons_self, ?_⟩
      rw [List.mem_singleton.mp final]
      exact fun _ found => found

theorem newline_not_mem_line {text line : List Char} (member : line ∈ lines text) :
    '\n' ∉ line := by
  intro inside
  rcases part_of_mem_lines member with ⟨part, found, included⟩
  exact newline_not_mem_part found (included '\n' inside)

theorem mem_of_mem_line {text line : List Char} (member : line ∈ lines text) {character : Char}
    (inside : character ∈ line) : character ∈ text := by
  rcases part_of_mem_lines member with ⟨part, found, included⟩
  rw [List.splitOn_eq_splitOnP] at found
  exact (Runs.item_of_mem_splitOnP found character (included character inside)).2

/-- Splitting a text of ended lines and one more line gives them back. -/
theorem splitOn_terminated (parts : List (List Char)) {last : List Char}
    (clean : forall part, part ∈ parts -> '\n' ∉ part) (cleanLast : '\n' ∉ last) :
    (parts.flatMap (fun part => part ++ ['\n']) ++ last).splitOn '\n' = parts ++ [last] := by
  induction parts with
  | nil => exact List.splitOn_eq_singleton cleanLast
  | cons part rest ih =>
      rw [List.flatMap_cons, List.append_assoc, List.append_assoc, List.singleton_append,
        List.splitOn_append_cons_self_of_not_mem (clean part List.mem_cons_self),
        ih (fun other member => clean other (List.mem_cons_of_mem part member))]
      rfl

end Text

end Foundation
