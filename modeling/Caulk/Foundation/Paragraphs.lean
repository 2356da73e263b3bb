import Caulk.Foundation.Separator
import Caulk.Foundation.Text
import Mathlib.Data.List.ModifyLast

namespace Foundation

/-!
# Paragraphs

The paragraphs of a text are its maximal runs of nonblank lines, each joined
again by line feeds and trimmed as a whole.

Two laws relate paragraphs to the texts they come from.  At an empty line two
texts have their paragraphs side by side, although the last line of the first
text may read differently there: a carriage return before the line feed
belongs to the line end, and the trimming makes up for it.  And a paragraph is
one paragraph when it is read again, the same one if no carriage return is in
it.  For the second law the trimming is brought down to the first and the last
line of the run.
-/

namespace Text

/-- A line of white space only. -/
def isBlank (line : List Char) : Bool :=
  (trim line).isEmpty

/-- The lines with a line feed between every two. -/
def joinLines (lines : List (List Char)) : List Char :=
  List.intercalate ['\n'] lines

/-- The text of one run of lines. -/
def paragraph (run : List (List Char)) : List Char :=
  trim (joinLines run)

def paragraphs (text : List Char) : List (List Char) :=
  (runs isBlank (lines text)).map paragraph

/-! ## Blank lines -/

/-- White space around a line does not make it blank or nonblank. -/
theorem isBlank_absorb {front back : List Char} (line : List Char)
    (whiteFront : forall character, character ∈ front -> isWhitespace character = true)
    (whiteBack : forall character, character ∈ back -> isWhitespace character = true) :
    isBlank (front ++ line ++ back) = isBlank line := by
  rw [isBlank, trim, trimMatches_absorb line whiteFront whiteBack]
  rfl

theorem isBlank_eq_true_iff {line : List Char} :
    isBlank line = true <-> forall character, character ∈ line -> isWhitespace character = true := by
  rw [isBlank, List.isEmpty_iff]
  exact trimMatches_eq_nil_iff

/-- A nonblank line has a character that is not white space. -/
theorem exists_solid {line : List Char} (solid : isBlank line = false) :
    ∃ front character back, line = front ++ character :: back ∧ isWhitespace character = false := by
  by_contra none
  have blank : isBlank line = true := by
    rw [isBlank_eq_true_iff]
    intro character member
    by_contra other
    rcases List.append_of_mem member with ⟨front, back, split⟩
    exact none ⟨front, character, back, split, eq_false_of_ne_true other⟩
  rw [blank] at solid
  cases solid

theorem ne_nil_of_solid {line : List Char} (solid : isBlank line = false) : line ≠ [] := by
  intro empty
  rw [empty] at solid
  cases solid

theorem isBlank_stripCr (line : List Char) : isBlank (stripCr line) = isBlank line := by
  rcases stripCr_split line with same | shorter
  · rw [← same]
  · have ending := @isBlank_absorb [] ['\r'] (stripCr line) (by simp)
      (List.forall_mem_singleton.mpr (by decide))
    rw [List.nil_append, ← shorter] at ending
    exact ending.symm

theorem isBlank_trimStart (line : List Char) : isBlank (trimStart line) = isBlank line := by
  have front : forall character, character ∈ line.takeWhile isWhitespace ->
      isWhitespace character = true := fun _ member => List.mem_takeWhile_imp member
  have absorbed := @isBlank_absorb _ [] (trimStart line) front (by simp)
  rw [List.append_nil, trimStart, List.takeWhile_append_dropWhile] at absorbed
  exact absorbed.symm

theorem isBlank_trimEnd (line : List Char) : isBlank (trimEnd line) = isBlank line := by
  have back : forall character, character ∈ line.rtakeWhile isWhitespace ->
      isWhitespace character = true := fun _ member => List.mem_rtakeWhile_imp member
  have absorbed := @isBlank_absorb [] _ (trimEnd line) (by simp) back
  rw [List.nil_append, trimEnd, List.rdropWhile_append_rtakeWhile] at absorbed
  exact absorbed.symm

/-! ## Joined lines -/

theorem joinLines_cons (first : List Char) (rest : List (List Char)) :
    joinLines (first :: rest) = first ++ rest.flatMap (fun line => '\n' :: line) := by
  induction rest generalizing first with
  | nil => simp [joinLines]
  | cons next others ih =>
      have joined := ih next
      unfold joinLines at joined ⊢
      rw [List.intercalate_cons_cons, joined, List.flatMap_cons]
      simp

theorem joinLines_concat (front : List (List Char)) (last : List Char) :
    joinLines (front ++ [last]) = front.flatMap (fun line => line ++ ['\n']) ++ last := by
  induction front with
  | nil => simp [joinLines]
  | cons first rest ih =>
      have nonempty : rest ++ [last] ≠ [] := by simp
      unfold joinLines at ih ⊢
      rw [List.cons_append, List.intercalate_cons_of_ne_nil nonempty, ih, List.flatMap_cons]
      simp

/-- The end of the last line does not show in a paragraph. -/
theorem paragraph_concat_stripCr (front : List (List Char)) (last : List Char) :
    paragraph (front ++ [stripCr last]) = paragraph (front ++ [last]) := by
  rcases stripCr_split last with same | longer
  · rw [← same]
  · have ending := @trimMatches_absorb isWhitespace [] ['\r'] (joinLines (front ++ [stripCr last]))
      (by simp) (List.forall_mem_singleton.mpr (by decide))
    have whole : [] ++ joinLines (front ++ [stripCr last]) ++ ['\r'] = joinLines (front ++ [last]) := by
      rw [joinLines_concat, joinLines_concat, List.nil_append, List.append_assoc, ← longer]
    rw [whole] at ending
    exact ending.symm

/-! ## Paragraphs side by side -/

/-- Ending the last line of a text changes no paragraph. -/
theorem paragraphs_append_newline (text : List Char) :
    paragraphs (text ++ ['\n']) = paragraphs text := by
  rcases exists_parts text with ⟨parts, last, pieces⟩
  have ended : lines (text ++ ['\n']) = parts.map stripCr ++ [stripCr last] := by
    have all := lines_append_newline text []
    rw [pieces, List.map_append] at all
    simpa using all
  unfold paragraphs
  rw [ended, lines_of_parts pieces, linesOfParts]
  by_cases blank : isBlank last = true
  · rw [Runs.runs_concat_separator _ (by rw [isBlank_stripCr]; exact blank)]
    split
    · rw [List.append_nil]
    · rw [Runs.runs_concat_separator _ blank]
  · have solid : isBlank last = false := eq_false_of_ne_true blank
    have solidEnd : isBlank (stripCr last) = false := (isBlank_stripCr last).trans solid
    rcases Runs.runs_concat_solid isBlank (parts.map stripCr) with ⟨complete, stretch, cut⟩
    rw [if_neg (ne_nil_of_solid solid), cut last solid, cut (stripCr last) solidEnd,
      List.map_append, List.map_append, List.map_singleton, List.map_singleton,
      paragraph_concat_stripCr]

/-- At an empty line two texts have their paragraphs side by side. -/
theorem paragraphs_append_blank (front back : List Char) :
    paragraphs (front ++ '\n' :: '\n' :: back) = paragraphs front ++ paragraphs back := by
  have ended := lines_append_newline front []
  have whole := lines_append_newline front ('\n' :: back)
  have empty := lines_append_newline [] back
  rw [lines_nil, List.append_nil] at ended
  rw [List.splitOn_nil, List.nil_append] at empty
  rw [← ended, empty] at whole
  rw [← paragraphs_append_newline front]
  unfold paragraphs
  rw [whole]
  have blank : isBlank (stripCr []) = true := by decide
  exact (congrArg (List.map paragraph) (Runs.runs_append_separator _ _ blank)).trans List.map_append

/-! ## Trimming the first and the last line -/

/-- A run of lines as it stands between blank lines. -/
structure Block (run : List (List Char)) : Prop where
  nonempty : run ≠ []
  solid : forall line, line ∈ run -> isBlank line = false
  clean : forall line, line ∈ run -> '\n' ∉ line

theorem block_of_mem_runs {text : List Char} {run : List (List Char)}
    (member : run ∈ runs isBlank (lines text)) : Block run where
  nonempty := Runs.ne_nil_of_mem member
  solid := Runs.solid_of_mem member
  clean line inside := newline_not_mem_line (Runs.mem_of_mem member line inside)

/-- The run with white space removed before its first line and after its last. -/
def trimRun (run : List (List Char)) : List (List Char) :=
  (run.modifyHead trimStart).modifyLast trimEnd

theorem trimStart_joinLines {first : List Char} (rest : List (List Char))
    (solid : isBlank first = false) :
    trimStart (joinLines (first :: rest)) = joinLines (trimStart first :: rest) := by
  rcases exists_solid solid with ⟨front, character, back, split, stays⟩
  have kept : ¬ (first.dropWhile isWhitespace).isEmpty = true := by
    rw [List.isEmpty_iff, List.dropWhile_eq_nil_iff]
    intro white
    have inside : character ∈ first := by
      rw [split]
      exact List.mem_append_right _ List.mem_cons_self
    rw [white character inside] at stays
    cases stays
  rw [joinLines_cons, joinLines_cons, trimStart, List.dropWhile_append, if_neg kept]
  rfl

theorem trimEnd_joinLines (front : List (List Char)) {last : List Char}
    (solid : isBlank last = false) :
    trimEnd (joinLines (front ++ [last])) = joinLines (front ++ [trimEnd last]) := by
  rcases exists_solid solid with ⟨before, character, after, split, stays⟩
  rw [joinLines_concat, joinLines_concat, split, trimEnd_append before after stays,
    ← List.append_assoc, trimEnd_append _ after stays, List.append_assoc]

/-- Where the trimming of a run takes place. -/
theorem trimRun_cons (first : List Char) (rest : List (List Char)) :
    ∃ front last, trimStart first :: rest = front ++ [last] ∧
      trimRun (first :: rest) = front ++ [trimEnd last] := by
  rcases List.eq_nil_or_concat' (trimStart first :: rest) with empty | ⟨front, last, split⟩
  · cases empty
  · refine ⟨front, last, split, ?_⟩
    rw [trimRun, List.modifyHead_cons, split, List.modifyLast_concat]

/-- Trimming leaves no line out and makes no line blank. -/
theorem line_of_mem_trimRun {run : List (List Char)} {line : List Char}
    (member : line ∈ trimRun run) :
    ∃ whole, whole ∈ run ∧ isBlank line = isBlank whole ∧
      forall character, character ∈ line -> character ∈ whole := by
  cases run with
  | nil => cases member
  | cons first rest =>
      rcases trimRun_cons first rest with ⟨front, last, split, trimmed⟩
      have started : forall other, other ∈ front ++ [last] -> ∃ whole,
          whole ∈ first :: rest ∧ isBlank other = isBlank whole ∧
            forall character, character ∈ other -> character ∈ whole := by
        intro other inside
        rw [← split] at inside
        rcases List.mem_cons.mp inside with same | later
        · rw [same]
          exact ⟨first, List.mem_cons_self, isBlank_trimStart first,
            fun _ found => (List.dropWhile_suffix _).subset found⟩
        · exact ⟨other, List.mem_cons_of_mem first later, rfl, fun _ found => found⟩
      rw [trimmed] at member
      rcases List.mem_append.mp member with earlier | final
      · exact started line (List.mem_append_left _ earlier)
      · rcases started last (List.mem_append_right _ List.mem_cons_self) with
          ⟨whole, inside, same, included⟩
        rw [List.mem_singleton.mp final]
        exact ⟨whole, inside, (isBlank_trimEnd last).trans same,
          fun _ found => included _ ((List.rdropWhile_prefix _ _).subset found)⟩

theorem Block.trimRun {run : List (List Char)} (block : Block run) : Block (trimRun run) where
  nonempty := by
    rcases List.exists_cons_of_ne_nil block.nonempty with ⟨first, rest, whole⟩
    rcases trimRun_cons first rest with ⟨front, last, _, trimmed⟩
    rw [whole, trimmed]
    simp
  solid line member := by
    rcases line_of_mem_trimRun member with ⟨whole, inside, same, _⟩
    rw [same]
    exact block.solid whole inside
  clean line member := by
    rcases line_of_mem_trimRun member with ⟨whole, inside, _, included⟩
    exact fun found => block.clean whole inside (included _ found)

/-- Trimming a paragraph is trimming its first and its last line. -/
theorem paragraph_eq_joinLines {run : List (List Char)} (block : Block run) :
    paragraph run = joinLines (trimRun run) := by
  cases run with
  | nil => exact absurd rfl block.nonempty
  | cons first rest =>
      rcases trimRun_cons first rest with ⟨front, last, split, trimmed⟩
      have solidFirst := block.solid first List.mem_cons_self
      have solidLast : isBlank last = false := by
        have member : last ∈ trimStart first :: rest := by
          rw [split]
          exact List.mem_append_right _ List.mem_cons_self
        rcases List.mem_cons.mp member with same | later
        · rw [same, isBlank_trimStart]
          exact solidFirst
        · exact block.solid last (List.mem_cons_of_mem first later)
      calc
        paragraph (first :: rest) = trimEnd (trimStart (joinLines (first :: rest))) := rfl
        _ = trimEnd (joinLines (front ++ [last])) := by
          rw [trimStart_joinLines rest solidFirst, split]
        _ = joinLines (front ++ [trimEnd last]) := trimEnd_joinLines front solidLast
        _ = joinLines (Text.trimRun (first :: rest)) := by rw [trimmed]

theorem ne_nil_of_mem_paragraphs {text part : List Char} (member : part ∈ paragraphs text) :
    part ≠ [] := by
  rcases List.mem_map.mp member with ⟨run, inside, same⟩
  have block := (block_of_mem_runs inside).trimRun
  rw [← same, paragraph_eq_joinLines (block_of_mem_runs inside)]
  rcases List.exists_cons_of_ne_nil block.nonempty with ⟨first, rest, split⟩
  have present : first ≠ [] := by
    apply ne_nil_of_solid
    apply block.solid
    rw [split]
    exact List.mem_cons_self
  rw [split, joinLines_cons]
  exact fun empty => present (List.append_eq_nil_iff.mp empty).1

/-- A text with a nonblank line has a paragraph. -/
theorem paragraphs_ne_nil {text line : List Char} (member : line ∈ lines text)
    (solid : isBlank line = false) : paragraphs text ≠ [] := by
  rcases Runs.exists_run_of_solid member solid with ⟨run, inside, _⟩
  exact List.ne_nil_of_mem (List.mem_map_of_mem inside)

/-! ## Paragraphs read again -/

/-- Joined lines are read as they were, but for carriage returns. -/
theorem lines_joinLines {run : List (List Char)} (block : Block run) :
    ∃ front last, run = front ++ [last] ∧ lines (joinLines run) = front.map stripCr ++ [last] := by
  rcases List.eq_nil_or_concat' run with empty | ⟨front, last, split⟩
  · exact absurd empty block.nonempty
  · have pieces : (joinLines run).splitOn '\n' = front ++ [last] := by
      rw [joinLines, List.splitOn_intercalate '\n' block.clean block.nonempty, split]
    have present : last ≠ [] := by
      apply ne_nil_of_solid
      apply block.solid
      rw [split]
      exact List.mem_append_right _ List.mem_cons_self
    refine ⟨front, last, split, ?_⟩
    rw [lines_of_parts pieces, linesOfParts, if_neg present]

/-- Joined nonblank lines are one paragraph. -/
theorem paragraphs_joinLines {run : List (List Char)} (block : Block run) :
    paragraphs (joinLines run) = [paragraph (lines (joinLines run))] := by
  rcases lines_joinLines block with ⟨front, last, split, read⟩
  have nonempty : lines (joinLines run) ≠ [] := by simp [read]
  have solid : forall line, line ∈ lines (joinLines run) -> isBlank line = false := by
    intro line member
    rw [read] at member
    rcases List.mem_append.mp member with earlier | final
    · rcases List.mem_map.mp earlier with ⟨whole, inside, same⟩
      rw [← same, isBlank_stripCr]
      apply block.solid
      rw [split]
      exact List.mem_append_left _ inside
    · rw [List.mem_singleton.mp final]
      apply block.solid
      rw [split]
      exact List.mem_append_right _ List.mem_cons_self
  rw [paragraphs, Runs.runs_of_solid nonempty solid]
  rfl

/-- A paragraph is one paragraph when it is read again. -/
theorem length_paragraphs_of_mem {text part : List Char} (member : part ∈ paragraphs text) :
    (paragraphs part).length = 1 := by
  rcases List.mem_map.mp member with ⟨run, inside, same⟩
  have block := block_of_mem_runs inside
  rw [← same, paragraph_eq_joinLines block, paragraphs_joinLines block.trimRun]
  rfl

theorem stripCr_of_not_mem {line : List Char} (plain : '\r' ∉ line) : stripCr line = line := by
  rcases stripCr_split line with same | longer
  · exact same.symm
  · rw [longer] at plain
    exact absurd (List.mem_append_right _ List.mem_cons_self) plain

/-- Without carriage returns it is the same paragraph. -/
theorem paragraphs_of_mem {text part : List Char} (plain : '\r' ∉ text)
    (member : part ∈ paragraphs text) : paragraphs part = [part] := by
  rcases List.mem_map.mp member with ⟨run, inside, same⟩
  have block := block_of_mem_runs inside
  rcases lines_joinLines block.trimRun with ⟨front, last, split, read⟩
  have unchanged : forall line, line ∈ front -> stripCr line = id line := by
    intro line inFront
    apply stripCr_of_not_mem
    intro found
    have inRun : line ∈ trimRun run := by
      rw [split]
      exact List.mem_append_left _ inFront
    rcases line_of_mem_trimRun inRun with ⟨whole, inLines, _, included⟩
    exact plain (mem_of_mem_line (Runs.mem_of_mem inside whole inLines) (included _ found))
  have kept : front.map stripCr = front := by
    rw [List.map_congr_left unchanged, List.map_id]
  rw [← same, paragraph_eq_joinLines block, paragraphs_joinLines block.trimRun, read, kept, ← split,
    paragraph, ← paragraph_eq_joinLines block, paragraph]
  exact congrArg (fun whole => [whole]) (trimMatches_idempotent isWhitespace (joinLines run))

/-- Texts joined by empty lines have their paragraphs side by side. -/
theorem paragraphs_intercalate (texts : List (List Char)) :
    paragraphs (List.intercalate ['\n', '\n'] texts) = texts.flatMap paragraphs := by
  induction texts with
  | nil => rfl
  | cons first rest ih =>
      cases rest with
      | nil => simp
      | cons next others =>
          rw [List.flatMap_cons, ← ih, ← paragraphs_append_blank, List.intercalate_cons_cons]
          simp

/-! ## Paragraphs between empty lines -/

/-- Behind a line feed of joined lines there is another line. -/
theorem joinLines_continues {run : List (List Char)} (block : Block run) {front back : List Char}
    (split : joinLines run = front ++ '\n' :: back) : [] ∉ back.splitOn '\n' := by
  intro empty
  have pieces : (joinLines run).splitOn '\n' = run :=
    List.splitOn_intercalate '\n' block.clean block.nonempty
  rw [split, List.splitOn_append_cons_self] at pieces
  have inside : [] ∈ run := by
    rw [← pieces]
    exact List.mem_append_right _ empty
  exact absurd (block.solid [] inside) (by decide)

/-- A paragraph closes at an empty line. -/
theorem closes_of_mem_paragraphs {text part : List Char} (member : part ∈ paragraphs text) :
    Separator.Closes ['\n', '\n'] part := by
  rcases List.mem_map.mp member with ⟨run, inside, same⟩
  have block := block_of_mem_runs inside
  rw [← same, paragraph_eq_joinLines block, Separator.closes_double_iff]
  constructor
  · rintro ⟨before, after, split⟩
    have continued : joinLines (trimRun run) = before ++ '\n' :: ('\n' :: after) := by
      rw [← split]
      simp
    apply joinLines_continues block.trimRun continued
    have pieces : ('\n' :: after).splitOn '\n' = [].splitOn '\n' ++ after.splitOn '\n' :=
      List.splitOn_append_cons_self [] after
    rw [pieces, List.splitOn_nil]
    exact List.mem_cons_self
  · intro ends
    rcases List.getLast?_eq_some_iff.mp ends with ⟨front, whole⟩
    exact joinLines_continues block.trimRun whole List.mem_cons_self

/-! ## Texts without paragraphs -/

/-- Every character that is not white space stands in a line. -/
theorem exists_line_of_solid {text : List Char} {character : Char} (member : character ∈ text)
    (solid : isWhitespace character = false) : ∃ line, line ∈ lines text ∧ character ∈ line := by
  have stays : (character == '\n') = false := by
    rw [beq_eq_false_iff_ne]
    intro newline
    rw [newline] at solid
    exact absurd solid (by decide)
  rcases @Runs.exists_run_of_solid _ (fun other => other == '\n') _ _ member stays with ⟨piece, inside, found⟩
  have divided : piece ∈ text.splitOn '\n' := by
    rw [List.splitOn_eq_splitOnP]
    exact (List.mem_filter.mp inside).1
  rcases exists_parts text with ⟨parts, last, pieces⟩
  rw [pieces] at divided
  rw [lines_of_parts pieces]
  rcases List.mem_append.mp divided with ended | final
  · refine ⟨stripCr piece, List.mem_append_left _ (List.mem_map_of_mem ended), ?_⟩
    rcases stripCr_split piece with same | longer
    · rw [← same]
      exact found
    · rw [longer, List.mem_append, List.mem_singleton] at found
      rcases found with kept | carriage
      · exact kept
      · rw [carriage] at solid
        exact absurd solid (by decide)
  · rw [List.mem_singleton.mp final] at found
    refine ⟨last, List.mem_append_right _ ?_, found⟩
    rw [linesOfParts, if_neg (List.ne_nil_of_mem found)]
    exact List.mem_singleton_self last

/-- The texts without a paragraph are the blank ones. -/
theorem paragraphs_eq_nil_iff {text : List Char} : paragraphs text = [] <-> isBlank text = true := by
  constructor
  · intro none
    rw [isBlank_eq_true_iff]
    intro character member
    by_contra other
    rcases exists_line_of_solid member (eq_false_of_ne_true other) with ⟨line, inside, found⟩
    apply paragraphs_ne_nil inside _ none
    apply eq_false_of_ne_true
    intro blank
    exact other (isBlank_eq_true_iff.mp blank character found)
  · intro blank
    rw [paragraphs, List.map_eq_nil_iff, List.eq_nil_iff_forall_not_mem]
    intro run member
    have block := block_of_mem_runs member
    rcases List.exists_mem_of_ne_nil run block.nonempty with ⟨line, inside⟩
    have white : isBlank line = true := by
      rw [isBlank_eq_true_iff]
      intro character found
      exact isBlank_eq_true_iff.mp blank character
        (mem_of_mem_line (Runs.mem_of_mem member line inside) found)
    rw [block.solid line inside] at white
    cases white

end Text

end Foundation
