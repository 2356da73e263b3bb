import Caulk.ContextBuilder.HeaderReference
import Caulk.Foundation.Paragraphs

namespace Caulk
namespace ContextBuilders

open Caulk.Core
open Foundation

/-!
# What a snippet says about the file

The rows of a snippet can be read back: before the first bar of a row stands
its number, and after it the line.  Only the end of the last row is lost, where
trailing white space was trimmed.  So two snippets are equal when the same
lines of the same file are shown for the same requested line, and never
otherwise; what lies outside the window does not show.
-/

namespace FileSnippetBuilder

/-- The numbered lines that a snippet shows, the last one without its trailing
white space. -/
def view (line : Nat) (content : String) : List (Nat × List Char) :=
  let lines := Text.lines content.toList
  if lines.length = 0 then []
  else
    match bounds line lines.length with
    | none => []
    | some (start, stop) =>
        (List.range' start (stop - start)).map (fun number => (number, lines.getD (number - 1) [])) ++
          [(stop, Text.trimEnd (lines.getD (stop - 1) []))]

/-! ## Reading a row -/

def beforeBar (character : Char) : Bool :=
  character != '|'

/-- The number before the first bar, and the text after the blank behind it. -/
def readRow (row : List Char) : Nat × List Char :=
  (Text.decimalValue (Text.trim (row.takeWhile beforeBar)), (row.dropWhile beforeBar).drop 2)

/-- All rows but the header. -/
def readRows (text : String) : List (Nat × List Char) :=
  (text.toList.splitOn '\n').tail.map readRow

theorem rowText_eq (number : Nat) (text : List Char) :
    rowText number text = gutter number ++ '|' :: ' ' :: text := by
  simp [rowText, gutter]

theorem gutter_beforeBar (number : Nat) :
    forall character, character ∈ gutter number -> beforeBar character = true := by
  intro character member
  have other : character ≠ '|' := by
    intro bar
    rw [bar, gutter, Text.padLeft] at member
    rcases List.mem_append.mp member with padded | blank
    · rcases List.mem_append.mp padded with padding | digit
      · exact absurd (List.eq_of_mem_replicate padding) (by decide)
      · exact absurd ((numeral_toString number).2 '|' digit) (by decide)
    · exact absurd (List.mem_singleton.mp blank) (by decide)
  simp [beforeBar, other]

/-- The gutter is the number between blanks. -/
theorem trim_gutter (number : Nat) : Text.trim (gutter number) = (toString number).toList := by
  have blank : forall character, character ∈ [' '] -> Text.isWhitespace character = true :=
    List.forall_mem_singleton.mpr (by decide)
  have padding : forall character,
      character ∈ List.replicate (4 - (toString number).toList.length) ' ' ->
        Text.isWhitespace character = true := by
    intro character member
    rw [List.eq_of_mem_replicate member]
    decide
  rw [gutter, Text.padLeft, Text.trim, Text.trimMatches_absorb _ padding blank]
  exact Text.trim_of_unbroken (numeral_toString number).unbroken

theorem readRow_eq (number : Nat) (rest : List Char) :
    readRow (gutter number ++ '|' :: rest) = (number, rest.drop 1) := by
  have bar : beforeBar '|' = false := by decide
  have number_eq : (gutter number ++ '|' :: rest).takeWhile beforeBar = gutter number := by
    rw [List.takeWhile_append_of_pos (gutter_beforeBar number), List.takeWhile_cons_of_neg]
    · exact List.append_nil _
    · rw [bar]
      exact Bool.false_ne_true
  have rest_eq : (gutter number ++ '|' :: rest).dropWhile beforeBar = '|' :: rest :=
    Text.dropWhile_append_solid rest (gutter_beforeBar number) bar
  rw [readRow, number_eq, rest_eq, trim_gutter, decimalValue_toString]
  rfl

theorem readRow_rowText (number : Nat) (text : List Char) :
    readRow (rowText number text) = (number, text) := by
  rw [rowText_eq, readRow_eq]
  rfl

/-- A blank before a text stays unless there is nothing behind it. -/
theorem drop_trimEnd (text : List Char) :
    (Text.trimEnd (' ' :: text)).drop 1 = Text.trimEnd text := by
  cases blank : Text.isBlank text with
  | true =>
      have white := Text.isBlank_eq_true_iff.mp blank
      have whiteAfter : forall character, character ∈ ' ' :: text -> Text.isWhitespace character = true :=
        List.forall_mem_cons.mpr ⟨by decide, white⟩
      rw [Text.trimEnd, Text.trimEnd, List.rdropWhile_eq_nil_iff.mpr white,
        List.rdropWhile_eq_nil_iff.mpr whiteAfter]
      rfl
  | false =>
      rcases Text.exists_solid blank with ⟨front, last, back, split, solid⟩
      rw [split, ← List.cons_append, Text.trimEnd_append _ _ solid, Text.trimEnd_append _ _ solid]
      rfl

theorem readRow_trimmed (number : Nat) (text : List Char) :
    readRow (Text.trimEnd (rowText number text)) = (number, Text.trimEnd text) := by
  have barred := trimEnd_rowText [] number text
  rw [List.nil_append, List.nil_append] at barred
  rw [barred, readRow_eq, drop_trimEnd]

/-- Trimming the end of a line first changes nothing. -/
theorem trimEnd_rowText_trimEnd (number : Nat) (text : List Char) :
    Text.trimEnd (rowText number (Text.trimEnd text)) = Text.trimEnd (rowText number text) := by
  have split : rowText number text =
      rowText number (Text.trimEnd text) ++ text.rtakeWhile Text.isWhitespace := by
    unfold rowText Text.trimEnd
    simp only [List.append_assoc, List.rdropWhile_append_rtakeWhile]
  have white : forall character, character ∈ text.rtakeWhile Text.isWhitespace ->
      Text.isWhitespace character = true := fun _ member => List.mem_rtakeWhile_imp member
  have absorbed := Text.rdropWhile_append_stripped (rowText number (Text.trimEnd text)) white
  rw [← split] at absorbed
  exact absorbed.symm

/-! ## Reading a snippet -/

theorem view_of_empty (line : Nat) {content : String}
    (empty : (Text.lines content.toList).length = 0) : view line content = [] := by
  simp only [view, empty, if_true]

theorem view_of_lines {line : Nat} {content : String} {start stop : Nat}
    (nonempty : 1 ≤ (Text.lines content.toList).length)
    (chosen : bounds line (Text.lines content.toList).length = some (start, stop)) :
    view line content =
      (List.range' start (stop - start)).map
          (fun number => (number, (Text.lines content.toList).getD (number - 1) [])) ++
        [(stop, Text.trimEnd ((Text.lines content.toList).getD (stop - 1) []))] := by
  simp only [view, Nat.one_le_iff_ne_zero.mp nonempty, if_false, chosen]

/-- The rows of a snippet, with its header. -/
theorem splitOn_snippet {file : String} {line : Nat} {content : String} {start stop : Nat}
    (clean : '\n' ∉ file.toList) (ordered : start ≤ stop)
    (shown : snippet file line content =
      rendering file line (Text.lines content.toList) start stop) :
    (snippet file line content).toList.splitOn '\n' =
      (title file line ::
          (List.range' start (stop - start)).map (rowOf (Text.lines content.toList))) ++
        [Text.trimEnd (rowOf (Text.lines content.toList) stop)] := by
  rw [shown, rendering_rows file line _ ordered]
  apply Text.splitOn_terminated
  · intro part member
    rcases List.mem_cons.mp member with first | row
    · rw [first]
      exact newline_not_mem_title line clean
    · rcases List.mem_map.mp row with ⟨number, _, same⟩
      rw [← same]
      exact newline_not_mem_rowOf content number
  · intro hidden
    exact newline_not_mem_rowOf content stop ((List.rdropWhile_prefix _ _).subset hidden)

theorem splitOn_snippet_of_empty {file : String} (line : Nat) {content : String}
    (clean : '\n' ∉ file.toList) (empty : (Text.lines content.toList).length = 0) :
    (snippet file line content).toList.splitOn '\n' =
      [title file line ++ " (empty file)".toList] := by
  rw [snippet_of_empty file line empty, String.toList_ofList]
  apply List.splitOn_eq_singleton
  rw [List.mem_append, not_or]
  exact ⟨newline_not_mem_title line clean, by decide⟩

/-- The rows of every snippet give back what it shows. -/
theorem readRows_snippet {file : String} (line : Nat) (content : String)
    (clean : '\n' ∉ file.toList) : readRows (snippet file line content) = view line content := by
  by_cases empty : (Text.lines content.toList).length = 0
  · rw [readRows, splitOn_snippet_of_empty line clean empty, view_of_empty line empty]
    rfl
  · have nonempty := Nat.one_le_iff_ne_zero.mpr empty
    rcases snippet_eq file line content nonempty with ⟨start, stop, chosen, shown⟩
    have read : (List.range' start (stop - start)).map (readRow ∘ rowOf (Text.lines content.toList)) =
        (List.range' start (stop - start)).map
          (fun number => (number, (Text.lines content.toList).getD (number - 1) [])) := by
      apply List.map_congr_left
      intro number _
      rw [Function.comp_apply, rowOf, readRow_rowText]
    rw [readRows, splitOn_snippet clean (bounds_ordered nonempty chosen) shown,
      view_of_lines nonempty chosen, List.cons_append, List.tail_cons, List.map_append, List.map_map,
      List.map_singleton, read, rowOf, readRow_trimmed]

/-- The first row names the file and the line, with a remark or without. -/
theorem header_of_snippet {file : String} (line : Nat) (content : String)
    (clean : '\n' ∉ file.toList) :
    ∃ remark, (remark = [] ∨ remark = " (empty file)".toList) ∧
      (snippet file line content).toList.splitOn '\n' =
        (title file line ++ remark) :: ((snippet file line content).toList.splitOn '\n').tail := by
  by_cases empty : (Text.lines content.toList).length = 0
  · refine ⟨" (empty file)".toList, Or.inr rfl, ?_⟩
    rw [splitOn_snippet_of_empty line clean empty]
    rfl
  · have nonempty := Nat.one_le_iff_ne_zero.mpr empty
    rcases snippet_eq file line content nonempty with ⟨start, stop, chosen, shown⟩
    refine ⟨[], Or.inl rfl, ?_⟩
    rw [splitOn_snippet clean (bounds_ordered nonempty chosen) shown, List.append_nil]
    rfl

/-! ## Writing a view -/

/-- The snippet of a view. -/
def render (title : List Char) (shown : List (Nat × List Char)) : List Char :=
  match shown.getLast? with
  | none => title ++ " (empty file)".toList
  | some last =>
      (title :: shown.dropLast.map (fun entry => rowText entry.1 entry.2)).flatMap
          (fun text => text ++ ['\n']) ++
        Text.trimEnd (rowText last.1 last.2)

/-- Nothing else of the file goes into a snippet. -/
theorem snippet_eq_render (file : String) (line : Nat) (content : String) :
    snippet file line content = String.ofList (render (title file line) (view line content)) := by
  by_cases empty : (Text.lines content.toList).length = 0
  · rw [snippet_of_empty file line empty, view_of_empty line empty]
    rfl
  · have nonempty := Nat.one_le_iff_ne_zero.mpr empty
    rcases snippet_eq file line content nonempty with ⟨start, stop, chosen, shown⟩
    have trimmed : Text.trimEnd (rowOf (Text.lines content.toList) stop) =
        Text.trimEnd (rowText stop (Text.trimEnd ((Text.lines content.toList).getD (stop - 1) []))) :=
      (trimEnd_rowText_trimEnd stop _).symm
    rw [shown, ← String.toList_inj, String.toList_ofList,
      rendering_rows file line _ (bounds_ordered nonempty chosen), view_of_lines nonempty chosen, render,
      List.getLast?_concat, List.dropLast_concat, List.map_map, trimmed]
    rfl

/-- The first row gives away the file and the line. -/
theorem title_injective {file file' : String} {line line' : Nat}
    (same : title file line = title file' line') : file = file' ∧ line = line' := by
  have noColon : forall number : Nat, ':' ∉ (toString number).toList := by
    intro number member
    exact absurd ((numeral_toString number).2 ':' member) (by decide)
  rw [title_toList, title_toList] at same
  have places := congrArg (Text.rfind ':') same
  rw [Text.rfind_append _ (noColon line), Text.rfind_append _ (noColon line')] at places
  rcases List.append_inj same (Option.some.inj places) with ⟨files, rest⟩
  have values := congrArg Text.decimalValue (List.cons.inj rest).2
  rw [decimalValue_toString, decimalValue_toString] at values
  exact ⟨String.toList_inj.mp files, values⟩

/-- A header ends in a digit, and so not like a remark. -/
theorem title_ne_remarked (file file' : String) (line line' : Nat) :
    title file line ≠ title file' line' ++ " (empty file)".toList := by
  intro same
  rcases List.eq_nil_or_concat' (toString line).toList with empty | ⟨front, digit, split⟩
  · exact (numeral_toString line).1 empty
  · have ends : title file line = file.toList ++ ':' :: front ++ [digit] := by
      rw [title_toList, split]
      simp
    have remarked : title file' line' ++ " (empty file)".toList =
        title file' line' ++ " (empty file".toList ++ [')'] := by
      rw [List.append_assoc]
      rfl
    rw [ends, remarked] at same
    have last := (List.append_inj' same rfl).2
    have inside : digit ∈ (toString line).toList := by
      rw [split]
      exact List.mem_append_right _ List.mem_cons_self
    have isDigit := (numeral_toString line).2 digit inside
    rw [(List.cons.inj last).1] at isDigit
    exact absurd isDigit (by decide)

theorem titles_eq {file file' : String} {line line' : Nat} {content content' : String}
    (clean : '\n' ∉ file.toList) (clean' : '\n' ∉ file'.toList)
    (same : snippet file line content = snippet file' line' content') :
    title file line = title file' line' := by
  rcases header_of_snippet line content clean with ⟨remark, kinds, rows⟩
  rcases header_of_snippet line' content' clean' with ⟨remark', kinds', rows'⟩
  rw [same, rows'] at rows
  have headers := (List.cons.inj rows).1
  rcases kinds with plain | marked
  · rcases kinds' with plain' | marked'
    · rw [plain, plain', List.append_nil, List.append_nil] at headers
      exact headers.symm
    · rw [plain, marked', List.append_nil] at headers
      exact absurd headers.symm (title_ne_remarked file file' line line')
  · rcases kinds' with plain' | marked'
    · rw [marked, plain', List.append_nil] at headers
      exact absurd headers (title_ne_remarked file' file line' line)
    · rw [marked, marked'] at headers
      exact (List.append_cancel_right headers).symm

/-- Two snippets are equal when they are for the same line of the same file and
show the same view, and never otherwise. -/
theorem snippets_eq_iff {file file' : String} (line line' : Nat) (content content' : String)
    (clean : '\n' ∉ file.toList) (clean' : '\n' ∉ file'.toList) :
    snippet file line content = snippet file' line' content' <->
      file = file' ∧ line = line' ∧ view line content = view line' content' := by
  constructor
  · intro same
    have names := title_injective (titles_eq clean clean' same)
    have rows := congrArg readRows same
    rw [readRows_snippet line content clean, readRows_snippet line' content' clean'] at rows
    exact ⟨names.1, names.2, rows⟩
  · rintro ⟨sameFile, sameLine, sameView⟩
    rw [snippet_eq_render, snippet_eq_render, sameView, sameFile, sameLine]

theorem newline_not_mem_file {text file : String} {line : Nat}
    (last : LastReference text (some (file, line))) : '\n' ∉ file.toList := by
  intro inside
  have header := newline_not_mem_of_unbroken (title_of_reference last)
  rw [title_toList] at header
  exact header (List.mem_append_left _ inside)

/-- Two events that refer to stored files have equal contexts if and only if
they refer to the same line of a file of the same name and the same window of
it is shown, whatever else the files and the events hold. -/
theorem contexts_agree_iff_views_agree {E E' : Type} [ToString E] [ToString E']
    (first second : FileSnippetBuilder) (event : E) (event' : E') (history : List E)
    (history' : List E') (file file' : String) (line line' : Nat) (content content' : String)
    (last : LastReference (toString event) (some (file, line)))
    (last' : LastReference (toString event') (some (file', line')))
    (stored : first.files file = some content) (stored' : second.files file' = some content') :
    ContextBuilder.build first event history = ContextBuilder.build second event' history' <->
      file = file' ∧ line = line' ∧ view line content = view line' content' := by
  rw [build_of_reference history last stored, build_of_reference history' last' stored',
    ← snippets_eq_iff line line' content content' (newline_not_mem_file last)
      (newline_not_mem_file last'), Except.ok.injEq]

/-- Blanks at the end of the last line do not show, nor do the words around a
reference. -/
theorem trailing_blanks_hidden :
    ContextBuilder.build (withFile "src/main.rs" "fn main()\n{}\n") "edit (src/main.rs:2)" [] =
      ContextBuilder.build (withFile "src/main.rs" "fn main()\n{}  \n") "see src/main.rs:2" ["open"] := by
  have sameView : view 2 "fn main()\n{}\n" = view 2 "fn main()\n{}  \n" := by decide
  have first : LastReference "edit (src/main.rs:2)" (some ("src/main.rs", 2)) :=
    ⟨["edit"], "(src/main.rs:2)", [], by decide, by decide, by simp⟩
  have second : LastReference "see src/main.rs:2" (some ("src/main.rs", 2)) :=
    ⟨["see"], "src/main.rs:2", [], by decide, by decide, by simp⟩
  exact (contexts_agree_iff_views_agree _ _ "edit (src/main.rs:2)" "see src/main.rs:2" [] ["open"] _ _
    2 2 _ _ first second (withFile_files _ _) (withFile_files _ _)).mpr ⟨rfl, rfl, sameView⟩

end FileSnippetBuilder

end ContextBuilders
end Caulk
