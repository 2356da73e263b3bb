import Caulk.ContextBuilder.CursorEvent

namespace Caulk
namespace ContextBuilders

open Caulk.Core
open Foundation

/-!
# The header of a snippet is a reference

A snippet begins with a row that names the file and the line asked for.  A
reader who copies this row back into an event gets the same snippet again:
the row is spelled so that the parser finds the file and the number in it.
This also holds for the one-line snippet of an empty file.

It holds for references that are words.  A reference that the builder finds
by trying a whole text as one token may have a file part that does not begin
like one, and then the header names another file.
-/

namespace FileSnippetBuilder

/-- The first row of a text. -/
def firstLine (text : String) : String :=
  String.ofList ((Text.lines text.toList).headD [])

/-! ## The spelling of a header -/

theorem numeral_toString (number : Nat) : Text.Numeral (toString number).toList := by
  have digits : (toString number).toList = Nat.toDigits 10 number := Nat.toList_repr
  constructor
  · rw [digits]
    exact Nat.toDigits_ne_nil
  · intro character member
    rw [digits] at member
    exact Nat.isDigit_of_mem_toDigits (by decide) (by decide) member

theorem decimalValue_toString (number : Nat) : Text.decimalValue (toString number).toList = number := by
  have digits : (toString number).toList = Nat.toDigits 10 number := Nat.toList_repr
  rw [Text.decimalValue, digits]
  exact Nat.ofDigitChars_ten_toDigits

theorem title_toList (file : String) (line : Nat) :
    title file line = file.toList ++ ':' :: (toString line).toList := by
  simp [title, String.toList_append]

/-- The bare spelling of a reference that was spelled in some way. -/
def bareSpelling {token : List Char} (spelling : Spelling token) (number : Nat) :
    Spelling (title (String.ofList spelling.file) number) where
  front := []
  file := spelling.file
  digits := (toString number).toList
  rest := []
  colons := []
  back := []
  spells := by simp [title_toList]
  wrapsFront := by simp
  wrapsBack := by simp
  onlyColons := by simp
  nonempty := spelling.nonempty
  looksLikeFile := spelling.looksLikeFile
  unwrapped := spelling.unwrapped
  hasDigits := (numeral_toString number).1
  onlyDigits := (numeral_toString number).2
  noColon := by simp
  noDigit := by simp

/-- The file part of a word is without white space, and so is its header. -/
theorem title_unbroken {token file : String} {number : Nat} (unbroken : Text.Unbroken token.toList)
    (refers : RefersTo token file number) : Text.Unbroken (title file number) := by
  rcases refers with ⟨spelling, same, _⟩
  have inside : file.toList <:+: token.toList := by
    refine ⟨spelling.front, ':' :: (spelling.digits ++ spelling.rest ++ spelling.colons ++ spelling.back), ?_⟩
    rw [← same]
    exact Eq.trans (by simp) spelling.spells.symm
  have colon : Text.Unbroken [':'] := by decide
  rw [title_toList]
  exact (unbroken.of_infix inside).append (colon.append (numeral_toString number).unbroken)

/-- What a word refers to, its header refers to as well. -/
theorem parseToken_title {token file : String} {number : Nat} (unbroken : Text.Unbroken token.toList)
    (accepted : parseToken token = some (file, number)) :
    parseToken (String.ofList (title file number)) = some (file, number) := by
  have refers := refersTo_of_parseToken unbroken accepted
  have clean := title_unbroken unbroken refers
  rcases refers with ⟨spelling, same, _, fits⟩
  apply parseToken_of_refersTo
  · rw [String.toList_ofList]
    exact clean
  · have named : String.ofList spelling.file = file := by
      rw [same, String.ofList_toList]
    subst named
    unfold RefersTo
    rw [String.toList_ofList]
    exact ⟨bareSpelling spelling number, String.toList_ofList.symm, decimalValue_toString number, fits⟩

/-! ## The first row -/

theorem stripCr_of_unbroken {line : List Char} (unbroken : Text.Unbroken line) :
    Text.stripCr line = line := by
  unfold Text.stripCr
  rw [if_neg]
  intro ended
  exact absurd (unbroken '\r' (List.mem_of_getLast? ended)) (by decide)

theorem newline_not_mem_of_unbroken {line : List Char} (unbroken : Text.Unbroken line) :
    '\n' ∉ line := by
  intro newline
  exact absurd (unbroken '\n' newline) (by decide)

/-- The first row of a text whose first row is a word. -/
theorem firstLine_append {first : List Char} (rest : List Char) (unbroken : Text.Unbroken first) :
    firstLine (String.ofList (first ++ '\n' :: rest)) = String.ofList first := by
  unfold firstLine
  rw [String.toList_ofList, Text.lines_append_newline,
    List.splitOn_eq_singleton (newline_not_mem_of_unbroken unbroken)]
  simp [stripCr_of_unbroken unbroken]

/-- A text of one row is its own first row. -/
theorem firstLine_of_one_row {text : List Char} (nonempty : text ≠ []) (clean : '\n' ∉ text) :
    firstLine (String.ofList text) = String.ofList text := by
  unfold firstLine Text.lines
  rw [String.toList_ofList, List.splitOn_eq_singleton clean]
  simp [Text.linesOfParts, nonempty]

/-- A file without lines is only mentioned. -/
theorem snippet_of_empty (file : String) (line : Nat) {content : String}
    (empty : (Text.lines content.toList).length = 0) :
    snippet file line content = String.ofList (title file line ++ " (empty file)".toList) := by
  have window : windowSnippet file line content = some (file ++ ":" ++ toString line ++ " (empty file)") := by
    simp [windowSnippet, empty]
  unfold snippet
  simp only [window, Option.get_some]
  rw [← String.toList_inj]
  simp [title, String.toList_append]

/-- Under its header a snippet has a row. -/
theorem snippet_of_lines (file : String) (line : Nat) {content : String}
    (nonempty : 1 ≤ (Text.lines content.toList).length) :
    ∃ rest, snippet file line content = String.ofList (title file line ++ '\n' :: rest) := by
  rcases snippet_eq file line content nonempty with ⟨start, stop, chosen, shown⟩
  rcases rendering_toList file line (Text.lines content.toList) (bounds_ordered nonempty chosen) with
    ⟨rest, whole⟩
  refine ⟨gutter start ++ '|' :: rest, ?_⟩
  rw [shown, ← String.toList_inj, whole, header_eq, String.toList_ofList]
  simp

/-- The first row of a snippet: the header, with a remark if the file is empty. -/
theorem firstLine_snippet {file : String} {line : Nat} (content : String)
    (unbroken : Text.Unbroken (title file line)) :
    firstLine (snippet file line content) = String.ofList (title file line) ∨
    firstLine (snippet file line content) = String.ofList (title file line ++ " (empty file)".toList) := by
  by_cases empty : (Text.lines content.toList).length = 0
  · right
    rw [snippet_of_empty file line empty]
    apply firstLine_of_one_row
    · simp
    · rw [List.mem_append, not_or]
      exact ⟨newline_not_mem_of_unbroken unbroken, by decide⟩
  · left
    rcases snippet_of_lines file line (Nat.one_le_iff_ne_zero.mpr empty) with ⟨rest, split⟩
    rw [split]
    exact firstLine_append _ unbroken

/-- Both kinds of first row lead the builder to the same file and line. -/
theorem extractFileLine_firstLine {file : String} {line : Nat} (content : String)
    (unbroken : Text.Unbroken (title file line))
    (accepted : parseToken (String.ofList (title file line)) = some (file, line)) :
    extractFileLine (firstLine (snippet file line content)) = some (file, line) := by
  have nonempty : title file line ≠ [] := by
    rw [title_toList]
    simp
  rcases firstLine_snippet content unbroken with header | remark
  · rw [header, extractFileLine_of_unbroken (by rw [String.toList_ofList]; exact unbroken), accepted]
  · have words : tokens (String.ofList (title file line ++ " (empty file)".toList)) =
        [String.ofList (title file line), "(empty", "file)"] := by
      have split : title file line ++ " (empty file)".toList =
          title file line ++ ' ' :: "(empty file)".toList := rfl
      unfold tokens Text.splitWhitespace
      rw [String.toList_ofList, split, Runs.runs_append_separator _ _ (by decide),
        Runs.runs_of_solid nonempty unbroken]
      rfl
    have noFile : parseToken "file)" = none := by decide
    have noEmpty : parseToken "(empty" = none := by decide
    rw [remark]
    unfold extractFileLine
    rw [words]
    simp only [List.reverse_cons, List.reverse_nil, List.nil_append, List.cons_append,
      List.findSome?_cons, noFile, noEmpty, accepted]

/-- A reference to a stored file makes the snippet the context. -/
theorem build_of_reference {E : Type} [ToString E] {builder : FileSnippetBuilder} {event : E}
    (history : List E) {file : String} {line : Nat} {content : String}
    (last : LastReference (toString event) (some (file, line)))
    (stored : builder.files file = some content) :
    ContextBuilder.build builder event history = .ok (snippet file line content) := by
  have found : extractFileLine (toString event) = some (file, line) := by
    unfold extractFileLine
    rw [(lastReference_iff (toString event) (some (file, line))).mp last]
  simp only [ContextBuilder.build, found, stored]

/-- The header of what an event refers to is a word. -/
theorem title_of_reference {text file : String} {line : Nat}
    (last : LastReference text (some (file, line))) : Text.Unbroken (title file line) := by
  rcases last.exists_token with ⟨token, member, accepted⟩
  have word := unbroken_of_mem_tokens member
  exact title_unbroken word (refersTo_of_parseToken word accepted)

/-- An event whose last reference is to a line of a stored file has a snippet
as its context, and the first row of this snippet is an event with the same
context. -/
theorem header_refers_back {E : Type} [ToString E] (builder : FileSnippetBuilder) (event : E)
    (history : List E) (file : String) (line : Nat) (content : String)
    (last : LastReference (toString event) (some (file, line)))
    (stored : builder.files file = some content) :
    ContextBuilder.build builder event history = .ok (snippet file line content) ∧
      ContextBuilder.build builder (firstLine (snippet file line content)) ([] : List String) =
        .ok (snippet file line content) := by
  rcases last.exists_token with ⟨token, member, accepted⟩
  have word := unbroken_of_mem_tokens member
  have again := extractFileLine_firstLine content (title_of_reference last)
    (parseToken_title word accepted)
  have itself : toString (firstLine (snippet file line content)) = firstLine (snippet file line content) := rfl
  constructor
  · exact build_of_reference history last stored
  · simp only [ContextBuilder.build, itself, again, stored]

/-- A file of two lines, referred to in parentheses. -/
theorem two_lines_header_refers_back :
    ContextBuilder.build (withFile "src/main.rs" "fn main()\n{}\n") "edit (src/main.rs:2)" ["open"] =
        .ok (snippet "src/main.rs" 2 "fn main()\n{}\n") ∧
      ContextBuilder.build (withFile "src/main.rs" "fn main()\n{}\n")
        (firstLine (snippet "src/main.rs" 2 "fn main()\n{}\n")) ([] : List String) =
        .ok (snippet "src/main.rs" 2 "fn main()\n{}\n") :=
  header_refers_back _ "edit (src/main.rs:2)" ["open"] "src/main.rs" 2 _
    ⟨["edit"], "(src/main.rs:2)", [], by decide, by decide, by simp⟩ (withFile_files _ _)

end FileSnippetBuilder

end ContextBuilders
end Caulk
