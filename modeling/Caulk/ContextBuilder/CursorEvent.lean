import Caulk.ContextBuilder.SnippetRows
import Caulk.ContextBuilder.CursorReference
import Caulk.Foundation.Storage

namespace Caulk
namespace ContextBuilders

open Caulk.Core
open Foundation

/-!
# Snippets for cursor events

`FileSnippetBuilder` looks for a reference among the words of the event text,
from the last word to the first, and shows the file around the line that the
reference names.  An event without a reference to a stored file is its own
context.

Two places of this search do less than the builder promises.  When no word is
a reference, the whole text is tried as one token; this is meant for texts
without white space, but only the blank is looked for, so a text of several
lines or one divided by tabs is tried too.  And a line past the end of the
file is clamped to the file only if its number fits the machine: a longer
number is no reference at all.
-/

/-- In-memory map from file path to full content. -/
structure FileSnippetBuilder where
  files : HashMap String String

namespace FileSnippetBuilder

def new : FileSnippetBuilder where
  files := HashMap.empty

/-- Build from any sequence of `(path, content)`. -/
def fromIter (iter : List (String × String)) : FileSnippetBuilder where
  files := HashMap.fromIter iter

/-- Convenience single-file constructor. -/
def withFile (path content : String) : FileSnippetBuilder where
  files := HashMap.empty.insert path content

def insert (builder : FileSnippetBuilder) (path content : String) : FileSnippetBuilder where
  files := builder.files.insert path content

@[simp] theorem withFile_files (path content : String) :
    (withFile path content).files path = some content :=
  HashMap.insert_same HashMap.empty path content

/-- The words of an event text. -/
def tokens (eventStr : String) : List String :=
  (Text.splitWhitespace eventStr.toList).map String.ofList

def extractFileLine (eventStr : String) : Option (String × Nat) :=
  match (tokens eventStr).reverse.findSome? parseToken with
  | some pair => some pair
  | none => if ' ' ∉ eventStr.toList then parseToken eventStr else none

/-- No snippet panics. -/
theorem windowSnippet_isSome (file : String) (line : Nat) (content : String) :
    (windowSnippet file line content).isSome = true := by
  by_cases empty : (Text.lines content.toList).length = 0
  · simp [windowSnippet, empty]
  · rcases windowSnippet_bounds file line content (Nat.one_le_iff_ne_zero.mpr empty) with
      ⟨_, _, _, _, _, _, _, _, shown⟩
    rw [shown]
    rfl

/-- The snippet itself. -/
def snippet (file : String) (line : Nat) (content : String) : String :=
  (windowSnippet file line content).get (windowSnippet_isSome file line content)

instance {E : Type} [ToString E] : ContextBuilder FileSnippetBuilder E where
  build builder event _ :=
    let evStr := toString event
    match extractFileLine evStr with
    | some (file, line) =>
        match builder.files file with
        | some content => .ok (snippet file line content)
        | none => .ok evStr
    | none => .ok evStr

/-! ## Word by word -/

theorem unbroken_of_mem_tokens {text token : String} (member : token ∈ tokens text) :
    Text.Unbroken token.toList := by
  rcases List.mem_map.mp member with ⟨word, inside, same⟩
  rw [← same, String.toList_ofList]
  exact Text.unbroken_of_mem_splitWhitespace inside

theorem tokens_of_unbroken {text : String} (nonempty : text.toList ≠ [])
    (unbroken : Text.Unbroken text.toList) : tokens text = [text] := by
  rw [tokens, Text.splitWhitespace_of_unbroken nonempty unbroken, List.map_singleton,
    String.ofList_toList]

/-- The result of the parser on the last word that it accepts. -/
def LastReference (text : String) : Option (String × Nat) -> Prop
  | some pair => ∃ before token after, tokens text = before ++ token :: after ∧
      parseToken token = some pair ∧ forall later, later ∈ after -> parseToken later = none
  | none => forall token, token ∈ tokens text -> parseToken token = none

/-- The last reference is a word. -/
theorem LastReference.exists_token {text : String} {pair : String × Nat}
    (last : LastReference text (some pair)) :
    ∃ token, token ∈ tokens text ∧ parseToken token = some pair := by
  rcases last with ⟨before, token, after, split, accepted, _⟩
  refine ⟨token, ?_, accepted⟩
  rw [split]
  exact List.mem_append_right _ List.mem_cons_self

/-- What the builder promises about an event text: it uses the last word that
is a reference, the file is part of that word, and a text in which no word is
a reference is its own context. -/
structure WordByWord (text : String) : Prop where
  last : LastReference text (extractFileLine text)
  oneWord : forall file line, extractFileLine text = some (file, line) ->
    Text.Unbroken file.toList ∧
      ∃ token, token ∈ tokens text ∧ file.toList <:+: token.toList
  unchanged : forall (E : Type) [ToString E] (builder : FileSnippetBuilder) (event : E)
    (history : List E), toString event = text ->
    (forall token, token ∈ tokens text -> parseToken token = none) ->
    ContextBuilder.build builder event history = .ok text

/-- The loop over the words returns the last reference. -/
theorem lastReference_iff (text : String) (result : Option (String × Nat)) :
    LastReference text result <-> (tokens text).reverse.findSome? parseToken = result := by
  cases result with
  | none =>
      rw [List.findSome?_eq_none_iff]
      simp only [LastReference, List.mem_reverse]
  | some pair =>
      rw [List.findSome?_eq_some_iff]
      constructor
      · rintro ⟨before, token, after, split, accepted, others⟩
        refine ⟨after.reverse, token, before.reverse, ?_, accepted, ?_⟩
        · simp [split]
        · intro later member
          exact others later (List.mem_reverse.mp member)
      · rintro ⟨after, token, before, split, accepted, others⟩
        refine ⟨before.reverse, token, after.reverse, ?_, accepted, ?_⟩
        · rw [← List.reverse_inj, split]
          simp
        · intro later member
          exact others later (List.mem_reverse.mp member)

/-- The second attempt changes the result of the loop only if no word is a
reference but the whole text is, and has no blank. -/
theorem lastReference_extractFileLine_iff (text : String) :
    LastReference text (extractFileLine text) <->
      ' ' ∈ text.toList ∨ (∃ token, token ∈ tokens text ∧ parseToken token ≠ none) ∨
        parseToken text = none := by
  rw [lastReference_iff, extractFileLine]
  cases loop : (tokens text).reverse.findSome? parseToken with
  | some pair =>
      rcases ((lastReference_iff text (some pair)).mpr loop).exists_token with
        ⟨token, member, accepted⟩
      have found : parseToken token ≠ none := by
        rw [accepted]
        exact Option.some_ne_none pair
      exact iff_of_true rfl (Or.inr (Or.inl ⟨token, member, found⟩))
  | none =>
      have silent := (lastReference_iff text none).mpr loop
      have noWord : ¬ ∃ token, token ∈ tokens text ∧ parseToken token ≠ none := by
        rintro ⟨token, member, found⟩
        exact found (silent token member)
      by_cases blank : ' ' ∈ text.toList
      · simp [blank]
      · simp only [blank, not_false_eq_true, if_true, false_or, or_iff_right noWord]
        exact eq_comm

/-- The other promises follow from the first. -/
theorem wordByWord_of_last {text : String} (last : LastReference text (extractFileLine text)) :
    WordByWord text where
  last := last
  oneWord := by
    intro file line found
    rw [found] at last
    rcases last.exists_token with ⟨token, member, accepted⟩
    have unbroken := unbroken_of_mem_tokens member
    rcases refersTo_of_parseToken unbroken accepted with ⟨spelling, same, _⟩
    have inside : file.toList <:+: token.toList := by
      refine ⟨spelling.front,
        ':' :: (spelling.digits ++ spelling.rest) ++ spelling.colons ++ spelling.back, ?_⟩
      rw [← same]
      exact Eq.trans (by simp) spelling.spells.symm
    exact ⟨unbroken.of_infix inside, token, member, inside⟩
  unchanged := by
    intro E _ builder event history shows silent
    have absent : extractFileLine text = none := by
      rw [lastReference_iff] at last
      rw [← last]
      exact (lastReference_iff text none).mp silent
    simp only [ContextBuilder.build, shows, absent]

/-- The builder keeps its promises on exactly the texts that have a blank, or
a word that is a reference, or that are no reference as a whole. -/
theorem wordByWord_iff (text : String) :
    WordByWord text <->
      ' ' ∈ text.toList ∨ (∃ token, token ∈ tokens text ∧ parseToken token ≠ none) ∨
        parseToken text = none := by
  rw [← lastReference_extractFileLine_iff]
  exact ⟨WordByWord.last, wordByWord_of_last⟩

/-- None of three words divided by tabs is a reference, and the file that the
builder looks for is made of all three. -/
theorem words_between_tabs_joined :
    extractFileLine "see\tsrc/lib.rs\tline:5" = some ("see\tsrc/lib.rs\tline", 5) ∧
    ¬ WordByWord "see\tsrc/lib.rs\tline:5" := by
  have found : extractFileLine "see\tsrc/lib.rs\tline:5" = some ("see\tsrc/lib.rs\tline", 5) := by
    decide
  refine ⟨found, ?_⟩
  intro promised
  have unbroken := (promised.oneWord _ _ found).1
  exact absurd unbroken (by decide)

/-! ## Lines past the end -/

/-- An event text without white space is tried as one token. -/
theorem extractFileLine_of_unbroken {text : String} (unbroken : Text.Unbroken text.toList) :
    extractFileLine text = parseToken text := by
  have noBlank : ' ' ∉ text.toList := by
    intro blank
    exact absurd (unbroken ' ' blank) (by decide)
  unfold extractFileLine
  split
  · rename_i pair loop
    rcases ((lastReference_iff text (some pair)).mpr loop).exists_token with
      ⟨token, member, accepted⟩
    by_cases empty : text.toList = []
    · rw [tokens, empty] at member
      simp [Text.splitWhitespace] at member
    · rw [tokens_of_unbroken empty unbroken] at member
      rw [← List.mem_singleton.mp member, accepted]
  · rw [if_pos noBlank]

theorem unbroken_reference {path digits : String} (unbroken : Text.Unbroken path.toList)
    (numeral : Text.Numeral digits.toList) : Text.Unbroken (path ++ ":" ++ digits).toList := by
  rw [String.toList_append, String.toList_append]
  have colon : Text.Unbroken ":".toList := by decide
  exact (unbroken.append colon).append numeral.unbroken

/-- If `p:1` is a reference to the path `p`, then so is `p:d` for every numeral
that fits the machine, and for no other. -/
theorem parseToken_numeral {path digits : String} (unbroken : Text.Unbroken path.toList)
    (reference : parseToken (path ++ ":1") = some (path, 1)) (numeral : Text.Numeral digits.toList) :
    parseToken (path ++ ":" ++ digits) =
      (Text.parseUsize digits.toList).map (fun line => (path, line)) := by
  have one : Text.Numeral "1".toList := by decide
  have split : path ++ ":1" = path ++ ":" ++ "1" := by
    rw [String.append_assoc]
    rfl
  rw [split] at reference
  rcases refersTo_of_parseToken (unbroken_reference unbroken one) reference with
    ⟨first, same, _, _⟩
  let spelling : Spelling (path ++ ":" ++ digits).toList := {
    front := []
    file := path.toList
    digits := digits.toList
    rest := []
    colons := []
    back := []
    spells := by simp [String.toList_append]
    wrapsFront := by simp
    wrapsBack := by simp
    onlyColons := by simp
    nonempty := same ▸ first.nonempty
    looksLikeFile := same ▸ first.looksLikeFile
    unwrapped := same ▸ first.unwrapped
    hasDigits := numeral.1
    onlyDigits := numeral.2
    noColon := by simp
    noDigit := by simp }
  have found := parseToken_of_spelling (unbroken_reference unbroken numeral) spelling
  simp only [spelling, String.ofList_toList] at found
  exact found

/-- The snippet of a file with a line is the rendering of its bounds. -/
theorem snippet_eq (file : String) (line : Nat) (content : String)
    (nonempty : 1 ≤ (Text.lines content.toList).length) :
    ∃ start stop, bounds line (Text.lines content.toList).length = some (start, stop) ∧
      snippet file line content = rendering file line (Text.lines content.toList) start stop := by
  rcases windowSnippet_bounds file line content nonempty with
    ⟨start, stop, chosen, _, _, _, _, _, shown⟩
  refine ⟨start, stop, chosen, ?_⟩
  unfold snippet
  simp only [shown, Option.get_some]

theorem bounds_ordered {line total start stop : Nat} (nonempty : 1 ≤ total)
    (chosen : bounds line total = some (start, stop)) : start ≤ stop := by
  rcases bounds_spec line nonempty with ⟨first, last, found, _, before, after, _⟩
  rw [chosen] at found
  rcases Prod.mk.inj (Option.some.inj found) with ⟨sameStart, sameStop⟩
  rw [sameStart, sameStop]
  exact Nat.le_trans before after

/-- The header of a rendering ends its first line. -/
theorem newline_mem_rendering (file : String) (line : Nat) (lines : List (List Char))
    {start stop : Nat} (ordered : start ≤ stop) :
    '\n' ∈ (rendering file line lines start stop).toList := by
  rcases rendering_toList file line lines ordered with ⟨rest, whole⟩
  rw [whole, header_eq]
  simp

/-- A line past the end has the bounds of the last line. -/
theorem bounds_past_end {line total : Nat} (past : total ≤ line) :
    bounds line total = bounds total total := by
  unfold bounds
  rw [Nat.min_eq_right past, Nat.min_self]

/-- A context that shows a file in the window of its last line.  The header
repeats the line that was asked for. -/
def ShowsLastWindow (path content : String) (context : Except FormeError String) : Prop :=
  ∃ line start stop,
    bounds (Text.lines content.toList).length (Text.lines content.toList).length =
      some (start, stop) ∧
    context = .ok (rendering path line (Text.lines content.toList) start stop)

/-- Two contexts that show the same numbered lines, those of the last line. -/
def ShowSameLastWindow (path content : String) (context1 context2 : Except FormeError String) :
    Prop :=
  ∃ start stop line1 line2,
    bounds (Text.lines content.toList).length (Text.lines content.toList).length =
      some (start, stop) ∧
    context1 = .ok (rendering path line1 (Text.lines content.toList) start stop) ∧
    context2 = .ok (rendering path line2 (Text.lines content.toList) start stop)

theorem showSameLastWindow_iff {path content : String} {context1 context2 : Except FormeError String} :
    ShowSameLastWindow path content context1 context2 <->
      ShowsLastWindow path content context1 ∧ ShowsLastWindow path content context2 := by
  constructor
  · rintro ⟨start, stop, line1, line2, chosen, shown1, shown2⟩
    exact ⟨⟨line1, start, stop, chosen, shown1⟩, ⟨line2, start, stop, chosen, shown2⟩⟩
  · rintro ⟨⟨line1, start, stop, chosen, shown1⟩, ⟨line2, first, last, chosen2, shown2⟩⟩
    rw [chosen] at chosen2
    rcases Prod.mk.inj (Option.some.inj chosen2) with ⟨sameStart, sameStop⟩
    rw [← sameStart, ← sameStop] at shown2
    exact ⟨start, stop, line1, line2, chosen, shown1, shown2⟩

section PastTheEnd

variable {E : Type} [ToString E] {builder : FileSnippetBuilder} {path content : String}

/-- What the builder makes of an event `p:d`. -/
theorem build_numeral (unbroken : Text.Unbroken path.toList)
    (reference : parseToken (path ++ ":1") = some (path, 1)) (stored : builder.files path = some content)
    {digits : String} (numeral : Text.Numeral digits.toList) {event : E}
    (text : toString event = path ++ ":" ++ digits) (history : List E) :
    ContextBuilder.build builder event history =
      if Text.decimalValue digits.toList ≤ Text.usizeMax then
        .ok (snippet path (Text.decimalValue digits.toList) content)
      else .ok (path ++ ":" ++ digits) := by
  have found := extractFileLine_of_unbroken (unbroken_reference unbroken numeral)
  rw [parseToken_numeral unbroken reference numeral, Text.parseUsize, if_neg numeral.1] at found
  split
  · rename_i fits
    rw [if_pos fits, Option.map_some] at found
    simp only [ContextBuilder.build, text, found, stored]
  · rename_i large
    rw [if_neg large, Option.map_none] at found
    simp only [ContextBuilder.build, text, found]

/-- A line past the end is shown as the last one if and only if its number
fits the machine. -/
theorem showsLastWindow_iff (unbroken : Text.Unbroken path.toList)
    (reference : parseToken (path ++ ":1") = some (path, 1)) (stored : builder.files path = some content)
    (nonempty : 1 ≤ (Text.lines content.toList).length)
    {digits : String} (numeral : Text.Numeral digits.toList)
    (past : (Text.lines content.toList).length ≤ Text.decimalValue digits.toList) {event : E}
    (text : toString event = path ++ ":" ++ digits) (history : List E) :
    ShowsLastWindow path content (ContextBuilder.build builder event history) <->
      Text.decimalValue digits.toList ≤ Text.usizeMax := by
  rw [build_numeral unbroken reference stored numeral text history]
  constructor
  · rintro ⟨line, start, stop, chosen, shown⟩
    by_contra large
    rw [if_neg large, Except.ok.injEq] at shown
    have newline := newline_mem_rendering path line (Text.lines content.toList)
      (bounds_ordered nonempty chosen)
    rw [← shown] at newline
    exact absurd (unbroken_reference unbroken numeral '\n' newline) (by decide)
  · intro fits
    rcases snippet_eq path (Text.decimalValue digits.toList) content nonempty with
      ⟨start, stop, chosen, same⟩
    rw [bounds_past_end past] at chosen
    rw [if_pos fits, same]
    exact ⟨_, start, stop, chosen, rfl⟩

/-- Two lines past the end of a file are shown by the same rows, those of its
last line, if and only if both numbers fit the machine. -/
theorem lines_past_end_clamped_iff (unbroken : Text.Unbroken path.toList)
    (reference : parseToken (path ++ ":1") = some (path, 1)) (stored : builder.files path = some content)
    (nonempty : 1 ≤ (Text.lines content.toList).length) {digits1 digits2 : String}
    (numeral1 : Text.Numeral digits1.toList) (numeral2 : Text.Numeral digits2.toList)
    (past1 : (Text.lines content.toList).length ≤ Text.decimalValue digits1.toList)
    (past2 : (Text.lines content.toList).length ≤ Text.decimalValue digits2.toList)
    {event1 event2 : E} (text1 : toString event1 = path ++ ":" ++ digits1)
    (text2 : toString event2 = path ++ ":" ++ digits2) (history1 history2 : List E) :
    ShowSameLastWindow path content (ContextBuilder.build builder event1 history1)
        (ContextBuilder.build builder event2 history2) <->
      Text.decimalValue digits1.toList ≤ Text.usizeMax ∧
        Text.decimalValue digits2.toList ≤ Text.usizeMax := by
  rw [showSameLastWindow_iff,
    showsLastWindow_iff unbroken reference stored nonempty numeral1 past1 text1 history1,
    showsLastWindow_iff unbroken reference stored nonempty numeral2 past2 text2 history2]

/-- The largest machine number is shown like the last line. -/
theorem largest_line_clamped :
    ShowSameLastWindow "a.rs" "x" (ContextBuilder.build (withFile "a.rs" "x") "a.rs:1" [])
      (ContextBuilder.build (withFile "a.rs" "x") "a.rs:18446744073709551615" []) := by
  have unbroken : Text.Unbroken "a.rs".toList := by decide
  have reference : parseToken ("a.rs" ++ ":1") = some ("a.rs", 1) := by decide
  have numeral1 : Text.Numeral "1".toList := by decide
  have numeral2 : Text.Numeral "18446744073709551615".toList := by decide
  have text1 : toString "a.rs:1" = "a.rs" ++ ":" ++ "1" := rfl
  have text2 : toString "a.rs:18446744073709551615" = "a.rs" ++ ":" ++ "18446744073709551615" := rfl
  exact (lines_past_end_clamped_iff unbroken reference (withFile_files "a.rs" "x") (by decide) numeral1
    numeral2 (by decide) (by decide) text1 text2 [] []).mpr ⟨by decide, by decide⟩

/-- The next number is not shown at all: the event text is its own context. -/
theorem overflowing_line_not_clamped :
    Text.Unbroken "a.rs".toList ∧ parseToken ("a.rs" ++ ":1") = some ("a.rs", 1) ∧
    (withFile "a.rs" "x").files "a.rs" = some "x" ∧ (Text.lines "x".toList).length = 1 ∧
    ContextBuilder.build (withFile "a.rs" "x") "a.rs:18446744073709551616" [] =
      .ok "a.rs:18446744073709551616" ∧
    ¬ ShowSameLastWindow "a.rs" "x" (ContextBuilder.build (withFile "a.rs" "x") "a.rs:1" [])
      (ContextBuilder.build (withFile "a.rs" "x") "a.rs:18446744073709551616" []) := by
  have unbroken : Text.Unbroken "a.rs".toList := by decide
  have reference : parseToken ("a.rs" ++ ":1") = some ("a.rs", 1) := by decide
  have stored := withFile_files "a.rs" "x"
  have numeral : Text.Numeral "18446744073709551616".toList := by decide
  have text : toString "a.rs:18446744073709551616" = "a.rs" ++ ":" ++ "18446744073709551616" := rfl
  have large : ¬ Text.decimalValue "18446744073709551616".toList ≤ Text.usizeMax := by decide
  have context := build_numeral unbroken reference stored numeral text []
  rw [if_neg large] at context
  refine ⟨unbroken, reference, stored, by decide, context, ?_⟩
  intro same
  have shown := (showSameLastWindow_iff.mp same).2
  rw [showsLastWindow_iff unbroken reference stored (by decide) numeral (by decide) text] at shown
  exact large shown

end PastTheEnd

end FileSnippetBuilder

end ContextBuilders
end Caulk
