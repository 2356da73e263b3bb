import Caulk.ContextBuilder
import Caulk.Foundation.MaximalRuns
import Caulk.Foundation.Paragraphs

namespace Caulk
namespace ContextBuilders

open Caulk.Core
open Foundation

/-!
# Paragraph history

`ParagraphBuilder` puts the last paragraphs of the history before the current
event.  Its loop over the lines of a text collects maximal runs of nonblank
lines, so what it returns are the paragraphs of the general theory, and the
laws about paragraphs side by side and about paragraphs read again become
statements about contexts: how the history is cut into events does not matter,
a context can be taken apart again, and old events are forgotten.
-/

structure ParagraphBuilder where
  n : Nat
deriving DecidableEq, Repr

namespace ParagraphBuilder

instance : Inhabited ParagraphBuilder :=
  ⟨{ n := 3 }⟩

def new : ParagraphBuilder :=
  default

def withN (n : Nat) : ParagraphBuilder where
  n := n

/-- The paragraphs found so far, and the lines of the next one. -/
structure Splitting where
  paras : List (List Char)
  curLines : List (List Char)

/-- One round of the loop over the lines. -/
def pushLine (state : Splitting) (line : List Char) : Splitting :=
  if (Text.trim line).isEmpty then
    if state.curLines = [] then state
    else ⟨state.paras ++ [Text.joinLines state.curLines], []⟩
  else ⟨state.paras, state.curLines ++ [line]⟩

def splitIntoParagraphs (text : String) : List String :=
  let state := (Text.lines text.toList).foldl pushLine ⟨[], []⟩
  let paras :=
    if state.curLines = [] then state.paras
    else state.paras ++ [Text.joinLines state.curLines]
  ((paras.map Text.trim).filter (fun para => !para.isEmpty)).map String.ofList

/-- The paragraphs of all history events, in order. -/
def historyParagraphs {E : Type} [ToString E] (history : List E) : List String :=
  history.flatMap (fun past => splitIntoParagraphs (toString past))

instance {E : Type} [ToString E] : ContextBuilder ParagraphBuilder E where
  build builder event history :=
    let paras := historyParagraphs history
    let take := builder.n
    let selected := if paras.length ≤ take then paras else (paras.reverse.take take).reverse
    let cur := toString event
    if selected.isEmpty then .ok cur else .ok ("\n\n".intercalate selected ++ "\n\n" ++ cur)

/-! ## The loop collects runs -/

/-- The state of the loop, from the runs that it has collected. -/
def Splitting.ofCollected (state : Runs.Collected (List Char)) : Splitting where
  paras := state.complete.map Text.joinLines
  curLines := state.stretch

theorem pushLine_ofCollected (state : Runs.Collected (List Char)) (line : List Char) :
    pushLine (Splitting.ofCollected state) line =
      Splitting.ofCollected (Runs.collect Text.isBlank state line) := by
  unfold pushLine Runs.collect Text.isBlank
  by_cases blank : (Text.trim line).isEmpty = true
  · rw [if_pos blank, if_pos blank]
    by_cases closed : state.stretch = []
    · rw [if_pos closed]
      exact if_pos closed
    · rw [if_neg closed]
      refine (if_neg closed).trans ?_
      simp [Splitting.ofCollected]
  · rw [if_neg blank, if_neg blank]
    rfl

/-- The paragraphs of the loop, before they are trimmed and filtered. -/
def joinedParagraphs (text : String) : List (List Char) :=
  let state := (Text.lines text.toList).foldl pushLine ⟨[], []⟩
  if state.curLines = [] then state.paras else state.paras ++ [Text.joinLines state.curLines]

theorem joinedParagraphs_eq (text : String) :
    joinedParagraphs text = (runs Text.isBlank (Text.lines text.toList)).map Text.joinLines := by
  have start : Splitting.mk [] [] = Splitting.ofCollected ⟨[], []⟩ := rfl
  have loop : (Text.lines text.toList).foldl pushLine ⟨[], []⟩ = Splitting.ofCollected
      ((Text.lines text.toList).foldl (Runs.collect Text.isBlank) ⟨[], []⟩) := by
    rw [start]
    exact List.foldl_hom Splitting.ofCollected pushLine_ofCollected
  have explains := @Runs.foldl_collect_explains _ Text.isBlank (Text.lines text.toList)
  unfold joinedParagraphs
  rw [loop, explains.runs_eq]
  generalize (Text.lines text.toList).foldl (Runs.collect Text.isBlank) ⟨[], []⟩ = state
  by_cases closed : state.stretch = []
  · simp [Splitting.ofCollected, closed]
  · simp [Splitting.ofCollected, closed]

theorem trim_joinedParagraphs (text : String) :
    (joinedParagraphs text).map Text.trim = Text.paragraphs text.toList := by
  rw [joinedParagraphs_eq, List.map_map]
  rfl

/-- The final filter removes nothing. -/
theorem filter_joinedParagraphs (text : String) :
    ((joinedParagraphs text).map Text.trim).filter (fun para => !para.isEmpty) =
      (joinedParagraphs text).map Text.trim := by
  apply List.filter_eq_self.mpr
  intro part member
  rw [trim_joinedParagraphs] at member
  have present := Text.ne_nil_of_mem_paragraphs member
  simp [present]

theorem splitIntoParagraphs_eq_filter (text : String) :
    splitIntoParagraphs text = (((joinedParagraphs text).map Text.trim).filter
      (fun para => !para.isEmpty)).map String.ofList :=
  rfl

/-- The function returns the paragraphs of the text. -/
theorem splitIntoParagraphs_eq (text : String) :
    splitIntoParagraphs text = (Text.paragraphs text.toList).map String.ofList := by
  rw [splitIntoParagraphs_eq_filter, filter_joinedParagraphs, trim_joinedParagraphs]

/-! ## One paragraph for each run -/

/-- The paragraphs are the maximal runs of nonblank lines, each once and in
order.  Only the start of the first line and the end of the last line of a run
are trimmed, every nonblank line is in just one run, and the filter at the end
has nothing to remove. -/
theorem one_paragraph_for_each_run (text : String) :
    ∃ spans : List (Nat × Nat), spans.Pairwise (fun earlier later => earlier.2 < later.1) ∧
      (forall start stop, (start, stop) ∈ spans <->
        MaximalRun Text.isBlank (Text.lines text.toList) start stop) ∧
      splitIntoParagraphs text = spans.map (fun span => String.ofList
        (Text.joinLines (Text.trimRun ((Text.lines text.toList).extract span.1 span.2)))) ∧
      (forall position, SolidAt Text.isBlank (Text.lines text.toList) position ->
        ∃! span, span ∈ spans ∧ span.1 ≤ position ∧ position < span.2) ∧
      spans.flatMap (fun span => (Text.lines text.toList).extract span.1 span.2) =
        (Text.lines text.toList).filter (fun line => !Text.isBlank line) ∧
      splitIntoParagraphs text = (((joinedParagraphs text).map Text.trim).filter
        (fun para => !para.isEmpty)).map String.ofList ∧
      ((joinedParagraphs text).map Text.trim).filter (fun para => !para.isEmpty) =
        (joinedParagraphs text).map Text.trim := by
  rcases runs_stand_at_maximalRuns Text.isBlank (Text.lines text.toList) with
    ⟨spans, ordered, exactly, stand⟩
  refine ⟨spans, ordered, exactly, ?_, ?_, ?_, splitIntoParagraphs_eq_filter text,
    filter_joinedParagraphs text⟩
  · have trimmed : forall span, span ∈ spans ->
        Text.paragraph ((Text.lines text.toList).extract span.1 span.2) =
          Text.joinLines (Text.trimRun ((Text.lines text.toList).extract span.1 span.2)) := by
      intro span member
      apply Text.paragraph_eq_joinLines
      apply Text.block_of_mem_runs
      rw [stand]
      exact List.mem_map_of_mem member
    rw [splitIntoParagraphs_eq, Text.paragraphs, stand, List.map_map, List.map_map]
    apply List.map_congr_left
    intro span member
    exact congrArg String.ofList (trimmed span member)
  · intro position solid
    have unique := existsUnique_maximalRun solid
    simp only [← exactly] at unique
    exact unique
  · rw [← Runs.flatten_runs, stand]
    rfl

/-- Blank lines of white space on both sides, and an indented line that ends
in white space. -/
example : splitIntoParagraphs "  \n\n para\n  more \n\n  \n" = ["para\n  more"] := by decide

/-- The last paragraphs of the history, as the two branches select them. -/
theorem selected_eq_rtake (paras : List String) (take : Nat) :
    (if paras.length ≤ take then paras else (paras.reverse.take take).reverse) =
      paras.rtake take := by
  rw [List.rtake_eq_reverse_take_reverse]
  split
  · rename_i few
    rw [List.take_of_length_le (by rw [List.length_reverse]; exact few), List.reverse_reverse]
  · rfl

/-- The context is made of the last paragraphs and the current event, all
divided by empty lines. -/
theorem build_eq {E : Type} [ToString E] (builder : ParagraphBuilder) (event : E) (history : List E) :
    ContextBuilder.build builder event history =
      .ok ("\n\n".intercalate
        ((historyParagraphs history).rtake builder.n ++ [toString event])) := by
  simp only [ContextBuilder.build, selected_eq_rtake]
  split
  · rename_i nothing
    rw [List.isEmpty_iff.mp nothing]
    simp
  · rename_i some
    have present := fun empty => some (List.isEmpty_iff.mpr empty)
    rw [String.intercalate_append_of_ne_nil present (List.cons_ne_nil _ _),
      String.intercalate_singleton]

/-! ## Cutting the history -/

theorem splitIntoParagraphs_append_blank (front back : String) :
    splitIntoParagraphs (front ++ "\n\n" ++ back) =
      splitIntoParagraphs front ++ splitIntoParagraphs back := by
  have whole : (front ++ "\n\n" ++ back).toList = front.toList ++ '\n' :: '\n' :: back.toList := by
    simp [String.toList_append]
  rw [splitIntoParagraphs_eq, splitIntoParagraphs_eq, splitIntoParagraphs_eq, whole,
    Text.paragraphs_append_blank, List.map_append]

/-- It does not matter whether two texts come as one event with an empty line
between them or as two events. -/
theorem history_cut_at_blank_line (n : Nat) (front back : String) :
    splitIntoParagraphs (front ++ "\n\n" ++ back) =
        splitIntoParagraphs front ++ splitIntoParagraphs back ∧
    forall (E : Type) [ToString E] (event whole first second : E) (before after : List E),
      toString whole = front ++ "\n\n" ++ back -> toString first = front ->
      toString second = back ->
      ContextBuilder.build (withN n) event (before ++ [whole] ++ after) =
        ContextBuilder.build (withN n) event (before ++ [first, second] ++ after) := by
  refine ⟨splitIntoParagraphs_append_blank front back, ?_⟩
  intro E _ event whole first second before after wholeText firstText secondText
  rw [build_eq, build_eq]
  simp only [historyParagraphs, List.flatMap_append, List.flatMap_cons, List.flatMap_nil, wholeText, firstText,
    secondText, splitIntoParagraphs_append_blank, List.append_nil]

/-- A text with carriage returns at its end and one with an empty start. -/
theorem crlf_history_cut_at_blank_line :
    ContextBuilder.build (withN 2) "now" (["old"] ++ ["one\r\n two\r\n\n\r\nthree"] ++ []) =
      ContextBuilder.build (withN 2) "now" (["old"] ++ ["one\r\n two\r", "\r\nthree"] ++ []) :=
  (history_cut_at_blank_line 2 "one\r\n two\r" "\r\nthree").2 String "now"
    "one\r\n two\r\n\n\r\nthree" "one\r\n two\r" "\r\nthree" ["old"] [] rfl rfl rfl

/-! ## Taking a context apart -/

theorem mem_splitIntoParagraphs {text part : String} :
    part ∈ splitIntoParagraphs text <-> part.toList ∈ Text.paragraphs text.toList := by
  rw [splitIntoParagraphs_eq, List.mem_map]
  constructor
  · rintro ⟨characters, member, same⟩
    rw [← same, String.toList_ofList]
    exact member
  · intro member
    exact ⟨part.toList, member, String.ofList_toList⟩

/-- A paragraph is one paragraph when it is split again. -/
theorem length_splitIntoParagraphs_of_mem {text part : String}
    (member : part ∈ splitIntoParagraphs text) : (splitIntoParagraphs part).length = 1 := by
  rw [splitIntoParagraphs_eq, List.length_map]
  exact Text.length_paragraphs_of_mem (mem_splitIntoParagraphs.mp member)

theorem splitIntoParagraphs_of_mem {text part : String} (plain : '\r' ∉ text.toList)
    (member : part ∈ splitIntoParagraphs text) : splitIntoParagraphs part = [part] := by
  rw [splitIntoParagraphs_eq, Text.paragraphs_of_mem plain (mem_splitIntoParagraphs.mp member),
    List.map_singleton, String.ofList_toList]

theorem splitIntoParagraphs_intercalate (texts : List String) :
    splitIntoParagraphs ("\n\n".intercalate texts) = texts.flatMap splitIntoParagraphs := by
  have blank : "\n\n".toList = ['\n', '\n'] := rfl
  rw [splitIntoParagraphs_eq, String.toList_intercalate, blank, Text.paragraphs_intercalate,
    List.map_flatMap, List.flatMap_map]
  congr 1
  funext text
  exact (splitIntoParagraphs_eq text).symm

section Contexts

variable {E : Type} [ToString E]

/-- Every selected paragraph comes from one event. -/
theorem exists_event_of_mem_rtake {history : List E} {n : Nat} {part : String}
    (member : part ∈ (historyParagraphs history).rtake n) :
    ∃ past, past ∈ history ∧ part ∈ splitIntoParagraphs (toString past) :=
  List.mem_flatMap.mp (List.mem_of_mem_drop member)

/-- A context splits into as many paragraphs as were selected and the current
event has, and without carriage returns in the history into exactly these. -/
theorem context_splits_into_selected (n : Nat) (event : E) (history : List E) :
    ∃ context, ContextBuilder.build (withN n) event history = .ok context ∧
      (splitIntoParagraphs context).length =
        min n (historyParagraphs history).length + (splitIntoParagraphs (toString event)).length ∧
      ((forall past, past ∈ history -> '\r' ∉ (toString past).toList) ->
        splitIntoParagraphs context =
          (historyParagraphs history).drop
            ((historyParagraphs history).length - min n (historyParagraphs history).length) ++
          splitIntoParagraphs (toString event)) := by
  have split : splitIntoParagraphs
      ("\n\n".intercalate ((historyParagraphs history).rtake n ++ [toString event])) =
      ((historyParagraphs history).rtake n).flatMap splitIntoParagraphs ++
        splitIntoParagraphs (toString event) := by
    rw [splitIntoParagraphs_intercalate, List.flatMap_append, List.flatMap_singleton]
  refine ⟨_, build_eq (withN n) event history, ?_, ?_⟩
  · have single : forall part, part ∈ (historyParagraphs history).rtake n ->
        (splitIntoParagraphs part).length = 1 := by
      intro part member
      rcases exists_event_of_mem_rtake member with ⟨past, _, inside⟩
      exact length_splitIntoParagraphs_of_mem inside
    have counted : ((historyParagraphs history).rtake n).length =
        min n (historyParagraphs history).length := by
      rw [List.rtake, List.length_drop]
      omega
    refine (congrArg List.length split).trans ?_
    rw [List.length_append, List.length_flatMap, List.map_congr_left single, List.map_const',
      List.sum_replicate_nat, Nat.mul_one, counted]
  · intro plain
    have same : forall part, part ∈ (historyParagraphs history).rtake n ->
        splitIntoParagraphs part = [part] := by
      intro part member
      rcases exists_event_of_mem_rtake member with ⟨past, inHistory, inside⟩
      exact splitIntoParagraphs_of_mem (plain past inHistory) inside
    have dropped : (historyParagraphs history).length - min n (historyParagraphs history).length =
        (historyParagraphs history).length - n := by omega
    refine split.trans ?_
    rw [List.flatMap_congr same, List.flatMap_singleton', dropped, List.rtake]

/-- Two paragraphs of an indented history are found again in the context. -/
theorem indented_history_found_again :
    ∃ context,
      ContextBuilder.build (withN 2) "now" ["one\n\n  two\n \n", "three\n   more\n"] = .ok context ∧
      splitIntoParagraphs context = ["two", "three\n   more", "now"] := by
  rcases context_splits_into_selected 2 "now" ["one\n\n  two\n \n", "three\n   more\n"] with
    ⟨context, built, _, found⟩
  refine ⟨context, built, ?_⟩
  rw [found (by decide)]
  decide

/-- The event has a line that is not blank. -/
def hasText (event : E) : Bool :=
  (Text.lines (toString event).toList).any (fun line => !Text.isBlank line)

/-- Every event with a nonblank line has at least one paragraph. -/
theorem length_filter_hasText_le (history : List E) :
    (history.filter hasText).length ≤ (historyParagraphs history).length := by
  induction history with
  | nil => exact Nat.le_refl 0
  | cons past rest ih =>
      have rest_le : (historyParagraphs (past :: rest)).length =
          (splitIntoParagraphs (toString past)).length + (historyParagraphs rest).length := by
        rw [historyParagraphs, List.flatMap_cons, List.length_append]
        rfl
      by_cases text : hasText past = true
      · rcases List.any_eq_true.mp text with ⟨line, member, solid⟩
        have present : splitIntoParagraphs (toString past) ≠ [] := by
          rw [splitIntoParagraphs_eq]
          intro empty
          exact Text.paragraphs_ne_nil member (by simpa using solid) (List.map_eq_nil_iff.mp empty)
        have positive := List.length_pos_iff.mpr present
        rw [List.filter_cons_of_pos text, List.length_cons, rest_le]
        omega
      · rw [List.filter_cons_of_neg text, rest_le]
        omega

theorem rtake_append_of_le {α : Type} (front : List α) {back : List α} {n : Nat}
    (enough : n ≤ back.length) : (front ++ back).rtake n = back.rtake n := by
  rw [List.rtake_eq_reverse_take_reverse, List.reverse_append, List.take_append_of_le_length,
    ← List.rtake_eq_reverse_take_reverse]
  rw [List.length_reverse]
  exact enough

/-- Events before the last `n` events with a nonblank line do not matter. -/
theorem older_history_forgotten (n : Nat) (event : E) (older recent : List E)
    (enough : n ≤ (recent.filter hasText).length) :
    ContextBuilder.build (withN n) event (older ++ recent) =
      ContextBuilder.build (withN n) event recent := by
  have both : historyParagraphs (older ++ recent) =
      historyParagraphs older ++ historyParagraphs recent := List.flatMap_append
  have reached : n ≤ (historyParagraphs recent).length :=
    Nat.le_trans enough (length_filter_hasText_le recent)
  have selected : (historyParagraphs older ++ historyParagraphs recent).rtake (withN n).n =
      (historyParagraphs recent).rtake (withN n).n := rtake_append_of_le _ reached
  rw [build_eq, build_eq, both, selected]

end Contexts

/-- Two paragraphs are kept, and two recent events have text. -/
theorem window_of_four_events_suffices :
    ContextBuilder.build (withN 2) "now"
        (["old", "older\n\nstill"] ++ ["one\n\ntwo", " \n", "", "three"]) =
      ContextBuilder.build (withN 2) "now" ["one\n\ntwo", " \n", "", "three"] :=
  older_history_forgotten 2 "now" ["old", "older\n\nstill"] ["one\n\ntwo", " \n", "", "three"]
    (by decide)

end ParagraphBuilder

end ContextBuilders
end Caulk
