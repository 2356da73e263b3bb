import Caulk.ContextBuilder.HeaderReference
import Caulk.ContextBuilder.ParagraphHistory

namespace Caulk
namespace ContextBuilders

open Caulk.Core
open Foundation

/-!
# Blank contexts

None of the builders fails.  How they can leave the model without a context is
another matter: `NoopBuilder` always does, `FileSnippetBuilder` for a blank
event, and `ParagraphBuilder` for a blank event that no paragraph precedes.
-/

section Blank

variable {E : Type}

theorem NoopBuilder.builds (event : E) (history : List E) :
    ∃ context, ContextBuilder.build NoopBuilder.mk event history = .ok context :=
  ⟨"", rfl⟩

theorem NoopBuilder.blank {event : E} {history : List E} {context : String}
    (built : ContextBuilder.build NoopBuilder.mk event history = .ok context) :
    Text.isBlank context.toList = true := by
  cases built
  rfl

variable [ToString E]

namespace FileSnippetBuilder

/-- The colon of the header stays. -/
theorem snippet_solid (file : String) (line : Nat) (content : String) :
    Text.isBlank (snippet file line content).toList = false := by
  have named : ':' ∈ title file line := by
    rw [title_toList]
    exact List.mem_append_right _ List.mem_cons_self
  have colon : ':' ∈ (snippet file line content).toList := by
    by_cases empty : (Text.lines content.toList).length = 0
    · rw [snippet_of_empty file line empty, String.toList_ofList]
      exact List.mem_append_left _ named
    · rcases snippet_of_lines file line (Nat.one_le_iff_ne_zero.mpr empty) with ⟨rest, split⟩
      rw [split, String.toList_ofList]
      exact List.mem_append_left _ named
  apply eq_false_of_ne_true
  intro blank
  exact absurd (Text.isBlank_eq_true_iff.mp blank ':' colon) (by decide)

/-- A blank text refers to nothing. -/
theorem extractFileLine_of_blank {text : String} (blank : Text.isBlank text.toList = true) :
    extractFileLine text = none := by
  have white := Text.isBlank_eq_true_iff.mp blank
  have noWord : tokens text = [] := by
    rw [tokens, List.map_eq_nil_iff, List.eq_nil_iff_forall_not_mem]
    intro word member
    rcases List.exists_mem_of_ne_nil word (Runs.ne_nil_of_mem member) with ⟨character, inside⟩
    have solid := Runs.solid_of_mem member character inside
    rw [white character (Runs.mem_of_mem member character inside)] at solid
    cases solid
  have nothing : stripToken text.toList = [] := by
    apply Text.trimMatches_eq_nil_iff.mpr
    intro character member
    have unclosed := (List.rdropWhile_prefix _ _).subset member
    have unwrapped := (List.rdropWhile_prefix _ _).subset unclosed
    exact white character ((List.dropWhile_suffix _).subset unwrapped)
  have noReference : parseToken text = none := by
    rw [parseToken, nothing]
    rfl
  unfold extractFileLine
  rw [noWord, noReference]
  split
  · rename_i found
    cases found
  · split <;> rfl

theorem builds (builder : FileSnippetBuilder) (event : E) (history : List E) :
    ∃ context, ContextBuilder.build builder event history = .ok context := by
  simp only [ContextBuilder.build]
  split
  · split
    · exact ⟨_, rfl⟩
    · exact ⟨_, rfl⟩
  · exact ⟨_, rfl⟩

theorem blank_iff (builder : FileSnippetBuilder) (event : E) (history : List E) {context : String}
    (built : ContextBuilder.build builder event history = .ok context) :
    Text.isBlank context.toList = true <-> Text.isBlank (toString event).toList = true := by
  cases blank : Text.isBlank (toString event).toList with
  | true =>
      simp only [ContextBuilder.build, extractFileLine_of_blank blank] at built
      rw [← Except.ok.inj built, blank]
  | false =>
      simp only [ContextBuilder.build] at built
      split at built
      · split at built
        · rw [← Except.ok.inj built, snippet_solid]
        · rw [← Except.ok.inj built, blank]
      · rw [← Except.ok.inj built, blank]

end FileSnippetBuilder

namespace ParagraphBuilder

theorem splitIntoParagraphs_eq_nil_iff {text : String} :
    splitIntoParagraphs text = [] <-> Text.isBlank text.toList = true := by
  rw [splitIntoParagraphs_eq, List.map_eq_nil_iff, Text.paragraphs_eq_nil_iff]

theorem historyParagraphs_eq_nil_iff {history : List E} :
    historyParagraphs history = [] <->
      forall past, past ∈ history -> Text.isBlank (toString past).toList = true := by
  rw [historyParagraphs, List.flatMap_eq_nil_iff]
  apply forall_congr'
  intro past
  rw [splitIntoParagraphs_eq_nil_iff]

theorem builds (builder : ParagraphBuilder) (event : E) (history : List E) :
    ∃ context, ContextBuilder.build builder event history = .ok context :=
  ⟨_, build_eq builder event history⟩

/-- A context is blank when it has no paragraph, and each part brings its own. -/
theorem blank_iff (builder : ParagraphBuilder) (event : E) (history : List E) {context : String}
    (built : ContextBuilder.build builder event history = .ok context) :
    Text.isBlank context.toList = true <->
      Text.isBlank (toString event).toList = true ∧
        (builder.n = 0 ∨ forall past, past ∈ history -> Text.isBlank (toString past).toList = true) := by
  have single : forall part, part ∈ (historyParagraphs history).rtake builder.n ->
      splitIntoParagraphs part ≠ [] := by
    intro part member
    rcases exists_event_of_mem_rtake member with ⟨past, _, inside⟩
    rw [← List.length_pos_iff, length_splitIntoParagraphs_of_mem inside]
    exact Nat.one_pos
  have none_selected : (historyParagraphs history).rtake builder.n = [] <->
      builder.n = 0 ∨ historyParagraphs history = [] := by
    rw [List.rtake_eq_reverse_take_reverse, List.reverse_eq_nil_iff, List.take_eq_nil_iff,
      List.reverse_eq_nil_iff]
  rw [build_eq] at built
  rw [← splitIntoParagraphs_eq_nil_iff, ← Except.ok.inj built, splitIntoParagraphs_intercalate,
    List.flatMap_append, List.append_eq_nil_iff, List.flatMap_singleton,
    splitIntoParagraphs_eq_nil_iff, ← historyParagraphs_eq_nil_iff, ← none_selected, and_comm]
  apply and_congr_right
  intro _
  rw [List.flatMap_eq_nil_iff]
  constructor
  · intro none
    rw [List.eq_nil_iff_forall_not_mem]
    intro part member
    exact single part member (none part member)
  · intro none part member
    rw [none] at member
    cases member

end ParagraphBuilder

end Blank

end ContextBuilders
end Caulk
