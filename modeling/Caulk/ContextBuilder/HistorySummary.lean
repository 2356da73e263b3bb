import Caulk.ContextBuilder.ParagraphHistory

namespace Caulk
namespace ContextBuilders

open Caulk.Core
open Foundation

/-!
# What a context says about the history

`ParagraphBuilder` joins paragraphs by empty lines without any escaping.  No
paragraph has an empty line of its own, so one context gives away which
paragraphs were selected, and these are all that the builder will ever show of
the history: histories that look the same to one event look the same to every
event, whatever happens in between.
-/

namespace ParagraphBuilder

section Summaries

variable {E : Type} [ToString E]

theorem closes_of_selected {history : List E} {n : Nat} {part : List Char}
    (member : part ∈ ((historyParagraphs history).rtake n).map String.toList) :
    Separator.Closes ['\n', '\n'] part := by
  rcases List.mem_map.mp member with ⟨selected, inside, same⟩
  rcases exists_event_of_mem_rtake inside with ⟨past, _, found⟩
  rw [← same]
  exact Text.closes_of_mem_paragraphs (mem_splitIntoParagraphs.mp found)

/-- Whatever the event, equal contexts show the same paragraphs. -/
theorem context_eq_iff (n : Nat) (event : E) (first second : List E) :
    ContextBuilder.build (withN n) event first = ContextBuilder.build (withN n) event second <->
      (historyParagraphs first).rtake n = (historyParagraphs second).rtake n := by
  rw [build_eq, build_eq]
  constructor
  · intro same
    have texts := congrArg String.toList (Except.ok.inj same)
    rw [String.toList_intercalate, String.toList_intercalate, List.map_append, List.map_append,
      List.map_singleton, Separator.intercalate_concat, Separator.intercalate_concat] at texts
    have shown := Separator.terminated_injective (by decide) (fun part => closes_of_selected)
      (fun part => closes_of_selected) (List.append_cancel_right texts)
    exact List.map_injective_iff.mpr (fun _ _ => String.toList_inj.mp) shown
  · intro same
    have selected : (historyParagraphs first).rtake (withN n).n =
        (historyParagraphs second).rtake (withN n).n := same
    rw [selected]

/-- Only the last elements of the front matter to the last ones of the whole. -/
theorem rtake_append_rtake {α : Type} (n : Nat) (front back : List α) :
    (front.rtake n ++ back).rtake n = (front ++ back).rtake n := by
  simp only [List.rtake_eq_reverse_take_reverse, List.reverse_append, List.reverse_reverse,
    List.take_append, List.take_take]
  congr 3
  omega

/-- The context of one event gives away which paragraphs were selected, and
with them every context of the future: histories that look the same to one
event look the same to every event after any events that follow. -/
theorem context_summarises_history (n : Nat) (event : E) (first second : List E) :
    (ContextBuilder.build (withN n) event first = ContextBuilder.build (withN n) event second <->
      (historyParagraphs first).rtake n = (historyParagraphs second).rtake n) ∧
    (ContextBuilder.build (withN n) event first = ContextBuilder.build (withN n) event second <->
      forall (future : List E) (other : E),
        ContextBuilder.build (withN n) other (first ++ future) =
          ContextBuilder.build (withN n) other (second ++ future)) := by
  refine ⟨context_eq_iff n event first second, ?_⟩
  constructor
  · intro same future other
    have selected := (context_eq_iff n event first second).mp same
    have joined : forall history : List E, historyParagraphs (history ++ future) =
        historyParagraphs history ++ historyParagraphs future := fun _ => List.flatMap_append
    rw [context_eq_iff, joined, joined, ← rtake_append_rtake, selected, rtake_append_rtake]
  · intro always
    have now := always [] event
    rw [List.append_nil, List.append_nil] at now
    exact now

end Summaries

end ParagraphBuilder

end ContextBuilders
end Caulk
