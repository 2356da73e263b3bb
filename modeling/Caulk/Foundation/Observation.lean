import Mathlib.Data.List.Basic
import Mathlib.Logic.Basic

namespace Foundation

/-!
# Telling runs apart by their answers

A run puts one question after another to somebody who sees only a part of each
question, and reads the answers up to the first error.  Two runs that are
answered alike whoever answers are exactly those of which the same is seen.
-/

namespace Observation

universe u v w x y

variable {Item : Type u} {Seen : Type v} {Raw : Type w} {Error : Type x} {Answer : Type y}

/-- The answers to a list of questions, when `answer` sees `observe` of each and
`read` makes an answer or an error of what it says. -/
def answers (observe : Item -> Seen) (read : Raw -> Except Error Answer) (answer : Seen -> Raw) :
    List Item -> Except Error (List Answer)
  | [] => .ok []
  | item :: rest =>
      match read (answer (observe item)) with
      | .error error => .error error
      | .ok first =>
          match answers observe read answer rest with
          | .error error => .error error
          | .ok later => .ok (first :: later)

/-- Lists on which every test reads the same are equal. -/
theorem eq_of_tests {first second : List Seen}
    (same : forall test : Seen -> Bool, first.map test = second.map test) : first = second := by
  induction first generalizing second with
  | nil =>
      have lengths := congrArg List.length (same (fun _ => true))
      rw [List.length_map, List.length_map] at lengths
      exact (List.length_eq_zero_iff.mp lengths.symm).symm
  | cons seen rest ih =>
      cases second with
      | nil => exact absurd (same (fun _ => true)) (List.cons_ne_nil _ _)
      | cons other others =>
          have heads : forall test : Seen -> Bool, test seen = test other :=
            fun test => (List.cons.inj (same test)).1
          have tails := ih (fun test => (List.cons.inj (same test)).2)
          classical
          have equal := heads (fun candidate => decide (candidate = seen))
          rw [decide_eq_true rfl] at equal
          rw [tails, of_decide_eq_true equal.symm]

variable {observe : Item -> Seen} {read : Raw -> Except Error Answer} {first second : List Item}

/-- Only what is seen matters. -/
theorem answers_eq_of_seen (answer : Seen -> Raw) (same : first.map observe = second.map observe) :
    answers observe read answer first = answers observe read answer second := by
  induction first generalizing second with
  | nil =>
      rw [List.map_eq_nil_iff.mp same.symm]
  | cons item rest ih =>
      cases second with
      | nil => cases same
      | cons other others =>
          rcases List.cons.inj same with ⟨head, tail⟩
          rw [answers, answers, head, ih tail]

/-- One who says only two things, by a test of what is seen. -/
theorem answers_of_test {yes no : Raw} {accept refuse : Answer} (yesRead : read yes = .ok accept)
    (noRead : read no = .ok refuse) (test : Seen -> Bool) (items : List Item) :
    answers observe read (fun seen => if test seen then yes else no) items =
      .ok (items.map (fun item => if test (observe item) then accept else refuse)) := by
  induction items with
  | nil => rfl
  | cons item rest ih =>
      rw [answers, ih, List.map_cons]
      cases test (observe item) with
      | true => simp only [if_true, yesRead]
      | false => simp only [Bool.false_eq_true, if_false, noRead]

/-- Whoever answers, two runs are answered alike, exactly when the same is seen
of both. -/
theorem answers_agree_iff {yes no : Raw} {accept refuse : Answer} (yesRead : read yes = .ok accept)
    (noRead : read no = .ok refuse) (apart : accept ≠ refuse) :
    (forall answer : Seen -> Raw,
      answers observe read answer first = answers observe read answer second) <->
      first.map observe = second.map observe := by
  constructor
  · intro agree
    apply eq_of_tests
    intro test
    have told := agree (fun seen => if test seen then yes else no)
    rw [answers_of_test yesRead noRead, answers_of_test yesRead noRead] at told
    have injective : Function.Injective (fun passed : Bool => if passed then accept else refuse) := by
      intro left right equal
      cases left with
      | true =>
          cases right with
          | true => rfl
          | false => exact absurd equal apart
      | false =>
          cases right with
          | true => exact absurd equal.symm apart
          | false => rfl
    apply List.map_injective_iff.mpr injective
    rw [List.map_map, List.map_map, List.map_map, List.map_map]
    exact Except.ok.inj told
  · intro same answer
    exact answers_eq_of_seen answer same

end Observation

end Foundation
