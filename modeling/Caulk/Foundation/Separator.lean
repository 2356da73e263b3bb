import Mathlib.Data.List.Basic
import Mathlib.Data.List.Infix

namespace Foundation

/-!
# Joining two lists by an unescaped separator

`left ++ separator ++ right` can be taken apart again only when the boundary
can be found.  A left part *closes* at the separator when the separator
cannot be found earlier in `left ++ separator`; a right part *opens* at it
when the separator cannot be found later in `separator ++ right`.  Of two
joins with the same text, the longer left part closing, or the longer right
part opening, is enough to identify both parts.  Both conditions together
are also necessary for one pair to be told apart from every other pair.
-/

universe u

namespace Separator

variable {α : Type u}

/-- In `left ++ separator` the separator is found nowhere before the end. -/
def Closes (separator left : List α) : Prop :=
  forall before after, left ++ separator = before ++ separator ++ after -> after = []

/-- In `separator ++ right` the separator is found nowhere after the start. -/
def Opens (separator right : List α) : Prop :=
  forall before after, separator ++ right = before ++ separator ++ after -> before = []

/-- Equal joins agree once the longer left part closes at the separator. -/
theorem parts_eq_of_closes {separator left right left' right' : List α}
    (same : left ++ separator ++ right = left' ++ separator ++ right')
    (shorter : left.length ≤ left'.length) (closes : Closes separator left') :
    left = left' ∧ right = right' := by
  have whole : left ++ separator <+: left' ++ separator ++ right' := by
    rw [← same]
    exact List.prefix_append _ _
  have front : left ++ separator <+: left' ++ separator := by
    apply List.prefix_of_prefix_length_le whole (List.prefix_append _ _)
    simp only [List.length_append]
    omega
  rcases front with ⟨after, split⟩
  have empty : after = [] := closes left after split.symm
  rw [empty, List.append_nil] at split
  have lefts : left = left' := List.append_cancel_right split
  subst lefts
  exact ⟨rfl, List.append_cancel_left same⟩

/-- Equal joins agree once the longer right part opens at the separator. -/
theorem parts_eq_of_opens {separator left right left' right' : List α}
    (same : left ++ separator ++ right = left' ++ separator ++ right')
    (shorter : left.length ≤ left'.length) (opens : Opens separator right) :
    left = left' ∧ right = right' := by
  have own : separator ++ right <:+ left ++ separator ++ right := by
    rw [List.append_assoc]
    exact List.suffix_append _ _
  have whole : separator ++ right' <:+ left ++ separator ++ right := by
    rw [same, List.append_assoc]
    exact List.suffix_append _ _
  have back : separator ++ right' <:+ separator ++ right := by
    apply List.suffix_of_suffix_length_le whole own
    have lengths := congrArg List.length same
    simp only [List.length_append] at lengths ⊢
    omega
  rcases back with ⟨before, split⟩
  have empty : before = [] := opens before right' (by rw [List.append_assoc]; exact split.symm)
  rw [empty, List.nil_append] at split
  have rights : right = right' := (List.append_cancel_left split).symm
  subst rights
  exact ⟨List.append_cancel_right (List.append_cancel_right same), rfl⟩

/-- A pair shares its join with no other pair exactly when its left part
closes and its right part opens at the separator. -/
theorem determined_iff {separator left right : List α} :
    (forall left' right', left' ++ separator ++ right' = left ++ separator ++ right ->
      left' = left ∧ right' = right) <->
    Closes separator left ∧ Opens separator right := by
  constructor
  · intro determined
    constructor
    · intro before after split
      have other := determined before (after ++ right) (by
        rw [← List.append_assoc, ← split])
      have lengths := congrArg List.length split
      simp only [List.length_append, other.1] at lengths
      exact List.eq_nil_of_length_eq_zero (by omega)
    · intro before after split
      have other := determined (left ++ before) after (by
        rw [List.append_assoc left, List.append_assoc left, ← split, List.append_assoc])
      have lengths := congrArg List.length other.1
      simp only [List.length_append] at lengths
      exact List.eq_nil_of_length_eq_zero (by omega)
  · rintro ⟨closes, opens⟩ left' right' same
    rcases Nat.le_total left'.length left.length with shorter | longer
    · exact parts_eq_of_closes same shorter closes
    · rcases parts_eq_of_opens same.symm longer opens with ⟨lefts, rights⟩
      exact ⟨lefts.symm, rights.symm⟩

/-! ## A separator made of one doubled element -/

/-- A left part closes at `a a` exactly when `a a` is not in it and it does
not end in `a`: the overlap `… a | a a` is the only way to hide a boundary. -/
theorem closes_double_iff (a : α) (left : List α) :
    Closes [a, a] left <-> ¬ [a, a] <:+: left ∧ left.getLast? ≠ some a := by
  constructor
  · intro closes
    constructor
    · rintro ⟨before, after, inside⟩
      have empty := closes before (after ++ [a, a]) (by rw [← inside]; simp)
      simp at empty
    · intro ends
      rcases List.getLast?_eq_some_iff.mp ends with ⟨before, whole⟩
      have empty := closes before [a] (by rw [whole]; simp)
      cases empty
  · rintro ⟨apart, ending⟩ before after split
    rcases List.eq_nil_or_concat after with empty | ⟨inner, last, long⟩
    · exact empty
    · subst long
      exfalso
      have cut : left ++ [a] ++ [a] = before ++ [a, a] ++ inner ++ [last] := by
        simpa using split
      have shorter := (List.append_inj' cut rfl).1
      rcases List.eq_nil_or_concat inner with empty | ⟨deeper, last', long⟩
      · subst empty
        have leftEnds : left = before ++ [a] := by
          have pieces : left ++ [a] = before ++ [a] ++ [a] := by simpa using shorter
          exact (List.append_inj' pieces rfl).1
        apply ending
        rw [leftEnds]
        simp
      · subst long
        have pieces : left ++ [a] = before ++ [a, a] ++ deeper ++ [last'] := by
          simpa using shorter
        exact apart ⟨before, deeper, (List.append_inj' pieces rfl).1.symm⟩

/-- Opening is closing read from the other end. -/
theorem opens_iff_closes_reverse {separator right : List α} :
    Opens separator right <-> Closes separator.reverse right.reverse := by
  constructor
  · intro opens before after split
    have mirrored := congrArg List.reverse split
    simp only [List.reverse_append, List.reverse_reverse] at mirrored
    have empty := opens after.reverse before.reverse (by simpa using mirrored)
    simpa using empty
  · intro closes before after split
    have mirrored := congrArg List.reverse split
    simp only [List.reverse_append] at mirrored
    have empty := closes after.reverse before.reverse (by simpa using mirrored)
    simpa using empty

/-- A right part opens at `a a` exactly when `a a` is not in it and it does
not begin with `a`. -/
theorem opens_double_iff (a : α) (right : List α) :
    Opens [a, a] right <-> ¬ [a, a] <:+: right ∧ right.head? ≠ some a := by
  have mirror : [a, a].reverse = [a, a] := rfl
  rw [opens_iff_closes_reverse, mirror, closes_double_iff, List.getLast?_reverse]
  have infixes : [a, a] <:+: right.reverse <-> [a, a] <:+: right := by
    rw [← mirror, List.reverse_infix, mirror]
  rw [infixes]

/-! ## Many parts -/

theorem intercalate_concat (separator : List α) (parts : List (List α))
    (last : List α) :
    separator.intercalate (parts ++ [last]) =
      parts.flatMap (fun part => part ++ separator) ++ last := by
  induction parts with
  | nil => simp
  | cons part rest ih =>
      have nonempty : rest ++ [last] ≠ [] := by simp
      rw [List.cons_append, List.intercalate_cons_of_ne_nil nonempty, ih, List.flatMap_cons]
      simp only [List.append_assoc]

/-- Parts that close at a separator can be read off a text in which it ends
each of them. -/
theorem terminated_injective {separator : List α} (nonempty : separator ≠ [])
    {parts others : List (List α)} (closes : forall part, part ∈ parts -> Closes separator part)
    (closes' : forall part, part ∈ others -> Closes separator part)
    (same : parts.flatMap (fun part => part ++ separator) =
      others.flatMap (fun part => part ++ separator)) : parts = others := by
  induction parts generalizing others with
  | nil =>
      cases others with
      | nil => rfl
      | cons other more =>
          rw [List.flatMap_nil, List.flatMap_cons] at same
          exact absurd (List.append_eq_nil_iff.mp (List.append_eq_nil_iff.mp same.symm).1).2 nonempty
  | cons part rest ih =>
      cases others with
      | nil =>
          rw [List.flatMap_nil, List.flatMap_cons] at same
          exact absurd (List.append_eq_nil_iff.mp (List.append_eq_nil_iff.mp same).1).2 nonempty
      | cons other more =>
          rw [List.flatMap_cons, List.flatMap_cons] at same
          have heads : part = other ∧ rest.flatMap (fun part => part ++ separator) =
              more.flatMap (fun part => part ++ separator) := by
            rcases Nat.le_total part.length other.length with shorter | longer
            · exact parts_eq_of_closes same shorter (closes' other List.mem_cons_self)
            · have swapped := parts_eq_of_closes same.symm longer (closes part List.mem_cons_self)
              exact ⟨swapped.1.symm, swapped.2.symm⟩
          rw [heads.1, ih (fun later member => closes later (List.mem_cons_of_mem _ member))
            (fun later member => closes' later (List.mem_cons_of_mem _ member)) heads.2]

end Separator

end Foundation
