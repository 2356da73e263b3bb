import Mathlib.Data.List.Basic
import Mathlib.Data.List.Infix

namespace Foundation

/-!
# Unix paths read lexically

A path text is a list of characters.  Its names are the parts between
slashes, without empty parts and without `.`; the name `..` is kept and is
resolved by removing the name before it, which does nothing at the top.  No
file system is consulted anywhere.

A list of names has a net effect that does not depend on where it starts: it
climbs some number of levels and then descends through some names.  Whether a
walk that starts inside a directory ends inside it can be read off that net
effect.
-/

namespace LexicalPath

/-- One part of a path, between two slashes. -/
abbrev Name := List Char

/-- The name `..`. -/
def parent : Name := ['.', '.']

/-- A path text that starts at the top. -/
def IsAbsolute (path : List Char) : Prop :=
  path.head? = some '/'

instance (path : List Char) : Decidable (IsAbsolute path) :=
  inferInstanceAs (Decidable (_ = _))

/-- Unix join.  An absolute path replaces the base; otherwise a slash is put
between the two, unless the base is empty or already ends in one. -/
def join (base path : List Char) : List Char :=
  if IsAbsolute path then path
  else if base = [] ∨ base.getLast? = some '/' then base ++ path
  else base ++ '/' :: path

/-- The names of a path text. -/
def names (path : List Char) : List Name :=
  (path.splitOn '/').filter (fun part => decide (part ≠ [] ∧ part ≠ ['.']))

@[simp] theorem names_nil : names [] = [] := by
  decide

theorem names_append_slash (front back : List Char) :
    names (front ++ '/' :: back) = names front ++ names back := by
  simp only [names]
  rw [List.splitOn_append_cons_self, List.filter_append]

theorem names_trailing_slash (front : List Char) : names (front ++ ['/']) = names front := by
  rw [names_append_slash, names_nil, List.append_nil]

/-- A leading slash adds no name. -/
theorem names_leading_slash (back : List Char) : names ('/' :: back) = names back := by
  have split := names_append_slash [] back
  rw [names_nil, List.nil_append, List.nil_append] at split
  exact split

theorem join_absolute {base path : List Char} (absolute : IsAbsolute path) :
    join base path = path :=
  if_pos absolute

/-- A join starts at the top as soon as one of its parts does. -/
theorem join_isAbsolute_iff {base path : List Char} :
    IsAbsolute (join base path) <-> IsAbsolute path ∨ IsAbsolute base := by
  by_cases absolute : IsAbsolute path
  · rw [join_absolute absolute]
    exact ⟨Or.inl, fun _ => absolute⟩
  · rw [or_iff_right absolute, join, if_neg absolute]
    cases base with
    | nil =>
        rw [if_pos (Or.inl rfl), List.nil_append]
        constructor
        · intro impossible
          exact absurd impossible absolute
        · intro impossible
          cases impossible
    | cons first rest => split <;> exact Iff.rfl

/-- A relative path adds its names to those of the base. -/
theorem names_join_relative {base path : List Char} (relative : ¬ IsAbsolute path) :
    names (join base path) = names base ++ names path := by
  unfold join
  rw [if_neg relative]
  split
  · rename_i ended
    rcases ended with empty | slash
    · rw [empty, names_nil, List.nil_append, List.nil_append]
    · rcases List.getLast?_eq_some_iff.mp slash with ⟨front, whole⟩
      rw [whole, names_trailing_slash, List.append_assoc, List.singleton_append,
        names_append_slash]
  · rw [names_append_slash]

/-- A name that a directory entry can have and that is not `.` or `..`. -/
structure Ordinary (name : Name) : Prop where
  nonempty : name ≠ []
  unsplit : '/' ∉ name
  notHere : name ≠ ['.']
  notParent : name ≠ parent

/-- A text without slashes is its own only name, or none. -/
theorem names_of_unsplit {text : List Char} (unsplit : '/' ∉ text) :
    names text = if text ≠ [] ∧ text ≠ ['.'] then [text] else [] := by
  unfold names
  rw [List.splitOn_eq_singleton unsplit]
  by_cases kept : text ≠ [] ∧ text ≠ ['.']
  · rw [if_pos kept]
    exact List.filter_cons_of_pos (decide_eq_true kept)
  · rw [if_neg kept]
    exact List.filter_cons_of_neg (by rw [decide_eq_true_eq]; exact kept)

theorem names_of_ordinary {name : Name} (ordinary : Ordinary name) : names name = [name] := by
  rw [names_of_unsplit ordinary.unsplit, if_pos ⟨ordinary.nonempty, ordinary.notHere⟩]

/-- The text of an absolute path with the given names. -/
def absoluteText (path : List Name) : List Char :=
  '/' :: List.intercalate ['/'] path

theorem names_absoluteText {path : List Name} (ordinary : forall name, name ∈ path -> Ordinary name) :
    names (absoluteText path) = path := by
  unfold absoluteText
  rw [names_leading_slash]
  by_cases empty : path = []
  · subst empty
    decide
  · unfold names
    rw [List.splitOn_intercalate '/' (fun name member => (ordinary name member).unsplit) empty]
    apply List.filter_eq_self.mpr
    intro name member
    exact decide_eq_true ⟨(ordinary name member).nonempty, (ordinary name member).notHere⟩

/-! ## Resolving `..` -/

/-- Follow the names from a directory.  At the top `..` stays at the top. -/
def resolveFrom : List Name -> List Name -> List Name
  | here, [] => here
  | here, name :: rest =>
      if name = parent then resolveFrom here.dropLast rest else resolveFrom (here ++ [name]) rest

/-- The net effect of a walk: levels climbed, then names descended. -/
structure Excursion where
  climbs : Nat
  below : List Name
deriving DecidableEq

namespace Excursion

/-- Extend the walk by one name.  A `..` cancels the last descended name; only
when none is left does it climb. -/
def visit (walk : Excursion) (name : Name) : Excursion :=
  if name = parent then
    if walk.below = [] then { walk with climbs := walk.climbs + 1 }
    else { walk with below := walk.below.dropLast }
  else { walk with below := walk.below ++ [name] }

/-- Where the walk ends when it starts at `here`. -/
def target (walk : Excursion) (here : List Name) : List Name :=
  here.take (here.length - walk.climbs) ++ walk.below

theorem visit_target (walk : Excursion) (name : Name) (here : List Name) :
    (walk.visit name).target here =
      if name = parent then (walk.target here).dropLast else walk.target here ++ [name] := by
  unfold visit target
  by_cases up : name = parent
  · rw [if_pos up, if_pos up]
    by_cases ground : walk.below = []
    · rw [if_pos ground]
      simp only [ground, List.append_nil]
      rw [List.dropLast_eq_take, List.take_take, List.length_take]
      congr 1
      omega
    · rw [if_neg ground, List.dropLast_append_of_ne_nil ground]
  · rw [if_neg up, if_neg up, List.append_assoc]

end Excursion

/-- The net effect of a list of names. -/
def excursion (path : List Name) : Excursion :=
  path.foldl Excursion.visit ⟨0, []⟩

private theorem resolveFrom_target (walk : Excursion) (here path : List Name) :
    resolveFrom (walk.target here) path = (path.foldl Excursion.visit walk).target here := by
  induction path generalizing walk with
  | nil => rfl
  | cons name rest ih =>
      rw [List.foldl_cons, ← ih, resolveFrom, Excursion.visit_target]
      split <;> rfl

/-- Resolving a walk is its net effect. -/
theorem resolveFrom_eq_target (here path : List Name) :
    resolveFrom here path = (excursion path).target here := by
  have start : Excursion.target ⟨0, []⟩ here = here := by
    simp [Excursion.target]
  have whole := resolveFrom_target ⟨0, []⟩ here path
  rw [start] at whole
  exact whole

theorem resolveFrom_append (here front back : List Name) :
    resolveFrom here (front ++ back) = resolveFrom (resolveFrom here front) back := by
  induction front generalizing here with
  | nil => rfl
  | cons name rest ih =>
      rw [List.cons_append, resolveFrom, resolveFrom]
      split <;> exact ih _

/-- Without `..` the names are simply appended. -/
theorem resolveFrom_of_no_parent (here : List Name) {path : List Name} (plain : parent ∉ path) :
    resolveFrom here path = here ++ path := by
  induction path generalizing here with
  | nil => rw [resolveFrom, List.append_nil]
  | cons name rest ih =>
      have apart := not_or.mp (fun member => plain (List.mem_cons.mpr member))
      rw [resolveFrom, if_neg (Ne.symm apart.1), ih _ apart.2, List.append_assoc]
      rfl

/-- Without `..` a walk never climbs. -/
theorem excursion_of_no_parent {path : List Name} (plain : parent ∉ path) :
    (excursion path).climbs = 0 := by
  have general : forall walk : Excursion,
      (path.foldl Excursion.visit walk).climbs = walk.climbs := by
    induction path with
    | nil =>
        intro walk
        rfl
    | cons name rest ih =>
        intro walk
        have apart := not_or.mp (fun member => plain (List.mem_cons.mpr member))
        rw [List.foldl_cons, ih apart.2, Excursion.visit, if_neg (Ne.symm apart.1)]
  exact general ⟨0, []⟩

/-- A walk from a directory ends inside it exactly when the names it descends
through spell again the levels it climbed out of. -/
theorem inside_iff (root : List Name) (walk : Excursion) :
    root <+: walk.target root <-> root.drop (root.length - walk.climbs) <+: walk.below := by
  unfold Excursion.target
  generalize root.length - walk.climbs = level
  have cut : root.take level ++ root.drop level = root := List.take_append_drop level root
  constructor
  · intro inside
    apply (List.prefix_append_right_inj (root.take level)).mp
    rw [cut]
    exact inside
  · intro spelled
    have joined := (List.prefix_append_right_inj (root.take level)).mpr spelled
    rw [cut] at joined
    exact joined

end LexicalPath

end Foundation
