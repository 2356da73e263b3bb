import Caulk.Foundation.LexicalPath

namespace Foundation

/-!
# A tree of directories and files

The part of a hierarchical file system that path lookup depends on, without
links.  A place is the list of names that leads to it from the top.  Looking
up a path enters its names one after the other; each of them needs a
directory to be entered from, so a lookup fails in two different ways: the
next place does not exist, or it is a file.
-/

open LexicalPath (Name parent resolveFrom)

universe u v

/-- What a place holds, with the stamp of its last modification. -/
inductive Node (Stamp : Type u) (Data : Type v) where
  | file (stamp : Stamp) (data : Data)
  | directory (stamp : Stamp)

/-- The places of a file system.  The top is a directory, and nothing exists
outside a directory. -/
structure FileTree (Stamp : Type u) (Data : Type v) where
  node : List Name -> Option (Node Stamp Data)
  top : ∃ stamp, node [] = some (.directory stamp)
  parents : forall here name, node (here ++ [name]) ≠ none ->
    ∃ stamp, node here = some (.directory stamp)

inductive LookupError where
  | missing
  | notADirectory
deriving DecidableEq, Repr

namespace FileTree

variable {Stamp : Type u} {Data : Type v} (tree : FileTree Stamp Data)

def IsDirectory (here : List Name) : Prop :=
  ∃ stamp, tree.node here = some (.directory stamp)

def IsFile (here : List Name) : Prop :=
  ∃ stamp data, tree.node here = some (.file stamp data)

/-- Enter one name from a directory. -/
def enter (here : List Name) (name : Name) : List Name :=
  if name = parent then here.dropLast else here ++ [name]

/-- Follow a path from a place to what it names. -/
def findFrom (here : List Name) : List Name -> Except LookupError (Node Stamp Data)
  | [] =>
      match tree.node here with
      | some node => .ok node
      | none => .error .missing
  | name :: rest =>
      match tree.node here with
      | some (.directory _) => findFrom (enter here name) rest
      | some (.file _ _) => .error .notADirectory
      | none => .error .missing

variable {tree}

theorem findFrom_directory {here : List Name} (directory : tree.IsDirectory here) {name : Name}
    (ordinary : name ≠ parent) (rest : List Name) :
    tree.findFrom here (name :: rest) = tree.findFrom (here ++ [name]) rest := by
  rcases directory with ⟨stamp, found⟩
  simp only [findFrom, found, enter, if_neg ordinary]

theorem findFrom_missing {here : List Name} (absent : tree.node here = none) (path : List Name) :
    tree.findFrom here path = .error .missing := by
  cases path <;> simp only [findFrom, absent]

/-- A lookup that misses early misses altogether. -/
theorem findFrom_append_missing {here front : List Name}
    (misses : tree.findFrom here front = .error .missing) (back : List Name) :
    tree.findFrom here (front ++ back) = .error .missing := by
  induction front generalizing here with
  | nil =>
      simp only [findFrom] at misses
      cases found : tree.node here with
      | none => exact findFrom_missing found back
      | some node =>
          rw [found] at misses
          cases misses
  | cons name rest ih =>
      rw [List.cons_append]
      simp only [findFrom] at misses ⊢
      cases found : tree.node here with
      | none => rfl
      | some node =>
          rw [found] at misses
          cases node with
          | file stamp data => cases misses
          | directory stamp => exact ih misses

/-- A lookup that comes to a directory goes on from the place of that
directory, which is where the path leads lexically. -/
theorem findFrom_append {here front : List Name} {stamp : Stamp}
    (arrives : tree.findFrom here front = .ok (.directory stamp)) (back : List Name) :
    tree.node (resolveFrom here front) = some (.directory stamp) ∧
      tree.findFrom here (front ++ back) = tree.findFrom (resolveFrom here front) back := by
  induction front generalizing here with
  | nil =>
      simp only [findFrom] at arrives
      cases found : tree.node here with
      | none =>
          rw [found] at arrives
          cases arrives
      | some node =>
          rw [found] at arrives
          exact ⟨found.trans (congrArg some (Except.ok.inj arrives)), rfl⟩
  | cons name rest ih =>
      have next : resolveFrom here (name :: rest) = resolveFrom (enter here name) rest := by
        rw [resolveFrom, enter]
        split <;> rfl
      simp only [findFrom] at arrives
      cases found : tree.node here with
      | none =>
          rw [found] at arrives
          cases arrives
      | some node =>
          cases node with
          | file stamp data =>
              rw [found] at arrives
              cases arrives
          | directory above =>
              rw [found] at arrives
              rw [next, List.cons_append]
              simp only [findFrom, found]
              exact ih arrives

/-- A lookup of two names that finds nothing at all and no file halfway misses. -/
theorem findFrom_two_missing {here : List Name} {first second : Name}
    (directory : tree.IsDirectory here) (ordinary : first ≠ parent) (ordinary' : second ≠ parent)
    (noFile : ¬ tree.IsFile (here ++ [first]))
    (absent : tree.node (here ++ [first] ++ [second]) = none) :
    tree.findFrom here [first, second] = .error .missing := by
  rw [findFrom_directory directory ordinary]
  cases halfway : tree.node (here ++ [first]) with
  | none => exact findFrom_missing halfway _
  | some node =>
      cases node with
      | file stamp data => exact absurd ⟨stamp, data, halfway⟩ noFile
      | directory stamp =>
          rw [findFrom_directory ⟨stamp, halfway⟩ ordinary']
          exact findFrom_missing absent []

/-! ## A tree with one file -/

/-- One file, and the directories on the way to it. -/
def single (directories : List Name) (name : Name) (stamp : Stamp) (data : Data) :
    FileTree Stamp Data where
  node place :=
    if place = directories ++ [name] then some (.file stamp data)
    else if place <+: directories then some (.directory stamp)
    else none
  top := by
    refine ⟨stamp, ?_⟩
    have apart : ([] : List Name) ≠ directories ++ [name] := by simp
    rw [if_neg apart, if_pos List.nil_prefix]
  parents := by
    intro here last existing
    refine ⟨stamp, ?_⟩
    have inside : here <+: directories := by
      by_cases isFile : here ++ [last] = directories ++ [name]
      · rw [(List.append_inj' isFile rfl).1]
      · rw [if_neg isFile] at existing
        by_cases onTheWay : here ++ [last] <+: directories
        · exact (List.prefix_append here [last]).trans onTheWay
        · rw [if_neg onTheWay] at existing
          exact absurd rfl existing
    have apart : here ≠ directories ++ [name] := by
      intro same
      have long := inside.length_le
      rw [same, List.length_append, List.length_singleton] at long
      omega
    rw [if_neg apart, if_pos inside]

section Single

variable {directories : List Name} {name : Name} {stamp : Stamp} {data : Data}

theorem single_isFile {place : List Name}
    (file : (single directories name stamp data).IsFile place) : place = directories ++ [name] := by
  rcases file with ⟨stamp', data', found⟩
  simp only [single] at found
  split at found
  · rename_i same
    exact same
  · split at found <;> cases found

theorem single_isDirectory {place : List Name}
    (directory : (single directories name stamp data).IsDirectory place) : place <+: directories := by
  rcases directory with ⟨stamp', found⟩
  simp only [single] at found
  split at found
  · cases found
  · split at found
    · rename_i onTheWay
      exact onTheWay
    · cases found

theorem single_file : (single directories name stamp data).IsFile (directories ++ [name]) :=
  ⟨stamp, data, if_pos rfl⟩

end Single

end FileTree

end Foundation
