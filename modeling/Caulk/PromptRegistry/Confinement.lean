import Caulk.PromptRegistry

namespace Caulk
namespace PromptRegistry

open Caulk.Core
open Foundation
open Foundation.LexicalPath (Name IsAbsolute Ordinary Excursion names excursion resolveFrom)

/-!
# Where the path of a key lies

`path_for_key` joins two arbitrary texts to the root.  A text that starts
with a slash replaces everything before it, and `..` climbs, so the path of a
key may leave the root and may also come back into it by spelling the root's
own names.  The exact condition is read off the key alone: count how many
levels of the root it keeps, and compare what it spells with the levels it
gives up.
-/

/-- An absolute root directory in normal form. -/
structure NormalizedRoot where
  path : List Name
  ordinary : forall name, name ∈ path -> Ordinary name

namespace NormalizedRoot

def text (root : NormalizedRoot) : PathBuf :=
  String.ofList (LexicalPath.absoluteText root.path)

theorem names_text (root : NormalizedRoot) : names root.text.toList = root.path := by
  rw [text, String.toList_ofList]
  exact LexicalPath.names_absoluteText root.ordinary

theorem text_absolute (root : NormalizedRoot) : IsAbsolute root.text.toList := by
  rw [text, String.toList_ofList]
  rfl

theorem parent_not_mem (root : NormalizedRoot) : LexicalPath.parent ∉ root.path := by
  intro member
  exact (root.ordinary _ member).notParent rfl

end NormalizedRoot

/-- The names of an absolute path after resolving `.` and `..` lexically. -/
def PathBuf.resolved (path : PathBuf) : List Name :=
  resolveFrom [] (names path.toList)

def LiesUnder (root : NormalizedRoot) (path : PathBuf) : Prop :=
  IsAbsolute path.toList ∧ root.path <+: PathBuf.resolved path

instance (root : NormalizedRoot) (path : PathBuf) : Decidable (LiesUnder root path) :=
  inferInstanceAs (Decidable (_ ∧ _))

/-! ## The two joins -/

theorem join_toList (base path : PathBuf) :
    (base.join path).toList = LexicalPath.join base.toList path.toList := by
  rw [PathBuf.join, String.toList_ofList]

/-- The file name of a key's event. -/
def eventFile (key : PromptKey) : PathBuf :=
  key.event ++ ".md"

theorem eventFile_toList (key : PromptKey) :
    (eventFile key).toList = key.event.toList ++ ['.', 'm', 'd'] := by
  simp [eventFile, String.toList_append]

/-- The suffix neither makes a file name absolute nor stops it from being so. -/
theorem eventFile_absolute_iff (key : PromptKey) :
    IsAbsolute (eventFile key).toList <-> IsAbsolute key.event.toList := by
  rw [eventFile_toList]
  cases key.event.toList with
  | nil => decide
  | cons first rest => exact Iff.rfl

/-- The path that `get` hands to both system calls. -/
theorem resolvePath_eq (registry : FsRegistry) (key : PromptKey) :
    registry.resolvePath key = (registry.root.join key.state).join (eventFile key) :=
  rfl

/-! ## The walk of a key -/

/-- The names a key contributes; an absolute event discards the state's. -/
def keyNames (key : PromptKey) : List Name :=
  if IsAbsolute key.event.toList then names (eventFile key).toList
  else names key.state.toList ++ names (eventFile key).toList

/-- How many levels of the root survive in the path of the key.  None does
once either text is absolute; otherwise each uncancelled `..` costs one. -/
def keptLevels (root : NormalizedRoot) (key : PromptKey) : Nat :=
  if IsAbsolute key.event.toList ∨ IsAbsolute key.state.toList then 0
  else root.path.length - (excursion (keyNames key)).climbs

/-- The key spells again every level of the root that it does not keep. -/
def StaysInside (root : NormalizedRoot) (key : PromptKey) : Prop :=
  root.path.drop (keptLevels root key) <+: (excursion (keyNames key)).below

instance (root : NormalizedRoot) (key : PromptKey) : Decidable (StaysInside root key) :=
  inferInstanceAs (Decidable (_ <+: _))

/-- From the top, only the names descended through remain. -/
private theorem target_top (walk : Excursion) : walk.target [] = walk.below := by
  simp [Excursion.target]

section Path

variable (root : PathBuf) (cache : RwLock PromptCache) (key : PromptKey)

private theorem path_absolute_iff :
    IsAbsolute ((FsRegistry.mk root cache).resolvePath key).toList <->
      (IsAbsolute key.event.toList ∨ IsAbsolute key.state.toList) ∨ IsAbsolute root.toList := by
  rw [resolvePath_eq, join_toList, LexicalPath.join_isAbsolute_iff, eventFile_absolute_iff,
    join_toList, LexicalPath.join_isAbsolute_iff, or_assoc]

/-- The names of the path, in the three ways the two joins can go. -/
private theorem path_names :
    names ((FsRegistry.mk root cache).resolvePath key).toList =
      if IsAbsolute key.event.toList ∨ IsAbsolute key.state.toList then keyNames key
      else names root.toList ++ keyNames key := by
  rw [resolvePath_eq, join_toList]
  by_cases event : IsAbsolute key.event.toList
  · rw [if_pos (Or.inl event), LexicalPath.join_absolute ((eventFile_absolute_iff key).mpr event),
      keyNames, if_pos event]
  · have relative : ¬ IsAbsolute (eventFile key).toList :=
      fun absolute => event ((eventFile_absolute_iff key).mp absolute)
    rw [LexicalPath.names_join_relative relative, join_toList, keyNames, if_neg event]
    by_cases state : IsAbsolute key.state.toList
    · rw [if_pos (Or.inr state), LexicalPath.join_absolute state]
    · rw [if_neg (not_or.mpr ⟨event, state⟩), LexicalPath.names_join_relative state,
        List.append_assoc]

end Path

/-- For every root and key, the path that `get` opens lies under the root
exactly when the key spells again what it gives up of the root. -/
theorem resolvePath_under_root_iff (root : NormalizedRoot) (cache : RwLock PromptCache)
    (key : PromptKey) :
    LiesUnder root ((FsRegistry.mk root.text cache).resolvePath key) <-> StaysInside root key := by
  have absolute := (path_absolute_iff root.text cache key).mpr (Or.inr root.text_absolute)
  unfold LiesUnder StaysInside PathBuf.resolved keptLevels
  rw [path_names, root.names_text, and_iff_right absolute]
  by_cases replaced : IsAbsolute key.event.toList ∨ IsAbsolute key.state.toList
  · rw [if_pos replaced, if_pos replaced, LexicalPath.resolveFrom_eq_target, target_top,
      List.drop_zero]
  · rw [if_neg replaced, if_neg replaced, LexicalPath.resolveFrom_append,
      LexicalPath.resolveFrom_of_no_parent [] root.parent_not_mem, List.nil_append,
      LexicalPath.resolveFrom_eq_target, LexicalPath.inside_iff]

/-- A root two levels deep. -/
def exampleRoot : NormalizedRoot where
  path := ["srv".toList, "prompts".toList]
  ordinary := by
    intro name member
    simp only [List.mem_cons, List.not_mem_nil, or_false] at member
    rcases member with first | second
    · subst first
      exact ⟨by decide, by decide, by decide, by decide⟩
    · subst second
      exact ⟨by decide, by decide, by decide, by decide⟩

/-- A state `..` reads a file beside the root, and an event that is an
absolute path reads any file at all. -/
theorem resolvePath_leaves_root :
    ¬ LiesUnder exampleRoot ((FsRegistry.new exampleRoot.text).resolvePath ⟨"..", "secret"⟩) ∧
    ¬ LiesUnder exampleRoot ((FsRegistry.new exampleRoot.text).resolvePath ⟨"Idle", "/etc/motd"⟩) := by
  constructor
  · decide
  · decide

/-! ## Plain keys -/

/-- A key that names one directory and one file in it. -/
structure PlainKey (key : PromptKey) : Prop where
  state : Ordinary key.state.toList
  event : '/' ∉ key.event.toList

theorem ordinary_not_absolute {name : Name} (unsplit : '/' ∉ name) : ¬ IsAbsolute name := by
  intro absolute
  exact unsplit (List.mem_of_head? absolute)

/-- With its suffix, any event without a slash is an ordinary file name. -/
theorem PlainKey.eventFile_ordinary {key : PromptKey} (plain : PlainKey key) :
    Ordinary (eventFile key).toList := by
  rw [eventFile_toList]
  have long : 3 ≤ (key.event.toList ++ ['.', 'm', 'd']).length := by
    simp
  refine ⟨?_, ?_, ?_, ?_⟩
  · intro empty
    rw [empty] at long
    cases long
  · simp only [List.mem_append, not_or]
    exact ⟨plain.event, by decide⟩
  · intro here
    rw [here] at long
    exact absurd long (by decide)
  · intro up
    rw [up] at long
    exact absurd long (by decide)

theorem PlainKey.keyNames_eq {key : PromptKey} (plain : PlainKey key) :
    keyNames key = [key.state.toList, (eventFile key).toList] := by
  rw [keyNames, if_neg (ordinary_not_absolute plain.event),
    LexicalPath.names_of_ordinary plain.state, LexicalPath.names_of_ordinary plain.eventFile_ordinary]
  rfl

theorem PlainKey.relative {key : PromptKey} (plain : PlainKey key) :
    ¬ (IsAbsolute key.event.toList ∨ IsAbsolute key.state.toList) :=
  not_or.mpr ⟨ordinary_not_absolute plain.event, ordinary_not_absolute plain.state.unsplit⟩

theorem PlainKey.parent_not_mem {key : PromptKey} (plain : PlainKey key) :
    LexicalPath.parent ∉ [key.state.toList, (eventFile key).toList] := by
  intro member
  rcases List.mem_cons.mp member with state | event
  · exact plain.state.notParent state.symm
  · exact plain.eventFile_ordinary.notParent (List.mem_singleton.mp event).symm

/-- The path of a plain key is its two names after those of the root. -/
theorem PlainKey.path_names {key : PromptKey} (plain : PlainKey key) (root : PathBuf)
    (cache : RwLock PromptCache) :
    names ((FsRegistry.mk root cache).resolvePath key).toList =
      names root.toList ++ [key.state.toList, (eventFile key).toList] := by
  rw [Caulk.PromptRegistry.path_names, if_neg plain.relative, plain.keyNames_eq]

theorem PlainKey.path_absolute_iff {key : PromptKey} (plain : PlainKey key) (root : PathBuf)
    (cache : RwLock PromptCache) :
    IsAbsolute ((FsRegistry.mk root cache).resolvePath key).toList <-> IsAbsolute root.toList := by
  rw [Caulk.PromptRegistry.path_absolute_iff, or_iff_right plain.relative]

/-- Plain keys never leave the root. -/
theorem PlainKey.staysInside {key : PromptKey} (plain : PlainKey key) (root : NormalizedRoot) :
    StaysInside root key := by
  have noParent : LexicalPath.parent ∉ keyNames key := by
    rw [plain.keyNames_eq]
    exact plain.parent_not_mem
  unfold StaysInside keptLevels
  rw [if_neg plain.relative, LexicalPath.excursion_of_no_parent noParent, Nat.sub_zero,
    List.drop_length]
  exact List.nil_prefix

/-- Different plain keys have different paths. -/
theorem PlainKey.path_injective {key other : PromptKey}
    (same : [key.state.toList, (eventFile key).toList] = [other.state.toList, (eventFile other).toList]) :
    key = other := by
  have parts := List.cons.inj same
  have events := (List.cons.inj parts.2).1
  rw [eventFile_toList, eventFile_toList] at events
  have stateEq : key.state = other.state := String.toList_inj.mp parts.1
  have eventEq : key.event = other.event := String.toList_inj.mp (List.append_cancel_right events)
  cases key
  cases other
  simp only at stateEq eventEq
  rw [stateEq, eventEq]

end PromptRegistry
end Caulk
