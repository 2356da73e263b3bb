import Caulk.Foundation.Text

namespace Foundation

/-!
# Words, last occurrences and numbers

The functions of the source language's standard library that take a token
apart: splitting a text at white space, finding the last occurrence of a
character, and reading a machine integer from a run of ASCII digits.
-/

namespace Text

/-- A text without white space. -/
def Unbroken (text : List Char) : Prop :=
  forall character, character ∈ text -> isWhitespace character = false

instance (text : List Char) : Decidable (Unbroken text) :=
  List.decidableBAll (fun character => isWhitespace character = false) text

/-- `str::split_whitespace`. -/
def splitWhitespace (text : List Char) : List (List Char) :=
  runs isWhitespace text

/-- `str::rfind` of a character: the position of its last occurrence. -/
def rfind (wanted : Char) : List Char -> Option Nat
  | [] => none
  | head :: rest =>
      match rfind wanted rest with
      | some position => some (position + 1)
      | none => if head = wanted then some 0 else none

/-- The largest `usize` of a 64-bit target. -/
def usizeMax : Nat :=
  UInt64.size - 1

/-- A nonempty run of ASCII digits, of any length. -/
def Numeral (digits : List Char) : Prop :=
  digits ≠ [] ∧ forall character, character ∈ digits -> character.isDigit = true

instance (digits : List Char) : Decidable (Numeral digits) :=
  @instDecidableAnd _ _ inferInstance
    (List.decidableBAll (fun character => character.isDigit = true) digits)

/-- The value of a run of ASCII digits. -/
def decimalValue (digits : List Char) : Nat :=
  Nat.ofDigitChars 10 digits 0

/-- `parse::<usize>` on a run of ASCII digits: it fails on no digits and on
overflow. -/
def parseUsize (digits : List Char) : Option Nat :=
  if digits = [] then none
  else if decimalValue digits ≤ usizeMax then some (decimalValue digits) else none

/-! ## Words -/

theorem unbroken_of_mem_splitWhitespace {text word : List Char}
    (member : word ∈ splitWhitespace text) : Unbroken word :=
  Runs.solid_of_mem member

/-- A text without white space is one word. -/
theorem splitWhitespace_of_unbroken {text : List Char} (nonempty : text ≠ [])
    (unbroken : Unbroken text) : splitWhitespace text = [text] :=
  Runs.runs_of_solid nonempty unbroken

/-- A part of a text without white space is one too. -/
theorem Unbroken.of_infix {part text : List Char} (inside : part <:+: text)
    (unbroken : Unbroken text) : Unbroken part :=
  fun character member => unbroken character (inside.subset member)

theorem Unbroken.append {front back : List Char} (left : Unbroken front) (right : Unbroken back) :
    Unbroken (front ++ back) := by
  intro character member
  rcases List.mem_append.mp member with first | second
  · exact left character first
  · exact right character second

theorem Numeral.unbroken {digits : List Char} (numeral : Numeral digits) : Unbroken digits := by
  intro character member
  have bounds : 48 ≤ character.toNat ∧ character.toNat ≤ 57 :=
    Char.isDigit_iff_toNat.mp (numeral.2 character member)
  apply eq_false_of_ne_true
  intro white
  simp only [isWhitespace, Bool.or_eq_true, Bool.and_eq_true, decide_eq_true_eq, beq_iff_eq] at white
  omega

theorem trim_of_unbroken {text : List Char} (unbroken : Unbroken text) : trim text = text :=
  trimMatches_of_solid unbroken

/-! ## Last occurrences -/

theorem rfind_eq_none_iff {wanted : Char} {text : List Char} :
    rfind wanted text = none <-> wanted ∉ text := by
  induction text with
  | nil => simp [rfind]
  | cons head rest ih =>
      rw [List.mem_cons, not_or, ← ih, rfind]
      cases rfind wanted rest with
      | none => simp [eq_comm]
      | some position => simp

/-- The last occurrence is the one that no other follows. -/
theorem rfind_append {wanted : Char} (front : List Char) {back : List Char}
    (last : wanted ∉ back) : rfind wanted (front ++ wanted :: back) = some front.length := by
  induction front with
  | nil =>
      rw [List.nil_append, rfind, rfind_eq_none_iff.mpr last]
      exact if_pos rfl
  | cons head rest ih =>
      rw [List.cons_append, rfind, ih]
      rfl

theorem rfind_eq_some_iff {wanted : Char} {text : List Char} {position : Nat} :
    rfind wanted text = some position <->
      ∃ front back, text = front ++ wanted :: back ∧ wanted ∉ back ∧ front.length = position := by
  constructor
  · intro found
    induction text generalizing position with
    | nil => cases found
    | cons head rest ih =>
        rw [rfind] at found
        cases later : rfind wanted rest with
        | some inner =>
            rw [later] at found
            rcases ih later with ⟨front, back, split, last, length⟩
            refine ⟨head :: front, back, by rw [split]; rfl, last, ?_⟩
            rw [List.length_cons, length]
            exact Option.some.inj found
        | none =>
            rw [later] at found
            by_cases here : head = wanted
            · rw [here] at found ⊢
              refine ⟨[], rest, rfl, rfind_eq_none_iff.mp later, ?_⟩
              simpa using found
            · simp [here] at found
  · rintro ⟨front, back, split, last, length⟩
    rw [split, rfind_append front last, length]

/-! ## Numbers -/

theorem parseUsize_eq_some_iff {digits : List Char} {number : Nat} :
    parseUsize digits = some number <->
      digits ≠ [] ∧ decimalValue digits = number ∧ number ≤ usizeMax := by
  unfold parseUsize
  by_cases empty : digits = []
  · simp [empty]
  · rw [if_neg empty]
    by_cases fits : decimalValue digits ≤ usizeMax
    · rw [if_pos fits, Option.some.injEq]
      constructor
      · intro same
        exact ⟨empty, same, same ▸ fits⟩
      · intro facts
        exact facts.2.1
    · rw [if_neg fits]
      constructor
      · intro impossible
        cases impossible
      · rintro ⟨_, same, small⟩
        exact absurd (same ▸ small) fits

end Text

end Foundation
