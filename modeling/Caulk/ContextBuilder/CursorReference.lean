import Caulk.ContextBuilder
import Caulk.Foundation.Tokens

namespace Caulk
namespace ContextBuilders

open Foundation

/-!
# References to a line of a file

An event may name a cursor as `file:line`, wrapped in punctuation and followed
by more colons.  `parse_token` strips the wrapping, splits what is left at its
last colon and reads the digits after it.

The grammar is stated without reference to the order of these steps: a token
is a reference to a file and a line if it can be spelled in one of the ways
that `Spelling` describes.  On tokens without white space the parser accepts
exactly this grammar.  A spelling need not be unique, since what follows the
digits may end in punctuation, but the file and the line are.
-/

namespace FileSnippetBuilder

/-- The characters that may wrap a reference. -/
def isPunctuation (character : Char) : Bool :=
  "()[]<>\"',;".toList.contains character

def isColon (character : Char) : Bool :=
  character == ':'

/-- The token without its wrapping and without trailing colons. -/
def stripToken (raw : List Char) : List Char :=
  Text.trim (Text.trimEndMatches isColon (Text.trimMatches isPunctuation raw))

/-- The number that the leading digits spell. -/
def leadingNumber (linePart : List Char) : Option Nat :=
  let digits := linePart.takeWhile Char.isDigit
  if digits = [] then none else Text.parseUsize digits

/-- Accept a file part that looks like a file, with the number of the line. -/
def readParts (filePart linePart : List Char) : Option (String × Nat) :=
  if filePart = [] then none
  else if '.' ∉ filePart ∧ '/' ∉ filePart then none
  else (leadingNumber linePart).map (fun lineNum => (String.ofList filePart, lineNum))

def parseToken (raw : String) : Option (String × Nat) :=
  let trimmed := stripToken raw.toList
  if trimmed = [] then none
  else
    match Text.rfind ':' trimmed with
    | none => none
    | some pos => readParts (Text.trim (trimmed.take pos)) (Text.trim (trimmed.drop (pos + 1)))

/-! ## The grammar -/

/-- One way to spell a reference to a line of a file. -/
structure Spelling (token : List Char) where
  front : List Char
  file : List Char
  digits : List Char
  rest : List Char
  colons : List Char
  back : List Char
  spells : token = front ++ file ++ ':' :: (digits ++ rest) ++ colons ++ back
  wrapsFront : forall character, character ∈ front -> isPunctuation character = true
  wrapsBack : forall character, character ∈ back -> isPunctuation character = true
  onlyColons : forall character, character ∈ colons -> character = ':'
  nonempty : file ≠ []
  looksLikeFile : '.' ∈ file ∨ '/' ∈ file
  unwrapped : forall first, file.head? = some first -> isPunctuation first = false
  hasDigits : digits ≠ []
  onlyDigits : forall character, character ∈ digits -> character.isDigit = true
  noColon : ':' ∉ rest
  noDigit : forall first, rest.head? = some first -> first.isDigit = false

/-- The token spells a reference to this line of this file, and the number of
the line fits the machine. -/
def RefersTo (token file : String) (number : Nat) : Prop :=
  ∃ spelling : Spelling token.toList,
    spelling.file = file.toList ∧ Text.decimalValue spelling.digits = number ∧
      number ≤ Text.usizeMax

/-! ## What each part of the parser accepts -/

theorem leadingNumber_eq (linePart : List Char) :
    leadingNumber linePart = Text.parseUsize (linePart.takeWhile Char.isDigit) := by
  by_cases empty : linePart.takeWhile Char.isDigit = []
  · simp only [leadingNumber, empty, if_true]
    rfl
  · simp only [leadingNumber, if_neg empty]

/-- Digits are read up to the first other character. -/
theorem takeWhile_digits {digits rest : List Char}
    (onlyDigits : forall character, character ∈ digits -> character.isDigit = true)
    (stops : forall first, rest.head? = some first -> first.isDigit = false) :
    (digits ++ rest).takeWhile Char.isDigit = digits := by
  rw [List.takeWhile_append_of_pos onlyDigits]
  cases rest with
  | nil => simp
  | cons first others => simp [stops first rfl]

theorem readParts_eq {filePart linePart : List Char} (nonempty : filePart ≠ [])
    (looks : '.' ∈ filePart ∨ '/' ∈ filePart) :
    readParts filePart linePart =
      (leadingNumber linePart).map (fun lineNum => (String.ofList filePart, lineNum)) := by
  have fileLike : ¬ ('.' ∉ filePart ∧ '/' ∉ filePart) := fun plain => not_or.mpr plain looks
  rw [readParts, if_neg nonempty, if_neg fileLike]

theorem readParts_eq_some_iff {filePart linePart : List Char} {file : String} {number : Nat} :
    readParts filePart linePart = some (file, number) <->
      filePart = file.toList ∧ filePart ≠ [] ∧ ('.' ∈ filePart ∨ '/' ∈ filePart) ∧
        leadingNumber linePart = some number := by
  constructor
  · intro accepted
    by_cases empty : filePart = []
    · simp [readParts, empty] at accepted
    by_cases looks : '.' ∈ filePart ∨ '/' ∈ filePart
    · rw [readParts_eq empty looks] at accepted
      rcases Option.map_eq_some_iff.mp accepted with ⟨line, read, pair⟩
      rcases Prod.mk.inj pair with ⟨sameFile, sameLine⟩
      refine ⟨?_, empty, looks, sameLine ▸ read⟩
      rw [← sameFile, String.toList_ofList]
    · simp [readParts, empty, not_or.mp looks] at accepted
  · rintro ⟨same, nonempty, looks, read⟩
    rw [readParts_eq nonempty looks, read, same, Option.map_some, String.ofList_toList]

/-- The parts that the parser reads are those around the last colon of the
stripped token. -/
theorem parseToken_of_parts {raw : String} {before after : List Char}
    (whole : stripToken raw.toList = before ++ ':' :: after) (last : ':' ∉ after) :
    parseToken raw = readParts (Text.trim before) (Text.trim after) := by
  have nonempty : before ++ ':' :: after ≠ [] := by simp
  have rest : (before ++ ':' :: after).drop (before.length + 1) = after := by
    rw [← List.drop_drop, List.drop_left, List.drop_one, List.tail_cons]
  simp only [parseToken, whole, if_neg nonempty, Text.rfind_append before last, List.take_left,
    rest]

/-- A token that the parser accepts has such a colon. -/
theorem parts_of_parseToken {raw : String} {pair : String × Nat}
    (accepted : parseToken raw = some pair) :
    ∃ before after, stripToken raw.toList = before ++ ':' :: after ∧ ':' ∉ after ∧
      readParts (Text.trim before) (Text.trim after) = some pair := by
  cases found : Text.rfind ':' (stripToken raw.toList) with
  | none => simp [parseToken, found] at accepted
  | some pos =>
      rcases Text.rfind_eq_some_iff.mp found with ⟨before, after, whole, last, _⟩
      rw [parseToken_of_parts whole last] at accepted
      exact ⟨before, after, whole, last, accepted⟩

/-! ## Stripping a token -/

/-- Without white space the trimming of blanks does nothing. -/
theorem stripToken_eq {token : List Char} (unbroken : Text.Unbroken token) :
    stripToken token = (Text.trimMatches isPunctuation token).rdropWhile isColon := by
  rcases Text.trimMatches_split isPunctuation token with ⟨front, back, whole, _⟩
  have wrapped : Text.trimMatches isPunctuation token <:+: token := ⟨front, back, whole.symm⟩
  have inside := (List.rdropWhile_prefix isColon _).isInfix.trans wrapped
  exact Text.trim_of_unbroken (unbroken.of_infix inside)

/-- What stripping took away, for a token without white space. -/
theorem stripToken_split {token : List Char} (unbroken : Text.Unbroken token) :
    ∃ front colons back, token = front ++ stripToken token ++ colons ++ back ∧
      (forall character, character ∈ front -> isPunctuation character = true) ∧
      (forall character, character ∈ back -> isPunctuation character = true) ∧
      (forall character, character ∈ colons -> character = ':') ∧
      (forall first, (stripToken token).head? = some first -> isPunctuation first = false) := by
  rcases Text.trimMatches_split isPunctuation token with
    ⟨front, back, whole, wrapsFront, wrapsBack, stops⟩
  have cut : stripToken token ++ (Text.trimMatches isPunctuation token).rtakeWhile isColon =
      Text.trimMatches isPunctuation token := by
    rw [stripToken_eq unbroken]
    exact List.rdropWhile_append_rtakeWhile
  refine ⟨front, (Text.trimMatches isPunctuation token).rtakeWhile isColon, back, ?_, wrapsFront,
    wrapsBack, ?_, ?_⟩
  · rw [List.append_assoc front, cut]
    exact whole
  · intro character member
    have colon : isColon character = true := List.mem_rtakeWhile_imp member
    exact beq_iff_eq.mp colon
  · intro first starts
    apply stops
    rw [← cut, List.head?_append, starts, Option.some_or]

/-- Stripping what follows the digits leaves a part of it. -/
theorem strip_rest {rest colons : List Char}
    (onlyColons : forall character, character ∈ colons -> character = ':') :
    ((rest ++ colons).rdropWhile isPunctuation).rdropWhile isColon <+: rest := by
  have kept : (rest ++ colons).rdropWhile isPunctuation <+: rest ++ colons :=
    List.rdropWhile_prefix _ _
  rcases List.prefix_or_prefix_of_prefix kept (List.prefix_append rest colons) with inside | past
  · exact (List.rdropWhile_prefix _ _).trans inside
  · rcases past with ⟨more, whole⟩
    rw [← whole] at kept ⊢
    have colon : forall character, character ∈ more -> isColon character = true := by
      intro character member
      exact beq_iff_eq.mpr (onlyColons character
        (((List.prefix_append_right_inj rest).mp kept).subset member))
    rw [Text.rdropWhile_append_stripped rest colon]
    exact List.rdropWhile_prefix _ _

/-- A digit ends both kinds of stripping. -/
theorem digit_solid {character : Char} (digit : character.isDigit = true) :
    isPunctuation character = false ∧ isColon character = false := by
  have noDigits : ("()[]<>\"',;".toList.all fun listed => !listed.isDigit) = true := by decide
  constructor
  · apply eq_false_of_ne_true
    intro wraps
    have noDigit := List.all_eq_true.mp noDigits character (List.mem_of_elem_eq_true wraps)
    rw [digit] at noDigit
    cases noDigit
  · apply eq_false_of_ne_true
    intro colon
    rw [beq_iff_eq.mp colon] at digit
    exact absurd digit (by decide)

/-- Stripping a spelled reference keeps the file and all digits. -/
theorem stripToken_of_spelling {token : List Char} (unbroken : Text.Unbroken token)
    (spelling : Spelling token) :
    ∃ tail, tail <+: spelling.rest ∧
      stripToken token = spelling.file ++ ':' :: (spelling.digits ++ tail) := by
  rcases spelling with ⟨front, file, digits, rest, colons, back, spells, wrapsFront, wrapsBack,
    onlyColons, nonempty, _, unwrapped, hasDigits, onlyDigits, _, _⟩
  rcases List.eq_nil_or_concat' digits with empty | ⟨initial, final, digitsEnd⟩
  · exact absurd empty hasDigits
  rcases List.exists_cons_of_ne_nil nonempty with ⟨first, others, fileStart⟩
  have digit : final.isDigit = true := by
    apply onlyDigits
    rw [digitsEnd]
    exact List.mem_append_right _ (List.mem_singleton.mpr rfl)
  have starts : isPunctuation first = false := by
    apply unwrapped
    rw [fileStart]
    rfl
  have inner : Text.trimMatches isPunctuation token =
      (file ++ ':' :: initial) ++ final :: (rest ++ colons).rdropWhile isPunctuation := by
    have shape : token = front ++ first :: (others ++ ':' :: (digits ++ rest) ++ colons ++ back) := by
      rw [spells, fileStart]
      simp
    have wrapped : first :: (others ++ ':' :: (digits ++ rest) ++ colons ++ back) =
        ((file ++ ':' :: initial) ++ final :: (rest ++ colons)) ++ back := by
      rw [fileStart, digitsEnd]
      simp
    rw [Text.trimMatches, shape, Text.dropWhile_append_solid _ wrapsFront starts, wrapped,
      Text.rdropWhile_append_stripped _ wrapsBack,
      Text.rdropWhile_append_solid _ _ (digit_solid digit).1]
  refine ⟨_, strip_rest onlyColons, ?_⟩
  rw [stripToken_eq unbroken, inner, Text.rdropWhile_append_solid _ _ (digit_solid digit).2]
  simp [digitsEnd]

/-! ## The grammar is what the parser accepts -/

/-- Without white space the parts around the colon are not trimmed either. -/
theorem trim_parts {token before after : List Char} (unbroken : Text.Unbroken token)
    (inside : before ++ ':' :: after <:+: token) :
    Text.trim before = before ∧ Text.trim after = after := by
  have left : before <:+: token := (List.prefix_append _ _).isInfix.trans inside
  have right : after <:+: token :=
    ((List.suffix_cons ':' after).trans (List.suffix_append _ _)).isInfix.trans inside
  exact ⟨Text.trim_of_unbroken (unbroken.of_infix left),
    Text.trim_of_unbroken (unbroken.of_infix right)⟩

/-- A reference that the parser accepts is spelled by what it stripped. -/
theorem refersTo_of_parseToken {token file : String} {number : Nat}
    (unbroken : Text.Unbroken token.toList) (accepted : parseToken token = some (file, number)) :
    RefersTo token file number := by
  rcases parts_of_parseToken accepted with ⟨before, after, stripped, last, parts⟩
  rcases stripToken_split unbroken with
    ⟨front, colons, back, whole, wrapsFront, wrapsBack, onlyColons, stops⟩
  rw [stripped] at whole stops
  have inside : before ++ ':' :: after <:+: token.toList :=
    ⟨front, colons ++ back, by rw [whole, List.append_assoc _ colons]⟩
  rw [(trim_parts unbroken inside).1, (trim_parts unbroken inside).2] at parts
  rcases readParts_eq_some_iff.mp parts with ⟨same, nonempty, looks, read⟩
  rw [leadingNumber_eq] at read
  rcases Text.parseUsize_eq_some_iff.mp read with ⟨hasDigits, value, fits⟩
  refine ⟨{
    front := front
    file := before
    digits := after.takeWhile Char.isDigit
    rest := after.dropWhile Char.isDigit
    colons := colons
    back := back
    spells := ?_
    wrapsFront := wrapsFront
    wrapsBack := wrapsBack
    onlyColons := onlyColons
    nonempty := nonempty
    looksLikeFile := looks
    unwrapped := ?_
    hasDigits := hasDigits
    onlyDigits := fun character member => List.mem_takeWhile_imp member
    noColon := fun colon => last ((List.dropWhile_suffix _).subset colon)
    noDigit := ?_ }, same, value, fits⟩
  · rw [List.takeWhile_append_dropWhile, whole]
    simp
  · intro first starts
    apply stops
    rw [List.head?_append, starts, Option.some_or]
  · intro first starts
    have stopped := List.head?_dropWhile_not Char.isDigit after
    rw [starts] at stopped
    exact stopped

/-- The parser finds the file and the digits of every spelled reference. -/
theorem parseToken_of_spelling {token : String} (unbroken : Text.Unbroken token.toList)
    (spelling : Spelling token.toList) :
    parseToken token = (Text.parseUsize spelling.digits).map
      (fun number => (String.ofList spelling.file, number)) := by
  rcases stripToken_of_spelling unbroken spelling with ⟨tail, part, stripped⟩
  rcases part with ⟨cut, restSplit⟩
  have inside : spelling.file ++ ':' :: (spelling.digits ++ tail) <:+: token.toList := by
    refine ⟨spelling.front, cut ++ spelling.colons ++ spelling.back, ?_⟩
    have spells := spelling.spells
    rw [← restSplit] at spells
    exact Eq.trans (by simp) spells.symm
  have noColon : ':' ∉ spelling.digits ++ tail := by
    intro colon
    rcases List.mem_append.mp colon with digit | later
    · exact absurd (spelling.onlyDigits ':' digit) (by decide)
    · apply spelling.noColon
      rw [← restSplit]
      exact List.mem_append_left _ later
  have stops : forall first, tail.head? = some first -> first.isDigit = false := by
    intro first starts
    apply spelling.noDigit
    rw [← restSplit, List.head?_append, starts, Option.some_or]
  rw [parseToken_of_parts stripped noColon, (trim_parts unbroken inside).1,
    (trim_parts unbroken inside).2, readParts_eq spelling.nonempty spelling.looksLikeFile,
    leadingNumber_eq, takeWhile_digits spelling.onlyDigits stops]

theorem parseToken_of_refersTo {token file : String} {number : Nat}
    (unbroken : Text.Unbroken token.toList) (refers : RefersTo token file number) :
    parseToken token = some (file, number) := by
  rcases refers with ⟨spelling, same, value, fits⟩
  have read : Text.parseUsize spelling.digits = some number :=
    Text.parseUsize_eq_some_iff.mpr ⟨spelling.hasDigits, value, fits⟩
  rw [parseToken_of_spelling unbroken spelling, read, same, Option.map_some, String.ofList_toList]

/-- The file and the line of a reference do not depend on how it is spelled. -/
theorem refersTo_unique {token file other : String} {number line : Nat}
    (unbroken : Text.Unbroken token.toList) (refers : RefersTo token file number)
    (again : RefersTo token other line) : file = other ∧ number = line := by
  have first := parseToken_of_refersTo unbroken refers
  rw [parseToken_of_refersTo unbroken again] at first
  rcases Prod.mk.inj (Option.some.inj first) with ⟨sameFile, sameLine⟩
  exact ⟨sameFile.symm, sameLine.symm⟩

/-- On tokens without white space the parser accepts exactly the references,
and returns the file and the number that they refer to. -/
theorem parseToken_iff_refersTo (token file : String) (number : Nat)
    (unbroken : Text.Unbroken token.toList) :
    parseToken token = some (file, number) <-> RefersTo token file number :=
  ⟨refersTo_of_parseToken unbroken, parseToken_of_refersTo unbroken⟩

/-- A reference in parentheses, followed by colons and a comma. -/
def wrappedReference : Spelling "(src/main.rs:12)::,".toList where
  front := ['(']
  file := "src/main.rs".toList
  digits := ['1', '2']
  rest := [')']
  colons := [':', ':']
  back := [',']
  spells := by decide
  wrapsFront := List.forall_mem_singleton.mpr (by decide)
  wrapsBack := List.forall_mem_singleton.mpr (by decide)
  onlyColons := by simp
  nonempty := by decide
  looksLikeFile := by decide
  unwrapped := by
    intro first starts
    rw [← Option.some.inj starts]
    rfl
  hasDigits := by decide
  onlyDigits := List.all_eq_true.mp (by decide)
  noColon := by decide
  noDigit := by
    intro first starts
    rw [← Option.some.inj starts]
    rfl

/-- It is found. -/
theorem wrapped_reference_found :
    parseToken "(src/main.rs:12)::," = some ("src/main.rs", 12) :=
  (parseToken_iff_refersTo "(src/main.rs:12)::," "src/main.rs" 12 (by decide)).mpr
    ⟨wrappedReference, rfl, rfl, by decide⟩

end FileSnippetBuilder

end ContextBuilders
end Caulk
