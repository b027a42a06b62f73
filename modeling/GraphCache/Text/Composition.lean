import GraphCache.Text.CompositionTable
import GraphCache.Text.Lowercase
import GraphCache.Text.MarkTable

/-! Composed texts. A letter with marks can often be written in several ways. In a
composed text the marks stand in the order of their classes, and every letter and mark
that have a character of their own are that character. -/
namespace GraphCache
namespace Text

/-- Whether a character combines with the one before it. -/
def isMark (code : Nat) : Bool := inRanges markRanges code

/-- The class that orders a mark among others; zero for characters that stand for
themselves. -/
def combiningClass (code : Nat) : Nat :=
  match combiningClasses.find? fun entry => decide (entry.1 ≤ code) && decide (code ≤ entry.2.1) with
  | some (_, _, order) => order
  | none => 0

namespace Composition

/-! ## Syllables of Hangul -/

/-- The first syllable, leading consonant, vowel, and the place before the first final
consonant. -/
def syllableBase : Nat := 0xAC00

def leadBase : Nat := 0x1100

def vowelBase : Nat := 0x1161

def finalBase : Nat := 0x11A7

def leadCount : Nat := 19

def vowelCount : Nat := 21

def finalCount : Nat := 28

def syllableCount : Nat := leadCount * vowelCount * finalCount

def isSyllable (code : Nat) : Bool :=
  decide (syllableBase ≤ code) && decide (code < syllableBase + syllableCount)

/-- The two or three letters of a syllable. -/
def syllableLetters (code : Nat) : List Nat :=
  let index := code - syllableBase
  let ending := index % finalCount
  [leadBase + index / finalCount / vowelCount, vowelBase + index / finalCount % vowelCount] ++
    if ending = 0 then [] else [finalBase + ending]

/-- The syllable of a leading consonant and a vowel, or of an open syllable and a final
consonant. -/
def syllable? (left right : Nat) : Option Nat :=
  if leadBase ≤ left ∧ left < leadBase + leadCount ∧ vowelBase ≤ right ∧
      right < vowelBase + vowelCount then
    some (syllableBase + ((left - leadBase) * vowelCount + (right - vowelBase)) * finalCount)
  else if isSyllable left ∧ (left - syllableBase) % finalCount = 0 ∧ finalBase < right ∧
      right < finalBase + finalCount then
    some (left + (right - finalBase))
  else none

/-! ## Decomposing, ordering, composing -/

/-- How often a character can be taken apart: a letter may have several marks. -/
def greatestDepth : Nat := 4

/-- The letter and the marks that a character stands for. -/
def parts : Nat → Nat → List Nat
  | 0, code => [code]
  | depth + 1, code =>
    match composedPairs.find? (·.1 == code) with
    | some (_, base, mark) => parts depth base ++ [mark]
    | none => [code]

def decompose (text : List Nat) : List Nat :=
  text.flatMap fun code => if isSyllable code then syllableLetters code else parts greatestDepth code

/-- Puts a mark in front of marks of greater classes, in a text that is kept in
reverse. -/
def place (code order : Nat) : List Nat → List Nat
  | [] => [code]
  | last :: before =>
    if order < combiningClass last then last :: place code order before else code :: last :: before

/-- Puts the marks behind each letter into the order of their classes. -/
def order (text : List Nat) : List Nat :=
  (text.foldl (fun placed code =>
    let kind := combiningClass code
    if kind = 0 then code :: placed else place code kind placed) []).reverse

/-- The character of a character and a mark. -/
def composite? (left right : Nat) : Option Nat :=
  match syllable? left right with
  | some syllable => some syllable
  | none => (composedPairs.find? fun entry => entry.2.1 == left && entry.2.2 == right).map (·.1)

/-- A text that is being composed: what is done, in reverse, the last letter, and the
marks behind it that have stayed apart, in reverse. -/
structure Progress where
  done : List Nat
  letter : Option Nat
  marks : List Nat

/-- All characters so far, in reverse. -/
def Progress.all (progress : Progress) : List Nat :=
  progress.marks ++ progress.letter.toList ++ progress.done

/-- Adds a character. It joins the last letter unless a mark between them is of no
smaller class. -/
def Progress.add (progress : Progress) (code : Nat) : Progress :=
  let kind := combiningClass code
  let joined? :=
    match progress.letter, progress.marks with
    | some letter, [] => composite? letter code
    | some letter, last :: _ => if combiningClass last < kind then composite? letter code else none
    | none, _ => none
  match joined? with
  | some joined => { progress with letter := some joined }
  | none =>
    if kind = 0 then ⟨progress.all, some code, []⟩
    else { progress with marks := code :: progress.marks }

def compose (text : List Nat) : List Nat := (text.foldl Progress.add ⟨[], none, []⟩).all.reverse

end Composition

/-- Whether a text is composed. -/
def isComposed (text : List Nat) : Bool :=
  !(text.any fun code => inRanges neverComposed code) &&
    Composition.compose (Composition.order (Composition.decompose text)) == text

end Text
end GraphCache
