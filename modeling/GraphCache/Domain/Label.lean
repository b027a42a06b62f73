import GraphCache.Domain.DirectionTable
import GraphCache.Domain.JoiningTable
import GraphCache.Domain.LetterTable
import GraphCache.Domain.ScriptTable
import GraphCache.Text.Composition
import GraphCache.Text.Quoted

/-! The labels of domain names: which texts may stand between the dots. A label is
composed, has no hyphens where they could mislead, does not begin with a mark, holds only
letters, digits and marks, some of them only beside others, and runs in one direction. -/
namespace GraphCache
namespace Domain

/-- Code points: a label that has been decoded may hold halves of surrogate pairs. -/
abbrev Label := List Nat

/-- Why the characters of a label do not run in one direction. -/
inductive DirectionFault where
  | unknown (label : Label) (position : Nat)
  | start (label : Label)
  | leftward (position : Nat)
  | rightward (position : Nat)
  | mixedNumbers
  | ending
deriving DecidableEq, Repr

/-- Why a text is no domain name. Positions count from one. -/
inductive Fault where
  | nameTooLong
  | emptyName
  | labelTooLong
  | emptyLabel
  | notComposed
  | innerHyphens
  | outerHyphen
  | initialMark
  | joiner (code position : Nat) (label : Label)
  | context (code position : Nat) (label : Label)
  | character (code position : Nat) (label : Label)
  | direction (fault : DirectionFault)
  | noContent
  | endsInHyphen
  | undecodable
deriving DecidableEq, Repr

def DirectionFault.message : DirectionFault → String
  | unknown label position =>
    "Unknown directionality in label " ++ Text.quotedPoints label ++ " at position " ++
      toString position
  | start label =>
    "First codepoint in label " ++ Text.quotedPoints label ++ " must be directionality L, R or AL"
  | leftward position =>
    "Invalid direction for codepoint at position " ++ toString position ++ " in a right-to-left label"
  | rightward position =>
    "Invalid direction for codepoint at position " ++ toString position ++ " in a left-to-right label"
  | mixedNumbers => "Can not mix numeral types in a right-to-left label"
  | ending => "Label ends with illegal codepoint directionality"

/-- A code point in at least four hexadecimal digits. -/
def pointName (code : Nat) : String :=
  let width := if code < 0x10000 then 4 else if code < 0x100000 then 5 else 6
  "U+" ++ String.ofList ((Text.hexDigits width code).map Char.toUpper)

def Fault.message : Fault → String
  | nameTooLong => "Domain too long"
  | emptyName => "Empty domain"
  | labelTooLong => "Label too long"
  | emptyLabel => "Empty Label"
  | notComposed => "Label must be in Normalization Form C"
  | innerHyphens => "Label has disallowed hyphens in 3rd and 4th position"
  | outerHyphen => "Label must not start or end with a hyphen"
  | initialMark => "Label begins with an illegal combining character"
  | joiner code position label =>
    "Unknown codepoint adjacent to joiner " ++ pointName code ++ " at position " ++
      toString position ++ " in " ++ Text.quotedPoints label
  | context code position label =>
    "Codepoint " ++ pointName code ++ " not allowed at position " ++ toString position ++ " in " ++
      Text.quotedPoints label
  | character code position label =>
    "Codepoint " ++ pointName code ++ " at position " ++ toString position ++ " of " ++
      Text.quotedPoints label ++ " not allowed"
  | direction fault => fault.message
  | noContent => "Malformed A-label, no Punycode eligible content found"
  | endsInHyphen => "A-label must not end with a hyphen"
  | undecodable => "Invalid A-label"

/-! ## Directions -/

/-- The direction of a character that a domain name may hold. -/
def directionOf (code : Nat) : Direction :=
  match directionRuns.find? fun run => decide (run.1 ≤ code) && decide (code ≤ run.2.1) with
  | some (_, _, direction) => direction
  | none => .leftToRight

/-- What a label's end shows: whether it is a character that may end a label, marks
apart, and the kind of its numbers. -/
structure Run where
  ended : Bool
  numbers : Option Direction

/-- The kinds of characters that may end a label. -/
def mayEnd (rightToLeft : Bool) (direction : Direction) : Bool :=
  match direction with
  | .number => true
  | .leftToRight => !rightToLeft
  | .rightToLeft | .arabicNumber => rightToLeft
  | _ => false

/-- One character of a label, at its position. -/
def Run.step (rightToLeft : Bool) (run : Run) (direction : Direction) (position : Nat) :
    Except DirectionFault Run := do
  match rightToLeft, direction with
  | true, .leftToRight => throw (.leftward position)
  | false, .rightToLeft | false, .arabicNumber => throw (.rightward position)
  | _, _ => pure ()
  let ended := if direction = .mark then run.ended else mayEnd rightToLeft direction
  if rightToLeft && (direction == .number || direction == .arabicNumber) then
    match run.numbers with
    | some kind => if kind ≠ direction then throw .mixedNumbers
    | none => pure ()
    return ⟨ended, some direction⟩
  return ⟨ended, run.numbers⟩

/-- Whether the characters of a label run in one direction. Only one with characters that
run from right to left is looked at closely. -/
def checkDirection (label : Label) : Except DirectionFault Unit := do
  let directions := label.map directionOf
  match directions.findIdx? (· == .unassigned) with
  | some index => throw (.unknown label (index + 1))
  | none => pure ()
  if !(directions.contains .rightToLeft || directions.contains .arabicNumber) then return
  let rightToLeft ←
    match directions.head? with
    | some .rightToLeft => pure true
    | some .leftToRight => pure false
    | _ => throw (.start label)
  let run ← directions.zipIdx.foldlM (fun (run : Run) entry =>
    run.step rightToLeft entry.1 (entry.2 + 1)) ⟨false, none⟩
  if !run.ended then throw .ending

/-! ## Characters that depend on others -/

/-- Whether the nearest character that joining does not pass over joins. -/
def joins (ranges : Array (Nat × Nat)) (neighbours : List Nat) : Bool :=
  match neighbours.dropWhile (Text.inRanges passedInJoining) with
  | code :: _ => Text.inRanges ranges code
  | [] => false

/-- The class of marks that suppress a vowel. -/
def vowelSuppressor : Nat := 9

/-- Whether a joiner may stand between characters, of which those before are in reverse.
Either one may follow a mark that suppresses a vowel; the one that separates may also
stand between letters that would join. -/
def joinerAllowed (code : Nat) (before after : List Nat) : Bool :=
  match before with
  | [] => false
  | last :: _ =>
    Text.combiningClass last == vowelSuppressor ||
      (code == 0x200C && directionOf last ≠ .unassigned && joins joinsOnwards before &&
        joins joinsBackwards after)

def isArabicDigit (code : Nat) : Bool := decide (0x660 ≤ code) && decide (code ≤ 0x669)

def isExtendedArabicDigit (code : Nat) : Bool := decide (0x6F0 ≤ code) && decide (code ≤ 0x6F9)

/-- Whether a character that asks for others may stand in a label. A middle dot stands
between two letters l, a numeral sign before a Greek letter, a Hebrew point after a Hebrew
letter, a Katakana dot in a label with a letter of Japan, and the digits of two series not
together. Nothing is said of other characters. -/
def contextAllowed? (code : Nat) (before after label : List Nat) : Option Bool :=
  if code = 0xB7 then some (before.head? == some 0x6C && after.head? == some 0x6C)
  else if code = 0x375 then some (after.head?.any (Text.inRanges greekRanges))
  else if code = 0x5F3 ∨ code = 0x5F4 then some (before.head?.any (Text.inRanges hebrewRanges))
  else if code = 0x30FB then
    some (label.any fun other => other != 0x30FB &&
      (Text.inRanges hiraganaRanges other || Text.inRanges katakanaRanges other ||
        Text.inRanges hanRanges other))
  else if isArabicDigit code then some (!label.any isExtendedArabicDigit)
  else if isExtendedArabicDigit code then some (!label.any isArabicDigit)
  else none

/-- Whether a character may stand anywhere. -/
def isLetter (code : Nat) : Bool :=
  Text.inRanges (if code < 0x2000 then nearLetterRanges else farLetterRanges) code

/-- Checks the characters after `before`, which is in reverse. -/
def checkCharacters (label : Label) (before : List Nat) : List Nat → Except Fault Unit
  | [] => .ok ()
  | code :: after => do
    let position := before.length + 1
    if !isLetter code then
      if code = 0x200C ∨ code = 0x200D then
        if !joinerAllowed code before after then throw (.joiner code position label)
      else
        match contextAllowed? code before after label with
        | some allowed => if !allowed then throw (.context code position label)
        | none => throw (.character code position label)
    checkCharacters label (code :: before) after

/-! ## Labels -/

/-- The greatest length of a whole name, a last dot included. -/
def greatestNameLength : Nat := 254

/-- The code point of the hyphen. -/
def hyphen : Nat := 0x2D

/-- Checks a label that is written in its own characters. -/
def checkLabel (label : Label) : Except Fault Unit := do
  if label.isEmpty then throw .emptyLabel
  if greatestNameLength < label.length then throw .labelTooLong
  if !Text.isComposed label then throw .notComposed
  if (label.drop 2).take 2 == [hyphen, hyphen] then throw .innerHyphens
  if label.head? == some hyphen || label.getLast? == some hyphen then throw .outerHyphen
  if label.head?.any Text.isMark then throw .initialMark
  checkCharacters label [] label
  (checkDirection label).mapError .direction

end Domain
end GraphCache
