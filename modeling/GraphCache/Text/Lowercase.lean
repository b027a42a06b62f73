import GraphCache.Text.CaseTable

/-! Lower-casing of whole texts. Type names and the names in the maps a caller
passes are compared without regard to case, so both sides go through the same
function. It follows the Unicode rules: one capital letter has a form of two
characters, and a capital sigma at the end of a word has a form of its own. -/
namespace GraphCache
namespace Text

/-- Whether a code point lies in one of the inclusive ranges. -/
def inRanges (ranges : Array (Nat × Nat)) (code : Nat) : Bool :=
  ranges.any fun range => decide (range.1 ≤ code) && decide (code ≤ range.2)

def CaseRun.covers (run : CaseRun) (code : Nat) : Bool :=
  decide (run.first ≤ code) && decide (code ≤ run.last) && (code - run.first) % run.stride == 0

/-- The lower-case form of a character that has one of a single character, else
the character itself. -/
def lowerChar (c : Char) : Char :=
  if c.toNat < 128 then c.toLower
  else
    match caseRuns.find? (·.covers c.toNat) with
    | some run => Char.ofNat (((c.toNat : Int) + run.offset).toNat)
    | none => c

def hasCase (c : Char) : Bool := inRanges casedRanges c.toNat

def isCaseIgnorable (c : Char) : Bool := inRanges caseIgnorableRanges c.toNat

/-- Whether the nearest neighbour that counts has case. -/
def meetsCase (neighbours : List Char) : Bool :=
  match neighbours.dropWhile isCaseIgnorable with
  | [] => false
  | c :: _ => hasCase c

/-- Lower-cases the characters after `before`, which is kept in reverse: a capital
sigma ends a word when a cased character stands before it and none after it. -/
def lowerAfter (before : List Char) : List Char → List Char
  | [] => []
  | c :: rest =>
    let forms : List Char :=
      if c = '\u0130' then ['i', '\u0307']
      else if c = '\u03a3' then
        if meetsCase before && !meetsCase rest then ['\u03c2'] else ['\u03c3']
      else [lowerChar c]
    forms ++ lowerAfter (c :: before) rest

/-- The text with every capital replaced by its lower-case form. -/
def lowercase (text : String) : String := String.ofList (lowerAfter [] text.toList)

end Text
end GraphCache
