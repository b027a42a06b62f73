import GraphCache.Text.Quoted

/-! Texts that may only hold the characters of ASCII. The first others are told with
their place. -/
namespace GraphCache
namespace Text

def isAscii (c : Char) : Bool := decide (c.toNat < 128)

/-- Characters beyond ASCII that stand in a row, and how many characters stand before
them. -/
structure Foreign where
  position : Nat
  characters : List Char
deriving DecidableEq, Repr

/-- The first characters of a text beyond ASCII. -/
def firstForeign? (text : String) : Option Foreign :=
  let chars := text.toList
  let before := chars.takeWhile isAscii
  match (chars.drop before.length).takeWhile (!isAscii ·) with
  | [] => none
  | characters => some ⟨before.length, characters⟩

/-- A character by its number. -/
def escapedPoint (c : Char) : List Char :=
  if c.toNat < 0x100 then '\\' :: 'x' :: hexDigits 2 c.toNat
  else if c.toNat < 0x10000 then '\\' :: 'u' :: hexDigits 4 c.toNat
  else '\\' :: 'U' :: hexDigits 8 c.toNat

def Foreign.message (foreign : Foreign) : String :=
  let which :=
    match foreign.characters with
    | [c] => " '" ++ String.ofList (escapedPoint c) ++ "' in position " ++ toString foreign.position
    | characters =>
      "s in position " ++ toString foreign.position ++ "-" ++
        toString (foreign.position + characters.length - 1)
  "'ascii' codec can't encode character" ++ which ++ ": ordinal not in range(128)"

end Text
end GraphCache
