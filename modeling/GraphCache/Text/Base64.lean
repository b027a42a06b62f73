/-! Bytes as texts of sixty-four letters, four for every three bytes. A text is padded to
full groups. A reader passes over every character that is no letter. -/
namespace GraphCache
namespace Text
namespace Base64

/-- The letter of a number below sixty-four. -/
def letter (value : Nat) : Char :=
  if value < 26 then Char.ofNat ('A'.toNat + value)
  else if value < 52 then Char.ofNat ('a'.toNat + (value - 26))
  else if value < 62 then Char.ofNat ('0'.toNat + (value - 52))
  else if value = 62 then '+'
  else '/'

/-- The number of a letter. -/
def value? (c : Char) : Option Nat :=
  if 'A' ≤ c ∧ c ≤ 'Z' then some (c.toNat - 'A'.toNat)
  else if 'a' ≤ c ∧ c ≤ 'z' then some (c.toNat - 'a'.toNat + 26)
  else if '0' ≤ c ∧ c ≤ '9' then some (c.toNat - '0'.toNat + 52)
  else if c = '+' then some 62
  else if c = '/' then some 63
  else none

/-- The last `count` letters of a number, which has six bits to each. -/
def letters : Nat → Nat → List Char
  | 0, _ => []
  | count + 1, value => letters count (value / 64) ++ [letter (value % 64)]

/-- Three bytes at a time; a last group that is not full is padded. -/
def encode : List UInt8 → List Char
  | [] => []
  | [a] => letters 2 (a.toNat * 16) ++ ['=', '=']
  | [a, b] => letters 3 ((a.toNat * 256 + b.toNat) * 4) ++ ['=']
  | a :: b :: c :: rest =>
    letters 4 ((a.toNat * 256 + b.toNat) * 256 + c.toNat) ++ encode rest

/-- Why a text stands for no bytes. -/
inductive Fault where
  /-- A last group of a single letter, which has too few bits for a byte. -/
  | loneLetter
  /-- A last group without its padding. -/
  | padding
deriving DecidableEq, Repr

/-- Reads letters behind `count` of a group that hold `bits`, with `pads` pads in a row
just before. A group that its padding completes ends the text. -/
def decodeFrom (count bits pads : Nat) : List Char → Except Fault (List UInt8)
  | [] =>
    if count = 0 then .ok [] else if count = 1 then .error .loneLetter else .error .padding
  | c :: rest =>
    if c = '=' then
      if 2 ≤ count then
        if 4 ≤ count + (pads + 1) then .ok [] else decodeFrom count bits (pads + 1) rest
      else decodeFrom count bits pads rest
    else
      match value? c with
      | none => decodeFrom count bits pads rest
      | some value =>
        match count with
        | 0 => decodeFrom 1 value 0 rest
        | 1 => (decodeFrom 2 (value % 16) 0 rest).map (UInt8.ofNat (bits * 4 + value / 16) :: ·)
        | 2 => (decodeFrom 3 (value % 4) 0 rest).map (UInt8.ofNat (bits * 16 + value / 4) :: ·)
        | _ => (decodeFrom 0 0 0 rest).map (UInt8.ofNat (bits * 64 + value) :: ·)

/-- The bytes that a text stands for. -/
def decode (text : List Char) : Except Fault (List UInt8) := decodeFrom 0 0 0 text

end Base64
end Text
end GraphCache
