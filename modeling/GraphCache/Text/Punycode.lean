/-! Texts of any characters as texts of letters, digits and hyphens. The characters of
ASCII come first, then one number for each other character, which tells how far its code
point and its place are from those of the one before. The digits of a number end at a
threshold that adapts to the numbers so far. -/
namespace GraphCache
namespace Text
namespace Punycode

/-- Code points: the texts that are read may hold halves of surrogate pairs, which are no
characters. -/
abbrev Points := List Nat

/-- The digit of a value below thirty-six. -/
def digit (value : Nat) : Char :=
  if value < 26 then Char.ofNat ('a'.toNat + value) else Char.ofNat ('0'.toNat + (value - 26))

/-- The value of a digit, which may be a letter of either case. -/
def value? (c : Char) : Option Nat :=
  if 'a' ≤ c ∧ c ≤ 'z' then some (c.toNat - 'a'.toNat)
  else if 'A' ≤ c ∧ c ≤ 'Z' then some (c.toNat - 'A'.toNat)
  else if '0' ≤ c ∧ c ≤ '9' then some (c.toNat - '0'.toNat + 26)
  else none

/-- The threshold of a digit, the first of which has `weight` 36 and each further one 36
more. -/
def threshold (weight bias : Nat) : Nat :=
  if weight ≤ bias then 1 else if bias + 26 ≤ weight then 26 else weight - bias

theorem threshold_pos (weight bias : Nat) : 1 ≤ threshold weight bias := by
  unfold threshold
  split
  · omega
  · split <;> omega

/-- Halves a distance down to the range of a single digit, and adds 36 for each step. -/
def settle (distance steps : Nat) : Nat × Nat :=
  if 455 < distance then settle (distance / 35) (steps + 36) else (distance, steps)
termination_by distance
decreasing_by exact Nat.div_lt_self (by omega) (by omega)

/-- The bias after a distance, of which `count` have been told. -/
def adapt (distance count : Nat) (first : Bool) : Nat :=
  let scaled := if first then distance / 700 else distance / 2
  let settled := settle (scaled + scaled / count) 0
  settled.2 + 36 * settled.1 / (settled.1 + 38)

/-! ## Writing -/

/-- The digits of a number. -/
def writeNumber (bias weight number : Nat) : List Char :=
  let bound := threshold weight bias
  if number < bound then [digit number]
  else
    digit (bound + (number - bound) % (36 - bound)) ::
      writeNumber bias (weight + 36) ((number - bound) / (36 - bound))
termination_by number
decreasing_by
  have positive := threshold_pos weight bias
  calc (number - threshold weight bias) / (36 - threshold weight bias)
      ≤ number - threshold weight bias := Nat.div_le_self _ _
    _ < number := by omega

/-- What has been written, the distance since then, and how many characters are placed,
of which `basic` are of ASCII. -/
structure Progress where
  written : List Char
  distance : Nat
  bias : Nat
  placed : Nat
  basic : Nat

/-- Passes over a character on the way to those with the code point `point`. -/
def Progress.pass (point : Nat) (progress : Progress) (code : Nat) : Progress :=
  if code < point then { progress with distance := progress.distance + 1 }
  else if code = point then
    { progress with
      written := progress.written ++ writeNumber progress.bias 36 progress.distance
      distance := 0
      bias := adapt progress.distance (progress.placed + 1) (progress.placed == progress.basic)
      placed := progress.placed + 1 }
  else progress

/-- Writes the characters of each code point in turn; `next` is the first one that could
still come. -/
def writeAll (text : Points) : Nat → Progress → Points → Progress
  | _, progress, [] => progress
  | next, progress, point :: rest =>
    let reached :=
      { progress with distance := progress.distance + (point - next) * (progress.placed + 1) }
    let passed := text.foldl (Progress.pass point) reached
    writeAll text (point + 1) { passed with distance := passed.distance + 1 } rest

def encode (text : Points) : List Char :=
  let basic := (text.filter (· < 128)).map Char.ofNat
  let points := ((text.filter (128 ≤ ·)).mergeSort (· ≤ ·)).eraseDups
  let start : Progress := ⟨[], 0, 72, basic.length, basic.length⟩
  (if basic.isEmpty then [] else basic ++ ['-']) ++ (writeAll text 128 start points).written

/-! ## Reading -/

/-- Adds a written number to `total`, and gives what follows it. -/
def readNumber (bias : Nat) : Nat → Nat → Nat → List Char → Option (Nat × List Char)
  | _, _, _, [] => none
  | weight, unit, total, c :: rest => do
    let value ← value? c
    let bound := threshold weight bias
    let sum := total + value * unit
    if value < bound then return (sum, rest)
    else readNumber bias (weight + 36) (unit * (36 - bound)) sum rest

/-- The greatest code point. -/
def lastPoint : Nat := 0x10FFFF

/-- Places one character for each number, the `first` included. Every number takes a
digit at least, so the number of digits is enough fuel. -/
def readAll : Nat → (first : Bool) → (bias point position : Nat) → Points → List Char → Option Points
  | _, _, _, _, _, text, [] => some text
  | 0, _, _, _, _, _, _ => none
  | fuel + 1, first, bias, point, position, text, digits => do
    let (reached, rest) ← readNumber bias 36 1 position digits
    let count := text.length + 1
    let code := point + reached / count
    if lastPoint < code then none
    else
      let place := reached % count
      readAll fuel false (adapt (reached - position) count first) code (place + 1)
        (text.insertIdx place code) rest

def decode? (written : List Char) : Option Points :=
  let tail := (written.reverse.takeWhile (· != '-')).reverse
  let basic := written.take (written.length - tail.length - 1)
  readAll tail.length true 72 128 0 (basic.map Char.toNat) tail

end Punycode
end Text
end GraphCache
