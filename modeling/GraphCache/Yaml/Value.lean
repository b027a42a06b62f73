import GraphCache.Number.Written
import GraphCache.Settings.Tree
import GraphCache.Text.Base64
import GraphCache.Text.Lowercase
import GraphCache.Yaml.Fault
import GraphCache.Yaml.Plain

/-! Texts as the values that they are said to be. A tag may say of any text that it is a
number or a moment, so each of them may turn out to be none. -/
namespace GraphCache
namespace Yaml

def withoutUnderscores (text : List Char) : List Char := text.filter (· != '_')

/-- Reads digits in a base. -/
def wholeIn (base : Nat) (text : List Char) : Except ValueFault Int :=
  match Written.whole? base text with
  | some value => .ok value
  | none => .error (.whole base (String.ofList text))

/-- Reads decimal digits. Of parts between colons each counts sixty times the one behind
it. -/
def wholeOfParts (text : List Char) : Except ValueFault Int :=
  if text.contains ':' then do
    return (← (splitOn ':' text).mapM (wholeIn 10)).foldl (fun total part => 60 * total + part) 0
  else wholeIn 10 text

/-- The whole number that a text writes. -/
def wholeValue (text : String) : Except ValueFault Int := do
  let (negative, digits) := Written.splitSign (withoutUnderscores text.toList)
  let size ←
    match digits with
    | [] => throw .empty
    | ['0'] => pure 0
    | '0' :: 'b' :: rest => wholeIn 2 rest
    | '0' :: 'x' :: rest => wholeIn 16 rest
    | '0' :: _ => wholeIn 8 digits
    | _ => wholeOfParts digits
  return if negative then -size else size

def realOf (text : List Char) : Except ValueFault Binary64 :=
  match Written.real? text with
  | some value => .ok value
  | none => .error (.real (String.ofList text))

/-- The sum of parts of which each counts sixty times the one behind it. Sums and products
are rounded one by one, the last part first. -/
def sumOfSixtieths (parts : List Binary64) : Binary64 :=
  (parts.reverse.foldl (fun (state : Binary64 × Nat) part =>
    (state.1.add (part.mul (.ofInt state.2)), state.2 * 60)) (.zero false, 1)).1

/-- The number of double precision that a text writes. -/
def realValue (text : String) : Except ValueFault Binary64 := do
  let bare := (Text.lowercase (String.ofList (withoutUnderscores text.toList))).toList
  if bare.isEmpty then throw .empty
  let (negative, digits) := Written.splitSign bare
  let size ←
    if digits == ".inf".toList then pure (.infinite false)
    else if digits == ".nan".toList then pure .notANumber
    else if digits.contains ':' then pure (sumOfSixtieths (← (splitOn ':' digits).mapM realOf))
    else realOf digits
  return if negative then size.negated else size

/-- The truth value that a word stands for, in any case. -/
def truthValue (text : String) : Except ValueFault Bool :=
  let word := Text.lowercase text
  if ["yes", "true", "on"].contains word then .ok true
  else if ["no", "false", "off"].contains word then .ok false
  else .error (.truth word)

/-- The bytes that a text of letters stands for. -/
def bytesValue (text : String) : Except Fault (List UInt8) :=
  if text.toList.all fun c => c.toNat < 128 then
    (Text.Base64.decode text.toList).mapError fun _ => .badBytes
  else .error .badBytes

/-! ## Moments -/

/-- Why there is no such moment. -/
def calendarFault? (moment : Moment) : Option String :=
  if moment.year = 0 then some "year 0 is out of range"
  else if moment.month < 1 ∨ 12 < moment.month then some "month must be in 1..12"
  else if moment.day < 1 ∨ Moment.daysIn moment.year moment.month < moment.day then
    some "day is out of range for month"
  else
    moment.time.bind fun time =>
      if 23 < time.hour then some "hour must be in 0..23"
      else if 59 < time.minute then some "minute must be in 0..59"
      else if 59 < time.second then some "second must be in 0..59"
      else none

/-- The distance of a zone from universal time in minutes, which is less than a day. -/
def zoneValue (zone : ZoneText) : Except ValueFault Int :=
  let size : Int := 60 * Written.decimal zone.hours + Written.decimal zone.minutes
  let distance := if zone.sign = some '-' then -size else size
  if -1440 < distance ∧ distance < 1440 then .ok distance
  else
    let days := distance.fdiv 1440
    let seconds := distance.fmod 1440 * 60
    .error (.calendar (
      "offset must be a timedelta strictly between -timedelta(hours=24) and timedelta(hours=24)," ++
        " not datetime.timedelta(days=" ++ toString days ++
        (if seconds = 0 then "" else ", seconds=" ++ toString seconds) ++ ")."))

/-- The moment that a text names. -/
def momentValue (text : String) : Except ValueFault Moment := do
  match momentText? (dropLastBreak text.toList) with
  | none => throw .momentForm
  | some parts =>
    let time ← parts.time.mapM fun time => do
      let zone ← time.zone.mapM zoneValue
      let six := (time.fraction ++ List.replicate 6 '0').take 6
      return TimeOfDay.mk (Written.decimal time.hour) (Written.decimal time.minute)
        (Written.decimal time.second) (Written.decimal six) zone
    let moment : Moment :=
      ⟨Written.decimal parts.year, Written.decimal parts.month, Written.decimal parts.day, time⟩
    match calendarFault? moment with
    | some reason => throw (.calendar reason)
    | none => return moment

end Yaml
end GraphCache
