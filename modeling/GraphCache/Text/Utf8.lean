/-! Texts as bytes. A character takes one to four bytes, of which the first tells how
many follow. Bytes that no character begins with, or that break off one, are told apart
from characters, so that a reader may refuse them or let a mark stand for them. -/
namespace GraphCache
namespace Text
namespace Utf8

/-- The bytes of a text. -/
def encode (text : List Char) : List UInt8 := (String.ofList text).toUTF8.toList

/-- A character of which bytes are still to come: how many, where the next one must lie,
and the bits read so far. -/
structure Pending where
  remaining : Nat
  lowest : Nat
  highest : Nat
  bits : Nat
deriving DecidableEq, Repr

/-- What a byte begins. -/
inductive Front where
  | character (c : Char)
  | pending (state : Pending)
  | invalid

/-- What a byte begins. Forms that are longer than needed, halves of surrogate pairs and
code points beyond the last are refused by their first two bytes. -/
def front (byte : Nat) : Front :=
  if byte < 0x80 then .character (Char.ofNat byte)
  else if byte < 0xC2 then .invalid
  else if byte < 0xE0 then .pending ⟨1, 0x80, 0xBF, byte % 32⟩
  else if byte < 0xF0 then
    .pending ⟨2, if byte = 0xE0 then 0xA0 else 0x80, if byte = 0xED then 0x9F else 0xBF, byte % 16⟩
  else if byte < 0xF5 then
    .pending ⟨3, if byte = 0xF0 then 0x90 else 0x80, if byte = 0xF4 then 0x8F else 0xBF, byte % 8⟩
  else .invalid

/-- The characters of a sequence of bytes behind a character that may be pending. Bytes
without a character are an absent one, as many at a time as could have begun one. -/
def decodeFrom (state : Option Pending) : List UInt8 → List (Option Char)
  | [] => if state.isSome then [none] else []
  | byte :: rest =>
    let code := byte.toNat
    let fresh : List (Option Char) × Option Pending :=
      match front code with
      | .character c => ([some c], none)
      | .pending next => ([], some next)
      | .invalid => ([none], none)
    let read : List (Option Char) × Option Pending :=
      match state with
      | none => fresh
      | some pending =>
        if pending.lowest ≤ code ∧ code ≤ pending.highest then
          let bits := pending.bits * 64 + code % 64
          if pending.remaining = 1 then ([some (Char.ofNat bits)], none)
          else ([], some ⟨pending.remaining - 1, 0x80, 0xBF, bits⟩)
        else (none :: fresh.1, fresh.2)
    read.1 ++ decodeFrom read.2 rest

/-- The text that bytes stand for, if they stand for one. -/
def decode? (bytes : List UInt8) : Option (List Char) := (decodeFrom none bytes).mapM id

/-- The text that bytes stand for, with a mark wherever they stand for none. -/
def decodeLossy (bytes : List UInt8) : List Char :=
  (decodeFrom none bytes).map fun character => character.getD '\ufffd'

end Utf8
end Text
end GraphCache
