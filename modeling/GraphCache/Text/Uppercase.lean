import GraphCache.Text.Lowercase
import GraphCache.Text.UppercaseTable

/-! Upper-casing of whole texts by the Unicode rules. Some characters have a form of
several characters. -/
namespace GraphCache
namespace Text

/-- The upper-case form of a character. -/
def capitals (c : Char) : List Char :=
  if c.toNat < 128 then [c.toUpper]
  else
    match longCapitals.find? (·.1 == c.toNat), capitalRuns.find? (·.covers c.toNat) with
    | some (_, forms), _ => forms.map Char.ofNat
    | none, some run => [Char.ofNat (((c.toNat : Int) + run.offset).toNat)]
    | none, none => [c]

/-- The text with every small letter replaced by its upper-case form. -/
def uppercase (text : String) : String := String.ofList (text.toList.flatMap capitals)

end Text
end GraphCache
