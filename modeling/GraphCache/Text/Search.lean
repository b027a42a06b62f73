/-! Finding one text in another. -/
namespace GraphCache
namespace Text

/-- Whether `words` stand somewhere in a text. -/
def mentionsIn (words : List Char) : List Char → Bool
  | [] => words.isEmpty
  | c :: rest => words.isPrefixOf (c :: rest) || mentionsIn words rest

def mentions (words text : String) : Bool := mentionsIn words.toList text.toList

end Text
end GraphCache
