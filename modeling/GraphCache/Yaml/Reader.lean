import GraphCache.Yaml.Unfolding

/-! Reading a settings file: its characters, its tokens, the nodes that they write, the
values that these stand for, and the tree of them. -/
namespace GraphCache
namespace Yaml

/-- Whether a character may occur in a file. -/
def isReadable (c : Char) : Bool :=
  let code := c.toNat
  code == 9 || code == 10 || code == 13 || code == 0x85 ||
    (decide (0x20 ≤ code) && decide (code ≤ 0x7E)) ||
    (decide (0xA0 ≤ code) && decide (code ≤ 0xD7FF)) ||
    (decide (0xE000 ≤ code) && decide (code ≤ 0xFFFD)) || decide (0x10000 ≤ code)

/-- Lines may also end with a carriage return, alone or before a line feed. -/
def withLineFeeds : List Char → List Char
  | '\r' :: '\n' :: rest => '\n' :: withLineFeeds rest
  | '\r' :: rest => '\n' :: withLineFeeds rest
  | c :: rest => c :: withLineFeeds rest
  | [] => []

/-- Reads a file. An empty one says nothing. -/
def read (text : String) : Except Fault Tree := do
  let chars := withLineFeeds text.toList
  if !chars.all isReadable then throw .unreadable
  let document ← Document.ofTokens (Tokens.ofText chars)
  let (collections, value) ← Graph.ofDocument document
  return value.toTree collections

end Yaml
end GraphCache
