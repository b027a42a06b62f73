import GraphCache.Text.Quoted

/-! Why the text of a settings file is not read. Most faults are in how it is written;
some only show when a text is taken for the value that it is said to be. -/
namespace GraphCache
namespace Yaml

/-- Why a text is not the value that it is said to be. -/
inductive ValueFault where
  /-- The text is no whole number in a base. -/
  | whole (base : Nat) (text : String)
  /-- The text is no number of double precision. -/
  | real (text : String)
  /-- The text is no truth value. -/
  | truth (text : String)
  /-- The text of a number is empty. -/
  | empty
  /-- The text has not the form of a moment. -/
  | momentForm
  /-- What should be a moment is no text. -/
  | momentKind (kind : String)
  /-- There is no such day or time. -/
  | calendar (reason : String)
  /-- There is no such character. -/
  | codePoint (code : Nat)
deriving DecidableEq, Repr

/-- The first two hundred characters of a text. -/
def shortened (text : String) : String := String.ofList (text.toList.take 200)

/-- The greatest number that names a character, if there is one. -/
def greatestNumber : Nat := 0x7FFFFFFF

def ValueFault.message : ValueFault → String
  | whole base text =>
    "invalid literal for int() with base " ++ toString base ++ ": " ++ shortened (Text.quoted text)
  | real text => "could not convert string to float: " ++ Text.quoted text
  | truth text => Text.quoted text
  | empty => "string index out of range"
  | momentForm => "'NoneType' object has no attribute 'groupdict'"
  | momentKind kind => "expected string or bytes-like object, got '" ++ kind ++ "'"
  | calendar reason => reason
  | codePoint code =>
    if greatestNumber < code then "Python int too large to convert to C int"
    else "chr() arg not in range(0x110000)"

/-- Why a text is not read. -/
inductive Fault where
  | unreadable
  | unexpected
  | unclosedText
  | separatorInText
  | badEscape
  | badBlockHeader
  | badName
  | badDirective
  | badTag
  | keyNotAllowed
  | valueNotAllowed
  | itemNotAllowed
  | colonExpected
  | contentExpected
  | endExpected
  | commaExpected
  | unknownHandle
  | documentExpected
  | secondDocument
  | unknownName
  | repeatedName
  | unknownTag
  | wrongKind
  | unhashable
  | notMergeable
  | badBytes
  | tooDeep
  | value (fault : ValueFault)
deriving DecidableEq, Repr

def Fault.message : Fault → String
  | unreadable => "special characters are not allowed"
  | unexpected => "found a character that cannot start any token"
  | unclosedText => "found unexpected end of stream"
  | separatorInText => "found unexpected document separator"
  | badEscape => "found unknown escape character"
  | badBlockHeader => "expected chomping or indentation indicators"
  | badName => "expected alphabetic or numeric character"
  | badDirective => "found a directive that cannot be followed"
  | badTag => "found a tag that cannot be read"
  | keyNotAllowed => "mapping keys are not allowed here"
  | valueNotAllowed => "mapping values are not allowed here"
  | itemNotAllowed => "sequence entries are not allowed here"
  | colonExpected => "could not find expected ':'"
  | contentExpected => "expected the node content"
  | endExpected => "expected <block end>"
  | commaExpected => "expected ',' or a closing bracket"
  | unknownHandle => "found undefined tag handle"
  | documentExpected => "expected '<document start>'"
  | secondDocument => "expected a single document in the stream"
  | unknownName => "found undefined alias"
  | repeatedName => "found duplicate anchor"
  | unknownTag => "could not determine a constructor for the tag"
  | wrongKind => "found a node of another kind than expected"
  | unhashable => "found unhashable key"
  | notMergeable => "expected a mapping or list of mappings for merging"
  | badBytes => "failed to decode base64 data"
  | tooDeep => "the text is nested too deeply"
  | value fault => fault.message

end Yaml
end GraphCache
