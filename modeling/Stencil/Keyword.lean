import Stencil.Text.Words

/-!
# Keywords

The body of a directive that starts with a point is read as words.  Nine words have a meaning of
their own; any other word is a name.  The words say that a character of the marker or a space is
meant, that a section opens, that another clause begins, or that a section ends.
-/

namespace Stencil

inductive Token where
  | metaLeft
  | metaRight
  | space
  | repeated
  | sectionWord
  | alternates
  | withWord
  | orWord
  | endWord
  | name (text : String)
deriving DecidableEq, Repr

namespace Token

def reserved : List (String × Token) :=
  [("meta-left", .metaLeft), ("meta-right", .metaRight), ("space", .space),
    ("repeated", .repeated), ("section", .sectionWord), ("alternates", .alternates),
    ("with", .withWord), ("or", .orWord), ("end", .endWord)]

/-- The token of a word: reserved words by their exact spelling, all others as names. -/
def ofText (text : String) : Token :=
  (reserved.lookup text).getD (.name text)

def text : Token → String
  | .metaLeft => "meta-left"
  | .metaRight => "meta-right"
  | .space => "space"
  | .repeated => "repeated"
  | .sectionWord => "section"
  | .alternates => "alternates"
  | .withWord => "with"
  | .orWord => "or"
  | .endWord => "end"
  | .name text => text

def lex (body : List Char) : List (Token × Span) :=
  (Word.split body).map fun word => (ofText (String.ofList word.text), word.span)

end Token

inductive Keyword where
  | metaLeft
  | metaRight
  | space
  | opening (repeated : Bool) (name : Option String)
  /-- The clause between two repetitions begins. -/
  | alternate
  /-- The clause for what does not hold begins. -/
  | otherwise
  | closing
deriving DecidableEq, Repr

namespace Keyword

/-- The keyword of a list of tokens.  Words after the name of a section are ignored, and the name
may be spelled like a reserved word; every other keyword stands alone. -/
def ofTokens? : List Token → Option Keyword
  | [.metaLeft] => some .metaLeft
  | [.metaRight] => some .metaRight
  | [.space] => some .space
  | [.alternates, .withWord] => some .alternate
  | [.orWord] => some .otherwise
  | [.endWord] => some .closing
  | .sectionWord :: rest => some (.opening false (rest.head?.map Token.text))
  | .repeated :: .sectionWord :: rest => some (.opening true (rest.head?.map Token.text))
  | _ => none

/-- The keyword that a body spells, if it does. -/
def parse? (body : List Char) : Option Keyword :=
  ofTokens? ((Token.lex body).map Prod.fst)

end Keyword

end Stencil
