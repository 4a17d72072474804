import Stencil.Keyword
import Stencil.Segment

/-!
# Directives

What a directive says, read from its raw text.  One line feed at the very end is set aside first;
the halves of the marker are taken off what is left, and when they are not both there, the text
stands as it is.  A body that starts with a number sign is a comment.  After a point comes a
keyword; a body with a point that is no keyword is a substitution all the same.
-/

namespace Stencil

inductive Directive where
  | comment
  | keyword (word : Keyword)
  /-- A value is substituted; a line feed stood behind the directive. -/
  | substitution (text : List Char) (newline : Bool)
deriving DecidableEq, Repr

namespace Directive

/-- A directive's raw text without one line feed at its end, and whether there was one. -/
def setAsideNewline (raw : List Char) : List Char × Bool :=
  match dropBack? ['\n'] raw with
  | some rest => (rest, true)
  | none => (raw, false)

/-- A text between the halves of the marker; the text itself when it is not between them. -/
def between (delimiters : Delimiters) (text : List Char) : List Char :=
  ((dropFront? delimiters.left text).bind (dropBack? delimiters.right)).getD text

def ofBody (body : List Char) (newline : Bool) : Directive :=
  match body with
  | '#' :: _ => .comment
  | '.' :: rest =>
    match Keyword.parse? rest with
    | some word => .keyword word
    | none => .substitution rest newline
  | _ => .substitution body newline

def read (delimiters : Delimiters) (raw : List Char) : Directive :=
  let (text, newline) := setAsideNewline raw
  ofBody (between delimiters text) newline

end Directive

end Stencil
