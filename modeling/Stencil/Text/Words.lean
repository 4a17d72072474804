import Stencil.Text.Span

/-!
# Words

A word is a longest run of characters other than space, tab, carriage return and line feed.
Every other character belongs to a word, other kinds of white space included.
-/

namespace Stencil

/-- The four characters that separate words. -/
def separatesWords (c : Char) : Bool :=
  c = ' ' || c = '\t' || c = '\r' || c = '\n'

structure Word where
  text : List Char
  span : Span
deriving DecidableEq, Repr

namespace Word

/-- The word that ends at `stop` after the characters of `pending`, last one first; none when no
character is pending. -/
def close (start stop : Nat) (pending : List Char) : List Word :=
  match pending with
  | [] => []
  | _ :: _ => [⟨pending.reverse, ⟨start, stop⟩⟩]

/-- The words of a text that begins at byte `position`, where the characters of `pending`, last
one first, have been read since byte `start` and belong to one word. -/
def splitFrom (start position : Nat) (pending : List Char) : List Char → List Word
  | [] => close start position pending
  | c :: rest =>
    let next := position + c.utf8Size
    if separatesWords c then close start position pending ++ splitFrom next next [] rest
    else splitFrom start next (c :: pending) rest

/-- The words of a text, in order. -/
def split (text : List Char) : List Word :=
  splitFrom 0 0 [] text

end Word

end Stencil
