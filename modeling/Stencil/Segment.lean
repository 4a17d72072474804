import Stencil.Text.Ends
import Stencil.Text.Span

/-!
# Segments of a template

A template is cut into literal text and directives.  A directive is the left half of the marker,
a body and the right half, and a line feed right behind it belongs to it.  A body has at least
one character and does not cross a line; of several right halves the first one ends it.  The cut
goes from left to right, and directives do not overlap.

The halves are arbitrary texts: they may be empty, contain line feeds, equal or overlap each
other.  Since a body is never empty, a directive is never empty either, and the cut always moves
forward.
-/

namespace Stencil

/-- The two halves of a marker. -/
structure Delimiters where
  left : List Char
  right : List Char
deriving DecidableEq, Repr

inductive SegmentKind where
  | literal
  | directive
deriving DecidableEq, Repr

structure Segment where
  kind : SegmentKind
  text : List Char
  span : Span
deriving DecidableEq, Repr

/-- The body that the first right half ends, and what follows that half; `seen` are the
characters of the body so far, last one first. -/
def closeBody (right seen : List Char) : List Char → Option (List Char × List Char)
  | [] => none
  | c :: rest =>
    if c = '\n' then none
    else
      match dropFront? right rest with
      | some after => some ((c :: seen).reverse, after)
      | none => closeBody right (c :: seen) rest

/-- A line feed at the front of a text, if there is one, and the rest. -/
def takeNewline : List Char → List Char × List Char
  | '\n' :: rest => (['\n'], rest)
  | rest => ([], rest)

theorem takeNewline_append (text : List Char) :
    (takeNewline text).1 ++ (takeNewline text).2 = text := by
  unfold takeNewline
  split <;> simp

theorem length_closeBody {right seen text body rest : List Char}
    (hfound : closeBody right seen text = some (body, rest)) : rest.length < text.length := by
  induction text generalizing seen with
  | nil => simp [closeBody] at hfound
  | cons c text ih =>
    simp only [closeBody] at hfound
    split at hfound
    next => contradiction
    next =>
      split at hfound
      next after hclosed =>
        obtain ⟨-, rfl⟩ := Prod.mk.inj (Option.some.inj hfound)
        have hlength := congrArg List.length (dropFront?_eq_some_iff.mp hclosed)
        simp only [List.length_append, List.length_cons] at *
        omega
      next =>
        have hshorter := ih hfound
        simp only [List.length_cons]
        omega

namespace Delimiters

/-- The directive at the front of a text and what follows it, when there is one. -/
def directive? (delimiters : Delimiters) (text : List Char) : Option (List Char × List Char) :=
  match dropFront? delimiters.left text with
  | none => none
  | some inner =>
    match closeBody delimiters.right [] inner with
    | none => none
    | some (body, after) =>
      some (delimiters.left ++ body ++ delimiters.right ++ (takeNewline after).1,
        (takeNewline after).2)

theorem length_directive? {delimiters : Delimiters} {text found rest : List Char}
    (hhere : delimiters.directive? text = some (found, rest)) : rest.length < text.length := by
  unfold directive? at hhere
  split at hhere
  next => contradiction
  next inner hopened =>
    split at hhere
    next => contradiction
    next body after hclosed =>
      have hinside := length_closeBody hclosed
      have hfront := congrArg List.length (dropFront?_eq_some_iff.mp hopened)
      have hbehind := congrArg List.length (takeNewline_append after)
      obtain ⟨-, rfl⟩ := Prod.mk.inj (Option.some.inj hhere)
      simp only [List.length_append] at *
      omega

/-- The segments of a text that begins at byte `position`, where the characters of `literal`,
last one first, have been read since byte `start` and belong to no directive. -/
def splitFrom (delimiters : Delimiters) (start position : Nat) (literal text : List Char) :
    List Segment :=
  match hhere : delimiters.directive? text with
  | some (found, rest) =>
    have _hshorter := length_directive? hhere
    let stop := position + byteCount found
    ⟨.literal, literal.reverse, ⟨start, position⟩⟩ ::
      ⟨.directive, found, ⟨position, stop⟩⟩ ::
      splitFrom delimiters stop stop [] rest
  | none =>
    match text with
    | [] => [⟨.literal, literal.reverse, ⟨start, position⟩⟩]
    | c :: rest => splitFrom delimiters start (position + c.utf8Size) (c :: literal) rest
termination_by text.length

/-- The segments of a template: literals and directives by turns, a literal first and last. -/
def split (delimiters : Delimiters) (text : List Char) : List Segment :=
  delimiters.splitFrom 0 0 [] text

end Delimiters

end Stencil
