import Stencil.Program

/-!
# Scopes

While a program runs, the values it is inside of form a stack of frames.  A section puts the
value it is for on top; names are looked up from the top downward.  An iteration puts a frame on
top that holds one item after the other, and a cursor remembers where the sequence lies and how
many items have been taken.

A cursor names its sequence by the place in the stack that was on top when the iteration began.
Whatever frame is on top when the next item is taken receives it.
-/

namespace Stencil

/-- An iteration in progress: the place of its sequence, counted from the bottom of the stack, and
the number of items taken. -/
structure Cursor where
  place : Nat
  taken : Nat
deriving DecidableEq, Repr

/-- The values that a program is inside of, innermost first, and the iterations in progress, the
latest first. -/
structure Scope where
  frames : List Value
  cursors : List Cursor

inductive Step where
  | continued
  | done
deriving DecidableEq, Repr

namespace Scope

def ofData (data : Value) : Scope := ⟨[data], []⟩

/-- The innermost value; null when there is none. -/
def top (scope : Scope) : Value :=
  scope.frames.headD .null

/-- The frame at a place counted from the bottom. -/
def frameAt? (scope : Scope) (place : Nat) : Option Value :=
  if place < scope.frames.length then scope.frames[scope.frames.length - 1 - place]? else none

/-- Enters what the innermost value holds under a name, null if it holds nothing.  Without a name
nothing is entered. -/
def push (scope : Scope) : Option String → Option Value × Scope
  | none => (none, scope)
  | some name =>
    let value := (scope.top.get? name).getD .null
    (some value, { scope with frames := value :: scope.frames })

def pop (scope : Scope) : Scope :=
  { scope with frames := scope.frames.tail }

/-- Begins an iteration over the innermost value, with a frame for its items; impossible when
there is no such value. -/
def begin? (scope : Scope) : Option Scope :=
  match scope.frames with
  | [] => none
  | _ :: below =>
    some ⟨.null :: scope.frames, ⟨below.length, 0⟩ :: scope.cursors⟩

/-- Takes the next item of the latest iteration into the frame on top.  At the end of the
sequence the iteration and the frame on top are given up.  Without an iteration nothing is left
to take.  Impossible when the place of the sequence is no longer in the stack. -/
def next? (scope : Scope) : Option (Step × Scope) :=
  match scope.cursors with
  | [] => some (.done, scope)
  | cursor :: cursors =>
    match scope.frameAt? cursor.place with
    | none => none
    | some sequence =>
      match sequence.items[cursor.taken]? with
      | none => some (.done, ⟨scope.frames.tail, cursors⟩)
      | some item =>
        let frames := match scope.frames with
          | [] => []
          | _ :: below => item :: below
        some (.continued, ⟨frames, ⟨cursor.place, cursor.taken + 1⟩ :: cursors⟩)

/-- What the frames hold under a name: the first value other than null, from the innermost frame
outward. -/
def lookup? (name : String) : List Value → Option Value
  | [] => none
  | frame :: below =>
    match frame.get? name with
    | none | some .null => lookup? name below
    | some value => some value

end Scope

end Stencil
