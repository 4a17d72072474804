import Stencil.Render
import Mathlib.Tactic

/-!
# Meaning of a program without a stack

A program is read here against an immutable list of enclosing values, the
innermost one first.  Sections hand a longer list to their clauses and the
items of a repeated section are listed before it starts, so there is nothing
to push, to overwrite or to restore, and no cursor.

The meaning of a statement is its rendering: the chunks in order, and the
name that was not defined when the rendering broke off.
-/

namespace Stencil

/-- The chunks that are delivered, and the name at which that ends early. -/
structure Rendering where
  chunks : List String
  undefinedName : Option String
deriving DecidableEq, Repr

namespace Rendering

def nothing : Rendering := ⟨[], none⟩

def chunk (text : String) : Rendering := ⟨[text], none⟩

def undefined (name : String) : Rendering := ⟨[], some name⟩

def followedBy (first second : Rendering) : Rendering :=
  match first.undefinedName with
  | none => ⟨first.chunks ++ second.chunks, second.undefinedName⟩
  | some _ => first

@[simp] theorem followedBy_nothing (rendering : Rendering) :
    rendering.followedBy nothing = rendering := by
  cases rendering with
  | mk chunks undefinedName =>
      cases undefinedName <;> simp [followedBy, nothing]

theorem followedBy_assoc (first second third : Rendering) :
    (first.followedBy second).followedBy third =
      first.followedBy (second.followedBy third) := by
  rcases first with ⟨firstChunks, _ | name⟩
  · rcases second with ⟨secondChunks, _ | name⟩ <;> simp [followedBy]
  · rfl

def separated (body between : Value → Rendering) : List Value → Rendering
  | [] => nothing
  | [item] => body item
  | item :: next :: rest =>
      (body item).followedBy
        ((between item).followedBy (separated body between (next :: rest)))

end Rendering

/-- The value under a name in the first enclosing mapping that holds one
other than null. -/
def enclosing? (name : String) (environment : List Value) : Option Value :=
  environment.findSome? fun value =>
    (value.get? name).filter fun held => !held.isNull

/-- What the innermost value holds under a name, null if it holds nothing. -/
def innerField (name : String) (environment : List Value) : Value :=
  ((environment.headD .null).get? name).getD .null

/-- The text that is left when every formatter has been applied to the text
of the one before it. -/
def chainText (formatters : List NamedFormatter) (value : Value) : String :=
  (formatters.foldl
    (fun held formatter => .string (formatter.apply held)) value).text

def Substitution.rendering (substitution : Substitution)
    (environment : List Value) : Rendering :=
  let value? :=
    if substitution.name = cursorName then some (environment.headD .null)
    else enclosing? substitution.name environment
  match value? with
  | some value => .chunk (chainText substitution.formatters value)
  | none => .undefined substitution.name

/-- The main clause inside of the named value if that holds; the last clause
outside of it otherwise, and also without a name. -/
def conditionalRendering (name : Option String)
    (main otherwise : List Value → Rendering) (environment : List Value) :
    Rendering :=
  match name with
  | none => otherwise environment
  | some name =>
      let value := innerField name environment
      if value.holds then main (value :: environment) else otherwise environment

/-- The main clause inside of each item of the innermost value, with the
alternate clause between two of them; the last clause where there is none. -/
def itemsRendering (main alternate otherwise : List Value → Rendering)
    (environment : List Value) : Rendering :=
  match (environment.headD .null).items with
  | [] => otherwise environment
  | item :: rest =>
      .separated (fun item => main (item :: environment))
        (fun item => alternate (item :: environment)) (item :: rest)

/-- The items of the innermost value under the name of the cursor, those of
the named value inside of it under another name.  Without a name there is
only the last clause. -/
def repeatedRendering (name : Option String)
    (main alternate otherwise : List Value → Rendering)
    (environment : List Value) : Rendering :=
  match name with
  | none => otherwise environment
  | some name =>
      itemsRendering main alternate otherwise
        (if name = cursorName then environment
        else innerField name environment :: environment)

mutual

def Statement.rendering : Statement → List Value → Rendering
  | .literal text => fun _ => .chunk text
  | .substitute substitution => substitution.rendering
  | .conditional ⟨name, main, _, otherwise⟩ =>
      conditionalRendering name (renderingAll main) (renderingAll otherwise)
  | .repeated ⟨name, main, alternate, otherwise⟩ =>
      repeatedRendering name (renderingAll main) (renderingAll alternate)
        (renderingAll otherwise)

def renderingAll : List Statement → List Value → Rendering
  | [], _ => .nothing
  | statement :: rest, environment =>
      (statement.rendering environment).followedBy (renderingAll rest environment)

end

def Block.rendering (program : Program) (data : Value) : Rendering :=
  renderingAll program.main [data]

end Stencil
