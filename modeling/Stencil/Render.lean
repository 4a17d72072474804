import Stencil.Scope
import Stencil.Sink

/-!
# Running programs

Statements run in order and deliver chunks to a sink.  The first failure, an unknown name or a
chunk that the sink does not take, ends the run; what was delivered before it stays delivered.

A section without a name, or for a value that does not hold, shows its last clause outside of
that value.  A repeated section shows its main clause for each item and the alternate clause
between two items; for a value without items it shows its last clause, still inside of that
value.
-/

namespace Stencil

/-- The failures of a run; those of the sink have type `ε`. -/
inductive RenderError (ε : Type) where
  /-- No frame holds a value other than null under the name. -/
  | undefinedVariable (name : String)
  /-- The sink did not take a chunk. -/
  | output (cause : ε)
  /-- The stack lacks a frame that an iteration needs. -/
  | missingFrame
deriving DecidableEq, Repr

/-- A run up to some point: the scope, the state of the sink, and the failure that ended it. -/
structure Outcome (σ ε : Type) where
  scope : Scope
  output : σ
  failure : Option (RenderError ε)

namespace Outcome

variable {σ ε : Type}

/-- A run that has not failed. -/
def running (scope : Scope) (output : σ) : Outcome σ ε :=
  ⟨scope, output, none⟩

/-- Goes on with a run unless it has failed. -/
def andThen (outcome : Outcome σ ε) (next : Scope → σ → Outcome σ ε) : Outcome σ ε :=
  match outcome.failure with
  | none => next outcome.scope outcome.output
  | some _ => outcome

/-- Changes the scope of a run, also of one that has failed. -/
def mapScope (change : Scope → Scope) (outcome : Outcome σ ε) : Outcome σ ε :=
  { outcome with scope := change outcome.scope }

end Outcome

section

variable {σ ε : Type} (sink : Sink σ ε)

/-- Offers a chunk to the sink. -/
def deliver (chunk : String) (scope : Scope) (output : σ) : Outcome σ ε :=
  let (output, refused) := sink.accept output chunk
  ⟨scope, output, refused.map .output⟩

def Scope.resolve (scope : Scope) (name : String) : Except (RenderError ε) Value :=
  match Scope.lookup? name scope.frames with
  | some value => .ok value
  | none => .error (.undefinedVariable name)

def Substitution.value (substitution : Substitution) (scope : Scope) :
    Except (RenderError ε) Value :=
  if substitution.isCursor then .ok scope.top else scope.resolve substitution.name

def Substitution.run (substitution : Substitution) (scope : Scope) (output : σ) : Outcome σ ε :=
  match substitution.value scope with
  | .ok value => deliver sink (formatWith substitution.formatters value) scope output
  | .error failure => ⟨scope, output, some failure⟩

/-- Takes the items of the latest iteration one by one, and runs `body` for each and `between`
after each but item number `last`.  `budget` bounds the number of steps. -/
def iterate (body between : Scope → σ → Outcome σ ε) (last : Nat) :
    Nat → Nat → Scope → σ → Outcome σ ε
  | 0, _, scope, output => .running scope output
  | budget + 1, index, scope, output =>
    match scope.next? with
    | none => ⟨scope, output, some .missingFrame⟩
    | some (.done, scope) => .running scope output
    | some (.continued, scope) =>
      ((body scope output).andThen fun scope output =>
          if index = last then .running scope output else between scope output).andThen
        (iterate body between last budget (index + 1))

/-- Iterates over the innermost value, a sequence of `last + 1` items. -/
def iterateTop (body between : Scope → σ → Outcome σ ε) (last : Nat) (scope : Scope)
    (output : σ) : Outcome σ ε :=
  match scope.begin? with
  | none => ⟨scope, output, some .missingFrame⟩
  | some scope => iterate body between last (last + 2) 0 scope output

/-- Runs a repeated section over the innermost value, whose number of items is given. -/
def repeatTop (count : Nat) (body between empty : Scope → σ → Outcome σ ε) (scope : Scope)
    (output : σ) : Outcome σ ε :=
  match count with
  | 0 => empty scope output
  | last + 1 => iterateTop body between last scope output

def runConditional (name : Option String) (body other : Scope → σ → Outcome σ ε) (scope : Scope)
    (output : σ) : Outcome σ ε :=
  match scope.push name with
  | (none, scope) => other scope output
  | (some value, inside) =>
    if value.holds then (body inside output).mapScope .pop else other inside.pop output

/-- Runs a repeated section.  Under the name of the cursor it is about the innermost value as it
stands; under another name about what that value holds; without a name it has no items. -/
def runRepeated (name : Option String) (body between other : Scope → σ → Outcome σ ε)
    (scope : Scope) (output : σ) : Outcome σ ε :=
  if name = some cursorName then
    repeatTop scope.top.items.length body between other scope output
  else
    match scope.push name with
    | (none, scope) => other scope output
    | (some value, inside) =>
      (repeatTop value.items.length body between other inside output).mapScope .pop

mutual

def Statement.run : Statement → Scope → σ → Outcome σ ε
  | .literal text => deliver sink text
  | .substitute substitution => substitution.run sink
  | .conditional ⟨name, main, _, otherwise⟩ =>
    runConditional name (runAll main) (runAll otherwise)
  | .repeated ⟨name, main, alternate, otherwise⟩ =>
    runRepeated name (runAll main) (runAll alternate) (runAll otherwise)

/-- Runs statements in order. -/
def runAll : List Statement → Scope → σ → Outcome σ ε
  | [], scope, output => .running scope output
  | statement :: rest, scope, output => (statement.run scope output).andThen (runAll rest)

end

end

namespace RenderError

variable {ε : Type}

def kind : RenderError ε → String
  | .undefinedVariable _ => "UndefinedVariable"
  | .output _ => "Io"
  | .missingFrame => "Internal"

def message (causeText : ε → String) : RenderError ε → String
  | .undefinedVariable name => name ++ " is not defined"
  | .output cause => "failed to write output: " ++ causeText cause
  | .missingFrame => "a repeated section has lost its sequence"

def describe (causeText : ε → String) (error : RenderError ε) : String :=
  error.kind ++ ": " ++ error.message causeText

end RenderError

end Stencil
