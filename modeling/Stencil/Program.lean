import Stencil.Formatter

/-!
# Programs

A compiled template is a tree of statements.  A section is a block with up to three clauses: the
main one, one that stands between repetitions, and one for what does not hold.  While a block is
being put together, statements go to its active clause; switching to a clause empties it.
-/

namespace Stencil

def cursorName : String := "@"

inductive Clause where
  | main
  | alternate
  | otherwise
deriving DecidableEq, Repr

/-- The clauses in the order in which a block lists them. -/
def Clause.all : List Clause := [.main, .alternate, .otherwise]

structure Substitution where
  name : String
  formatters : List NamedFormatter

def Substitution.isCursor (substitution : Substitution) : Bool :=
  substitution.name = cursorName

/-- A block: the name it is for, and three clauses of elements of type `α`. -/
structure Block (α : Type) where
  name : Option String
  main : List α
  alternate : List α
  otherwise : List α

inductive Statement where
  | literal (text : String)
  | substitute (substitution : Substitution)
  /-- A block that is shown once, for a value that holds. -/
  | conditional (block : Block Statement)
  /-- A block that is shown for each item of a sequence. -/
  | repeated (block : Block Statement)

instance : Inhabited Statement := ⟨.literal ""⟩

/-- A program is a block; only its main clause is run. -/
abbrev Program := Block Statement

namespace Block

variable {α : Type}

/-- A block without elements. -/
def empty (name : Option String) : Block α :=
  ⟨name, [], [], []⟩

def clause (block : Block α) : Clause → List α
  | .main => block.main
  | .alternate => block.alternate
  | .otherwise => block.otherwise

def withClause (block : Block α) (elements : List α) : Clause → Block α
  | .main => { block with main := elements }
  | .alternate => { block with alternate := elements }
  | .otherwise => { block with otherwise := elements }

/-- The block with the elements of every clause in reverse order. -/
def reverse (block : Block α) : Block α :=
  ⟨block.name, block.main.reverse, block.alternate.reverse, block.otherwise.reverse⟩

end Block

/-- A block that is being put together.  Its clauses hold the newest element first. -/
structure Draft (α : Type) where
  recent : Block α
  active : Clause

namespace Draft

variable {α : Type}

/-- A draft without elements; its main clause is active. -/
def empty (name : Option String) : Draft α :=
  ⟨Block.empty name, .main⟩

def append (element : α) (draft : Draft α) : Draft α :=
  { draft with
    recent := draft.recent.withClause (element :: draft.recent.clause draft.active) draft.active }

/-- Makes a clause the active one and empties it. -/
def switch (clause : Clause) (draft : Draft α) : Draft α :=
  ⟨draft.recent.withClause [] clause, clause⟩

def block (draft : Draft α) : Block α :=
  draft.recent.reverse

end Draft

end Stencil
