import Stencil.Program
import Mathlib.Tactic

/-!
# The statements of a program

All statements of a program in one list, those of every clause at every depth,
a section before what is nested in it.
-/

namespace Stencil

mutual

/-- A statement and those nested in it. -/
def Statement.within : Statement → List Statement
  | .literal text => [.literal text]
  | .substitute substitution => [.substitute substitution]
  | .conditional ⟨name, main, alternate, otherwise⟩ =>
      .conditional ⟨name, main, alternate, otherwise⟩ ::
        (withinAll main ++ withinAll alternate ++ withinAll otherwise)
  | .repeated ⟨name, main, alternate, otherwise⟩ =>
      .repeated ⟨name, main, alternate, otherwise⟩ ::
        (withinAll main ++ withinAll alternate ++ withinAll otherwise)

def withinAll : List Statement → List Statement
  | [] => []
  | statement :: rest => statement.within ++ withinAll rest

end

def Block.statements (block : Block Statement) : List Statement :=
  withinAll block.main ++ withinAll block.alternate ++ withinAll block.otherwise

/-- The name that a statement itself mentions. -/
def Statement.ownName? : Statement → Option String
  | .literal _ => none
  | .substitute substitution => some substitution.name
  | .conditional block => block.name
  | .repeated block => block.name

/-- The names that a program mentions anywhere. -/
def Block.mentioned (program : Program) : List String :=
  program.name.toList ++ program.statements.filterMap Statement.ownName?

theorem Statement.within_conditional (block : Block Statement) :
    (conditional block).within = .conditional block :: block.statements := by
  cases block
  rw [within, Block.statements]

theorem Statement.within_repeated (block : Block Statement) :
    (repeated block).within = .repeated block :: block.statements := by
  cases block
  rw [within, Block.statements]

theorem mem_withinAll_iff {inner : Statement} {statements : List Statement} :
    inner ∈ withinAll statements ↔
      ∃ statement ∈ statements, inner ∈ statement.within := by
  induction statements with
  | nil => simp [withinAll]
  | cons statement rest ih => simp [withinAll, ih]

theorem Block.mem_statements_iff {inner : Statement} {block : Block Statement} :
    inner ∈ block.statements ↔
      ∃ clause, ∃ statement ∈ block.clause clause, inner ∈ statement.within := by
  simp only [Block.statements, List.mem_append, mem_withinAll_iff]
  constructor
  · rintro ((hmain | halternate) | hotherwise)
    · exact ⟨.main, hmain⟩
    · exact ⟨.alternate, halternate⟩
    · exact ⟨.otherwise, hotherwise⟩
  · rintro ⟨_ | _ | _, hclause⟩
    · exact .inl (.inl hclause)
    · exact .inl (.inr hclause)
    · exact .inr hclause

end Stencil
