import Stencil.Proofs.EnvironmentSimulation
import Mathlib.Tactic

/-!
# Where the last clause of a section runs

A section for a value that has nothing to show runs its last clause.  A plain
section leaves the value first, so that the clause runs in the surrounding
scope.  A repeated section leaves it only afterwards, and the clause runs
inside of null or of the empty sequence.

Names are looked up past such a value.  The difference shows where a statement
takes the innermost value itself: in substitutions of the cursor and in
sections with a name.
-/

namespace Stencil

variable {σ ε : Type}

mutual

/-- The statement takes the innermost value as it is, instead of only looking
names up. -/
def Statement.TakesInnermost : Statement → Prop
  | .literal _ => False
  | .substitute substitution => substitution.name = cursorName
  | .conditional ⟨name, _, _, otherwise⟩ =>
      name ≠ none ∨ SomeTakesInnermost otherwise
  | .repeated ⟨name, _, _, otherwise⟩ =>
      name ≠ none ∨ SomeTakesInnermost otherwise

def SomeTakesInnermost : List Statement → Prop
  | [] => False
  | statement :: rest => statement.TakesInnermost ∨ SomeTakesInnermost rest

end

/-- Nothing can be looked up in the value. -/
def Value.HasNoNames (value : Value) : Prop :=
  value.entries? = none

/-! ## Values without names -/

theorem enclosing?_cons_of_hasNoNames {value : Value} (hvalue : value.HasNoNames)
    (name : String) (environment : List Value) :
    enclosing? name (value :: environment) = enclosing? name environment := by
  have hfield : value.get? name = none := by
    rw [Value.get?, hvalue, Option.bind_none]
  simp only [enclosing?, List.findSome?_cons, hfield, Option.filter_none]

theorem Substitution.rendering_inside {substitution : Substitution}
    (hname : substitution.name ≠ cursorName) {value : Value}
    (hvalue : value.HasNoNames) (environment : List Value) :
    substitution.rendering (value :: environment) =
      substitution.rendering environment := by
  simp only [rendering, hname, if_false, enclosing?_cons_of_hasNoNames hvalue]

mutual

theorem Statement.rendering_inside (statement : Statement)
    (hoff : ¬ statement.TakesInnermost) {value : Value}
    (hvalue : value.HasNoNames) (environment : List Value) :
    statement.rendering (value :: environment) =
      statement.rendering environment := by
  match statement with
  | .literal text => rfl
  | .substitute substitution =>
      exact Substitution.rendering_inside hoff hvalue environment
  | .conditional ⟨name, main, alternate, otherwise⟩
  | .repeated ⟨name, main, alternate, otherwise⟩ =>
      obtain ⟨hname, hotherwise⟩ := not_or.mp hoff
      obtain rfl := not_not.mp hname
      exact renderingAll_inside otherwise hotherwise hvalue environment

theorem renderingAll_inside (statements : List Statement)
    (hoff : ¬ SomeTakesInnermost statements) {value : Value}
    (hvalue : value.HasNoNames) (environment : List Value) :
    renderingAll statements (value :: environment) =
      renderingAll statements environment := by
  match statements with
  | [] => rfl
  | statement :: rest =>
      obtain ⟨hstatement, hrest⟩ := not_or.mp hoff
      rw [renderingAll, renderingAll,
        statement.rendering_inside hstatement hvalue,
        renderingAll_inside rest hrest hvalue]

end

/-! ## Sections with nothing to show -/

theorem Outcome.Follows.eq_of_rendering_eq {sink : Sink σ ε} {scope other : Scope}
    {output : σ} {rendering : Rendering} {outcome second : Outcome σ ε}
    (hfirst : outcome.Follows sink scope output rendering)
    (hsecond : second.Follows sink other output rendering) :
    outcome.output = second.output ∧ outcome.failure = second.failure :=
  ⟨hfirst.output_eq.trans hsecond.output_eq.symm,
    hfirst.failure_eq.trans hsecond.failure_eq.symm⟩

theorem runConditional_of_not_holds {scope inside : Scope} {name : Option String}
    {value : Value} (hpush : scope.push name = (some value, inside))
    (hvalue : value.holds = false) (body other : Scope → σ → Outcome σ ε)
    (output : σ) :
    runConditional name body other scope output = other inside.pop output := by
  simp only [runConditional, hpush, hvalue, Bool.false_eq_true, if_false]

theorem runRepeated_of_no_items {scope inside : Scope} {name : String}
    (hname : name ≠ cursorName) {value : Value}
    (hpush : scope.push (some name) = (some value, inside))
    (hvalue : value.items = []) (body between other : Scope → σ → Outcome σ ε)
    (output : σ) :
    runRepeated (some name) body between other scope output =
      (other inside output).mapScope .pop := by
  have hnamed : some name ≠ some cursorName := by simpa using hname
  simp only [runRepeated, hnamed, if_false, hpush, hvalue, List.length_nil,
    repeatTop]

/-- Where the innermost value holds nothing, null or an empty sequence under a
name, a plain section of that name runs its last clause in the surrounding
scope.  A repeated one runs it inside of that value, which makes no difference
to clauses that only look names up. -/
theorem runs_otherwise_clause (sink : Sink σ ε) (scope : Scope) (output : σ)
    {name : String}
    (hempty : ∀ held, scope.top.get? name = some held →
      held = .null ∨ held = .sequence [])
    (main alternate otherwise : List Statement) :
    let surrounding := runAll sink otherwise scope output
    let plain := Statement.run sink
      (.conditional ⟨some name, main, alternate, otherwise⟩) scope output
    let repeated := Statement.run sink
      (.repeated ⟨some name, main, alternate, otherwise⟩) scope output
    plain = surrounding ∧
      (name ≠ cursorName →
        repeated =
            (runAll sink otherwise (scope.push (some name)).2 output).mapScope
              .pop ∧
          (¬ SomeTakesInnermost otherwise →
            repeated.output = surrounding.output ∧
              repeated.failure = surrounding.failure)) := by
  intro surrounding plain repeated
  let value := (scope.top.get? name).getD .null
  have hvalue : value = .null ∨ value = .sequence [] := by
    cases hfield : scope.top.get? name with
    | none => exact .inl (by simp [value, hfield])
    | some held => simpa [value, hfield] using hempty held hfield
  obtain ⟨hholds, hitems, hnames⟩ :
      value.holds = false ∧ value.items = [] ∧ value.HasNoNames := by
    rcases hvalue with hnull | hnone
    · rw [hnull]
      exact ⟨rfl, rfl, rfl⟩
    · rw [hnone]
      exact ⟨rfl, rfl, rfl⟩
  have hpush : scope.push (some name) =
      (some value, { scope with frames := value :: scope.frames }) := rfl
  refine ⟨runConditional_of_not_holds hpush hholds _ _ output, fun hname => ?_⟩
  have hinside : repeated =
      (runAll sink otherwise (scope.push (some name)).2 output).mapScope .pop :=
    runRepeated_of_no_items hname hpush hitems _ _ _ output
  refine ⟨hinside, fun hoff => ?_⟩
  have hfollows : surrounding.Follows sink scope output _ :=
    runAll_realizes otherwise scope output
  have hbelow : (runAll sink otherwise (scope.push (some name)).2 output).Follows
      sink _ output (renderingAll otherwise (value :: scope.frames)) :=
    runAll_realizes otherwise (scope.push (some name)).2 output
  rw [renderingAll_inside otherwise hoff hnames] at hbelow
  rw [hinside]
  exact hbelow.eq_of_rendering_eq hfollows

theorem runs_otherwise_clause_of_names :
    let data : Value := .mapping
      [("items", .sequence []), ("owner", .string "Ann")]
    let outcome := Statement.run Sink.chunks
      (.repeated ⟨some "items", [.substitute ⟨"@", []⟩], [],
        [.substitute ⟨"owner", []⟩,
          .conditional ⟨none, [], [], [.literal " has none"]⟩]⟩)
      (.ofData data) #[]
    outcome.output = #["Ann", " has none"] ∧ outcome.failure = none := by
  intro data outcome
  let otherwise : List Statement := [.substitute ⟨"owner", []⟩,
    .conditional ⟨none, [], [], [.literal " has none"]⟩]
  have hempty : ∀ held, (Scope.ofData data).top.get? "items" = some held →
      held = .null ∨ held = .sequence [] := by
    intro held hheld
    exact .inr (Option.some.inj hheld).symm
  have hoff : ¬ SomeTakesInnermost otherwise := by
    simp [otherwise, SomeTakesInnermost, Statement.TakesInnermost, cursorName]
  have hsame := ((runs_otherwise_clause Sink.chunks (.ofData data) #[] hempty
    [.substitute ⟨"@", []⟩] [] otherwise).2 (by decide)).2 hoff
  exact hsame

/-- A section in the last clause finds its value behind a plain section, but
not behind a repeated one. -/
theorem repeated_runs_otherwise_inside :
    let owner : Value := .mapping [("name", .string "Ann")]
    let data : Value := .mapping [("items", .sequence []), ("owner", owner)]
    let otherwise : List Statement :=
      [.conditional ⟨some "owner", [.substitute ⟨"name", []⟩], [], []⟩]
    let run := fun statement =>
      Statement.run Sink.chunks statement (.ofData data) #[]
    (runAll Sink.chunks otherwise (.ofData data) #[]).output = #["Ann"] ∧
      (run (.conditional ⟨some "items", [], [], otherwise⟩)).output = #["Ann"] ∧
      (run (.repeated ⟨some "items", [], [], otherwise⟩)).output = #[] :=
  ⟨rfl, rfl, rfl⟩

end Stencil
