import Stencil.Proofs.EnvironmentSimulation
import Mathlib.Tactic

/-!
# Names that a render does not find

A render that fails for want of a name fails at one of the program's
substitutions, and at that point none of the enclosing values holds anything
but null under the name.  The data that the render started from is enclosing
at every point of it, so it does not hold the name either.

What the proof needs of sections and iterations is no more than that they only
add to the enclosing values, which the reading over an environment shows.
-/

namespace Stencil

def Value.Binds (value : Value) (name : String) : Prop :=
  ∃ held, value.get? name = some held ∧ held.isNull = false

mutual

def Statement.substituted : Statement → List String
  | .literal _ => []
  | .substitute substitution => [substitution.name]
  | .conditional ⟨_, main, alternate, otherwise⟩ =>
      substitutedAll main ++ substitutedAll alternate ++ substitutedAll otherwise
  | .repeated ⟨_, main, alternate, otherwise⟩ =>
      substitutedAll main ++ substitutedAll alternate ++ substitutedAll otherwise

def substitutedAll : List Statement → List String
  | [] => []
  | statement :: rest => statement.substituted ++ substitutedAll rest

end

/-- The names of the substitutions in a program, in all clauses of all
blocks. -/
def Block.substituted (program : Program) : List String :=
  substitutedAll program.main ++ substitutedAll program.alternate ++
    substitutedAll program.otherwise

/-- Wherever it breaks off, the rendering lacks one of the names, and no
enclosing value binds that name. -/
def Lacks (rendering : List Value → Rendering) (names : List String) : Prop :=
  ∀ environment name, (rendering environment).undefinedName = some name →
    name ≠ cursorName ∧ name ∈ names ∧
      ∀ value ∈ environment, ¬ value.Binds name

/-! ## Sequences of renderings -/

theorem Rendering.undefinedName_followedBy {first second : Rendering}
    {name : String}
    (hname : (first.followedBy second).undefinedName = some name) :
    first.undefinedName = some name ∨ second.undefinedName = some name := by
  unfold Rendering.followedBy at hname
  split at hname
  next => exact .inr hname
  next => exact .inl hname

theorem Rendering.undefinedName_separated {body between : Value → Rendering}
    {items : List Value} {name : String}
    (hname : (separated body between items).undefinedName = some name) :
    ∃ item, (body item).undefinedName = some name ∨
      (between item).undefinedName = some name := by
  induction items with
  | nil => simp [separated, nothing] at hname
  | cons item rest ih =>
      cases rest with
      | nil => exact ⟨item, .inl hname⟩
      | cons next rest =>
          unfold separated at hname
          rcases undefinedName_followedBy hname with hbody | hname
          · exact ⟨item, .inl hbody⟩
          · rcases undefinedName_followedBy hname with hbetween | hrest
            · exact ⟨item, .inr hbetween⟩
            · exact ih hrest

/-! ## Statements -/

theorem not_binds_of_enclosing?_eq_none {name : String} {environment : List Value}
    (hnone : enclosing? name environment = none) :
    ∀ value ∈ environment, ¬ value.Binds name := by
  intro value hvalue hbinds
  obtain ⟨held, hheld, hnull⟩ := hbinds
  have hskipped := List.findSome?_eq_none_iff.mp hnone value hvalue
  simp [hheld, hnull] at hskipped

theorem Substitution.lacks (substitution : Substitution) :
    Lacks substitution.rendering [substitution.name] := by
  intro environment name hname
  unfold Substitution.rendering at hname
  by_cases hcursor : substitution.name = cursorName
  · simp [hcursor, Rendering.chunk] at hname
  · simp only [hcursor, if_false] at hname
    cases hfound : enclosing? substitution.name environment with
    | some value => simp [hfound, Rendering.chunk] at hname
    | none =>
        obtain rfl : substitution.name = name := by
          simpa [hfound, Rendering.undefined] using hname
        exact ⟨hcursor, by simp, not_binds_of_enclosing?_eq_none hfound⟩

theorem Lacks.mono {rendering : List Value → Rendering} {names more : List String}
    (hlacks : Lacks rendering names) (hsubset : names ⊆ more) :
    Lacks rendering more := by
  intro environment name hname
  obtain ⟨hcursor, hmem, hbinds⟩ := hlacks environment name hname
  exact ⟨hcursor, hsubset hmem, hbinds⟩

section

variable {main alternate otherwise : List Value → Rendering} {names : List String}

/-- What a clause lacks inside of a further value is lacking outside of it. -/
theorem Lacks.inside (hmain : Lacks main names) {value : Value}
    {environment : List Value} {name : String}
    (hname : (main (value :: environment)).undefinedName = some name) :
    name ≠ cursorName ∧ name ∈ names ∧
      ∀ value ∈ environment, ¬ value.Binds name := by
  obtain ⟨hcursor, hmem, hbinds⟩ := hmain (value :: environment) name hname
  refine ⟨hcursor, hmem, ?_⟩
  intro outer houter
  exact hbinds outer (List.mem_cons_of_mem value houter)

theorem conditionalRendering_lacks (hmain : Lacks main names)
    (hotherwise : Lacks otherwise names) (name : Option String) :
    Lacks (conditionalRendering name main otherwise) names := by
  intro environment missing hmissing
  unfold conditionalRendering at hmissing
  cases name with
  | none => exact hotherwise environment missing hmissing
  | some name =>
      by_cases hholds : (innerField name environment).holds
      · simp only [hholds, if_true] at hmissing
        exact hmain.inside hmissing
      · simp only [hholds, Bool.false_eq_true, if_false] at hmissing
        exact hotherwise environment missing hmissing

theorem itemsRendering_lacks (hmain : Lacks main names)
    (halternate : Lacks alternate names) (hotherwise : Lacks otherwise names) :
    Lacks (itemsRendering main alternate otherwise) names := by
  intro environment missing hmissing
  unfold itemsRendering at hmissing
  split at hmissing
  next => exact hotherwise environment missing hmissing
  next =>
    obtain ⟨item, hmissing | hmissing⟩ :=
      Rendering.undefinedName_separated hmissing
    · exact hmain.inside hmissing
    · exact halternate.inside hmissing

theorem repeatedRendering_lacks (hmain : Lacks main names)
    (halternate : Lacks alternate names) (hotherwise : Lacks otherwise names)
    (name : Option String) :
    Lacks (repeatedRendering name main alternate otherwise) names := by
  have hitems := itemsRendering_lacks hmain halternate hotherwise
  intro environment missing hmissing
  unfold repeatedRendering at hmissing
  cases name with
  | none => exact hotherwise environment missing hmissing
  | some name =>
      by_cases hcursor : name = cursorName
      · simp only [hcursor, if_true] at hmissing
        exact hitems environment missing hmissing
      · simp only [hcursor, if_false] at hmissing
        exact hitems.inside hmissing

end

mutual

theorem Statement.lacks (statement : Statement) :
    Lacks statement.rendering statement.substituted := by
  match statement with
  | .literal text =>
      intro environment name hname
      simp [Statement.rendering, Rendering.chunk] at hname
  | .substitute substitution => exact substitution.lacks
  | .conditional ⟨name, main, alternate, otherwise⟩ =>
      apply conditionalRendering_lacks
      · exact (renderingAll_lacks main).mono (by simp [Statement.substituted])
      · exact (renderingAll_lacks otherwise).mono (by simp [Statement.substituted])
  | .repeated ⟨name, main, alternate, otherwise⟩ =>
      apply repeatedRendering_lacks
      · exact (renderingAll_lacks main).mono (by simp [Statement.substituted])
      · exact (renderingAll_lacks alternate).mono (by simp [Statement.substituted])
      · exact (renderingAll_lacks otherwise).mono (by simp [Statement.substituted])

theorem renderingAll_lacks (statements : List Statement) :
    Lacks (renderingAll statements) (substitutedAll statements) := by
  match statements with
  | [] =>
      intro environment name hname
      simp [renderingAll, Rendering.nothing] at hname
  | statement :: rest =>
      intro environment name hname
      unfold renderingAll at hname
      rcases Rendering.undefinedName_followedBy hname with hfirst | hrest
      · have hstatement := statement.lacks.mono
          (List.subset_append_left statement.substituted (substitutedAll rest))
        exact hstatement environment name hfirst
      · have hlater := (renderingAll_lacks rest).mono
          (List.subset_append_right statement.substituted (substitutedAll rest))
        exact hlater environment name hrest

end

/-! ## Renders -/

variable {σ ε : Type}

theorem Rendering.failure_cases {rendering : Rendering} {refused : Option ε}
    {failure : RenderError ε} (hfailure : rendering.failure refused = some failure) :
    (∃ cause, failure = .output cause) ∨
      ∃ name, failure = .undefinedVariable name ∧
        rendering.undefinedName = some name := by
  unfold Rendering.failure at hfailure
  cases refused with
  | some cause =>
      left
      exact ⟨cause, (Option.some.inj hfailure).symm⟩
  | none =>
      right
      obtain ⟨name, hname, hundefined⟩ := Option.map_eq_some_iff.mp hfailure
      exact ⟨name, hundefined.symm, hname⟩

theorem Block.rendering_undefinedName {program : Program} {data : Value}
    {name : String}
    (hname : (program.rendering data).undefinedName = some name) :
    name ≠ cursorName ∧ name ∈ program.substituted ∧ ¬ data.Binds name := by
  have hmain : Lacks (renderingAll program.main) program.substituted :=
    (renderingAll_lacks program.main).mono (by simp [Block.substituted])
  obtain ⟨hcursor, hmem, hbinds⟩ := hmain [data] name hname
  exact ⟨hcursor, hmem, hbinds data (by simp)⟩

/-- A name that a render does not find belongs to a substitution of the
program, and the data does not bind it.  Data that binds the names of all
substitutions leaves no failure but those of the sink. -/
theorem Template.undefinedVariable_not_bound (sink : Sink σ ε)
    (template : Template) (data : Value) (output : σ) :
    (∀ name, (template.render sink data output).failure =
        some (.undefinedVariable name) →
      name ≠ cursorName ∧ name ∈ template.program.substituted ∧
        ¬ data.Binds name) ∧
    ((∀ name ∈ template.program.substituted, name ≠ cursorName →
        data.Binds name) →
      ∀ failure, (template.render sink data output).failure = some failure →
        ∃ cause, failure = .output cause) := by
  have hfailure := (template.render_follows sink data output).failure_eq
  constructor
  · intro name hundefined
    rw [hfailure] at hundefined
    rcases Rendering.failure_cases hundefined with
      ⟨cause, hcause⟩ | ⟨other, hother, hname⟩
    · contradiction
    · obtain rfl := RenderError.undefinedVariable.inj hother
      exact Block.rendering_undefinedName hname
  · intro hbound failure hfails
    rw [hfailure] at hfails
    rcases Rendering.failure_cases hfails with hcause | ⟨name, -, hname⟩
    · exact hcause
    · obtain ⟨hcursor, hmem, hbinds⟩ := Block.rendering_undefinedName hname
      exact absurd (hbound name hmem hcursor) hbinds

/-- The second item lacks the name, and so does the sequence; with the name
bound around the items only the sink can fail, here for want of room. -/
theorem Template.render_items_with_and_without_name :
    let template (name : String) : Template :=
      ⟨⟨none, [.repeated ⟨some name, [.substitute ⟨"x", []⟩], [], []⟩], [], []⟩⟩
    let items : Value := .sequence [.mapping [("x", .string "a")], .mapping []]
    let data : Value := .mapping [("items", items), ("x", .string "b")]
    let narrow := Sink.writer (BoundedBytes.write "full")
    ((template "@").render Sink.string items "").failure =
        some (.undefinedVariable "x") ∧
      ¬ items.Binds "x" ∧
      ((template "items").render narrow data (.empty (some 1))).failure =
        some (.output "full") ∧
      ∃ cause, RenderError.output "full" = .output cause := by
  intro template items data narrow
  have hundefined : ((template "@").render Sink.string items "").failure =
      some (.undefinedVariable "x") := by decide
  have hfull : ((template "items").render narrow data (.empty (some 1))).failure =
      some (.output "full") := by decide
  have hbound : ∀ name ∈ (template "items").program.substituted,
      name ≠ cursorName → data.Binds name := by
    intro name hname _
    obtain rfl : name = "x" := List.mem_singleton.mp hname
    exact ⟨.string "b", rfl, rfl⟩
  have hlacking :=
    ((template "@").undefinedVariable_not_bound Sink.string items "").1 "x" hundefined
  have hcause :=
    ((template "items").undefinedVariable_not_bound narrow data (.empty (some 1))).2
      hbound (.output "full") hfull
  exact ⟨hundefined, hlacking.2.2, hfull, hcause⟩

end Stencil
