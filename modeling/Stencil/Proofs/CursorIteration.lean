import Stencil.Render
import Mathlib.Tactic

/-!
# Repeating over a name and over the cursor

There are two ways to repeat over what the innermost value holds under a name.
A repeated section of that name enters the value and leaves it by itself.  A
repeated section of the cursor takes the innermost value as it stands, so that a
plain section around it has to enter and leave.

The two differ in who keeps the stack and in where the number of items is taken
from, and yet one run is the other, step by step: the loop starts in the same
scope, and what it leaves behind when it breaks off is handed to the same pop.
Only values that do not hold tell the two apart, since a plain section leaves
them before it shows its last clause.
-/

namespace Stencil

variable {σ ε : Type}

theorem Outcome.andThen_running (outcome : Outcome σ ε) :
    outcome.andThen .running = outcome := by
  rcases outcome with ⟨scope, output, _ | failure⟩ <;> rfl

theorem runAll_singleton (sink : Sink σ ε) (statement : Statement)
    (scope : Scope) (output : σ) :
    runAll sink [statement] scope output = statement.run sink scope output := by
  have hnothing : runAll sink [] = .running := by
    funext scope output
    rfl
  rw [runAll, hnothing, Outcome.andThen_running]

section

variable (body between other : Scope → σ → Outcome σ ε) {scope inside : Scope}
  {name : String} {value : Value}

/-- Items leave the last clause aside. -/
theorem repeatTop_of_pos {count : ℕ} (hcount : 0 < count)
    (another : Scope → σ → Outcome σ ε) :
    repeatTop count body between other = repeatTop count body between another := by
  obtain ⟨last, rfl⟩ := Nat.exists_eq_add_of_lt hcount
  rw [Nat.zero_add]
  rfl

theorem runRepeated_cursor (scope : Scope) :
    runRepeated (some cursorName) body between other scope =
      repeatTop scope.top.items.length body between other scope := by
  funext output
  simp only [runRepeated, if_true]

theorem runConditional_of_holds (hpush : scope.push (some name) = (some value, inside))
    (hvalue : value.holds = true) (output : σ) :
    runConditional (some name) body other scope output =
      (body inside output).mapScope .pop := by
  simp only [runConditional, hpush, hvalue, if_true]

/-- For a value that holds, repeating over its name is repeating over the cursor
inside of it. -/
theorem runRepeated_eq_runConditional (hname : name ≠ cursorName)
    (hpush : scope.push (some name) = (some value, inside))
    (hvalue : value.holds = true) (outside : Scope → σ → Outcome σ ε) (output : σ) :
    runRepeated (some name) body between other scope output =
      runConditional (some name)
        (runRepeated (some cursorName) body between other) outside scope
        output := by
  have hnamed : some name ≠ some cursorName := by simpa using hname
  have htop : inside.top = value := by
    obtain ⟨hentered, rfl⟩ := Prod.mk.inj hpush
    exact Option.some.inj hentered
  rw [runConditional_of_holds _ _ hpush hvalue, runRepeated_cursor, htop]
  simp only [runRepeated, hnamed, if_false, hpush]

end

/-- Repeating over a sequence by its name and repeating over the cursor in a
plain section of that name are the same run: the same chunks and the same
failure, if there is one, and the same scope behind it. -/
theorem runs_by_name_as_by_cursor (sink : Sink σ ε) (scope : Scope) (output : σ)
    {name : String} (hname : name ≠ cursorName) {items : List Value}
    (hfield : scope.top.get? name = some (.sequence items)) (hitems : items ≠ [])
    (main alternate otherwise within unused : List Statement) :
    Statement.run sink
        (.repeated ⟨some name, main, alternate, otherwise⟩) scope output =
      Statement.run sink
        (.conditional ⟨some name,
          [.repeated ⟨some cursorName, main, alternate, within⟩], unused,
          otherwise⟩) scope output := by
  let inside : Scope :=
    { scope with frames := .sequence items :: scope.frames }
  have hpush : scope.push (some name) = (some (.sequence items), inside) := by
    simp [Scope.push, hfield, inside]
  have hholds : (Value.sequence items).holds = true := by
    simpa [Value.holds] using hitems
  have hcount : 0 < inside.top.items.length := List.length_pos_iff.mpr hitems
  have hcursor :
      runRepeated (some cursorName) (runAll sink main) (runAll sink alternate)
          (runAll sink otherwise) inside output =
        runAll sink [.repeated ⟨some cursorName, main, alternate, within⟩] inside
          output := by
    rw [runAll_singleton, Statement.run, runRepeated_cursor, runRepeated_cursor,
      repeatTop_of_pos _ _ _ hcount]
  rw [Statement.run, Statement.run,
    runRepeated_eq_runConditional _ _ _ hname hpush hholds (runAll sink otherwise),
    runConditional_of_holds _ _ hpush hholds,
    runConditional_of_holds _ _ hpush hholds, hcursor]

/-- Rows that are repeated over themselves, where a name is missing in the
second one. -/
theorem runs_by_name_as_by_cursor_of_rows :
    let rows : List Value :=
      [.sequence [.mapping [("x", .string "a")], .mapping [("x", .string "b")]],
        .sequence [.mapping []]]
    let scope := Scope.ofData (.mapping [("rows", .sequence rows)])
    let main : List Statement :=
      [.repeated ⟨some "@", [.substitute ⟨"x", []⟩], [.literal "+"], []⟩]
    let byName := Statement.run Sink.chunks
      (.repeated ⟨some "rows", main, [.literal ";"], [.literal "none"]⟩) scope #[]
    let byCursor := Statement.run Sink.chunks
      (.conditional ⟨some "rows",
        [.repeated ⟨some "@", main, [.literal ";"], []⟩], [],
        [.literal "none"]⟩) scope #[]
    byName = byCursor ∧ byCursor.output = #["a", "+", "b", ";"] ∧
      byCursor.failure = some (.undefinedVariable "x") := by
  refine ⟨?_, rfl, rfl⟩
  exact runs_by_name_as_by_cursor Sink.chunks _ #[] (by decide) rfl (by simp) _
    [.literal ";"] [.literal "none"] [] []

end Stencil
