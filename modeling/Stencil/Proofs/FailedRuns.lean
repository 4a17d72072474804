import Stencil.Proofs.EnvironmentSimulation
import Mathlib.Tactic

/-!
# Scopes behind failed runs

A run that fails inside of an iteration breaks off the loop where it stands:
the cursor of the iteration stays, and with it one frame.  Sections around the
failing statement are left all the same, each taking off the frame on top, so
that what remains above the frames of the start is one frame and one cursor for
each iteration that was broken off.

Hence a failed run gives the scope back if it fails outside of iterations, and
never if it fails inside of one.
-/

namespace Stencil

variable {σ ε : Type} {sink : Sink σ ε}

/-- The scope that is reached has `count` further frames and as many further
cursors. -/
def Scope.LeftOpen (scope : Scope) (count : ℕ) (reached : Scope) : Prop :=
  ∃ frames cursors, frames.length = count ∧ cursors.length = count ∧
    reached = ⟨frames ++ scope.frames, cursors ++ scope.cursors⟩

/-- If a run from `scope` has failed, it has left open a number of iterations
between the two bounds. -/
def Outcome.LeavesOpen (scope : Scope) (least most : ℕ)
    (outcome : Outcome σ ε) : Prop :=
  outcome.failure ≠ none →
    ∃ count, least ≤ count ∧ count ≤ most ∧ scope.LeftOpen count outcome.scope

mutual

/-- How many iterations can be in progress at once while a statement runs. -/
def Statement.iterations : Statement → ℕ
  | .literal _ => 0
  | .substitute _ => 0
  | .conditional ⟨_, main, _, otherwise⟩ =>
      max (iterationsAll main) (iterationsAll otherwise)
  | .repeated ⟨_, main, alternate, otherwise⟩ =>
      max (max (iterationsAll main) (iterationsAll alternate) + 1)
        (iterationsAll otherwise)

def iterationsAll : List Statement → ℕ
  | [] => 0
  | statement :: rest => max statement.iterations (iterationsAll rest)

end

/-! ## Frames left over -/

theorem Scope.leftOpen_zero_iff {scope reached : Scope} :
    scope.LeftOpen 0 reached ↔ reached = scope := by
  constructor
  · rintro ⟨frames, cursors, hframes, hcursors, rfl⟩
    rw [List.length_eq_zero_iff] at hframes hcursors
    rw [hframes, hcursors]
    rfl
  · rintro rfl
    exact ⟨[], [], rfl, rfl, rfl⟩

theorem Scope.LeftOpen.ne {scope reached : Scope} {count : ℕ}
    (hopen : scope.LeftOpen count reached) (hcount : 1 ≤ count) :
    reached ≠ scope := by
  obtain ⟨frames, cursors, hframes, -, rfl⟩ := hopen
  intro hsame
  have hlength := congrArg (fun scope => scope.frames.length) hsame
  simp only [List.length_append] at hlength
  omega

/-- Leaving a section takes off the section's own frame, or a frame that was
left over in its place. -/
theorem Scope.LeftOpen.pop {scope reached : Scope} {value : Value} {count : ℕ}
    (hopen :
      Scope.LeftOpen { scope with frames := value :: scope.frames } count reached) :
    scope.LeftOpen count reached.pop := by
  obtain ⟨frames, cursors, hframes, hcursors, rfl⟩ := hopen
  cases frames with
  | nil => exact ⟨[], cursors, hframes, hcursors, rfl⟩
  | cons top frames =>
      refine ⟨frames ++ [value], cursors, ?_, hcursors, ?_⟩
      · simpa using hframes
      · simp [Scope.pop]

theorem Scope.LeftOpen.ofItem {sequence item : Value} {below : List Value}
    {cursors : List Cursor} {taken count : ℕ} {reached : Scope}
    (hopen : (Scope.atItem sequence below cursors item taken).LeftOpen count reached) :
    Scope.LeftOpen ⟨sequence :: below, cursors⟩ (count + 1) reached := by
  obtain ⟨frames, further, hframes, hcursors, rfl⟩ := hopen
  refine ⟨frames ++ [item], further ++ [⟨below.length, taken⟩], ?_, ?_, ?_⟩
  · simp [hframes]
  · simp [hcursors]
  · simp [Scope.atItem]

/-! ## Sequences of runs -/

namespace Outcome

variable {scope : Scope} {least most : ℕ}

theorem LeavesOpen.of_running {outcome : Outcome σ ε}
    (hrunning : outcome.failure = none) : outcome.LeavesOpen scope least most :=
  fun hfailed => absurd hrunning hfailed

theorem LeavesOpen.mono {outcome : Outcome σ ε} {fewer more : ℕ}
    (hopen : outcome.LeavesOpen scope least most) (hleast : fewer ≤ least)
    (hmost : most ≤ more) : outcome.LeavesOpen scope fewer more := by
  intro hfailed
  obtain ⟨count, hfrom, hto, hreached⟩ := hopen hfailed
  exact ⟨count, hleast.trans hfrom, hto.trans hmost, hreached⟩

theorem LeavesOpen.andThen {outcome : Outcome σ ε} {behind : Scope}
    {next : Scope → σ → Outcome σ ε}
    (hfirst : outcome.LeavesOpen scope least most)
    (hback : outcome.failure = none → outcome.scope = behind)
    (hnext : ∀ output, (next behind output).LeavesOpen scope least most) :
    (outcome.andThen next).LeavesOpen scope least most := by
  cases hfailure : outcome.failure with
  | none =>
      have hgoes : outcome.andThen next = next behind outcome.output := by
        simp [Outcome.andThen, hfailure, hback hfailure]
      rw [hgoes]
      exact hnext outcome.output
  | some failure =>
      have hstops : outcome.andThen next = outcome := by
        simp [Outcome.andThen, hfailure]
      rw [hstops]
      exact hfirst

theorem LeavesOpen.mapScope_pop {outcome : Outcome σ ε} {value : Value}
    (hinside : outcome.LeavesOpen { scope with frames := value :: scope.frames }
      least most) :
    (outcome.mapScope .pop).LeavesOpen scope least most := by
  intro hfailed
  obtain ⟨count, hleast, hmost, hreached⟩ := hinside hfailed
  exact ⟨count, hleast, hmost, hreached.pop⟩

theorem LeavesOpen.ofItem {outcome : Outcome σ ε} {sequence item : Value}
    {below : List Value} {cursors : List Cursor} {taken : ℕ}
    (hinside :
      outcome.LeavesOpen (.atItem sequence below cursors item taken) 0 most) :
    outcome.LeavesOpen ⟨sequence :: below, cursors⟩ 1 (most + 1) := by
  intro hfailed
  obtain ⟨count, -, hmost, hreached⟩ := hinside hfailed
  exact ⟨count + 1, by omega, by omega, hreached.ofItem⟩

end Outcome

/-- From any scope, a run gives the scope back, or fails and leaves open at
most `most` iterations. -/
structure Leaves (most : ℕ) (run : Scope → σ → Outcome σ ε) : Prop where
  failed : ∀ scope output, (run scope output).LeavesOpen scope 0 most
  done : ∀ scope output, (run scope output).failure = none →
    (run scope output).scope = scope

theorem Leaves.of_realizes {run : Scope → σ → Outcome σ ε}
    {rendering : List Value → Rendering} (hrealizes : Realizes sink run rendering)
    {most : ℕ}
    (hfailed : ∀ scope output, (run scope output).LeavesOpen scope 0 most) :
    Leaves most run :=
  ⟨hfailed, fun scope output => (hrealizes scope output).scope_eq⟩

theorem Leaves.mono {run : Scope → σ → Outcome σ ε} {most more : ℕ}
    (hrun : Leaves most run) (hmost : most ≤ more) : Leaves more run :=
  ⟨fun scope output => (hrun.failed scope output).mono le_rfl hmost, hrun.done⟩

theorem leaves_running {most : ℕ} :
    Leaves most (Outcome.running : Scope → σ → Outcome σ ε) :=
  ⟨fun _ _ => .of_running rfl, fun _ _ _ => rfl⟩

theorem Leaves.andThen {first second : Scope → σ → Outcome σ ε} {most : ℕ}
    (hfirst : Leaves most first) (hsecond : Leaves most second) :
    Leaves most fun scope output => (first scope output).andThen second := by
  constructor
  · intro scope output
    exact (hfirst.failed scope output).andThen (hfirst.done scope output)
      (hsecond.failed scope)
  · intro scope output hdone
    cases hfailure : (first scope output).failure with
    | none =>
        simp only [Outcome.andThen, hfailure, hfirst.done scope output hfailure]
          at hdone ⊢
        exact hsecond.done scope _ hdone
    | some failure => simp [Outcome.andThen, hfailure] at hdone

/-! ## Sections -/

section

variable {body between other : Scope → σ → Outcome σ ε} {inner outer : ℕ}

/-- The loop stands at an item of its sequence whenever it fails, so its own
frame and cursor are among those left over. -/
theorem iterate_leavesOpen (hbody : Leaves inner body)
    (hbetween : Leaves inner between) (sequence : Value) (below : List Value)
    (cursors : List Cursor) (last budget index taken : ℕ) (current : Value)
    (output : σ) :
    (iterate body between last budget index
      (.atItem sequence below cursors current taken) output).LeavesOpen
        ⟨sequence :: below, cursors⟩ 1 (inner + 1) := by
  induction budget generalizing index taken current output with
  | zero => exact .of_running rfl
  | succ budget ih =>
      rw [iterate, Scope.atItem, Scope.next?_of_sequence_below]
      cases sequence.items[taken]? with
      | none => exact .of_running rfl
      | some item =>
          let atItem := Scope.atItem sequence below cursors item (taken + 1)
          let pause (scope : Scope) (output : σ) : Outcome σ ε :=
            if index = last then .running scope output else between scope output
          have hpause : Leaves inner pause := by
            by_cases hlast : index = last
            · simpa only [pause, hlast, if_true] using leaves_running
            · simpa only [pause, hlast, if_false] using hbetween
          have hturn := hbody.andThen hpause
          exact (hturn.failed atItem output).ofItem.andThen
            (hturn.done atItem output)
            fun output => ih (index + 1) (taken + 1) item output

theorem repeatTop_leavesOpen_of_items (hbody : Leaves inner body)
    (hbetween : Leaves inner between) {scope : Scope}
    (hitems : scope.top.items ≠ []) (output : σ) :
    (repeatTop scope.top.items.length body between other scope output).LeavesOpen
      scope 1 (inner + 1) := by
  obtain ⟨item, rest, hcons⟩ := List.exists_cons_of_ne_nil hitems
  rcases scope with ⟨_ | ⟨sequence, below⟩, cursors⟩
  · simp [Scope.top, Value.items, Value.items?] at hitems
  · rw [hcons]
    exact iterate_leavesOpen hbody hbetween sequence below cursors rest.length
      (rest.length + 2) 0 0 .null output

theorem repeatTop_leavesOpen (hbody : Leaves inner body)
    (hbetween : Leaves inner between) (hother : Leaves outer other)
    (scope : Scope) (output : σ) :
    (repeatTop scope.top.items.length body between other scope output).LeavesOpen
      scope 0 (max (inner + 1) outer) := by
  by_cases hitems : scope.top.items = []
  · rw [hitems]
    exact (hother.failed scope output).mono le_rfl (le_max_right _ _)
  · exact (repeatTop_leavesOpen_of_items hbody hbetween hitems output).mono
      (Nat.zero_le 1) (le_max_left _ _)

theorem runConditional_leavesOpen (hbody : Leaves inner body)
    (hother : Leaves outer other) (name : Option String) (scope : Scope)
    (output : σ) :
    (runConditional name body other scope output).LeavesOpen scope 0
      (max inner outer) := by
  have hotherwise : (other scope output).LeavesOpen scope 0 (max inner outer) :=
    (hother.failed scope output).mono le_rfl (le_max_right _ _)
  cases name with
  | none => exact hotherwise
  | some name =>
      simp only [runConditional, Scope.push]
      split
      · exact ((hbody.failed _ output).mono le_rfl (le_max_left _ _)).mapScope_pop
      · exact hotherwise

/-- The value whose items a repeated section of this name goes through. -/
def Scope.repeatedValue (scope : Scope) (name : String) : Value :=
  if name = cursorName then scope.top else innerField name scope.frames

theorem runRepeated_leavesOpen (hbody : Leaves inner body)
    (hbetween : Leaves inner between) (hother : Leaves outer other)
    (name : Option String) (scope : Scope) (output : σ) :
    (runRepeated name body between other scope output).LeavesOpen scope 0
      (max (inner + 1) outer) := by
  have hitems := repeatTop_leavesOpen hbody hbetween hother
  unfold runRepeated
  split
  next => exact hitems scope output
  next =>
    cases name with
    | none => exact (hother.failed scope output).mono le_rfl (le_max_right _ _)
    | some name => exact (hitems _ output).mapScope_pop

theorem runRepeated_leavesOpen_of_items (hbody : Leaves inner body)
    (hbetween : Leaves inner between) {name : String} {scope : Scope}
    (hitems : (scope.repeatedValue name).items ≠ []) (output : σ) :
    (runRepeated (some name) body between other scope output).LeavesOpen scope 1
      (inner + 1) := by
  unfold Scope.repeatedValue at hitems
  by_cases hcursor : name = cursorName
  · rw [if_pos hcursor] at hitems
    simp only [runRepeated, hcursor, if_true]
    exact repeatTop_leavesOpen_of_items hbody hbetween hitems output
  · have hnamed : some name ≠ some cursorName := by simpa using hcursor
    rw [if_neg hcursor] at hitems
    let inside : Scope :=
      { scope with frames := innerField name scope.frames :: scope.frames }
    have hinside : inside.top.items ≠ [] := hitems
    simp only [runRepeated, hnamed, if_false, Scope.push]
    exact (repeatTop_leavesOpen_of_items hbody hbetween hinside output).mapScope_pop

end

/-! ## Programs -/

theorem Outcome.LeavesOpen.of_scope_eq {outcome : Outcome σ ε} {scope : Scope}
    (hscope : outcome.scope = scope) (most : ℕ) :
    outcome.LeavesOpen scope 0 most :=
  fun _ => ⟨0, le_rfl, Nat.zero_le most, Scope.leftOpen_zero_iff.mpr hscope⟩

theorem Substitution.run_scope (sink : Sink σ ε) (substitution : Substitution)
    (scope : Scope) (output : σ) :
    (substitution.run sink scope output).scope = scope := by
  unfold Substitution.run
  split <;> rfl

mutual

theorem Statement.leaves (sink : Sink σ ε) (statement : Statement) :
    Leaves statement.iterations (statement.run sink) := by
  apply Leaves.of_realizes statement.run_realizes
  match statement with
  | .literal text =>
      intro scope output
      exact .of_scope_eq rfl _
  | .substitute substitution =>
      intro scope output
      exact .of_scope_eq (substitution.run_scope sink scope output) _
  | .conditional ⟨name, main, alternate, otherwise⟩ =>
      exact runConditional_leavesOpen (leaves_runAll sink main)
        (leaves_runAll sink otherwise) name
  | .repeated ⟨name, main, alternate, otherwise⟩ =>
      have hmain := (leaves_runAll sink main).mono
        (le_max_left _ (iterationsAll alternate))
      have halternate := (leaves_runAll sink alternate).mono
        (le_max_right (iterationsAll main) _)
      exact runRepeated_leavesOpen hmain halternate
        (leaves_runAll sink otherwise) name

theorem leaves_runAll (sink : Sink σ ε) (statements : List Statement) :
    Leaves (iterationsAll statements) (runAll sink statements) := by
  match statements with
  | [] => exact leaves_running
  | statement :: rest =>
      exact ((statement.leaves sink).mono (le_max_left _ _)).andThen
        ((leaves_runAll sink rest).mono (le_max_right _ _))

end

/-- A failed run leaves the frames and the cursors of the start in place, with
one more of each for every iteration that it has broken off; a repeated section
that fails at one of its items never gives the scope back. -/
theorem runAll_failed_scope (sink : Sink σ ε) (scope : Scope) (output : σ) :
    (∀ statements, (runAll sink statements scope output).failure ≠ none →
      ∃ count ≤ iterationsAll statements,
        scope.LeftOpen count (runAll sink statements scope output).scope) ∧
    ∀ (block : Block Statement) (name : String), block.name = some name →
      (scope.repeatedValue name).items ≠ [] →
      (Statement.run sink (.repeated block) scope output).failure ≠ none →
        (Statement.run sink (.repeated block) scope output).scope ≠ scope := by
  constructor
  · intro statements hfailed
    obtain ⟨count, -, hmost, hopen⟩ :=
      (leaves_runAll sink statements).failed scope output hfailed
    exact ⟨count, hmost, hopen⟩
  · rintro ⟨own, main, alternate, otherwise⟩ name rfl hitems hfailed
    have hmain := (leaves_runAll sink main).mono
      (le_max_left _ (iterationsAll alternate))
    have halternate := (leaves_runAll sink alternate).mono
      (le_max_right (iterationsAll main) _)
    have hbroken : (Statement.run sink
        (.repeated ⟨some name, main, alternate, otherwise⟩) scope
          output).LeavesOpen scope 1 _ :=
      runRepeated_leavesOpen_of_items hmain halternate hitems output
    obtain ⟨count, hleast, -, hopen⟩ := hbroken hfailed
    exact hopen.ne hleast

/-- The loop over two items breaks off at the first one.  Behind it the section
has taken the item's frame away, but not its own, and the next step takes the
second item in its place. -/
theorem runAll_items_left_open :
    let items : Value := .sequence [.integer 1, .integer 2]
    let data : Value := .mapping [("items", items)]
    let outcome := runAll Sink.chunks
      [.repeated ⟨some "items", [.substitute ⟨"x", []⟩], [], []⟩]
      (.ofData data) #[]
    outcome.failure = some (.undefinedVariable "x") ∧
      outcome.scope ≠ .ofData data ∧ outcome.scope = ⟨[items, data], [⟨1, 1⟩]⟩ ∧
      outcome.scope.next? =
        some (.continued, ⟨[.integer 2, data], [⟨1, 2⟩]⟩) := by
  intro items data outcome
  have hscope : outcome.scope = ⟨[items, data], [⟨1, 1⟩]⟩ := rfl
  refine ⟨rfl, ?_, hscope, rfl⟩
  rw [hscope]
  intro hsame
  have hcursors := congrArg Scope.cursors hsame
  simp [Scope.ofData] at hcursors

end Stencil
