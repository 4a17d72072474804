import Stencil.Proofs.EnvironmentSemantics
import Stencil.Template
import Mathlib.Tactic

/-!
# Running on the stack follows the meaning

The run of a program shares one stack and one list of cursors among all of
its sections.  This file shows that it nevertheless delivers the rendering of
the frames it starts from, for every sink and whatever cursors lie around.

The statement that goes through the induction is `Outcome.Follows`: the sink
is offered the chunks of a rendering until it refuses one, the failure is the
sink's or else the rendering's, and a run that has not failed has put the
scope back.  The last part is what lets a loop find its sequence again after
each item, and a section find the frames below it.
-/

namespace Stencil

variable {σ ε : Type} {sink : Sink σ ε}

def Sink.offer (sink : Sink σ ε) : σ → List String → σ × Option ε
  | output, [] => (output, none)
  | output, chunk :: rest =>
      match sink.accept output chunk with
      | (output, none) => sink.offer output rest
      | (output, some cause) => (output, some cause)

theorem Sink.offer_append_of_taken {output taken : σ} {first : List String}
    (htaken : sink.offer output first = (taken, none)) (second : List String) :
    sink.offer output (first ++ second) = sink.offer taken second := by
  induction first generalizing output with
  | nil =>
      obtain rfl : output = taken := by simpa [Sink.offer] using htaken
      rfl
  | cons chunk rest ih =>
      rcases haccept : sink.accept output chunk with ⟨next, _ | cause⟩
      · simp only [Sink.offer, haccept, List.cons_append] at htaken ⊢
        exact ih htaken
      · simp [Sink.offer, haccept] at htaken

theorem Sink.offer_append_of_refused {output stopped : σ} {cause : ε}
    {first : List String}
    (hrefused : sink.offer output first = (stopped, some cause))
    (second : List String) :
    sink.offer output (first ++ second) = (stopped, some cause) := by
  induction first generalizing output with
  | nil => simp [Sink.offer] at hrefused
  | cons chunk rest ih =>
      rcases haccept : sink.accept output chunk with ⟨next, _ | found⟩
      · simp only [Sink.offer, haccept, List.cons_append] at hrefused ⊢
        exact ih hrefused
      · simpa [Sink.offer, haccept] using hrefused

theorem Sink.offer_total (take : σ → String → σ) (output : σ)
    (chunks : List String) :
    (Sink.total take).offer output chunks = (chunks.foldl take output, none) := by
  induction chunks generalizing output with
  | nil => rfl
  | cons chunk rest ih => exact ih (take output chunk)

theorem Sink.offer_chunks (output : Array String) (chunks : List String) :
    Sink.chunks.offer output chunks = (output ++ chunks.toArray, none) := by
  unfold Sink.chunks
  rw [offer_total]
  simp

/-! ## Outcomes that follow a rendering -/

/-- The failure of a run whose sink gave the first argument as the cause of a
refusal: that comes first, since nothing is resolved after it. -/
def Rendering.failure (rendering : Rendering) :
    Option ε → Option (RenderError ε)
  | some cause => some (.output cause)
  | none => rendering.undefinedName.map .undefinedVariable

/-- A run from a state of the sink delivers a rendering, and is back at
`scope` if it has not failed. -/
structure Outcome.Follows (sink : Sink σ ε) (scope : Scope) (output : σ)
    (rendering : Rendering) (outcome : Outcome σ ε) : Prop where
  output_eq : outcome.output = (sink.offer output rendering.chunks).1
  failure_eq :
    outcome.failure = rendering.failure (sink.offer output rendering.chunks).2
  scope_eq : outcome.failure = none → outcome.scope = scope

theorem Outcome.running_follows (scope : Scope) (output : σ) :
    (Outcome.running scope output : Outcome σ ε).Follows sink scope output
      .nothing :=
  ⟨rfl, rfl, fun _ => rfl⟩

theorem deliver_follows (text : String) (scope : Scope) (output : σ) :
    (deliver sink text scope output).Follows sink scope output (.chunk text) := by
  rcases haccept : sink.accept output text with ⟨next, _ | cause⟩ <;>
    constructor <;>
    simp [deliver, Rendering.chunk, Rendering.failure, Sink.offer, haccept]

theorem Outcome.Follows.andThen {outcome : Outcome σ ε}
    {next : Scope → σ → Outcome σ ε} {scope behind : Scope} {output : σ}
    {first second : Rendering}
    (hfirst : outcome.Follows sink scope output first)
    (hnext : ∀ output, (next scope output).Follows sink behind output second) :
    (outcome.andThen next).Follows sink behind output
      (first.followedBy second) := by
  obtain ⟨houtput, hfailure, hscope⟩ := hfirst
  rcases outcome with ⟨reached, delivered, failure⟩
  rcases first with ⟨chunks, undefinedName⟩
  rcases hoffer : sink.offer output chunks with ⟨taken, _ | cause⟩
  · simp only [hoffer, Rendering.failure] at houtput hfailure
    subst houtput
    cases undefinedName with
    | none =>
        obtain rfl : failure = none := hfailure
        obtain rfl : reached = scope := hscope rfl
        obtain ⟨hnextOutput, hnextFailure, hnextScope⟩ := hnext delivered
        constructor
        · simpa [Outcome.andThen, Rendering.followedBy,
            Sink.offer_append_of_taken hoffer] using hnextOutput
        · simpa [Outcome.andThen, Rendering.followedBy, Rendering.failure,
            Sink.offer_append_of_taken hoffer] using hnextFailure
        · simpa [Outcome.andThen] using hnextScope
    | some name =>
        obtain rfl : failure = some (.undefinedVariable name) := hfailure
        constructor <;>
          simp [Outcome.andThen, Rendering.followedBy, Rendering.failure, hoffer]
  · simp only [hoffer, Rendering.failure] at houtput hfailure
    subst houtput hfailure
    cases undefinedName with
    | none =>
        constructor <;>
          simp [Outcome.andThen, Rendering.followedBy, Rendering.failure,
            Sink.offer_append_of_refused hoffer]
    | some name =>
        constructor <;>
          simp [Outcome.andThen, Rendering.followedBy, Rendering.failure, hoffer]

theorem Outcome.Follows.mapScope_pop {outcome : Outcome σ ε} {value : Value}
    {scope : Scope} {output : σ} {rendering : Rendering}
    (hinside : outcome.Follows sink
      { scope with frames := value :: scope.frames } output rendering) :
    (outcome.mapScope .pop).Follows sink scope output rendering := by
  refine ⟨hinside.output_eq, hinside.failure_eq, ?_⟩
  intro hrunning
  have hback := hinside.scope_eq hrunning
  simp [Outcome.mapScope, hback, Scope.pop]

/-- Started in any scope, the run delivers the rendering of its frames. -/
def Realizes (sink : Sink σ ε) (run : Scope → σ → Outcome σ ε)
    (rendering : List Value → Rendering) : Prop :=
  ∀ scope output, (run scope output).Follows sink scope output
    (rendering scope.frames)

/-! ## Iterations -/

/-- One step of the latest iteration when its sequence lies right below the
frame on top. -/
theorem Scope.next?_of_sequence_below (current sequence : Value)
    (below : List Value) (taken : ℕ) (cursors : List Cursor) :
    Scope.next?
        ⟨current :: sequence :: below, ⟨below.length, taken⟩ :: cursors⟩ =
      match sequence.items[taken]? with
      | none => some (.done, ⟨sequence :: below, cursors⟩)
      | some item =>
          some (.continued,
            ⟨item :: sequence :: below, ⟨below.length, taken + 1⟩ :: cursors⟩) := by
  have hframe :
      Scope.frameAt?
          ⟨current :: sequence :: below, ⟨below.length, taken⟩ :: cursors⟩
          below.length = some sequence := by
    simp [Scope.frameAt?]
  cases hitem : sequence.items[taken]? <;>
    simp [Scope.next?, hframe, hitem]

section Iteration

variable {sequence : Value} {below : List Value} {cursors : List Cursor}
  {body between : Scope → σ → Outcome σ ε}
  {bodyRendering betweenRendering : Value → Rendering}

def Scope.atItem (sequence : Value) (below : List Value)
    (cursors : List Cursor) (item : Value) (taken : ℕ) : Scope :=
  ⟨item :: sequence :: below, ⟨below.length, taken⟩ :: cursors⟩

/-- The loop from its `index`th step on, with the items that remain.  The
count of the loop and the cursor move together, since the body and what
stands between put the scope back; the budget never runs out. -/
theorem iterate_follows
    (hbody : ∀ item taken output,
      (body (.atItem sequence below cursors item taken) output).Follows sink
        (.atItem sequence below cursors item taken) output (bodyRendering item))
    (hbetween : ∀ item taken output,
      (between (.atItem sequence below cursors item taken) output).Follows sink
        (.atItem sequence below cursors item taken) output
        (betweenRendering item))
    {remaining : List Value} {index last budget : ℕ}
    (hremaining : sequence.items.drop index = remaining)
    (hlast : index + remaining.length = last + 1)
    (hbudget : remaining.length < budget) (current : Value) (output : σ) :
    (iterate body between last budget index
      (.atItem sequence below cursors current index) output).Follows sink
        ⟨sequence :: below, cursors⟩ output
        (.separated bodyRendering betweenRendering remaining) := by
  induction remaining generalizing index budget current output with
  | nil =>
      obtain ⟨budget, rfl⟩ : ∃ rest, budget = rest + 1 := ⟨budget - 1, by omega⟩
      have hnone : sequence.items[index]? = none := by
        simpa using hremaining
      simp only [iterate, Scope.atItem, Scope.next?_of_sequence_below, hnone]
      exact Outcome.running_follows _ _
  | cons item rest ih =>
      obtain ⟨budget, rfl⟩ : ∃ rest, budget = rest + 1 := ⟨budget - 1, by omega⟩
      have hitem : sequence.items[index]? = some item := by
        rw [← List.head?_drop, hremaining, List.head?_cons]
      have hdrop : sequence.items.drop (index + 1) = rest := by
        rw [← List.tail_drop, hremaining, List.tail_cons]
      have hrest : ∀ output,
          (iterate body between last budget (index + 1)
            (.atItem sequence below cursors item (index + 1)) output).Follows sink
              ⟨sequence :: below, cursors⟩ output
              (.separated bodyRendering betweenRendering rest) := by
        intro output
        simp only [List.length_cons] at hlast hbudget
        exact ih hdrop (by omega) (by omega) item output
      simp only [iterate, Scope.atItem, Scope.next?_of_sequence_below, hitem]
      -- The loop counts to `last`; the rendering sees that no item is left.
      cases rest with
      | nil =>
          have hindex : index = last := by simpa using hlast
          simp only [hindex, if_true]
          have hturn := (hbody item (index + 1) output).andThen
            (fun output => Outcome.running_follows _ output)
          simpa [Rendering.separated, Scope.atItem, hindex] using hturn.andThen hrest
      | cons next rest =>
          have hindex : index ≠ last := by
            simp only [List.length_cons] at hlast
            omega
          simp only [hindex, if_false]
          have hturn := (hbody item (index + 1) output).andThen
            (hbetween item (index + 1))
          rw [Rendering.separated, ← Rendering.followedBy_assoc]
          exact hturn.andThen hrest

end Iteration

/-! ## Sections -/

theorem repeatTop_realizes {main alternate otherwise : Scope → σ → Outcome σ ε}
    {mainRendering alternateRendering otherwiseRendering :
      List Value → Rendering}
    (hmain : Realizes sink main mainRendering)
    (halternate : Realizes sink alternate alternateRendering)
    (hotherwise : Realizes sink otherwise otherwiseRendering) :
    Realizes sink
      (fun scope => repeatTop scope.top.items.length main alternate otherwise scope)
      (itemsRendering mainRendering alternateRendering otherwiseRendering) := by
  intro scope output
  rcases scope with ⟨_ | ⟨sequence, below⟩, cursors⟩
  · exact hotherwise ⟨[], cursors⟩ output
  · simp only [itemsRendering, Scope.top, List.headD_cons]
    cases hitems : sequence.items with
    | nil => exact hotherwise ⟨sequence :: below, cursors⟩ output
    | cons item rest =>
        simp only [List.length_cons, repeatTop, iterateTop, Scope.begin?]
        exact iterate_follows
          (fun item taken output =>
            hmain (.atItem sequence below cursors item taken) output)
          (fun item taken output =>
            halternate (.atItem sequence below cursors item taken) output)
          (by simpa using hitems) (by simp) (by simp) .null output

theorem runConditional_realizes {body other : Scope → σ → Outcome σ ε}
    {bodyRendering otherRendering : List Value → Rendering}
    (hbody : Realizes sink body bodyRendering)
    (hother : Realizes sink other otherRendering) (name : Option String) :
    Realizes sink (runConditional name body other)
      (conditionalRendering name bodyRendering otherRendering) := by
  intro scope output
  cases name with
  | none => exact hother scope output
  | some name =>
      have hpop : Scope.pop
          { scope with frames := innerField name scope.frames :: scope.frames } =
            scope := rfl
      simp only [runConditional, Scope.push, conditionalRendering, Scope.top]
      by_cases hholds : (innerField name scope.frames).holds
      · rw [if_pos hholds]
        simp only [innerField] at hholds ⊢
        rw [if_pos hholds]
        exact (hbody _ output).mapScope_pop
      · rw [if_neg hholds]
        simp only [innerField] at hholds hpop ⊢
        rw [if_neg hholds, hpop]
        exact hother scope output

theorem runRepeated_realizes {body between other : Scope → σ → Outcome σ ε}
    {bodyRendering betweenRendering otherRendering : List Value → Rendering}
    (hbody : Realizes sink body bodyRendering)
    (hbetween : Realizes sink between betweenRendering)
    (hother : Realizes sink other otherRendering) (name : Option String) :
    Realizes sink (runRepeated name body between other)
      (repeatedRendering name bodyRendering betweenRendering otherRendering) := by
  intro scope output
  cases name with
  | none => exact hother scope output
  | some name =>
      have hitems := repeatTop_realizes hbody hbetween hother
      by_cases hcursor : name = cursorName
      · simp only [runRepeated, repeatedRendering, hcursor, if_true]
        exact hitems scope output
      · have hnamed : some name ≠ some cursorName := by simpa using hcursor
        simp only [runRepeated, repeatedRendering, hcursor, hnamed, if_false]
        exact (hitems ⟨innerField name scope.frames :: scope.frames, scope.cursors⟩
          output).mapScope_pop

/-! ## Substitutions -/

theorem formatWith_eq_chainText (formatters : List NamedFormatter)
    (value : Value) : formatWith formatters value = chainText formatters value := by
  cases formatters with
  | nil => rfl
  | cons first rest =>
      have hfold : ∀ text : String,
          (rest.foldl (fun held formatter => .string (formatter.apply held))
            (Value.string text)) =
          .string (rest.foldl
            (fun text formatter => formatter.apply (.string text)) text) := by
        induction rest with
        | nil => intro text; rfl
        | cons formatter rest ih => intro text; exact ih _
      simp [formatWith, chainText, hfold, Value.text, Value.characters]

theorem Scope.lookup?_eq_enclosing? (name : String) (frames : List Value) :
    Scope.lookup? name frames = enclosing? name frames := by
  induction frames with
  | nil => rfl
  | cons frame below ih =>
      simp only [Scope.lookup?, enclosing?, List.findSome?_cons]
      rcases hfield : frame.get? name with _ | held
      · simpa [enclosing?] using ih
      · cases held <;> simp [Option.filter, Value.isNull, ih, enclosing?]

theorem Substitution.run_realizes (substitution : Substitution) :
    Realizes sink (substitution.run sink) substitution.rendering := by
  intro scope output
  by_cases hcursor : substitution.name = cursorName
  · simp only [Substitution.run, Substitution.value, Substitution.isCursor,
      Substitution.rendering, hcursor, decide_true, if_true,
      formatWith_eq_chainText]
    exact deliver_follows _ scope output
  · simp only [Substitution.run, Substitution.value, Substitution.isCursor,
      Substitution.rendering, hcursor, decide_false, Bool.false_eq_true,
      if_false, Scope.resolve, Scope.lookup?_eq_enclosing?,
      formatWith_eq_chainText]
    cases enclosing? substitution.name scope.frames with
    | none => exact ⟨rfl, rfl, fun hrunning => by simp at hrunning⟩
    | some value => exact deliver_follows _ scope output

/-! ## Programs -/

mutual

theorem Statement.run_realizes (statement : Statement) :
    Realizes sink (statement.run sink) statement.rendering := by
  match statement with
  | .literal text =>
      intro scope output
      exact deliver_follows text scope output
  | .substitute substitution => exact substitution.run_realizes
  | .conditional ⟨name, main, alternate, otherwise⟩ =>
      exact runConditional_realizes (runAll_realizes main)
        (runAll_realizes otherwise) name
  | .repeated ⟨name, main, alternate, otherwise⟩ =>
      exact runRepeated_realizes (runAll_realizes main)
        (runAll_realizes alternate) (runAll_realizes otherwise) name

/-- Statements deliver their rendering into every sink, from every scope. -/
theorem runAll_realizes (statements : List Statement) :
    Realizes sink (runAll sink statements) (renderingAll statements) := by
  intro scope output
  match statements with
  | [] => exact Outcome.running_follows scope output
  | statement :: rest =>
      exact (statement.run_realizes scope output).andThen
        (runAll_realizes rest scope)

end

theorem Template.render_follows (sink : Sink σ ε) (template : Template) (data : Value)
    (output : σ) :
    (template.render sink data output).Follows sink (.ofData data) output
      (template.program.rendering data) :=
  runAll_realizes template.program.main (.ofData data) output

/-- A template renders the chunks of its program's meaning and fails exactly
where that breaks off. -/
theorem Template.render_chunks_eq_rendering (template : Template) (data : Value) :
    let outcome := template.render Sink.chunks data #[]
    outcome.output.toList = (template.program.rendering data).chunks ∧
      outcome.failure =
        (template.program.rendering data).undefinedName.map .undefinedVariable := by
  have hrealizes : Realizes Sink.chunks _ _ :=
    runAll_realizes template.program.main
  have hfollows := hrealizes (Scope.ofData data) #[]
  have houtput := hfollows.output_eq
  have hfailure := hfollows.failure_eq
  simp only [Sink.offer_chunks] at houtput hfailure
  constructor
  · simpa [Template.render, Block.rendering, Scope.ofData] using
      congrArg Array.toList houtput
  · exact hfailure

/-- Items of items: each loop takes up its own sequence again. -/
example :
    Block.rendering
      ⟨none, [.repeated ⟨some "@",
        [.repeated ⟨some "@", [.substitute ⟨"@", []⟩], [.literal "+"], []⟩],
        [.literal ";"], []⟩], [], []⟩
      (.sequence [.sequence [.string "a", .string "b"], .sequence [.string "c"]]) =
        ⟨["a", "+", "b", ";", "c"], none⟩ := by
  decide

/-! ## Balance of the stack -/

theorem Rendering.failure_ne_missingFrame (rendering : Rendering)
    (refused : Option ε) :
    rendering.failure refused ≠ some .missingFrame := by
  rcases refused with _ | cause
  · cases hname : rendering.undefinedName <;> simp [Rendering.failure, hname]
  · simp [Rendering.failure]

/-- No run lacks a frame, whether it fails or not, and a run that does not
fail leaves every frame and every cursor in its place. -/
theorem runAll_keeps_scope (sink : Sink σ ε) (statements : List Statement)
    (scope : Scope) (output : σ) :
    (runAll sink statements scope output).failure ≠ some .missingFrame ∧
      ((runAll sink statements scope output).failure = none →
        (runAll sink statements scope output).scope = scope) := by
  have hrealizes : Realizes sink _ _ := runAll_realizes statements
  have hfollows := hrealizes scope output
  constructor
  · rw [hfollows.failure_eq]
    exact Rendering.failure_ne_missingFrame _ _
  · exact hfollows.scope_eq

end Stencil
