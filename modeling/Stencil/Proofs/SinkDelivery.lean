import Stencil.Proofs.EnvironmentSimulation
import Mathlib.Tactic

/-!
# Delivery into an arbitrary sink

A render offers the same chunks to every sink, whatever the sink does with
them; a sink can only cut the sequence short, by refusing a chunk.  The
chunks and the result to compare with are those of the render that collects
its chunks.

What a sink is offered is seen by watching it: next to its own state a watched
sink keeps a list of the chunks that have come in, the refused one included.
-/

namespace Stencil

variable {σ ε : Type}

/-- The sink with a list of the chunks that it has been offered. -/
def Sink.watched (sink : Sink σ ε) : Sink (σ × List String) ε :=
  ⟨fun (output, offered) chunk =>
    let (output, refused) := sink.accept output chunk
    ((output, offered ++ [chunk]), refused)⟩

/-- The sink takes all of the chunks, and is in the last state after them. -/
inductive Sink.Takes (sink : Sink σ ε) : σ → List String → σ → Prop
  | nil (output : σ) : sink.Takes output [] output
  | cons {output next taken : σ} {chunk : String} {rest : List String}
      (haccept : sink.accept output chunk = (next, none))
      (hrest : sink.Takes next rest taken) :
      sink.Takes output (chunk :: rest) taken

/-- The failure of a render whose sink refuses nothing, as a failure of any
other render. -/
def RenderError.ofNever : RenderError Never → RenderError ε
  | .undefinedVariable name => .undefinedVariable name
  | .output cause => nomatch cause
  | .missingFrame => .missingFrame

/-! ## Offering chunks -/

namespace Sink

variable {sink : Sink σ ε} {output taken stopped : σ} {chunks : List String}

theorem offer_eq_of_takes (htakes : sink.Takes output chunks taken) :
    sink.offer output chunks = (taken, none) := by
  induction htakes with
  | nil output => rfl
  | cons haccept hrest ih => simp only [offer, haccept, ih]

theorem takes_of_offer (hoffer : sink.offer output chunks = (taken, none)) :
    sink.Takes output chunks taken := by
  induction chunks generalizing output with
  | nil =>
      obtain rfl : output = taken := by simpa [offer] using hoffer
      exact .nil output
  | cons chunk rest ih =>
      unfold offer at hoffer
      split at hoffer
      next next haccept => exact .cons haccept (ih hoffer)
      next => simp at hoffer

/-- A refusal comes after chunks that have all been taken. -/
theorem exists_takes_of_refused {cause : ε}
    (hoffer : sink.offer output chunks = (stopped, some cause)) :
    ∃ before chunk after taken, chunks = before ++ chunk :: after ∧
      sink.Takes output before taken ∧
      sink.accept taken chunk = (stopped, some cause) := by
  induction chunks generalizing output with
  | nil => simp [offer] at hoffer
  | cons chunk rest ih =>
      unfold offer at hoffer
      split at hoffer
      next next haccept =>
        obtain ⟨before, refused, after, taken, rfl, htakes, hrefused⟩ := ih hoffer
        exact ⟨chunk :: before, refused, after, taken, rfl,
          .cons haccept htakes, hrefused⟩
      next next found haccept =>
        rw [hoffer] at haccept
        exact ⟨[], chunk, rest, output, rfl, .nil output, haccept⟩

theorem watched_takes (htakes : sink.Takes output chunks taken)
    (offered : List String) :
    sink.watched.Takes (output, offered) chunks (taken, offered ++ chunks) := by
  induction htakes generalizing offered with
  | nil output =>
      rw [List.append_nil]
      exact .nil (output, offered)
  | @cons output next taken chunk rest haccept hrest ih =>
      have hwatched : sink.watched.accept (output, offered) chunk =
          ((next, offered ++ [chunk]), none) := by
        simp [watched, haccept]
      have hlater := ih (offered ++ [chunk])
      rw [List.append_assoc, List.singleton_append] at hlater
      exact .cons hwatched hlater

theorem offer_watched_of_refused {before : List String} {chunk : String}
    {cause : ε} (htakes : sink.Takes output before taken)
    (hrefused : sink.accept taken chunk = (stopped, some cause))
    (offered after : List String) :
    sink.watched.offer (output, offered) (before ++ chunk :: after) =
      ((stopped, offered ++ before ++ [chunk]), some cause) := by
  have hbefore := offer_eq_of_takes (watched_takes htakes offered)
  rw [offer_append_of_taken hbefore]
  simp [offer, watched, hrefused]

end Sink

/-! ## Renders -/

theorem Rendering.failure_eq_ofNever (rendering : Rendering) :
    (rendering.failure none : Option (RenderError ε)) =
      (rendering.failure none).map RenderError.ofNever := by
  unfold Rendering.failure
  cases rendering.undefinedName <;> rfl

theorem Outcome.Follows.result_of_offer {sink : Sink σ ε} {scope : Scope}
    {output stopped : σ} {refused : Option ε} {rendering : Rendering}
    {outcome : Outcome σ ε} (hfollows : outcome.Follows sink scope output rendering)
    (hoffer : sink.offer output rendering.chunks = (stopped, refused)) :
    outcome.output = stopped ∧ outcome.failure = rendering.failure refused := by
  have houtput := hfollows.output_eq
  have hfailure := hfollows.failure_eq
  rw [hoffer] at houtput hfailure
  exact ⟨houtput, hfailure⟩

theorem foldl_append_eq_join (text : String) (chunks : List String) :
    chunks.foldl String.append text = text ++ String.join chunks := by
  induction chunks generalizing text with
  | nil => simp
  | cons chunk rest ih =>
      rw [List.foldl_cons, ih, String.join_cons, ← String.append_assoc]
      rfl

namespace Template

theorem render_total (take : σ → String → σ) (template : Template) (data : Value)
    (output : σ) :
    (template.render (.total take) data output).output =
        (template.program.rendering data).chunks.foldl take output ∧
      (template.render (.total take) data output).failure =
        (template.program.rendering data).failure none :=
  (template.render_follows (.total take) data output).result_of_offer
    (Sink.offer_total take output _)

theorem render_string (template : Template) (data : Value) (text : String) :
    (template.render Sink.string data text).output =
        text ++ String.join (template.program.rendering data).chunks ∧
      (template.render Sink.string data text).failure =
        (template.program.rendering data).failure none := by
  rw [← foldl_append_eq_join]
  exact template.render_total String.append data text

/-- The collected chunks are those of the rendering. -/
theorem render_chunks (template : Template) (data : Value) :
    (template.render Sink.chunks data #[]).output.toList =
        (template.program.rendering data).chunks ∧
      (template.render Sink.chunks data #[]).failure =
        (template.program.rendering data).failure none := by
  obtain ⟨houtput, hfailure⟩ := template.render_total Array.push data #[]
  refine ⟨?_, hfailure⟩
  have hpushed : (template.render Sink.chunks data #[]).output =
      (template.program.rendering data).chunks.foldl Array.push #[] := houtput
  simp [hpushed]

theorem render_watched (sink : Sink σ ε) (template : Template) (data : Value)
    (output : σ) :
    let rendering := template.program.rendering data
    let outcome := template.render sink data output
    let watched := template.render sink.watched data (output, [])
    watched.output.1 = outcome.output ∧ watched.failure = outcome.failure ∧
    ((sink.Takes output rendering.chunks outcome.output ∧
        watched.output.2 = rendering.chunks ∧
        outcome.failure = (rendering.failure none).map .ofNever) ∨
      ∃ before chunk after taken cause,
        rendering.chunks = before ++ chunk :: after ∧
        sink.Takes output before taken ∧
        sink.accept taken chunk = (outcome.output, some cause) ∧
        watched.output.2 = before ++ [chunk] ∧
        outcome.failure = some (.output cause)) := by
  intro rendering outcome watched
  have hfollows := template.render_follows sink data output
  have hwatched := template.render_follows sink.watched data (output, [])
  cases hoffer : sink.offer output rendering.chunks with
  | mk stopped refused =>
      obtain ⟨houtput, hfailure⟩ := hfollows.result_of_offer hoffer
      cases refused with
      | none =>
          have htakes := Sink.takes_of_offer hoffer
          have hseen := Sink.offer_eq_of_takes (Sink.watched_takes htakes [])
          obtain ⟨hbehind, hend⟩ := hwatched.result_of_offer hseen
          refine ⟨?_, hend.trans hfailure.symm, .inl ⟨?_, ?_, ?_⟩⟩
          · rw [hbehind, houtput]
          · rw [houtput]
            exact htakes
          · rw [hbehind]
            rfl
          · rw [hfailure, Rendering.failure_eq_ofNever]
      | some cause =>
          obtain ⟨before, chunk, after, taken, hsplit, htakes, hrefused⟩ :=
            Sink.exists_takes_of_refused hoffer
          have hseen := Sink.offer_watched_of_refused htakes hrefused [] after
          rw [← hsplit] at hseen
          obtain ⟨hbehind, hend⟩ := hwatched.result_of_offer hseen
          refine ⟨?_, hend.trans hfailure.symm,
            .inr ⟨before, chunk, after, taken, cause, hsplit, htakes, ?_, ?_, hfailure⟩⟩
          · rw [hbehind, houtput]
          · rw [houtput]
            exact hrefused
          · rw [hbehind]
            rfl

/-- A render into any sink is the collecting render up to the first chunk that
the sink refuses.  The sinks that refuse nothing get all of its chunks and its
result. -/
theorem render_delivers (template : Template) (data : Value) :
    let collected := template.render Sink.chunks data #[]
    let chunks := collected.output.toList
    (∀ {σ ε : Type} (sink : Sink σ ε) (output : σ),
      let outcome := template.render sink data output
      let watched := template.render sink.watched data (output, [])
      watched.output.1 = outcome.output ∧ watched.failure = outcome.failure ∧
      ((sink.Takes output chunks outcome.output ∧
          watched.output.2 = chunks ∧
          outcome.failure = collected.failure.map .ofNever) ∨
        ∃ before chunk after taken cause,
          chunks = before ++ chunk :: after ∧ sink.Takes output before taken ∧
          sink.accept taken chunk = (outcome.output, some cause) ∧
          watched.output.2 = before ++ [chunk] ∧
          outcome.failure = some (.output cause))) ∧
    (∀ text, (template.render Sink.string data text).output =
          text ++ String.join chunks ∧
        (template.render Sink.string data text).failure = collected.failure) ∧
    (template.expand data =
      match collected.failure with
      | none => .ok (String.join chunks)
      | some failure => .error failure) ∧
    ∀ {τ : Type} (take : String → τ → τ) (state : τ),
      (template.render (.ofFunction take) data state).output =
          chunks.foldl (fun state chunk => take chunk state) state ∧
        (template.render (.ofFunction take) data state).failure =
          collected.failure := by
  intro collected chunks
  have hchunks : chunks = (template.program.rendering data).chunks := by
    have hpushed := (template.render_total Array.push data #[]).1
    have hlist : collected.output.toList =
        ((template.program.rendering data).chunks.foldl Array.push #[]).toList :=
      congrArg Array.toList hpushed
    simpa using hlist
  have hresult :
      collected.failure = (template.program.rendering data).failure none :=
    (template.render_total Array.push data #[]).2
  have hstring : ∀ text, (template.render Sink.string data text).output =
        text ++ String.join chunks ∧
      (template.render Sink.string data text).failure = collected.failure := by
    intro text
    have htotal := template.render_total String.append data text
    rw [hchunks, hresult, ← foldl_append_eq_join]
    exact htotal
  refine ⟨?_, hstring, ?_, ?_⟩
  · intro σ ε sink output outcome watched
    rw [hchunks, hresult]
    exact template.render_watched sink data output
  · obtain ⟨houtput, hfailure⟩ := hstring ""
    rw [String.empty_append] at houtput
    cases hcollected : collected.failure with
    | none =>
        rw [hcollected] at hfailure
        simp only [expand, houtput, hfailure]
    | some failure =>
        rw [hcollected] at hfailure
        simp only [expand, hfailure]
  · intro τ take state
    rw [hchunks, hresult]
    exact template.render_total (fun state chunk => take chunk state) data state

end Template

end Stencil
