import Stencil.Proofs.BalancedEntries
import Stencil.Proofs.CompileFaults
import Mathlib.Tactic

/-!
# Errors stand at directives

Whatever the marker, an error that has a span has that of a directive of the
template.  A directive that is at fault gives its own span.  A block that is
still open at the end has the span of the directive that opened it, since only
the lowest block has been there from the start.
-/

namespace Stencil

variable {options : Options} {delimiters : Delimiters}

/-- Every block but the lowest one was opened by one of the directives. -/
def Assembly.OpenedBy (segments : List Segment) (assembly : Assembly) : Prop :=
  ∀ span ∈ assembly.spans.dropLast,
    ∃ segment ∈ segments, segment.kind = .directive ∧ segment.span = span

theorem Assembly.spans_of_segment {assembly next : Assembly} {segment : Segment}
    (hkind : segment.kind = .directive)
    (hnext : assembly.segment options delimiters segment = .ok next) :
    next.spans = (segment.readTag delimiters).spansBehind assembly.spans := by
  have hstep := directive_spans options delimiters assembly
    (segment.readTag delimiters)
  have hdirective : assembly.directive options delimiters
      (segment.readTag delimiters).span (segment.readTag delimiters).directive =
        .ok next := by
    simp only [Assembly.segment, hkind] at hnext
    exact hnext
  rw [hdirective] at hstep
  cases hfault : (segment.readTag delimiters).fault? options
      assembly.around.length with
  | some error => simp [hfault, Except.map] at hstep
  | none => simpa [hfault, Except.map] using hstep

theorem Assembly.OpenedBy.segment {segments : List Segment}
    {assembly next : Assembly} (hopened : assembly.OpenedBy segments)
    {segment : Segment} (hmem : segment ∈ segments)
    (hnext : assembly.segment options delimiters segment = .ok next) :
    next.OpenedBy segments := by
  cases hkind : segment.kind with
  | literal =>
      have hspans : next.spans = assembly.spans := by
        simp only [Assembly.segment, hkind] at hnext
        rw [← Except.ok.inj hnext]
        split <;> rfl
      unfold OpenedBy
      rw [hspans]
      exact hopened
  | directive =>
      intro span hspan
      rw [spans_of_segment hkind hnext] at hspan
      unfold Tag.spansBehind at hspan
      split at hspan
      next =>
        have hne : assembly.spans ≠ [] := by simp [spans]
        rw [List.dropLast_cons_of_ne_nil hne] at hspan
        rcases List.mem_cons.mp hspan with rfl | hbelow
        · exact ⟨segment, hmem, hkind, rfl⟩
        · exact hopened span hbelow
      next =>
        rw [← List.tail_dropLast] at hspan
        exact hopened span (List.mem_of_mem_tail hspan)
      next => exact hopened span hspan

theorem Assembly.OpenedBy.segments {all segments : List Segment}
    {assembly last : Assembly} (hopened : assembly.OpenedBy all)
    (hsegments : ∀ segment ∈ segments, segment ∈ all)
    (hlast : assembly.segments options delimiters segments = .ok last) :
    last.OpenedBy all := by
  induction segments generalizing assembly with
  | nil =>
      obtain rfl := Except.ok.inj hlast
      exact hopened
  | cons segment rest ih =>
      rw [Assembly.segments] at hlast
      cases hnext : assembly.segment options delimiters segment with
      | error error => simp [hnext] at hlast
      | ok next =>
          rw [hnext] at hlast
          have hrest : ∀ segment ∈ rest, segment ∈ all := by
            intro other hother
            exact hsegments other (List.mem_cons_of_mem segment hother)
          exact ih (hopened.segment (hsegments segment (by simp)) hnext) hrest hlast

theorem exists_directive_of_compile (haccepted : options.delimiters = .ok delimiters)
    {source : String} {error : CompileError}
    (herror : compile options source = .error error) :
    ∃ segment ∈ delimiters.split source.toList,
      segment.kind = .directive ∧ error.span? = some segment.span := by
  rw [compile, haccepted] at herror
  cases hsegments : Assembly.start.segments options delimiters
      (delimiters.split source.toList) with
  | error found =>
      obtain rfl : found = error := by simpa [hsegments] using herror
      exact Assembly.exists_directive_of_segments hsegments
  | ok assembly =>
      have hfinish : assembly.finish = .error error := by
        simpa [hsegments] using herror
      have hstart : Assembly.start.OpenedBy (delimiters.split source.toList) := by
        intro span hspan
        simp [Assembly.start, Assembly.spans] at hspan
      have hopened := hstart.segments (fun _ hmem => hmem) hsegments
      rcases assembly with ⟨inner, _ | ⟨outer, around⟩⟩
      · simp [Assembly.finish] at hfinish
      · obtain ⟨segment, hmem, hkind, hspan⟩ :=
          hopened inner.span (by simp [Assembly.spans])
        refine ⟨segment, hmem, hkind, ?_⟩
        rw [← Except.error.inj hfinish, hspan]
        rfl

/-- The span of an error is that of a directive that stands in the template. -/
theorem exists_standsIn_of_compile {source : String} {error : CompileError}
    {span : Span} (herror : compile options source = .error error)
    (hspan : error.span? = some span) :
    ∃ (delimiters : Delimiters) (tag : Tag) (before after : List Char),
      options.delimiters = .ok delimiters ∧
        tag.StandsIn delimiters source.toList before after ∧ tag.span = span := by
  rcases options.delimiters_cases with
    ⟨-, refused, hrefused, hkind⟩ | ⟨-, delimiters, haccepted⟩
  · have hconfiguration : compile options source = .error refused := by
      rw [compile, hrefused]
    obtain rfl := Except.error.inj (herror.symm.trans hconfiguration)
    rw [error.kind_eq_configuration_iff.mp hkind] at hspan
    contradiction
  · obtain ⟨segment, hmem, hkind, hfound⟩ :=
      exists_directive_of_compile haccepted herror
    obtain ⟨tag, before, after, hstands, rfl⟩ :=
      Delimiters.split_directive hmem hkind
    exact ⟨delimiters, tag, before, after, haccepted, hstands,
      Option.some.inj (hfound.symm.trans hspan)⟩

end Stencil
