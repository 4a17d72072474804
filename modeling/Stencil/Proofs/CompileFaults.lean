import Stencil.Proofs.SegmentTags
import Mathlib

/-!
# Which error a template is refused with

The directives of a template are surveyed in order with no more than a count
of the blocks that are open.  The first directive that is at fault decides
the error; without one the error is about the innermost block that is still
open at the end, which is the one behind whose opening everything balances.

Compiling keeps whole blocks on a stack.  The file shows that it fails with
exactly the error that the survey finds, and that the error carries the span
of a directive of the template.
-/

namespace Stencil

/-! ## Faults of single directives -/

def Options.Knows (options : Options) (name : String) : Prop :=
  name ∈ options.formatters.names ∨ name ∈ NamedFormatter.builtIn.names

instance (options : Options) (name : String) : Decidable (options.Knows name) :=
  inferInstanceAs (Decidable (_ ∨ _))

/-- The formatters that the text of a substitution asks for: those behind the
separators, and the default one where there is no separator. -/
def Options.asked? (options : Options) (text : List Char) : Option (List String) :=
  match (text.splitOn options.separator).tail with
  | [] => options.defaultFormatter.map fun name => [name]
  | named => some (named.map String.ofList)

def Options.substitutionFault? (options : Options) (span : Span)
    (text : List Char) : Option CompileError :=
  match options.asked? text with
  | none => some (.missingFormatter span)
  | some names =>
      (names.find? fun name => ¬ options.Knows name).map fun name =>
        .badFormatter name span

def Tag.fault? (options : Options) (depth : ℕ) (tag : Tag) : Option CompileError :=
  match tag.directive with
  | .keyword .closing => if depth = 0 then some (.tooManyEnds tag.span) else none
  | .substitution text _ => options.substitutionFault? tag.span text
  | _ => none

/-- The number of blocks that are open behind a directive. -/
def Tag.depthBehind (depth : ℕ) (tag : Tag) : ℕ :=
  match tag.directive with
  | .keyword (.opening _ _) => depth + 1
  | .keyword .closing => depth - 1
  | _ => depth

def Tag.Opens (tag : Tag) : Prop :=
  ∃ repeats name, tag.directive = .keyword (.opening repeats name)

/-! ## The survey of a template -/

def survey (options : Options) : ℕ → List Tag → Except CompileError ℕ
  | depth, [] => .ok depth
  | depth, tag :: rest =>
      match tag.fault? options depth with
      | some error => .error error
      | none => survey options (tag.depthBehind depth) rest

inductive CompileFault (options : Options) (tags : List Tag) : CompileError → Prop
  /-- The first directive at fault; those before it are not. -/
  | atDirective {before after : List Tag} {tag : Tag} {depth : ℕ}
      {error : CompileError} (htags : tags = before ++ tag :: after)
      (hbefore : survey options 0 before = .ok depth)
      (hfault : tag.fault? options depth = some error) :
      CompileFault options tags error
  /-- No directive is at fault, blocks are open in the end, and everything
  behind the opening of this one balances. -/
  | atEnd {before after : List Tag} {tag : Tag} {depth : ℕ}
      (hsurvey : survey options 0 tags = .ok (depth + 1))
      (htags : tags = before ++ tag :: after) (hopens : tag.Opens)
      (hbalanced : survey options 0 after = .ok 0) :
      CompileFault options tags (.tooFewEnds tag.span)

theorem survey_append (options : Options) (depth : ℕ) (before after : List Tag) :
    survey options depth (before ++ after) =
      (survey options depth before).bind fun reached =>
        survey options reached after := by
  induction before generalizing depth with
  | nil => rfl
  | cons first rest ih =>
      cases hfirst : first.fault? options depth with
      | some error => simp [survey, hfirst, Except.bind]
      | none => simp [survey, hfirst, ih]

/-- A survey fails with the fault of a directive that it reaches. -/
theorem survey_eq_error_iff {options : Options} {depth : ℕ} {tags : List Tag}
    {error : CompileError} :
    survey options depth tags = .error error ↔
      ∃ before tag after reached, tags = before ++ tag :: after ∧
        survey options depth before = .ok reached ∧
        tag.fault? options reached = some error := by
  constructor
  · intro herror
    induction tags generalizing depth with
    | nil => simp [survey] at herror
    | cons first rest ih =>
        cases hfirst : first.fault? options depth with
        | some found =>
            obtain rfl : found = error := by simpa [survey, hfirst] using herror
            exact ⟨[], first, rest, depth, rfl, rfl, hfirst⟩
        | none =>
            obtain ⟨before, tag, after, reached, rfl, hbefore, hfault⟩ :=
              ih (by simpa [survey, hfirst] using herror)
            exact ⟨first :: before, tag, after, reached, rfl,
              by simpa [survey, hfirst] using hbefore, hfault⟩
  · rintro ⟨before, tag, after, reached, rfl, hbefore, hfault⟩
    rw [survey_append, hbefore]
    simp [Except.bind, survey, hfault]

/-- The spans of the blocks that are open behind a directive, the innermost
one first. -/
def Tag.spansBehind (spans : List Span) (tag : Tag) : List Span :=
  match tag.directive with
  | .keyword (.opening _ _) => tag.span :: spans
  | .keyword .closing => spans.tail
  | _ => spans

/-- A directive without fault opens a block, ends one, or leaves the blocks
as they are, at every depth. -/
theorem Tag.survey_cases {options : Options} {depth : ℕ} {tag : Tag}
    (hfault : tag.fault? options depth = none) :
    (tag.Opens ∧ (∀ spans, tag.spansBehind spans = tag.span :: spans) ∧
        ∀ d rest, survey options d (tag :: rest) = survey options (d + 1) rest) ∨
      (depth ≠ 0 ∧ (∀ spans, tag.spansBehind spans = spans.tail) ∧
        ∀ d rest, survey options (d + 1) (tag :: rest) = survey options d rest) ∨
      (∀ spans, tag.spansBehind spans = spans) ∧
        ∀ d rest, survey options d (tag :: rest) = survey options d rest := by
  cases hdirective : tag.directive with
  | comment => simp [survey, fault?, depthBehind, spansBehind, hdirective]
  | substitution text newline =>
      have hnone : options.substitutionFault? tag.span text = none := by
        simpa [fault?, hdirective] using hfault
      simp [survey, fault?, depthBehind, spansBehind, hdirective, hnone]
  | keyword word =>
      cases word with
      | closing =>
          have hdepth : depth ≠ 0 := by
            rintro rfl
            simp [fault?, hdirective] at hfault
          simp [survey, fault?, depthBehind, spansBehind, hdirective, hdepth]
      | opening repeats name =>
          have hopens : tag.Opens := ⟨repeats, name, hdirective⟩
          simp [survey, fault?, depthBehind, spansBehind, hdirective, hopens]
      | _ => simp [survey, fault?, depthBehind, spansBehind, hdirective]

/-- In directives without fault either all openings are closed, or the last
one that is not has balanced directives behind it. -/
theorem survey_unclosed {options : Options} {depth reached : ℕ} {tags : List Tag}
    (hsurvey : survey options depth tags = .ok reached) :
    (reached ≤ depth ∧ survey options (depth - reached) tags = .ok 0) ∨
      ∃ before tag after, tags = before ++ tag :: after ∧ tag.Opens ∧
        survey options 0 after = .ok 0 := by
  induction tags generalizing depth with
  | nil =>
      obtain rfl := Except.ok.inj hsurvey
      simp [survey]
  | cons first rest ih =>
      have hlater :
          (∃ before tag after, rest = before ++ tag :: after ∧ tag.Opens ∧
            survey options 0 after = .ok 0) →
          ∃ before tag after, first :: rest = before ++ tag :: after ∧
            tag.Opens ∧ survey options 0 after = .ok 0 := by
        rintro ⟨before, tag, after, rfl, hrest⟩
        exact ⟨first :: before, tag, after, rfl, hrest⟩
      cases hfault : first.fault? options depth with
      | some error => simp [survey, hfault] at hsurvey
      | none =>
          rcases Tag.survey_cases hfault with
            ⟨hopens, -, hstep⟩ | ⟨hdepth, -, hstep⟩ | ⟨-, hstep⟩
          · rw [hstep] at hsurvey
            rcases ih hsurvey with ⟨hreached, hrest⟩ | hrest
            · by_cases hclosed : reached ≤ depth
              · refine .inl ⟨hclosed, ?_⟩
                rw [hstep, ← hrest]
                congr 1
                omega
              · obtain rfl : reached = depth + 1 := by omega
                rw [Nat.sub_self] at hrest
                exact .inr ⟨[], first, rest, rfl, hopens, hrest⟩
            · exact .inr (hlater hrest)
          · obtain ⟨below, rfl⟩ := Nat.exists_eq_succ_of_ne_zero hdepth
            rw [hstep] at hsurvey
            rcases ih hsurvey with ⟨hreached, hrest⟩ | hrest
            · refine .inl ⟨by omega, ?_⟩
              have hsub : below.succ - reached = below - reached + 1 := by omega
              rw [hsub, hstep, hrest]
            · exact .inr (hlater hrest)
          · rw [hstep] at hsurvey
            rcases ih hsurvey with ⟨hreached, hrest⟩ | hrest
            · exact .inl ⟨hreached, by rw [hstep, hrest]⟩
            · exact .inr (hlater hrest)

/-- A survey that starts `depth` blocks above some spans and does not fail
leaves those spans alone. -/
theorem drop_spansBehind {options : Options} {depth reached : ℕ}
    {tags : List Tag} (hsurvey : survey options depth tags = .ok reached)
    (spans : List Span) :
    (tags.foldl Tag.spansBehind spans).drop reached = spans.drop depth := by
  induction tags generalizing depth spans with
  | nil =>
      obtain rfl := Except.ok.inj hsurvey
      rfl
  | cons first rest ih =>
      cases hfault : first.fault? options depth with
      | some error => simp [survey, hfault] at hsurvey
      | none =>
          rw [List.foldl_cons]
          rcases Tag.survey_cases hfault with
            ⟨-, hspans, hstep⟩ | ⟨hdepth, hspans, hstep⟩ | ⟨hspans, hstep⟩
          · rw [hstep] at hsurvey
            rw [hspans, ih hsurvey, List.drop_succ_cons]
          · obtain ⟨below, rfl⟩ := Nat.exists_eq_succ_of_ne_zero hdepth
            rw [hstep] at hsurvey
            rw [hspans, ih hsurvey, List.drop_tail]
          · rw [hstep] at hsurvey
            rw [hspans, ih hsurvey]

/-! ## Substitutions -/

theorem Entries.get?_eq_none_iff {α : Type} {name : String}
    {entries : Entries α} :
    entries.get? name = none ↔ name ∉ entries.names := by
  induction entries with
  | nil => simp [get?, names]
  | cons entry rest ih =>
      rcases entry with ⟨key, held⟩
      by_cases hkey : key = name
      · simp [get?, names, hkey]
      · simp only [get?, hkey, if_false, ih]
        simp [names, Ne.symm hkey]

theorem Options.find?_eq_none_iff {options : Options} {name : String} :
    NamedFormatter.find? options.formatters name = none ↔ ¬ options.Knows name := by
  rw [NamedFormatter.find?, Option.map_eq_none_iff, Option.or_eq_none_iff,
    Entries.get?_eq_none_iff, Entries.get?_eq_none_iff, Options.Knows, not_or]

theorem splitOn_eq_pieces (mark : Char) (text : List Char) :
    text.splitOn mark = (pieces mark text).1 :: (pieces mark text).2 := by
  induction text with
  | nil => rfl
  | cons c rest ih =>
      rw [List.splitOn, List.splitOnP_cons_eq_if_modifyHead, ← List.splitOn, ih]
      by_cases hc : c = mark <;> simp [pieces, hc]

theorem fst_pieces (mark : Char) (text : List Char) :
    (pieces mark text).1 = text.takeWhile (· ≠ mark) := by
  induction text with
  | nil => rfl
  | cons c rest ih => by_cases hc : c = mark <;> simp [pieces, hc, ih]

theorem resolveFormatters_eq_error_iff {options : Options} {span : Span}
    {names : List String} {error : CompileError} :
    resolveFormatters options span names = .error error ↔
      (names.find? fun name => ¬ options.Knows name).map
        (fun name => .badFormatter name span) = some error := by
  induction names with
  | nil => simp [resolveFormatters]
  | cons name rest ih =>
      cases hfind : NamedFormatter.find? options.formatters name with
      | none =>
          have hunknown := Options.find?_eq_none_iff.mp hfind
          simp [resolveFormatters, resolveFormatter, hfind, hunknown]
      | some formatter =>
          have hknown : options.Knows name := by
            by_contra hunknown
            simp [Options.find?_eq_none_iff.mpr hunknown] at hfind
          rw [List.find?_cons_of_neg (by simpa using hknown), ← ih]
          simp only [resolveFormatters, resolveFormatter, hfind]
          cases resolveFormatters options span rest <;> simp

theorem readSubstitution_eq_error_iff {options : Options} {span : Span}
    {text : List Char} {error : CompileError} :
    readSubstitution options span text = .error error ↔
      options.substitutionFault? span text = some error := by
  have hsplit := splitOn_eq_pieces options.separator text
  rcases hpieces : pieces options.separator text with ⟨name, _ | ⟨first, others⟩⟩
  · rw [hpieces] at hsplit
    cases hdefault : options.defaultFormatter with
    | none =>
        simp [readSubstitution, hpieces, hdefault, Options.substitutionFault?,
          Options.asked?, hsplit]
    | some default =>
        simp only [readSubstitution, hpieces, hdefault,
          Options.substitutionFault?, Options.asked?, hsplit, List.tail_cons,
          Option.map_some, ← resolveFormatters_eq_error_iff]
        cases resolveFormatters options span [default] <;> simp
  · rw [hpieces] at hsplit
    simp only [readSubstitution, hpieces, Options.substitutionFault?,
      Options.asked?, hsplit, List.tail_cons, ← resolveFormatters_eq_error_iff]
    cases resolveFormatters options span ((first :: others).map String.ofList) <;>
      simp

theorem Options.ne_nil_of_asked? {options : Options} {text : List Char}
    {names : List String} (hasked : options.asked? text = some names) :
    names ≠ [] := by
  unfold Options.asked? at hasked
  split at hasked
  next =>
    obtain ⟨name, -, rfl⟩ := Option.map_eq_some_iff.mp hasked
    exact List.cons_ne_nil _ _
  next named hsome =>
    obtain rfl := Option.some.inj hasked
    exact mt List.map_eq_nil_iff.mp hsome

theorem resolveFormatters_eq_ok_iff {options : Options} {span : Span}
    {names : List String} {formatters : List NamedFormatter} :
    resolveFormatters options span names = .ok formatters ↔
      List.Forall₂ (fun name formatter =>
        NamedFormatter.find? options.formatters name = some formatter)
        names formatters := by
  induction names generalizing formatters with
  | nil => simp [resolveFormatters, eq_comm]
  | cons name rest ih =>
      simp only [List.forall₂_cons_left_iff, ← ih, resolveFormatters,
        resolveFormatter]
      cases NamedFormatter.find? options.formatters name with
      | none => simp
      | some first =>
          cases resolveFormatters options span rest <;> simp [eq_comm]

/-- A substitution is read if the formatters that its text asks for are there.
Its name is the text in front of the first separator. -/
theorem readSubstitution_eq_ok_iff {options : Options} {span : Span}
    {text : List Char} {substitution : Substitution} :
    readSubstitution options span text = .ok substitution ↔
      substitution.name =
          String.ofList (text.takeWhile (· ≠ options.separator)) ∧
        ∃ names, options.asked? text = some names ∧
          List.Forall₂ (fun name formatter =>
            NamedFormatter.find? options.formatters name = some formatter)
            names substitution.formatters := by
  have hsplit := splitOn_eq_pieces options.separator text
  have hname := fst_pieces options.separator text
  rcases substitution with ⟨name, formatters⟩
  rcases hpieces : pieces options.separator text with ⟨front, _ | ⟨first, others⟩⟩
  · rw [hpieces] at hsplit hname
    cases hdefault : options.defaultFormatter with
    | none =>
        simp [readSubstitution, hpieces, hdefault, Options.asked?, hsplit]
    | some default =>
        simp only [readSubstitution, hpieces, hdefault, Options.asked?, hsplit,
          List.tail_cons, Option.map_some, Option.some.injEq, exists_eq_left',
          ← hname]
        rw [← @resolveFormatters_eq_ok_iff options span]
        cases resolveFormatters options span [default] <;> simp [eq_comm]
  · rw [hpieces] at hsplit hname
    simp only [readSubstitution, hpieces, Options.asked?, hsplit, List.tail_cons,
      Option.some.injEq, exists_eq_left', ← hname]
    rw [← @resolveFormatters_eq_ok_iff options span]
    cases resolveFormatters options span ((first :: others).map String.ofList) <;>
      simp [eq_comm]

/-! ## The stack of open blocks -/

namespace Assembly

def spans (assembly : Assembly) : List Span :=
  (assembly.inner :: assembly.around).map OpenBlock.span

theorem length_spans (assembly : Assembly) :
    assembly.spans.length = assembly.around.length + 1 := by
  simp [spans]

@[simp] theorem spans_modify (assembly : Assembly)
    (change : Draft Statement → Draft Statement) :
    (assembly.modify change).spans = assembly.spans := rfl

@[simp] theorem spans_append (assembly : Assembly) (statement : Statement) :
    (assembly.append statement).spans = assembly.spans := rfl

@[simp] theorem spans_literal (assembly : Assembly) (text : List Char) :
    (assembly.literal text).spans = assembly.spans := rfl

/-- A directive fails as the survey says, and otherwise changes the spans of
the open blocks as it says. -/
theorem directive_spans (options : Options) (delimiters : Delimiters)
    (assembly : Assembly) (tag : Tag) :
    (assembly.directive options delimiters tag.span tag.directive).map spans =
      match tag.fault? options assembly.around.length with
      | some error => .error error
      | none => .ok (tag.spansBehind assembly.spans) := by
  cases hdirective : tag.directive with
  | comment => simp [directive, Tag.fault?, Tag.spansBehind, hdirective, Except.map]
  | keyword word =>
      cases word with
      | closing =>
          rcases assembly with ⟨inner, _ | ⟨outer, around⟩⟩
          · simp [directive, keyword, pop?, Tag.fault?, hdirective, Except.map]
          · simp only [directive, keyword, pop?, Tag.fault?, Tag.spansBehind,
              hdirective, Except.map, spans_append]
            rfl
      | opening repeats name =>
          simp [directive, keyword, push, Tag.fault?, Tag.spansBehind, hdirective,
            Except.map, spans]
      | _ =>
          simp [directive, keyword, Tag.fault?, Tag.spansBehind, hdirective,
            Except.map]
  | substitution text newline =>
      simp only [directive, Tag.fault?, Tag.spansBehind, hdirective]
      cases hread : readSubstitution options tag.span text with
      | error error =>
          rw [readSubstitution_eq_error_iff.mp hread]
          rfl
      | ok substitution =>
          cases hfault : options.substitutionFault? tag.span text with
          | some error =>
              rw [readSubstitution_eq_error_iff.mpr hfault] at hread
              contradiction
          | none => cases newline <;> simp [Except.map]

theorem length_around_of_spans {assembly next : Assembly} {options : Options}
    {tag : Tag} (hfault : tag.fault? options assembly.around.length = none)
    (hspans : next.spans = tag.spansBehind assembly.spans) :
    next.around.length = tag.depthBehind assembly.around.length := by
  have hsurvey : survey options assembly.around.length [tag] =
      .ok (tag.depthBehind assembly.around.length) := by
    simp [survey, hfault]
  have hdrop := congrArg List.length (drop_spansBehind hsurvey assembly.spans)
  rw [List.foldl_cons, List.foldl_nil, ← hspans, List.length_drop,
    List.length_drop, length_spans, length_spans] at hdrop
  omega

/-- Segments fail as the survey of their directives says, and otherwise leave
those blocks open whose spans it keeps. -/
theorem segments_spans {options : Options} {delimiters : Delimiters}
    {source : List Char} (hright : delimiters.right.getLast? ≠ some '\n')
    {segments : List Segment}
    (hsegments : ∀ segment ∈ segments, segment ∈ delimiters.split source)
    (assembly : Assembly) :
    (assembly.segments options delimiters segments).map spans =
      let tags := segments.filterMap (Segment.tag? delimiters)
      (survey options assembly.around.length tags).map fun _ =>
        tags.foldl Tag.spansBehind assembly.spans := by
  induction segments generalizing assembly with
  | nil => rfl
  | cons segment rest ih =>
      have hrest := ih fun segment hmem => hsegments segment (by simp [hmem])
      cases hkind : segment.kind with
      | literal =>
          have htag : segment.tag? delimiters = none := by
            simp [Segment.tag?, hkind]
          simp only [Assembly.segments, Assembly.segment, hkind, hrest]
          rw [List.filterMap_cons_none htag]
          split <;> rfl
      | directive =>
          obtain ⟨tag, -, -, -, htag, hspan, hread⟩ :=
            Delimiters.split_tag hright (hsegments segment (by simp)) hkind
          have hstep := directive_spans options delimiters assembly tag
          simp only [Assembly.segments, Assembly.segment, hkind, hread, hspan]
          rw [List.filterMap_cons_some htag]
          cases hfault : tag.fault? options assembly.around.length with
          | some error =>
              rw [hfault] at hstep
              cases hnext : assembly.directive options delimiters tag.span
                  tag.directive with
              | error found =>
                  rw [hnext] at hstep
                  simpa [survey, hfault, Except.map] using hstep
              | ok next => simp [hnext, Except.map] at hstep
          | none =>
              rw [hfault] at hstep
              cases hnext : assembly.directive options delimiters tag.span
                  tag.directive with
              | error found => simp [hnext, Except.map] at hstep
              | ok next =>
                  have hspans : next.spans = tag.spansBehind assembly.spans := by
                    simpa [hnext, Except.map] using hstep
                  simp only [hrest, survey, hfault, List.foldl_cons, hspans,
                    length_around_of_spans hfault hspans]

theorem start_spans (options : Options) {delimiters : Delimiters}
    (hright : delimiters.right.getLast? ≠ some '\n') (source : List Char) :
    (start.segments options delimiters (delimiters.split source)).map spans =
      (survey options 0 (delimiters.tags source)).map fun _ =>
        (delimiters.tags source).foldl Tag.spansBehind start.spans :=
  segments_spans hright (fun _ hmem => hmem) start

end Assembly

/-! ## The outcome of compiling -/

/-- The opening behind which everything balances is that of the innermost open
block. -/
theorem head?_spansBehind {options : Options} {before after : List Tag}
    {tag : Tag} (hopens : tag.Opens)
    (hbalanced : survey options 0 after = .ok 0) (spans : List Span) :
    ((before ++ tag :: after).foldl Tag.spansBehind spans).head? =
      some tag.span := by
  obtain ⟨repeats, name, hdirective⟩ := hopens
  have hbehind := drop_spansBehind hbalanced
    (tag.spansBehind (before.foldl Tag.spansBehind spans))
  rw [List.drop_zero, List.drop_zero] at hbehind
  rw [List.foldl_append, List.foldl_cons, hbehind, Tag.spansBehind, hdirective,
    List.head?_cons]

/-- Options are accepted exactly if the separator is a bar or a colon and the
marker has a positive even number of characters. -/
theorem Options.delimiters_cases (options : Options) :
    ((options.separator ≠ '|' ∧ options.separator ≠ ':') ∨
        options.marker.length = 0 ∨ options.marker.length % 2 = 1) ∧
      (∃ error, options.delimiters = .error error ∧
        error.kind = "ConfigurationError") ∨
    ¬ ((options.separator ≠ '|' ∧ options.separator ≠ ':') ∨
        options.marker.length = 0 ∨ options.marker.length % 2 = 1) ∧
      ∃ delimiters, options.delimiters = .ok delimiters := by
  unfold Options.delimiters
  simp only [String.length_toList]
  split
  next hseparator => exact .inl ⟨.inl hseparator.symm, _, rfl, rfl⟩
  next hseparator =>
    split
    next hempty => exact .inl ⟨.inr (.inl hempty), _, rfl, rfl⟩
    next hempty =>
      split
      next hodd => exact .inl ⟨.inr (.inr hodd), _, rfl, rfl⟩
      next hodd =>
        refine .inr ⟨?_, _, rfl⟩
        rintro (hother | hother | hother)
        · exact hseparator hother.symm
        · exact hempty hother
        · exact hodd hother

section

variable {options : Options} {delimiters : Delimiters} {source : String}

theorem compile_of_survey_error
    (haccepted : options.delimiters = .ok delimiters)
    (hright : delimiters.right.getLast? ≠ some '\n') {error : CompileError}
    (hsurvey : survey options 0 (delimiters.tags source.toList) = .error error) :
    compile options source = .error error := by
  have hrun := Assembly.start_spans options hright source.toList
  rw [hsurvey] at hrun
  rw [compile, haccepted]
  cases hsegments : Assembly.start.segments options delimiters
      (delimiters.split source.toList) with
  | error found => simpa [hsegments, Except.map] using hrun
  | ok assembly => simp [hsegments, Except.map] at hrun

theorem compile_of_survey_ok
    (haccepted : options.delimiters = .ok delimiters)
    (hright : delimiters.right.getLast? ≠ some '\n') {depth : ℕ}
    (hsurvey : survey options 0 (delimiters.tags source.toList) = .ok depth) :
    ∃ assembly : Assembly, compile options source = assembly.finish ∧
      assembly.around.length = depth ∧
      assembly.spans =
        (delimiters.tags source.toList).foldl Tag.spansBehind
          Assembly.start.spans := by
  have hrun := Assembly.start_spans options hright source.toList
  rw [hsurvey] at hrun
  rw [compile, haccepted]
  cases hsegments : Assembly.start.segments options delimiters
      (delimiters.split source.toList) with
  | error found => simp [hsegments, Except.map] at hrun
  | ok assembly =>
      have hspans : assembly.spans =
          (delimiters.tags source.toList).foldl Tag.spansBehind
            Assembly.start.spans := by
        simpa [hsegments, Except.map] using hrun
      have hdrop := congrArg List.length
        (drop_spansBehind hsurvey Assembly.start.spans)
      rw [← hspans, List.length_drop, List.length_drop, Assembly.length_spans,
        Assembly.length_spans] at hdrop
      refine ⟨assembly, by simp [hsegments], ?_, hspans⟩
      simp only [Assembly.start, List.length_nil] at hdrop
      omega

theorem compile_eq_error_iff_fault
    (haccepted : options.delimiters = .ok delimiters)
    (hright : delimiters.right.getLast? ≠ some '\n') {error : CompileError} :
    compile options source = .error error ↔
      CompileFault options (delimiters.tags source.toList) error := by
  constructor
  · intro hcompile
    cases hsurvey : survey options 0 (delimiters.tags source.toList) with
    | error found =>
        obtain rfl : found = error := by
          simpa [compile_of_survey_error haccepted hright hsurvey] using hcompile
        obtain ⟨before, tag, after, depth, htags, hbefore, hfault⟩ :=
          survey_eq_error_iff.mp hsurvey
        exact .atDirective htags hbefore hfault
    | ok depth =>
        obtain ⟨⟨inner, around⟩, hfinish, hdepth, hspans⟩ :=
          compile_of_survey_ok haccepted hright hsurvey
        rw [hfinish] at hcompile
        rcases around with _ | ⟨outer, around⟩
        · simp [Assembly.finish] at hcompile
        · obtain rfl := Except.error.inj hcompile
          obtain rfl : around.length + 1 = depth := hdepth
          -- A block is open, so the survey cannot have come down to none.
          rcases survey_unclosed hsurvey with
            ⟨hreached, -⟩ | ⟨before, tag, after, htags, hopens, hbalanced⟩
          · omega
          · have hhead := congrArg List.head? hspans
            rw [htags, head?_spansBehind hopens hbalanced] at hhead
            have hinner : inner.span = tag.span := Option.some.inj hhead
            rw [hinner]
            exact .atEnd hsurvey htags hopens hbalanced
  · intro hfault
    cases hfault with
    | atDirective htags hbefore hfault =>
        exact compile_of_survey_error haccepted hright
          (survey_eq_error_iff.mpr ⟨_, _, _, _, htags, hbefore, hfault⟩)
    | atEnd hsurvey htags hopens hbalanced =>
        obtain ⟨⟨inner, around⟩, hfinish, hdepth, hspans⟩ :=
          compile_of_survey_ok haccepted hright hsurvey
        have hhead := congrArg List.head? hspans
        rw [htags, head?_spansBehind hopens hbalanced] at hhead
        have hinner : inner.span = _ := Option.some.inj hhead
        rcases around with _ | ⟨outer, around⟩
        · simp at hdepth
        · rw [hfinish, ← hinner]
          rfl

end

/-! ## The span of an error -/

/-- Faults of the options, and only these, have no place in the template. -/
theorem CompileError.kind_eq_configuration_iff (error : CompileError) :
    error.kind = "ConfigurationError" ↔ error.span? = none := by
  cases error <;> simp [kind, span?]

theorem Options.span?_of_substitutionFault? {options : Options} {span : Span}
    {text : List Char} {error : CompileError}
    (hfault : options.substitutionFault? span text = some error) :
    error.span? = some span := by
  unfold Options.substitutionFault? at hfault
  split at hfault
  next => rw [← Option.some.inj hfault]; rfl
  next =>
    obtain ⟨name, -, rfl⟩ := Option.map_eq_some_iff.mp hfault
    rfl

theorem Tag.span?_of_fault? {options : Options} {depth : ℕ} {tag : Tag}
    {error : CompileError} (hfault : tag.fault? options depth = some error) :
    error.span? = some tag.span := by
  unfold Tag.fault? at hfault
  split at hfault
  next =>
    split at hfault
    next => rw [← Option.some.inj hfault]; rfl
    next => contradiction
  next => exact Options.span?_of_substitutionFault? hfault
  next => contradiction

theorem CompileFault.exists_tag {options : Options} {tags : List Tag}
    {error : CompileError} (hfault : CompileFault options tags error) :
    ∃ tag ∈ tags, error.span? = some tag.span := by
  cases hfault with
  | @atDirective before after tag depth _ htags hbefore hfault =>
      exact ⟨tag, by simp [htags], Tag.span?_of_fault? hfault⟩
  | @atEnd before after tag depth hsurvey htags hopens hbalanced =>
      exact ⟨tag, by simp [htags], rfl⟩

theorem Assembly.span?_of_directive {options : Options}
    {delimiters : Delimiters} {span : Span} {assembly : Assembly}
    {directive : Directive} {error : CompileError}
    (herror : assembly.directive options delimiters span directive = .error error) :
    error.span? = some span := by
  cases directive with
  | comment => simp [Assembly.directive] at herror
  | keyword word =>
      cases word with
      | closing =>
          rcases assembly with ⟨inner, _ | ⟨outer, around⟩⟩
          · rw [← Except.error.inj herror]
            rfl
          · simp [Assembly.directive, Assembly.keyword, Assembly.pop?] at herror
      | _ => simp [Assembly.directive, Assembly.keyword] at herror
  | substitution text newline =>
      cases hread : readSubstitution options span text with
      | error found =>
          obtain rfl : found = error := by
            simpa [Assembly.directive, hread] using herror
          exact Options.span?_of_substitutionFault?
            (readSubstitution_eq_error_iff.mp hread)
      | ok substitution => simp [Assembly.directive, hread] at herror

theorem Assembly.exists_directive_of_segments {options : Options}
    {delimiters : Delimiters} {segments : List Segment} {assembly : Assembly}
    {error : CompileError}
    (herror : assembly.segments options delimiters segments = .error error) :
    ∃ segment ∈ segments,
      segment.kind = .directive ∧ error.span? = some segment.span := by
  induction segments generalizing assembly with
  | nil => simp [Assembly.segments] at herror
  | cons segment rest ih =>
      rw [Assembly.segments] at herror
      cases hnext : assembly.segment options delimiters segment with
      | ok next =>
          obtain ⟨found, hmem, hfound⟩ := ih (by simpa [hnext] using herror)
          exact ⟨found, List.mem_cons_of_mem segment hmem, hfound⟩
      | error found =>
          obtain rfl : found = error := by simpa [hnext] using herror
          unfold Assembly.segment at hnext
          split at hnext
          next => contradiction
          next hkind =>
            exact ⟨segment, by simp, hkind, Assembly.span?_of_directive hnext⟩

theorem span?_of_compile {options : Options} {delimiters : Delimiters}
    (haccepted : options.delimiters = .ok delimiters) {source : String}
    {error : CompileError} (herror : compile options source = .error error) :
    error.span? ≠ none := by
  rw [compile, haccepted] at herror
  cases hsegments : Assembly.start.segments options delimiters
      (delimiters.split source.toList) with
  | error found =>
      obtain rfl : found = error := by simpa [hsegments] using herror
      obtain ⟨segment, -, -, hspan⟩ :=
        Assembly.exists_directive_of_segments hsegments
      simp [hspan]
  | ok assembly =>
      have hfinish : assembly.finish = .error error := by
        simpa [hsegments] using herror
      unfold Assembly.finish at hfinish
      split at hfinish
      next => contradiction
      next => simp [← Except.error.inj hfinish, CompileError.span?]

theorem Delimiters.exists_standsIn_of_mem_tags {delimiters : Delimiters}
    (hright : delimiters.right.getLast? ≠ some '\n') {source : List Char}
    {tag : Tag} (hmem : tag ∈ delimiters.tags source) :
    ∃ before after, tag.StandsIn delimiters source before after := by
  obtain ⟨segment, hsegment, htag⟩ := List.mem_filterMap.mp hmem
  have hkind : segment.kind = .directive := by
    cases hkind : segment.kind with
    | literal => simp [Segment.tag?, hkind] at htag
    | directive => rfl
  obtain ⟨found, before, after, hstands, hfound, -, -⟩ :=
    Delimiters.split_tag hright hsegment hkind
  obtain rfl := Option.some.inj (hfound.symm.trans htag)
  exact ⟨before, after, hstands⟩

/-- Options that are not accepted are at fault whatever the template says.
Under accepted options the error is the one that the directives decide, and
it carries the span of one of them. -/
theorem compile_outcome (options : Options) (source : String) :
    ((∃ error, compile options source = .error error ∧
        error.kind = "ConfigurationError") ↔
      (options.separator ≠ '|' ∧ options.separator ≠ ':') ∨
        options.marker.length = 0 ∨ options.marker.length % 2 = 1) ∧
    (∀ delimiters, options.delimiters = .ok delimiters →
      delimiters.right.getLast? ≠ some '\n' →
      ∀ error,
        (compile options source = .error error ↔
          CompileFault options (delimiters.tags source.toList) error) ∧
        (compile options source = .error error →
          ∃ tag ∈ delimiters.tags source.toList,
            error.span? = some tag.span ∧
              ∃ before after, tag.StandsIn delimiters source.toList before after)) ∧
    ∀ span,
      (CompileError.tooManyEnds span).describe =
          "TemplateSyntaxError: Got too many \x7bend\x7d statements" ∧
        (CompileError.tooFewEnds span).describe =
          "TemplateSyntaxError: Got too few \x7bend\x7d statements" := by
  refine ⟨?_, ?_, fun span => ⟨rfl, rfl⟩⟩
  · rcases options.delimiters_cases with
      ⟨hrefused, error, herror, hkind⟩ | ⟨hfine, delimiters, haccepted⟩
    · exact iff_of_true ⟨error, by rw [compile, herror], hkind⟩ hrefused
    · refine iff_of_false ?_ hfine
      rintro ⟨error, herror, hkind⟩
      exact span?_of_compile haccepted herror
        (error.kind_eq_configuration_iff.mp hkind)
  · intro delimiters haccepted hright error
    have hiff : compile options source = .error error ↔ _ :=
      compile_eq_error_iff_fault haccepted hright
    refine ⟨hiff, fun hcompile => ?_⟩
    obtain ⟨tag, hmem, hspan⟩ := (hiff.mp hcompile).exists_tag
    exact ⟨tag, hmem, hspan, Delimiters.exists_standsIn_of_mem_tags hright hmem⟩

theorem compile_section_left_open :
    compile .standard "é\x7b.section a\x7d\n\x7b.section b\x7d\x7b.end\x7d" =
      .error (.tooFewEnds ⟨2, 15⟩) := by
  let source := "é\x7b.section a\x7d\n\x7b.section b\x7d\x7b.end\x7d"
  let braces : Delimiters := ⟨['\x7b'], ['\x7d']⟩
  let opening : Tag := ⟨".section a".toList, true, ⟨2, 15⟩⟩
  let after : List Tag :=
    [⟨".section b".toList, false, ⟨15, 27⟩⟩, ⟨".end".toList, false, ⟨27, 33⟩⟩]
  have htags : braces.tags source.toList = [] ++ opening :: after := by cbv
  have hsurvey : survey .standard 0 (braces.tags source.toList) = .ok (0 + 1) := by
    rw [htags]
    cbv
  have hopens : opening.Opens := ⟨false, some "a", by cbv⟩
  have hbalanced : survey .standard 0 after = .ok 0 := by cbv
  have hiff := ((compile_outcome .standard source).2.1 braces rfl (by decide)
    (.tooFewEnds opening.span)).1
  exact hiff.mpr (.atEnd hsurvey htags hopens hbalanced)

end Stencil
