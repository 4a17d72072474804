import Stencil.Proofs.SegmentTags
import Mathlib.Tactic

/-!
# What a directive is read from

The cut knows where the halves of a directive lie and whether it took a line
feed behind them.  Reading finds both out again from the raw text: it sets one
line feed at the end aside and takes the halves off what is left.

The two agree unless the right half ends in a line feed and no other one was
taken behind it.  The line feed that is set aside then belongs to the right
half, the rest of the half does not end the text any more, and the text stands
as it is: the left half, the body and what is left of the right half together
are read as a body with a line feed behind it.
-/

namespace Stencil

/-- The line feed at the end of the raw text is the right half's own. -/
def Tag.Torn (delimiters : Delimiters) (tag : Tag) : Prop :=
  tag.newline = false ∧ delimiters.right.getLast? = some '\n'

instance (delimiters : Delimiters) (tag : Tag) : Decidable (tag.Torn delimiters) :=
  inferInstanceAs (Decidable (_ ∧ _))

section

variable {delimiters : Delimiters} {tag : Tag}

/-- Without its last line feed the right half does not end the text: the body
has no line feed, so one would be missing. -/
theorem Directive.read_of_torn (hline : '\n' ∉ tag.body)
    (htorn : tag.Torn delimiters) :
    Directive.read delimiters (tag.text delimiters) =
      Directive.ofBody
        (delimiters.left ++ tag.body ++ delimiters.right.dropLast) true := by
  obtain ⟨hnewline, hlast⟩ := htorn
  obtain ⟨half, hright⟩ := List.getLast?_eq_some_iff.mp hlast
  have hdropLast : delimiters.right.dropLast = half := by
    rw [hright, List.dropLast_concat]
  have htext : tag.text delimiters =
      delimiters.left ++ (tag.body ++ half) ++ ['\n'] := by
    simp [Tag.text, Tag.lineFeed, hnewline, hright]
  have haside : setAsideNewline (tag.text delimiters) =
      (delimiters.left ++ (tag.body ++ half), true) := by
    rw [setAsideNewline, htext, dropBack?_append]
  have hback : dropBack? delimiters.right (tag.body ++ half) = none := by
    apply dropBack?_eq_none
    intro rest heq
    have hcount := congrArg (List.count '\n') heq
    have hbody : tag.body.count '\n' = 0 := List.count_eq_zero.mpr hline
    simp only [hright, List.count_append, List.count_singleton_self, hbody]
      at hcount
    omega
  have hbetween : between delimiters (delimiters.left ++ (tag.body ++ half)) =
      delimiters.left ++ (tag.body ++ half) := by
    simp [between, hback]
  simp only [read, haside, hbetween, hdropLast, List.append_assoc]

theorem Directive.read_text_eq (hbody : tag.body ≠ []) (hline : '\n' ∉ tag.body) :
    Directive.read delimiters (tag.text delimiters) =
      if tag.Torn delimiters then
        Directive.ofBody
          (delimiters.left ++ tag.body ++ delimiters.right.dropLast) true
      else Directive.ofBody tag.body tag.newline := by
  by_cases htorn : tag.Torn delimiters
  · rw [if_pos htorn]
    exact read_of_torn hline htorn
  · rw [if_neg htorn]
    cases hnewline : tag.newline with
    | true =>
        rw [← hnewline]
        exact read_of_newline hnewline
    | false =>
        have hright : delimiters.right.getLast? ≠ some '\n' := by
          intro hlast
          exact htorn ⟨hnewline, hlast⟩
        rw [← hnewline]
        exact read_text hright hbody hline

/-- The raw text fixes the body and the line feed behind the right half. -/
theorem Tag.eq_of_text_eq {other : Tag} (hline : '\n' ∉ tag.body)
    (hother : '\n' ∉ other.body)
    (htext : other.text delimiters = tag.text delimiters) :
    other.body = tag.body ∧ other.newline = tag.newline := by
  have hinner : other.body ++ (delimiters.right ++ other.lineFeed) =
      tag.body ++ (delimiters.right ++ tag.lineFeed) := by
    simpa [text] using htext
  have hcount := congrArg (List.count '\n') hinner
  simp only [List.count_append, List.count_eq_zero.mpr hline,
    List.count_eq_zero.mpr hother] at hcount
  have hnewline : other.newline = tag.newline := by
    revert hcount
    unfold lineFeed
    cases other.newline <;> cases tag.newline <;> simp
  have hlineFeed : other.lineFeed = tag.lineFeed := by
    unfold lineFeed
    rw [hnewline]
  rw [hlineFeed] at hinner
  exact ⟨List.append_cancel_right hinner, hnewline⟩

end

/-- Every directive of a cut is compiled from its body, and from the line feed
behind it exactly if one was taken, unless the right half is torn.  Then it is
compiled from all of the raw text but the last line feed. -/
theorem Assembly.segment_compiled_from_body (options : Options)
    (delimiters : Delimiters) {source : List Char} {segment : Segment}
    (hsegment : segment ∈ delimiters.split source)
    (hkind : segment.kind = .directive) :
    ∃ (tag : Tag) (before after : List Char),
      tag.StandsIn delimiters source before after ∧
        segment = ⟨.directive, tag.text delimiters, tag.span⟩ ∧
        (∀ other : Tag, '\n' ∉ other.body →
          other.text delimiters = segment.text →
            other.body = tag.body ∧ other.newline = tag.newline) ∧
        ∀ assembly : Assembly,
          assembly.segment options delimiters segment =
            assembly.directive options delimiters segment.span
              (if tag.Torn delimiters then
                Directive.ofBody
                  (delimiters.left ++ tag.body ++ delimiters.right.dropLast) true
              else Directive.ofBody tag.body tag.newline) := by
  obtain ⟨tag, before, after, hstands, rfl⟩ :=
    Delimiters.split_directive hsegment hkind
  have hline := hstands.body_in_line
  have hread : Directive.read delimiters (tag.text delimiters) = _ :=
    Directive.read_text_eq hstands.body_ne_nil hline
  refine ⟨tag, before, after, hstands, rfl, ?_, ?_⟩
  · intro other hother htext
    exact Tag.eq_of_text_eq hline hother htext
  · intro assembly
    simp only [segment, hread]

/-- A right half that is a line feed itself, with a further one behind it. -/
theorem Assembly.segment_compiled_with_second_line_feed :
    let options : Options := ⟨[], some "str", '|', "<\n"⟩
    let delimiters : Delimiters := ⟨['<'], ['\n']⟩
    let segment : Segment := ⟨.directive, "<x\n\n".toList, ⟨1, 5⟩⟩
    segment ∈ delimiters.split "a<x\n\n".toList ∧
      Assembly.start.segment options delimiters segment =
        Assembly.start.directive options delimiters ⟨1, 5⟩
          (.substitution ['x'] true) := by
  intro options delimiters segment
  have hsplit : delimiters.split "a<x\n\n".toList =
      [⟨.literal, ['a'], ⟨0, 1⟩⟩, segment, ⟨.literal, [], ⟨5, 5⟩⟩] := by
    cbv
  have hsegment : segment ∈ delimiters.split "a<x\n\n".toList := by
    rw [hsplit]
    simp
  obtain ⟨tag, before, after, hstands, hraw, hunique, hcompiled⟩ :=
    segment_compiled_from_body options delimiters hsegment rfl
  obtain ⟨hbody, hnewline⟩ := hunique ⟨['x'], true, ⟨1, 5⟩⟩ (by decide) rfl
  have hwhole : ¬ tag.Torn delimiters := by
    simp [Tag.Torn, ← hnewline]
  refine ⟨hsegment, ?_⟩
  rw [hcompiled, if_neg hwhole, ← hbody, ← hnewline]
  rfl

/-- The body of the only directive is `name`, and no line feed was taken.  It
is nevertheless compiled with the left half in front of the name and a line
feed behind the value. -/
theorem compile_torn_right_half :
    let options : Options := ⟨[], some "str", '|', "<\n"⟩
    let delimiters : Delimiters := ⟨['<'], ['\n']⟩
    let tag : Tag := ⟨"name".toList, false, ⟨0, 6⟩⟩
    options.delimiters = .ok delimiters ∧
      tag.StandsIn delimiters "<name\n".toList [] [] ∧
      ⟨.directive, tag.text delimiters, tag.span⟩ ∈
        delimiters.split "<name\n".toList ∧
      Directive.read delimiters (tag.text delimiters) =
        .substitution "<name".toList true ∧
      Directive.ofBody tag.body tag.newline =
        .substitution "name".toList false ∧
      compile options "<name\n" =
        .ok ⟨none, [.substitute ⟨"<name", [⟨"str", Value.text⟩]⟩, .literal "\n"],
          [], []⟩ := by
  intro options delimiters tag
  have hsplit : delimiters.split "<name\n".toList =
      [⟨.literal, [], ⟨0, 0⟩⟩, ⟨.directive, tag.text delimiters, tag.span⟩,
        ⟨.literal, [], ⟨6, 6⟩⟩] := by
    cbv
  refine ⟨by cbv, ⟨rfl, rfl, by decide, by decide, by decide⟩, ?_, by cbv, by cbv,
    ?_⟩
  · rw [hsplit]
    simp
  · unfold compile
    cbv

end Stencil
