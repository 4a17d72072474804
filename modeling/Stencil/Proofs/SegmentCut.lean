import Stencil.Proofs.SegmentTags
import Mathlib.Tactic

/-!
# The cut of a template is the only one

What a cut has to be is said here without reference to how it is found: by
turns literal text and directives, side by side from one end of the source to
the other, each directive as short as it can be, and no directive at any
position of a literal.  For every pair of halves the segments of a source
have these properties, and no other list of segments has them.

Two cuts that start at the same byte agree: where one of them ends its literal
a directive begins, which the other cannot have inside of a literal of its
own.
-/

namespace Stencil

/-! ## Literals and directives in their source -/

/-- A directive begins the text; what follows its right half does not
matter. -/
def Delimiters.Opens (delimiters : Delimiters) (text : List Char) : Prop :=
  ∃ body rest, body ≠ [] ∧ '\n' ∉ body ∧
    text = delimiters.left ++ body ++ delimiters.right ++ rest

def Segment.IsDirective (delimiters : Delimiters) (source : List Char)
    (segment : Segment) : Prop :=
  ∃ (tag : Tag) (before after : List Char),
    tag.StandsIn delimiters source before after ∧
      tag.EndsFirst delimiters after ∧
      segment = ⟨.directive, tag.text delimiters, tag.span⟩

structure Segment.IsLiteral (delimiters : Delimiters) (source : List Char)
    (segment : Segment) : Prop where
  kind_eq : segment.kind = .literal
  in_place : ∃ before after, source = before ++ segment.text ++ after ∧
    segment.span = ⟨byteCount before, byteCount (before ++ segment.text)⟩
  no_directive : ∀ before after, source = before ++ after →
    segment.span.start ≤ byteCount before →
    byteCount before < segment.span.stop → ¬ delimiters.Opens after

/-- The segments are a cut of the source from byte `start` on. -/
structure Delimiters.Cut (delimiters : Delimiters) (source : List Char)
    (start : ℕ) (segments : List Segment) : Prop where
  odd_length : segments.length % 2 = 1
  literal : ∀ index segment, segments[index]? = some segment →
    index % 2 = 0 → segment.IsLiteral delimiters source
  directive : ∀ index segment, segments[index]? = some segment →
    index % 2 = 1 → segment.IsDirective delimiters source
  start_eq : segments.head?.map (fun segment => segment.span.start) = some start
  contiguous :
    segments.IsChain fun first second => first.span.stop = second.span.start
  stop_eq : segments.getLast?.map (fun segment => segment.span.stop) =
    some (byteCount source)

/-! ## Positions -/

theorem byteCount_eq_zero_iff {text : List Char} :
    byteCount text = 0 ↔ text = [] := by
  cases text with
  | nil => simp
  | cons c rest =>
      have hsize := c.utf8Size_pos
      simp only [byteCount_cons, reduceCtorEq, iff_false]
      omega

theorem eq_of_byteCount_eq {before after other behind : List Char}
    (htext : before ++ after = other ++ behind)
    (hcount : byteCount before = byteCount other) :
    before = other ∧ after = behind := by
  rcases List.append_eq_append_iff.mp htext with
    ⟨between, rfl, rfl⟩ | ⟨between, rfl, rfl⟩
  all_goals
    rw [byteCount_append] at hcount
    have hnone : byteCount between = 0 := by omega
    obtain rfl := byteCount_eq_zero_iff.mp hnone
    simp

/-! ## Directives -/

theorem closeBody_of_first {right own after : List Char} (hown : own ≠ [])
    (hline : '\n' ∉ own)
    (hfirst : ∀ front back, own = front ++ back → front ≠ [] → back ≠ [] →
      ¬ right <+: back ++ right ++ after) (seen : List Char) :
    closeBody right seen (own ++ right ++ after) =
      some (seen.reverse ++ own, after) := by
  induction own generalizing seen with
  | nil => contradiction
  | cons c rest ih =>
      have hc : c ≠ '\n' := by
        rintro rfl
        simp at hline
      simp only [List.cons_append, closeBody, hc, if_false]
      cases rest with
      | nil => simp
      | cons d more =>
          have hopen : dropFront? right (d :: more ++ right ++ after) = none := by
            apply dropFront?_eq_none_iff.mpr
            intro behind hbehind
            have hno := hfirst [c] (d :: more) rfl (by simp) (by simp)
            exact hno ⟨behind, hbehind.symm⟩
          have hlater : ∀ front back, d :: more = front ++ back → front ≠ [] →
              back ≠ [] → ¬ right <+: back ++ right ++ after := by
            intro front back hsplit hfront hback
            exact hfirst (c :: front) back (by simp [hsplit]) (by simp) hback
          have hrest := ih (by simp) (List.not_mem_of_not_mem_cons hline) hlater
            (c :: seen)
          rw [hopen]
          simpa using hrest

theorem closeBody_ne_none {right seen own rest : List Char} (hown : own ≠ [])
    (hline : '\n' ∉ own) : closeBody right seen (own ++ right ++ rest) ≠ none := by
  induction own generalizing seen with
  | nil => contradiction
  | cons c more ih =>
      have hc : c ≠ '\n' := by
        rintro rfl
        simp at hline
      simp only [List.cons_append, closeBody, hc, if_false]
      split
      next => simp
      next hopen =>
        cases more with
        | nil => simp at hopen
        | cons d others =>
            exact ih (by simp) (List.not_mem_of_not_mem_cons hline)

theorem takeNewline_lineFeed {tag : Tag} {after : List Char}
    (htaken : tag.newline = false → after.head? ≠ some '\n') :
    takeNewline (tag.lineFeed ++ after) = (tag.lineFeed, after) := by
  unfold Tag.lineFeed
  cases hnewline : tag.newline with
  | true => rfl
  | false =>
      unfold takeNewline
      split
      next rest heq =>
        have hhead := htaken hnewline
        simp only [Bool.false_eq_true, if_false, List.nil_append] at heq
        simp [heq] at hhead
      next => simp

namespace Delimiters

variable {delimiters : Delimiters} {source : List Char}

theorem directive?_of_standsIn {tag : Tag} {before after : List Char}
    (hstands : tag.StandsIn delimiters source before after)
    (hfirst : tag.EndsFirst delimiters after) :
    delimiters.directive? (tag.text delimiters ++ after) =
      some (tag.text delimiters, after) := by
  have hclose : closeBody delimiters.right []
      (tag.body ++ delimiters.right ++ (tag.lineFeed ++ after)) =
        some (tag.body, tag.lineFeed ++ after) := by
    apply closeBody_of_first hstands.body_ne_nil hstands.body_in_line
    intro front back hsplit hfront hback
    rw [← List.append_assoc]
    exact hfirst front back hsplit hfront hback
  have htext : tag.text delimiters ++ after = delimiters.left ++
      (tag.body ++ delimiters.right ++ (tag.lineFeed ++ after)) := by
    simp [Tag.text]
  have hnewline := takeNewline_lineFeed hstands.newline_taken
  rw [htext]
  simp only [directive?, dropFront?_append, hclose, hnewline, Tag.text]

theorem directive?_eq_none_iff {text : List Char} :
    delimiters.directive? text = none ↔ ¬ delimiters.Opens text := by
  constructor
  · rintro hnone ⟨body, rest, hbody, hline, rfl⟩
    have hclose : closeBody delimiters.right []
        (body ++ delimiters.right ++ rest) ≠ none :=
      closeBody_ne_none hbody hline
    rw [List.append_assoc, List.append_assoc, ← List.append_assoc body] at hnone
    simp only [directive?, dropFront?_append] at hnone
    split at hnone
    next hopen => exact hclose hopen
    next => contradiction
  · intro hopens
    by_contra hsome
    obtain ⟨⟨found, after⟩, hfound⟩ := Option.ne_none_iff_exists'.mp hsome
    obtain ⟨tag, hstands, -, rfl⟩ := directive?_standsIn [] hfound
    apply hopens
    refine ⟨tag.body, tag.lineFeed ++ after, hstands.body_ne_nil,
      hstands.body_in_line, ?_⟩
    simpa [Tag.text] using hstands.source_eq

end Delimiters

/-! ## Segments of a cut -/

namespace Segment

variable {delimiters : Delimiters} {source : List Char} {first second : Segment}

theorem IsDirective.opens (hdirective : first.IsDirective delimiters source) :
    ∃ before after, source = before ++ after ∧
      byteCount before = first.span.start ∧ delimiters.Opens after := by
  obtain ⟨tag, before, after, hstands, -, rfl⟩ := hdirective
  refine ⟨before, tag.text delimiters ++ after, ?_, ?_, ?_⟩
  · rw [hstands.source_eq, List.append_assoc]
  · rw [hstands.span_eq]
  · exact ⟨tag.body, tag.lineFeed ++ after, hstands.body_ne_nil,
      hstands.body_in_line, by simp [Tag.text]⟩

theorem IsDirective.text_ne_nil
    (hdirective : first.IsDirective delimiters source) : first.text ≠ [] := by
  obtain ⟨tag, before, after, hstands, -, rfl⟩ := hdirective
  have hbody := hstands.body_ne_nil
  simp [Tag.text, hbody]

theorem IsDirective.start_lt_stop
    (hdirective : first.IsDirective delimiters source) :
    first.span.start < first.span.stop := by
  obtain ⟨tag, before, after, hstands, -, rfl⟩ := hdirective
  have hbody : byteCount tag.body ≠ 0 := by
    intro hzero
    exact hstands.body_ne_nil (byteCount_eq_zero_iff.mp hzero)
  rw [hstands.span_eq]
  simp only [Tag.text, byteCount_append]
  omega

theorem IsDirective.stop_le (hdirective : first.IsDirective delimiters source) :
    first.span.stop ≤ byteCount source := by
  obtain ⟨tag, before, after, hstands, -, rfl⟩ := hdirective
  rw [hstands.span_eq, hstands.source_eq]
  simp only [byteCount_append]
  omega

/-- No directive begins inside of a literal. -/
theorem IsLiteral.stop_le_of_isDirective
    (hliteral : first.IsLiteral delimiters source)
    (hdirective : second.IsDirective delimiters source)
    (hstart : first.span.start ≤ second.span.start) :
    first.span.stop ≤ second.span.start := by
  obtain ⟨before, after, hsource, hcount, hopens⟩ := hdirective.opens
  by_contra hinside
  exact hliteral.no_directive before after hsource (by omega) (by omega) hopens

theorem IsLiteral.start_le_stop (hliteral : first.IsLiteral delimiters source) :
    first.span.start ≤ first.span.stop := by
  obtain ⟨before, after, -, hspan⟩ := hliteral.in_place
  rw [hspan, byteCount_append]
  exact Nat.le_add_right _ _

theorem IsLiteral.stop_le (hliteral : first.IsLiteral delimiters source) :
    first.span.stop ≤ byteCount source := by
  obtain ⟨before, after, hsource, hspan⟩ := hliteral.in_place
  rw [hspan, hsource]
  simp only [byteCount_append]
  omega

theorem IsLiteral.eq_of_span_eq (hfirst : first.IsLiteral delimiters source)
    (hsecond : second.IsLiteral delimiters source)
    (hspan : first.span = second.span) : first = second := by
  obtain ⟨before, after, hsource, hplace⟩ := hfirst.in_place
  obtain ⟨other, behind, hother, hplaceOther⟩ := hsecond.in_place
  obtain ⟨hstart, hstop⟩ :=
    Span.mk.inj (hplace.symm.trans (hspan.trans hplaceOther))
  obtain ⟨hboth, -⟩ :=
    eq_of_byteCount_eq (hsource.symm.trans hother) hstop
  have htext : first.text = second.text :=
    (eq_of_byteCount_eq hboth hstart).2
  have hkind : first.kind = second.kind := by
    rw [hfirst.kind_eq, hsecond.kind_eq]
  calc first = ⟨first.kind, first.text, first.span⟩ := rfl
    _ = ⟨second.kind, second.text, second.span⟩ := by rw [hkind, htext, hspan]

theorem IsDirective.eq_of_start_eq
    (hfirst : first.IsDirective delimiters source)
    (hsecond : second.IsDirective delimiters source)
    (hstart : first.span.start = second.span.start) : first = second := by
  obtain ⟨tag, before, after, hstands, hends, rfl⟩ := hfirst
  obtain ⟨other, front, behind, hstandsOther, hendsOther, rfl⟩ := hsecond
  rw [hstands.span_eq, hstandsOther.span_eq] at hstart
  have hsource : before ++ (tag.text delimiters ++ after) =
      front ++ (other.text delimiters ++ behind) := by
    rw [← List.append_assoc, ← List.append_assoc, ← hstands.source_eq,
      ← hstandsOther.source_eq]
  obtain ⟨rfl, hrest⟩ := eq_of_byteCount_eq hsource hstart
  have hfound := Delimiters.directive?_of_standsIn hstands hends
  rw [hrest, Delimiters.directive?_of_standsIn hstandsOther hendsOther] at hfound
  have htext : other.text delimiters = tag.text delimiters :=
    (Prod.mk.inj (Option.some.inj hfound)).1
  rw [hstands.span_eq, hstandsOther.span_eq, htext]

end Segment

namespace Delimiters

variable {delimiters : Delimiters} {source : List Char} {start : ℕ}
  {first second : Segment} {rest : List Segment}

theorem not_cut_nil : ¬ delimiters.Cut source start [] := by
  intro hcut
  have hodd := hcut.odd_length
  simp at hodd

theorem cut_singleton_iff :
    delimiters.Cut source start [first] ↔
      first.IsLiteral delimiters source ∧ first.span.start = start ∧
        first.span.stop = byteCount source := by
  constructor
  · intro hcut
    exact ⟨hcut.literal 0 first rfl rfl, by simpa using hcut.start_eq,
      by simpa using hcut.stop_eq⟩
  · rintro ⟨hliteral, hstart, hstop⟩
    refine ⟨rfl, ?_, ?_, by simpa using hstart, by simp, by simpa using hstop⟩
    · intro index segment hsegment hindex
      obtain ⟨hzero, rfl⟩ : index = 0 ∧ first = segment := by
        simpa [List.getElem?_singleton] using hsegment
      exact hliteral
    · intro index segment hsegment hindex
      obtain ⟨hzero, -⟩ : index = 0 ∧ first = segment := by
        simpa [List.getElem?_singleton] using hsegment
      omega

theorem cut_cons_cons_iff :
    delimiters.Cut source start (first :: second :: rest) ↔
      first.IsLiteral delimiters source ∧ first.span.start = start ∧
        second.IsDirective delimiters source ∧
        first.span.stop = second.span.start ∧
        delimiters.Cut source second.span.stop rest := by
  constructor
  · intro hcut
    obtain ⟨hodd, hliteral, hdirective, hstart, hchain, hstop⟩ := hcut
    cases rest with
    | nil => simp at hodd
    | cons third more =>
        simp only [List.isChain_cons_cons] at hchain
        obtain ⟨hfirst, hsecond, hmore⟩ := hchain
        refine ⟨hliteral 0 first rfl rfl, by simpa using hstart,
          hdirective 1 second rfl rfl, hfirst, ?_, ?_, ?_, ?_, hmore, ?_⟩
        · simp only [List.length_cons] at hodd ⊢
          omega
        · intro index segment hsegment hindex
          exact hliteral (index + 2) segment (by simpa using hsegment) (by omega)
        · intro index segment hsegment hindex
          exact hdirective (index + 2) segment (by simpa using hsegment) (by omega)
        · simp [hsecond]
        · simpa using hstop
  · rintro ⟨hfirst, hstart, hsecond, hbetween, hrest⟩
    obtain ⟨hodd, hliteral, hdirective, hnext, hchain, hstop⟩ := hrest
    cases rest with
    | nil => simp at hodd
    | cons third more =>
        refine ⟨?_, ?_, ?_, by simpa using hstart, ?_, by simpa using hstop⟩
        · simp only [List.length_cons] at hodd ⊢
          omega
        · intro index segment hsegment hindex
          match index with
          | 0 =>
              obtain rfl : first = segment := by simpa using hsegment
              exact hfirst
          | 1 => simp at hindex
          | index + 2 =>
              exact hliteral index segment (by simpa using hsegment) (by omega)
        · intro index segment hsegment hindex
          match index with
          | 0 => simp at hindex
          | 1 =>
              obtain rfl : second = segment := by simpa using hsegment
              exact hsecond
          | index + 2 =>
              exact hdirective index segment (by simpa using hsegment) (by omega)
        · have hthird : second.span.stop = third.span.start := by
            simpa using hnext.symm
          exact .cons_cons hbetween (.cons_cons hthird hchain)

/-! ## Two cuts agree -/

/-- The first literal of a cut does not end before that of another one that
starts at the same byte. -/
theorem Cut.stop_le {other : Segment} {others : List Segment}
    (hcut : delimiters.Cut source start (first :: rest))
    (hother : delimiters.Cut source start (other :: others)) :
    first.span.stop ≤ other.span.stop := by
  have hliteral := hcut.literal 0 first rfl rfl
  have hstart : first.span.start = start := by simpa using hcut.start_eq
  cases others with
  | nil =>
      obtain ⟨-, -, hend⟩ := cut_singleton_iff.mp hother
      rw [hend]
      exact hliteral.stop_le
  | cons directive more =>
      obtain ⟨hotherLiteral, hotherStart, hdirective, hstop, -⟩ :=
        cut_cons_cons_iff.mp hother
      rw [hstop]
      apply hliteral.stop_le_of_isDirective hdirective
      have hle := hotherLiteral.start_le_stop
      omega

/-- Where a literal ends the source, no directive follows it. -/
theorem Cut.not_singleton
    (hcut : delimiters.Cut source start (first :: second :: rest)) :
    ¬ delimiters.Cut source start [first] := by
  intro hone
  obtain ⟨-, -, hend⟩ := cut_singleton_iff.mp hone
  obtain ⟨-, -, hdirective, hstop, -⟩ := cut_cons_cons_iff.mp hcut
  have hlt := hdirective.start_lt_stop
  have hle := hdirective.stop_le
  omega

theorem Cut.eq_of_cut {segments others : List Segment}
    (hcut : delimiters.Cut source start segments)
    (hother : delimiters.Cut source start others) : segments = others := by
  induction hlength : segments.length using Nat.strong_induction_on
    generalizing segments others start with
  | _ length ih =>
      subst hlength
      cases segments with
      | nil => exact absurd hcut not_cut_nil
      | cons first rest =>
          cases others with
          | nil => exact absurd hother not_cut_nil
          | cons other behind =>
              have hstop : first.span.stop = other.span.stop :=
                Nat.le_antisymm (hcut.stop_le hother) (hother.stop_le hcut)
              have hstart : first.span.start = other.span.start := by
                have hfirst := hcut.start_eq
                rw [← hother.start_eq] at hfirst
                simpa using hfirst
              have hspan : first.span = other.span := by
                calc first.span = ⟨first.span.start, first.span.stop⟩ := rfl
                  _ = other.span := by rw [hstart, hstop]
              have hliteral : first = other :=
                (hcut.literal 0 first rfl rfl).eq_of_span_eq
                  (hother.literal 0 other rfl rfl) hspan
              subst hliteral
              cases rest with
              | nil =>
                  cases behind with
                  | nil => rfl
                  | cons directive more => exact absurd hcut hother.not_singleton
              | cons directive more =>
                  cases behind with
                  | nil => exact absurd hother hcut.not_singleton
                  | cons second others =>
                      obtain ⟨-, -, hdirective, hplace, hmore⟩ :=
                        cut_cons_cons_iff.mp hcut
                      obtain ⟨-, -, hsecond, hsecondPlace, hothers⟩ :=
                        cut_cons_cons_iff.mp hother
                      obtain rfl : directive = second := by
                        apply hdirective.eq_of_start_eq hsecond
                        rw [← hplace, ← hsecondPlace]
                      have htail : more = others := by
                        apply ih more.length _ hmore hothers rfl
                        simp only [List.length_cons]
                        omega
                      rw [htail]

/-! ## The segments of a source -/

/-- The only position of a character is the one in front of it. -/
theorem eq_of_byteCount_lt {front before after rest : List Char} {c : Char}
    (htext : front ++ c :: rest = before ++ after)
    (hle : byteCount front ≤ byteCount before)
    (hlt : byteCount before < byteCount front + c.utf8Size) :
    after = c :: rest := by
  rcases List.append_eq_append_iff.mp htext with
    ⟨between, rfl, hrest⟩ | ⟨between, rfl, rfl⟩
  · rw [byteCount_append] at hlt
    cases between with
    | nil => simpa using hrest.symm
    | cons d more =>
        obtain ⟨rfl, -⟩ := List.cons.inj hrest
        rw [byteCount_cons] at hlt
        omega
  · rw [byteCount_append] at hle
    have hnone : byteCount between = 0 := by omega
    rw [byteCount_eq_zero_iff.mp hnone, List.nil_append]

/-- From a state of the scan on, the segments are a cut, if none of the
positions that the scan has passed since `start` begins a directive. -/
theorem splitFrom_cut {read literal text : List Char} {start position : ℕ}
    (hstart : start = byteCount read)
    (hposition : position = byteCount (read ++ literal.reverse))
    (hsource : source = read ++ literal.reverse ++ text)
    (hpassed : ∀ before after, source = before ++ after →
      start ≤ byteCount before → byteCount before < position →
      ¬ delimiters.Opens after) :
    delimiters.Cut source start
      (delimiters.splitFrom start position literal text) := by
  induction start, position, literal, text using
      Delimiters.splitFrom.induct delimiters generalizing read with
  | case1 start position literal text found rest hfound =>
      rename_i ih
      have hliteral : Segment.IsLiteral delimiters source
          ⟨.literal, literal.reverse, ⟨start, position⟩⟩ :=
        ⟨rfl, ⟨read, text, hsource, by rw [hstart, hposition]⟩, hpassed⟩
      obtain ⟨tag, hstands, hends, rfl⟩ :=
        directive?_standsIn (read ++ literal.reverse) hfound
      rw [← hsource] at hstands
      have hspan : tag.span =
          ⟨position, position + byteCount (tag.text delimiters)⟩ := by
        rw [hstands.span_eq, byteCount_append _ (tag.text delimiters), hposition]
      have hrest : delimiters.Cut source
          (position + byteCount (tag.text delimiters))
          (delimiters.splitFrom (position + byteCount (tag.text delimiters))
            (position + byteCount (tag.text delimiters)) [] rest) := by
        have hread : position + byteCount (tag.text delimiters) =
            byteCount (read ++ literal.reverse ++ tag.text delimiters) := by
          rw [byteCount_append _ (tag.text delimiters), hposition]
        apply ih hread (by simpa using hread) (by simpa using hstands.source_eq)
        intro before after _ hge hlt
        omega
      rw [splitFrom_of_directive hfound]
      apply cut_cons_cons_iff.mpr
      exact ⟨hliteral, rfl, ⟨tag, _, rest, hstands, hends, by rw [hspan]⟩, rfl,
        hrest⟩
  | case2 start position literal hnone =>
      have hliteral : Segment.IsLiteral delimiters source
          ⟨.literal, literal.reverse, ⟨start, position⟩⟩ :=
        ⟨rfl, ⟨read, [], hsource, by rw [hstart, hposition]⟩, hpassed⟩
      have hend : position = byteCount source := by
        rw [hposition, hsource, List.append_nil]
      rw [splitFrom_nil hnone]
      exact cut_singleton_iff.mpr ⟨hliteral, rfl, hend⟩
  | case3 start position literal c rest hnone ih =>
      rw [splitFrom_cons hnone]
      apply ih hstart
      · simp [hposition]
        omega
      · simpa using hsource
      · intro before after hsplit hge hlt
        by_cases hold : byteCount before < position
        · exact hpassed before after hsplit hge hold
        · obtain rfl : after = c :: rest := by
            apply eq_of_byteCount_lt (hsource.symm.trans hsplit)
            · omega
            · omega
          exact directive?_eq_none_iff.mp hnone

theorem split_cut (delimiters : Delimiters) (source : List Char) :
    delimiters.Cut source 0 (delimiters.split source) := by
  have hread : 0 = byteCount [] := rfl
  unfold split
  apply splitFrom_cut hread
  · rfl
  · rfl
  · intro before after _ _ hlt
    omega

theorem flatMap_text_splitFrom (start position : ℕ) (literal text : List Char) :
    (delimiters.splitFrom start position literal text).flatMap Segment.text =
      literal.reverse ++ text := by
  induction start, position, literal, text using
      Delimiters.splitFrom.induct delimiters with
  | case1 start position literal text found rest hfound =>
      rename_i ih
      obtain ⟨tag, hstands, -, rfl⟩ := directive?_standsIn [] hfound
      have htext : text = tag.text delimiters ++ rest := hstands.source_eq
      rw [splitFrom_of_directive hfound, List.flatMap_cons, List.flatMap_cons,
        ih, htext]
      rfl
  | case2 start position literal hnone => simp [splitFrom_nil hnone]
  | case3 start position literal c rest hnone ih =>
      rw [splitFrom_cons hnone, ih]
      simp

/-- The segments of a source are its only cut.  Their texts make up the
source, and every directive moves the scan forward. -/
theorem eq_split_iff_cut (delimiters : Delimiters) (source : List Char) :
    (∀ segments, segments = delimiters.split source ↔
      delimiters.Cut source 0 segments) ∧
    (delimiters.split source).flatMap Segment.text = source ∧
    ∀ segment ∈ delimiters.split source, segment.kind = .directive →
      segment.text ≠ [] ∧ segment.span.start < segment.span.stop := by
  have hcut := split_cut delimiters source
  refine ⟨?_, flatMap_text_splitFrom 0 0 [] source, ?_⟩
  · intro segments
    constructor
    · rintro rfl
      exact hcut
    · intro hother
      exact hother.eq_of_cut hcut
  · intro segment hmem hkind
    obtain ⟨index, hindex⟩ := List.mem_iff_getElem?.mp hmem
    have hodd : index % 2 = 1 := by
      by_contra heven
      have hliteral := hcut.literal index segment hindex (by omega)
      rw [hliteral.kind_eq] at hkind
      contradiction
    have hdirective := hcut.directive index segment hindex hodd
    exact ⟨hdirective.text_ne_nil, hdirective.start_lt_stop⟩

/-- Equal halves that overlap themselves: the body is the one character that
is left between them. -/
example :
    split ⟨['|', '|'], ['|', '|']⟩ "|||||".toList =
      [⟨.literal, [], ⟨0, 0⟩⟩, ⟨.directive, "|||||".toList, ⟨0, 5⟩⟩,
        ⟨.literal, [], ⟨5, 5⟩⟩] := by
  cbv

end Delimiters

end Stencil
