import Stencil.Compile
import Mathlib.Tactic

/-!
# Directives in their template

The cut of a template keeps the raw text of a directive.  A tag keeps what
the cut knew about it: the body between the halves of the marker, and whether
a line feed was taken behind them.  Every directive of a cut is a tag that
stands in the template at its span.

When the right half does not end in a line feed, the raw text tells its tag,
and reading the raw text is reading the body.
-/

namespace Stencil

structure Tag where
  body : List Char
  newline : Bool
  span : Span
deriving DecidableEq, Repr

namespace Tag

def lineFeed (tag : Tag) : List Char :=
  if tag.newline then ['\n'] else []

def text (delimiters : Delimiters) (tag : Tag) : List Char :=
  delimiters.left ++ tag.body ++ delimiters.right ++ tag.lineFeed

def directive (tag : Tag) : Directive :=
  Directive.ofBody tag.body tag.newline

/-- The tag stands in `source` between `before` and `after`; the span counts
the bytes up to either end of it. -/
structure StandsIn (delimiters : Delimiters) (source before after : List Char)
    (tag : Tag) : Prop where
  source_eq : source = before ++ tag.text delimiters ++ after
  span_eq :
    tag.span = ⟨byteCount before, byteCount (before ++ tag.text delimiters)⟩
  body_ne_nil : tag.body ≠ []
  body_in_line : '\n' ∉ tag.body
  newline_taken : tag.newline = false → after.head? ≠ some '\n'

/-- In front of `after`, no shorter body would have had a right half behind
it. -/
def EndsFirst (delimiters : Delimiters) (after : List Char) (tag : Tag) : Prop :=
  ∀ front back, tag.body = front ++ back → front ≠ [] → back ≠ [] →
    ¬ delimiters.right <+: back ++ delimiters.right ++ tag.lineFeed ++ after

end Tag

/-! ## Directives of a cut -/

theorem closeBody_eq_some {right seen text body after : List Char}
    (hclose : closeBody right seen text = some (body, after)) :
    ∃ own, own ≠ [] ∧ '\n' ∉ own ∧ body = seen.reverse ++ own ∧
      text = own ++ right ++ after ∧
      ∀ front back, own = front ++ back → front ≠ [] → back ≠ [] →
        ¬ right <+: back ++ right ++ after := by
  induction text generalizing seen with
  | nil => simp [closeBody] at hclose
  | cons c rest ih =>
      simp only [closeBody] at hclose
      split at hclose
      next => contradiction
      next hc =>
        split at hclose
        next found hfound =>
          obtain ⟨rfl, rfl⟩ := Prod.mk.inj (Option.some.inj hclose)
          refine ⟨[c], by simp, by simpa using Ne.symm hc, by simp, ?_, ?_⟩
          · simpa using dropFront?_eq_some_iff.mp hfound
          · intro front back hsplit hfront hback
            have hlength := congrArg List.length hsplit
            have hfrontLength := List.length_pos_iff.mpr hfront
            have hbackLength := List.length_pos_iff.mpr hback
            simp only [List.length_append, List.length_singleton] at hlength
            omega
        next hopen =>
          obtain ⟨own, hown, hline, hbody, htext, hfirst⟩ := ih hclose
          refine ⟨c :: own, by simp, ?_, by simpa using hbody, by simp [htext], ?_⟩
          · simpa using ⟨Ne.symm hc, hline⟩
          · intro front back hsplit hfront hback hclosed
            obtain ⟨head, more, rfl⟩ := List.exists_cons_of_ne_nil hfront
            have hown : own = more ++ back := (List.cons.inj hsplit).2
            by_cases hmore : more = []
            · obtain ⟨behind, hbehind⟩ := hclosed
              subst hmore
              rw [List.nil_append] at hown
              rw [htext, hown] at hopen
              exact dropFront?_eq_none_iff.mp hopen behind hbehind.symm
            · exact hfirst more back hown hmore hback hclosed

theorem takeNewline_spec (text : List Char) :
    ∃ newline : Bool,
      (takeNewline text).1 = (if newline then ['\n'] else []) ∧
        (newline = false → (takeNewline text).2.head? ≠ some '\n') := by
  unfold takeNewline
  split
  next rest => exact ⟨true, rfl, by simp⟩
  next hother =>
    refine ⟨false, rfl, fun _ hhead => ?_⟩
    obtain ⟨rest, rfl⟩ := List.head?_eq_some_iff.mp hhead
    exact hother rest rfl

/-- What the cut takes for a directive is a tag that stands right there. -/
theorem Delimiters.directive?_standsIn {delimiters : Delimiters}
    (before : List Char) {text found after : List Char}
    (hfound : delimiters.directive? text = some (found, after)) :
    ∃ tag : Tag, tag.StandsIn delimiters (before ++ text) before after ∧
      tag.EndsFirst delimiters after ∧ found = tag.text delimiters := by
  unfold Delimiters.directive? at hfound
  split at hfound
  next => contradiction
  next inner hinner =>
    split at hfound
    next => contradiction
    next body behind hclose =>
      obtain ⟨own, hown, hline, hbody, hsplit, hfirst⟩ := closeBody_eq_some hclose
      obtain rfl : body = own := by simpa using hbody
      obtain ⟨hraw, hafter⟩ := Prod.mk.inj (Option.some.inj hfound)
      obtain ⟨newline, htaken, hnewline⟩ := takeNewline_spec behind
      let tag : Tag :=
        ⟨body, newline, ⟨byteCount before, byteCount (before ++ found)⟩⟩
      have hfoundText : found = tag.text delimiters := by
        rw [← hraw, htaken]
        rfl
      have htext : text = found ++ after := by
        rw [dropFront?_eq_some_iff.mp hinner, hsplit, ← hraw, ← hafter,
          List.append_assoc _ _ (takeNewline behind).2, takeNewline_append]
        simp
      have hbehind : tag.lineFeed ++ after = behind := by
        rw [← takeNewline_append behind, htaken, hafter]
        rfl
      refine ⟨tag, ⟨?_, ?_, hown, hline, hafter ▸ hnewline⟩, ?_, hfoundText⟩
      · rw [htext, hfoundText, List.append_assoc]
      · rw [← hfoundText]
      · intro front back hsplit hfront hback
        rw [List.append_assoc _ tag.lineFeed, hbehind]
        exact hfirst front back hsplit hfront hback

theorem Delimiters.splitFrom_of_directive {delimiters : Delimiters}
    {start position : ℕ} {literal text found rest : List Char}
    (hfound : delimiters.directive? text = some (found, rest)) :
    delimiters.splitFrom start position literal text =
      ⟨.literal, literal.reverse, ⟨start, position⟩⟩ ::
        ⟨.directive, found, ⟨position, position + byteCount found⟩⟩ ::
        delimiters.splitFrom (position + byteCount found)
          (position + byteCount found) [] rest := by
  rw [Delimiters.splitFrom]
  split
  next found' rest' hfound' =>
    rw [hfound] at hfound'
    obtain ⟨rfl, rfl⟩ := Prod.mk.inj (Option.some.inj hfound')
    rfl
  next hnone => simp [hfound] at hnone

theorem Delimiters.splitFrom_nil {delimiters : Delimiters}
    {start position : ℕ} {literal : List Char}
    (hnone : delimiters.directive? [] = none) :
    delimiters.splitFrom start position literal [] =
      [⟨.literal, literal.reverse, ⟨start, position⟩⟩] := by
  rw [Delimiters.splitFrom]
  split
  next hfound => simp [hnone] at hfound
  next => rfl

theorem Delimiters.splitFrom_cons {delimiters : Delimiters}
    {start position : ℕ} {literal rest : List Char} {c : Char}
    (hnone : delimiters.directive? (c :: rest) = none) :
    delimiters.splitFrom start position literal (c :: rest) =
      delimiters.splitFrom start (position + c.utf8Size) (c :: literal) rest := by
  rw [Delimiters.splitFrom]
  split
  next hfound => simp [hnone] at hfound
  next => rfl

theorem Delimiters.splitFrom_directive {delimiters : Delimiters}
    (read : List Char) {start position : ℕ} {literal text : List Char}
    {segment : Segment} (hposition : position = byteCount read)
    (hsegment : segment ∈ delimiters.splitFrom start position literal text)
    (hkind : segment.kind = .directive) :
    ∃ (tag : Tag) (before after : List Char),
      tag.StandsIn delimiters (read ++ text) before after ∧
        segment = ⟨.directive, tag.text delimiters, tag.span⟩ := by
  induction start, position, literal, text using
      Delimiters.splitFrom.induct delimiters generalizing read with
  | case1 start position literal text found rest hfound =>
      rename_i ih
      obtain ⟨tag, hstands, -, rfl⟩ :=
        Delimiters.directive?_standsIn read hfound
      rw [Delimiters.splitFrom_of_directive hfound] at hsegment
      have hspan : tag.span =
          ⟨position, position + byteCount (tag.text delimiters)⟩ := by
        rw [hstands.span_eq, byteCount_append, hposition]
      rcases List.mem_cons.mp hsegment with rfl | hsegment
      · contradiction
      · rcases List.mem_cons.mp hsegment with rfl | hsegment
        · exact ⟨tag, read, rest, hstands, by rw [hspan]⟩
        · have hread :
              position + byteCount (tag.text delimiters) =
                byteCount (read ++ tag.text delimiters) := by
            rw [byteCount_append, hposition]
          rw [hstands.source_eq]
          exact ih (read ++ tag.text delimiters) hread hsegment
  | case2 start position literal hnone =>
      rw [Delimiters.splitFrom_nil hnone] at hsegment
      obtain rfl := List.mem_singleton.mp hsegment
      contradiction
  | case3 start position literal c rest hnone ih =>
      rw [Delimiters.splitFrom_cons hnone] at hsegment
      have hread : read ++ c :: rest = (read ++ [c]) ++ rest := by simp
      rw [hread]
      exact ih (read ++ [c]) (by simp [hposition]) hsegment

theorem Delimiters.split_directive {delimiters : Delimiters}
    {source : List Char} {segment : Segment}
    (hsegment : segment ∈ delimiters.split source)
    (hkind : segment.kind = .directive) :
    ∃ (tag : Tag) (before after : List Char),
      tag.StandsIn delimiters source before after ∧
        segment = ⟨.directive, tag.text delimiters, tag.span⟩ :=
  Delimiters.splitFrom_directive [] rfl hsegment hkind

/-! ## Reading a directive back -/

def Segment.tag? (delimiters : Delimiters) (segment : Segment) : Option Tag :=
  match segment.kind with
  | .literal => none
  | .directive =>
      (dropFront? delimiters.left segment.text).bind fun inner =>
        match dropBack? (delimiters.right ++ ['\n']) inner with
        | some body => some ⟨body, true, segment.span⟩
        | none =>
            (dropBack? delimiters.right inner).map fun body =>
              ⟨body, false, segment.span⟩

def Delimiters.tags (delimiters : Delimiters) (source : List Char) : List Tag :=
  (delimiters.split source).filterMap (Segment.tag? delimiters)

theorem dropBack?_eq_none {back text : List Char}
    (hne : ∀ rest, text ≠ rest ++ back) : dropBack? back text = none := by
  cases hdrop : dropBack? back text with
  | none => rfl
  | some rest => exact absurd (dropBack?_eq_some_iff.mp hdrop) (hne rest)

section

variable {delimiters : Delimiters} {tag : Tag}

/-- Nothing but a line feed taken behind it ends a directive with one. -/
theorem Tag.ne_append_lineFeed
    (hright : delimiters.right.getLast? ≠ some '\n')
    (hbody : tag.body ≠ []) (hline : '\n' ∉ tag.body) (front rest : List Char) :
    front ++ tag.body ++ delimiters.right ≠ rest ++ ['\n'] := by
  intro heq
  have hlast : (front ++ tag.body ++ delimiters.right).getLast? = some '\n' := by
    simp [heq]
  rw [List.getLast?_append] at hlast
  cases hend : delimiters.right.getLast? with
  | some c =>
      rw [hend, Option.some_or] at hlast
      exact hright (hend.trans hlast)
  | none =>
      rw [hend, Option.none_or, List.getLast?_append,
        List.getLast?_eq_some_getLast hbody, Option.some_or] at hlast
      exact hline (Option.some.inj hlast ▸ List.getLast_mem hbody)

theorem Segment.tag?_text
    (hright : delimiters.right.getLast? ≠ some '\n')
    (hbody : tag.body ≠ []) (hline : '\n' ∉ tag.body) :
    Segment.tag? delimiters ⟨.directive, tag.text delimiters, tag.span⟩ =
      some tag := by
  rcases tag with ⟨body, newline, span⟩
  cases newline with
  | true => simp [Segment.tag?, Tag.text, Tag.lineFeed]
  | false =>
      have hnone : dropBack? (delimiters.right ++ ['\n'])
          (body ++ delimiters.right) = none := by
        apply dropBack?_eq_none
        intro rest
        rw [← List.append_assoc]
        exact Tag.ne_append_lineFeed hright hbody hline [] _
      simp [Segment.tag?, Tag.text, Tag.lineFeed, hnone]

theorem Directive.read_of_setAsideNewline
    (haside : Directive.setAsideNewline (tag.text delimiters) =
      (delimiters.left ++ tag.body ++ delimiters.right, tag.newline)) :
    Directive.read delimiters (tag.text delimiters) = tag.directive := by
  have hbetween :
      Directive.between delimiters
        (delimiters.left ++ tag.body ++ delimiters.right) = tag.body := by
    simp [Directive.between]
  simp only [Directive.read, haside, hbetween, Tag.directive]

theorem Directive.setAsideNewline_of_newline (hnewline : tag.newline = true) :
    Directive.setAsideNewline (tag.text delimiters) =
      (delimiters.left ++ tag.body ++ delimiters.right, tag.newline) := by
  simp only [Directive.setAsideNewline, Tag.text, Tag.lineFeed, hnewline, if_true,
    dropBack?_append]

/-- Only a line feed that was taken behind a directive is set aside. -/
theorem Directive.setAsideNewline_text
    (hright : delimiters.right.getLast? ≠ some '\n')
    (hbody : tag.body ≠ []) (hline : '\n' ∉ tag.body) :
    Directive.setAsideNewline (tag.text delimiters) =
      (delimiters.left ++ tag.body ++ delimiters.right, tag.newline) := by
  cases hnewline : tag.newline with
  | true =>
      rw [← hnewline]
      exact setAsideNewline_of_newline hnewline
  | false =>
      have hnone : dropBack? ['\n']
          (delimiters.left ++ tag.body ++ delimiters.right) = none := by
        apply dropBack?_eq_none
        exact Tag.ne_append_lineFeed hright hbody hline delimiters.left
      simp only [Directive.setAsideNewline, Tag.text, Tag.lineFeed, hnewline,
        Bool.false_eq_true, if_false, List.append_nil, hnone]

theorem Directive.read_of_newline (hnewline : tag.newline = true) :
    Directive.read delimiters (tag.text delimiters) = tag.directive :=
  read_of_setAsideNewline (setAsideNewline_of_newline hnewline)

theorem Directive.read_text
    (hright : delimiters.right.getLast? ≠ some '\n')
    (hbody : tag.body ≠ []) (hline : '\n' ∉ tag.body) :
    Directive.read delimiters (tag.text delimiters) = tag.directive :=
  read_of_setAsideNewline (setAsideNewline_text hright hbody hline)

theorem Delimiters.split_tag {source : List Char} {segment : Segment}
    (hright : delimiters.right.getLast? ≠ some '\n')
    (hsegment : segment ∈ delimiters.split source)
    (hkind : segment.kind = .directive) :
    ∃ (tag : Tag) (before after : List Char),
      tag.StandsIn delimiters source before after ∧
        segment.tag? delimiters = some tag ∧ segment.span = tag.span ∧
        Directive.read delimiters segment.text = tag.directive := by
  obtain ⟨tag, before, after, hstands, rfl⟩ :=
    Delimiters.split_directive hsegment hkind
  have hbody := hstands.body_ne_nil
  have hline := hstands.body_in_line
  exact ⟨tag, before, after, hstands, Segment.tag?_text hright hbody hline, rfl,
    Directive.read_text hright hbody hline⟩

end

end Stencil
