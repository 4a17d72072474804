import Stencil.Proofs.Concatenation
import Mathlib.Tactic

/-!
# Directives line by line

The cut of a source is one scan, and where the scan goes on depends on all the
directives it has found.  If neither half of the marker contains a line feed,
this dependence ends with the line: the directives of a source are those of its
lines, each cut for itself.

The seam between two lines is where a scan of the whole and a scan of the first
part could come apart.  They do not, since a directive needs at most the line
feed behind it, and a line has that at its end.
-/

namespace Stencil

/-- The lines of a text, each with the line feed that ends it. -/
def terminatedLines : List Char → List (List Char)
  | [] => []
  | c :: rest =>
      if c = '\n' then [c] :: terminatedLines rest
      else
        match terminatedLines rest with
        | [] => [[c]]
        | line :: others => (c :: line) :: others

/-- What comes behind the text is on a line of its own. -/
def EndsLine (text : List Char) : Prop :=
  ∀ c ∈ text.getLast?, c = '\n'

def directivesIn (segments : List Segment) : List Segment :=
  segments.filter fun segment => segment.kind = .directive

def Delimiters.directives (delimiters : Delimiters) (source : List Char) :
    List Segment :=
  directivesIn (delimiters.split source)

/-- The directives of lines that are cut each for itself, where the first line
comes `offset` bytes behind the beginning of the source. -/
def Delimiters.directivesByLine (delimiters : Delimiters) (offset : ℕ) :
    List (List Char) → List Segment
  | [] => []
  | line :: rest =>
      (delimiters.directives line).map (Segment.shift offset) ++
        delimiters.directivesByLine (offset + byteCount line) rest

/-! ## Lines -/

theorem terminatedLines_of_not_mem {text : List Char} (hne : text ≠ [])
    (htext : '\n' ∉ text) : terminatedLines text = [text] := by
  induction text with
  | nil => contradiction
  | cons c rest ih =>
      obtain ⟨hc, hrest⟩ := List.ne_and_not_mem_of_not_mem_cons htext
      rw [terminatedLines, if_neg hc.symm]
      cases rest with
      | nil => rfl
      | cons d more => rw [ih (by simp) hrest]

theorem terminatedLines_append {line : List Char} (hline : '\n' ∉ line)
    (rest : List Char) :
    terminatedLines (line ++ '\n' :: rest) =
      (line ++ ['\n']) :: terminatedLines rest := by
  induction line with
  | nil => rfl
  | cons c more ih =>
      obtain ⟨hc, hmore⟩ := List.ne_and_not_mem_of_not_mem_cons hline
      rw [List.cons_append, terminatedLines, if_neg hc.symm, ih hmore]
      rfl

theorem EndsLine.of_append {front back : List Char}
    (hends : EndsLine (front ++ back)) : EndsLine back := by
  intro c hc
  exact hends c (List.mem_getLast?_append_of_mem_getLast? hc)

theorem EndsLine.lineFeed_mem {text : List Char} (hends : EndsLine text)
    (hne : text ≠ []) : '\n' ∈ text := by
  have hlast := hends (text.getLast hne) (List.getLast?_eq_some_getLast hne)
  exact hlast ▸ List.getLast_mem hne

theorem endsLine_append_lineFeed (line : List Char) :
    EndsLine (line ++ ['\n']) := by
  simp [EndsLine]

/-- What is on one line lies in front of the first line feed. -/
theorem isPrefix_of_isPrefix_append {part front back : List Char}
    (hpart : '\n' ∉ part) (hfront : '\n' ∈ front)
    (hbegins : part <+: front ++ back) : part <+: front := by
  rcases List.prefix_or_prefix_of_prefix hbegins (List.prefix_append front back)
    with hinside | hbeyond
  · exact hinside
  · exact absurd (hbeyond.subset hfront) hpart

/-! ## Directives in front of a new line -/

section

variable {delimiters : Delimiters} (hleft : '\n' ∉ delimiters.left)
  (hright : '\n' ∉ delimiters.right)

include hleft hright

theorem Delimiters.Opens.of_append {front back : List Char}
    (hfront : '\n' ∈ front) (hopens : delimiters.Opens (front ++ back)) :
    delimiters.Opens front := by
  obtain ⟨body, rest, hbody, hline, htext⟩ := hopens
  have hpart : '\n' ∉ delimiters.left ++ body ++ delimiters.right := by
    simp [hleft, hline, hright]
  obtain ⟨behind, hbehind⟩ :=
    isPrefix_of_isPrefix_append hpart hfront ⟨rest, htext.symm⟩
  exact ⟨body, behind, hbody, hline, hbehind.symm⟩

theorem Delimiters.directive?_append_of_none {front : List Char}
    (hfront : '\n' ∈ front) (hnone : delimiters.directive? front = none)
    (back : List Char) :
    delimiters.directive? (front ++ back) = none := by
  rw [directive?_eq_none_iff] at hnone ⊢
  intro hopens
  exact hnone (hopens.of_append hleft hright hfront)

/-- With a line feed at its end, a text decides on its own where the directive
in front of it ends. -/
theorem Delimiters.directive?_append_of_some {front found rest : List Char}
    (hends : EndsLine front)
    (hfound : delimiters.directive? front = some (found, rest))
    (back : List Char) :
    delimiters.directive? (front ++ back) = some (found, rest ++ back) := by
  obtain ⟨tag, hstands, hfirst, rfl⟩ := directive?_standsIn [] hfound
  have hfrontEq : front = tag.text delimiters ++ rest := hstands.source_eq
  -- The line feed at the end stands behind the right half.
  have hbehind : '\n' ∈ tag.lineFeed ++ rest := by
    have hmem : '\n' ∈ front := by
      apply hends.lineFeed_mem
      rw [hfrontEq]
      simp [Tag.text, hstands.body_ne_nil]
    rw [hfrontEq, Tag.text] at hmem
    simpa [hleft, hstands.body_in_line, hright] using hmem
  have hwhole : tag.StandsIn delimiters (front ++ back) [] (rest ++ back) := by
    refine ⟨?_, hstands.span_eq, hstands.body_ne_nil, hstands.body_in_line, ?_⟩
    · rw [hfrontEq]
      simp
    · intro hnewline
      have hrest : rest ≠ [] := by
        rintro rfl
        simp [Tag.lineFeed, hnewline] at hbehind
      rw [List.head?_append_of_ne_nil _ hrest]
      exact hstands.newline_taken hnewline
  have hfirstWhole : tag.EndsFirst delimiters (rest ++ back) := by
    intro ahead own hsplit hahead hown hcloses
    apply hfirst ahead own hsplit hahead hown
    apply isPrefix_of_isPrefix_append hright ?_
      (by simpa only [List.append_assoc] using hcloses)
    rw [List.append_assoc _ tag.lineFeed]
    exact List.mem_append_right _ hbehind
  have hhere := directive?_of_standsIn hwhole hfirstWhole
  rwa [← List.append_assoc, ← hfrontEq] at hhere

end

/-! ## Directives of a scan -/

theorem Segment.map_shift_map_shift (first second : ℕ) (segments : List Segment) :
    (segments.map (Segment.shift second)).map (Segment.shift first) =
      segments.map (Segment.shift (first + second)) := by
  simp [Segment.shift, Span.shift, Nat.add_assoc]

theorem Segment.map_shift_zero (segments : List Segment) :
    segments.map (Segment.shift 0) = segments := by
  have hshift : Segment.shift 0 = id := by
    funext segment
    simp [Segment.shift, Span.shift]
  rw [hshift, List.map_id]

@[simp] theorem directivesIn_cons_literal (text : List Char) (span : Span)
    (rest : List Segment) :
    directivesIn (⟨.literal, text, span⟩ :: rest) = directivesIn rest :=
  rfl

@[simp] theorem directivesIn_cons_directive (text : List Char) (span : Span)
    (rest : List Segment) :
    directivesIn (⟨.directive, text, span⟩ :: rest) =
      ⟨.directive, text, span⟩ :: directivesIn rest :=
  rfl

namespace Delimiters

variable {delimiters : Delimiters}

/-- The directives that a scan finds do not depend on the literal that it is
in. -/
theorem directivesIn_splitFrom_shift (offset start : ℕ) (literal : List Char)
    (other position : ℕ) (pending text : List Char) :
    directivesIn (delimiters.splitFrom start (offset + position) literal text) =
      (directivesIn (delimiters.splitFrom other position pending text)).map
        (Segment.shift offset) := by
  induction other, position, pending, text using
      Delimiters.splitFrom.induct delimiters generalizing start literal with
  | case1 other position pending text found rest hfound =>
      rename_i ih
      let stop := position + byteCount found
      have hbehind :
          directivesIn (delimiters.splitFrom (offset + stop) (offset + stop) [] rest) =
            (directivesIn (delimiters.splitFrom stop stop [] rest)).map
              (Segment.shift offset) :=
        ih (offset + stop) []
      simp only [splitFrom_of_directive hfound, directivesIn_cons_literal,
        directivesIn_cons_directive, List.map_cons, Nat.add_assoc]
      rw [hbehind]
      rfl
  | case2 other position pending hnone =>
      simp only [splitFrom_nil hnone]
      rfl
  | case3 other position pending c rest hnone ih =>
      simp only [splitFrom_cons hnone, Nat.add_assoc, ih]

theorem directivesIn_splitFrom (start position : ℕ) (literal text : List Char) :
    directivesIn (delimiters.splitFrom start position literal text) =
      (delimiters.directives text).map (Segment.shift position) :=
  directivesIn_splitFrom_shift position start literal 0 0 [] text

theorem directives_nil : delimiters.directives [] = [] := by
  have hnone : delimiters.directive? [] = none := by
    rw [directive?_eq_none_iff]
    rintro ⟨body, rest, hbody, -, htext⟩
    simp [hbody] at htext
  rw [directives, split, splitFrom_nil hnone]
  rfl

section

variable (hleft : '\n' ∉ delimiters.left) (hright : '\n' ∉ delimiters.right)

include hleft hright

/-- A scan that has come to the end of a line goes on as if it began there. -/
theorem directivesIn_splitFrom_append {front : List Char}
    (hends : EndsLine front) (back : List Char) (start position : ℕ)
    (literal : List Char) :
    directivesIn (delimiters.splitFrom start position literal (front ++ back)) =
      directivesIn (delimiters.splitFrom start position literal front) ++
        (delimiters.directives back).map
          (Segment.shift (position + byteCount front)) := by
  induction start, position, literal, front using
      Delimiters.splitFrom.induct delimiters with
  | case1 start position literal front found rest hfound =>
      rename_i ih
      obtain ⟨tag, hstands, -, rfl⟩ := directive?_standsIn [] hfound
      have hfront : front = tag.text delimiters ++ rest := hstands.source_eq
      have hrest : EndsLine rest := by
        rw [hfront] at hends
        exact hends.of_append
      have hwhole := directive?_append_of_some hleft hright hends hfound back
      have hbehind := ih hrest
      rw [Nat.add_assoc, ← byteCount_append, ← hfront] at hbehind
      simp only [splitFrom_of_directive hfound, splitFrom_of_directive hwhole,
        directivesIn_cons_literal, directivesIn_cons_directive, List.cons_append]
      rw [hbehind]
  | case2 start position literal hnone =>
      rw [List.nil_append, splitFrom_nil hnone, directivesIn_splitFrom]
      rfl
  | case3 start position literal c rest hnone ih =>
      have hrest : EndsLine rest := by
        rw [← List.singleton_append] at hends
        exact hends.of_append
      have hlineFeed : '\n' ∈ c :: rest := hends.lineFeed_mem (by simp)
      have hwhole := directive?_append_of_none hleft hright hlineFeed hnone back
      rw [List.cons_append] at hwhole ⊢
      rw [splitFrom_cons hwhole, splitFrom_cons hnone, ih hrest, byteCount_cons,
        Nat.add_assoc]

theorem directives_append {front : List Char} (hends : EndsLine front)
    (back : List Char) :
    delimiters.directives (front ++ back) =
      delimiters.directives front ++
        (delimiters.directives back).map (Segment.shift (byteCount front)) := by
  have hscan := directivesIn_splitFrom_append hleft hright hends back 0 0 []
  rwa [Nat.zero_add] at hscan

theorem directivesByLine_terminatedLines (offset : ℕ) (source : List Char) :
    delimiters.directivesByLine offset (terminatedLines source) =
      (delimiters.directives source).map (Segment.shift offset) := by
  induction hlength : source.length using Nat.strong_induction_on
    generalizing source offset with
  | _ length ih =>
      subst hlength
      by_cases hone : '\n' ∈ source
      · obtain ⟨line, rest, rfl, hline⟩ := List.eq_append_cons_of_mem hone
        have hrest := ih rest.length (by simp; omega)
          (offset + byteCount (line ++ ['\n'])) rest rfl
        have hcut := directives_append hleft hright
          (endsLine_append_lineFeed line) rest
        rw [List.append_assoc, List.singleton_append] at hcut
        rw [terminatedLines_append hline, directivesByLine, hrest, hcut,
          List.map_append, Segment.map_shift_map_shift]
      · cases source with
        | nil => rw [directives_nil]; rfl
        | cons c rest =>
            rw [terminatedLines_of_not_mem (by simp) hone, directivesByLine,
              directivesByLine, List.append_nil]

end

/-- The directives of a source are those of its lines.  Whatever stands on some
of the lines, the directives above them are where they were, and those below
them are only moved. -/
theorem directives_line_by_line (hleft : '\n' ∉ delimiters.left)
    (hright : '\n' ∉ delimiters.right) (source : List Char) :
    delimiters.directives source =
        delimiters.directivesByLine 0 (terminatedLines source) ∧
      ∀ above own below, source = above ++ own ++ below → EndsLine above →
        EndsLine own ∨ below = [] →
        delimiters.directives source =
          delimiters.directives above ++
            (delimiters.directives own).map (Segment.shift (byteCount above)) ++
            (delimiters.directives below).map
              (Segment.shift (byteCount (above ++ own))) := by
  constructor
  · rw [directivesByLine_terminatedLines hleft hright, Segment.map_shift_zero]
  · rintro above own below rfl habove hown
    have hfirst := directives_append hleft hright habove (own ++ below)
    have hrest : delimiters.directives (own ++ below) =
        delimiters.directives own ++
          (delimiters.directives below).map (Segment.shift (byteCount own)) := by
      rcases hown with hends | rfl
      · exact directives_append hleft hright hends below
      · simp [directives_nil]
    rw [List.append_assoc, hfirst, hrest, List.map_append,
      Segment.map_shift_map_shift, byteCount_append, List.append_assoc]

/-- A left half without its right half on the first line, and a right half
without its left one on the last. -/
theorem directives_line_by_line_of_unmatched :
    let braces : Delimiters := ⟨['\x7b'], ['\x7d']⟩
    let above := "\x7ba\n".toList
    let own := "\x7bb\x7d\n".toList
    let below := "c\x7d \x7bd\x7d".toList
    let found : List Segment :=
      [⟨.directive, own, ⟨3, 7⟩⟩, ⟨.directive, "\x7bd\x7d".toList, ⟨10, 13⟩⟩]
    terminatedLines (above ++ own ++ below) = [above, own, below] ∧
      braces.directives (above ++ own ++ below) = found ∧
      braces.directives above ++
          (braces.directives own).map (Segment.shift 3) ++
          (braces.directives below).map (Segment.shift 7) = found := by
  intro braces above own below found
  have hlines : terminatedLines (above ++ own ++ below) = [above, own, below] :=
    rfl
  have hcut : directivesByLine ⟨['\x7b'], ['\x7d']⟩ 0
      ["\x7ba\n".toList, "\x7bb\x7d\n".toList, "c\x7d \x7bd\x7d".toList] =
        [⟨.directive, "\x7bb\x7d\n".toList, ⟨3, 7⟩⟩,
          ⟨.directive, "\x7bd\x7d".toList, ⟨10, 13⟩⟩] := by
    cbv
  obtain ⟨hbyLine, hparts⟩ :=
    @directives_line_by_line ⟨['\x7b'], ['\x7d']⟩ (by decide) (by decide)
      (above ++ own ++ below)
  have hfound : braces.directives (above ++ own ++ below) = found := by
    rw [hlines] at hbyLine
    exact hbyLine.trans hcut
  refine ⟨hlines, hfound, ?_⟩
  rw [← hfound]
  exact (hparts above own below rfl (endsLine_append_lineFeed ['\x7b', 'a'])
    (.inl (endsLine_append_lineFeed ['\x7b', 'b', '\x7d']))).symm

end Delimiters

end Stencil
