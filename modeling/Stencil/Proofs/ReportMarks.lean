import Stencil.Proofs.ErrorSpans
import Stencil.Proofs.SegmentCut
import Stencil.Report
import Mathlib.Tactic

/-!
# What a report marks

The report of an error shows a line of the template with some of its
characters marked.  The picture is said here for a line that is cut into three
parts: what is in front of the marked characters, these, and what is behind
them.  The marked characters, and no others, are red, and below them and
nothing else there is a bar.

A report counts characters up to the numbers of bytes that a span gives.  It
therefore marks the directive that an error is about exactly if no character
up to the end of the directive takes more than one byte.
-/

namespace Stencil

namespace Report

/-- A line with some of its characters marked. -/
structure Marking where
  lead : List Char
  marked : List Char
  tail : List Char

/-! ## Rows that are drawn one by one -/

section

variable {α : Type}

def drawAll (draw : ℕ → α → String) (index : ℕ) (items : List α) : String :=
  String.join ((items.zipIdx index).map fun (item, place) => draw place item)

theorem drawAll_cons (draw : ℕ → α → String) (index : ℕ) (item : α)
    (rest : List α) :
    drawAll draw index (item :: rest) =
      draw index item ++ drawAll draw (index + 1) rest := by
  simp [drawAll, List.zipIdx_cons, String.join_cons]

theorem drawAll_take_drop (draw : ℕ → α → String) (index count : ℕ)
    (items : List α) :
    drawAll draw index items =
      drawAll draw index (items.take count) ++
        drawAll draw (index + count) (items.drop count) := by
  induction items generalizing index count with
  | nil => simp [drawAll]
  | cons item rest ih =>
      cases count with
      | zero => simp [drawAll]
      | succ count =>
          have hindex : index + (count + 1) = index + 1 + count := by omega
          rw [List.take_succ_cons, List.drop_succ_cons, drawAll_cons, drawAll_cons,
            hindex, String.append_assoc, ← ih]

theorem drawAll_extract (draw : ℕ → α → String) {first last : ℕ}
    (hle : first ≤ last) (items : List α) :
    drawAll draw first (items.drop first) =
      drawAll draw first (items.extract first last) ++
        drawAll draw last (items.drop last) := by
  rw [drawAll_take_drop draw first (last - first), List.drop_drop,
    Nat.add_sub_cancel' hle]

theorem drawAll_drop (draw : ℕ → α → String) {first last : ℕ} {items : List α}
    (hle : first ≤ last) (hend : items.length ≤ last) :
    drawAll draw first (items.drop first) =
      drawAll draw first (items.extract first last) := by
  rw [drawAll_extract draw hle, List.drop_eq_nil_of_le hend]
  exact String.append_empty

theorem drawAll_congr {draw other : ℕ → α → String} {index : ℕ} {items : List α}
    (hsame : ∀ place, index ≤ place → place < index + items.length →
      draw place = other place) :
    drawAll draw index items = drawAll other index items := by
  induction items generalizing index with
  | nil => rfl
  | cons item rest ih =>
      simp only [List.length_cons] at hsame
      have hfirst := hsame index le_rfl (by omega)
      have hrest : drawAll draw (index + 1) rest = drawAll other (index + 1) rest := by
        apply ih
        intro place hle hlt
        exact hsame place (by omega) (by omega)
      rw [drawAll_cons, drawAll_cons, hfirst, hrest]

theorem drawAll_extract_congr {draw other : ℕ → α → String} {first last : ℕ}
    (hsame : ∀ place, first ≤ place → place < last → draw place = other place)
    (items : List α) :
    drawAll draw first (items.extract first last) =
      drawAll other first (items.extract first last) := by
  apply drawAll_congr
  intro place hle hlt
  have hlength : (items.extract first last).length ≤ last - first :=
    List.length_take_le _ _
  exact hsame place hle (by omega)

end

theorem times_add (m n : ℕ) (text : String) :
    times (m + n) text = times m text ++ times n text := by
  unfold times
  rw [List.replicate_add, String.join_append]

theorem bar_eq_times (n : ℕ) : bar "─" n = times n (paint red "─") := by
  cases n with
  | zero => rfl
  | succ more => simp [bar, times, List.replicate_succ, String.join_cons]

theorem drawAll_times_everywhere (text : String) (index : ℕ)
    (columns : List ℕ) :
    drawAll (fun _ width => times width text) index columns =
      times columns.sum text := by
  induction columns generalizing index with
  | nil => rfl
  | cons width rest ih => rw [drawAll_cons, ih, List.sum_cons, times_add]

section

variable {draw : ℕ → ℕ → String} {first last : ℕ}

theorem drawAll_times {text : String}
    (hdraw : ∀ place, first ≤ place → place < last →
      ∀ width, draw place width = times width text) (columns : List ℕ) :
    drawAll draw first (columns.extract first last) =
      times (columns.extract first last).sum text := by
  rw [← drawAll_times_everywhere text first]
  apply drawAll_extract_congr
  intro place hle hlt
  exact funext (hdraw place hle hlt)

theorem drawAll_bar
    (hdraw : ∀ place, first ≤ place → place < last →
      ∀ width, draw place width = bar "─" width) (columns : List ℕ) :
    drawAll draw first (columns.extract first last) =
      bar "─" (columns.extract first last).sum := by
  simp only [bar_eq_times] at hdraw ⊢
  exact drawAll_times hdraw columns

/-- The cells below one character, the first of which has another head. -/
theorem drawAll_head {head : String}
    (hdraw : ∀ width, draw first width = bar head width) (columns : List ℕ) :
    drawAll draw first (columns.extract first (first + 1)) =
      bar head (columns.extract first (first + 1)).sum := by
  have hone : columns.extract first (first + 1) = (columns.drop first).take 1 := by
    rw [List.extract_eq_take_drop, Nat.add_sub_cancel_left]
  rw [hone]
  cases columns.drop first with
  | nil => rfl
  | cons width rest => simp [drawAll, hdraw]

end

theorem length_widths (index count : ℕ) (text : List Char) :
    (widths index count text).length = count := by
  induction count generalizing index text with
  | zero => rfl
  | succ count ih =>
      cases text with
      | nil => simp [widths, ih]
      | cons c rest => simp [widths, ih]

/-! ## The picture of a marked line -/

/-- Characters in one colour, the first of which has the given index in its
line. -/
def paintText (colour : String) (index : ℕ) (text : List Char) : String :=
  drawAll (paintChar colour) index text

namespace Marking

variable (marking : Marking)

def line : List Char := marking.lead ++ marking.marked ++ marking.tail

def start : ℕ := marking.lead.length

def middle : ℕ := marking.start + marking.marked.length / 2

def stop : ℕ := marking.start + marking.marked.length

/-- The line as it is shown, without white space at its end. -/
def shown : List Char := trimEnd marking.line

/-- The number of cells below the characters from one index up to another. -/
def cells (first last : ℕ) : ℕ :=
  ((widths 0 (marking.stop + 2) marking.shown).extract first last).sum

def painted : String :=
  paintText plain 0 (marking.shown.extract 0 marking.start) ++
    paintText red marking.start
      (marking.shown.extract marking.start marking.stop) ++
    paintText plain marking.stop (marking.shown.drop marking.stop)

def underlined : String :=
  times (marking.cells 0 marking.start) " " ++
    bar "─" (marking.cells marking.start marking.middle) ++
    bar "┬" (marking.cells marking.middle (marking.middle + 1)) ++
    bar "─" (marking.cells (marking.middle + 1) marking.stop) ++
    times (marking.cells marking.stop (marking.stop + 2)) " "

def pointed : String :=
  times (marking.cells 0 marking.middle) " " ++
    bar "╰" (marking.cells marking.middle (marking.middle + 1)) ++
    bar "─" (marking.cells (marking.middle + 1) (marking.stop + 2))

/-- The picture of the line with the given number: where the marked characters
begin, the line, a bar below the marked characters, and an arrow from there to
the message. -/
def picture (filename message : String) (number : ℕ) : String :=
  let digits := String.ofList (naturalDigits number)
  let margin := times (digits.length + 2) " "
  let column := String.ofList (naturalDigits (marking.start + 1))
  margin ++ paint frame "╭" ++ paint frame "─" ++ paint frame "[" ++
    (filename ++ ":" ++ digits ++ ":" ++ column) ++ paint frame "]" ++ "\n" ++
  margin ++ paint frame "│" ++ "\n" ++
  (" " ++ paint frame (digits ++ " │") ++ " " ++ marking.painted ++ "\n" ++
    side digits.length ++ marking.underlined ++ "\n" ++
    side digits.length ++ marking.pointed ++ " " ++ message ++ "\n") ++
  paint frame (times (digits.length + 2) "─" ++ "╯") ++ "\n"

def stretch : Stretch := ⟨marking.start, marking.stop⟩

theorem middle_stretch : marking.stretch.middle = marking.middle := by
  simp only [stretch, Stretch.middle, middle, stop]
  omega

theorem has_stretch_iff (place : ℕ) :
    marking.stretch.has place = true ↔
      marking.start ≤ place ∧ place < marking.stop := by
  rw [Stretch.has, Bool.and_eq_true, decide_eq_true_eq, decide_eq_true_eq]
  rfl

theorem start_le_stop : marking.start ≤ marking.stop :=
  Nat.le_add_right _ _

theorem paintLine_shown :
    paintLine marking.stretch marking.shown = marking.painted := by
  let draw (place : ℕ) (c : Char) : String :=
    paintChar (if marking.stretch.has place then red else plain) place c
  have hrow : paintLine marking.stretch marking.shown =
      drawAll draw 0 (marking.shown.drop 0) := rfl
  have hlead : drawAll draw 0 (marking.shown.extract 0 marking.start) =
      paintText plain 0 (marking.shown.extract 0 marking.start) := by
    apply drawAll_extract_congr
    intro place hle hlt
    have hhas : ¬ marking.stretch.has place = true := by
      rw [has_stretch_iff]
      omega
    simp [draw, hhas]
  have hmarked :
      drawAll draw marking.start
          (marking.shown.extract marking.start marking.stop) =
        paintText red marking.start
          (marking.shown.extract marking.start marking.stop) := by
    apply drawAll_extract_congr
    intro place hle hlt
    have hhas : marking.stretch.has place = true :=
      (marking.has_stretch_iff place).mpr ⟨hle, hlt⟩
    simp [draw, hhas]
  have htail : drawAll draw marking.stop (marking.shown.drop marking.stop) =
      paintText plain marking.stop (marking.shown.drop marking.stop) := by
    apply drawAll_congr
    intro place hle hlt
    have hhas : ¬ marking.stretch.has place = true := by
      rw [has_stretch_iff]
      omega
    simp [draw, hhas]
  rw [hrow, drawAll_extract draw (Nat.zero_le marking.start),
    drawAll_extract draw marking.start_le_stop, hlead, hmarked, htail,
    ← String.append_assoc]
  rfl

section

variable {marking : Marking} (hmarked : marking.marked ≠ [])
include hmarked

theorem middle_lt_stop : marking.middle < marking.stop := by
  have hlength := List.length_pos_iff.mpr hmarked
  simp only [middle, stop]
  omega

theorem underline_shown :
    drawAll (fun place width => underline marking.stretch width place) 0
        (widths 0 (marking.stop + 2) marking.shown) = marking.underlined := by
  let columns := widths 0 (marking.stop + 2) marking.shown
  let draw (place width : ℕ) : String := underline marking.stretch width place
  have hmiddle := middle_lt_stop hmarked
  have hstart : marking.start ≤ marking.middle := Nat.le_add_right _ _
  have hblank : ∀ place, place < marking.start ∨ marking.stop ≤ place →
      ∀ width, draw place width = times width " " := by
    intro place hplace width
    have hhas : ¬ marking.stretch.has place = true := by
      rw [has_stretch_iff]
      omega
    simp [draw, underline, hhas]
  have hbar : ∀ place, marking.start ≤ place → place < marking.stop →
      ∀ width, draw place width =
        bar (if place = marking.middle then "┬" else "─") width := by
    intro place hle hlt width
    have hhas : marking.stretch.has place = true :=
      (marking.has_stretch_iff place).mpr ⟨hle, hlt⟩
    simp [draw, underline, hhas, middle_stretch]
  have hlead : drawAll draw 0 (columns.extract 0 marking.start) =
      times (marking.cells 0 marking.start) " " := by
    apply drawAll_times
    intro place _ hlt
    exact hblank place (.inl hlt)
  have hfront : drawAll draw marking.start
      (columns.extract marking.start marking.middle) =
        bar "─" (marking.cells marking.start marking.middle) := by
    apply drawAll_bar
    intro place hle hlt width
    rw [hbar place hle (by omega), if_neg (by omega)]
  have hhead : drawAll draw marking.middle
      (columns.extract marking.middle (marking.middle + 1)) =
        bar "┬" (marking.cells marking.middle (marking.middle + 1)) := by
    apply drawAll_head
    intro width
    rw [hbar marking.middle hstart hmiddle, if_pos rfl]
  have hback : drawAll draw (marking.middle + 1)
      (columns.extract (marking.middle + 1) marking.stop) =
        bar "─" (marking.cells (marking.middle + 1) marking.stop) := by
    apply drawAll_bar
    intro place hle hlt width
    rw [hbar place (by omega) hlt, if_neg (by omega)]
  have hbehind : drawAll draw marking.stop
      (columns.extract marking.stop (marking.stop + 2)) =
        times (marking.cells marking.stop (marking.stop + 2)) " " := by
    apply drawAll_times
    intro place hle _
    exact hblank place (.inr hle)
  have hend : columns.length ≤ marking.stop + 2 := (length_widths _ _ _).le
  calc
    drawAll draw 0 columns = drawAll draw 0 (columns.drop 0) := rfl
    _ = marking.underlined := by
      rw [drawAll_extract draw (Nat.zero_le marking.start),
        drawAll_extract draw hstart, drawAll_extract draw (Nat.le_succ _),
        drawAll_extract draw hmiddle, drawAll_drop draw (Nat.le_add_right _ 2) hend,
        hlead, hfront, hhead, hback, hbehind]
      simp only [underlined, String.append_assoc]

theorem arrow_shown :
    drawAll (fun place width => arrow marking.stretch width place) 0
        (widths 0 (marking.stop + 2) marking.shown) = marking.pointed := by
  let columns := widths 0 (marking.stop + 2) marking.shown
  let draw (place width : ℕ) : String := arrow marking.stretch width place
  have hmiddle := middle_lt_stop hmarked
  have hlead : drawAll draw 0 (columns.extract 0 marking.middle) =
      times (marking.cells 0 marking.middle) " " := by
    apply drawAll_times
    intro place _ hlt width
    simp [draw, arrow, middle_stretch, hlt]
  have hhead : drawAll draw marking.middle
      (columns.extract marking.middle (marking.middle + 1)) =
        bar "╰" (marking.cells marking.middle (marking.middle + 1)) := by
    apply drawAll_head
    intro width
    simp [draw, arrow, middle_stretch]
  have hback : drawAll draw (marking.middle + 1)
      (columns.extract (marking.middle + 1) (marking.stop + 2)) =
        bar "─" (marking.cells (marking.middle + 1) (marking.stop + 2)) := by
    apply drawAll_bar
    intro place hle _ width
    have hbehind : ¬ place < marking.middle := by omega
    have hother : place ≠ marking.middle := by omega
    simp [draw, arrow, middle_stretch, hbehind, hother]
  have hend : columns.length ≤ marking.stop + 2 := (length_widths _ _ _).le
  calc
    drawAll draw 0 columns = drawAll draw 0 (columns.drop 0) := rfl
    _ = marking.pointed := by
      rw [drawAll_extract draw (Nat.zero_le marking.middle),
        drawAll_extract draw (Nat.le_succ _),
        drawAll_drop draw (by omega : marking.middle + 1 ≤ marking.stop + 2) hend,
        hlead, hhead, hback]
      simp only [pointed, String.append_assoc]

theorem drawStretch_shown (number message : String) :
    drawStretch number message marking.stretch marking.shown =
      " " ++ paint frame (number ++ " │") ++ " " ++ marking.painted ++ "\n" ++
        side number.length ++ marking.underlined ++ "\n" ++
        side number.length ++ marking.pointed ++ " " ++ message ++ "\n" := by
  rw [← paintLine_shown, ← underline_shown hmarked, ← arrow_shown hmarked]
  rfl

theorem draw_eq_picture (filename message : String) (number : ℕ) :
    draw filename message marking.marked.length
        ⟨number, marking.lead.length, marking.line⟩
        ⟨number, marking.lead.length + (marking.marked.length - 1), marking.line⟩ =
      marking.picture filename message number := by
  have hfits : marking.stretch.stop ≤ marking.line.length := by
    simp only [stretch, stop, start, line, List.length_append]
    omega
  let digits := String.ofList (naturalDigits number)
  have hstretch :
      (if number = number ∧ marking.stretch.stop ≤ marking.line.length then
        drawStretch digits message marking.stretch marking.shown
      else side digits.length ++ "\n") =
        drawStretch digits message marking.stretch marking.shown :=
    if_pos ⟨rfl, hfits⟩
  rw [picture, ← drawStretch_shown hmarked, ← hstretch]
  rfl

end

end Marking

/-! ## Lines of a template -/

theorem flatten_linesFrom (seen text : List Char) :
    (linesFrom seen text).flatten = seen.reverse ++ text := by
  fun_induction linesFrom seen text with
  | case1 seen hseen => simp [List.isEmpty_iff.mp hseen]
  | case2 seen hseen => simp
  | case3 seen rest ih => simp [ih]
  | case4 seen c rest hpair hends ih => simp [ih]
  | case5 seen c rest hpair hends ih => simp [ih]

/-- The lines of a text, put together, are the text. -/
theorem flatten_lines (source : List Char) : (lines source).flatten = source := by
  have hfrom := flatten_linesFrom [] source
  unfold lines
  split
  next hnone =>
    rw [hnone] at hfrom
    simpa using hfrom
  next => simpa using hfrom

theorem placeIn?_of_lines {above below : List (List Char)} {line : List Char}
    {column : ℕ} (hcolumn : column < line.length) (number : ℕ) :
    placeIn? number (above.flatten.length + column) (above ++ line :: below) =
      some ⟨number + above.length, column, line⟩ := by
  induction above generalizing number with
  | nil =>
      cases below with
      | nil => simp [placeIn?, hcolumn.le]
      | cons next rest => simp [placeIn?, hcolumn]
  | cons first rest ih =>
      obtain ⟨next, others, hothers⟩ :
          ∃ next others, rest ++ line :: below = next :: others := by
        cases rest <;> simp
      have hbehind : ¬ first.length + rest.flatten.length + column < first.length := by
        omega
      have hindex : first.length + rest.flatten.length + column - first.length =
          rest.flatten.length + column := by
        omega
      rw [List.cons_append, List.flatten_cons, List.length_append, hothers, placeIn?,
        if_neg hbehind, hindex, ← hothers, ih, List.length_cons]
      · congr 2
        omega
      · simp

end Report

/-! ## Reports of errors -/

theorem length_le_byteCount (text : List Char) : text.length ≤ byteCount text := by
  induction text with
  | nil => rfl
  | cons c rest ih =>
      have hsize := c.utf8Size_pos
      rw [List.length_cons, byteCount_cons]
      omega

theorem byteCount_eq_length_iff {text : List Char} :
    byteCount text = text.length ↔ ∀ c ∈ text, c.utf8Size = 1 := by
  induction text with
  | nil => simp
  | cons c rest ih =>
      have hsize := c.utf8Size_pos
      have hle := length_le_byteCount rest
      rw [List.forall_mem_cons, ← ih, List.length_cons, byteCount_cons]
      omega

namespace CompileError

/-- The first row of the report of an error that has a span. -/
def heading (error : CompileError) : String :=
  Report.paint Report.red "Error:" ++ " " ++ error.describe ++ "\n"

theorem report_of_marking {error : CompileError} {span : Span}
    (hspan : error.span? = some span) {source filename : String}
    {above below : List (List Char)} {marking : Report.Marking}
    (hmarked : marking.marked ≠ [])
    (hlines : Report.lines source.toList = above ++ marking.line :: below)
    (hstart : above.flatten.length + marking.lead.length = span.start)
    (hlength : marking.marked.length = span.length) :
    error.report source filename =
      error.heading ++
        marking.picture filename error.message (above.length + 1) := by
  have hpositive := List.length_pos_iff.mpr hmarked
  have hline : marking.line.length =
      marking.lead.length + marking.marked.length + marking.tail.length := by
    simp [Report.Marking.line, Nat.add_assoc]
  have hfirst : Report.place? source.toList span.start =
      some ⟨1 + above.length, marking.lead.length, marking.line⟩ := by
    rw [Report.place?, hlines, ← hstart]
    exact Report.placeIn?_of_lines (by omega) 1
  have hend : max span.start (span.stop - 1) = above.flatten.length +
      (marking.lead.length + (marking.marked.length - 1)) := by
    simp only [Span.length] at hlength
    omega
  have hlast : Report.place? source.toList (max span.start (span.stop - 1)) =
      some ⟨1 + above.length, marking.lead.length + (marking.marked.length - 1),
        marking.line⟩ := by
    rw [Report.place?, hlines, hend]
    exact Report.placeIn?_of_lines (by omega) 1
  simp only [report, hspan, hfirst, hlast, heading]
  rw [← hlength, Report.Marking.draw_eq_picture hmarked, Nat.add_comm]

end CompileError

namespace Tag.StandsIn

variable {delimiters : Delimiters} {tag : Tag} {source before after : List Char}
  {above below : List (List Char)} {marking : Report.Marking}

theorem length_span (hstands : tag.StandsIn delimiters source before after) :
    tag.span.length = byteCount (tag.text delimiters) := by
  rw [hstands.span_eq, Span.length, byteCount_append, Nat.add_sub_cancel_left]

theorem length_span_pos (hstands : tag.StandsIn delimiters source before after) :
    0 < tag.span.length := by
  have hbody := List.length_pos_iff.mpr hstands.body_ne_nil
  have hbytes := length_le_byteCount tag.body
  rw [hstands.length_span]
  simp only [text, byteCount_append]
  omega

/-- Positions of a tag that count characters count bytes if and only if every
character up to the end of the tag takes one byte. -/
theorem counts_bytes_iff (hstands : tag.StandsIn delimiters source before after) :
    (before.length = tag.span.start ∧
        (tag.text delimiters).length = tag.span.length) ↔
      ∀ c ∈ before ++ tag.text delimiters, c.utf8Size = 1 := by
  rw [hstands.length_span, hstands.span_eq, List.forall_mem_append,
    ← byteCount_eq_length_iff, ← byteCount_eq_length_iff]
  exact and_congr eq_comm eq_comm

/-- What is marked from the first byte of the span on, as many characters as
the span has bytes, is the tag if and only if these are its positions in
characters too. -/
theorem marks_iff (hstands : tag.StandsIn delimiters source before after)
    (hlines : Report.lines source = above ++ marking.line :: below)
    (hstart : above.flatten.length + marking.lead.length = tag.span.start)
    (hlength : marking.marked.length = tag.span.length) :
    (above.flatten ++ marking.lead = before ∧
        marking.marked = tag.text delimiters) ↔
      ∀ c ∈ before ++ tag.text delimiters, c.utf8Size = 1 := by
  have hsource : (above.flatten ++ marking.lead) ++
      (marking.marked ++ (marking.tail ++ below.flatten)) =
        before ++ (tag.text delimiters ++ after) := by
    calc
      _ = (Report.lines source).flatten := by
        simp [hlines, Report.Marking.line]
      _ = source := Report.flatten_lines source
      _ = before ++ (tag.text delimiters ++ after) := by
        rw [← List.append_assoc]
        exact hstands.source_eq
  rw [← List.length_append] at hstart
  rw [← hstands.counts_bytes_iff, ← hstart, ← hlength]
  constructor
  · rintro ⟨rfl, hmarked⟩
    rw [hmarked]
    exact ⟨rfl, rfl⟩
  · rintro ⟨hbefore, htext⟩
    obtain ⟨hsame, hrest⟩ := List.append_inj hsource hbefore.symm
    exact ⟨hsame, (List.append_inj hrest htext.symm).1⟩

end Tag.StandsIn

/-- An error that has a span has that of a directive of the template.  If the
directive is within one line, and every character up to its end takes one
byte, then the report marks the directive.  If what is marked is told by the
numbers of the span, then it is the directive in no other case. -/
theorem CompileError.report_marks {options : Options} {source : String}
    {error : CompileError} {span : Span}
    (herror : compile options source = .error error)
    (hspan : error.span? = some span) (filename : String) :
    ∃ (delimiters : Delimiters) (tag : Tag) (before after : List Char),
      options.delimiters = .ok delimiters ∧
        tag.StandsIn delimiters source.toList before after ∧ tag.span = span ∧
        (∀ (above below : List (List Char)) (marking : Report.Marking),
          Report.lines source.toList = above ++ marking.line :: below →
          above.flatten ++ marking.lead = before →
          marking.marked = tag.text delimiters →
          (∀ c ∈ before ++ tag.text delimiters, c.utf8Size = 1) →
          error.report source filename = error.heading ++
            marking.picture filename error.message (above.length + 1)) ∧
        ∀ (above below : List (List Char)) (marking : Report.Marking),
          Report.lines source.toList = above ++ marking.line :: below →
          above.flatten.length + marking.lead.length = span.start →
          marking.marked.length = span.length →
          error.report source filename = error.heading ++
              marking.picture filename error.message (above.length + 1) ∧
            ((above.flatten ++ marking.lead = before ∧
                marking.marked = tag.text delimiters) ↔
              ∀ c ∈ before ++ tag.text delimiters, c.utf8Size = 1) := by
  obtain ⟨delimiters, tag, before, after, haccepted, hstands, rfl⟩ :=
    exists_standsIn_of_compile herror hspan
  have hpositive := hstands.length_span_pos
  refine ⟨delimiters, tag, before, after, haccepted, hstands, rfl, ?_, ?_⟩
  · intro above below marking hlines hlead hmarked hbytes
    obtain ⟨hbefore, htext⟩ := hstands.counts_bytes_iff.mpr hbytes
    rw [← hlead, List.length_append] at hbefore
    rw [← hmarked] at htext
    exact report_of_marking hspan (List.length_pos_iff.mp (by omega)) hlines
      hbefore htext
  · intro above below marking hlines hstart hlength
    constructor
    · exact report_of_marking hspan (List.length_pos_iff.mp (by omega)) hlines
        hstart hlength
    · exact hstands.marks_iff hlines hstart hlength

theorem CompileError.report_marks_of_second_line :
    let source := "a\n  \x7bx|nope\x7d b"
    let error : CompileError := .badFormatter "nope" ⟨4, 12⟩
    let marking : Report.Marking :=
      ⟨[' ', ' '], "\x7bx|nope\x7d".toList, [' ', 'b']⟩
    compile .standard source = .error error ∧
      Report.lines source.toList = [['a', '\n']] ++ marking.line :: [] ∧
      error.report source "t" =
        error.heading ++ marking.picture "t" error.message 2 := by
  intro source error marking
  have herror : compile .standard source = .error error := by cbv
  have hlines : Report.lines source.toList = [['a', '\n']] ++ marking.line :: [] := by
    cbv
  obtain ⟨_, _, _, _, -, -, -, -, hreport⟩ :=
    CompileError.report_marks herror rfl "t"
  exact ⟨herror, hlines, (hreport [['a', '\n']] [] marking hlines rfl rfl).1⟩

/-- Behind an accent all marks are one character late: the directive has the
bytes from 3 up to 11, but begins at the character with index 2. -/
theorem CompileError.report_misses_behind_accent :
    let source := "é \x7bx|nope\x7d and more"
    let error : CompileError := .badFormatter "nope" ⟨3, 11⟩
    let marking : Report.Marking :=
      ⟨['é', ' '], "\x7bx|nope\x7d".toList, " and more".toList⟩
    let missed : Report.Marking :=
      ⟨"é \x7b".toList, "x|nope\x7d ".toList, "and more".toList⟩
    compile .standard source = .error error ∧
      Report.lines source.toList = [marking.line] ∧
      byteCount marking.lead = 3 ∧
      byteCount (marking.lead ++ marking.marked) = 11 ∧
      error.report source "t" =
        error.heading ++ missed.picture "t" error.message 1 ∧
      error.report source "t" ≠
        error.heading ++ marking.picture "t" error.message 1 := by
  intro source error marking missed
  have hreport : error.report source "t" =
      error.heading ++ missed.picture "t" error.message 1 := by
    have hlines : Report.lines source.toList = [] ++ missed.line :: [] := by cbv
    exact @CompileError.report_of_marking error ⟨3, 11⟩ rfl source "t" [] [] missed
      (by decide) hlines rfl rfl
  refine ⟨by cbv, by cbv, by cbv, by cbv, hreport, ?_⟩
  rw [hreport]
  decide +kernel

end Stencil
