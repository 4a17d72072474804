import Stencil.Compile
import Stencil.Proofs.SegmentCut
import Mathlib.Tactic

/-!
# Source text put together from pieces

A source is often written piece by piece: literal text, and bodies that are
put between the halves of the marker.  The pieces are found again when the
source is cut if no character of the marker stands in them, no two literals
touch, and no literal begins with a line feed, which a directive in front of
it would take.

Compiling such a source is taking in its pieces one after the other, each at
the byte where it begins.
-/

namespace Stencil

inductive Piece where
  | literal (text : List Char)
  | directive (body : List Char)
deriving DecidableEq, Repr

namespace Piece

def isLiteral : Piece → Bool
  | .literal _ => true
  | .directive _ => false

def text (delimiters : Delimiters) : Piece → List Char
  | .literal text => text
  | .directive body => delimiters.left ++ body ++ delimiters.right

def source (delimiters : Delimiters) (pieces : List Piece) : List Char :=
  pieces.flatMap (text delimiters)

theorem source_cons (delimiters : Delimiters) (piece : Piece) (rest : List Piece) :
    source delimiters (piece :: rest) =
      piece.text delimiters ++ source delimiters rest :=
  List.flatMap_cons

end Piece

/-- No character of the marker stands in the text. -/
def Delimiters.Avoid (delimiters : Delimiters) (text : List Char) : Prop :=
  ∀ c ∈ text, c ∉ delimiters.left ++ delimiters.right

structure Delimiters.Visible (delimiters : Delimiters) : Prop where
  left_ne_nil : delimiters.left ≠ []
  right_ne_nil : delimiters.right ≠ []
  no_lineFeed : '\n' ∉ delimiters.left ++ delimiters.right

structure Piece.IsText (delimiters : Delimiters) (text : List Char) : Prop where
  ne_nil : text ≠ []
  no_lineFeed : text.head? ≠ some '\n'
  plain : delimiters.Avoid text

structure Piece.IsBody (delimiters : Delimiters) (body : List Char) : Prop where
  ne_nil : body ≠ []
  in_line : '\n' ∉ body
  plain : delimiters.Avoid body

/-- The pieces can be told apart in their source. -/
inductive Piece.Readable (delimiters : Delimiters) : List Piece → Prop
  | nil : Readable delimiters []
  | literal {text : List Char} {rest : List Piece}
      (own : Piece.IsText delimiters text)
      (apart : ∀ next ∈ rest.head?, next.isLiteral = false)
      (readable : Readable delimiters rest) :
      Readable delimiters (.literal text :: rest)
  | directive {body : List Char} {rest : List Piece}
      (own : Piece.IsBody delimiters body)
      (readable : Readable delimiters rest) :
      Readable delimiters (.directive body :: rest)

namespace Assembly

def piece (options : Options) (delimiters : Delimiters) (position : ℕ)
    (assembly : Assembly) : Piece → Except CompileError Assembly
  | .literal text => .ok (assembly.literal text)
  | .directive body =>
      let stop := position + byteCount ((Piece.directive body).text delimiters)
      assembly.directive options delimiters ⟨position, stop⟩
        (Directive.ofBody body false)

/-- Takes in pieces the first of which begins at byte `position`, up to the
first fault. -/
def pieces (options : Options) (delimiters : Delimiters) (position : ℕ)
    (assembly : Assembly) : List Piece → Except CompileError Assembly
  | [] => .ok assembly
  | piece :: rest =>
      match assembly.piece options delimiters position piece with
      | .error error => .error error
      | .ok next =>
          pieces options delimiters (position + byteCount (piece.text delimiters))
            next rest

/-- Takes in literal text that has been read, last character first. -/
def flush (assembly : Assembly) (pending : List Char) : Assembly :=
  if pending = [] then assembly else assembly.literal pending.reverse

end Assembly

section

variable {delimiters : Delimiters} {body text : List Char}

/-! ## Cutting pieces apart -/

theorem dropFront?_of_not_mem {front : List Char} {c : Char}
    (hfront : front ≠ []) (hc : c ∉ front) : dropFront? front (c :: text) = none := by
  obtain ⟨d, rest, rfl⟩ := List.exists_cons_of_ne_nil hfront
  have hne : d ≠ c := by
    rintro rfl
    simp at hc
  simp [dropFront?, hne]

theorem Delimiters.splitFrom_literal (hleft : delimiters.left ≠ [])
    (htext : delimiters.Avoid text) (start position : ℕ)
    (pending rest : List Char) :
    delimiters.splitFrom start position pending (text ++ rest) =
      delimiters.splitFrom start (position + byteCount text)
        (text.reverse ++ pending) rest := by
  induction text generalizing position pending with
  | nil => simp
  | cons c more ih =>
      have hc : c ∉ delimiters.left := by
        intro hmem
        apply htext c (by simp)
        exact List.mem_append_left _ hmem
      have hnone : delimiters.directive? (c :: (more ++ rest)) = none := by
        unfold directive?
        rw [dropFront?_of_not_mem hleft hc]
      have hmore : delimiters.Avoid more := by
        intro d hd
        exact htext d (List.mem_cons_of_mem c hd)
      rw [List.cons_append, splitFrom_cons hnone, ih hmore]
      simp [Nat.add_assoc]

/-- A body without characters of the marker is found again in front of
anything but a line feed. -/
theorem Delimiters.directive?_of_isBody (hvisible : delimiters.Visible)
    (hown : Piece.IsBody delimiters body) {rest : List Char}
    (hrest : rest.head? ≠ some '\n') :
    delimiters.directive? ((Piece.directive body).text delimiters ++ rest) =
      some ((Piece.directive body).text delimiters, rest) := by
  let raw := (Piece.directive body).text delimiters
  let tag : Tag := ⟨body, false, ⟨0, byteCount raw⟩⟩
  have htext : tag.text delimiters = raw := by
    simp [tag, raw, Tag.text, Tag.lineFeed, Piece.text]
  have hstands : tag.StandsIn delimiters (raw ++ rest) [] rest := by
    refine ⟨?_, ?_, hown.ne_nil, hown.in_line, fun _ => hrest⟩
    · rw [htext, List.nil_append]
    · rw [htext, List.nil_append]
      rfl
  have hends : tag.EndsFirst delimiters rest := by
    intro front back hsplit hfront hback hbehind
    obtain ⟨behind, hbehind⟩ := hbehind
    obtain ⟨c, more, hright⟩ := List.exists_cons_of_ne_nil hvisible.right_ne_nil
    obtain ⟨d, others, rfl⟩ := List.exists_cons_of_ne_nil hback
    have hcd : c = d := by
      rw [hright] at hbehind
      exact (List.cons.inj hbehind).1
    have hd : d ∈ body := by
      have hbody : body = front ++ d :: others := hsplit
      simp [hbody]
    apply hown.plain d hd
    rw [← hcd, hright]
    simp
  have hfound := directive?_of_standsIn hstands hends
  rwa [htext] at hfound

theorem Directive.read_of_isBody (hvisible : delimiters.Visible)
    (hown : Piece.IsBody delimiters body) :
    Directive.read delimiters ((Piece.directive body).text delimiters) =
      Directive.ofBody body false := by
  have hright : delimiters.right.getLast? ≠ some '\n' := by
    intro hlast
    apply hvisible.no_lineFeed
    have hmem := List.mem_of_getLast? hlast
    exact List.mem_append_right _ hmem
  let tag : Tag := ⟨body, false, ⟨0, 0⟩⟩
  have htext : tag.text delimiters = (Piece.directive body).text delimiters := by
    simp [tag, Tag.text, Tag.lineFeed, Piece.text]
  have hread : read delimiters (tag.text delimiters) = tag.directive :=
    read_text hright hown.ne_nil hown.in_line
  rwa [htext] at hread

theorem Piece.Readable.head?_source (hvisible : delimiters.Visible)
    {pieces : List Piece} (hreadable : Piece.Readable delimiters pieces) :
    (Piece.source delimiters pieces).head? ≠ some '\n' := by
  cases hreadable with
  | nil => simp [source]
  | literal hown hapart hrest =>
      obtain ⟨c, others, htext⟩ := List.exists_cons_of_ne_nil hown.ne_nil
      have hc := hown.no_lineFeed
      rw [htext] at hc
      simpa [source_cons, Piece.text, htext] using hc
  | directive hown hrest =>
      obtain ⟨c, others, hleft⟩ :=
        List.exists_cons_of_ne_nil hvisible.left_ne_nil
      have hc : c ≠ '\n' := by
        rintro rfl
        apply hvisible.no_lineFeed
        simp [hleft]
      simpa [source_cons, Piece.text, hleft] using hc

/-! ## Taking in pieces -/

namespace Assembly

theorem segment_literal (options : Options) (assembly : Assembly)
    (pending : List Char) (span : Span) :
    assembly.segment options delimiters ⟨.literal, pending.reverse, span⟩ =
      .ok (assembly.flush pending) := by
  unfold segment flush
  by_cases hpending : pending = []
  · simp [hpending]
  · simp [hpending]

theorem segment_directive (options : Options) (hvisible : delimiters.Visible)
    (hown : Piece.IsBody delimiters body) (position : ℕ) (assembly : Assembly) :
    let raw := (Piece.directive body).text delimiters
    assembly.segment options delimiters
        ⟨.directive, raw, ⟨position, position + byteCount raw⟩⟩ =
      assembly.piece options delimiters position (.directive body) := by
  intro raw
  have hread : Directive.read delimiters raw = Directive.ofBody body false :=
    Directive.read_of_isBody hvisible hown
  simp only [segment, piece, hread, raw]

/-- The segments of a source are its pieces, with empty literals between
neighbouring directives and at the ends. -/
theorem segments_of_readable (options : Options) (hvisible : delimiters.Visible)
    {pieces : List Piece} (hreadable : Piece.Readable delimiters pieces)
    {pending : List Char}
    (hpending : ∀ next ∈ pieces.head?, next.isLiteral = true → pending = [])
    (start position : ℕ) (assembly : Assembly) :
    assembly.segments options delimiters
        (delimiters.splitFrom start position pending
          (Piece.source delimiters pieces)) =
      (assembly.flush pending).pieces options delimiters position pieces := by
  -- A literal that has been read is pending until a directive or the end of
  -- the source comes; it is then taken in at once.
  induction hreadable generalizing pending start position assembly with
  | nil =>
      have hnone : delimiters.directive? [] = none := by
        obtain ⟨c, rest, hleft⟩ :=
          List.exists_cons_of_ne_nil hvisible.left_ne_nil
        simp [Delimiters.directive?, hleft, dropFront?]
      rw [Piece.source, List.flatMap_nil, Delimiters.splitFrom_nil hnone]
      simp only [segments, segment_literal, Assembly.pieces]
  | @literal text rest hown hapart hrest ih =>
      obtain rfl := hpending (.literal text) rfl rfl
      have hnext : ∀ next ∈ rest.head?, next.isLiteral = true →
          text.reverse = [] := by
        intro next hmem hliteral
        rw [hapart next hmem] at hliteral
        contradiction
      have hflush : assembly.flush text.reverse = assembly.literal text := by
        simp [flush, hown.ne_nil]
      have htake := ih hnext start (position + byteCount text) assembly
      have hsplit := Delimiters.splitFrom_literal hvisible.left_ne_nil hown.plain
        start position [] (Piece.source delimiters rest)
      rw [List.append_nil] at hsplit
      rw [Piece.source_cons, Piece.text, hsplit, htake, hflush]
      rfl
  | @directive body rest hown hrest ih =>
      let raw := (Piece.directive body).text delimiters
      let stop := position + byteCount raw
      have hfound : delimiters.directive?
          (raw ++ Piece.source delimiters rest) =
            some (raw, Piece.source delimiters rest) :=
        Delimiters.directive?_of_isBody hvisible hown
          (hrest.head?_source hvisible)
      have hdirective : (assembly.flush pending).segment options delimiters
          ⟨.directive, raw, ⟨position, stop⟩⟩ = _ :=
        segment_directive options hvisible hown position _
      rw [Piece.source_cons, Delimiters.splitFrom_of_directive hfound]
      simp only [segments, segment_literal, Assembly.pieces]
      rw [hdirective]
      cases (assembly.flush pending).piece options delimiters position
          (.directive body) with
      | error error => rfl
      | ok next => exact ih (by simp) stop stop next

theorem pieces_append {options : Options} {front : List Piece}
    {position : ℕ} {assembly next : Assembly}
    (hfront : assembly.pieces options delimiters position front = .ok next)
    (back : List Piece) :
    assembly.pieces options delimiters position (front ++ back) =
      next.pieces options delimiters
        (position + byteCount (Piece.source delimiters front)) back := by
  induction front generalizing position assembly with
  | nil =>
      obtain rfl : assembly = next := by simpa [pieces] using hfront
      rfl
  | cons piece rest ih =>
      rw [pieces] at hfront
      rw [List.cons_append, pieces, Piece.source_cons, byteCount_append,
        ← Nat.add_assoc]
      cases hpiece : assembly.piece options delimiters position piece with
      | error error => simp [hpiece] at hfront
      | ok reached =>
          rw [hpiece] at hfront
          exact ih hfront

end Assembly

end

end Stencil
