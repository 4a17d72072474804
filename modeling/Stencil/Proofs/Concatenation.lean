import Stencil.Proofs.BalancedEntries
import Stencil.Proofs.SegmentCut
import Stencil.Proofs.SinkDelivery
import Mathlib.Tactic

/-!
# Templates one behind the other

Two templates that compile on their own compile also one behind the other, and
the output of the whole is that of the one followed by that of the other.  Two
things can stand in the way.  The cut of the whole need not be the two cuts
side by side, since halves of markers can pair across the seam.  And a clause
that the first template has switched to outside of its sections would take in
what the second one adds.

The entries of the first template balance, so that the blocks opened in it are
all closed at the seam; this is what the relation `Reads` carries through the
nesting.
-/

namespace Stencil

/-! ## The cut of the whole -/

/-- The segment in a source where it comes `offset` bytes later. -/
def Segment.shift (offset : ℕ) (segment : Segment) : Segment :=
  { segment with span := segment.span.shift offset }

def Segment.join (first second : Segment) : Segment :=
  ⟨first.kind, first.text ++ second.text, ⟨first.span.start, second.span.stop⟩⟩

/-- Two lists of segments side by side, where the last of the one and the first
of the other are joined. -/
def joinSegments : List Segment → List Segment → List Segment
  | [], second => second
  | [last], next :: rest => last.join next :: rest
  | segment :: rest, second => segment :: joinSegments rest second

/-- The keyword that a directive is read as. -/
def Segment.keyword? (delimiters : Delimiters) (segment : Segment) :
    Option Keyword :=
  match segment.kind with
  | .literal => none
  | .directive =>
      match Directive.read delimiters segment.text with
      | .keyword word => some word
      | _ => none

/-- The number of open sections behind a segment. -/
def Segment.depthBehind (delimiters : Delimiters) (depth : ℕ)
    (segment : Segment) : ℕ :=
  match segment.keyword? delimiters with
  | some (.opening _ _) => depth + 1
  | some .closing => depth - 1
  | _ => depth

/-- Clauses are switched only while a section is open. -/
def Delimiters.SwitchesInSections (delimiters : Delimiters)
    (segments : List Segment) : Prop :=
  ∀ index : Fin segments.length,
    segments[index].keyword? delimiters = some .alternate ∨
      segments[index].keyword? delimiters = some .otherwise →
    (segments.take index).foldl (Segment.depthBehind delimiters) 0 ≠ 0

instance (delimiters : Delimiters) (segments : List Segment) :
    Decidable (delimiters.SwitchesInSections segments) :=
  inferInstanceAs (Decidable (∀ _ : Fin _, _ ∨ _ → _))

theorem joinSegments_append (front : List Segment) (last next : Segment)
    (rest : List Segment) :
    joinSegments (front ++ [last]) (next :: rest) =
      front ++ last.join next :: rest := by
  induction front with
  | nil => rfl
  | cons segment more ih =>
      have hmore : more ++ [last] ≠ [] := by simp
      obtain ⟨head, tail, htail⟩ := List.exists_cons_of_ne_nil hmore
      rw [List.cons_append, List.cons_append, ← ih, htail, joinSegments]
      simp

/-- A cut begins with literal text. -/
theorem Delimiters.exists_split_eq_cons (delimiters : Delimiters)
    (source : List Char) :
    ∃ first rest, delimiters.split source = first :: rest ∧
      first.kind = .literal := by
  have hcut := delimiters.split_cut source
  cases hsplit : delimiters.split source with
  | nil => simpa [hsplit] using hcut.odd_length
  | cons first rest =>
      rw [hsplit] at hcut
      exact ⟨first, rest, rfl, (hcut.literal 0 first rfl rfl).kind_eq⟩

/-- A cut ends with literal text. -/
theorem Delimiters.exists_split_eq_concat (delimiters : Delimiters)
    (source : List Char) :
    ∃ front last, delimiters.split source = front ++ [last] ∧
      last.kind = .literal := by
  have hcut := delimiters.split_cut source
  rcases List.eq_nil_or_concat' (delimiters.split source) with
    hnil | ⟨front, last, hsplit⟩
  · simpa [hnil] using hcut.odd_length
  · rw [hsplit] at hcut
    have hodd := hcut.odd_length
    rw [List.length_append, List.length_singleton] at hodd
    have hlast : (front ++ [last])[front.length]? = some last := by simp
    exact ⟨front, last, hsplit, (hcut.literal _ last hlast (by omega)).kind_eq⟩

/-! ## Moved entries -/

def Entry.shift (offset : ℕ) : Entry → Entry
  | .opening repeats name span => .opening repeats name (span.shift offset)
  | entry => entry

theorem resolveFormatters_of_span {options : Options} {span : Span}
    (other : Span) {names : List String} {formatters : List NamedFormatter}
    (hresolved : resolveFormatters options span names = .ok formatters) :
    resolveFormatters options other names = .ok formatters := by
  induction names generalizing formatters with
  | nil => exact hresolved
  | cons name rest ih =>
      unfold resolveFormatters resolveFormatter at hresolved ⊢
      cases hfound : NamedFormatter.find? options.formatters name with
      | none => simp [hfound] at hresolved
      | some first =>
          cases hrest : resolveFormatters options span rest with
          | error error => simp [hfound, hrest] at hresolved
          | ok others =>
              rw [hfound, hrest] at hresolved
              rw [ih hrest]
              exact hresolved

/-- Only the error of a substitution says where it stands. -/
theorem readSubstitution_of_span {options : Options} {span : Span}
    (other : Span) {text : List Char} {substitution : Substitution}
    (hread : readSubstitution options span text = .ok substitution) :
    readSubstitution options other text = .ok substitution := by
  unfold readSubstitution at hread ⊢
  simp only at hread ⊢
  split at hread
  next => contradiction
  next formatters hformatters =>
    split at hformatters
    next => contradiction
    next => rw [resolveFormatters_of_span other hformatters, ← hread]
    next => rw [resolveFormatters_of_span other hformatters, ← hread]

theorem Tag.entry?_shift {options : Options} {delimiters : Delimiters} {tag : Tag}
    {entry : Entry} (hentry : tag.entry? options delimiters = some entry)
    (offset : ℕ) :
    Tag.entry? options delimiters { tag with span := tag.span.shift offset } =
      some (entry.shift offset) := by
  have hsame : Tag.directive { tag with span := tag.span.shift offset } =
      tag.directive := rfl
  unfold Tag.entry? at hentry ⊢
  rw [hsame]
  cases hdirective : tag.directive with
  | comment =>
      rw [hdirective] at hentry
      obtain rfl := Option.some.inj hentry
      rfl
  | keyword word =>
      rw [hdirective] at hentry
      cases word <;> obtain rfl := Option.some.inj hentry <;> rfl
  | substitution text newline =>
      simp only [hdirective] at hentry ⊢
      split at hentry
      next => contradiction
      next substitution hread =>
        obtain rfl := Option.some.inj hentry
        rw [readSubstitution_of_span _ hread]
        rfl

theorem Segment.meaning?_shift {options : Options} {delimiters : Delimiters}
    {segment : Segment} {entry : Entry}
    (hentry : segment.meaning? options delimiters = some entry) (offset : ℕ) :
    (segment.shift offset).meaning? options delimiters =
      some (entry.shift offset) := by
  rcases segment with ⟨_ | _, text, span⟩
  · obtain rfl := Option.some.inj hentry
    rfl
  · exact Tag.entry?_shift hentry offset

theorem Reads.shift {entries : List Entry} {items : List Item}
    (hreads : Reads entries items) (offset : ℕ) :
    Reads (entries.map (Entry.shift offset)) items := by
  induction hreads with
  | nil => exact .nil
  | items own hrest ih => exact .items own ih
  | block repeats name span hinside houtside ihInside ihOutside =>
      rw [List.map_cons, List.map_append, List.map_cons]
      exact .block repeats name (span.shift offset) ihInside ihOutside

theorem Means.shift {options : Options} {delimiters : Delimiters}
    {segments : List Segment} {entries : List Entry}
    (hmeans : Means options delimiters segments entries) (offset : ℕ) :
    Means options delimiters (segments.map (Segment.shift offset))
      (entries.map (Entry.shift offset)) := by
  induction hmeans with
  | nil => exact .nil
  | cons hentry hrest ih => exact .cons (Segment.meaning?_shift hentry offset) ih

/-! ## Switches inside of sections -/

/-- Without switches all items add to the clause that is active. -/
theorem Item.leading_append {front : List Item}
    (hfront : ∀ item ∈ front, item.switch? = none) (back : List Item) :
    leading (front ++ back) = leading front ++ leading back := by
  induction front with
  | nil => rfl
  | cons item rest ih =>
      obtain ⟨hitem, hrest⟩ := List.forall_mem_cons.mp hfront
      cases item with
      | add statement => rw [List.cons_append, leading, leading, ih hrest]; rfl
      | alternate => simp [switch?] at hitem
      | otherwise => simp [switch?] at hitem

theorem Item.switch?_of_mem_ofText {text : List Char} {item : Item}
    (hitem : item ∈ ofText text) : item.switch? = none := by
  unfold ofText at hitem
  split at hitem
  next => exact absurd hitem List.not_mem_nil
  next =>
    obtain rfl := List.mem_singleton.mp hitem
    rfl

/-- An entry opens a block, ends one, or has items, and these switch between
clauses only if the keyword does. -/
theorem Segment.meaning?_cases {options : Options} {delimiters : Delimiters}
    {segment : Segment} {entry : Entry}
    (hentry : segment.meaning? options delimiters = some entry) :
    ((∃ repeats name span, entry = .opening repeats name span) ∧
        ∀ depth, segment.depthBehind delimiters depth = depth + 1) ∨
      (entry = .closing ∧
        ∀ depth, segment.depthBehind delimiters depth = depth - 1) ∨
      ∃ own, entry = .items own ∧
        (∀ depth, segment.depthBehind delimiters depth = depth) ∧
        (segment.keyword? delimiters ≠ some .alternate →
          segment.keyword? delimiters ≠ some .otherwise →
          ∀ item ∈ own, item.switch? = none) := by
  rcases segment with ⟨_ | _, text, span⟩
  · obtain rfl := Option.some.inj hentry
    exact .inr (.inr ⟨_, rfl, fun depth => rfl, fun _ _ item =>
      Item.switch?_of_mem_ofText⟩)
  · have hread : (Segment.readTag delimiters ⟨.directive, text, span⟩).directive =
        Directive.read delimiters text := rfl
    simp only [meaning?, Tag.entry?, hread] at hentry
    simp only [keyword?, depthBehind]
    cases hdirective : Directive.read delimiters text with
    | comment =>
        rw [hdirective] at hentry
        obtain rfl := Option.some.inj hentry
        simp
    | keyword word =>
        rw [hdirective] at hentry
        cases word <;> obtain rfl := Option.some.inj hentry <;>
          simp [Item.switch?, Item.literal]
    | substitution text newline =>
        simp only [hdirective] at hentry
        split at hentry
        next => contradiction
        next substitution _ =>
          obtain rfl := Option.some.inj hentry
          refine .inr (.inr ⟨_, rfl, fun depth => rfl, fun _ _ => ?_⟩)
          refine List.forall_mem_cons.mpr ⟨rfl, fun item hitem => ?_⟩
          split at hitem
          next =>
            obtain rfl := List.mem_singleton.mp hitem
            rfl
          next => exact absurd hitem List.not_mem_nil

/-- What the search for ends counts on entries is what the keywords of their
segments count. -/
theorem foldl_depthBehind {options : Options} {delimiters : Delimiters}
    {segments : List Segment} {entries : List Entry}
    (hentries : Means options delimiters segments entries)
    {depth reached : ℕ} (hdepth : openDepth depth entries = some reached) :
    segments.foldl (Segment.depthBehind delimiters) depth = reached := by
  induction hentries generalizing depth with
  | nil => exact Option.some.inj hdepth
  | cons hentry hrest ih =>
      rw [List.foldl_cons]
      apply ih
      rcases Segment.meaning?_cases hentry with
        ⟨⟨repeats, name, span, rfl⟩, hbehind⟩ | ⟨rfl, hbehind⟩ |
          ⟨own, rfl, hbehind, -⟩
      · rw [hbehind]
        exact hdepth
      · rw [hbehind]
        cases depth with
        | zero => simp [openDepth] at hdepth
        | succ depth => exact hdepth
      · rw [hbehind]
        exact hdepth

theorem exists_of_append_forall₂ {α β : Type} {related : α → β → Prop}
    {front back : List α} {others : List β}
    (hrelated : List.Forall₂ related (front ++ back) others) :
    ∃ first second, others = first ++ second ∧
      List.Forall₂ related front first ∧ List.Forall₂ related back second := by
  have hflip := hrelated.flip
  exact ⟨_, _, (List.take_append_drop front.length others).symm,
    (List.forall₂_take_append _ _ _ hflip).flip,
    (List.forall₂_drop_append _ _ _ hflip).flip⟩

theorem Delimiters.SwitchesInSections.switch?_eq_none {options : Options}
    {delimiters : Delimiters} {segments : List Segment} {entries : List Entry}
    {items : List Item} (hswitches : delimiters.SwitchesInSections segments)
    (hentries : Means options delimiters segments entries)
    (hreads : Reads entries items) : ∀ item ∈ items, item.switch? = none := by
  apply hreads.switch?_eq_none
  rintro before own after rfl hdepth
  obtain ⟨front, back, rfl, hbefore, hback⟩ :=
    exists_of_append_forall₂ hentries.flip
  cases hback with
  | @cons _ segment _ rest hsegment hrest =>
      rcases Segment.meaning?_cases hsegment with
        ⟨⟨repeats, name, span, hopening⟩, -⟩ | ⟨hclosing, -⟩ |
          ⟨items, hitems, -, hnone⟩
      · contradiction
      · contradiction
      · obtain rfl := Entry.items.inj hitems
        have houtside := foldl_depthBehind hbefore.flip hdepth
        have hkeyword := hswitches ⟨front.length, by simp⟩
        simp only [Fin.getElem_fin, List.getElem_append_right le_rfl,
          Nat.sub_self, List.getElem_cons_zero, List.take_left, ne_eq, houtside,
          not_true_eq_false, imp_false, not_or] at hkeyword
        exact hnone hkeyword.1 hkeyword.2

/-! ## The program of the whole -/

theorem Segment.meaning?_of_literal {segment : Segment}
    (hkind : segment.kind = .literal) (options : Options)
    (delimiters : Delimiters) :
    segment.meaning? options delimiters =
      some (.items (Item.ofText segment.text)) := by
  rw [meaning?, hkind]

theorem Means.of_cons_literal {options : Options} {delimiters : Delimiters}
    {first : Segment} {rest : List Segment} {entries : List Entry}
    (hkind : first.kind = .literal)
    (hmeans : Means options delimiters (first :: rest) entries) :
    ∃ more, Means options delimiters rest more ∧
      entries = .items (Item.ofText first.text) :: more := by
  obtain ⟨entry, more, hentry, hmore, rfl⟩ := List.forall₂_cons_left_iff.mp hmeans
  rw [Segment.meaning?_of_literal hkind] at hentry
  obtain rfl := Option.some.inj hentry
  exact ⟨more, hmore, rfl⟩

/-- The whole compiles.  Its statements are those of the first template and of
the second one, but for the text at the seam, which is one literal. -/
theorem compile_append {options : Options} {delimiters : Delimiters}
    (haccepted : options.delimiters = .ok delimiters) {source next : String}
    {first second : Program} (hfirst : compile options source = .ok first)
    (hsecond : compile options next = .ok second)
    (hjoined : delimiters.split (source ++ next).toList =
      joinSegments (delimiters.split source.toList)
        ((delimiters.split next.toList).map
          (Segment.shift (byteCount source.toList))))
    (hswitches : delimiters.SwitchesInSections (delimiters.split source.toList)) :
    ∃ whole front back text more, compile options (source ++ next) = .ok whole ∧
      first.main = front ++ Item.leading (Item.ofText text) ∧
      second.main = Item.leading (Item.ofText more) ++ back ∧
      whole.main = front ++ Item.leading (Item.ofText (text ++ more)) ++ back := by
  obtain ⟨entries, items, hentries, hreads, rfl⟩ :=
    (compile_eq_ok_iff_reads haccepted source first).mp hfirst
  obtain ⟨others, more, hothers, hreadsOthers, rfl⟩ :=
    (compile_eq_ok_iff_reads haccepted next second).mp hsecond
  have hnone := hswitches.switch?_eq_none hentries hreads
  obtain ⟨front, last, hsplit, hlast⟩ :=
    delimiters.exists_split_eq_concat source.toList
  obtain ⟨head, rest, hsplitNext, hhead⟩ :=
    delimiters.exists_split_eq_cons next.toList
  rw [hsplit] at hentries hjoined
  rw [hsplitNext] at hothers hjoined
  rw [List.map_cons, joinSegments_append] at hjoined
  obtain ⟨before, seam, rfl, hbefore, hseam⟩ := exists_of_append_forall₂ hentries
  obtain ⟨nothing, hnothing, rfl⟩ := Means.of_cons_literal hlast hseam
  obtain rfl := List.forall₂_nil_left_iff.mp hnothing
  obtain ⟨statements, hstatements, rfl⟩ := hreads.of_append_items
  obtain ⟨after, hafter, rfl⟩ := Means.of_cons_literal hhead hothers
  obtain ⟨later, hlater, rfl⟩ : ∃ later, Reads after later ∧
      more = Item.ofText head.text ++ later := by
    cases hreadsOthers with
    | items own hrest => exact ⟨_, hrest, rfl⟩
  let seamText := last.text ++ head.text
  have hwhole : compile options (source ++ next) =
      .ok (Block.ofItems none (statements ++ (Item.ofText seamText ++ later))) := by
    apply (compile_eq_ok_iff_reads haccepted _ _).mpr
    refine ⟨before ++ .items (Item.ofText seamText) ::
      after.map (Entry.shift (byteCount source.toList)), _, ?_,
      hstatements.append (.items (Item.ofText seamText) (hlater.shift _)), rfl⟩
    have hseam : (last.join (head.shift (byteCount source.toList))).kind =
        .literal := hlast
    rw [hjoined]
    exact List.rel_append hbefore
      (.cons (Segment.meaning?_of_literal hseam options delimiters) (hafter.shift _))
  obtain ⟨hfront, -⟩ := List.forall_mem_append.mp hnone
  refine ⟨_, Item.leading statements, Item.leading later, last.text, head.text,
    hwhole, ?_, ?_, ?_⟩
  · exact Item.leading_append hfront _
  · exact Item.leading_append (fun _ => Item.switch?_of_mem_ofText) _
  · rw [List.append_assoc,
      ← Item.leading_append fun _ => Item.switch?_of_mem_ofText,
      ← Item.leading_append hfront]
    rfl

/-! ## The output of the whole -/

/-- The two renderings write the same text and end in the same way, whatever
the chunks. -/
structure Rendering.WritesAs (first second : Rendering) : Prop where
  text_eq : String.join first.chunks = String.join second.chunks
  undefinedName_eq : first.undefinedName = second.undefinedName

namespace Rendering.WritesAs

variable {first second third : Rendering}

theorem refl (rendering : Rendering) : rendering.WritesAs rendering :=
  ⟨rfl, rfl⟩

theorem symm (hsame : first.WritesAs second) : second.WritesAs first :=
  ⟨hsame.text_eq.symm, hsame.undefinedName_eq.symm⟩

theorem trans (hsame : first.WritesAs second) (hnext : second.WritesAs third) :
    first.WritesAs third :=
  ⟨hsame.text_eq.trans hnext.text_eq,
    hsame.undefinedName_eq.trans hnext.undefinedName_eq⟩

end Rendering.WritesAs

theorem Rendering.join_followedBy (first second : Rendering) :
    String.join (first.followedBy second).chunks =
      String.join first.chunks ++
        if first.undefinedName = none then String.join second.chunks else "" := by
  rcases first with ⟨chunks, _ | name⟩ <;> simp [followedBy, String.join_append]

theorem Rendering.WritesAs.followedBy {first second next other : Rendering}
    (hfirst : first.WritesAs second) (hnext : next.WritesAs other) :
    (first.followedBy next).WritesAs (second.followedBy other) := by
  obtain ⟨htext, hname⟩ := hfirst
  constructor
  · rw [join_followedBy, join_followedBy, htext, hname, hnext.text_eq]
  · unfold Rendering.followedBy
    rw [hname]
    cases hend : second.undefinedName with
    | none => exact hnext.undefinedName_eq
    | some name => simp [hend, hname]

theorem renderingAll_append (front back : List Statement)
    (environment : List Value) :
    renderingAll (front ++ back) environment =
      (renderingAll front environment).followedBy
        (renderingAll back environment) := by
  induction front with
  | nil => simp [renderingAll, Rendering.followedBy, Rendering.nothing]
  | cons statement rest ih =>
      rw [List.cons_append, renderingAll, renderingAll, ih,
        Rendering.followedBy_assoc]

theorem Item.renderingAll_ofText (text : List Char) (environment : List Value) :
    (renderingAll (Item.leading (Item.ofText text)) environment).WritesAs
      (.chunk (String.ofList text)) := by
  unfold Item.ofText
  split
  next hempty => constructor <;> simp [hempty, Item.leading, renderingAll,
    Rendering.nothing, Rendering.chunk]
  next => constructor <;> simp [Item.leading, Item.literal, renderingAll,
    Statement.rendering, Rendering.chunk]

/-- One literal at the seam writes what the two literals wrote. -/
theorem writesAs_of_seam {front back : List Statement} {text more : List Char}
    (environment : List Value) :
    (renderingAll
        (front ++ Item.leading (Item.ofText (text ++ more)) ++ back)
        environment).WritesAs
      ((renderingAll (front ++ Item.leading (Item.ofText text))
          environment).followedBy
        (renderingAll (Item.leading (Item.ofText more) ++ back) environment)) := by
  have hchunks : (Rendering.chunk (String.ofList (text ++ more))).WritesAs
      ((Rendering.chunk (String.ofList text)).followedBy
        (.chunk (String.ofList more))) := by
    constructor <;> simp [Rendering.followedBy, Rendering.chunk]
  have hseam :
      (renderingAll (Item.leading (Item.ofText (text ++ more)))
        environment).WritesAs
      ((renderingAll (Item.leading (Item.ofText text)) environment).followedBy
        (renderingAll (Item.leading (Item.ofText more)) environment)) :=
    (Item.renderingAll_ofText _ environment).trans (hchunks.trans
      ((Item.renderingAll_ofText text environment).followedBy
        (Item.renderingAll_ofText more environment)).symm)
  simp only [renderingAll_append, Rendering.followedBy_assoc]
  rw [← Rendering.followedBy_assoc
    (renderingAll (Item.leading (Item.ofText text)) environment)]
  exact (Rendering.WritesAs.refl _).followedBy (hseam.followedBy (.refl _))

/-- Where the cut of the whole is the two cuts side by side, and the first
template switches clauses only in its sections, the whole compiles.  Its output
is that of the first template and then that of the second one, up to the first
failure. -/
theorem Template.render_append {options : Options} {delimiters : Delimiters}
    (haccepted : options.delimiters = .ok delimiters) {source next : String}
    {first second : Template} (hfirst : ofSource options source = .ok first)
    (hsecond : ofSource options next = .ok second)
    (hjoined : delimiters.split (source ++ next).toList =
      joinSegments (delimiters.split source.toList)
        ((delimiters.split next.toList).map
          (Segment.shift (byteCount source.toList))))
    (hswitches : delimiters.SwitchesInSections (delimiters.split source.toList)) :
    ∃ whole, ofSource options (source ++ next) = .ok whole ∧
      ∀ data,
        let before := first.render Sink.string data ""
        let behind := second.render Sink.string data ""
        let outcome := whole.render Sink.string data ""
        (before.failure = none →
          outcome.output = before.output ++ behind.output ∧
            outcome.failure = behind.failure) ∧
        (before.failure ≠ none →
          outcome.output = before.output ∧ outcome.failure = before.failure) := by
  have hprogram : ∀ {text : String} {template : Template},
      ofSource options text = .ok template →
        compile options text = .ok template.program := by
    intro text template hsource
    unfold ofSource at hsource
    split at hsource
    next program hcompile =>
      obtain rfl := Except.ok.inj hsource
      exact hcompile
    next => contradiction
  obtain ⟨program, front, back, text, more, hcompile, hmain, hmainNext, hwhole⟩ :=
    compile_append haccepted (hprogram hfirst) (hprogram hsecond) hjoined hswitches
  refine ⟨⟨program⟩, by rw [ofSource, hcompile], fun data => ?_⟩
  intro before behind outcome
  have hwrites : (program.rendering data).WritesAs
      ((first.program.rendering data).followedBy
        (second.program.rendering data)) := by
    unfold Block.rendering
    rw [hmain, hmainNext, hwhole]
    exact writesAs_of_seam [data]
  obtain ⟨hbefore, hbeforeEnd⟩ := first.render_string data ""
  obtain ⟨hbehind, hbehindEnd⟩ := second.render_string data ""
  obtain ⟨houtcome, houtcomeEnd⟩ := Template.render_string ⟨program⟩ data ""
  rw [String.empty_append] at hbefore hbehind houtcome
  rw [hwrites.text_eq, Rendering.join_followedBy] at houtcome
  simp only [Rendering.failure, hwrites.undefinedName_eq] at houtcomeEnd
  simp only [before, behind, outcome, hbefore, hbeforeEnd, hbehind, hbehindEnd,
    houtcome, houtcomeEnd, Rendering.failure]
  cases hname : (first.program.rendering data).undefinedName with
  | none => simp [Rendering.followedBy, hname]
  | some name => simp [Rendering.followedBy, hname]

theorem Template.render_append_of_section :
    let braces : Delimiters := ⟨['\x7b'], ['\x7d']⟩
    let source := "\x7b.section s\x7d<\x7b.or\x7d-\x7b.end\x7da"
    let next := "b\x7bx\x7d\n"
    let data : Value := .mapping [("x", .string "c")]
    Options.standard.delimiters = .ok braces ∧
      braces.split (source ++ next).toList =
        joinSegments (braces.split source.toList)
          ((braces.split next.toList).map
            (Segment.shift (byteCount source.toList))) ∧
      braces.SwitchesInSections (braces.split source.toList) ∧
      ∃ whole, ofSource .standard (source ++ next) = .ok whole ∧
        (whole.render Sink.string data "").output = "-abc\n" ∧
        (whole.render Sink.string data "").failure = none := by
  intro braces source next data
  have haccepted : Options.standard.delimiters = .ok braces := rfl
  have hfirst : ofSource .standard source =
      .ok ⟨⟨none, [.conditional ⟨some "s", [.literal "<"], [], [.literal "-"]⟩,
        .literal "a"], [], []⟩⟩ := by
    cbv
  have hsecond : ofSource .standard next =
      .ok ⟨⟨none, [.literal "b", .substitute ⟨"x", [⟨"str", Value.text⟩]⟩,
        .literal "\n"], [], []⟩⟩ := by
    cbv
  have hjoined : braces.split (source ++ next).toList =
      joinSegments (braces.split source.toList)
        ((braces.split next.toList).map
          (Segment.shift (byteCount source.toList))) := by
    cbv
  have hsegments : braces.split source.toList =
      [⟨.literal, [], ⟨0, 0⟩⟩,
        ⟨.directive, "\x7b.section s\x7d".toList, ⟨0, 12⟩⟩,
        ⟨.literal, ['<'], ⟨12, 13⟩⟩,
        ⟨.directive, "\x7b.or\x7d".toList, ⟨13, 18⟩⟩,
        ⟨.literal, ['-'], ⟨18, 19⟩⟩,
        ⟨.directive, "\x7b.end\x7d".toList, ⟨19, 25⟩⟩,
        ⟨.literal, ['a'], ⟨25, 26⟩⟩] := by
    cbv
  have hswitches : braces.SwitchesInSections (braces.split source.toList) := by
    rw [hsegments]
    decide
  obtain ⟨whole, hwhole, hrender⟩ :=
    render_append haccepted hfirst hsecond hjoined hswitches
  obtain ⟨houtput, hfailure⟩ := (hrender data).1 rfl
  exact ⟨haccepted, hjoined, hswitches, whole, hwhole, houtput, hfailure⟩

end Stencil
