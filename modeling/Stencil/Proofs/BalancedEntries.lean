import Stencil.Proofs.BlockReading
import Mathlib.Tactic

/-!
# Balanced entries

Reading by recursive descent cuts each block out at its matching end.  Here the
same reading is a relation: a block is an opening, entries that read, and an
end.  Laws of reading, such as those for entries one behind the other, then go
by induction along the nesting.

The relation also says what compiles.  Every directive has an entry here, read
from its raw text as the compiler reads it, so that nothing is asked of the
marker.
-/

namespace Stencil

/-! ## Reading as a relation -/

/-- The entries mean the items, with every block among them ended. -/
inductive Reads : List Entry → List Item → Prop
  | nil : Reads [] []
  | items (own : List Item) {rest : List Entry} {more : List Item}
      (hrest : Reads rest more) : Reads (.items own :: rest) (own ++ more)
  | block (repeats : Bool) (name : Option String) (span : Span)
      {inside outside : List Entry} {inner more : List Item}
      (hinside : Reads inside inner) (houtside : Reads outside more) :
      Reads (.opening repeats name span :: (inside ++ .closing :: outside))
        (.add (.ofItems repeats name inner) :: more)

/-- The search for an end passes over entries that balance. -/
theorem Reads.cutAtEnd_append {entries : List Entry} {items : List Item}
    (hreads : Reads entries items) (depth : ℕ) (rest : List Entry) :
    cutAtEnd depth (entries ++ rest) =
      (cutAtEnd depth rest).map fun (inside, outside) =>
        (entries ++ inside, outside) := by
  induction hreads generalizing depth rest with
  | nil => simp
  | items own hrest ih =>
      simp [cutAtEnd, ih, Function.comp_def]
  | block repeats name span hinside houtside ihInside ihOutside =>
      simp [cutAtEnd, ihInside, ihOutside, Function.comp_def]

theorem readItems_eq_some_iff {entries : List Entry} {items : List Item} :
    readItems entries = some items ↔ Reads entries items := by
  constructor
  · intro hread
    -- On the length, since a block and what follows it are cut out of the rest.
    induction hlength : entries.length using Nat.strong_induction_on
      generalizing entries items with
    | _ length ih =>
        subst hlength
        cases entries with
        | nil =>
            rw [readItems] at hread
            obtain rfl := Option.some.inj hread
            exact .nil
        | cons entry rest =>
            cases entry with
            | closing => simp [readItems] at hread
            | items own =>
                rw [readItems] at hread
                obtain ⟨more, hmore, rfl⟩ := Option.map_eq_some_iff.mp hread
                exact .items own (ih _ (by simp) hmore rfl)
            | opening repeats name span =>
                obtain ⟨inside, outside, inner, more, hcut, hinner, hmore, rfl⟩ :=
                  readItems_opening_eq_some.mp hread
                obtain rfl := cutAtEnd_eq_some hcut
                exact .block repeats name span (ih _ (by simp) hinner rfl)
                  (ih _ (by simp; omega) hmore rfl)
  · intro hreads
    induction hreads with
    | nil => rw [readItems]
    | items own hrest ih => rw [readItems, ih, Option.map_some]
    | block repeats name span hinside houtside ihInside ihOutside =>
        refine readItems_opening_eq_some.mpr
          ⟨_, _, _, _, ?_, ihInside, ihOutside, rfl⟩
        simp [hinside.cutAtEnd_append, cutAtEnd]

theorem Reads.append {front back : List Entry} {items more : List Item}
    (hfront : Reads front items) (hback : Reads back more) :
    Reads (front ++ back) (items ++ more) := by
  induction hfront with
  | nil => exact hback
  | items own hrest ih =>
      rw [List.append_assoc]
      exact .items own ih
  | block repeats name span hinside houtside ihInside ihOutside =>
      rw [List.cons_append, List.append_assoc]
      exact .block repeats name span hinside ihOutside

/-- Items behind the last block are the last ones. -/
theorem Reads.of_append_items {front : List Entry} {own items : List Item}
    (hreads : Reads (front ++ [.items own]) items) :
    ∃ before, Reads front before ∧ items = before ++ own := by
  generalize hentries : front ++ [.items own] = entries at hreads
  induction hreads generalizing front with
  | nil => simp at hentries
  | @items first rest more hrest ih =>
      cases front with
      | nil =>
          obtain ⟨hfirst, rfl⟩ := List.cons.inj hentries
          obtain rfl := Entry.items.inj hfirst
          cases hrest
          exact ⟨[], .nil, by simp⟩
      | cons entry front =>
          obtain ⟨rfl, htail⟩ := List.cons.inj hentries
          obtain ⟨before, hbefore, rfl⟩ := ih htail
          exact ⟨first ++ before, .items first hbefore, by simp⟩
  | @block repeats name span inside outside inner more hinside houtside _ ih =>
      cases front with
      | nil => simp at hentries
      | cons entry front =>
          obtain ⟨rfl, htail⟩ := List.cons.inj hentries
          -- The end of the block is not the last entry, since items are.
          rcases List.eq_nil_or_concat' outside with rfl | ⟨others, last, rfl⟩
          · have hlast := congrArg List.getLast? htail
            simp at hlast
          · have hsplit : front ++ [.items own] =
                (inside ++ .closing :: others) ++ [last] := by
              simpa using htail
            obtain ⟨rfl, hlast⟩ := List.append_inj' hsplit rfl
            obtain rfl := List.singleton_inj.mp hlast
            obtain ⟨before, hbefore, rfl⟩ := ih rfl
            exact ⟨_, .block repeats name span hinside hbefore, by simp⟩

/-- Blocks that are ended do not count. -/
theorem Reads.openDepth_append {entries : List Entry} {items : List Item}
    (hreads : Reads entries items) (depth : ℕ) (rest : List Entry) :
    openDepth depth (entries ++ rest) = openDepth depth rest := by
  induction hreads generalizing depth rest with
  | nil => rfl
  | items own hrest ih => exact ih depth rest
  | block repeats name span hinside houtside ihInside ihOutside =>
      rw [List.cons_append, List.append_assoc, openDepth, ihInside,
        List.cons_append, openDepth, ihOutside]

/-- Entries whose switches are all inside of blocks mean statements alone. -/
theorem Reads.switch?_eq_none {entries : List Entry} {items : List Item}
    (hreads : Reads entries items)
    (hinside : ∀ before own after, entries = before ++ .items own :: after →
      openDepth 0 before = some 0 → ∀ item ∈ own, item.switch? = none) :
    ∀ item ∈ items, item.switch? = none := by
  induction hreads with
  | nil => exact fun _ hmem => absurd hmem List.not_mem_nil
  | @items own rest more hrest ih =>
      refine List.forall_mem_append.mpr ⟨hinside [] own rest rfl rfl, ih ?_⟩
      intro before other after hsplit hdepth
      exact hinside (.items own :: before) other after (by rw [hsplit]; rfl) hdepth
  | @block repeats name span inside outside inner more hblock houtside _ ih =>
      refine List.forall_mem_cons.mpr ⟨rfl, ih ?_⟩
      intro before other after hsplit hdepth
      apply hinside (.opening repeats name span :: (inside ++ .closing :: before))
        other after
      · rw [hsplit]
        simp
      · rw [openDepth, hblock.openDepth_append]
        exact hdepth

/-! ## Entries of raw directives -/

def Item.ofText (text : List Char) : List Item :=
  if text = [] then [] else [.literal text]

/-- A directive as its raw text is read, whatever the marker. -/
def Segment.readTag (delimiters : Delimiters) (segment : Segment) : Tag :=
  let (text, newline) := Directive.setAsideNewline segment.text
  ⟨Directive.between delimiters text, newline, segment.span⟩

def Segment.meaning? (options : Options) (delimiters : Delimiters)
    (segment : Segment) : Option Entry :=
  match segment.kind with
  | .literal => some (.items (Item.ofText segment.text))
  | .directive => Tag.entry? options delimiters (segment.readTag delimiters)

/-- Each segment means the entry in its place. -/
abbrev Means (options : Options) (delimiters : Delimiters) :
    List Segment → List Entry → Prop :=
  List.Forall₂ fun segment entry =>
    segment.meaning? options delimiters = some entry

theorem Assembly.toOption_segment_of_read (options : Options)
    (delimiters : Delimiters) (segment : Segment) (assembly : Assembly) :
    (assembly.segment options delimiters segment).toOption =
      (segment.meaning? options delimiters).bind assembly.enter := by
  cases hkind : segment.kind with
  | literal =>
      simp only [Assembly.segment, Segment.meaning?, Item.ofText, hkind,
        Option.bind_some]
      by_cases htext : segment.text = []
      · rw [htext]
        rfl
      · have hempty : segment.text.isEmpty = false := by simpa using htext
        rw [hempty, if_neg htext]
        rfl
  | directive =>
      have hread : (segment.readTag delimiters).directive =
          Directive.read delimiters segment.text := rfl
      simp only [Assembly.segment, Segment.meaning?, hkind, ← hread]
      exact Assembly.toOption_directive options delimiters assembly
        (segment.readTag delimiters)

theorem mapM_eq_some_iff_forall₂ {α β : Type} {f : α → Option β} {inputs : List α}
    {results : List β} :
    inputs.mapM f = some results ↔
      List.Forall₂ (fun input result => f input = some result) inputs results := by
  induction inputs generalizing results with
  | nil => simp [eq_comm]
  | cons input rest ih =>
      simp only [List.mapM_cons, Option.bind_eq_bind, Option.bind_eq_some_iff,
        Option.pure_def, Option.some.injEq, ih, List.forall₂_cons_left_iff]
      constructor
      · rintro ⟨result, hresult, more, hmore, rfl⟩
        exact ⟨result, more, hresult, hmore, rfl⟩
      · rintro ⟨result, more, hresult, hmore, rfl⟩
        exact ⟨result, hresult, more, hmore, rfl⟩

/-- A template compiles if its segments have entries that read as items, and
to the block of these items. -/
theorem compile_eq_ok_iff_reads {options : Options} {delimiters : Delimiters}
    (haccepted : options.delimiters = .ok delimiters) (source : String)
    (program : Program) :
    compile options source = .ok program ↔
      ∃ entries items,
        Means options delimiters (delimiters.split source.toList) entries ∧
        Reads entries items ∧ program = Block.ofItems none items := by
  let segments := delimiters.split source.toList
  have hrun := Assembly.toOption_segments
    (fun (segment : Segment) (_ : segment ∈ segments) assembly =>
      Assembly.toOption_segment_of_read options delimiters segment assembly)
    Assembly.start
  have hread : compile options source = .ok program ↔
      ((segments.mapM (Segment.meaning? options delimiters)).bind
        fun entries => (readItems entries).map (Block.ofItems none)) =
          some program := by
    simp only [← Assembly.finish_enterAll_start]
    rw [← Option.bind_assoc, ← hrun, compile, haccepted]
    cases hsegments : Assembly.start.segments options delimiters segments with
    | error error => simp [segments, hsegments, Except.toOption]
    | ok assembly =>
        cases hfinish : assembly.finish <;>
          simp [segments, hsegments, hfinish, Except.toOption]
  rw [hread]
  simp only [Option.bind_eq_some_iff, Option.map_eq_some_iff,
    mapM_eq_some_iff_forall₂, readItems_eq_some_iff, segments]
  constructor
  · rintro ⟨entries, hentries, items, hitems, rfl⟩
    exact ⟨entries, items, hentries, hitems, rfl⟩
  · rintro ⟨entries, items, hentries, hitems, rfl⟩
    exact ⟨entries, hentries, items, hitems, rfl⟩

end Stencil
