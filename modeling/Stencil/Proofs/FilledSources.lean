import Stencil.Proofs.CompileFaults
import Stencil.Proofs.Concatenation
import Mathlib.Tactic

/-!
# Sources filled in

A template without sections is a text with gaps.  Its output is the source with
something in place of each directive: nothing for a comment, the halves of the
marker and a space for the keywords that stand for them, and the formatted value
for a substitution.  The line feed right behind a directive goes with it, and
only a substitution gives it back.

All this is said of the cut of the source, directive by directive, and nothing is
compiled for it.  A name that the data lacks leaves the rest of the source
unwritten.
-/

namespace Stencil

/-! ## Filling in -/

/-- Neither opens nor ends a section, nor switches between its clauses. -/
def Directive.IsPlain : Directive → Prop
  | .comment => True
  | .substitution _ _ => True
  | .keyword word => word = .metaLeft ∨ word = .metaRight ∨ word = .space

instance : DecidablePred Directive.IsPlain
  | .comment => inferInstanceAs (Decidable True)
  | .substitution _ _ => inferInstanceAs (Decidable True)
  | .keyword _ => inferInstanceAs (Decidable (_ ∨ _ ∨ _))

/-- What data holds under a name, where null counts as nothing; under the name of
the cursor it is the data. -/
def Value.named? (data : Value) (name : String) : Option Value :=
  if name = cursorName then some data
  else (data.get? name).filter fun held => !held.isNull

/-- The formatters that the text of a substitution asks for; names that stand for
none are left out. -/
def Options.chain (options : Options) (text : List Char) : List NamedFormatter :=
  ((options.asked? text).getD []).filterMap
    (NamedFormatter.find? options.formatters)

/-- What stands in the output for a directive together with the line feed behind
it, or the name that the data lacks. -/
def Tag.filling (options : Options) (delimiters : Delimiters) (data : Value)
    (tag : Tag) : Except String (List Char) :=
  match tag.directive with
  | .keyword .metaLeft => .ok delimiters.left
  | .keyword .metaRight => .ok delimiters.right
  | .keyword .space => .ok [' ']
  | .substitution text _ =>
      let name := String.ofList (text.takeWhile (· ≠ options.separator))
      match data.named? name with
      | some value =>
          .ok ((chainText (options.chain text) value).toList ++ tag.lineFeed)
      | none => .error name
  | _ => .ok []

/-- Literal text stays as it is. -/
def Segment.filled (delimiters : Delimiters)
    (filling : Tag → Except String (List Char)) (segment : Segment) :
    Except String (List Char) :=
  match segment.tag? delimiters with
  | none => .ok segment.text
  | some tag => filling tag

/-- The segments filled in, up to the first one that cannot be, and what that one
lacks. -/
def Delimiters.fillIn (delimiters : Delimiters)
    (filling : Tag → Except String (List Char)) :
    List Segment → List Char × Option String
  | [] => ([], none)
  | segment :: rest =>
      match segment.filled delimiters filling with
      | .error name => ([], some name)
      | .ok text =>
          let (behind, lacking) := delimiters.fillIn filling rest
          (text ++ behind, lacking)

/-! ## The text of a rendering -/

namespace Rendering

/-- Writes a text at once and ends there if a name is lacking. -/
def writing (text : List Char) (lacking : Option String) : Rendering :=
  ⟨[String.ofList text], lacking⟩

def ofFilling : Except String (List Char) → Rendering
  | .ok text => .writing text none
  | .error name => .writing [] (some name)

theorem undefined_writesAs (name : String) :
    (undefined name).WritesAs (.ofFilling (.error name)) :=
  ⟨rfl, rfl⟩

theorem writing_followedBy (text behind : List Char) (lacking : Option String) :
    ((writing text none).followedBy (writing behind lacking)).WritesAs
      (.writing (text ++ behind) lacking) := by
  constructor <;> simp [writing, followedBy]

end Rendering

theorem Delimiters.fillIn_cons_writesAs (delimiters : Delimiters)
    (filling : Tag → Except String (List Char)) (segment : Segment)
    (rest : List Segment) :
    let filled := delimiters.fillIn filling rest
    let whole := delimiters.fillIn filling (segment :: rest)
    ((Rendering.ofFilling (segment.filled delimiters filling)).followedBy
        (.writing filled.1 filled.2)).WritesAs
      (.writing whole.1 whole.2) := by
  intro filled whole
  simp only [whole, fillIn]
  split
  next name hlacks =>
    rw [hlacks]
    exact .refl _
  next text htext =>
    rw [htext]
    exact Rendering.writing_followedBy _ _ _

/-! ## One directive -/

/-- The entry has statements only, and outside of all sections these write what
the filling says. -/
def Entry.Fills (data : Value) (filling : Except String (List Char)) (entry : Entry) :
    Prop :=
  ∃ own, entry = .items own ∧ (∀ item ∈ own, item.switch? = none) ∧
    (renderingAll (Item.leading own) [data]).WritesAs (.ofFilling filling)

theorem Entry.nothing_fills (data : Value) : Fills data (.ok []) (.items []) :=
  ⟨[], rfl, fun _ hitem => absurd hitem List.not_mem_nil, rfl, rfl⟩

theorem Entry.literal_fills (data : Value) (text : List Char) :
    Fills data (.ok text) (.items [.literal text]) := by
  refine ⟨_, rfl, fun item hitem => ?_, ?_⟩
  · obtain rfl := List.mem_singleton.mp hitem
    rfl
  · simp only [Item.literal, Item.leading, renderingAll,
      Rendering.followedBy_nothing]
    exact .refl _

theorem Tag.lineFeed_fills (tag : Tag) (data : Value) :
    Entry.Fills data (.ok tag.lineFeed)
      (.items (if tag.newline then [.literal ['\n']] else [])) := by
  unfold lineFeed
  split
  · exact Entry.literal_fills data _
  · exact Entry.nothing_fills data

theorem filterMap_eq_of_forall₂ {α β : Type} {f : α → Option β} {inputs : List α}
    {results : List β}
    (hresults : List.Forall₂ (fun input result => f input = some result)
      inputs results) : inputs.filterMap f = results := by
  induction hresults with
  | nil => rfl
  | cons hresult hrest ih => rw [List.filterMap_cons_some hresult, ih]

/-- What a substitution is read as has the name and the formatters that its text
asks for. -/
theorem eq_of_readSubstitution {options : Options} {span : Span}
    {text : List Char} {substitution : Substitution}
    (hread : readSubstitution options span text = .ok substitution) :
    substitution =
      ⟨String.ofList (text.takeWhile (· ≠ options.separator)),
        options.chain text⟩ := by
  obtain ⟨hname, names, hasked, hfound⟩ := readSubstitution_eq_ok_iff.mp hread
  have hchain : options.chain text = substitution.formatters := by
    rw [Options.chain, hasked, Option.getD_some, filterMap_eq_of_forall₂ hfound]
  rw [hchain, ← hname]

theorem Value.enclosing?_singleton (data : Value) (name : String) :
    enclosing? name [data] = (data.get? name).filter fun held => !held.isNull := by
  rw [enclosing?, List.findSome?_cons]
  cases (data.get? name).filter fun held => !held.isNull <;> rfl

theorem Substitution.rendering_singleton (substitution : Substitution)
    (data : Value) :
    substitution.rendering [data] =
      match data.named? substitution.name with
      | some value => .chunk (chainText substitution.formatters value)
      | none => .undefined substitution.name := by
  rw [rendering, Value.enclosing?_singleton]
  rfl

theorem Tag.entry_fills {options : Options} {delimiters : Delimiters} {tag : Tag}
    {entry : Entry} (hplain : tag.directive.IsPlain) (data : Value)
    (hentry : tag.entry? options delimiters = some entry) :
    entry.Fills data (tag.filling options delimiters data) := by
  unfold entry? at hentry
  unfold filling
  cases hdirective : tag.directive with
  | comment =>
      rw [hdirective] at hentry
      obtain rfl := Option.some.inj hentry
      exact Entry.nothing_fills data
  | keyword word =>
      rw [hdirective] at hentry hplain
      rcases hplain with rfl | rfl | rfl <;> obtain rfl := Option.some.inj hentry <;>
        exact Entry.literal_fills data _
  | substitution text newline =>
      simp only [hdirective] at hentry
      split at hentry
      next => contradiction
      next substitution hread =>
        obtain rfl := Option.some.inj hentry
        obtain rfl := eq_of_readSubstitution hread
        obtain ⟨own, hown, hswitches, hwrites⟩ := tag.lineFeed_fills data
        obtain rfl := Entry.items.inj hown
        refine ⟨_, rfl, List.forall_mem_cons.mpr ⟨rfl, hswitches⟩, ?_⟩
        rw [Item.leading, renderingAll, Statement.rendering,
          Substitution.rendering_singleton]
        simp only
        cases data.named?
            (String.ofList (text.takeWhile (· ≠ options.separator))) with
        | none => exact Rendering.undefined_writesAs _
        | some value =>
            have htext : Rendering.chunk (chainText (options.chain text) value) =
                .writing (chainText (options.chain text) value).toList none := by
              rw [Rendering.writing, String.ofList_toList]
              rfl
            simp only [htext]
            exact ((Rendering.WritesAs.refl _).followedBy hwrites).trans
              (Rendering.writing_followedBy _ _ _)

/-! ## The whole source -/

theorem Segment.meaning?_of_tag {delimiters : Delimiters} {tag : Tag}
    (hright : delimiters.right.getLast? ≠ some '\n') (hbody : tag.body ≠ [])
    (hline : '\n' ∉ tag.body) (options : Options) :
    meaning? options delimiters ⟨.directive, tag.text delimiters, tag.span⟩ =
      tag.entry? options delimiters := by
  have haside := Directive.setAsideNewline_text hright hbody hline
  have hbetween :
      Directive.between delimiters
        (delimiters.left ++ tag.body ++ delimiters.right) = tag.body := by
    simp [Directive.between]
  rw [meaning?]
  simp only [readTag, haside, hbetween]

/-- A segment is literal text, or the text of the tag that it means. -/
theorem Delimiters.meaning?_of_mem_split {delimiters : Delimiters}
    (hright : delimiters.right.getLast? ≠ some '\n') {source : List Char}
    {segment : Segment} (hsegment : segment ∈ delimiters.split source)
    (options : Options) :
    (segment.tag? delimiters = none ∧ segment.meaning? options delimiters =
        some (.items (Item.ofText segment.text))) ∨
      ∃ tag, segment.tag? delimiters = some tag ∧
        segment.text = tag.text delimiters ∧
        segment.meaning? options delimiters = tag.entry? options delimiters := by
  cases hkind : segment.kind with
  | literal =>
      have htag : segment.tag? delimiters = none := by rw [Segment.tag?, hkind]
      exact .inl ⟨htag, Segment.meaning?_of_literal hkind options delimiters⟩
  | directive =>
      obtain ⟨tag, before, after, hstands, rfl⟩ :=
        Delimiters.split_directive hsegment hkind
      have hbody := hstands.body_ne_nil
      have hline := hstands.body_in_line
      exact .inr ⟨tag, Segment.tag?_text hright hbody hline, rfl,
        Segment.meaning?_of_tag hright hbody hline options⟩

theorem Entry.Fills.of_segment {options : Options} {delimiters : Delimiters}
    (hright : delimiters.right.getLast? ≠ some '\n') {source : List Char}
    (hplain : ∀ tag ∈ delimiters.tags source, tag.directive.IsPlain)
    {segment : Segment} (hsegment : segment ∈ delimiters.split source)
    {entry : Entry} (hentry : segment.meaning? options delimiters = some entry)
    (data : Value) :
    entry.Fills data
      (segment.filled delimiters (Tag.filling options delimiters data)) := by
  rw [Segment.filled]
  rcases Delimiters.meaning?_of_mem_split hright hsegment options with
    ⟨htag, hmeaning⟩ | ⟨tag, htag, -, hmeaning⟩
  · rw [hmeaning] at hentry
    obtain rfl := Option.some.inj hentry
    rw [htag]
    exact ⟨_, rfl, fun _ => Item.switch?_of_mem_ofText,
      Item.renderingAll_ofText _ _⟩
  · rw [hmeaning] at hentry
    have hmem : tag ∈ delimiters.tags source :=
      List.mem_filterMap.mpr ⟨segment, hsegment, htag⟩
    rw [htag]
    exact Tag.entry_fills (hplain tag hmem) data hentry

/-- What the items of plain segments write is the segments filled in. -/
theorem Reads.writesAs_fillIn {options : Options} {delimiters : Delimiters}
    {filling : Tag → Except String (List Char)} {data : Value}
    {segments : List Segment} {entries : List Entry} {items : List Item}
    (hreads : Reads entries items)
    (hmeans : Means options delimiters segments entries)
    (hfills : ∀ segment ∈ segments, ∀ entry,
      segment.meaning? options delimiters = some entry →
        entry.Fills data (segment.filled delimiters filling)) :
    let filled := delimiters.fillIn filling segments
    (renderingAll (Item.leading items) [data]).WritesAs
      (.writing filled.1 filled.2) := by
  induction hmeans generalizing items with
  | nil =>
      cases hreads
      exact ⟨rfl, rfl⟩
  | @cons segment entry rest others hentry hrest ih =>
      obtain ⟨hfirst, hothers⟩ := List.forall_mem_cons.mp hfills
      obtain ⟨own, rfl, hstatements, hwrites⟩ := hfirst entry hentry
      -- Without openings there are no blocks to read.
      cases hreads with
      | items own hmore =>
          rw [Item.leading_append hstatements, renderingAll_append]
          exact (hwrites.followedBy (ih hmore hothers)).trans
            (delimiters.fillIn_cons_writesAs filling segment rest)

/-- Directives filled in with their own text give back the source. -/
theorem Delimiters.fillIn_text {delimiters : Delimiters} {segments : List Segment}
    (htags : ∀ segment ∈ segments, ∀ tag ∈ segment.tag? delimiters,
      segment.text = tag.text delimiters) :
    delimiters.fillIn (fun tag => .ok (tag.text delimiters)) segments =
      (segments.flatMap Segment.text, none) := by
  induction segments with
  | nil => rfl
  | cons segment rest ih =>
      obtain ⟨hfirst, hrest⟩ := List.forall_mem_cons.mp htags
      have hfilled : segment.filled delimiters
          (fun tag => .ok (tag.text delimiters)) = .ok segment.text := by
        rw [Segment.filled]
        split
        next => rfl
        next tag htag => rw [hfirst tag htag]
      rw [fillIn, hfilled, ih hrest]
      rfl

theorem Template.compile_of_ofSource {options : Options} {source : String}
    {template : Template} (htemplate : ofSource options source = .ok template) :
    compile options source = .ok template.program := by
  unfold ofSource at htemplate
  split at htemplate
  next program hcompile =>
    obtain rfl := Except.ok.inj htemplate
    exact hcompile
  next => contradiction

/-- The output of a template without sections is its source filled in, and the
source itself is the same segments filled in with the text of each directive. -/
theorem Template.render_fills_in {options : Options} {delimiters : Delimiters}
    (haccepted : options.delimiters = .ok delimiters)
    (hright : delimiters.right.getLast? ≠ some '\n') {source : String}
    {template : Template} (htemplate : ofSource options source = .ok template)
    (hplain : ∀ tag ∈ delimiters.tags source.toList, tag.directive.IsPlain)
    (data : Value) :
    let segments := delimiters.split source.toList
    let filled := delimiters.fillIn (Tag.filling options delimiters data) segments
    let outcome := template.render Sink.string data ""
    delimiters.fillIn (fun tag => .ok (tag.text delimiters)) segments =
        (source.toList, none) ∧
      (∀ tag ∈ delimiters.tags source.toList,
        ∃ before after, tag.StandsIn delimiters source.toList before after) ∧
      outcome.output = String.ofList filled.1 ∧
      outcome.failure = filled.2.map .undefinedVariable := by
  intro segments filled outcome
  have hsource : segments.flatMap Segment.text = source.toList :=
    Delimiters.flatMap_text_splitFrom 0 0 [] source.toList
  have htags : ∀ segment ∈ segments, ∀ tag ∈ segment.tag? delimiters,
      segment.text = tag.text delimiters := by
    intro segment hsegment tag htag
    rcases Delimiters.meaning?_of_mem_split hright hsegment options with
      ⟨hnone, -⟩ | ⟨own, hown, htext, -⟩
    · simp [hnone] at htag
    · obtain rfl := Option.some.inj (hown.symm.trans htag)
      exact htext
  obtain ⟨entries, items, hmeans, hreads, hprogram⟩ :=
    (compile_eq_ok_iff_reads haccepted source template.program).mp
      (compile_of_ofSource htemplate)
  have hwrites : (template.program.rendering data).WritesAs
      (.writing filled.1 filled.2) := by
    rw [Block.rendering, hprogram]
    exact hreads.writesAs_fillIn hmeans fun segment hsegment entry hentry =>
      Entry.Fills.of_segment hright hplain hsegment hentry data
  obtain ⟨houtput, hfailure⟩ := template.render_string data ""
  refine ⟨?_, fun tag => Delimiters.exists_standsIn_of_mem_tags hright, ?_, ?_⟩
  · rw [Delimiters.fillIn_text htags, hsource]
  · rw [houtput, hwrites.text_eq]
    simp [Rendering.writing]
  · rw [hfailure, Rendering.failure, hwrites.undefinedName_eq, Rendering.writing]

/-- Of the line feeds in this source only the one behind `x` is left, and without
`y` nothing is written from its directive on. -/
theorem Template.render_fills_in_neighbours :
    let braces : Delimiters := ⟨['\x7b'], ['\x7d']⟩
    let source :=
      "\x7bx\x7d\n\x7b#\x7d\n\x7b.meta-left\x7d\n\x7b.a\x7d\x7b.space\x7d\n\x7by\x7d"
    let data : Value :=
      .mapping [("a", .boolean true), ("x", .integer 1), ("y", .string "z")]
    let lacking : Value := .mapping [("a", .boolean true), ("x", .integer 1)]
    Options.standard.delimiters = .ok braces ∧
      braces.right.getLast? ≠ some '\n' ∧
      (∀ tag ∈ braces.tags source.toList, tag.directive.IsPlain) ∧
      ∃ template, ofSource .standard source = .ok template ∧
        (template.render Sink.string data "").output = "1\n\x7btrue z" ∧
        (template.render Sink.string data "").failure = none ∧
        (template.render Sink.string lacking "").output = "1\n\x7btrue " ∧
        (template.render Sink.string lacking "").failure =
          some (.undefinedVariable "y") := by
  intro braces source data lacking
  have haccepted : Options.standard.delimiters = .ok braces := rfl
  have hright : braces.right.getLast? ≠ some '\n' := by decide
  have hplain : ∀ tag ∈ braces.tags source.toList, tag.directive.IsPlain := by
    have hall : (braces.tags source.toList).all
        (fun tag => decide tag.directive.IsPlain) = true := by
      cbv
    simpa using hall
  obtain ⟨template, htemplate⟩ :
      ∃ template, ofSource .standard source = .ok template :=
    ⟨_, by cbv⟩
  have hfilled : braces.fillIn (Tag.filling .standard braces data)
      (braces.split source.toList) = ("1\n\x7btrue z".toList, none) := by
    cbv
  have hfront : braces.fillIn (Tag.filling .standard braces lacking)
      (braces.split source.toList) = ("1\n\x7btrue ".toList, some "y") := by
    cbv
  obtain ⟨-, -, houtput, hfailure⟩ :=
    render_fills_in haccepted hright htemplate hplain data
  obtain ⟨-, -, hbefore, hlacking⟩ :=
    render_fills_in haccepted hright htemplate hplain lacking
  rw [hfilled] at houtput hfailure
  rw [hfront] at hbefore hlacking
  exact ⟨haccepted, hright, hplain, template, htemplate, houtput, hfailure,
    hbefore, hlacking⟩

end Stencil
