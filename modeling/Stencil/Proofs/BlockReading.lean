import Stencil.Proofs.SegmentTags
import Mathlib

/-!
# Programs read by recursive descent

A template is assembled with a stack of open blocks, and a block is added to
the one around it only when it ends.  Here the same segments are read by
recursive descent: an opening is looked up together with its matching end,
what lies between is read as a block of its own, and the block is one
statement at the place where it was opened.

A block is read as a list of items, statements and switches between clauses;
its clauses are what stands behind the last switch to them.  The file shows
that a template compiles to a program exactly if it reads as that program.
-/

namespace Stencil

/-! ## Items of a block -/

inductive Item where
  | add (statement : Statement)
  | alternate
  | otherwise

namespace Item

def switch? : Item → Option Clause
  | .add _ => none
  | .alternate => some .alternate
  | .otherwise => some .otherwise

/-- The statements in front of the first switch. -/
def leading : List Item → List Statement
  | .add statement :: rest => statement :: leading rest
  | _ => []

/-- The statements behind the last switch to a clause, up to the switch that
comes next. -/
def sinceLast? (clause : Clause) : List Item → Option (List Statement)
  | [] => none
  | item :: rest =>
      (sinceLast? clause rest).or
        (if item.switch? = some clause then some (leading rest) else none)

theorem sinceLast?_main (items : List Item) : sinceLast? .main items = none := by
  induction items with
  | nil => rfl
  | cons item rest ih => cases item <;> simp [sinceLast?, ih, switch?]

end Item

def Block.ofItems (name : Option String) (items : List Item) : Block Statement where
  name := name
  main := Item.leading items
  alternate := (Item.sinceLast? .alternate items).getD []
  otherwise := (Item.sinceLast? .otherwise items).getD []

/-! ## Entries of a template -/

inductive Entry where
  | items (items : List Item)
  | opening (repeats : Bool) (name : Option String) (span : Span)
  | closing

def Item.literal (text : List Char) : Item :=
  .add (.literal (String.ofList text))

/-- The entry of a directive; a substitution whose formatters cannot be found
has none. -/
def Tag.entry? (options : Options) (delimiters : Delimiters) (tag : Tag) :
    Option Entry :=
  match tag.directive with
  | .comment => some (.items [])
  | .keyword .metaLeft => some (.items [.literal delimiters.left])
  | .keyword .metaRight => some (.items [.literal delimiters.right])
  | .keyword .space => some (.items [.literal [' ']])
  | .keyword (.opening repeats name) => some (.opening repeats name tag.span)
  | .keyword .alternate => some (.items [.alternate])
  | .keyword .otherwise => some (.items [.otherwise])
  | .keyword .closing => some .closing
  | .substitution text _ =>
      match readSubstitution options tag.span text with
      | .error _ => none
      | .ok substitution =>
          some (.items (.add (.substitute substitution) ::
            if tag.newline then [.literal ['\n']] else []))

/-- The entry of a segment: literal text is a statement unless it is empty. -/
def Segment.entry? (options : Options) (delimiters : Delimiters)
    (segment : Segment) : Option Entry :=
  match segment.kind with
  | .literal =>
      some (.items (if segment.text = [] then [] else [.literal segment.text]))
  | .directive => (segment.tag? delimiters).bind (Tag.entry? options delimiters)

/-! ## Reading -/

/-- Cuts entries at the end of the block that was opened in front of them,
while `depth` blocks inside of it are open. -/
def cutAtEnd : ℕ → List Entry → Option (List Entry × List Entry)
  | _, [] => none
  | 0, .closing :: rest => some ([], rest)
  | depth + 1, .closing :: rest =>
      (cutAtEnd depth rest).map fun (inside, outside) =>
        (.closing :: inside, outside)
  | depth, .opening repeats name span :: rest =>
      (cutAtEnd (depth + 1) rest).map fun (inside, outside) =>
        (.opening repeats name span :: inside, outside)
  | depth, .items items :: rest =>
      (cutAtEnd depth rest).map fun (inside, outside) =>
        (.items items :: inside, outside)

theorem cutAtEnd_eq_some {depth : ℕ} {entries inside outside : List Entry}
    (hcut : cutAtEnd depth entries = some (inside, outside)) :
    entries = inside ++ .closing :: outside := by
  induction entries generalizing depth inside with
  | nil => simp [cutAtEnd] at hcut
  | cons entry rest ih =>
      cases entry with
      | items items =>
          obtain ⟨⟨front, back⟩, hrest, heq⟩ := Option.map_eq_some_iff.mp hcut
          obtain ⟨rfl, rfl⟩ := Prod.mk.inj heq
          rw [ih hrest, List.cons_append]
      | opening repeats name span =>
          obtain ⟨⟨front, back⟩, hrest, heq⟩ := Option.map_eq_some_iff.mp hcut
          obtain ⟨rfl, rfl⟩ := Prod.mk.inj heq
          rw [ih hrest, List.cons_append]
      | closing =>
          cases depth with
          | zero =>
              obtain ⟨rfl, rfl⟩ := Prod.mk.inj (Option.some.inj hcut)
              rfl
          | succ depth =>
              obtain ⟨⟨front, back⟩, hrest, heq⟩ := Option.map_eq_some_iff.mp hcut
              obtain ⟨rfl, rfl⟩ := Prod.mk.inj heq
              rw [ih hrest, List.cons_append]

def Statement.ofItems (repeats : Bool) (name : Option String)
    (items : List Item) : Statement :=
  if repeats then .repeated (Block.ofItems name items)
  else .conditional (Block.ofItems name items)

/-- The items that entries mean, if every block among them ends in them and
nothing else does. -/
def readItems (entries : List Entry) : Option (List Item) :=
  match entries with
  | [] => some []
  | .closing :: _ => none
  | .items items :: rest => (readItems rest).map (items ++ ·)
  | .opening repeats name _ :: rest =>
      match hcut : cutAtEnd 0 rest with
      | none => none
      | some (inside, outside) =>
          have _hlength := congrArg List.length (cutAtEnd_eq_some hcut)
          match readItems inside, readItems outside with
          | some inner, some items =>
              some (.add (.ofItems repeats name inner) :: items)
          | _, _ => none
termination_by entries.length
decreasing_by
  all_goals
    simp only [List.length_append, List.length_cons] at *
    omega

theorem readItems_opening_eq_some {repeats : Bool} {name : Option String}
    {span : Span} {rest : List Entry} {items : List Item} :
    readItems (.opening repeats name span :: rest) = some items ↔
      ∃ inside outside inner more,
        cutAtEnd 0 rest = some (inside, outside) ∧
          readItems inside = some inner ∧ readItems outside = some more ∧
          items = .add (.ofItems repeats name inner) :: more := by
  rw [readItems]
  split
  next hnone => simp [hnone]
  next inside outside hcut =>
    cases hinner : readItems inside <;> cases hmore : readItems outside <;>
      simp [hcut, hinner, hmore, eq_comm]

def readProgram? (options : Options) (delimiters : Delimiters)
    (segments : List Segment) : Option Program :=
  (segments.mapM (Segment.entry? options delimiters)).bind fun entries =>
    (readItems entries).map (Block.ofItems none)

/-! ## Drafts -/

namespace Draft

variable {α : Type}

theorem clause_append (element : α) (draft : Draft α) (clause : Clause) :
    (draft.append element).block.clause clause =
      draft.block.clause clause ++
        (if draft.active = clause then [element] else []) := by
  rcases draft with ⟨recent, active⟩
  cases active <;> cases clause <;>
    simp [append, block, Block.reverse, Block.clause, Block.withClause]

theorem clause_switch (active clause : Clause) (draft : Draft α) :
    (draft.switch active).block.clause clause =
      if active = clause then [] else draft.block.clause clause := by
  cases active <;> cases clause <;>
    simp [switch, block, Block.reverse, Block.clause, Block.withClause]

theorem name_append (element : α) (draft : Draft α) :
    (draft.append element).block.name = draft.block.name := by
  rcases draft with ⟨recent, active⟩
  cases active <;> rfl

theorem name_switch (active : Clause) (draft : Draft α) :
    (draft.switch active).block.name = draft.block.name := by
  cases active <;> rfl

def take (draft : Draft Statement) : Item → Draft Statement
  | .add statement => draft.append statement
  | .alternate => draft.switch .alternate
  | .otherwise => draft.switch .otherwise

def takeAll (items : List Item) (draft : Draft Statement) : Draft Statement :=
  items.foldl take draft

theorem name_takeAll (items : List Item) (draft : Draft Statement) :
    (draft.takeAll items).block.name = draft.block.name := by
  induction items generalizing draft with
  | nil => rfl
  | cons item rest ih =>
      rw [takeAll, List.foldl_cons, ← takeAll, ih]
      cases item with
      | add statement => exact name_append statement draft
      | alternate => exact name_switch .alternate draft
      | otherwise => exact name_switch .otherwise draft

/-- A clause keeps what it holds and takes what comes before the first switch
if it is the active one; a switch to it makes all of that void. -/
theorem clause_takeAll (clause : Clause) (items : List Item)
    (draft : Draft Statement) :
    (draft.takeAll items).block.clause clause =
      (Item.sinceLast? clause items).getD
        (draft.block.clause clause ++
          if draft.active = clause then Item.leading items else []) := by
  induction items generalizing draft with
  | nil => simp [takeAll, Item.sinceLast?, Item.leading]
  | cons item rest ih =>
      rw [takeAll, List.foldl_cons, ← takeAll, ih]
      cases item with
      | add statement =>
          rw [take, clause_append]
          by_cases hactive : draft.active = clause <;>
            simp [append, hactive, Item.sinceLast?, Item.switch?, Item.leading]
      | alternate | otherwise =>
          rw [take, clause_switch]
          cases clause <;> cases hsince : Item.sinceLast? _ rest <;>
            simp [switch, hsince, Item.sinceLast?, Item.switch?, Item.leading]

theorem block_takeAll (name : Option String) (items : List Item) :
    ((empty name).takeAll items).block = Block.ofItems name items := by
  let built := ((empty name).takeAll items).block
  calc built = ⟨built.name, built.clause .main, built.clause .alternate,
        built.clause .otherwise⟩ := rfl
    _ = Block.ofItems name items := by
      simp only [built, name_takeAll, clause_takeAll, Item.sinceLast?_main]
      rfl

end Draft

/-! ## The stack of open blocks -/

namespace Assembly

/-- What an entry does to the open blocks; an end needs a block to end. -/
def enter (assembly : Assembly) : Entry → Option Assembly
  | .items items => some (assembly.modify (Draft.takeAll items))
  | .opening repeats name span => some (assembly.push repeats name span)
  | .closing => assembly.pop?

def enterAll (assembly : Assembly) : List Entry → Option Assembly
  | [] => some assembly
  | entry :: rest => (assembly.enter entry).bind fun next => next.enterAll rest

theorem enterAll_append (assembly : Assembly) (front back : List Entry) :
    assembly.enterAll (front ++ back) =
      (assembly.enterAll front).bind fun next => next.enterAll back := by
  induction front generalizing assembly with
  | nil => rfl
  | cons entry rest ih =>
      simp only [List.cons_append, enterAll, Option.bind_assoc]
      congr 1
      funext next
      exact ih next

theorem modify_takeAll_append (assembly : Assembly) (front back : List Item) :
    (assembly.modify (Draft.takeAll front)).modify (Draft.takeAll back) =
      assembly.modify (Draft.takeAll (front ++ back)) := by
  simp [modify, Draft.takeAll]

/-- Ending a block that took the given items adds the statement they mean. -/
theorem pop?_push_takeAll (assembly : Assembly) (repeats : Bool)
    (name : Option String) (span : Span) (items : List Item) :
    ((assembly.push repeats name span).modify (Draft.takeAll items)).pop? =
      some (assembly.modify
        (Draft.takeAll [.add (.ofItems repeats name items)])) := by
  simp only [pop?, push, modify, append, OpenBlock.statement,
    Draft.block_takeAll, Statement.ofItems]
  rfl

/-- What reads as items does to the innermost block what the items do, and
nothing to the blocks around it. -/
theorem enterAll_of_readItems {entries : List Entry} {items : List Item}
    (hread : readItems entries = some items) (assembly : Assembly) :
    assembly.enterAll entries =
      some (assembly.modify (Draft.takeAll items)) := by
  -- On the length, since a block and what follows it are cut out of the rest.
  induction hlength : entries.length using Nat.strong_induction_on
    generalizing entries items assembly with
  | _ length ih =>
      subst hlength
      cases entries with
      | nil =>
          rw [readItems] at hread
          obtain rfl := Option.some.inj hread
          rfl
      | cons entry rest =>
          cases entry with
          | closing => simp [readItems] at hread
          | items own =>
              rw [readItems] at hread
              obtain ⟨more, hmore, rfl⟩ := Option.map_eq_some_iff.mp hread
              rw [enterAll, enter, Option.bind_some,
                ih _ (by simp) hmore _ rfl, modify_takeAll_append]
          | opening repeats name span =>
              obtain ⟨inside, outside, inner, more, hcut, hinner, hmore, rfl⟩ :=
                readItems_opening_eq_some.mp hread
              obtain rfl := cutAtEnd_eq_some hcut
              have hinside :=
                ih _ (by simp) hinner (assembly.push repeats name span) rfl
              have houtside := ih _ (by simp; omega) hmore
                (assembly.modify
                  (Draft.takeAll [.add (.ofItems repeats name inner)])) rfl
              rw [enterAll, enter, Option.bind_some, enterAll_append, hinside,
                Option.bind_some, enterAll, enter, pop?_push_takeAll,
                Option.bind_some, houtside, modify_takeAll_append]
              rfl

end Assembly

/-! ## Matching ends -/

/-- The number of open blocks behind entries in front of which `depth` blocks
are open; none if a block ends that was never opened. -/
def openDepth : ℕ → List Entry → Option ℕ
  | depth, [] => some depth
  | depth, .items _ :: rest => openDepth depth rest
  | depth, .opening _ _ _ :: rest => openDepth (depth + 1) rest
  | 0, .closing :: _ => none
  | depth + 1, .closing :: rest => openDepth depth rest

theorem Assembly.openDepth_of_enterAll {assembly reached : Assembly}
    {entries : List Entry} (hreached : assembly.enterAll entries = some reached) :
    openDepth assembly.around.length entries = some reached.around.length := by
  induction entries generalizing assembly with
  | nil =>
      obtain rfl := Option.some.inj hreached
      rfl
  | cons entry rest ih =>
      obtain ⟨next, hnext, hrest⟩ := Option.bind_eq_some_iff.mp hreached
      have hdepth := ih hrest
      cases entry with
      | items items =>
          obtain rfl := Option.some.inj hnext
          exact hdepth
      | opening repeats name span =>
          obtain rfl := Option.some.inj hnext
          exact hdepth
      | closing =>
          rcases assembly with ⟨inner, _ | ⟨outer, around⟩⟩
          · simp [enter, pop?] at hnext
          · obtain rfl := Option.some.inj hnext
            exact hdepth

/-- An open block that is closed in the end is closed by the end at which its
entries are cut. -/
theorem exists_cutAtEnd {depth : ℕ} {entries : List Entry}
    (hclosed : openDepth (depth + 1) entries = some 0) :
    ∃ inside outside, cutAtEnd depth entries = some (inside, outside) ∧
      openDepth depth inside = some 0 ∧ openDepth 0 outside = some 0 := by
  induction entries generalizing depth with
  | nil => simp [openDepth] at hclosed
  | cons entry rest ih =>
      cases entry with
      | items items =>
          obtain ⟨inside, outside, hcut, hinside, houtside⟩ := ih hclosed
          exact ⟨.items items :: inside, outside, by simp [cutAtEnd, hcut],
            hinside, houtside⟩
      | opening repeats name span =>
          obtain ⟨inside, outside, hcut, hinside, houtside⟩ := ih hclosed
          exact ⟨.opening repeats name span :: inside, outside,
            by simp [cutAtEnd, hcut], hinside, houtside⟩
      | closing =>
          cases depth with
          | zero => exact ⟨[], rest, rfl, rfl, hclosed⟩
          | succ depth =>
              obtain ⟨inside, outside, hcut, hinside, houtside⟩ := ih hclosed
              exact ⟨.closing :: inside, outside, by simp [cutAtEnd, hcut],
                hinside, houtside⟩

theorem exists_readItems {entries : List Entry}
    (hclosed : openDepth 0 entries = some 0) :
    ∃ items, readItems entries = some items := by
  induction hlength : entries.length using Nat.strong_induction_on
    generalizing entries with
  | _ length ih =>
      subst hlength
      cases entries with
      | nil => exact ⟨[], by rw [readItems]⟩
      | cons entry rest =>
          cases entry with
          | closing => simp [openDepth] at hclosed
          | items own =>
              have hrest : openDepth 0 rest = some 0 := hclosed
              obtain ⟨more, hmore⟩ := ih _ (by simp) hrest rfl
              exact ⟨own ++ more, by rw [readItems, hmore]; rfl⟩
          | opening repeats name span =>
              obtain ⟨inside, outside, hcut, hinside, houtside⟩ :=
                exists_cutAtEnd hclosed
              have hsplit := congrArg List.length (cutAtEnd_eq_some hcut)
              simp only [List.length_append, List.length_cons] at hsplit
              obtain ⟨inner, hinner⟩ := ih _ (by simp; omega) hinside rfl
              obtain ⟨more, hmore⟩ := ih _ (by simp; omega) houtside rfl
              exact ⟨_, readItems_opening_eq_some.mpr
                ⟨inside, outside, inner, more, hcut, hinner, hmore, rfl⟩⟩

/-! ## Compiling is reading -/

theorem Tag.newline_of_directive {tag : Tag} {text : List Char} {newline : Bool}
    (hdirective : tag.directive = .substitution text newline) :
    newline = tag.newline := by
  unfold Tag.directive Directive.ofBody at hdirective
  split at hdirective
  next => contradiction
  next =>
    split at hdirective
    next => contradiction
    next => exact (Directive.substitution.inj hdirective).2.symm
  next => exact (Directive.substitution.inj hdirective).2.symm

theorem Assembly.toOption_directive (options : Options) (delimiters : Delimiters)
    (assembly : Assembly) (tag : Tag) :
    (assembly.directive options delimiters tag.span tag.directive).toOption =
      (tag.entry? options delimiters).bind assembly.enter := by
  rw [Tag.entry?]
  cases hdirective : tag.directive with
  | comment => rfl
  | keyword word =>
      cases word with
      | closing =>
          simp only [Assembly.directive, Assembly.keyword, Option.bind_some,
            Assembly.enter]
          cases assembly.pop? <;> rfl
      | _ => rfl
  | substitution text newline =>
      obtain rfl := Tag.newline_of_directive hdirective
      simp only [Assembly.directive]
      cases readSubstitution options tag.span text with
      | error error => rfl
      | ok substitution => cases tag.newline <;> rfl

theorem Assembly.toOption_segment {options : Options} {delimiters : Delimiters}
    {source : List Char} {segment : Segment}
    (hright : delimiters.right.getLast? ≠ some '\n')
    (hsegment : segment ∈ delimiters.split source) (assembly : Assembly) :
    (assembly.segment options delimiters segment).toOption =
      (segment.entry? options delimiters).bind assembly.enter := by
  cases hkind : segment.kind with
  | literal =>
      simp only [Assembly.segment, Segment.entry?, hkind, Option.bind_some]
      by_cases htext : segment.text = []
      · rw [htext]
        rfl
      · have hempty : segment.text.isEmpty = false := by simpa using htext
        rw [hempty, if_neg htext]
        rfl
  | directive =>
      obtain ⟨tag, -, -, -, htag, hspan, hread⟩ :=
        Delimiters.split_tag hright hsegment hkind
      simp only [Assembly.segment, Segment.entry?, hkind, htag, hspan, hread,
        Option.bind_some]
      exact Assembly.toOption_directive options delimiters assembly tag

theorem Assembly.toOption_segments {options : Options} {delimiters : Delimiters}
    {segments : List Segment} {meaning? : Segment → Option Entry}
    (hstep : ∀ segment ∈ segments, ∀ assembly : Assembly,
      (assembly.segment options delimiters segment).toOption =
        (meaning? segment).bind assembly.enter)
    (assembly : Assembly) :
    (assembly.segments options delimiters segments).toOption =
      (segments.mapM meaning?).bind assembly.enterAll := by
  induction segments generalizing assembly with
  | nil => rfl
  | cons segment rest ih =>
      have hfirst := hstep segment (by simp) assembly
      have hrest := ih fun segment hmem => hstep segment (by simp [hmem])
      simp only [Assembly.segments, List.mapM_cons, Option.bind_eq_bind,
        Option.pure_def, Option.bind_assoc]
      cases hentry : meaning? segment with
      | none =>
          rw [hentry] at hfirst
          cases hnext : assembly.segment options delimiters segment with
          | error error => rfl
          | ok next => simp [hnext, Except.toOption] at hfirst
      | some entry =>
          rw [hentry, Option.bind_some] at hfirst
          cases hnext : assembly.segment options delimiters segment with
          | error error =>
              have hnone : assembly.enter entry = none := by
                simpa [hnext, Except.toOption] using hfirst.symm
              simp [Assembly.enterAll, hnone, Except.toOption]
          | ok next =>
              have hsome : assembly.enter entry = some next := by
                simpa [hnext, Except.toOption] using hfirst.symm
              simp only [hrest, Option.bind_some, Assembly.enterAll, hsome]

/-- The stack of open blocks and the reading finish with the same program, or
with none. -/
theorem Assembly.finish_enterAll_start (entries : List Entry) :
    (Assembly.start.enterAll entries).bind
        (fun assembly => assembly.finish.toOption) =
      (readItems entries).map (Block.ofItems none) := by
  cases hread : readItems entries with
  | some items =>
      rw [Assembly.enterAll_of_readItems hread, Option.bind_some, Option.map_some,
        ← Draft.block_takeAll]
      rfl
  | none =>
      cases hreached : Assembly.start.enterAll entries with
      | none => rfl
      | some reached =>
          rcases reached with ⟨inner, _ | ⟨outer, around⟩⟩
          · obtain ⟨items, hitems⟩ :=
              exists_readItems (Assembly.openDepth_of_enterAll hreached)
            rw [hread] at hitems
            contradiction
          · rfl

theorem compile_eq_ok_iff_readProgram? {options : Options}
    {delimiters : Delimiters} (haccepted : options.delimiters = .ok delimiters)
    (hright : delimiters.right.getLast? ≠ some '\n') (source : String)
    (program : Program) :
    compile options source = .ok program ↔
      readProgram? options delimiters (delimiters.split source.toList) =
        some program := by
  have hstep : ∀ segment ∈ delimiters.split source.toList, ∀ assembly : Assembly,
      (assembly.segment options delimiters segment).toOption =
        (segment.entry? options delimiters).bind assembly.enter :=
    fun segment hsegment assembly =>
      Assembly.toOption_segment hright hsegment assembly
  have hrun := Assembly.toOption_segments hstep Assembly.start
  have hread : readProgram? options delimiters (delimiters.split source.toList) =
      (Assembly.start.segments options delimiters
        (delimiters.split source.toList)).toOption.bind
          fun assembly => assembly.finish.toOption := by
    rw [hrun, Option.bind_assoc]
    simp only [Assembly.finish_enterAll_start]
    rfl
  rw [hread, compile, haccepted]
  cases hsegments : Assembly.start.segments options delimiters
      (delimiters.split source.toList) with
  | error error => simp [hsegments, Except.toOption]
  | ok assembly =>
      cases hfinish : assembly.finish <;>
        simp [hsegments, hfinish, Except.toOption]

theorem compile_reads_nested_sections :
    compile .standard "\x7b.section a\x7dx\x7b.or\x7dy\x7b.end\x7dz" =
      .ok ⟨none, [.conditional ⟨some "a", [.literal "x"], [], [.literal "y"]⟩,
        .literal "z"], [], []⟩ := by
  have haccepted : Options.standard.delimiters = .ok ⟨['\x7b'], ['\x7d']⟩ := rfl
  refine (compile_eq_ok_iff_readProgram? haccepted (by decide) _ _).mpr ?_
  cbv

end Stencil
