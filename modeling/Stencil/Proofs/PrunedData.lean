import Stencil.Proofs.SinkDelivery
import Stencil.Proofs.Unrolling
import Mathlib.Tactic

/-!
# Data that a program cannot see

Pruning takes every entry out of the data that is null or that stands under a
name which is not mentioned.  Sections and substitutions treat what is absent
like what is null and ask for no other names, so that a program over pruned
data makes the same visits as over the data itself, with pruned values in
place of values.

A value without mappings is its own pruning.  Where substitutions are handed
such values only, pruning is therefore not seen in the output.
-/

namespace Stencil

namespace Entries

variable {α : Type}

def without (name : String) (entries : Entries α) : Entries α :=
  entries.filter fun entry => entry.1 ≠ name

theorem get?_without (name other : String) (entries : Entries α) :
    get? other (without name entries) =
      if other = name then none else get? other entries := by
  induction entries with
  | nil => simp [without, get?]
  | cons entry rest ih =>
      unfold without at ih ⊢
      grind [get?]

end Entries

namespace Value

mutual

/-- A value without the entries, at any depth, that are null or stand under
none of the names. -/
def prune (names : List String) : Value → Value
  | .sequence items => .sequence (pruneItems names items)
  | .mapping entries => .mapping (pruneEntries names entries)
  | value => value

def pruneItems (names : List String) : List Value → List Value
  | [] => []
  | item :: rest => prune names item :: pruneItems names rest

def pruneEntries (names : List String) : Entries Value → Entries Value
  | [] => []
  | (name, value) :: rest =>
      if name ∈ names ∧ value.isNull = false then
        (name, prune names value) :: pruneEntries names rest
      else
        -- Entries in order have no second one under the name.  In others it was
        -- hidden behind this one and stays so.
        (pruneEntries names rest).without name

end

mutual

def hasMapping : Value → Bool
  | .sequence items => anyHasMapping items
  | .mapping _ => true
  | _ => false

def anyHasMapping : List Value → Bool
  | [] => false
  | item :: rest => hasMapping item || anyHasMapping rest

end

/-! ## Pruned values -/

mutual

theorem prune_of_hasMapping_eq_false (names : List String) {value : Value}
    (hplain : value.hasMapping = false) : value.prune names = value := by
  match value with
  | .null | .boolean _ | .integer _ | .float _ | .string _ => rfl
  | .sequence items =>
      rw [prune, pruneItems_of_anyHasMapping_eq_false names hplain]
  | .mapping entries => simp [hasMapping] at hplain

theorem pruneItems_of_anyHasMapping_eq_false (names : List String)
    {items : List Value} (hplain : anyHasMapping items = false) :
    pruneItems names items = items := by
  match items with
  | [] => rfl
  | item :: rest =>
      obtain ⟨hitem, hrest⟩ := Bool.or_eq_false_iff.mp hplain
      rw [pruneItems, prune_of_hasMapping_eq_false names hitem,
        pruneItems_of_anyHasMapping_eq_false names hrest]

end

theorem pruneItems_eq_map (names : List String) (items : List Value) :
    pruneItems names items = items.map (prune names) := by
  induction items with
  | nil => rfl
  | cons item rest ih => rw [pruneItems, ih, List.map_cons]

theorem names_pruneEntries_sublist (names : List String) (entries : Entries Value) :
    (pruneEntries names entries).names.Sublist entries.names := by
  induction entries with
  | nil => exact .slnil
  | cons entry rest ih =>
      rw [pruneEntries]
      split
      · exact ih.cons_cons entry.1
      · exact .cons entry.1 ((List.filter_sublist.map Prod.fst).trans ih)

mutual

/-- Pruned data is in order again. -/
theorem Ordered.prune (names : List String) {value : Value}
    (hordered : value.Ordered) : (value.prune names).Ordered := by
  match value with
  | .null | .boolean _ | .integer _ | .float _ | .string _ => trivial
  | .sequence items => exact OrderedItems.prune names hordered
  | .mapping entries =>
      obtain ⟨hnames, hvalues⟩ := hordered
      exact ⟨hnames.sublist (names_pruneEntries_sublist names entries),
        OrderedEntries.prune names hvalues⟩

theorem OrderedItems.prune (names : List String) {items : List Value}
    (hordered : OrderedItems items) : OrderedItems (pruneItems names items) := by
  match items with
  | [] => trivial
  | item :: rest =>
      obtain ⟨hitem, hrest⟩ := hordered
      exact ⟨Ordered.prune names hitem, OrderedItems.prune names hrest⟩

theorem OrderedEntries.prune (names : List String) {entries : Entries Value}
    (hordered : OrderedEntries entries) :
    OrderedEntries (pruneEntries names entries) := by
  match entries with
  | [] => trivial
  | (name, value) :: rest =>
      obtain ⟨hvalue, hrest⟩ := hordered
      have hpruned := OrderedEntries.prune names hrest
      rw [pruneEntries]
      split
      · exact ⟨Ordered.prune names hvalue, hpruned⟩
      · rw [orderedEntries_iff] at hpruned ⊢
        exact fun entry hentry => hpruned entry (List.mem_of_mem_filter hentry)

end

variable (names : List String) (value : Value)

theorem holds_prune : (value.prune names).holds = value.holds := by
  cases value with
  | sequence items => cases items <;> rfl
  | _ => rfl

theorem items_prune :
    (value.prune names).items = value.items.map (prune names) := by
  cases value with
  | sequence items => exact pruneItems_eq_map names items
  | _ => rfl

variable {names} {name : String} (hname : name ∈ names)
include hname

theorem get?_pruneEntries (entries : Entries Value) :
    Entries.get? name (pruneEntries names entries) =
      ((Entries.get? name entries).filter fun held => !held.isNull).map
        (prune names) := by
  induction entries with
  | nil => rfl
  | cons entry rest ih =>
      obtain ⟨key, held⟩ := entry
      rw [pruneEntries, Entries.get?]
      by_cases hkey : key = name
      · subst hkey
        cases hnull : held.isNull <;>
          simp [hname, hnull, Entries.get?, Entries.get?_without]
      · rw [if_neg hkey, ← ih]
        split
        next => rw [Entries.get?, if_neg hkey]
        next => rw [Entries.get?_without, if_neg (Ne.symm hkey)]

theorem get?_prune :
    (value.prune names).get? name =
      ((value.get? name).filter fun held => !held.isNull).map (prune names) := by
  cases value with
  | mapping entries => exact get?_pruneEntries hname entries
  | _ => rfl

end Value

/-! ## Pruned environments -/

section

variable {names : List String} {name : String} (environment : List Value)

theorem headD_map_prune :
    (environment.map (Value.prune names)).headD .null =
      (environment.headD .null).prune names := by
  cases environment <;> rfl

theorem innerField_map_prune (hname : name ∈ names) :
    innerField name (environment.map (Value.prune names)) =
      (innerField name environment).prune names := by
  unfold innerField
  rw [headD_map_prune, Value.get?_prune _ hname]
  rcases (environment.headD .null).get? name with _ | held
  · rfl
  · cases held <;> rfl

theorem enclosing?_map_prune (hname : name ∈ names) :
    enclosing? name (environment.map (Value.prune names)) =
      (enclosing? name environment).map (Value.prune names) := by
  induction environment with
  | nil => rfl
  | cons value rest ih =>
      unfold enclosing? at ih ⊢
      rw [List.map_cons, List.findSome?_cons, List.findSome?_cons, ih,
        Value.get?_prune _ hname]
      rcases value.get? name with _ | held
      · rfl
      · cases held <;> rfl

end

/-! ## Visits over pruned data -/

def Visit.prune (names : List String) : Visit → Visit
  | .literal text => .literal text
  | .substituted substitution found =>
      .substituted substitution (found.map (Value.prune names))

/-- Over pruned values the visits are the same, with pruned values in them. -/
def Prunes (names : List String) (visits : List Value → List Visit) : Prop :=
  ∀ environment, visits (environment.map (Value.prune names)) =
    (visits environment).map (Visit.prune names)

section

variable {names : List String} {main alternate otherwise : List Value → List Visit}

theorem Prunes.cons (hmain : Prunes names main) (value : Value)
    (environment : List Value) :
    main (value.prune names :: environment.map (Value.prune names)) =
      (main (value :: environment)).map (Visit.prune names) :=
  hmain (value :: environment)

theorem separatedVisits_prune {body between prunedBody prunedBetween :
      Value → List Visit}
    (hbody : ∀ item,
      prunedBody (item.prune names) = (body item).map (Visit.prune names))
    (hbetween : ∀ item,
      prunedBetween (item.prune names) = (between item).map (Visit.prune names))
    (items : List Value) :
    separatedVisits prunedBody prunedBetween (items.map (Value.prune names)) =
      (separatedVisits body between items).map (Visit.prune names) := by
  induction items with
  | nil => rfl
  | cons item rest ih =>
      cases rest with
      | nil => exact hbody item
      | cons next rest =>
          rw [List.map_cons] at ih
          simp only [List.map_cons, separatedVisits, List.map_append, hbody,
            hbetween, ih]

theorem conditionalVisits_prunes {name : Option String}
    (hname : ∀ own ∈ name, own ∈ names) (hmain : Prunes names main)
    (hotherwise : Prunes names otherwise) :
    Prunes names (conditionalVisits name main otherwise) := by
  intro environment
  cases name with
  | none => exact hotherwise environment
  | some name =>
      have hfield := innerField_map_prune environment (hname name rfl)
      simp only [conditionalVisits, hfield, Value.holds_prune]
      split
      next => exact hmain.cons _ environment
      next => exact hotherwise environment

theorem itemsVisits_prunes (hmain : Prunes names main)
    (halternate : Prunes names alternate) (hotherwise : Prunes names otherwise) :
    Prunes names (itemsVisits main alternate otherwise) := by
  intro environment
  unfold itemsVisits
  rw [headD_map_prune, Value.items_prune]
  cases (environment.headD .null).items with
  | nil => exact hotherwise environment
  | cons item rest =>
      exact separatedVisits_prune (fun item => hmain.cons item environment)
        (fun item => halternate.cons item environment) (item :: rest)

theorem repeatedVisits_prunes {name : Option String}
    (hname : ∀ own ∈ name, own ∈ names) (hmain : Prunes names main)
    (halternate : Prunes names alternate) (hotherwise : Prunes names otherwise) :
    Prunes names (repeatedVisits name main alternate otherwise) := by
  have hitems := itemsVisits_prunes hmain halternate hotherwise
  intro environment
  cases name with
  | none => exact hotherwise environment
  | some name =>
      have hfield := innerField_map_prune environment (hname name rfl)
      unfold repeatedVisits
      by_cases hcursor : name = cursorName
      · simp only [hcursor, if_true]
        exact hitems environment
      · simp only [hcursor, if_false, hfield]
        exact hitems.cons _ environment

end

/-- The names that the statements themselves mention are among the given
ones. -/
def MentionOnly (statements : List Statement) (names : List String) : Prop :=
  ∀ statement ∈ statements, ∀ name ∈ statement.ownName?, name ∈ names

theorem mentionOnly_append {first second : List Statement} {names : List String} :
    MentionOnly (first ++ second) names ↔
      MentionOnly first names ∧ MentionOnly second names :=
  List.forall_mem_append

theorem mentionOnly_cons {statement : Statement} {rest : List Statement}
    {names : List String} :
    MentionOnly (statement :: rest) names ↔
      (∀ name ∈ statement.ownName?, name ∈ names) ∧ MentionOnly rest names :=
  List.forall_mem_cons

mutual

theorem Statement.visits_prunes {names : List String} {statement : Statement}
    (hnames : MentionOnly statement.within names) :
    Prunes names statement.visits := by
  match statement with
  | .literal text =>
      intro environment
      rfl
  | .substitute substitution =>
      have hname : substitution.name ∈ names :=
        hnames _ (List.mem_singleton_self _) substitution.name rfl
      intro environment
      simp only [Statement.visits, Substitution.found?, headD_map_prune,
        enclosing?_map_prune environment hname]
      split <;> rfl
  | .conditional ⟨name, main, alternate, otherwise⟩ =>
      simp only [Statement.within, mentionOnly_cons, mentionOnly_append] at hnames
      obtain ⟨hname, ⟨hmain, -⟩, hotherwise⟩ := hnames
      exact conditionalVisits_prunes hname (visitsAll_prunes hmain)
        (visitsAll_prunes hotherwise)
  | .repeated ⟨name, main, alternate, otherwise⟩ =>
      simp only [Statement.within, mentionOnly_cons, mentionOnly_append] at hnames
      obtain ⟨hname, ⟨hmain, halternate⟩, hotherwise⟩ := hnames
      exact repeatedVisits_prunes hname (visitsAll_prunes hmain)
        (visitsAll_prunes halternate) (visitsAll_prunes hotherwise)

theorem visitsAll_prunes {names : List String} {statements : List Statement}
    (hnames : MentionOnly (withinAll statements) names) :
    Prunes names (visitsAll statements) := by
  intro environment
  match statements with
  | [] => rfl
  | statement :: rest =>
      rw [withinAll, mentionOnly_append] at hnames
      rw [visitsAll, visitsAll, statement.visits_prunes hnames.1,
        visitsAll_prunes hnames.2, List.map_append]

end

theorem Block.mentionOnly_mentioned (program : Program) :
    MentionOnly program.statements program.mentioned := by
  intro statement hstatement name hname
  apply List.mem_append_right
  exact List.mem_filterMap.mpr ⟨statement, hstatement, hname⟩

theorem Block.visits_prune (program : Program) (data : Value) :
    program.visits (data.prune program.mentioned) =
      (program.visits data).map (Visit.prune program.mentioned) := by
  have hmentioned := program.mentionOnly_mentioned
  simp only [Block.statements, mentionOnly_append] at hmentioned
  exact visitsAll_prunes hmentioned.1.1 [data]

/-! ## Renders -/

/-- No substitution of the program is handed a value with a mapping in it. -/
def Block.HandsNoMapping (program : Program) (data : Value) : Prop :=
  ∀ visit ∈ delivering (program.visits data), ∀ value ∈ visit.handed,
    value.hasMapping = false

theorem Rendering.ofVisits_map_prune (names : List String) {visits : List Visit}
    (hplain : ∀ visit ∈ delivering visits, ∀ value ∈ visit.handed,
      value.hasMapping = false) :
    ofVisits (visits.map (Visit.prune names)) = ofVisits visits := by
  induction visits with
  | nil => rfl
  | cons visit rest ih =>
      rw [List.map_cons, ofVisits_cons, ofVisits_cons]
      by_cases hfound : visit.chunk?.isSome = true
      · rw [delivering_cons hfound] at hplain
        obtain ⟨hvisit, hrest⟩ := List.forall_mem_cons.mp hplain
        have hsame : visit.prune names = visit := by
          rcases visit with text | ⟨substitution, _ | value⟩
          · rfl
          · rfl
          · have hvalue := hvisit value rfl
            simp [Visit.prune, Value.prune_of_hasMapping_eq_false names hvalue]
        rw [hsame, ih hrest]
      · rcases visit with text | ⟨substitution, _ | value⟩
        · simp [Visit.chunk?] at hfound
        · rfl
        · simp [Visit.chunk?] at hfound

theorem Block.rendering_prune {program : Program} {data : Value}
    (hplain : program.HandsNoMapping data) :
    program.rendering (data.prune program.mentioned) = program.rendering data := by
  have hvisits := program.visits_prune data
  unfold Block.visits at hvisits
  unfold Block.rendering
  rw [← ofVisits_visitsAll, ← ofVisits_visitsAll, hvisits]
  exact Rendering.ofVisits_map_prune _ hplain

theorem Template.render_eq_of_rendering_eq {σ ε : Type} (sink : Sink σ ε)
    {template : Template} {data other : Value}
    (hsame : template.program.rendering data = template.program.rendering other)
    (output : σ) :
    (template.render sink data output).output =
        (template.render sink other output).output ∧
      (template.render sink data output).failure =
        (template.render sink other output).failure := by
  have hdata := template.render_follows sink data output
  have hother := template.render_follows sink other output
  rw [hdata.output_eq, hdata.failure_eq, hother.output_eq, hother.failure_eq, hsame]
  exact ⟨rfl, rfl⟩

/-- A render delivers the same over data and over the pruned data, into every
sink, if no substitution is handed a mapping; over data that are equal when
pruned it delivers the same. -/
theorem Template.render_prune (template : Template) (data : Value)
    (hplain : template.program.HandsNoMapping data) :
    let names := template.program.mentioned
    (∀ {σ ε : Type} (sink : Sink σ ε) (output : σ),
      (template.render sink (data.prune names) output).output =
          (template.render sink data output).output ∧
        (template.render sink (data.prune names) output).failure =
          (template.render sink data output).failure) ∧
    ∀ other, template.program.HandsNoMapping other →
      other.prune names = data.prune names →
        ∀ {σ ε : Type} (sink : Sink σ ε) (output : σ),
          (template.render sink other output).output =
              (template.render sink data output).output ∧
            (template.render sink other output).failure =
              (template.render sink data output).failure := by
  intro names
  have hdata := Block.rendering_prune hplain
  constructor
  · intro σ ε sink output
    exact template.render_eq_of_rendering_eq sink hdata output
  · intro other hother hpruned σ ε sink output
    apply template.render_eq_of_rendering_eq sink
    rw [← Block.rendering_prune hother, ← hdata]
    exact congrArg _ hpruned

/-- An entry that is null or that nothing asks for makes no difference, neither
beside a section's value nor inside of it. -/
theorem Template.render_with_and_without_unmentioned :
    let template : Template :=
      ⟨⟨none, [.conditional ⟨some "a", [.substitute ⟨"x", []⟩], [], []⟩,
        .substitute ⟨"y", []⟩], [], []⟩⟩
    let names := template.program.mentioned
    let data : Value := .mapping
      [("a", .mapping [("b", .null), ("w", .integer 1), ("x", .string "s")]),
        ("x", .null), ("y", .string "t"), ("z", .mapping [])]
    let other : Value := .mapping
      [("a", .mapping [("x", .string "s")]), ("y", .string "t")]
    template.program.HandsNoMapping data ∧
      template.program.HandsNoMapping other ∧
      other.prune names = data.prune names ∧
      (template.render Sink.string other "").output =
        (template.render Sink.string data "").output ∧
      (template.render Sink.string (data.prune names) "").output =
        (template.render Sink.string data "").output := by
  intro template names data other
  have hdata : template.program.HandsNoMapping data := by
    have hvisits : delivering (template.program.visits data) =
        [.substituted ⟨"x", []⟩ (some (.string "s")),
          .substituted ⟨"y", []⟩ (some (.string "t"))] := rfl
    unfold Block.HandsNoMapping
    simp [hvisits, Visit.handed, Value.hasMapping]
  have hother : template.program.HandsNoMapping other := by
    have hvisits : delivering (template.program.visits other) =
        [.substituted ⟨"x", []⟩ (some (.string "s")),
          .substituted ⟨"y", []⟩ (some (.string "t"))] := rfl
    unfold Block.HandsNoMapping
    simp [hvisits, Visit.handed, Value.hasMapping]
  have hpruned : other.prune names = data.prune names := rfl
  obtain ⟨hsame, hequal⟩ := template.render_prune data hdata
  exact ⟨hdata, hother, hpruned,
    (hequal other hother hpruned Sink.string "").1, (hsame Sink.string "").1⟩

end Stencil
