import Stencil.Proofs.BlockReading
import Stencil.Proofs.DirectiveSpelling
import Stencil.Proofs.ProgramStatements
import Mathlib.Tactic

/-!
# Statements of compiled programs

Every statement of a compiled program was put there by a literal segment or by
a directive.  What holds of all statements that these can add therefore holds
of all statements of the program, at every depth and in every clause.

What is asked of statements is a `Demand`: something of each text, of each
substitution and of the name of each section.  It goes through the compiler as
an invariant of the stack of open blocks.
-/

namespace Stencil

/-- What is asked of single statements, whatever is nested in them. -/
structure Demand where
  text : String → Prop
  substitution : Substitution → Prop
  sectionName : Option String → Prop

namespace Demand

variable {demand : Demand}

def MetBy (demand : Demand) : Statement → Prop
  | .literal text => demand.text text
  | .substitute substitution => demand.substitution substitution
  | .conditional block => demand.sectionName block.name
  | .repeated block => demand.sectionName block.name

/-- What the segments of a template can add meets the demand: any text that is
not empty, the substitutions that are read and the names that open a section. -/
structure Supplied (demand : Demand) (options : Options) : Prop where
  text : ∀ characters, characters ≠ [] → demand.text (String.ofList characters)
  substitution : ∀ span characters substitution,
    readSubstitution options span characters = .ok substitution →
      demand.substitution substitution
  sectionName : ∀ body repeats name,
    Keyword.parse? body = some (.opening repeats name) → demand.sectionName name

end Demand

/-- A block under construction whose name and statements meet the demand. -/
structure Draft.Meets (demand : Demand) (draft : Draft Statement) : Prop where
  name : demand.sectionName draft.block.name
  statements : ∀ statement ∈ draft.block.statements, demand.MetBy statement

def Assembly.Meet (demand : Demand) (assembly : Assembly) : Prop :=
  ∀ block ∈ assembly.inner :: assembly.around, block.draft.Meets demand

/-! ## Drafts -/

namespace Draft.Meets

variable {demand : Demand} {draft : Draft Statement}

theorem empty {name : Option String} (hname : demand.sectionName name) :
    (Draft.empty name).Meets demand :=
  ⟨hname, fun _ hmem => absurd hmem List.not_mem_nil⟩

theorem append (hdraft : draft.Meets demand) {statement : Statement}
    (hstatement : ∀ inner ∈ statement.within, demand.MetBy inner) :
    (draft.append statement).Meets demand := by
  constructor
  · rw [Draft.name_append]
    exact hdraft.name
  · intro inner hinner
    obtain ⟨clause, outer, houter, hwithin⟩ := Block.mem_statements_iff.mp hinner
    rw [Draft.clause_append, List.mem_append] at houter
    rcases houter with hold | hnew
    · exact hdraft.statements inner
        (Block.mem_statements_iff.mpr ⟨clause, outer, hold, hwithin⟩)
    · split at hnew
      next =>
        obtain rfl := List.mem_singleton.mp hnew
        exact hstatement inner hwithin
      next => exact absurd hnew List.not_mem_nil

theorem switch (hdraft : draft.Meets demand) (active : Clause) :
    (draft.switch active).Meets demand := by
  constructor
  · rw [Draft.name_switch]
    exact hdraft.name
  · intro inner hinner
    obtain ⟨clause, outer, houter, hwithin⟩ := Block.mem_statements_iff.mp hinner
    rw [Draft.clause_switch] at houter
    split at houter
    next => exact absurd houter List.not_mem_nil
    next =>
      exact hdraft.statements inner
        (Block.mem_statements_iff.mpr ⟨clause, outer, houter, hwithin⟩)

end Draft.Meets

theorem OpenBlock.statement_metBy {demand : Demand} {block : OpenBlock}
    (hblock : block.draft.Meets demand) :
    ∀ inner ∈ block.statement.within, demand.MetBy inner := by
  intro inner hinner
  unfold OpenBlock.statement at hinner
  split at hinner
  next =>
    rw [Statement.within_repeated] at hinner
    rcases List.mem_cons.mp hinner with rfl | hnested
    · exact hblock.name
    · exact hblock.statements inner hnested
  next =>
    rw [Statement.within_conditional] at hinner
    rcases List.mem_cons.mp hinner with rfl | hnested
    · exact hblock.name
    · exact hblock.statements inner hnested

/-! ## The stack of open blocks -/

theorem Directive.exists_parse?_of_ofBody {body : List Char} {newline : Bool}
    {word : Keyword} (hword : ofBody body newline = .keyword word) :
    ∃ spelled, Keyword.parse? spelled = some word := by
  unfold ofBody at hword
  split at hword
  next => contradiction
  next rest =>
    split at hword
    next found hfound =>
      obtain rfl := Directive.keyword.inj hword
      exact ⟨rest, hfound⟩
    next => contradiction
  next => contradiction

namespace Assembly.Meet

variable {demand : Demand} {options : Options} {delimiters : Delimiters}
  {assembly next : Assembly}

theorem start (hsupplied : demand.Supplied options) : Assembly.start.Meet demand := by
  have hname : demand.sectionName none :=
    hsupplied.sectionName "section".toList false none (by decide)
  intro block hblock
  obtain rfl := List.mem_singleton.mp hblock
  exact .empty hname

theorem modify (hassembly : assembly.Meet demand)
    {change : Draft Statement → Draft Statement}
    (hchange : ∀ draft : Draft Statement, draft.Meets demand →
      (change draft).Meets demand) :
    (assembly.modify change).Meet demand := by
  obtain ⟨hinner, haround⟩ := List.forall_mem_cons.mp hassembly
  exact List.forall_mem_cons.mpr ⟨hchange _ hinner, haround⟩

theorem append (hassembly : assembly.Meet demand) {statement : Statement}
    (hstatement : ∀ inner ∈ statement.within, demand.MetBy inner) :
    (assembly.append statement).Meet demand :=
  hassembly.modify fun _ hdraft => hdraft.append hstatement

theorem literal (hassembly : assembly.Meet demand)
    (hsupplied : demand.Supplied options) {text : List Char} (htext : text ≠ []) :
    (assembly.literal text).Meet demand := by
  apply hassembly.append
  intro inner hinner
  obtain rfl := List.mem_singleton.mp hinner
  exact hsupplied.text text htext

theorem pop? (hassembly : assembly.Meet demand) (hpop : assembly.pop? = some next) :
    next.Meet demand := by
  obtain ⟨inner, around⟩ := assembly
  cases around with
  | nil => simp [Assembly.pop?] at hpop
  | cons outer around =>
      obtain ⟨hinner, haround⟩ := List.forall_mem_cons.mp hassembly
      obtain rfl := Option.some.inj hpop
      have houter : Assembly.Meet demand ⟨outer, around⟩ := haround
      exact houter.append (OpenBlock.statement_metBy hinner)

section

variable (hsupplied : demand.Supplied options)
  (haccepted : options.delimiters = .ok delimiters)
include hsupplied haccepted

theorem keyword (hassembly : assembly.Meet demand) {span : Span}
    {body : List Char} {word : Keyword} (hword : Keyword.parse? body = some word)
    (hnext : assembly.keyword delimiters span word = .ok next) :
    next.Meet demand := by
  obtain ⟨-, hleft, hright⟩ := Options.halves_of_accepted haccepted
  cases word with
  | metaLeft =>
      obtain rfl := Except.ok.inj hnext
      exact hassembly.literal hsupplied hleft
  | metaRight =>
      obtain rfl := Except.ok.inj hnext
      exact hassembly.literal hsupplied hright
  | space =>
      obtain rfl := Except.ok.inj hnext
      exact hassembly.literal hsupplied (List.cons_ne_nil _ _)
  | opening repeats name =>
      obtain rfl := Except.ok.inj hnext
      have hname := hsupplied.sectionName body repeats name hword
      exact List.forall_mem_cons.mpr ⟨.empty hname, hassembly⟩
  | alternate =>
      obtain rfl := Except.ok.inj hnext
      exact hassembly.modify fun _ hdraft => hdraft.switch .alternate
  | otherwise =>
      obtain rfl := Except.ok.inj hnext
      exact hassembly.modify fun _ hdraft => hdraft.switch .otherwise
  | closing =>
      simp only [Assembly.keyword] at hnext
      split at hnext
      next outer houter =>
        obtain rfl := Except.ok.inj hnext
        exact hassembly.pop? houter
      next => contradiction

theorem directive (hassembly : assembly.Meet demand) {span : Span}
    {body : List Char} {newline : Bool}
    (hnext : assembly.directive options delimiters span
      (Directive.ofBody body newline) = .ok next) :
    next.Meet demand := by
  cases hdirective : Directive.ofBody body newline with
  | comment =>
      rw [hdirective] at hnext
      obtain rfl := Except.ok.inj hnext
      exact hassembly
  | keyword word =>
      rw [hdirective] at hnext
      obtain ⟨spelled, hspelled⟩ := Directive.exists_parse?_of_ofBody hdirective
      exact hassembly.keyword hsupplied haccepted hspelled hnext
  | substitution text lineFeed =>
      rw [hdirective] at hnext
      simp only [Assembly.directive] at hnext
      split at hnext
      next => contradiction
      next substitution hread =>
        have hadded : (assembly.append (.substitute substitution)).Meet demand := by
          apply hassembly.append
          intro inner hinner
          obtain rfl := List.mem_singleton.mp hinner
          exact hsupplied.substitution span text substitution hread
        obtain rfl := Except.ok.inj hnext
        split
        next => exact hadded.literal hsupplied (List.cons_ne_nil _ _)
        next => exact hadded

theorem segment (hassembly : assembly.Meet demand) {segment : Segment}
    (hnext : assembly.segment options delimiters segment = .ok next) :
    next.Meet demand := by
  unfold Assembly.segment at hnext
  split at hnext
  next =>
    obtain rfl := Except.ok.inj hnext
    split
    next => exact hassembly
    next htext => exact hassembly.literal hsupplied (by simpa using htext)
  next => exact hassembly.directive hsupplied haccepted hnext

theorem segments (hassembly : assembly.Meet demand) {segments : List Segment}
    (hnext : assembly.segments options delimiters segments = .ok next) :
    next.Meet demand := by
  induction segments generalizing assembly with
  | nil =>
      obtain rfl := Except.ok.inj hnext
      exact hassembly
  | cons segment rest ih =>
      unfold Assembly.segments at hnext
      split at hnext
      next => contradiction
      next behind hbehind =>
        exact ih (hassembly.segment hsupplied haccepted hbehind) hnext

end

end Assembly.Meet

/-- A compiled program is the block of the lowest draft. -/
theorem Demand.Supplied.exists_draft_of_compile {demand : Demand}
    {options : Options} (hsupplied : demand.Supplied options) {source : String}
    {program : Program} (hcompile : compile options source = .ok program) :
    ∃ draft : Draft Statement, draft.block = program ∧ draft.Meets demand := by
  unfold compile at hcompile
  split at hcompile
  next => contradiction
  next delimiters haccepted =>
    split at hcompile
    next => contradiction
    next assembly hassembly =>
      have hmeet := (Assembly.Meet.start hsupplied).segments hsupplied haccepted
        hassembly
      unfold Assembly.finish at hcompile
      split at hcompile
      next => exact ⟨_, Except.ok.inj hcompile, hmeet _ List.mem_cons_self⟩
      next => contradiction

/-- All statements of a compiled program meet what all that can be added
meets. -/
theorem Demand.Supplied.metBy_of_compile {demand : Demand} {options : Options}
    (hsupplied : demand.Supplied options) {source : String} {program : Program}
    (hcompile : compile options source = .ok program) :
    ∀ statement ∈ program.statements, demand.MetBy statement := by
  obtain ⟨draft, rfl, hmeets⟩ := hsupplied.exists_draft_of_compile hcompile
  exact hmeets.statements

/-! ## Formatters of compiled substitutions -/

/-- Each formatter is the one that its own name stands for. -/
def Substitution.Registered (options : Options) (substitution : Substitution) :
    Prop :=
  ∀ formatter ∈ substitution.formatters,
    NamedFormatter.find? options.formatters formatter.name = some formatter

theorem NamedFormatter.find?_name {own : Entries Formatter} {name : String}
    {formatter : NamedFormatter} (hfound : find? own name = some formatter) :
    find? own formatter.name = some formatter := by
  obtain ⟨apply, -, rfl⟩ := Option.map_eq_some_iff.mp hfound
  exact hfound

theorem find?_of_resolveFormatters {options : Options} {span : Span}
    {names : List String} {formatters : List NamedFormatter}
    (hresolved : resolveFormatters options span names = .ok formatters) :
    ∀ formatter ∈ formatters,
      NamedFormatter.find? options.formatters formatter.name = some formatter := by
  induction names generalizing formatters with
  | nil =>
      obtain rfl := Except.ok.inj hresolved
      exact fun _ hmem => absurd hmem List.not_mem_nil
  | cons name rest ih =>
      unfold resolveFormatters resolveFormatter at hresolved
      cases hfound : NamedFormatter.find? options.formatters name with
      | none => simp [hfound] at hresolved
      | some first =>
          cases hrest : resolveFormatters options span rest with
          | error error => simp [hfound, hrest] at hresolved
          | ok others =>
              simp only [hfound, hrest] at hresolved
              obtain rfl := Except.ok.inj hresolved
              exact List.forall_mem_cons.mpr
                ⟨NamedFormatter.find?_name hfound, ih hrest⟩

theorem registered_of_readSubstitution {options : Options} {span : Span}
    {text : List Char} {substitution : Substitution}
    (hread : readSubstitution options span text = .ok substitution) :
    substitution.Registered options := by
  unfold readSubstitution at hread
  simp only at hread
  split at hread
  next => contradiction
  next formatters hformatters =>
    obtain rfl := Except.ok.inj hread
    split at hformatters
    next => contradiction
    next => exact find?_of_resolveFormatters hformatters
    next => exact find?_of_resolveFormatters hformatters

/-- The formatters of a compiled substitution are those of the options, the
caller's own before the built-in ones. -/
theorem registered_of_compile {options : Options} {source : String}
    {program : Program} (hcompile : compile options source = .ok program)
    {substitution : Substitution}
    (hmem : .substitute substitution ∈ program.statements) :
    substitution.Registered options := by
  let demand : Demand :=
    ⟨fun _ => True, fun substitution => substitution.Registered options,
      fun _ => True⟩
  have hsupplied : demand.Supplied options :=
    { text := fun _ _ => trivial
      substitution := fun _ _ _ hread => registered_of_readSubstitution hread
      sectionName := fun _ _ _ _ => trivial }
  exact hsupplied.metBy_of_compile hcompile _ hmem

end Stencil
