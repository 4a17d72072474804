import Stencil.Proofs.CompileFaults
import Stencil.Proofs.CompiledStatements
import Stencil.Proofs.KeywordGrammar
import Stencil.Proofs.SinkDelivery
import Stencil.Proofs.Unrolling
import Mathlib.Tactic

/-!
# What compiled programs are like

A program can be put together by hand from any statements.  The ones that are
compiled have no empty literals, no substitution without formatters and no
section with an odd name, however deep and in whatever clause.

For a render this means that every substitution it comes to has a formatter to
apply, and that an empty chunk can only be the value of a substitution.
-/

namespace Stencil

/-- What compiling promises of single statements. -/
def Options.compiled (options : Options) : Demand where
  text text := text ≠ ""
  substitution substitution :=
    substitution.formatters ≠ [] ∧
      (∀ formatter ∈ substitution.formatters,
        (options.formatters.get? formatter.name).or
          (NamedFormatter.builtIn.get? formatter.name) = some formatter.apply) ∧
      options.separator ∉ substitution.name.toList
  sectionName name :=
    ∀ own ∈ name, own ≠ "" ∧ ∀ c ∈ [' ', '\t', '\r', '\n'], c ∉ own.toList

/-! ## Names of sections -/

theorem Spread.isWord {words : List String} {text : List Char}
    (hspread : Spread words text) : ∀ word ∈ words, IsWord word.toList := by
  induction hspread with
  | nil => exact fun _ hmem => absurd hmem List.not_mem_nil
  | separator hseparates hrest ih => exact ih
  | word hword hend hrest ih => exact List.forall_mem_cons.mpr ⟨hword, ih⟩

/-- The name of a section is a word of the directive. -/
theorem Keyword.isWord_of_opening {body : List Char} {repeats : Bool}
    {name : Option String} (hopens : parse? body = some (.opening repeats name)) :
    ∀ own ∈ name, IsWord own.toList := by
  have hspread := Word.spread_split body
  have hspelled := (parse?_eq_some_iff hspread _).mp hopens
  intro own hown
  apply hspread.isWord
  generalize (Word.split body).map Word.string = words at hspelled
  cases hspelled with
  | once rest => exact List.mem_cons_of_mem _ (List.mem_of_mem_head? hown)
  | each rest =>
      exact List.mem_cons_of_mem _
        (List.mem_cons_of_mem _ (List.mem_of_mem_head? hown))

/-! ## What is promised -/

namespace Options

theorem compiled_substitution {options : Options} {span : Span}
    {text : List Char} {substitution : Substitution}
    (hread : readSubstitution options span text = .ok substitution) :
    options.compiled.substitution substitution := by
  have hregistered := registered_of_readSubstitution hread
  obtain ⟨hname, names, hasked, hfound⟩ := readSubstitution_eq_ok_iff.mp hread
  refine ⟨?_, ?_, ?_⟩
  · intro hnone
    rw [hnone, List.forall₂_nil_right_iff] at hfound
    exact ne_nil_of_asked? hasked hfound
  · intro formatter hformatter
    have hown := hregistered formatter hformatter
    obtain ⟨apply, happly, hsame⟩ := Option.map_eq_some_iff.mp hown
    rw [← hsame]
    exact happly
  · rw [hname, String.toList_ofList]
    intro hmem
    simpa using List.mem_takeWhile_imp hmem

theorem compiled_supplied (options : Options) :
    options.compiled.Supplied options where
  text characters hne := by
    intro hempty
    exact hne (by simpa using hempty)
  substitution _ _ _ hread := compiled_substitution hread
  sectionName body repeats name hopens := by
    intro own hown
    obtain ⟨hne, hletters⟩ := Keyword.isWord_of_opening hopens own hown
    refine ⟨fun hempty => hne (by rw [hempty]; rfl), ?_⟩
    intro c hbreak hmem
    have hseparates : IsSeparator c := by
      simpa [IsSeparator] using hbreak
    exact hletters c hmem hseparates

end Options

/-! ## Renders of compiled programs -/

/-- Chunks and visits go side by side. -/
theorem Block.exists_visit_of_chunk {program : Program} {data : Value}
    {index : ℕ} {chunk : String}
    (hchunk : (program.rendering data).chunks[index]? = some chunk) :
    ∃ visit, (program.visits data)[index]? = some visit ∧
      visit.chunk? = some chunk := by
  have hmap : ((program.rendering data).chunks.map some)[index]? =
      some (some chunk) := by
    rw [List.getElem?_map, hchunk, Option.map_some]
  rw [map_some_chunks_rendering, List.getElem?_map, Option.map_eq_some_iff] at hmap
  obtain ⟨visit, hvisit, hown⟩ := hmap
  have hleading : delivering (program.visits data) <+: program.visits data :=
    List.takeWhile_prefix _
  obtain ⟨hindex, hat⟩ := List.getElem?_eq_some_iff.mp hvisit
  refine ⟨visit, ?_, hown⟩
  rw [List.prefix_iff_getElem?.mp hleading index hindex, hat]

/-- What a compiled program is like, and with it its renders: whatever they come
to has a formatter to apply, and an empty chunk is the text of a value. -/
theorem compile_keeps_promises {options : Options} {source : String}
    {program : Program} (hcompile : compile options source = .ok program) :
    options.compiled.sectionName program.name ∧
    (∀ statement ∈ program.statements, options.compiled.MetBy statement) ∧
    ∀ data,
      (∀ (substitution : Substitution) (found : Option Value),
        Visit.substituted substitution found ∈ program.visits data →
          substitution.formatters ≠ []) ∧
      ∀ index : ℕ,
        (Template.render Sink.chunks ⟨program⟩ data #[]).output[index]? =
            some "" →
          ∃ (substitution : Substitution) (value : Value),
            (program.visits data)[index]? =
              some (Visit.substituted substitution (some value)) ∧
            Statement.substitute substitution ∈ program.statements ∧
            formatWith substitution.formatters value = "" := by
  obtain ⟨draft, hdraft, hname, hstatements⟩ :=
    options.compiled_supplied.exists_draft_of_compile hcompile
  rw [hdraft] at hname hstatements
  refine ⟨hname, hstatements, fun data => ⟨?_, ?_⟩⟩
  · intro substitution found hvisit
    exact (hstatements _ (Block.statement_mem_statements hvisit)).1
  · intro index hempty
    have hchunks := (Template.render_chunks ⟨program⟩ data).1
    rw [← Array.getElem?_toList, hchunks] at hempty
    obtain ⟨visit, hvisit, hchunk⟩ := Block.exists_visit_of_chunk hempty
    have hmem := Block.statement_mem_statements (List.mem_of_getElem? hvisit)
    rcases visit with text | ⟨substitution, found⟩
    · exact absurd (Option.some.inj hchunk) (hstatements _ hmem)
    · obtain ⟨value, rfl, hformat⟩ := Option.map_eq_some_iff.mp hchunk
      exact ⟨substitution, value, hvisit, hmem, hformat⟩

/-- A formatter of one's own that says nothing: the chunk behind the angle bracket
is empty and comes from the substitution in the section. -/
theorem compile_keeps_promises_silent_formatter :
    let options : Options :=
      { Options.standard with formatters := [("str", fun _ => "")] }
    let source := "<\x7b.section a\x7d\x7bx\x7d\x7b.or\x7d-\x7b.end\x7d>\n"
    let data : Value := .mapping [("a", .mapping [("x", .integer 1)])]
    ∃ program, compile options source = .ok program ∧
      (∀ statement ∈ program.statements, options.compiled.MetBy statement) ∧
      (Template.render Sink.chunks ⟨program⟩ data #[]).output = #["<", "", ">\n"] ∧
      ∃ substitution, substitution.formatters ≠ [] ∧
        Statement.substitute substitution ∈ program.statements := by
  intro options source data
  obtain ⟨program, hcompile, houtput⟩ : ∃ program : Program,
      compile options source = .ok program ∧
        (Template.render Sink.chunks ⟨program⟩ data #[]).output =
          #["<", "", ">\n"] :=
    ⟨_, by cbv, by cbv⟩
  obtain ⟨-, hstatements, hrenders⟩ := compile_keeps_promises hcompile
  obtain ⟨hvisits, hchunks⟩ := hrenders data
  obtain ⟨substitution, value, hvisit, hmem, -⟩ :=
    hchunks 1 (by rw [houtput]; rfl)
  exact ⟨program, hcompile, hstatements, houtput, substitution,
    hvisits _ _ (List.mem_of_getElem? hvisit), hmem⟩

end Stencil
