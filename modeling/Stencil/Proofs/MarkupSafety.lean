import Stencil.Proofs.CompiledStatements
import Stencil.Proofs.MarkupEscapes
import Stencil.Proofs.SinkDelivery
import Stencil.Proofs.Unrolling
import Mathlib.Tactic

/-!
# Safe markup

When every chain of formatters in a template ends with a built-in escape, then
whatever a render delivers is either written in the template itself or has been
escaped.  What the formatters in front of the last one do makes no difference,
since the last one is handed their text and escapes all of it.

The property is about the chunks that a sink is offered, whether the render
goes through to the end or fails on the way.
-/

namespace Stencil

variable {σ ε : Type}

/-- The name of the formatter that makes the text that is delivered. -/
def Substitution.lastFormatter? (substitution : Substitution) : Option String :=
  substitution.formatters.getLast?.map NamedFormatter.name

/-- Every substitution leaves the last word to a built-in escape: the caller
has none of its own under these names. -/
structure Block.Escapes (options : Options) (program : Program) : Prop where
  html : options.formatters.get? "html" = none
  htmltag : options.formatters.get? "htmltag" = none
  last : ∀ substitution, .substitute substitution ∈ program.statements →
    substitution.lastFormatter? = some "html" ∨
      substitution.lastFormatter? = some "htmltag"

/-- What may be delivered at a visit: the text of a literal as it stands, and
of data only what has been escaped. -/
def Visit.Safe : Visit → String → Prop
  | .literal text, chunk => chunk = text
  | .substituted substitution _, chunk =>
      Html.Escaped chunk.toList ∧
        (substitution.lastFormatter? = some "htmltag" → '"' ∉ chunk.toList)

/-! ## The last formatter -/

theorem exists_formatWith_eq_apply {formatters : List NamedFormatter}
    {last : NamedFormatter} (hlast : formatters.getLast? = some last)
    (value : Value) :
    ∃ handed, formatWith formatters value = last.apply handed := by
  obtain ⟨before, rfl⟩ := List.getLast?_eq_some_iff.mp hlast
  -- On its own the last formatter is handed the value, behind others their text.
  cases before with
  | nil => exact ⟨value, rfl⟩
  | cons first rest =>
      refine ⟨.string (formatWith (first :: rest) value), ?_⟩
      simp only [formatWith, List.cons_append, List.foldl_append,
        List.foldl_cons, List.foldl_nil]

theorem NamedFormatter.builtIn_get?_of_find? {own : Entries Formatter}
    {formatter : NamedFormatter}
    (hfound : find? own formatter.name = some formatter)
    (hown : own.get? formatter.name = none) :
    builtIn.get? formatter.name = some formatter.apply := by
  obtain ⟨apply, hget, hformatter⟩ := Option.map_eq_some_iff.mp hfound
  rw [hown, Option.none_or] at hget
  rw [hget, ← hformatter]

theorem Substitution.exists_formatWith_eq {options : Options}
    {substitution : Substitution} (hregistered : substitution.Registered options)
    {name : String} (hlast : substitution.lastFormatter? = some name)
    (hown : options.formatters.get? name = none) (value : Value) :
    ∃ apply handed, NamedFormatter.builtIn.get? name = some apply ∧
      formatWith substitution.formatters value = apply handed := by
  obtain ⟨last, hformatter, rfl⟩ := Option.map_eq_some_iff.mp hlast
  obtain ⟨handed, htext⟩ := exists_formatWith_eq_apply hformatter value
  have hfound := hregistered last (List.mem_of_getLast? hformatter)
  exact ⟨last.apply, handed,
    NamedFormatter.builtIn_get?_of_find? hfound hown, htext⟩

/-! ## Visits -/

theorem Visit.safe_of_escapes {options : Options} {program : Program}
    (hescapes : program.Escapes options) {visit : Visit}
    (hmem : visit.statement ∈ program.statements)
    (hregistered : ∀ substitution, .substitute substitution ∈ program.statements →
      substitution.Registered options) :
    ∀ chunk ∈ visit.chunk?, visit.Safe chunk := by
  intro chunk hchunk
  cases visit with
  | literal text => exact (Option.some.inj hchunk).symm
  | substituted substitution found =>
      obtain ⟨value, -, rfl⟩ := Option.map_eq_some_iff.mp hchunk
      have hnames := hregistered substitution hmem
      rcases hescapes.last substitution hmem with hlast | hlast
      · obtain ⟨apply, handed, hget, htext⟩ :=
          substitution.exists_formatWith_eq hnames hlast hescapes.html value
        obtain rfl : (fun value => htmlEscape value.text) = apply :=
          Option.some.inj hget
        have hescaped : formatWith substitution.formatters value =
            htmlEscape handed.text := htext
        rw [Visit.Safe, hescaped, htmlEscape, String.toList_ofList]
        refine ⟨Html.escaped_escape _, ?_⟩
        rw [hlast]
        exact fun hother => absurd hother (by decide)
      · obtain ⟨apply, handed, hget, htext⟩ :=
          substitution.exists_formatWith_eq hnames hlast hescapes.htmltag value
        obtain rfl : (fun value => htmlTagEscape value.text) = apply :=
          Option.some.inj hget
        have hescaped : formatWith substitution.formatters value =
            htmlTagEscape handed.text := htext
        rw [Visit.Safe, hescaped, htmlTagEscape, String.toList_ofList]
        exact ⟨Html.escaped_escapeAttribute _,
          fun _ => Html.quote_not_mem_escapeAttribute _⟩

/-! ## Renders -/

theorem Template.watched_prefix_chunks (template : Template) (sink : Sink σ ε)
    (data : Value) (output : σ) :
    (template.render sink.watched data (output, [])).output.2 <+:
      (template.program.rendering data).chunks := by
  obtain ⟨-, -, hall | hcut⟩ := template.render_watched sink data output
  · obtain ⟨-, hseen, -⟩ := hall
    rw [hseen]
  · obtain ⟨before, chunk, after, -, -, hchunks, -, -, hseen, -⟩ := hcut
    rw [hseen, hchunks]
    exact ⟨after, by simp⟩

/-- The chunks that a sink is offered are delivered at visits to the program,
in order, and each of them is safe there: literal text of the program, or
escaped by the last formatter of the substitution. -/
theorem Template.render_markup_safe {options : Options} {source : String}
    {template : Template} (hsource : ofSource options source = .ok template)
    (hescapes : template.program.Escapes options) (sink : Sink σ ε)
    (data : Value) (output : σ) :
    let delivered := (template.render sink.watched data (output, [])).output.2
    ∃ visits, visits <+: template.program.visits data ∧
      visits.map Visit.chunk? = delivered.map some ∧
      ∀ visit ∈ visits, visit.statement ∈ template.program.statements ∧
        ∀ chunk ∈ visit.chunk?, visit.Safe chunk := by
  intro delivered
  have hcompile : compile options source = .ok template.program := by
    unfold ofSource at hsource
    split at hsource
    next program hprogram =>
      obtain rfl := Except.ok.inj hsource
      exact hprogram
    next => contradiction
  have hdelivered : delivered.map some <+:
      (delivering (template.program.visits data)).map Visit.chunk? := by
    rw [← Block.map_some_chunks_rendering]
    exact (template.watched_prefix_chunks sink data output).map some
  obtain ⟨visits, hvisits, hchunks⟩ := List.prefix_map_iff.mp hdelivered
  have hleading := hvisits.trans (List.takeWhile_prefix _)
  refine ⟨visits, hleading, hchunks.symm, ?_⟩
  intro visit hvisit
  have hmem := Block.statement_mem_statements (hleading.subset hvisit)
  exact ⟨hmem, Visit.safe_of_escapes hescapes hmem fun _ =>
    registered_of_compile hcompile⟩

/-- A quotation mark in data does not leave the attribute, and an angle bracket
opens no tag. -/
theorem Template.render_link_markup_safe :
    let options : Options := ⟨[], some "html", '|', "\x7b\x7d"⟩
    let html : NamedFormatter := ⟨"html", fun value => htmlEscape value.text⟩
    let htmltag : NamedFormatter :=
      ⟨"htmltag", fun value => htmlTagEscape value.text⟩
    let template : Template :=
      ⟨⟨none, [.literal "<a title=\"", .substitute ⟨"t", [html, htmltag]⟩,
        .literal "\">", .substitute ⟨"x", [html]⟩, .literal "</a>"], [], []⟩⟩
    let data : Value := .mapping [("t", .string "a\""), ("x", .string "<b")]
    ofSource options "<a title=\"\x7bt|html|htmltag\x7d\">\x7bx\x7d</a>" =
        .ok template ∧
      template.program.Escapes options ∧
      ∃ visits, visits <+: template.program.visits data ∧
        visits.map Visit.chunk? =
          ["<a title=\"", "a&quot;", "\">", "&lt;b", "</a>"].map some ∧
        ∀ visit ∈ visits, visit.statement ∈ template.program.statements ∧
          ∀ chunk ∈ visit.chunk?, visit.Safe chunk := by
  intro options html htmltag template data
  have hsource : ofSource options
      "<a title=\"\x7bt|html|htmltag\x7d\">\x7bx\x7d</a>" = .ok template := by
    cbv
  have hescapes : template.program.Escapes options := by
    refine ⟨rfl, rfl, ?_⟩
    intro substitution hmem
    have heither : substitution = ⟨"t", [html, htmltag]⟩ ∨
        substitution = ⟨"x", [html]⟩ := by
      simpa [template, Block.statements, withinAll, Statement.within] using hmem
    rcases heither with rfl | rfl
    · exact .inr rfl
    · exact .inl rfl
  have hdelivered : (template.render Sink.chunks.watched data (#[], [])).output.2 =
      ["<a title=\"", "a&quot;", "\">", "&lt;b", "</a>"] := by cbv
  refine ⟨hsource, hescapes, ?_⟩
  rw [← hdelivered]
  exact template.render_markup_safe hsource hescapes Sink.chunks data #[]

end Stencil
