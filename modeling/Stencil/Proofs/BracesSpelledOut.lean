import Stencil.Proofs.ProgramPrinting
import Stencil.Proofs.SinkDelivery
import Mathlib.Tactic

/-!
# Any text as a template

A text with braces in it is written as a template by spelling each brace out
as the keyword that stands for it.  Under standard options the template then
has no directives but these keywords, and it expands to the text, whatever the
data.  A line feed behind a brace would be taken by the keyword in front of it,
and that is the only thing that can get lost.
-/

namespace Stencil

def spellBrace (c : Char) : List Char :=
  if c = '\x7b' then "\x7b.meta-left\x7d".toList
  else if c = '\x7d' then "\x7b.meta-right\x7d".toList
  else [c]

/-- The text with both kinds of braces spelled out, in one pass. -/
def spellBraces (text : String) : String :=
  String.ofList (text.toList.flatMap spellBrace)

/-- No brace has a line feed right behind it. -/
def NoBraceEndsLine (text : List Char) : Prop :=
  ¬ ['\x7b', '\n'] <:+: text ∧ ¬ ['\x7d', '\n'] <:+: text

instance (text : List Char) : Decidable (NoBraceEndsLine text) :=
  inferInstanceAs (Decidable (_ ∧ _))

def braces : Delimiters := ⟨['\x7b'], ['\x7d']⟩

theorem standard_delimiters : Options.standard.delimiters = .ok braces := by
  cbv

theorem standard_markerIsPlain : Options.standard.MarkerIsPlain := by
  decide

/-! ## Characters spelled out -/

theorem spellBrace_plain {c : Char} (hc : c ∉ braces.left ++ braces.right) :
    spellBrace c = [c] := by
  have hne : c ≠ '\x7b' ∧ c ≠ '\x7d' := by simpa [braces] using hc
  rw [spellBrace, if_neg hne.1, if_neg hne.2]

/-- A brace is spelled as a directive with a keyword that adds the brace as
literal text. -/
theorem exists_keyword_of_brace {c : Char}
    (hc : c ∈ braces.left ++ braces.right) :
    ∃ keyword : Keyword, keyword.Printable .standard ∧
      spellBrace c = keyword.piece.text braces ∧
      ∀ span (assembly : Assembly),
        assembly.keyword braces span keyword = .ok (assembly.literal [c]) := by
  have hcases : c = '\x7b' ∨ c = '\x7d' := by simpa [braces] using hc
  rcases hcases with rfl | rfl
  · exact ⟨.metaLeft, trivial, by cbv, fun _ _ => rfl⟩
  · exact ⟨.metaRight, trivial, by cbv, fun _ _ => rfl⟩

theorem head?_flatMap_spellBrace {text : List Char}
    (htext : text.head? ≠ some '\n') :
    (text.flatMap spellBrace).head? ≠ some '\n' := by
  cases text with
  | nil => simp
  | cons c rest =>
      have hc : c ≠ '\n' := by simpa using htext
      rw [List.flatMap_cons]
      by_cases hbrace : c ∈ braces.left ++ braces.right
      · obtain ⟨keyword, -, hspell, -⟩ := exists_keyword_of_brace hbrace
        rw [hspell]
        simp [Keyword.piece, Piece.text, braces]
      · rw [spellBrace_plain hbrace]
        simpa using hc

theorem NoBraceEndsLine.tail {c : Char} {rest : List Char}
    (htext : NoBraceEndsLine (c :: rest)) : NoBraceEndsLine rest :=
  ⟨fun hfound => htext.1 (List.infix_cons hfound),
    fun hfound => htext.2 (List.infix_cons hfound)⟩

theorem NoBraceEndsLine.head?_ne {c : Char} {rest : List Char}
    (htext : NoBraceEndsLine (c :: rest))
    (hc : c ∈ braces.left ++ braces.right) : rest.head? ≠ some '\n' := by
  intro hhead
  obtain ⟨more, rfl⟩ := List.head?_eq_some_iff.mp hhead
  have hcases : c = '\x7b' ∨ c = '\x7d' := by simpa [braces] using hc
  have hfront : [c, '\n'] <:+: c :: '\n' :: more :=
    List.IsPrefix.isInfix ⟨more, rfl⟩
  rcases hcases with rfl | rfl
  · exact htext.1 hfront
  · exact htext.2 hfront

/-! ## Compiling the spelled out text -/

theorem Assembly.flush_eq_modify (assembly : Assembly) (pending : List Char) :
    ∃ texts : List (List Char), texts.flatten = pending.reverse ∧
      assembly.flush pending =
        assembly.modify (Draft.takeAll (texts.map Item.literal)) := by
  by_cases hpending : pending = []
  · exact ⟨[], by simp [hpending], by simp [flush, hpending]; rfl⟩
  · exact ⟨[pending.reverse], by simp, by simp [flush, hpending]; rfl⟩

/-- Taking in the segments of a text that is spelled out adds literal
statements with the same characters in all. -/
theorem Assembly.segments_spellBraces {text : List Char}
    (htext : NoBraceEndsLine text) (pending : List Char) (start position : ℕ)
    (assembly : Assembly) :
    ∃ texts : List (List Char),
      texts.flatten = pending.reverse ++ text ∧
        assembly.segments .standard braces
            (braces.splitFrom start position pending (text.flatMap spellBrace)) =
          .ok (assembly.modify (Draft.takeAll (texts.map Item.literal))) := by
  have hvisible : braces.Visible :=
    standard_markerIsPlain.visible standard_delimiters
  induction text generalizing pending start position assembly with
  | nil =>
      obtain ⟨texts, hflatten, hflush⟩ := assembly.flush_eq_modify pending
      have hnone : braces.directive? [] = none := rfl
      refine ⟨texts, by simpa using hflatten, ?_⟩
      rw [List.flatMap_nil, Delimiters.splitFrom_nil hnone]
      simp only [segments, segment_literal, hflush]
  | cons c rest ih =>
      by_cases hbrace : c ∈ braces.left ++ braces.right
      · obtain ⟨keyword, hprintable, hspell, hadds⟩ :=
          exists_keyword_of_brace hbrace
        have hown : Piece.IsBody braces keyword.body :=
          hprintable.isBody standard_delimiters standard_markerIsPlain
        have hrest := head?_flatMap_spellBrace (htext.head?_ne hbrace)
        have hfound := Delimiters.directive?_of_isBody hvisible hown hrest
        let stop := position + byteCount (keyword.piece.text braces)
        obtain ⟨before, hbefore, hflush⟩ := assembly.flush_eq_modify pending
        have hdirective : (assembly.flush pending).segment .standard braces
            ⟨.directive, keyword.piece.text braces, ⟨position, stop⟩⟩ =
              .ok ((assembly.flush pending).literal [c]) :=
          calc (assembly.flush pending).segment .standard braces
                ⟨.directive, keyword.piece.text braces, ⟨position, stop⟩⟩
              = (assembly.flush pending).piece .standard braces position
                  keyword.piece :=
                segment_directive .standard hvisible hown position _
            _ = (assembly.flush pending).keyword braces ⟨position, stop⟩ keyword :=
                piece_keyword hprintable position _
            _ = .ok ((assembly.flush pending).literal [c]) := hadds _ _
        obtain ⟨texts, hflatten, hsegments⟩ := ih htext.tail [] stop stop
          ((assembly.flush pending).literal [c])
        refine ⟨before ++ [c] :: texts, by simp [hbefore, hflatten], ?_⟩
        have hall : ((assembly.flush pending).literal [c]).modify
            (Draft.takeAll (texts.map Item.literal)) =
              assembly.modify
                (Draft.takeAll ((before ++ [c] :: texts).map Item.literal)) := by
          have hliteral : (assembly.flush pending).literal [c] =
              (assembly.flush pending).modify
                (Draft.takeAll [Item.literal [c]]) := rfl
          rw [hliteral, hflush, modify_takeAll_append, modify_takeAll_append]
          simp
        rw [List.flatMap_cons, hspell, Keyword.piece,
          Delimiters.splitFrom_of_directive hfound]
        simp only [segments, segment_literal]
        rw [← Keyword.piece, hdirective, ← hall]
        exact hsegments
      · have havoid : braces.Avoid [c] := by
          intro d hd
          obtain rfl := List.mem_singleton.mp hd
          exact hbrace
        have hsplit := Delimiters.splitFrom_literal hvisible.left_ne_nil havoid
          start position pending (rest.flatMap spellBrace)
        obtain ⟨texts, hflatten, hsegments⟩ := ih htext.tail (c :: pending) start
          (position + byteCount [c]) assembly
        refine ⟨texts, by simpa using hflatten, ?_⟩
        rw [List.flatMap_cons, spellBrace_plain hbrace, hsplit]
        exact hsegments

/-! ## Rendering literals -/

theorem renderingAll_literals (texts : List String) (environment : List Value) :
    renderingAll (texts.map Statement.literal) environment = ⟨texts, none⟩ := by
  induction texts with
  | nil => rfl
  | cons text rest ih =>
      rw [List.map_cons, renderingAll, ih]
      rfl

theorem join_map_ofList (texts : List (List Char)) :
    String.join (texts.map String.ofList) = String.ofList texts.flatten := by
  induction texts with
  | nil => rfl
  | cons text rest ih =>
      rw [List.map_cons, String.join_cons, ih, List.flatten_cons,
        String.ofList_append]

/-- Any text in which no brace ends a line compiles when its braces are spelled
out, and the template expands to the text over all data. -/
theorem expand_spellBraces {text : String} (htext : NoBraceEndsLine text.toList) :
    ∃ template, Template.ofSource .standard (spellBraces text) = .ok template ∧
      ∀ data, template.expand data = .ok text ∧
        expand (spellBraces text) data = .ok text := by
  obtain ⟨texts, hflatten, hsegments⟩ :=
    Assembly.segments_spellBraces htext [] 0 0 Assembly.start
  let main := (texts.map String.ofList).map Statement.literal
  have hadd : texts.map Item.literal = main.map Item.add := by
    simp [main, Item.literal]
  have hcompile : compile .standard (spellBraces text) =
      .ok ⟨none, main, [], []⟩ := by
    have hrun : Assembly.start.segments .standard braces
        (braces.split (spellBraces text).toList) =
          .ok (Assembly.start.modify (Draft.takeAll (main.map Item.add))) := by
      rw [← hadd, spellBraces, String.toList_ofList]
      exact hsegments
    rw [compile, standard_delimiters]
    simp only [hrun]
    exact Assembly.finish_adds main
  have hjoin : String.join (texts.map String.ofList) = text := by
    rw [join_map_ofList, hflatten]
    exact String.ofList_toList
  let template : Template := ⟨none, main, [], []⟩
  have htemplate : Template.ofSource .standard (spellBraces text) = .ok template := by
    rw [Template.ofSource, hcompile]
  have hexpand : ∀ data, template.expand data = .ok text := by
    intro data
    have hrendering : template.program.rendering data =
        ⟨texts.map String.ofList, none⟩ :=
      renderingAll_literals (texts.map String.ofList) [data]
    obtain ⟨houtput, hfailure⟩ := template.render_string data ""
    rw [hrendering] at houtput hfailure
    rw [String.empty_append, hjoin] at houtput
    have hnone : (template.render Sink.string data "").failure = none := hfailure
    simp only [Template.expand, hnone, houtput]
  refine ⟨template, htemplate, fun data => ⟨hexpand data, ?_⟩⟩
  simp only [expand, htemplate, hexpand data]

/-- Braces next to each other, at both ends and behind a line feed. -/
theorem expand_spellBraces_of_neighbours :
    let text := "\n\x7b\x7b.end\x7d é\n\x7d"
    let source := "\n\x7b.meta-left\x7d\x7b.meta-left\x7d" ++
      ".end\x7b.meta-right\x7d é\n\x7b.meta-right\x7d"
    NoBraceEndsLine text.toList ∧ spellBraces text = source ∧
      ∃ template, Template.ofSource .standard source = .ok template ∧
        template.expand .null = .ok text := by
  intro text source
  have htext : NoBraceEndsLine text.toList := by decide
  have hspell : spellBraces text = source := by cbv
  obtain ⟨template, htemplate, hexpand⟩ := expand_spellBraces htext
  rw [hspell] at htemplate
  exact ⟨htext, hspell, template, htemplate, (hexpand .null).1⟩

end Stencil
