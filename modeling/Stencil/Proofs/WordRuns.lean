import Stencil.Proofs.KeywordGrammar
import Mathlib.Tactic

/-!
# Runs between separators

The tokens of a keyword body are its longest runs of characters that do not
separate words, each with the bytes that it takes.  What a longest run is can be
said about a word and its surroundings alone: nothing next to it could belong
to it.  The words that splitting finds are all the words for which this holds,
from left to right, and what lies outside of them separates words.

The induction follows the layout of a text: a separator in front of it moves all
runs of the rest, and a word in front of it is a run of its own, behind which
the text has none that begins at once.
-/

namespace Stencil

def Span.Covers (span : Span) (position : ℕ) : Prop :=
  span.start ≤ position ∧ position < span.stop

namespace Word

/-- The word stands between the two texts, of which the first begins at byte
`offset`, and no character next to it could belong to it. -/
structure IsRunBetween (offset : ℕ) (before after : List Char) (word : Word) :
    Prop where
  isWord : IsWord word.text
  span_eq : word.span =
    ⟨offset + byteCount before, offset + byteCount (before ++ word.text)⟩
  separated_before : ∀ c ∈ before.getLast?, IsSeparator c
  separated_after : ∀ c ∈ after.head?, IsSeparator c

def IsRun (offset : ℕ) (text : List Char) (word : Word) : Prop :=
  ∃ before after, text = before ++ word.text ++ after ∧
    word.IsRunBetween offset before after

/-- The words are all runs of a text that begins at byte `offset`. -/
structure AreRuns (offset : ℕ) (text : List Char) (words : List Word) : Prop where
  mem_iff : ∀ word, word ∈ words ↔ word.IsRun offset text
  ordered : words.Pairwise fun first second => first.span.stop < second.span.start
  separates_iff : ∀ before c after, text = before ++ c :: after →
    (IsSeparator c ↔
      ∀ word ∈ words, ¬ word.span.Covers (offset + byteCount before))

/-! ## Runs -/

variable {word : Word} {offset : ℕ} {own rest : List Char}

theorem IsRun.offset_le (hrun : word.IsRun offset rest) :
    offset ≤ word.span.start := by
  obtain ⟨before, after, -, hbetween⟩ := hrun
  rw [hbetween.span_eq]
  exact Nat.le_add_right _ _

/-- No run begins where a separator stands. -/
theorem IsRunBetween.before_ne_nil {before after : List Char}
    (hbetween : word.IsRunBetween offset before after)
    (hfront : ∀ c ∈ (before ++ word.text ++ after).head?,
      IsSeparator c) : before ≠ [] := by
  rintro rfl
  obtain ⟨hne, hletters⟩ := hbetween.isWord
  obtain ⟨c, more, htext⟩ := List.exists_cons_of_ne_nil hne
  exact hletters c (by simp [htext]) (hfront c (by simp [htext]))

theorem IsRun.offset_lt (hrest : ∀ c ∈ rest.head?, IsSeparator c)
    (hrun : word.IsRun offset rest) : offset < word.span.start := by
  obtain ⟨before, after, rfl, hbetween⟩ := hrun
  obtain ⟨c, more, rfl⟩ :=
    List.exists_cons_of_ne_nil (hbetween.before_ne_nil hrest)
  have hsize := c.utf8Size_pos
  rw [hbetween.span_eq]
  simp only [byteCount_cons]
  omega

theorem isRun_separator_cons_iff {c : Char} (hc : IsSeparator c) :
    word.IsRun offset (c :: rest) ↔ word.IsRun (offset + c.utf8Size) rest := by
  constructor
  · rintro ⟨before, after, htext, hbetween⟩
    have hfront : before ≠ [] := by
      apply hbetween.before_ne_nil
      simpa [← htext] using hc
    obtain ⟨d, more, rfl⟩ := List.exists_cons_of_ne_nil hfront
    obtain ⟨rfl, hrest⟩ := List.cons.inj htext
    refine ⟨more, after, hrest, hbetween.isWord, ?_, ?_,
      hbetween.separated_after⟩
    · simp [hbetween.span_eq, Nat.add_assoc]
    · intro d hd
      have hlast : d ∈ ([c] ++ more).getLast? :=
        List.mem_getLast?_append_of_mem_getLast? hd
      exact hbetween.separated_before d hlast
  · rintro ⟨before, after, rfl, hbetween⟩
    refine ⟨c :: before, after, rfl, hbetween.isWord, ?_, ?_,
      hbetween.separated_after⟩
    · simp [hbetween.span_eq, Nat.add_assoc]
    · cases hlast : before.getLast? with
      | none => simpa [List.getLast?_cons, hlast] using hc
      | some d =>
          simpa [List.getLast?_cons, hlast] using
            hbetween.separated_before d hlast

/-- A word with a separator behind it is all that its text begins with. -/
theorem takeWhile_of_isWord (hown : IsWord own)
    (hrest : ∀ c ∈ rest.head?, IsSeparator c) :
    (own ++ rest).takeWhile (fun c => ¬ IsSeparator c) = own := by
  have hstop : rest.takeWhile (fun c => ¬ IsSeparator c) = [] := by
    cases rest with
    | nil => rfl
    | cons c more =>
        have hc := hrest c rfl
        simp [hc]
  rw [List.takeWhile_append_of_pos, hstop, List.append_nil]
  intro c hc
  simp [hown.2 c hc]

/-- Behind a word in front of a text come the runs of the rest. -/
theorem isRun_append_iff (hown : IsWord own)
    (hrest : ∀ c ∈ rest.head?, IsSeparator c) :
    word.IsRun offset (own ++ rest) ↔
      word = ⟨own, ⟨offset, offset + byteCount own⟩⟩ ∨
        word.IsRun (offset + byteCount own) rest := by
  constructor
  · rintro ⟨before, after, htext, hbetween⟩
    cases hlast : before.getLast? with
    | none =>
        obtain rfl := List.getLast?_eq_none_iff.mp hlast
        left
        have hsame : word.text = own := by
          rw [← takeWhile_of_isWord hown hrest, htext, List.nil_append,
            takeWhile_of_isWord hbetween.isWord hbetween.separated_after]
        have hspan := hbetween.span_eq
        rw [hsame] at hspan
        calc word = ⟨word.text, word.span⟩ := rfl
          _ = ⟨own, ⟨offset, offset + byteCount own⟩⟩ := by rw [hsame, hspan]; rfl
    | some c =>
        have hseparates := hbetween.separated_before c hlast
        right
        rw [List.append_assoc] at htext
        -- The separator in front of the run does not stand in the word.
        rcases List.append_eq_append_iff.mp htext with
          ⟨between, rfl, hbehind⟩ | ⟨between, rfl, -⟩
        · refine ⟨between, after, by simpa using hbehind, hbetween.isWord, ?_, ?_,
            hbetween.separated_after⟩
          · simp [hbetween.span_eq, Nat.add_assoc]
          · intro d hd
            exact hbetween.separated_before d
              (List.mem_getLast?_append_of_mem_getLast? hd)
        · have hletter := hown.2 c
            (List.mem_append_left between (List.mem_of_getLast? hlast))
          contradiction
  · rintro (rfl | ⟨before, after, rfl, hbetween⟩)
    · exact ⟨[], rest, rfl, hown, rfl, by simp, hrest⟩
    · refine ⟨own ++ before, after, by simp, hbetween.isWord, ?_, ?_,
        hbetween.separated_after⟩
      · simp [hbetween.span_eq, Nat.add_assoc]
      · rw [List.getLast?_append_of_ne_nil _ (hbetween.before_ne_nil hrest)]
        exact hbetween.separated_before

/-! ## All runs of a text -/

theorem areRuns_nil : AreRuns offset [] [] := by
  refine ⟨?_, .nil, ?_⟩
  · intro word
    have hnone : ¬ word.IsRun offset [] := by
      rintro ⟨before, after, htext, hbetween⟩
      have hne := hbetween.isWord.1
      simp [hne] at htext
    simp [hnone]
  · intro before c after htext
    simp at htext

theorem AreRuns.separator {c : Char} {words : List Word}
    (hc : IsSeparator c)
    (hruns : AreRuns (offset + c.utf8Size) rest words) :
    AreRuns offset (c :: rest) words := by
  refine ⟨?_, hruns.ordered, ?_⟩
  · intro word
    rw [hruns.mem_iff, isRun_separator_cons_iff hc]
  · intro before d after htext
    cases before with
    | nil =>
        obtain ⟨rfl, rfl⟩ := List.cons.inj htext
        refine iff_of_true hc ?_
        intro word hword hcovers
        have hsize := c.utf8Size_pos
        have hle := ((hruns.mem_iff word).mp hword).offset_le
        have hstart := hcovers.1
        simp only [byteCount_nil] at hstart
        omega
    | cons e more =>
        obtain ⟨rfl, rfl⟩ := List.cons.inj htext
        rw [byteCount_cons, ← Nat.add_assoc]
        exact hruns.separates_iff more d after rfl

theorem AreRuns.word_append {words : List Word} (hown : IsWord own)
    (hrest : ∀ c ∈ rest.head?, IsSeparator c)
    (hruns : AreRuns (offset + byteCount own) rest words) :
    AreRuns offset (own ++ rest)
      (⟨own, ⟨offset, offset + byteCount own⟩⟩ :: words) := by
  have hbehind : ∀ word ∈ words, offset + byteCount own < word.span.start := by
    intro word hword
    exact ((hruns.mem_iff word).mp hword).offset_lt hrest
  refine ⟨?_, .cons hbehind hruns.ordered, ?_⟩
  · intro word
    rw [List.mem_cons, hruns.mem_iff, isRun_append_iff hown hrest]
  · intro before c after htext
    have hbeyond : ∀ between, rest = between ++ c :: after →
        (IsSeparator c ↔
          ∀ word ∈ ⟨own, ⟨offset, offset + byteCount own⟩⟩ :: words,
            ¬ word.span.Covers (offset + byteCount (own ++ between))) := by
      intro between hbetween
      have hoff : ¬ Span.Covers ⟨offset, offset + byteCount own⟩
          (offset + byteCount (own ++ between)) := by
        rintro ⟨-, hlt⟩
        simp only [byteCount_append] at hlt
        omega
      rw [hruns.separates_iff between c after hbetween, List.forall_mem_cons,
        and_iff_right hoff, byteCount_append, Nat.add_assoc]
    rcases List.append_eq_append_iff.mp htext with
      ⟨between, rfl, hbetween⟩ | ⟨between, hsplit, hbetween⟩
    · exact hbeyond between hbetween
    · cases between with
      | nil =>
          obtain rfl : own = before := by simpa using hsplit
          have hhere := hbeyond [] hbetween.symm
          rwa [List.append_nil] at hhere
      | cons d more =>
          -- The character is one of the word in front.
          obtain ⟨rfl, -⟩ := List.cons.inj hbetween
          have hletter := hown.2 c (by simp [hsplit])
          have hsize := c.utf8Size_pos
          have hcovers : Span.Covers ⟨offset, offset + byteCount own⟩
              (offset + byteCount before) := by
            simp only [Span.Covers, hsplit, byteCount_append, byteCount_cons]
            omega
          simp [hletter, hcovers]

end Word

theorem Word.injective_string_span :
    Function.Injective fun word : Word => (word.string, word.span) := by
  rintro ⟨text, span⟩ ⟨other, place⟩ hsame
  obtain ⟨hstring, rfl⟩ := Prod.mk.inj hsame
  obtain rfl := String.ofList_injective hstring
  rfl

/-! ## Tokens -/

theorem Spread.areRuns {words : List String} {text : List Char}
    (hspread : Spread words text) (offset : ℕ) :
    Word.AreRuns offset text (Word.splitFrom offset offset [] text) := by
  induction hspread generalizing offset with
  | nil => exact Word.areRuns_nil
  | separator hseparates hrest ih =>
      rw [Word.splitFrom_separator hseparates]
      exact (ih _).separator hseparates
  | word hword hend hrest ih =>
      rw [Word.splitFrom_append hword hend]
      exact (ih _).word_append hword hend

theorem Word.areRuns_split (text : List Char) : AreRuns 0 text (split text) :=
  (spread_split text).areRuns 0

namespace Token

/-- The token that a word stands for. -/
inductive SpelledBy : String → Token → Prop
  | metaLeft : SpelledBy "meta-left" .metaLeft
  | metaRight : SpelledBy "meta-right" .metaRight
  | space : SpelledBy "space" .space
  | repeated : SpelledBy "repeated" .repeated
  | sectionWord : SpelledBy "section" .sectionWord
  | alternates : SpelledBy "alternates" .alternates
  | withWord : SpelledBy "with" .withWord
  | orWord : SpelledBy "or" .orWord
  | endWord : SpelledBy "end" .endWord
  | name {text : String}
      (hfree : text ∉ ["meta-left", "meta-right", "space", "repeated", "section",
        "alternates", "with", "or", "end"]) :
      SpelledBy text (.name text)

theorem ofText_of_spelledBy {text : String} {token : Token}
    (hspelled : SpelledBy text token) : ofText text = token := by
  cases hspelled with
  | name hfree =>
      have hnone : reserved.lookup text = none := by
        rw [List.lookup_eq_none_iff]
        intro entry hentry
        have hword : ∀ entry ∈ reserved, entry.1 ∈ ["meta-left", "meta-right",
            "space", "repeated", "section", "alternates", "with", "or", "end"] := by
          decide
        have hother : text ≠ entry.1 := by
          rintro rfl
          exact hfree (hword entry hentry)
        simpa using hother
      rw [ofText, hnone]
      rfl
  | _ => rfl

/-- Every word stands for the token that is found for it. -/
theorem spelledBy_ofText (text : String) : SpelledBy text (ofText text) := by
  by_cases hfree : text ∈ ["meta-left", "meta-right", "space", "repeated",
      "section", "alternates", "with", "or", "end"]
  · simp only [List.mem_cons, List.not_mem_nil, or_false] at hfree
    rcases hfree with rfl | rfl | rfl | rfl | rfl | rfl | rfl | rfl | rfl
    · exact .metaLeft
    · exact .metaRight
    · exact .space
    · exact .repeated
    · exact .sectionWord
    · exact .alternates
    · exact .withWord
    · exact .orWord
    · exact .endWord
  · rw [ofText_of_spelledBy (.name hfree)]
    exact .name hfree

theorem ofText_eq_iff {text : String} {token : Token} :
    ofText text = token ↔ SpelledBy text token := by
  constructor
  · rintro rfl
    exact spelledBy_ofText text
  · exact ofText_of_spelledBy

/-- There is one token for each run of characters other than separators, in their
order and with their spans.  It is a keyword's if the run is that keyword and else
a name, so that the texts of the tokens are the runs again. -/
theorem lex_runs (body : List Char) :
    ∃ runs : List Word, Word.AreRuns 0 body runs ∧
      lex body = runs.map (fun run => (ofText run.string, run.span)) ∧
      (lex body).map (fun token => token.1.text) = runs.map Word.string ∧
      ∀ run ∈ runs, ∀ token,
        ofText run.string = token ↔ SpelledBy run.string token := by
  refine ⟨Word.split body, Word.areRuns_split body, rfl, ?_, ?_⟩
  · rw [lex, List.map_map]
    apply List.map_congr_left
    intro run _
    exact text_ofText run.string
  · intro run _ token
    exact ofText_eq_iff

/-- Extensions of keywords are names, and other white space does not separate. -/
theorem lex_runs_of_no_break_space :
    let body := " end\tending\u00a0or".toList
    let first : Word := ⟨"end".toList, ⟨1, 4⟩⟩
    let second : Word := ⟨"ending\u00a0or".toList, ⟨5, 15⟩⟩
    Word.AreRuns 0 body [first, second] ∧
      lex body = [(.endWord, ⟨1, 4⟩), (.name "ending\u00a0or", ⟨5, 15⟩)] ∧
      SpelledBy first.string .endWord ∧
      SpelledBy second.string (.name "ending\u00a0or") := by
  intro body first second
  obtain ⟨runs, hruns, hlex, -, hspelled⟩ := lex_runs body
  have htokens : lex body =
      [(.endWord, ⟨1, 4⟩), (.name "ending\u00a0or", ⟨5, 15⟩)] := by
    decide
  have hpairs : runs.map (fun run => (run.string, run.span)) =
      [first, second].map fun run => (run.string, run.span) := by
    calc runs.map (fun run => (run.string, run.span))
        = (lex body).map fun token => (token.1.text, token.2) := by
          simp [hlex, Function.comp_def, text_ofText]
      _ = [first, second].map fun run => (run.string, run.span) := by
          rw [htokens]
          decide
  have hfound : runs = [first, second] := Word.injective_string_span.list_map hpairs
  subst hfound
  refine ⟨hruns, htokens, ?_, ?_⟩
  · exact (hspelled first (by simp) _).mp (by decide)
  · exact (hspelled second (by simp) _).mp (by decide)

end Token

end Stencil
