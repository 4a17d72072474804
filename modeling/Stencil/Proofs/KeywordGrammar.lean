import Stencil.Proofs.DirectiveSpelling
import Mathlib.Tactic

/-!
# The grammar of keywords

The body of a keyword directive is read through its words alone.  What the
words of a text are is said here without a scan: `Spread` lays words out in a
text, with separators in front of them, between them and behind them.  Every
text is laid out from exactly one list of words, those that splitting finds.

`Keyword.SpelledBy` is the grammar over lists of words.  Reading a body finds
a keyword exactly if the grammar has it for the body's words.
-/

namespace Stencil

/-- A text consists of the given words in order and of separators.  What comes
behind a word, if anything does, begins with a separator. -/
inductive Spread : List String → List Char → Prop
  | nil : Spread [] []
  | separator {words : List String} {text : List Char} {c : Char}
      (hseparates : IsSeparator c) (hrest : Spread words text) :
      Spread words (c :: text)
  | word {words : List String} {text : List Char} {word : String}
      (hword : IsWord word.toList)
      (hend : ∀ c ∈ text.head?, IsSeparator c)
      (hrest : Spread words text) :
      Spread (word :: words) (word.toList ++ text)

namespace Keyword

/-- The words that spell a keyword.  The name of a section is the word after
`section`, whatever it is, and the words after the name do not count. -/
inductive SpelledBy : List String → Keyword → Prop
  | metaLeft : SpelledBy ["meta-left"] .metaLeft
  | metaRight : SpelledBy ["meta-right"] .metaRight
  | space : SpelledBy ["space"] .space
  | alternate : SpelledBy ["alternates", "with"] .alternate
  | otherwise : SpelledBy ["or"] .otherwise
  | closing : SpelledBy ["end"] .closing
  | once (rest : List String) :
      SpelledBy ("section" :: rest) (.opening false rest.head?)
  | each (rest : List String) :
      SpelledBy ("repeated" :: "section" :: rest) (.opening true rest.head?)

end Keyword

/-! ## Words -/

def Word.string (word : Word) : String :=
  String.ofList word.text

theorem Spread.map_string_splitFrom {words : List String} {text : List Char}
    (hspread : Spread words text) (start position : ℕ) :
    (Word.splitFrom start position [] text).map Word.string = words := by
  induction hspread generalizing start position with
  | nil => rfl
  | separator hseparates hrest ih =>
      rw [Word.splitFrom_separator hseparates]
      exact ih _ _
  | @word words text word hword hend hrest ih =>
      rw [Word.splitFrom_append hword hend, List.map_cons, ih]
      simp [Word.string]

theorem Word.spread_close {pending text : List Char} {words : List String}
    (hpending : ∀ c ∈ pending, ¬ IsSeparator c)
    (hend : ∀ c ∈ text.head?, IsSeparator c)
    (hspread : Spread words text) (start stop : ℕ) :
    Spread ((close start stop pending).map string ++ words)
      (pending.reverse ++ text) := by
  cases pending with
  | nil => exact hspread
  | cons c more =>
      have hword : IsWord (String.ofList (c :: more).reverse).toList := by
        refine ⟨by simp, ?_⟩
        intro d hd
        rw [String.toList_ofList, List.mem_reverse] at hd
        exact hpending d hd
      have hlaid := Spread.word hword hend hspread
      rwa [String.toList_ofList] at hlaid

/-- What a scan finds that has come to `rest`, with the characters of `pending`
read for the word it is in. -/
theorem Word.spread_splitFrom (rest : List Char) {pending : List Char}
    (hpending : ∀ c ∈ pending, ¬ IsSeparator c) (start position : ℕ) :
    Spread ((splitFrom start position pending rest).map string)
      (pending.reverse ++ rest) := by
  induction rest generalizing start position pending with
  | nil =>
      have hlast := spread_close hpending (by simp) Spread.nil start position
      rwa [List.append_nil] at hlast
  | cons c rest ih =>
      let next := position + c.utf8Size
      by_cases hseparates : IsSeparator c
      · have hnone : ∀ d ∈ ([] : List Char), ¬ IsSeparator d :=
          fun d hd => absurd hd List.not_mem_nil
        have hrest := Spread.separator hseparates (ih hnone next next)
        have hend : ∀ d ∈ (c :: rest).head?, IsSeparator d := by
          simpa using hseparates
        rw [splitFrom_separator hseparates, List.map_append]
        exact spread_close hpending hend hrest start position
      · have hmore : ∀ d ∈ c :: pending, ¬ IsSeparator d := by
          simpa [hseparates] using hpending
        have hlonger := ih hmore start next
        rw [List.reverse_cons, List.append_assoc] at hlonger
        rw [splitFrom_letter hseparates]
        exact hlonger

theorem Word.spread_split (text : List Char) :
    Spread ((split text).map string) text :=
  spread_splitFrom text (by simp) 0 0

/-! ## Keywords -/

theorem Keyword.parse?_eq_ofTokens? {words : List String} {body : List Char}
    (hspread : Spread words body) :
    parse? body = ofTokens? (words.map Token.ofText) := by
  have hwords := hspread.map_string_splitFrom 0 0
  rw [parse?, Token.lex, ← hwords, List.map_map, List.map_map]
  rfl

theorem Keyword.ofTokens?_of_spelledBy {words : List String} {keyword : Keyword}
    (hspelled : SpelledBy words keyword) :
    ofTokens? (words.map Token.ofText) = some keyword := by
  have hname : ∀ rest : List String,
      (rest.map Token.ofText).head?.map Token.text = rest.head? := by
    intro rest
    cases rest with
    | nil => rfl
    | cons word rest => simp [Token.text_ofText]
  cases hspelled with
  | once rest =>
      have hopens : ofTokens? (("section" :: rest).map Token.ofText) =
          some (.opening false
            ((rest.map Token.ofText).head?.map Token.text)) := rfl
      rw [hopens, hname]
  | each rest =>
      have hopens : ofTokens? (("repeated" :: "section" :: rest).map Token.ofText) =
          some (.opening true
            ((rest.map Token.ofText).head?.map Token.text)) := rfl
      rw [hopens, hname]
  | _ => rfl

theorem Keyword.spelledBy_of_ofTokens? {tokens : List Token} {keyword : Keyword}
    (hkeyword : ofTokens? tokens = some keyword) :
    SpelledBy (tokens.map Token.text) keyword := by
  unfold ofTokens? at hkeyword
  split at hkeyword <;> cases hkeyword
  · exact .metaLeft
  · exact .metaRight
  · exact .space
  · exact .alternate
  · exact .otherwise
  · exact .closing
  · rw [← List.head?_map]
    exact .once _
  · rw [← List.head?_map]
    exact .each _

theorem Keyword.parse?_eq_some_iff {words : List String} {body : List Char}
    (hspread : Spread words body) (keyword : Keyword) :
    parse? body = some keyword ↔ SpelledBy words keyword := by
  rw [parse?_eq_ofTokens? hspread]
  constructor
  · intro hkeyword
    have hspelled := spelledBy_of_ofTokens? hkeyword
    have htexts : (words.map Token.ofText).map Token.text = words := by
      simp [Function.comp_def, Token.text_ofText]
    rwa [htexts] at hspelled
  · exact ofTokens?_of_spelledBy

/-- Keywords are read by their grammar.  The words of a body decide alone; the
separators around and between them do not matter. -/
theorem Keyword.parse?_grammar (body : List Char) :
    ∃ words, Spread words body ∧ (∀ other, Spread other body → other = words) ∧
      (∀ keyword, parse? body = some keyword ↔ SpelledBy words keyword) ∧
      (parse? body = none ↔ ∀ keyword, ¬ SpelledBy words keyword) ∧
      ∀ same, Spread words same → parse? same = parse? body := by
  have hspread := Word.spread_split body
  have hiff := parse?_eq_some_iff hspread
  refine ⟨_, hspread, ?_, hiff, ?_, ?_⟩
  · intro other hother
    exact (hother.map_string_splitFrom 0 0).symm
  · rw [Option.eq_none_iff_forall_ne_some]
    exact forall_congr' fun keyword => not_congr (hiff keyword)
  · intro same hsame
    rw [parse?_eq_ofTokens? hsame, parse?_eq_ofTokens? hspread]

/-- A section can be named like a keyword, and words behind the name are not
read. -/
example : Keyword.parse? " repeated\tsection end x".toList =
    some (.opening true (some "end")) := by
  decide

end Stencil
