import Stencil.Proofs.PieceReading
import Mathlib.Tactic

/-!
# Directives spelled out

A keyword is spelled as its words with a space between them, behind a point.
A substitution is spelled as its name and its formatters, each behind the
separator.  Either is read back as what it was, and under a marker that leaves
the characters of keywords alone it can stand as a directive in a source.
-/

namespace Stencil

/-! ## Spelling -/

def Keyword.words : Keyword → List String
  | .metaLeft => ["meta-left"]
  | .metaRight => ["meta-right"]
  | .space => ["space"]
  | .opening false name => "section" :: name.toList
  | .opening true name => "repeated" :: "section" :: name.toList
  | .alternate => ["alternates", "with"]
  | .otherwise => ["or"]
  | .closing => ["end"]

def Keyword.body (keyword : Keyword) : List Char :=
  '.' :: [' '].intercalate (keyword.words.map String.toList)

def Substitution.body (separator : Char) (substitution : Substitution) :
    List Char :=
  substitution.name.toList ++
    substitution.formatters.flatMap fun formatter =>
      separator :: formatter.name.toList

/-! ## What can be spelled -/

/-- The characters that directives need for themselves, apart from letters. -/
def syntaxCharacters : List Char :=
  ['-', '.', '#', '@', '|', ':', ' ', '\t', '\r', '\n']

def Options.MarkerIsPlain (options : Options) : Prop :=
  ∀ c ∈ options.marker.toList, c.isLower = false ∧ c ∉ syntaxCharacters

instance (options : Options) : Decidable options.MarkerIsPlain :=
  List.decidableBAll _ options.marker.toList

def Options.Avoid (options : Options) (text : String) : Prop :=
  ∀ c ∈ text.toList, c ∉ options.marker.toList

instance (options : Options) (text : String) : Decidable (options.Avoid text) :=
  List.decidableBAll _ text.toList

structure Substitution.Printable (options : Options)
    (substitution : Substitution) : Prop where
  formatters_ne_nil : substitution.formatters ≠ []
  registered : ∀ formatter ∈ substitution.formatters,
    NamedFormatter.find? options.formatters formatter.name = some formatter
  avoid : ∀ text ∈
    substitution.name :: substitution.formatters.map NamedFormatter.name,
      options.Avoid text ∧ options.separator ∉ text.toList ∧ '\n' ∉ text.toList
  substitutes : ∀ c ∈ substitution.name.toList.head?, c ≠ '.' ∧ c ≠ '#'

/-- A space, a tab, a carriage return or a line feed. -/
def IsSeparator (c : Char) : Prop :=
  c = ' ' ∨ c = '\t' ∨ c = '\r' ∨ c = '\n'

instance : DecidablePred IsSeparator := fun c =>
  inferInstanceAs (Decidable (c = ' ' ∨ c = '\t' ∨ c = '\r' ∨ c = '\n'))

/-- The text is read as one word. -/
def IsWord (text : List Char) : Prop :=
  text ≠ [] ∧ ∀ c ∈ text, ¬ IsSeparator c

instance (text : List Char) : Decidable (IsWord text) :=
  have : Decidable (∀ c ∈ text, ¬ IsSeparator c) :=
    List.decidableBAll _ text
  inferInstanceAs (Decidable (text ≠ [] ∧ ∀ c ∈ text, ¬ IsSeparator c))

/-- The name of the section that a keyword opens is one word. -/
def Keyword.Printable (options : Options) : Keyword → Prop
  | .opening _ name => ∀ own ∈ name, IsWord own.toList ∧ options.Avoid own
  | _ => True

/-! ## Reading keywords -/

theorem separatesWords_iff {c : Char} : separatesWords c = true ↔ IsSeparator c := by
  simp [separatesWords, IsSeparator, or_assoc]

theorem Word.splitFrom_separator {c : Char} (hc : IsSeparator c)
    (start position : ℕ) (pending rest : List Char) :
    splitFrom start position pending (c :: rest) =
      close start position pending ++
        splitFrom (position + c.utf8Size) (position + c.utf8Size) [] rest := by
  rw [splitFrom, if_pos (separatesWords_iff.mpr hc)]

theorem Word.splitFrom_letter {c : Char} (hc : ¬ IsSeparator c)
    (start position : ℕ) (pending rest : List Char) :
    splitFrom start position pending (c :: rest) =
      splitFrom start (position + c.utf8Size) (c :: pending) rest := by
  rw [splitFrom, if_neg (mt separatesWords_iff.mp hc)]

theorem Word.splitFrom_word {word : List Char}
    (hword : ∀ c ∈ word, ¬ IsSeparator c) (start position : ℕ)
    (pending rest : List Char) :
    splitFrom start position pending (word ++ rest) =
      splitFrom start (position + byteCount word) (word.reverse ++ pending)
        rest := by
  induction word generalizing position pending with
  | nil => simp
  | cons c more ih =>
      obtain ⟨hc, hmore⟩ := List.forall_mem_cons.mp hword
      rw [List.cons_append, splitFrom_letter hc]
      simp [ih hmore, Nat.add_assoc]

theorem Word.close_reverse {word : List Char} (hword : word ≠ [])
    (start stop : ℕ) : close start stop word.reverse = [⟨word, ⟨start, stop⟩⟩] := by
  unfold close
  split
  next hnil => simp [hword] at hnil
  next hcons => simp

/-- A word in front of a text is split off it, if it ends there. -/
theorem Word.splitFrom_append {own rest : List Char} (hown : IsWord own)
    (hrest : ∀ c ∈ rest.head?, IsSeparator c) (start position : ℕ) :
    splitFrom start position [] (own ++ rest) =
      ⟨own, ⟨start, position + byteCount own⟩⟩ ::
        splitFrom (position + byteCount own) (position + byteCount own) [] rest := by
  rw [splitFrom_word hown.2, List.append_nil]
  cases rest with
  | nil =>
      rw [splitFrom, close_reverse hown.1]
      rfl
  | cons c more =>
      have hc := hrest c rfl
      rw [splitFrom_separator hc, splitFrom_separator hc, close_reverse hown.1]
      rfl

theorem Word.text_splitFrom_intercalate {words : List (List Char)}
    (hwords : ∀ word ∈ words, IsWord word) (start position : ℕ) :
    (splitFrom start position [] ([' '].intercalate words)).map Word.text =
      words := by
  induction words generalizing start position with
  | nil => simp [splitFrom, close]
  | cons word rest ih =>
      obtain ⟨hword, hrest⟩ := List.forall_mem_cons.mp hwords
      cases rest with
      | nil =>
          have hend : ∀ c ∈ ([] : List Char).head?, IsSeparator c := by
            simp
          have hsplit := splitFrom_append hword hend start position
          rw [List.append_nil] at hsplit
          simp [hsplit, splitFrom, close]
      | cons next others =>
          have hspace : IsSeparator ' ' := .inl rfl
          rw [List.intercalate_cons_cons, List.append_assoc,
            List.singleton_append,
            splitFrom_append hword (by simp [hspace]), List.map_cons,
            splitFrom_separator hspace, List.map_append, ih hrest]
          rfl

theorem Token.isWord_of_reserved {word : String}
    (hword : word ∈ reserved.map Prod.fst) : IsWord word.toList := by
  have hspelled : ∀ word ∈ reserved.map Prod.fst, IsWord word.toList := by
    decide
  exact hspelled word hword

theorem Token.text_ofText (text : String) : (ofText text).text = text := by
  have hreserved : ∀ entry ∈ reserved, entry.2.text = entry.1 := by decide
  unfold ofText
  cases hfound : reserved.lookup text with
  | none => rfl
  | some token =>
      obtain ⟨front, back, hsplit, -⟩ := List.lookup_eq_some_iff.mp hfound
      apply hreserved (text, token)
      simp [hsplit]

theorem Token.lex_words {words : List String}
    (hwords : ∀ word ∈ words, IsWord word.toList) :
    (lex ([' '].intercalate (words.map String.toList))).map Prod.fst =
      words.map ofText := by
  have hall : ∀ word ∈ words.map String.toList, IsWord word := by
    intro text htext
    obtain ⟨word, hword, rfl⟩ := List.mem_map.mp htext
    exact hwords word hword
  have hsplit := Word.text_splitFrom_intercalate hall 0 0
  calc (lex ([' '].intercalate (words.map String.toList))).map Prod.fst
      = ((Word.split ([' '].intercalate (words.map String.toList))).map
          Word.text).map fun text => ofText (String.ofList text) := by
        simp [lex]
    _ = (words.map String.toList).map fun text => ofText (String.ofList text) := by
        rw [Word.split, hsplit]
    _ = words.map ofText := by simp

theorem Keyword.ofTokens?_words (keyword : Keyword) :
    ofTokens? (keyword.words.map Token.ofText) = some keyword := by
  cases keyword with
  | opening repeats name =>
      cases name with
      | none => cases repeats <;> rfl
      | some name =>
          have hopens :
              ofTokens? ((words (.opening repeats (some name))).map Token.ofText) =
                some (.opening repeats (some (Token.ofText name).text)) := by
            cases repeats <;> rfl
          rw [hopens, Token.text_ofText]
  | _ => rfl

theorem Keyword.Printable.of_mem_words {options : Options} {keyword : Keyword}
    (hprintable : keyword.Printable options) {word : String}
    (hword : word ∈ keyword.words) :
    word ∈ Token.reserved.map Prod.fst ∨
      (IsWord word.toList ∧ options.Avoid word) := by
  cases keyword with
  | opening repeats name =>
      have hcases : word ∈ ["repeated", "section"] ∨ name = some word := by
        cases repeats with
        | false => simpa [words] using Or.imp_left Or.inr (List.mem_cons.mp hword)
        | true => simpa [words, or_assoc] using hword
      have hreserved : ∀ word ∈ ["repeated", "section"],
          word ∈ Token.reserved.map Prod.fst := by
        decide
      rcases hcases with hspelled | hname
      · exact .inl (hreserved word hspelled)
      · exact .inr (hprintable word hname)
  | _ =>
      left
      revert word
      decide

theorem Keyword.Printable.isWord {options : Options} {keyword : Keyword}
    (hprintable : keyword.Printable options) :
    ∀ word ∈ keyword.words, IsWord word.toList := by
  intro word hword
  rcases hprintable.of_mem_words hword with hreserved | hname
  · exact Token.isWord_of_reserved hreserved
  · exact hname.1

/-- A keyword is read as what it spells, also if a section is named like a
keyword. -/
theorem Keyword.Printable.ofBody {options : Options} {keyword : Keyword}
    (hprintable : keyword.Printable options) :
    Directive.ofBody keyword.body false = .keyword keyword := by
  have hparse : parse? ([' '].intercalate (keyword.words.map String.toList)) =
      some keyword := by
    unfold parse?
    rw [Token.lex_words hprintable.isWord, ofTokens?_words]
  unfold body Directive.ofBody
  simp only [hparse]

/-! ## Reading substitutions -/

theorem pieces_append_of_not_mem {mark : Char} {front : List Char}
    (hfront : mark ∉ front) (rest : List Char) :
    pieces mark (front ++ rest) =
      (front ++ (pieces mark rest).1, (pieces mark rest).2) := by
  induction front with
  | nil => rfl
  | cons c more ih =>
      have hc : c ≠ mark := by
        rintro rfl
        simp at hfront
      have hmore : mark ∉ more := List.not_mem_of_not_mem_cons hfront
      simp [pieces, hc, ih hmore]

theorem pieces_joined {mark : Char} {first : List Char}
    {others : List (List Char)} (hfirst : mark ∉ first)
    (hothers : ∀ text ∈ others, mark ∉ text) :
    pieces mark (first ++ others.flatMap (mark :: ·)) = (first, others) := by
  induction others generalizing first with
  | nil =>
      have hfound := pieces_append_of_not_mem hfirst []
      simpa [pieces] using hfound
  | cons text rest ih =>
      have htext : mark ∉ text := hothers text (by simp)
      have hrest : ∀ text ∈ rest, mark ∉ text := by
        intro other hother
        exact hothers other (List.mem_cons_of_mem text hother)
      rw [pieces_append_of_not_mem hfirst]
      simp [pieces, ih htext hrest]

theorem resolveFormatters_registered {options : Options} (span : Span)
    {formatters : List NamedFormatter}
    (hregistered : ∀ formatter ∈ formatters,
      NamedFormatter.find? options.formatters formatter.name = some formatter) :
    resolveFormatters options span (formatters.map NamedFormatter.name) =
      .ok formatters := by
  induction formatters with
  | nil => rfl
  | cons formatter rest ih =>
      have hfirst := hregistered formatter (by simp)
      have hrest := ih fun other hother =>
        hregistered other (List.mem_cons_of_mem formatter hother)
      rw [List.map_cons, resolveFormatters, resolveFormatter, hfirst, hrest]

section

variable {options : Options} {substitution : Substitution}

theorem Substitution.Printable.read
    (hprintable : substitution.Printable options) (span : Span) :
    readSubstitution options span (substitution.body options.separator) =
      .ok substitution := by
  let names := substitution.formatters.map NamedFormatter.name
  have hname : options.separator ∉ substitution.name.toList :=
    (hprintable.avoid substitution.name (by simp)).2.1
  have hothers : ∀ text ∈ names.map String.toList, options.separator ∉ text := by
    intro text htext
    obtain ⟨name, hmem, rfl⟩ := List.mem_map.mp htext
    exact (hprintable.avoid name (List.mem_cons_of_mem _ hmem)).2.1
  have hbody : substitution.body options.separator = substitution.name.toList ++
      (names.map String.toList).flatMap (options.separator :: ·) := by
    simp [Substitution.body, names, List.flatMap_map]
  have hpieces := pieces_joined hname hothers
  have hresolve : resolveFormatters options span names =
      .ok substitution.formatters :=
    resolveFormatters_registered span hprintable.registered
  obtain ⟨first, rest, hnames⟩ : ∃ first rest, names = first :: rest := by
    apply List.exists_cons_of_ne_nil
    simpa [names] using hprintable.formatters_ne_nil
  have hasked : (first.toList :: rest.map String.toList).map String.ofList =
      first :: rest := by
    simp
  rw [hnames, List.map_cons] at hpieces hbody
  rw [hnames] at hresolve
  rw [hbody]
  unfold readSubstitution
  simp only [hpieces, hasked, hresolve, String.ofList_toList]

theorem Substitution.Printable.ofBody
    (hseparator : options.separator = '|' ∨ options.separator = ':')
    (hprintable : substitution.Printable options) :
    Directive.ofBody (substitution.body options.separator) false =
      .substitution (substitution.body options.separator) false := by
  have hhead : ∀ c ∈ (substitution.body options.separator).head?,
      c ≠ '.' ∧ c ≠ '#' := by
    unfold Substitution.body
    cases hname : substitution.name.toList with
    | cons c more => simpa [hname] using hprintable.substitutes
    | nil =>
        obtain ⟨formatter, rest, hformatters⟩ :=
          List.exists_cons_of_ne_nil hprintable.formatters_ne_nil
        rcases hseparator with hbar | hcolon
        · simp [hformatters, hbar]
        · simp [hformatters, hcolon]
  unfold Directive.ofBody
  split
  next hbody => simp [hbody] at hhead
  next hbody => simp [hbody] at hhead
  next => rfl

end

/-! ## The marker -/

section

variable {options : Options} {delimiters : Delimiters}

theorem Options.halves_of_accepted (haccepted : options.delimiters = .ok delimiters) :
    delimiters.left ++ delimiters.right = options.marker.toList ∧
      delimiters.left ≠ [] ∧ delimiters.right ≠ [] := by
  unfold Options.delimiters at haccepted
  simp only at haccepted
  split at haccepted
  next => contradiction
  next =>
    split at haccepted
    next => contradiction
    next hempty =>
      split at haccepted
      next => contradiction
      next hodd =>
        obtain rfl := Except.ok.inj haccepted
        refine ⟨List.take_append_drop _ _, ?_, ?_⟩
        · apply List.ne_nil_of_length_pos
          rw [List.length_take]
          omega
        · apply List.ne_nil_of_length_pos
          rw [List.length_drop]
          omega

theorem Options.separator_of_accepted
    (haccepted : options.delimiters = .ok delimiters) :
    options.separator = '|' ∨ options.separator = ':' := by
  unfold Options.delimiters at haccepted
  by_contra hother
  have hrefused : options.separator ≠ ':' ∧ options.separator ≠ '|' := by
    tauto
  simp [hrefused] at haccepted

theorem Options.Avoid.halves (haccepted : options.delimiters = .ok delimiters)
    {text : String} (havoid : options.Avoid text) :
    delimiters.Avoid text.toList := by
  intro c hc
  rw [(Options.halves_of_accepted haccepted).1]
  exact havoid c hc

theorem Options.MarkerIsPlain.not_mem (hmarker : options.MarkerIsPlain) {c : Char}
    (hc : c ∈ syntaxCharacters) : c ∉ options.marker.toList := by
  intro hmem
  exact (hmarker c hmem).2 hc

theorem Options.MarkerIsPlain.visible (hmarker : options.MarkerIsPlain)
    (haccepted : options.delimiters = .ok delimiters) : delimiters.Visible := by
  obtain ⟨hhalves, hleft, hright⟩ := Options.halves_of_accepted haccepted
  refine ⟨hleft, hright, ?_⟩
  rw [hhalves]
  exact hmarker.not_mem (by decide)

theorem Options.separator_mem_syntaxCharacters
    (haccepted : options.delimiters = .ok delimiters) :
    options.separator ∈ syntaxCharacters := by
  rcases Options.separator_of_accepted haccepted with hbar | hcolon
  · rw [hbar]
    decide
  · rw [hcolon]
    decide

/-! ## Bodies of directives -/

theorem Options.MarkerIsPlain.avoid_reserved (hmarker : options.MarkerIsPlain)
    {word : String} (hword : word ∈ Token.reserved.map Prod.fst) :
    options.Avoid word := by
  have hspelled : ∀ word ∈ Token.reserved.map Prod.fst,
      word.toList.all (fun c => c.isLower || c == '-') = true := by
    decide
  intro c hc hmem
  have hletter := List.all_eq_true.mp (hspelled word hword) c hc
  have hhyphen : c = '-' := by
    simpa [(hmarker c hmem).1] using hletter
  subst hhyphen
  exact hmarker.not_mem (by decide) hmem

theorem Keyword.Printable.avoid {keyword : Keyword}
    (hprintable : keyword.Printable options) (hmarker : options.MarkerIsPlain) :
    ∀ word ∈ keyword.words, options.Avoid word := by
  intro word hword
  rcases hprintable.of_mem_words hword with hreserved | hname
  · exact hmarker.avoid_reserved hreserved
  · exact hname.2

theorem mem_intercalate {c mark : Char} {texts : List (List Char)}
    (hc : c ∈ [mark].intercalate texts) :
    c = mark ∨ ∃ text ∈ texts, c ∈ text := by
  induction texts with
  | nil => simp at hc
  | cons text rest ih =>
      cases rest with
      | nil => exact .inr ⟨text, by simp, by simpa using hc⟩
      | cons next others =>
          rw [List.intercalate_cons_cons, List.append_assoc, List.mem_append,
            List.mem_append, List.mem_singleton] at hc
          rcases hc with htext | hmark | hothers
          · exact .inr ⟨text, by simp, htext⟩
          · exact .inl hmark
          · rcases ih hothers with hmark | ⟨other, hother, hmem⟩
            · exact .inl hmark
            · exact .inr ⟨other, List.mem_cons_of_mem text hother, hmem⟩

section

variable (haccepted : options.delimiters = .ok delimiters)
    (hmarker : options.MarkerIsPlain)
include haccepted hmarker

theorem Keyword.Printable.isBody {keyword : Keyword}
    (hprintable : keyword.Printable options) :
    Piece.IsBody delimiters keyword.body := by
  have hhalves := (Options.halves_of_accepted haccepted).1
  have hcases : ∀ c ∈ keyword.body, c = '.' ∨ c = ' ' ∨
      ∃ word ∈ keyword.words, c ∈ word.toList := by
    intro c hc
    rcases List.mem_cons.mp hc with hpoint | hc
    · exact .inl hpoint
    · rcases mem_intercalate hc with hspace | ⟨text, htext, hmem⟩
      · exact .inr (.inl hspace)
      · obtain ⟨word, hword, rfl⟩ := List.mem_map.mp htext
        exact .inr (.inr ⟨word, hword, hmem⟩)
  refine ⟨List.cons_ne_nil _ _, ?_, ?_⟩
  · intro hline
    rcases hcases '\n' hline with hpoint | hspace | ⟨word, hword, hmem⟩
    · contradiction
    · contradiction
    · exact (hprintable.isWord word hword).2 '\n' hmem (by decide)
  · intro c hc hmem
    rw [hhalves] at hmem
    rcases hcases c hc with rfl | rfl | ⟨word, hword, hown⟩
    · exact hmarker.not_mem (by decide) hmem
    · exact hmarker.not_mem (by decide) hmem
    · exact hprintable.avoid hmarker word hword c hown hmem

theorem Substitution.Printable.isBody {substitution : Substitution}
    (hprintable : substitution.Printable options) :
    Piece.IsBody delimiters (substitution.body options.separator) := by
  have hhalves := (Options.halves_of_accepted haccepted).1
  have hcases : ∀ c ∈ substitution.body options.separator,
      c = options.separator ∨ ∃ text ∈
        substitution.name :: substitution.formatters.map NamedFormatter.name,
          c ∈ text.toList := by
    intro c hc
    rcases List.mem_append.mp hc with hname | hothers
    · exact .inr ⟨substitution.name, by simp, hname⟩
    · obtain ⟨formatter, hformatter, hmem⟩ := List.mem_flatMap.mp hothers
      rcases List.mem_cons.mp hmem with hmark | hmem
      · exact .inl hmark
      · have hasked := List.mem_map_of_mem (f := NamedFormatter.name) hformatter
        exact .inr ⟨_, List.mem_cons_of_mem _ hasked, hmem⟩
  refine ⟨?_, ?_, ?_⟩
  · obtain ⟨formatter, rest, hformatters⟩ :=
      List.exists_cons_of_ne_nil hprintable.formatters_ne_nil
    simp [Substitution.body, hformatters]
  · intro hline
    rcases hcases '\n' hline with hmark | ⟨text, htext, hmem⟩
    · rcases Options.separator_of_accepted haccepted with hbar | hcolon
      · simp [hbar] at hmark
      · simp [hcolon] at hmark
    · exact (hprintable.avoid text htext).2.2 hmem
  · intro c hc hmem
    rw [hhalves] at hmem
    rcases hcases c hc with rfl | ⟨text, htext, hown⟩
    · have hsyntax := Options.separator_mem_syntaxCharacters haccepted
      exact hmarker.not_mem hsyntax hmem
    · exact (hprintable.avoid text htext).1 c hown hmem

end

end

end Stencil
