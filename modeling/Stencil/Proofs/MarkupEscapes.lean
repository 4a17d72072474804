import Stencil.Text.Html
import Mathlib.Tactic

/-!
# Escaped text

Escaping replaces one character after the other over the whole text, but comes
down to a spelling of each character for itself, since no replacement stops at a
character of an entity that an earlier one has written.  What it gives has no
angle brackets, and each ampersand in it is the first character of an entity.
-/

namespace Stencil.Html

def entities : List (List Char) :=
  ["&amp;".toList, "&lt;".toList, "&gt;".toList, "&quot;".toList]

/-- No angle bracket stands in the text, and no ampersand but at the beginning
of an entity. -/
structure Escaped (text : List Char) : Prop where
  no_less : '<' ∉ text
  no_greater : '>' ∉ text
  ampersand : ∀ rest, '&' :: rest <:+ text →
    ∃ entity ∈ entities, entity <+: '&' :: rest

/-- How a character is written in markup. -/
def spelled : Char → List Char
  | '&' => "&amp;".toList
  | '<' => "&lt;".toList
  | '>' => "&gt;".toList
  | c => [c]

/-- How a character is written between the quotes of an attribute. -/
def spelledInQuotes : Char → List Char
  | '"' => "&quot;".toList
  | c => spelled c

/-! ## Escaped texts -/

theorem escaped_nil : Escaped [] := by
  refine ⟨List.not_mem_nil, List.not_mem_nil, ?_⟩
  intro rest hrest
  simp at hrest

theorem escaped_singleton {c : Char} (hless : c ≠ '<') (hgreater : c ≠ '>')
    (hampersand : c ≠ '&') : Escaped [c] := by
  refine ⟨by simpa using hless.symm, by simpa using hgreater.symm, ?_⟩
  intro rest hrest
  have hmem := hrest.mem List.mem_cons_self
  exact absurd (List.mem_singleton.mp hmem).symm hampersand

theorem Escaped.append {first second : List Char} (hfirst : Escaped first)
    (hsecond : Escaped second) : Escaped (first ++ second) := by
  refine ⟨?_, ?_, ?_⟩
  · simp [hfirst.no_less, hsecond.no_less]
  · simp [hfirst.no_greater, hsecond.no_greater]
  · rintro rest ⟨before, hsplit⟩
    -- An ampersand of the first text begins an entity there, and the same one
    -- with the second text behind it.
    rcases List.append_eq_append_iff.mp hsplit with
      ⟨inner, hinner, hrest⟩ | ⟨inner, -, hinner⟩
    · cases inner with
      | nil => exact hsecond.ampersand rest ⟨[], hrest⟩
      | cons c more =>
          obtain ⟨rfl, hmore⟩ := List.cons.inj hrest
          obtain ⟨entity, hentity, hbegins⟩ :=
            hfirst.ampersand more ⟨before, hinner.symm⟩
          refine ⟨entity, hentity, hbegins.trans ?_⟩
          rw [hrest]
          exact List.prefix_append _ _
    · exact hsecond.ampersand rest ⟨inner, hinner.symm⟩

theorem escaped_of_mem_entities {entity : List Char} (hentity : entity ∈ entities) :
    Escaped entity := by
  have hshape : ∀ entity ∈ entities, '<' ∉ entity ∧ '>' ∉ entity ∧
      '&' ∉ entity.tail := by
    decide
  obtain ⟨hless, hgreater, htail⟩ := hshape entity hentity
  refine ⟨hless, hgreater, ?_⟩
  intro rest hrest
  cases entity with
  | nil => simp at hrest
  | cons c tail =>
      rcases List.suffix_cons_iff.mp hrest with hwhole | hinner
      · exact ⟨c :: tail, hentity, by rw [hwhole]⟩
      · exact absurd (hinner.mem List.mem_cons_self) htail

theorem escaped_flatMap {spell : Char → List Char}
    (hspell : ∀ c, Escaped (spell c)) (text : List Char) :
    Escaped (text.flatMap spell) := by
  induction text with
  | nil => exact escaped_nil
  | cons c rest ih => exact (hspell c).append ih

theorem escaped_spelled (c : Char) : Escaped (spelled c) := by
  fun_cases spelled c with
  | case1 => exact escaped_of_mem_entities (by decide)
  | case2 => exact escaped_of_mem_entities (by decide)
  | case3 => exact escaped_of_mem_entities (by decide)
  | case4 c hampersand hless hgreater =>
      exact escaped_singleton hless hgreater hampersand

theorem escaped_spelledInQuotes (c : Char) : Escaped (spelledInQuotes c) := by
  fun_cases spelledInQuotes c with
  | case1 => exact escaped_of_mem_entities (by decide)
  | case2 c hquote => exact escaped_spelled c

/-! ## Escaping -/

theorem replace_append (c : Char) (entity first second : List Char) :
    replace c entity (first ++ second) =
      replace c entity first ++ replace c entity second :=
  List.flatMap_append

theorem escape_append (first second : List Char) :
    escape (first ++ second) = escape first ++ escape second := by
  simp only [escape, replace_append]

theorem escapeAttribute_append (first second : List Char) :
    escapeAttribute (first ++ second) =
      escapeAttribute first ++ escapeAttribute second := by
  simp only [escapeAttribute, escape_append, replace_append]

theorem replace_singleton_of_ne {c d : Char} (hne : c ≠ d) (entity : List Char) :
    replace d entity [c] = [c] := by
  simp [replace, hne]

theorem escape_singleton (c : Char) : escape [c] = spelled c := by
  fun_cases spelled c with
  | case1 => rfl
  | case2 => rfl
  | case3 => rfl
  | case4 c hampersand hless hgreater =>
      rw [escape, replace_singleton_of_ne hampersand,
        replace_singleton_of_ne hgreater, replace_singleton_of_ne hless]

theorem replace_of_not_mem {c : Char} {entity text : List Char} (htext : c ∉ text) :
    replace c entity text = text := by
  induction text with
  | nil => rfl
  | cons d rest ih =>
      obtain ⟨hd, hrest⟩ := List.ne_and_not_mem_of_not_mem_cons htext
      have hkept : replace c entity (d :: rest) = d :: replace c entity rest := by
        simp [replace, Ne.symm hd]
      rw [hkept, ih hrest]

theorem escapeAttribute_singleton (c : Char) :
    escapeAttribute [c] = spelledInQuotes c := by
  fun_cases spelledInQuotes c with
  | case1 => rfl
  | case2 c hquote =>
      have hnone : '"' ∉ spelled c := by
        fun_cases spelled c with
        | case1 => decide
        | case2 => decide
        | case3 => decide
        | case4 c => simpa using Ne.symm hquote
      rw [escapeAttribute, escape_singleton, replace_of_not_mem hnone]

/-- What respects concatenation treats each character for itself. -/
theorem eq_flatMap_of_append {change : List Char → List Char}
    (hnil : change [] = [])
    (happend : ∀ first second,
      change (first ++ second) = change first ++ change second)
    {spell : Char → List Char} (hspell : ∀ c, change [c] = spell c)
    (text : List Char) : change text = text.flatMap spell := by
  induction text with
  | nil => exact hnil
  | cons c rest ih =>
      have hcons : change (c :: rest) = change [c] ++ change rest :=
        happend [c] rest
      rw [hcons, hspell, ih, List.flatMap_cons]

theorem escape_eq_flatMap (text : List Char) :
    escape text = text.flatMap spelled :=
  eq_flatMap_of_append rfl escape_append escape_singleton text

theorem escapeAttribute_eq_flatMap (text : List Char) :
    escapeAttribute text = text.flatMap spelledInQuotes :=
  eq_flatMap_of_append rfl escapeAttribute_append escapeAttribute_singleton text

theorem escaped_escape (text : List Char) : Escaped (escape text) := by
  rw [escape_eq_flatMap]
  exact escaped_flatMap escaped_spelled text

theorem escaped_escapeAttribute (text : List Char) :
    Escaped (escapeAttribute text) := by
  rw [escapeAttribute_eq_flatMap]
  exact escaped_flatMap escaped_spelledInQuotes text

theorem quote_not_mem_escapeAttribute (text : List Char) :
    '"' ∉ escapeAttribute text := by
  intro hquote
  obtain ⟨c, -, hc⟩ := List.mem_flatMap.mp hquote
  split at hc
  next => simp at hc
  next hother => exact hother (List.mem_singleton.mp hc).symm

end Stencil.Html
