import Stencil.Formatter
import Stencil.Proofs.MarkupEscapes
import Mathlib.Tactic

/-!
# Reading escaped text back

An escaped text can be read back from left to right.  Every ampersand in it
begins the entity of one character, also where the text held entities before it
was escaped, or pieces of them: the ampersands of these are spelled out as well.
-/

namespace Stencil.Html

/-- The text with the entities in it read, from left to right. -/
def decode : List Char → List Char
  | '&' :: 'a' :: 'm' :: 'p' :: ';' :: rest => '&' :: decode rest
  | '&' :: 'l' :: 't' :: ';' :: rest => '<' :: decode rest
  | '&' :: 'g' :: 't' :: ';' :: rest => '>' :: decode rest
  | '&' :: 'q' :: 'u' :: 'o' :: 't' :: ';' :: rest => '"' :: decode rest
  | c :: rest => c :: decode rest
  | [] => []

theorem decode_cons {c : Char} (hc : c ≠ '&') (rest : List Char) :
    decode (c :: rest) = c :: decode rest := by
  simp [decode, hc]

theorem decode_spelled (c : Char) (rest : List Char) :
    decode (spelled c ++ rest) = c :: decode rest := by
  fun_cases spelled c with
  | case1 => rfl
  | case2 => rfl
  | case3 => rfl
  | case4 c hampersand hless hgreater => exact decode_cons hampersand rest

theorem decode_spelledInQuotes (c : Char) (rest : List Char) :
    decode (spelledInQuotes c ++ rest) = c :: decode rest := by
  fun_cases spelledInQuotes c with
  | case1 => rfl
  | case2 c hquote => exact decode_spelled c rest

theorem decode_flatMap {spell : Char → List Char}
    (hspell : ∀ c rest, decode (spell c ++ rest) = c :: decode rest)
    (text : List Char) : decode (text.flatMap spell) = text := by
  induction text with
  | nil => rfl
  | cons c rest ih => rw [List.flatMap_cons, hspell, ih]

end Stencil.Html

namespace Stencil

def htmlDecode (text : String) : String :=
  String.ofList (Html.decode text.toList)

/-- An escape spells each character of a text for itself.  Hence it goes along
with concatenation, and what it gives can be read back. -/
structure Spells (spell : Char → List Char) (escape : String → String) :
    Prop where
  single_pass : ∀ text, escape text = String.ofList (text.toList.flatMap spell)
  append : ∀ first second,
    escape (first ++ second) = escape first ++ escape second
  decoded : ∀ text, htmlDecode (escape text) = text
  injective : Function.Injective escape

theorem Spells.of_single_pass {spell : Char → List Char}
    {escape : String → String}
    (hpass : ∀ text, escape text = String.ofList (text.toList.flatMap spell))
    (hspell : ∀ c rest,
      Html.decode (spell c ++ rest) = c :: Html.decode rest) :
    Spells spell escape := by
  have hdecoded : Function.LeftInverse htmlDecode escape := by
    intro text
    rw [hpass, htmlDecode, String.toList_ofList, Html.decode_flatMap hspell,
      String.ofList_toList]
  refine ⟨hpass, ?_, hdecoded, hdecoded.injective⟩
  intro first second
  rw [hpass, hpass, hpass, String.toList_append, List.flatMap_append,
    String.ofList_append]

/-- Both escapes are one spelling of characters, and no two texts escape to the
same one. -/
theorem html_escapes_spell :
    Spells Html.spelled htmlEscape ∧
      Spells Html.spelledInQuotes htmlTagEscape := by
  constructor
  · apply Spells.of_single_pass _ Html.decode_spelled
    intro text
    rw [htmlEscape, Html.escape_eq_flatMap]
  · apply Spells.of_single_pass _ Html.decode_spelledInQuotes
    intro text
    rw [htmlTagEscape, Html.escapeAttribute_eq_flatMap]

/-- A text that holds entities already, and a piece of one. -/
example : htmlDecode (htmlTagEscape "&lt;\"&am&amp") = "&lt;\"&am&amp" := by
  decide

end Stencil
