/-!
# Taking a known text off an end

Both functions give what is left when a text begins, or ends, with a given one, and nothing when
it does not.
-/

namespace Stencil

/-- What follows `front` in a text that begins with it. -/
def dropFront? : List Char → List Char → Option (List Char)
  | [], text => some text
  | _ :: _, [] => none
  | c :: front, d :: text => if c = d then dropFront? front text else none

/-- What comes before `back` in a text that ends with it. -/
def dropBack? (back text : List Char) : Option (List Char) :=
  (dropFront? back.reverse text.reverse).map List.reverse

theorem dropFront?_eq_some_iff {front text rest : List Char} :
    dropFront? front text = some rest ↔ text = front ++ rest := by
  induction front generalizing text with
  | nil => simp [dropFront?]
  | cons c front ih =>
    cases text with
    | nil => simp [dropFront?]
    | cons d text =>
      by_cases hsame : c = d
      · simp [dropFront?, hsame, ih]
      · simp [dropFront?, hsame, Ne.symm hsame]

@[simp] theorem dropFront?_append (front rest : List Char) :
    dropFront? front (front ++ rest) = some rest :=
  dropFront?_eq_some_iff.mpr rfl

theorem dropFront?_eq_none_iff {front text : List Char} :
    dropFront? front text = none ↔ ∀ rest, text ≠ front ++ rest := by
  constructor
  · intro hmissing rest htext
    rw [dropFront?_eq_some_iff.mpr htext] at hmissing
    contradiction
  · intro habsent
    cases hfound : dropFront? front text with
    | none => rfl
    | some rest => exact absurd (dropFront?_eq_some_iff.mp hfound) (habsent rest)

theorem dropBack?_eq_some_iff {back text rest : List Char} :
    dropBack? back text = some rest ↔ text = rest ++ back := by
  simp only [dropBack?, Option.map_eq_some_iff, dropFront?_eq_some_iff]
  constructor
  · rintro ⟨reversed, hsplit, rfl⟩
    simpa using congrArg List.reverse hsplit
  · rintro rfl
    exact ⟨rest.reverse, by simp, by simp⟩

@[simp] theorem dropBack?_append (rest back : List Char) :
    dropBack? back (rest ++ back) = some rest :=
  dropBack?_eq_some_iff.mpr rfl

end Stencil
