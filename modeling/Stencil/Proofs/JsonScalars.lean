import Stencil.Json.Reader
import Stencil.Json.Writer
import Mathlib.Tactic

/-!
# JSON strings and integers read back

What is written for a string and for an integer, in front of any other text, is
read as that string or integer and leaves that text.  The text behind an integer
may be any that does not go on with the number.

The reader keeps exact what fits 64 bits, without a sign or with one.  Negative
integers never are minus zero, which would be a double, and so every 64-bit
integer comes back as the same one.
-/

namespace Stencil.Json

/-! ## Strings -/

theorem unit?_digitChars :
    ∀ code < 32,
      unit? '0' '0' (Nat.digitChar (code / 16)) (Nat.digitChar (code % 16)) =
        some code := by
  decide

theorem readString_control {c : Char} (hcontrol : c.toNat < 32)
    (seen rest : List Char) :
    readString seen ('\\' :: 'u' :: '0' :: '0' :: Nat.digitChar (c.toNat / 16) ::
      Nat.digitChar (c.toNat % 16) :: rest) = readString (c :: seen) rest := by
  have hhigh : isHighHalf c.toNat = false := by
    simp only [isHighHalf, Bool.and_eq_false_iff, decide_eq_false_iff_not]
    omega
  have hlow : isLowHalf c.toNat = false := by
    simp only [isLowHalf, Bool.and_eq_false_iff, decide_eq_false_iff_not]
    omega
  rw [readString.eq_def]
  simp [unit?_digitChars _ hcontrol, hhigh, hlow]

theorem readString_short {e meant : Char} (hmeant : shortEscape? e = some meant)
    (seen rest : List Char) :
    readString seen ('\\' :: e :: rest) = readString (meant :: seen) rest := by
  have hcode : e ≠ 'u' := by
    rintro rfl
    contradiction
  rw [readString.eq_def]
  simp [hcode, hmeant]

theorem readString_plain {c : Char} (hquote : c ≠ '"') (hslash : c ≠ '\\')
    (hcontrol : ¬ c.toNat < 32) (seen rest : List Char) :
    readString seen (c :: rest) = readString (c :: seen) rest := by
  rw [readString.eq_def]
  simp only [if_neg hquote, if_neg hslash, if_neg hcontrol]

theorem readString_quote (seen rest : List Char) :
    readString seen ('"' :: rest) = some (seen.reverse, rest) := by
  rw [readString.eq_def]
  simp only [if_true]

theorem readString_escape (c : Char) (seen rest : List Char) :
    readString seen (escape c ++ rest) = readString (c :: seen) rest := by
  unfold escape
  split
  next hmark =>
    refine readString_short ?_ seen rest
    simp only [Bool.or_eq_true, decide_eq_true_eq] at hmark
    rcases hmark with rfl | rfl <;> rfl
  split
  next hline => exact readString_short (by rw [hline]; rfl) seen rest
  split
  next hreturn => exact readString_short (by rw [hreturn]; rfl) seen rest
  split
  next htab => exact readString_short (by rw [htab]; rfl) seen rest
  split
  next hback =>
    exact readString_short (by rw [← Char.ofNat_toNat c, hback]; rfl) seen rest
  split
  next hfeed =>
    exact readString_short (by rw [← Char.ofNat_toNat c, hfeed]; rfl) seen rest
  split
  next hcontrol => exact readString_control hcontrol seen rest
  next hmark _ _ _ _ _ hcontrol =>
    simp only [Bool.or_eq_true, decide_eq_true_eq, not_or] at hmark
    exact readString_plain hmark.1 hmark.2 hcontrol seen rest

theorem readString_flatMap_escape (text seen rest : List Char) :
    readString seen (text.flatMap escape ++ '"' :: rest) =
      some (seen.reverse ++ text, rest) := by
  induction text generalizing seen with
  | nil =>
      rw [List.flatMap_nil, List.nil_append, readString_quote, List.append_nil]
  | cons c text ih =>
      rw [List.flatMap_cons, List.append_assoc, readString_escape, ih,
        List.reverse_cons, List.append_assoc, List.singleton_append]

theorem quote_append (text rest : List Char) :
    quote text ++ rest = '"' :: (text.flatMap escape ++ '"' :: rest) := by
  simp [quote]

/-! ## Integers -/

/-- A text that does not go on with a number before it. -/
def EndsNumber (rest : List Char) : Prop :=
  ∀ c ∈ rest.head?, c.isDigit = false ∧ c ≠ '.' ∧ c ≠ 'e' ∧ c ≠ 'E'

theorem endsNumber_nil : EndsNumber [] := by
  simp [EndsNumber]

theorem endsNumber_cons {c : Char} {rest : List Char} :
    EndsNumber (c :: rest) ↔ c.isDigit = false ∧ c ≠ '.' ∧ c ≠ 'e' ∧ c ≠ 'E' := by
  simp [EndsNumber]

namespace EndsNumber

variable {rest : List Char}

theorem spanDigits_append (hrest : EndsNumber rest) {digits : List Char}
    (hdigits : ∀ c ∈ digits, c.isDigit = true) :
    spanDigits (digits ++ rest) = (digits, rest) := by
  unfold spanDigits
  rw [List.span_eq_takeWhile_dropWhile, List.takeWhile_append_of_pos hdigits,
    List.dropWhile_append_of_pos hdigits]
  cases rest with
  | nil => simp
  | cons c rest => simp [(endsNumber_cons.mp hrest).1]

theorem readFraction_eq (hrest : EndsNumber rest) :
    readFraction rest = some (none, rest) := by
  unfold readFraction
  split
  next => exact absurd rfl (endsNumber_cons.mp hrest).2.1
  next => rfl

theorem readExponent_eq (hrest : EndsNumber rest) :
    readExponent rest = some (none, rest) := by
  cases rest with
  | nil => rfl
  | cons c rest =>
      obtain ⟨-, -, hsmall, hlarge⟩ := endsNumber_cons.mp hrest
      simp [readExponent, hsmall, hlarge]

end EndsNumber

theorem naturalDigits_eq_cons {n : ℕ} (hn : 0 < n) :
    ∃ c rest, naturalDigits n = c :: rest ∧ c.isDigit = true ∧ c ≠ '0' := by
  unfold naturalDigits
  induction n using Nat.strong_induction_on with
  | _ n ih =>
    by_cases hlast : n < 10
    · refine ⟨n.digitChar, [], Nat.toDigits_of_lt_base hlast, ?_, ?_⟩
      · rw [Nat.isDigit_digitChar, decide_eq_true hlast]
      · exact fun hzero => hn.ne' (Nat.digitChar_eq_zero.mp hzero)
    · obtain ⟨c, rest, hfront, hc⟩ := ih (n / 10) (by omega) (by omega)
      refine ⟨c, rest ++ [(n % 10).digitChar], ?_, hc⟩
      rw [Nat.toDigits_of_base_le (by omega) (by omega), hfront, List.cons_append]

theorem isDigit_of_mem_naturalDigits {n : ℕ} {c : Char}
    (hmem : c ∈ naturalDigits n) : c.isDigit = true :=
  Nat.isDigit_of_mem_toDigits (by omega) le_rfl hmem

theorem readWhole_naturalDigits (n : ℕ) {rest : List Char}
    (hrest : EndsNumber rest) :
    readWhole (naturalDigits n ++ rest) = some (naturalDigits n, rest) := by
  rcases Nat.eq_zero_or_pos n with rfl | hn
  · cases rest with
    | nil => rfl
    | cons c rest =>
        have hc := (endsNumber_cons.mp hrest).1
        simp [naturalDigits, readWhole, hc]
  · have hspan : spanDigits (naturalDigits n ++ rest) = (naturalDigits n, rest) :=
      hrest.spanDigits_append fun c => isDigit_of_mem_naturalDigits
    obtain ⟨c, digits, hdigits, -, hzero⟩ := naturalDigits_eq_cons hn
    rw [hdigits, List.cons_append] at hspan ⊢
    unfold readWhole
    split
    next heq => exact absurd (List.cons.inj heq).1 hzero
    next => rw [hspan]

theorem packDigits_eq {digits : List Char} {word : ℕ}
    (hfits : Nat.ofDigitChars 10 digits word < 2 ^ 64) :
    packDigits word digits = (Nat.ofDigitChars 10 digits word, []) := by
  induction digits generalizing word with
  | nil => rfl
  | cons c rest ih =>
      have hnext : 10 * word + (c.toNat - '0'.toNat) = word * 10 + digitValue c := by
        rw [digitValue, Nat.mul_comm]
      rw [Nat.ofDigitChars_cons, hnext] at hfits ⊢
      have hbefore : word * 10 + digitValue c < 2 ^ 64 := by
        refine lt_of_le_of_lt ?_ hfits
        rw [Nat.ofDigitChars_eq_ofDigitChars_zero]
        exact le_add_right (Nat.le_mul_of_pos_left _ (by positivity))
      rw [packDigits]
      simp only [Nat.pow_eq]
      rw [if_pos hbefore, ih hfits]

theorem packDigits_naturalDigits {n : ℕ} (hn : n < 2 ^ 64) :
    packDigits 0 (naturalDigits n) = (n, []) := by
  have hvalue : Nat.ofDigitChars 10 (naturalDigits n) 0 = n :=
    Nat.ofDigitChars_ten_toDigits
  rw [packDigits_eq (by rwa [hvalue]), hvalue]

/-- The number of a JSON text that an integer is written as. -/
def Number.ofInteger (n : Int64) : Number :=
  match n.toInt with
  | .ofNat m => .natural (UInt64.ofNat m)
  | .negSucc _ => .negative n

theorem Number.toValue_ofInteger (n : Int64) :
    (Number.ofInteger n).toValue = .integer n := by
  have hinteger : (Number.ofInteger n).integer? = some n := by
    unfold ofInteger
    split
    next m hm =>
      have hsmall : m < 2 ^ 63 := by
        have hlimit := Int64.toInt_lt n
        rw [hm, Int.ofNat_eq_natCast] at hlimit
        exact_mod_cast hlimit
      have hword : (UInt64.ofNat m).toNat = m := by
        rw [UInt64.toNat_ofNat', Nat.mod_eq_of_lt (by omega)]
      have hback : Int64.ofInt (m : ℤ) = n := by
        rw [← Int64.ofInt_toInt n, hm, Int.ofNat_eq_natCast]
      simp only [integer?, hword, Nat.pow_eq, if_pos hsmall, hback]
    next => rfl
  unfold toValue
  rw [hinteger]

theorem numberOfParts_ofNat {m : ℕ} (hm : m < 2 ^ 64) :
    numberOfParts false (naturalDigits m) none none =
      some (.natural (UInt64.ofNat m)) := by
  simp [numberOfParts, packDigits_naturalDigits hm]

theorem numberOfParts_negSucc {m : ℕ} (hm : m < 2 ^ 63) :
    numberOfParts true (naturalDigits (m + 1)) none none =
      some (.negative (Int64.ofInt (Int.negSucc m))) := by
  have hfits : m + 1 < 2 ^ 64 := by omega
  have hsize : m < 9223372036854775808 := by simpa using hm
  simp [numberOfParts, packDigits_naturalDigits hfits, hsize, Int.negSucc_eq]

theorem readNumber_integerDigits (n : Int64) {rest : List Char}
    (hrest : EndsNumber rest) :
    readNumber (integerDigits n.toInt ++ rest) =
      some (Number.ofInteger n, rest) := by
  unfold Number.ofInteger
  cases hn : n.toInt with
  | ofNat m =>
      have hm : m < 2 ^ 64 := by
        have hlimit := Int64.toInt_lt n
        rw [hn, Int.ofNat_eq_natCast] at hlimit
        omega
      simp only [integerDigits, readNumber]
      split
      next heq =>
        -- The first character is a digit and no sign.
        obtain ⟨c, digits, hdigits⟩ :=
          List.exists_cons_of_ne_nil (Nat.toDigits_ne_nil (n := m) (b := 10))
        have hdigit : c.isDigit = true :=
          isDigit_of_mem_naturalDigits (hdigits ▸ List.mem_cons_self)
        rw [naturalDigits, hdigits, List.cons_append] at heq
        rw [(List.cons.inj heq).1] at hdigit
        contradiction
      next =>
        simp [readWhole_naturalDigits m hrest, hrest.readFraction_eq,
          hrest.readExponent_eq, numberOfParts_ofNat hm]
  | negSucc m =>
      have hm : m < 2 ^ 63 := by
        have hlimit := Int64.le_toInt n
        rw [hn] at hlimit
        omega
      have hback : Int64.ofInt (Int.negSucc m) = n := by
        rw [← hn, Int64.ofInt_toInt]
      simp [integerDigits, readNumber, readWhole_naturalDigits (m + 1) hrest,
        hrest.readFraction_eq, hrest.readExponent_eq, numberOfParts_negSucc hm, hback]

end Stencil.Json
