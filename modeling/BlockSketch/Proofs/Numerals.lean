/-
**Numerals.**

Integers are written with the ten digits of ASCII and are read back as the same integers.  The texts
of all other numbers have a point or an exponent, and nothing else besides digits and signs.

Main definitions:

* `BlockSketch.IsNumeralChar` — the characters of numerals.

Main results:

* `BlockSketch.Text.digitsValue_digitChars` — the digits of a number denote it;
* `BlockSketch.integer?_ofInt`, `BlockSketch.numberText_ofInt` — integers are found among the dyadic
  rationals and written as such;
* `BlockSketch.isNumeralChar_of_mem_numberText` — numerals have no other characters;
* `BlockSketch.numberText_eq_integerText_iff` — no other number is written like an integer.
-/

import BlockSketch.Number.Shortest
import BlockSketch.Text.Digit
import Mathlib.Data.List.Basic

set_option relaxedAutoImplicit false
set_option autoImplicit false

namespace BlockSketch

/-! ### Digits -/

namespace Text

/-- A digit of ASCII has its own value. -/
theorem digitValue?_of_isDigit {c : Char} (h : c.isDigit = true) :
    digitValue? c = some (c.toNat - '0'.toNat) := by
  have hrange : 48 ≤ c.toNat ∧ c.toNat < 58 := by
    have hdigit := Char.isDigit_iff_toNat.1 h
    simp only [Char.reduceToNat] at hdigit
    omega
  simp [digitValue?, digitZeros, hrange.1, hrange.2]

theorem isDigit_of_isDigit {c : Char} (h : c.isDigit = true) : isDigit c = true := by
  rw [isDigit, digitValue?_of_isDigit h, Option.isSome_some]

/-- A row of digits of ASCII has its usual value. -/
theorem digitsValue_eq_ofDigitChars {ds : List Char} (h : ∀ c ∈ ds, c.isDigit = true) :
    digitsValue ds = Nat.ofDigitChars 10 ds 0 := by
  rw [digitsValue, Nat.ofDigitChars_eq_foldl]
  refine List.foldl_ext _ _ 0 fun n c hc => ?_
  rw [digitValue?_of_isDigit (h c hc), Option.getD_some]

end Text

namespace Decimal

theorem isDigit_of_mem_digitChars {n : Nat} {c : Char} (h : c ∈ digitChars n) : c.isDigit = true :=
  Nat.isDigit_of_mem_toDigits (by decide) (by decide) h

theorem digitChars_ne_nil (n : Nat) : digitChars n ≠ [] :=
  Nat.toDigits_ne_nil

theorem length_digitChars_le {n k : Nat} (hk : 0 < k) (h : n < Nat.pow 10 k) :
    (digitChars n).length ≤ k :=
  (Nat.length_toDigits_le_iff (by decide) hk).2 h

end Decimal

/-- The digits of a number denote it. -/
theorem Text.digitsValue_digitChars (n : Nat) : digitsValue (Decimal.digitChars n) = n := by
  rw [digitsValue_eq_ofDigitChars fun c => Decimal.isDigit_of_mem_digitChars]
  exact Nat.ofDigitChars_ten_toDigits

/-! ### Integers -/

/-- An integer is found among the dyadic rationals. -/
theorem integer?_ofInt (n : Int) : integer? (Dyadic.ofInt n) = some n := by
  by_cases hn : n = 0
  · subst hn
    rfl
  · have hrat : (Dyadic.ofIntWithPrec n 0).toRat = n * 2 ^ (-(0 : Int)) :=
      Dyadic.toRat_ofIntWithPrec_eq_mul_two_pow
    rw [Dyadic.ofInt, Dyadic.ofIntWithPrec, dif_neg hn] at *
    -- the odd part times its power of two is the integer, as a rational number at first
    have hk : (0 : Int) - n.trailingZeros ≤ 0 := by omega
    have hneg : -((0 : Int) - n.trailingZeros) = n.trailingZeros := by omega
    rw [Dyadic.toRat_ofOdd_eq_mul_two_pow, hneg, Rat.zpow_natCast] at hrat
    simp only [integer?, hk, if_true, scaleUp, hneg]
    simp at hrat ⊢
    exact_mod_cast hrat

/-- The integer that a dyadic rational is determines it. -/
theorem eq_ofInt_of_integer? {x : Dyadic} {n : Int} (h : integer? x = some n) :
    x = Dyadic.ofInt n := by
  cases x with
  | zero =>
      obtain rfl : 0 = n := Option.some.inj h
      rfl
  | ofOdd m k hm =>
      rw [integer?] at h
      split at h
      · rename_i hk
        obtain rfl := Option.some.inj h
        obtain ⟨e, he⟩ : ∃ e : Nat, -k = e := ⟨(-k).toNat, by omega⟩
        rw [← Dyadic.toRat_inj, Dyadic.ofInt, Dyadic.toRat_ofIntWithPrec_eq_mul_two_pow,
          Dyadic.toRat_ofOdd_eq_mul_two_pow, he, Rat.zpow_natCast]
        simp [scaleUp]
      · cases h

/-- An integer is written without a point. -/
theorem numberText_ofInt (n : Int) : numberText (Dyadic.ofInt n) = integerText n := by
  rw [numberText, integer?_ofInt]

theorem integerText_toList (n : Int) :
    (integerText n).toList = (if n < 0 then ['-'] else []) ++ Decimal.digitChars n.natAbs := by
  rw [integerText, String.toList_ofList]

/-! ### Characters -/

/-- The characters of numerals. -/
def IsNumeralChar (c : Char) : Prop :=
  c.isDigit = true ∨ c ∈ ['-', '+', '.', 'e']

namespace Decimal

/-- The digits of a decimal, without zeros at the end, are digits. -/
theorem isDigit_of_mem_pointed {d : Decimal} {c : Char} (h : c ∈ d.pointed.1) :
    c.isDigit = true := by
  rw [pointed, List.mem_reverse] at h
  have hmem := (List.dropWhile_sublist _).subset h
  exact isDigit_of_mem_digitChars (List.mem_reverse.1 hmem)

theorem isNumeralChar_of_mem_exponentChars {e : Int} {c : Char} (h : c ∈ exponentChars e) :
    IsNumeralChar c := by
  unfold exponentChars at h
  dsimp only at h
  rcases List.mem_append.1 h with h | h
  · right
    split at h <;> simp only [List.mem_cons, List.not_mem_nil] at h ⊢ <;> tauto
  · left
    split at h
    · rcases List.mem_cons.1 h with rfl | h
      · rfl
      · exact isDigit_of_mem_digitChars h
    · exact isDigit_of_mem_digitChars h

theorem isNumeralChar_of_mem_text {d : Decimal} : ∀ c ∈ d.text, IsNumeralChar c := by
  have hpointed : ∀ c ∈ d.pointed.1, IsNumeralChar c := fun c hc =>
    Or.inl (isDigit_of_mem_pointed hc)
  have hzero : IsNumeralChar '0' := Or.inl rfl
  have hpoint : IsNumeralChar '.' := Or.inr (by decide)
  have hzeros (n : Nat) : ∀ c ∈ List.replicate n '0', IsNumeralChar c := by
    intro c hc
    rw [List.eq_of_mem_replicate hc]
    exact hzero
  unfold text
  generalize d.pointed = p at hpointed
  obtain ⟨ds, point⟩ := p
  dsimp only at hpointed ⊢
  split
  · split
    · simp only [List.forall_mem_append, List.forall_mem_cons]
      exact ⟨⟨⟨hzero, hpoint, by simp⟩, hzeros _⟩, hpointed⟩
    · split
      · simp only [List.forall_mem_append, List.forall_mem_cons]
        exact ⟨⟨hpointed, hzeros _⟩, hpoint, hzero, by simp⟩
      · simp only [List.forall_mem_append, List.forall_mem_cons]
        exact ⟨⟨fun c hc => hpointed c (List.mem_of_mem_take hc), hpoint, by simp⟩,
          fun c hc => hpointed c (List.mem_of_mem_drop hc)⟩
  · split
    · simp only [List.forall_mem_cons]
      exact ⟨hzero, hpoint, hzero, by simp⟩
    · rw [List.forall_mem_cons]
      exact ⟨hpointed _ (by simp), fun c => isNumeralChar_of_mem_exponentChars⟩
    · simp only [List.forall_mem_append, List.forall_mem_cons] at hpointed ⊢
      exact ⟨⟨hpointed.1, hpoint, hpointed.2⟩, fun c => isNumeralChar_of_mem_exponentChars⟩

end Decimal

theorem isNumeralChar_of_mem_integerText {n : Int} {c : Char} (h : c ∈ (integerText n).toList) :
    IsNumeralChar c := by
  rw [integerText_toList] at h
  rcases List.mem_append.1 h with h | h
  · split at h
    · rw [List.mem_singleton.1 h]
      exact Or.inr (by decide)
    · simp at h
  · exact Or.inl (Decimal.isDigit_of_mem_digitChars h)

/-- Numerals have no other characters. -/
theorem isNumeralChar_of_mem_numberText {x : Dyadic} {c : Char} (h : c ∈ (numberText x).toList) :
    IsNumeralChar c := by
  unfold numberText at h
  split at h
  · exact isNumeralChar_of_mem_integerText h
  · rw [String.toList_ofList] at h
    unfold dyadicChars at h
    split at h
    · simp only [List.mem_cons, List.not_mem_nil, or_false] at h
      rcases h with rfl | rfl | rfl
      · exact Or.inl rfl
      · exact Or.inr (by decide)
      · exact Or.inl rfl
    · rcases List.mem_append.1 h with h | h
      · split at h
        · rw [List.mem_singleton.1 h]
          exact Or.inr (by decide)
        · simp at h
      · exact Decimal.isNumeralChar_of_mem_text c h

/-! ### Texts of integers -/

theorem minus_mem_integerText_iff {n : Int} : '-' ∈ (integerText n).toList ↔ n < 0 := by
  have hdigits : '-' ∉ Decimal.digitChars n.natAbs := fun h =>
    absurd (Decimal.isDigit_of_mem_digitChars h) (by decide)
  rw [integerText_toList, List.mem_append, or_iff_left hdigits]
  split <;> simp_all

/-- The text of an integer determines it. -/
theorem integerText_inj {n m : Int} (h : integerText n = integerText m) : n = m := by
  have hsign : n < 0 ↔ m < 0 := by
    rw [← minus_mem_integerText_iff, h, minus_mem_integerText_iff]
  have hlist := congrArg String.toList h
  simp only [integerText_toList, hsign, List.append_cancel_left_eq] at hlist
  have habs : n.natAbs = m.natAbs := by
    rw [← Text.digitsValue_digitChars n.natAbs, hlist, Text.digitsValue_digitChars]
  omega

/-- The text of a decimal has a point or an exponent. -/
theorem Decimal.point_or_exponent_mem_text (d : Decimal) : '.' ∈ d.text ∨ 'e' ∈ d.text := by
  unfold Decimal.text
  dsimp only
  split
  · left
    split
    · simp
    · split <;> simp
  · split
    · simp
    · simp [Decimal.exponentChars]
    · simp [Decimal.exponentChars]

theorem exists_mem_dyadicChars (x : Dyadic) : ∃ c ∈ dyadicChars x, c = '.' ∨ c = 'e' := by
  cases x with
  | zero => exact ⟨'.', by decide, .inl rfl⟩
  | ofOdd n k hn =>
      rcases (Magnitude.ofDyadic (.ofOdd n k hn)).shortest.point_or_exponent_mem_text with h | h
      · exact ⟨'.', List.mem_append_right _ h, .inl rfl⟩
      · exact ⟨'e', List.mem_append_right _ h, .inr rfl⟩

/-- No other number is written like an integer. -/
theorem numberText_eq_integerText_iff {x : Dyadic} {n : Int} :
    numberText x = integerText n ↔ x = Dyadic.ofInt n := by
  refine ⟨fun h => ?_, fun h => by rw [h, numberText_ofInt]⟩
  unfold numberText at h
  split at h
  · rename_i m hm
    rw [← integerText_inj h]
    exact eq_ofInt_of_integer? hm
  · obtain ⟨c, hc, hmark⟩ := exists_mem_dyadicChars x
    rw [← String.toList_ofList (l := dyadicChars x), h, integerText_toList, List.mem_append] at hc
    rcases hc with hc | hc
    · split at hc <;> rcases hmark with rfl | rfl <;> simp at hc
    · have hdigit := Decimal.isDigit_of_mem_digitChars hc
      rcases hmark with rfl | rfl <;> cases hdigit

end BlockSketch
