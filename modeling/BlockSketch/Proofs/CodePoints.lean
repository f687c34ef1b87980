/-
**Code points and the characters that hold them.**

A text holds each of its code points by one or two characters.  The code points can be read back from
them, so that different rows of code points are held by different texts, and a row that comes before
another is held by a text that comes before the other.  The characters beyond those of code points
themselves are no blanks, no letters and no digits, so that nothing is ever trimmed or cut there.

A text has bytes exactly if it holds no surrogate.  If it holds some, the fault that is reported is the
first row of them.

Main definitions:

* `BlockSketch.Text.HasSurrogate` — a text holds a surrogate;
* `BlockSketch.Utf8.EncodeFault.Locates` — a fault is the first row of surrogates among code points.

Main results:

* `BlockSketch.Text.codes_flatMap_held` — **the code points of a text can be read back**;
* `BlockSketch.Text.flatMap_held_lt` — **texts sort as their code points do**;
* `BlockSketch.Text.inert_of_mem_held` — marks and stand-ins are no blanks, letters or digits;
* `BlockSketch.Utf8.encode?_of_not_hasSurrogate`, `BlockSketch.Utf8.encode?_of_hasSurrogate` — which texts
  have bytes.
-/

import BlockSketch.Text.Blank
import BlockSketch.Text.Digit
import BlockSketch.Text.Utf8
import Mathlib.Data.List.TakeWhile

set_option relaxedAutoImplicit false
set_option autoImplicit false

namespace BlockSketch

namespace Text

/-! ### Holding a code point -/

section Held

variable {n m : Nat}

theorem isSurrogate_iff : isSurrogate n = true ↔ 0xD800 ≤ n ∧ n < 0xE000 := by
  simp [isSurrogate]

theorem toNat_ofNat (h : n.isValidChar) : (Char.ofNat n).toNat = n := by
  rw [Char.ofNat, dif_pos h]
  rfl

/-- No character is a surrogate. -/
theorem isSurrogate_toNat (c : Char) : isSurrogate c.toNat = false := by
  have hvalid : c.toNat.isValidChar := c.valid
  rw [← Bool.not_eq_true, isSurrogate_iff]
  unfold Nat.isValidChar at hvalid
  omega

/-- A code point from the mark to the last surrogate is held by the mark and another character. -/
theorem held_of_special (hlow : 0xD7FF ≤ n) (hhigh : n < 0xE000) :
    ∃ c, held n = [mark, c] ∧ c.toNat = (if n = 0xD7FF then n else n + 0x800) := by
  rw [held]
  split
  case isTrue hs =>
    have hn := isSurrogate_iff.1 hs
    refine ⟨_, rfl, ?_⟩
    rw [if_neg (by omega), toNat_ofNat (Or.inr (by rw [standInDistance]; omega)), standInDistance]
  case isFalse hs =>
    rw [isSurrogate_iff] at hs
    obtain rfl : n = 0xD7FF := by omega
    exact ⟨mark, if_pos rfl, rfl⟩

/-- Every other code point is held by its own character. -/
theorem held_of_plain (h : n < 0xD7FF ∨ 0xE000 ≤ n) (hn : n < 0x110000) :
    ∃ c, held n = [c] ∧ c.toNat = n := by
  have hs : ¬isSurrogate n = true := by
    rw [isSurrogate_iff]
    omega
  have hmark : n ≠ mark.toNat := by
    rw [show mark.toNat = 0xD7FF from rfl]
    omega
  refine ⟨Char.ofNat n, by rw [held, if_neg hs, if_neg hmark], toNat_ofNat ?_⟩
  unfold Nat.isValidChar
  omega

/-- A code point is read back from the characters that hold it. -/
theorem codes_held_append (hn : n < 0x110000) (cs : List Char) :
    codes (held n ++ cs) = n :: codes cs := by
  by_cases h : n < 0xD7FF ∨ 0xE000 ≤ n
  · obtain ⟨c, hc, hcn⟩ := held_of_plain h hn
    have hmark : c ≠ mark := by
      rintro rfl
      rw [show mark.toNat = 0xD7FF from rfl] at hcn
      omega
    rw [hc, List.singleton_append]
    cases cs with
    | nil => rw [codes, codes, hcn]
    | cons d cs => rw [codes, if_neg hmark, hcn]
  · obtain ⟨c, hc, hcn⟩ := held_of_special (n := n) (by omega) (by omega)
    have hafter : afterMarkCode? c = some n := by
      rw [afterMarkCode?]
      split at hcn
      case isTrue hn =>
        obtain rfl : c = mark := Char.toNat_inj.1 (hcn.trans hn)
        rw [if_pos rfl, ← hcn]
      case isFalse hn =>
        have hne : c ≠ mark := by
          rintro rfl
          rw [show mark.toNat = 0xD7FF from rfl] at hcn
          omega
        have hcode : c.toNat - standInDistance = n := by
          rw [hcn, standInDistance, Nat.add_sub_cancel]
        rw [if_neg hne, hcode, if_pos (isSurrogate_iff.2 (by omega))]
    rw [hc, List.cons_append, List.singleton_append, codes, if_pos rfl, hafter]

/-- **The code points of a text can be read back.** -/
theorem codes_flatMap_held {ns : List Nat} (hns : ∀ n ∈ ns, n < 0x110000) :
    codes (ns.flatMap held) = ns := by
  induction ns with
  | nil => rfl
  | cons n ns ih =>
      rw [List.flatMap_cons, codes_held_append (hns n List.mem_cons_self),
        ih fun m hm => hns m (List.mem_cons_of_mem n hm)]

end Held

/-! ### Order -/

section Order

variable {n m : Nat}

theorem char_lt_of_toNat_lt {c d : Char} (h : c.toNat < d.toNat) : c < d :=
  Char.lt_def.2 (UInt32.lt_iff_toNat_lt.2 h)

/-- A lower code point is held by characters that come first, whatever follows. -/
theorem held_append_lt (h : n < m) (hm : m < 0x110000) (s t : List Char) :
    held n ++ s < held m ++ t := by
  have hmark : mark.toNat = 0xD7FF := rfl
  by_cases hn' : n < 0xD7FF ∨ 0xE000 ≤ n
  · obtain ⟨c, hc, hcn⟩ := held_of_plain hn' (Nat.lt_trans h hm)
    by_cases hm' : m < 0xD7FF ∨ 0xE000 ≤ m
    · obtain ⟨d, hd, hdm⟩ := held_of_plain hm' hm
      rw [hc, hd]
      exact List.cons_lt_cons_iff.2 (Or.inl (char_lt_of_toNat_lt (by omega)))
    · obtain ⟨d, hd, -⟩ := held_of_special (n := m) (by omega) (by omega)
      rw [hc, hd]
      exact List.cons_lt_cons_iff.2 (Or.inl (char_lt_of_toNat_lt (by omega)))
  · obtain ⟨c, hc, hcn⟩ := held_of_special (n := n) (by omega) (by omega)
    by_cases hm' : m < 0xD7FF ∨ 0xE000 ≤ m
    · obtain ⟨d, hd, hdm⟩ := held_of_plain hm' hm
      rw [hc, hd]
      exact List.cons_lt_cons_iff.2 (Or.inl (char_lt_of_toNat_lt (by omega)))
    · -- both begin with the mark, and what follows it is in order
      obtain ⟨d, hd, hdm⟩ := held_of_special (n := m) (by omega) (by omega)
      have hcd : c.toNat < d.toNat := by
        rw [hcn, hdm]
        split <;> split <;> omega
      rw [hc, hd]
      exact List.cons_lt_cons_iff.2
        (Or.inr ⟨rfl, List.cons_lt_cons_iff.2 (Or.inl (char_lt_of_toNat_lt hcd))⟩)

/-- **Texts sort as their code points do.** -/
theorem flatMap_held_lt {ns ms : List Nat} (hms : ∀ m ∈ ms, m < 0x110000) (h : ns < ms) :
    ns.flatMap held < ms.flatMap held := by
  induction h with
  | @nil m ms =>
      rw [List.flatMap_cons]
      obtain ⟨c, cs, hc⟩ : ∃ c cs, held m = c :: cs := by
        rw [held]
        split
        · exact ⟨_, _, rfl⟩
        · split <;> exact ⟨_, _, rfl⟩
      rw [hc]
      exact List.nil_lt_cons _ _
  | rel hlt =>
      rw [List.flatMap_cons, List.flatMap_cons]
      exact held_append_lt hlt (hms _ List.mem_cons_self) _ _
  | cons _ ih =>
      rw [List.flatMap_cons, List.flatMap_cons]
      exact List.append_left_lt (ih fun m hm => hms m (List.mem_cons_of_mem _ hm))

end Order

/-! ### Classes of characters -/

/-- The mark and the stand-ins are no blanks, no letters and no digits. -/
theorem inert_of_mem_held {n : Nat} (hlow : 0xD7FF ≤ n) (hhigh : n < 0xE000) {c : Char}
    (hc : c ∈ held n) : isBlank c = false ∧ isWord c = false ∧ isDigit c = false := by
  have hbounds : 0xD7FF ≤ c.toNat ∧ c.toNat < 0xE800 := by
    obtain ⟨d, hd, hdn⟩ := held_of_special hlow hhigh
    rw [hd, List.mem_cons, List.mem_singleton] at hc
    rcases hc with rfl | rfl
    · decide
    · split at hdn <;> omega
  -- no entry of the tables reaches into these bounds
  have hwords : ∀ r ∈ wordRanges, r.2 < 0xD7FF ∨ 0xE800 ≤ r.1 := by decide +kernel
  have hzeros : ∀ z ∈ digitZeros, z + 10 ≤ 0xD7FF ∨ 0xE800 ≤ z := by decide +kernel
  refine ⟨?_, ?_, ?_⟩
  · simp only [isBlank, Bool.or_eq_false_iff, Bool.and_eq_false_iff, decide_eq_false_iff_not,
      beq_eq_false_iff_ne]
    omega
  · rw [isWord, if_neg (by omega), inRanges, List.any_eq_false]
    intro r hr
    rw [Bool.and_eq_true, decide_eq_true_eq, decide_eq_true_eq]
    have := hwords r hr
    omega
  · rw [isDigit, digitValue?, Option.isSome_map, Option.isSome_eq_false_iff, Option.isNone_iff_eq_none,
      List.find?_eq_none]
    intro z hz
    rw [Bool.and_eq_true, decide_eq_true_eq, decide_eq_true_eq]
    have := hzeros z hz
    omega

/-! ### Surrogates in a text -/

/-- A text holds a surrogate. -/
def HasSurrogate (s : String) : Prop :=
  ∃ n ∈ codes s.toList, 0xD800 ≤ n ∧ n < 0xE000

instance (s : String) : Decidable (HasSurrogate s) :=
  inferInstanceAs (Decidable (∃ n ∈ codes s.toList, 0xD800 ≤ n ∧ n < 0xE000))

/-- Characters other than the mark are code points by themselves. -/
theorem codes_append_of_not_mem {cs : List Char} (h : mark ∉ cs) (ds : List Char) :
    codes (cs ++ ds) = cs.map Char.toNat ++ codes ds := by
  induction cs with
  | nil => rfl
  | cons c cs ih =>
      rw [List.mem_cons, not_or] at h
      rw [List.cons_append, List.map_cons, List.cons_append, ← ih h.2]
      cases hds : cs ++ ds with
      | nil => rw [codes, codes]
      | cons d ds => rw [codes, if_neg (Ne.symm h.1)]

/-- Texts can be read one after the other if the second starts with a character of its own. -/
theorem codes_append {d : Char} (hd : afterMarkCode? d = none) (cs ds : List Char) :
    codes (cs ++ d :: ds) = codes cs ++ codes (d :: ds) := by
  fun_induction codes cs with
  | case1 => rfl
  | case2 c =>
      rw [List.singleton_append, codes, hd]
      split <;> rfl
  | case3 d' cs n hn ih =>
      rw [List.cons_append, List.cons_append, codes, if_pos rfl, hn, ih]
      rfl
  | case4 d' cs hn ih =>
      rw [List.cons_append, List.cons_append, codes, if_pos rfl, hn, ← List.cons_append, ih]
      rfl
  | case5 c d' cs hc ih =>
      rw [List.cons_append, List.cons_append, codes, if_neg hc, ← List.cons_append, ih]
      rfl

theorem not_exists_surrogate (cs : List Char) :
    ¬∃ n ∈ cs.map Char.toNat, 0xD800 ≤ n ∧ n < 0xE000 := by
  rintro ⟨n, hn, hs⟩
  obtain ⟨c, -, rfl⟩ := List.mem_map.1 hn
  rw [← isSurrogate_iff, isSurrogate_toNat] at hs
  exact Bool.false_ne_true hs

/-- A beginning without marks holds no surrogate. -/
theorem hasSurrogate_append_left {s : String} (h : mark ∉ s.toList) (t : String) :
    HasSurrogate (s ++ t) ↔ HasSurrogate t := by
  rw [HasSurrogate, String.toList_append, codes_append_of_not_mem h, HasSurrogate]
  simp only [List.mem_append, or_and_right, exists_or]
  exact or_iff_right (not_exists_surrogate s.toList)

/-- An end without marks, which starts with a character of its own, holds no surrogate. -/
theorem hasSurrogate_append_right {t : String} {d : Char} {ds : List Char}
    (ht : t.toList = d :: ds) (hd : afterMarkCode? d = none) (h : mark ∉ t.toList) (s : String) :
    HasSurrogate (s ++ t) ↔ HasSurrogate s := by
  have hplain : codes t.toList = t.toList.map Char.toNat := by
    simpa [codes] using codes_append_of_not_mem h []
  rw [HasSurrogate, String.toList_append, ht, codes_append hd, ← ht, hplain, HasSurrogate]
  simp only [List.mem_append, or_and_right, exists_or]
  exact or_iff_left (not_exists_surrogate t.toList)

end Text

/-! ### Bytes -/

namespace Utf8

/-- A fault is the first row of surrogates among some code points. -/
def EncodeFault.Locates (f : EncodeFault) (ns : List Nat) : Prop :=
  ∃ before row after, ns = before ++ row ++ after ∧ f.first = before.length ∧
    f.count = row.length ∧ row.head? = some f.code ∧ (∀ n ∈ before, Text.isSurrogate n = false) ∧
    (∀ n ∈ row, Text.isSurrogate n = true) ∧ ∀ n ∈ after.head?, Text.isSurrogate n = false

/-- No code point is refused exactly if there is no fault. -/
theorem faultAt?_eq_none_iff {refused : Nat → Bool} {ns : List Nat} :
    faultAt? refused ns = none ↔ ∀ n ∈ ns, refused n = false := by
  rw [faultAt?]
  have hdrop : (ns.dropWhile fun n => !refused n) = [] ↔ ∀ n ∈ ns, refused n = false := by
    simp [List.dropWhile_eq_nil_iff]
  rw [← hdrop]
  cases ns.dropWhile fun n => !refused n <;> simp

theorem faultAt?_locates {ns : List Nat} {f : EncodeFault}
    (h : faultAt? Text.isSurrogate ns = some f) : f.Locates ns := by
  rw [faultAt?] at h
  cases hdrop : ns.dropWhile fun n => !Text.isSurrogate n with
  | nil =>
      rw [hdrop] at h
      cases h
  | cons n rest =>
      rw [hdrop] at h
      obtain rfl := Option.some.inj h
      have hn : Text.isSurrogate n = true := by
        have := List.head?_dropWhile_not (fun n => !Text.isSurrogate n) ns
        rw [hdrop] at this
        simpa using this
      refine ⟨ns.takeWhile fun n => !Text.isSurrogate n, n :: rest.takeWhile Text.isSurrogate,
        rest.dropWhile Text.isSurrogate, ?_, rfl, Nat.add_comm _ _, rfl, ?_, ?_, ?_⟩
      · rw [List.append_assoc, List.cons_append, List.takeWhile_append_dropWhile, ← hdrop,
          List.takeWhile_append_dropWhile]
      · intro m hm
        simpa using List.mem_takeWhile_imp hm
      · intro m hm
        rcases List.mem_cons.1 hm with rfl | hm
        · exact hn
        · exact List.mem_takeWhile_imp hm
      · intro m hm
        have := List.head?_dropWhile_not Text.isSurrogate rest
        rw [Option.mem_def.1 hm] at this
        simpa using this

variable {s : String}

theorem fault?_eq_none_iff : fault? s = none ↔ ¬Text.HasSurrogate s := by
  rw [fault?, faultAt?_eq_none_iff, Text.HasSurrogate]
  simp only [← Text.isSurrogate_iff, not_exists, not_and, Bool.not_eq_true]

/-- A text without surrogates has bytes. -/
theorem encode?_of_not_hasSurrogate (h : ¬Text.HasSurrogate s) : encode? s = .ok (encode s) := by
  rw [encode?, fault?_eq_none_iff.2 h]

/-- A text with a surrogate has none, and the first surrogates are reported. -/
theorem encode?_of_hasSurrogate (h : Text.HasSurrogate s) :
    ∃ f, f.Locates (Text.codes s.toList) ∧ encode? s = .error f := by
  cases hf : fault? s with
  | none => exact absurd h (fault?_eq_none_iff.1 hf)
  | some f => exact ⟨f, faultAt?_locates hf, by rw [encode?, hf]⟩

end Utf8

end BlockSketch
