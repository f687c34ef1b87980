/-
**What scanners find.**

Each scanner is described in both directions.  On a text that starts with what it looks for, followed
by something that cannot belong to it, it finds this; and if it finds something, the text starts with
it, up to blanks.

Main results:

* `BlockSketch.Text.afterWord?_eq_some_iff`, `BlockSketch.Text.afterMark?_eq_some` — words and marks;
* `BlockSketch.Text.takeWord?_append`, `BlockSketch.Text.takeDigits?_append`,
  `BlockSketch.Text.upTo?_append` — names, rows of digits, and texts up to a mark;
* `BlockSketch.Text.search_eq_none_iff` — a search fails if the shape is recognised nowhere;
* `BlockSketch.Text.trimChars_append`, `BlockSketch.Text.trim_trim` — outer blanks are trimmed, all at
  once.
-/

import BlockSketch.Text.Digit
import BlockSketch.Text.Scan
import BlockSketch.Text.Word
import Mathlib.Data.List.DropRight

set_option relaxedAutoImplicit false
set_option autoImplicit false

namespace BlockSketch.Text

/-! ### Characters of a text -/

section Characters

variable (p : Char → Prop) [DecidablePred p]

/-- What holds of the characters of a text is decided along the text, not along all characters. -/
instance (priority := high) decidableForallChars (s : List Char) : Decidable (∀ c ∈ s, p c) :=
  List.decidableBAll p s

instance (priority := high) decidableForallChar? (o : Option Char) : Decidable (∀ c ∈ o, p c) :=
  Option.decidableForallMem o

end Characters

/-! ### Blanks -/

/-- The code points of the blank characters. -/
def blankCodes : List Nat :=
  List.range' 9 5 ++ List.range' 28 5 ++ [0x85, 0xA0, 0x1680] ++ List.range' 0x2000 11 ++
    [0x2028, 0x2029, 0x202F, 0x205F, 0x3000]

theorem mem_blankCodes {c : Char} (h : isBlank c = true) : c.toNat ∈ blankCodes := by
  simp only [isBlank, Bool.or_eq_true, Bool.and_eq_true, decide_eq_true_eq, beq_iff_eq] at h
  simp only [blankCodes, List.mem_append, List.mem_range'_1, List.mem_cons, List.not_mem_nil]
  omega

/-- No word character is blank. -/
theorem isBlank_of_isWord {c : Char} (h : isWord c = true) : isBlank c = false := by
  have hcodes : ∀ n ∈ blankCodes, isWord (Char.ofNat n) = false := by decide +kernel
  cases hb : isBlank c with
  | false => rfl
  | true =>
      have hword := hcodes c.toNat (mem_blankCodes hb)
      rw [Char.ofNat_toNat, h] at hword
      simp at hword

theorem isBlank_of_isDigit {c : Char} (h : c.isDigit = true) : isBlank c = false := by
  have hdigit := Char.isDigit_iff_toNat.1 h
  simp only [Char.reduceToNat] at hdigit
  simp only [isBlank, Bool.or_eq_false_iff, Bool.and_eq_false_iff, decide_eq_false_iff_not,
    beq_eq_false_iff_ne]
  omega

theorem dropBlanks_cons_of_blank {c : Char} (h : isBlank c = true) (s : List Char) :
    dropBlanks (c :: s) = dropBlanks s :=
  List.dropWhile_cons_of_pos h

theorem dropBlanks_cons_of_not_blank {c : Char} (h : isBlank c = false) (s : List Char) :
    dropBlanks (c :: s) = c :: s :=
  List.dropWhile_cons_of_neg (by simp [h])

/-- Blanks at the start of a text are dropped, up to the first other character. -/
theorem dropBlanks_append {b : List Char} {c : Char} (hb : ∀ x ∈ b, isBlank x = true)
    (hc : isBlank c = false) (s : List Char) : dropBlanks (b ++ c :: s) = c :: s := by
  rw [dropBlanks, List.dropWhile_append_of_pos hb]
  exact dropBlanks_cons_of_not_blank hc s

/-- What is dropped is blank. -/
theorem exists_eq_append_dropBlanks (s : List Char) :
    ∃ b, s = b ++ dropBlanks s ∧ ∀ x ∈ b, isBlank x = true :=
  ⟨s.takeWhile isBlank, List.takeWhile_append_dropWhile.symm,
    List.all_eq_true.1 List.all_takeWhile⟩

/-- Outer blanks are trimmed. -/
theorem trimChars_append {b s e : List Char} (hb : ∀ x ∈ b, isBlank x = true)
    (he : ∀ x ∈ e, isBlank x = true) (hfirst : ∀ x ∈ s.head?, isBlank x = false)
    (hlast : ∀ x ∈ s.getLast?, isBlank x = false) (hs : s ≠ []) : trimChars (b ++ s ++ e) = s := by
  have hdrop {b s e : List Char} (hb : ∀ x ∈ b, isBlank x = true)
      (hfirst : ∀ x ∈ s.head?, isBlank x = false) (hs : s ≠ []) :
      dropBlanks (b ++ s ++ e) = s ++ e := by
    cases s with
    | nil => exact absurd rfl hs
    | cons c s =>
        rw [List.append_assoc, List.cons_append]
        exact dropBlanks_append hb (hfirst c rfl) (s ++ e)
  rw [trimChars, hdrop hb hfirst hs, dropEndWhile]
  -- from the other side the same lemma applies
  have hback := hdrop (b := e.reverse) (s := s.reverse) (e := []) (by simpa using he)
    (by simpa using hlast) (by simpa using hs)
  rw [List.append_nil, List.append_nil, ← List.reverse_append, dropBlanks] at hback
  rw [hback, List.reverse_reverse]

/-- A trimmed text has no outer blanks. -/
theorem trimChars_trimChars (s : List Char) : trimChars (trimChars s) = trimChars s := by
  have hstart : dropBlanks (trimChars s) = trimChars s := by
    refine List.dropWhile_eq_self_iff.2 fun hl => ?_
    -- its first character is the one at which dropping blanks stopped
    have hpre : trimChars s <+: dropBlanks s := List.rdropWhile_prefix isBlank _
    rw [hpre.getElem hl]
    exact List.dropWhile_get_zero_not isBlank s (hl.trans_le hpre.length_le)
  have hend : dropEndWhile isBlank (trimChars s) = trimChars s :=
    List.rdropWhile_idempotent isBlank (dropBlanks s)
  rw [trimChars, hstart, hend]

theorem trim_trim (s : String) : trim (trim s) = trim s := by
  rw [trim, trim, String.toList_ofList, trimChars_trimChars]

/-! ### Words and marks -/

theorem afterWord?_eq_some_iff {w s r : List Char} : afterWord? w s = some r ↔ s = w ++ r := by
  induction w generalizing s with
  | nil => simp [afterWord?]
  | cons c w ih =>
      cases s with
      | nil => simp [afterWord?]
      | cons d s =>
          by_cases hcd : c = d
          · subst hcd
            simp [afterWord?, ih]
          · simp [afterWord?, hcd, Ne.symm hcd]

@[simp] theorem afterWord?_append (w s : List Char) : afterWord? w (w ++ s) = some s :=
  afterWord?_eq_some_iff.2 rfl

theorem afterMark?_cons {mark : Char} (h : isBlank mark = false) (s : List Char) :
    afterMark? mark (mark :: s) = some s := by
  simp [afterMark?, dropBlanks_cons_of_not_blank h]

theorem afterMark?_cons_blank {c : Char} (h : isBlank c = true) (mark : Char) (s : List Char) :
    afterMark? mark (c :: s) = afterMark? mark s := by
  rw [afterMark?, afterMark?, dropBlanks_cons_of_blank h]

/-- A mark that is found has only blanks before it. -/
theorem afterMark?_eq_some {mark : Char} {s r : List Char} (h : afterMark? mark s = some r) :
    ∃ b, s = b ++ mark :: r ∧ ∀ x ∈ b, isBlank x = true := by
  obtain ⟨b, hs, hb⟩ := exists_eq_append_dropBlanks s
  unfold afterMark? at h
  split at h
  · simp at h
  · rename_i c cs hdrop
    split at h
    · rename_i hc
      subst hc
      obtain rfl := Option.some.inj h
      exact ⟨b, by rw [← hdrop]; exact hs, hb⟩
    · simp at h

/-! ### Names, digits and delimited texts -/

section Runs

variable {w s : List Char} {c : Char}

theorem span_append {p : Char → Bool} (hw : ∀ x ∈ w, p x = true) (hc : p c = false) :
    (w ++ c :: s).takeWhile p = w ∧ (w ++ c :: s).dropWhile p = c :: s := by
  constructor
  · rw [List.takeWhile_append_of_pos hw, List.takeWhile_cons_of_neg (by simp [hc]), List.append_nil]
  · rw [List.dropWhile_append_of_pos hw, List.dropWhile_cons_of_neg (by simp [hc])]

theorem takeWord?_append (hw : ∀ x ∈ w, isWord x = true) (hne : w ≠ []) (hc : isWord c = false) :
    takeWord? (w ++ c :: s) = some (w, c :: s) := by
  obtain ⟨htake, hdrop⟩ := span_append (s := s) hw hc
  rw [takeWord?, htake, hdrop]
  cases w with
  | nil => exact absurd rfl hne
  | cons => rfl

theorem takeDigits?_append (hw : ∀ x ∈ w, isDigit x = true) (hne : w ≠ [])
    (hc : isDigit c = false) : takeDigits? (w ++ c :: s) = some (w, c :: s) := by
  obtain ⟨htake, hdrop⟩ := span_append (s := s) hw hc
  rw [takeDigits?, htake, hdrop]
  cases w with
  | nil => exact absurd rfl hne
  | cons => rfl

theorem takeWord?_eq_some {s r : List Char} (h : takeWord? s = some (w, r)) : s = w ++ r := by
  unfold takeWord? at h
  split at h
  · simp at h
  · obtain ⟨rfl, rfl⟩ := Prod.mk.inj (Option.some.inj h)
    exact List.takeWhile_append_dropWhile.symm

theorem upTo?_append {mark : Char} (h : mark ∉ w) :
    upTo? mark (w ++ mark :: s) = some (w, s) := by
  induction w with
  | nil => simp [upTo?]
  | cons d w ih =>
      have hd : d ≠ mark := fun hd => h (hd ▸ List.mem_cons_self)
      rw [List.cons_append, upTo?, if_neg hd, ih fun hw => h (List.mem_cons_of_mem d hw)]
      rfl

end Runs

/-! ### Searches -/

section Search

variable {α : Type} {shape : List Char → Option α} {s : List Char}

theorem search_of_eq_some {a : α} (h : shape s = some a) : search shape s = some a := by
  cases s with
  | nil => exact h
  | cons c s => rw [search, h]

/-- A search fails if the shape is recognised nowhere. -/
theorem search_eq_none_iff : search shape s = none ↔ ∀ t, t <:+ s → shape t = none := by
  induction s with
  | nil => simp [search]
  | cons c s ih =>
      rw [search]
      cases hc : shape (c :: s) with
      | some a =>
          refine iff_of_false (by simp) fun h => ?_
          rw [h _ List.suffix_rfl] at hc
          simp at hc
      | none =>
          simp only [ih, List.suffix_cons_iff]
          constructor
          · rintro h t (rfl | ht)
            · exact hc
            · exact h t ht
          · exact fun h t ht => h t (Or.inr ht)

end Search

end BlockSketch.Text
