/-
**Scanners and the parts of patterns.**

The scanners for words, marks, names, numbers, levels and comparisons correspond to parts of patterns,
mostly with blanks before them.  Each of them finds the first way of its part, provided that what follows
in the pattern cannot start in the middle of the part: a number is followed by something that is no digit,
and a name by something that is no word character.  So a scanner and a pattern can be followed in step,
one part after the other.

Main definitions:

* `BlockSketch.integerCapture`, `BlockSketch.Capture.written` — reading an integer from its text, and back;
* `BlockSketch.Capture.IsNumeral` — an integer with its digits.

Main results:

* `BlockSketch.firstWay?_mark`, `BlockSketch.firstWay?_natural`, `BlockSketch.firstWay?_integer` and so on
  — **the first way of each part is what its scanner finds**;
* `BlockSketch.follow_part`, `BlockSketch.follow_group` — a scanner and a pattern are followed in step.
-/

import BlockSketch.Proofs.Patterns
import BlockSketch.Proofs.Recognition

set_option relaxedAutoImplicit false
set_option autoImplicit false

namespace BlockSketch

open BlockSketch.Text

/-! ### Classes of characters -/

theorem isDigit_of_isBlank {c : Char} (h : isBlank c = true) : isDigit c = false := by
  have hcodes : ∀ n ∈ blankCodes, isDigit (Char.ofNat n) = false := by decide +kernel
  simpa using hcodes c.toNat (mem_blankCodes h)

theorem isWord_of_isBlank {c : Char} (h : isBlank c = true) : isWord c = false := by
  cases hw : isWord c with
  | false => rfl
  | true =>
      rw [isBlank_of_isWord hw] at h
      cases h

theorem not_isBlank_of_digit {c : Char} (h : isDigit c = true) : isBlank c = false := by
  cases hb : isBlank c with
  | false => rfl
  | true =>
      rw [isDigit_of_isBlank hb] at h
      cases h

section Stops

variable {p : Char → Bool} {m : Char} (hm : p m = false) (w : List Char) (ps : List Pattern)
include hm

/-- A character of the class is not one outside of it. -/
theorem beq_eq_false_of_class {c : Char} (hc : p c = true) : (c == m) = false := by
  refine beq_false_of_ne ?_
  rintro rfl
  rw [hm] at hc
  cases hc

theorem refuses_word_of_class {c : Char} (hc : p c = true) : (Pattern.word (m :: w)).Refuses c :=
  refuses_word (beq_eq_false_of_class hm hc) w

theorem stops_word : Stops p (.word (m :: w) :: ps) :=
  stops_of_refuses (fun _ hc => refuses_word_of_class hm w hc) ps

theorem stops_blanks_word (hp : ∀ c, p c = true → isBlank c = false) :
    Stops p (.blanks :: .word (m :: w) :: ps) :=
  stops_many hp (fun _ hc => refuses_word_of_class hm w hc) ps

end Stops

/-! ### Scanners and their patterns -/

section Parts

variable {ps : List Pattern}

theorem firstWay?_word (w : List Char) (ps : List Pattern) (s : List Char) :
    firstWay? (.word w :: ps) s = (afterWord? w s).bind (firstWay? ps) := by
  rw [(scans_word ps w).firstWay?_eq, Option.bind_map]
  rfl

/-- Blanks are skipped if what follows cannot start with one. -/
theorem firstWay?_blanks (h : Stops isBlank ps) (s : List Char) :
    firstWay? (.blanks :: ps) s = firstWay? ps (dropBlanks s) := by
  rw [Pattern.blanks, (scans_many h).firstWay?_eq]
  rfl

theorem afterMark?_eq (m : Char) (s : List Char) : afterMark? m s = afterWord? [m] (dropBlanks s) := by
  rw [afterMark?]
  cases dropBlanks s with
  | nil => rfl
  | cons c cs => simp [afterWord?, eq_comm]

theorem afterWord?_cons_dropBlanks (m : Char) (w s : List Char) :
    afterWord? (m :: w) (dropBlanks s) = (afterMark? m s).bind (afterWord? w) := by
  rw [afterMark?_eq]
  cases dropBlanks s with
  | nil => rfl
  | cons c cs => by_cases hc : m = c <;> simp [afterWord?, hc]

theorem firstWay?_blanks_word {m : Char} (h : isBlank m = false) (w : List Char) (ps : List Pattern)
    (s : List Char) : firstWay? (.blanks :: .word (m :: w) :: ps) s =
      (afterWord? (m :: w) (dropBlanks s)).bind (firstWay? ps) := by
  rw [firstWay?_blanks (stops_word h w ps), firstWay?_word]

theorem firstWay?_markWord {m : Char} (h : isBlank m = false) (w : List Char) (ps : List Pattern)
    (s : List Char) : firstWay? (.blanks :: .word (m :: w) :: ps) s =
      ((afterMark? m s).bind (afterWord? w)).bind (firstWay? ps) := by
  rw [firstWay?_blanks_word h, afterWord?_cons_dropBlanks]

theorem firstWay?_mark {m : Char} (h : isBlank m = false) (ps : List Pattern) (s : List Char) :
    firstWay? (.blanks :: .word [m] :: ps) s = (afterMark? m s).bind (firstWay? ps) := by
  rw [firstWay?_blanks_word h, afterMark?_eq]

theorem firstWay?_rowBlank (h : Stops isBlank ps) (s : List Char) :
    firstWay? (.row isBlank :: ps) s = (afterBlanks? s).bind (firstWay? ps) := by
  rw [(scans_row h).firstWay?_eq]
  cases s with
  | nil => rfl
  | cons c s =>
      by_cases hc : isBlank c = true
      · rw [takeRow?_cons hc, afterBlanks?, if_pos hc]
        rfl
      · rw [takeRow?_cons_of_neg (by simpa using hc), afterBlanks?, if_neg hc]
        rfl

theorem firstWay?_name (h : Stops isWord ps) (i : Nat) (s : List Char) :
    firstWay? (.group i (.row isWord) :: ps) s =
      (takeWord? s).bind fun x => (firstWay? ps x.2).map (Way.keep i x.1) :=
  (scans_row h).firstWay?_group i s

theorem firstWay?_blanks_name (h : Stops isWord ps) (s : List Char) :
    firstWay? (.blanks :: .row isWord :: ps) s =
      (takeWord? (dropBlanks s)).bind fun x => firstWay? ps x.2 := by
  rw [firstWay?_blanks (stops_of_refuses (fun _ hc => refuses_row (isWord_of_isBlank hc)) ps)]
  exact (scans_row h).firstWay?_eq (dropBlanks s)

theorem upTo?_eq (m : Char) (s : List Char) : upTo? m s =
    (afterWord? [m] (s.dropWhile (· != m))).map fun r => (s.takeWhile (· != m), r) := by
  induction s with
  | nil => rfl
  | cons c s ih =>
      by_cases hc : c = m
      · subst hc
        simp [upTo?, afterWord?]
      · simp [upTo?, hc, ih, Function.comp_def]

/-- The text of a group up to a mark that does not belong to it. -/
theorem firstWay?_upTo (i : Nat) (m : Char) (ps : List Pattern) (s : List Char) :
    firstWay? (.group i (.many (· != m)) :: .word [m] :: ps) s =
      (upTo? m s).bind fun x => (firstWay? ps x.2).map (Way.keep i x.1) := by
  rw [(scans_many (stops_word (by simp) [] ps)).firstWay?_group, upTo?_eq, Option.bind_map,
    Option.bind_some, firstWay?_word]
  cases afterWord? [m] (s.dropWhile (· != m)) <;> rfl

end Parts

/-! ### Numbers, levels and comparisons -/

/-- The integer that digits with an optional minus sign show. -/
def integerCapture : List Char → Capture
  | '-' :: ds => .integer true ds
  | ds => .integer false ds

/-- A captured text as it is written. -/
def Capture.written : Capture → List Char
  | .text s => s
  | .integer negative ds => signed negative ds
  | .implied _ => []

/-- A captured integer with nothing but digits. -/
def Capture.IsNumeral (c : Capture) : Prop :=
  ∃ negative ds, c = .integer negative ds ∧ ∀ d ∈ ds, isDigit d = true

/-- An integer is read from what is written. -/
theorem Capture.IsNumeral.integerCapture_written {c : Capture} (h : c.IsNumeral) :
    integerCapture c.written = c := by
  obtain ⟨negative, ds, rfl, hds⟩ := h
  cases negative with
  | true => rfl
  | false =>
      rw [written, signed, if_neg Bool.false_ne_true]
      unfold integerCapture
      split
      · exact absurd (hds '-' List.mem_cons_self) (by decide)
      · rfl

theorem written_integerCapture (t : List Char) : (integerCapture t).written = t := by
  unfold integerCapture
  split <;> rfl

theorem isNumeral_of_natural? {s : List Char} {x : Capture × List Char} (h : natural? s = some x) :
    x.1.IsNumeral := by
  obtain ⟨⟨ds, r⟩, hds, rfl⟩ := Option.map_eq_some_iff.1 h
  exact ⟨false, ds, rfl, (takeRow?_eq_some (p := isDigit) hds).2⟩

theorem integerAt?_eq (s : List Char) : integerAt? s =
    (takeInteger? (dropBlanks s)).map fun x => (integerCapture x.1, x.2) := by
  rw [integerAt?]
  split
  · rename_i cs hcs
    rw [hcs, takeInteger?, Option.map_map]
    rfl
  · rename_i hne
    have hhead : (dropBlanks s).head? ≠ some '-' := by
      intro h
      obtain ⟨cs, hcs⟩ := List.head?_eq_some_iff.1 h
      exact hne cs hcs
    rw [takeInteger?_of_ne hhead]
    cases hds : takeRow? isDigit (dropBlanks s) with
    | none => rw [show takeDigits? (dropBlanks s) = none from hds]; rfl
    | some x =>
        have hread := Capture.IsNumeral.integerCapture_written
          ⟨false, x.1, rfl, (takeRow?_eq_some hds).2⟩
        rw [show takeDigits? (dropBlanks s) = some x from hds, Option.map_some, Option.map_some]
        exact congrArg some (Prod.ext hread.symm rfl)

theorem isNumeral_of_integerAt? {s : List Char} {x : Capture × List Char}
    (h : integerAt? s = some x) : x.1.IsNumeral := by
  rw [integerAt?] at h
  split at h <;>
  · obtain ⟨⟨ds, r⟩, hds, rfl⟩ := Option.map_eq_some_iff.1 h
    exact ⟨_, ds, rfl, (takeRow?_eq_some (p := isDigit) hds).2⟩

section Numbers

variable {ps : List Pattern} (h : Stops isDigit ps) (i : Nat) (s : List Char)
include h

theorem firstWay?_natural : firstWay? (.blanks :: .group i (.row isDigit) :: ps) s =
    (natural? s).bind fun x => (firstWay? ps x.2).map (Way.keep i x.1.written) := by
  rw [firstWay?_blanks (stops_of_refuses
      (fun _ hc => refuses_group (refuses_row (isDigit_of_isBlank hc)) i) ps),
    (scans_row h).firstWay?_group, natural?, Option.bind_map]
  rfl

theorem firstWay?_integer : firstWay? (.blanks :: .group i .integer :: ps) s =
    (integerAt? s).bind fun x => (firstWay? ps x.2).map (Way.keep i x.1.written) := by
  have hstops : Stops isBlank (.group i .integer :: ps) :=
    stops_of_refuses (fun _ hc => refuses_group (refuses_integer (isDigit_of_isBlank hc)
      (beq_eq_false_of_class (by decide) hc)) i) ps
  rw [firstWay?_blanks hstops, (scans_integer h).firstWay?_group, integerAt?_eq, Option.bind_map]
  refine Option.bind_congr fun x hx => ?_
  rw [Function.comp_apply, written_integerCapture]

end Numbers

theorem firstWay?_level (i : Nat) (ps : List Pattern) (s : List Char) :
    firstWay? (.blanks :: .group i (.either (.word "HIGH".toList) (.word "LOW".toList)) :: ps) s =
      (level? s).bind fun x => (firstWay? ps x.2).map (Way.keep i x.1.written) := by
  have hstops : Stops isBlank (.group i (.either (.word "HIGH".toList) (.word "LOW".toList)) :: ps) :=
    stops_of_refuses (fun _ hc => refuses_group (refuses_either
      (refuses_word_of_class (by decide) _ hc) (refuses_word_of_class (by decide) _ hc)) i) ps
  rw [firstWay?_blanks hstops, (scans_either (fun r => rfl) ps).firstWay?_group, level?]
  cases afterWord? "HIGH".toList (dropBlanks s) with
  | some r => rfl
  | none => cases afterWord? "LOW".toList (dropBlanks s) <;> rfl

theorem text_written_of_level? {s : List Char} {x : Capture × List Char} (h : level? s = some x) :
    Capture.text x.1.written = x.1 := by
  rw [level?] at h
  split at h
  · obtain rfl := Option.some.inj h
    rfl
  · obtain ⟨r, -, rfl⟩ := Option.map_eq_some_iff.1 h
    rfl

theorem not_isComparison_of_class {p : Char → Bool} {c : Char} (hl : p '<' = false)
    (hg : p '>' = false) (hc : p c = true) : (c == '<' || c == '>') = false := by
  rw [beq_eq_false_of_class hl hc, beq_eq_false_of_class hg hc, Bool.or_false]

theorem firstWay?_comparison (i : Nat) (ps : List Pattern) (s : List Char) :
    firstWay? (.blanks :: .group i (.one fun c => c == '<' || c == '>') :: ps) s =
      (comparison? s).bind fun x =>
        (firstWay? ps x.2).map (Way.keep i (if x.1 then ['>'] else ['<'])) := by
  have hstops : Stops isBlank (.group i (.one fun c => c == '<' || c == '>') :: ps) := by
    exact stops_of_refuses (fun _ hc => refuses_group
      (refuses_one (not_isComparison_of_class (by decide) (by decide) hc)) i) ps
  rw [firstWay?_blanks hstops, (scans_one ps _).firstWay?_group, comparison?]
  cases dropBlanks s with
  | nil => rfl
  | cons c cs =>
      by_cases hlt : c = '<'
      · subst hlt
        rfl
      · by_cases hgt : c = '>'
        · subst hgt
          rfl
        · simp [hlt, hgt]

/-! ### Steps -/

section Steps

variable {α β : Type} {o : Option α} {f : α → Option β} {g : α → Option Way} {way : Option Way}
  {found : Way → β}

/-- A scanner and a pattern are followed in step. -/
theorem follow_part (hway : way = o.bind g) (h : ∀ a, o = some a → f a = (g a).map found) :
    o >>= f = way.map found := by
  subst hway
  cases o with
  | none => rfl
  | some a => exact h a rfl

/-- They are followed in step where the text of a group is kept. -/
theorem follow_group {keep : α → Way → Way} (hway : way = o.bind fun a => (g a).map (keep a))
    (h : ∀ a, o = some a → f a = (g a).map (found ∘ keep a)) : o >>= f = way.map found :=
  follow_part hway fun a ha => by rw [h a ha, Option.map_map]

end Steps

end BlockSketch
