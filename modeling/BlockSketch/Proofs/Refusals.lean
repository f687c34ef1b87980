/-
**Numbers that are too long.**

An import can fail for one reason only: a number of a line has more digits than can be read.  What counts
as a number is settled by the first pattern that is found in the line, and by what becomes of its groups.
Digits elsewhere in a line do no harm, nor do those of later patterns, nor the sign of a number, and a
step that is not written is no number.  The lines are read in order, and the numbers of a line in the
order of its parameters; the first number that is too long is the one that is reported.

Main definitions:

* `BlockSketch.LinePattern.numerals` — the texts that are read as integers;
* `BlockSketch.longNumeral?` — the first number of a line that is too long.

Main results:

* `BlockSketch.keeps_linePatterns` — what is read as an integer consists of digits;
* `BlockSketch.params_eq_error_iff` — when the parameters of a line are refused;
* `BlockSketch.importLines_eq_error_iff` — the first number that is too long is reported;
* `BlockSketch.importSketch_refuses_iff` — **exactly when an import fails**.
-/

import BlockSketch.Proofs.LinePatterns

set_option relaxedAutoImplicit false
set_option autoImplicit false

namespace BlockSketch

open BlockSketch.Text

/-! ### Numbers of a line -/

/-- The group that a conversion reads as an integer. -/
def Conversion.group? : Conversion → Option Nat
  | integer i | step i _ => some i
  | _ => none

/-- The text that a conversion reads as an integer, if its group is part of the way. -/
def Conversion.numeral? (w : Way) (c : Conversion) : Option (List Char) :=
  c.group?.bind w.text?

/-- The texts that are read as integers where a pattern is found, in order. -/
def LinePattern.numerals (p : LinePattern) (w : Way) : List (List Char) :=
  p.params.filterMap fun x => x.2.numeral? w

/-- Whether a text has more digits than can be read. -/
def isTooLong (t : List Char) : Bool :=
  maxIntegerDigits < t.countP isDigit

/-- The first text in a line that is read as an integer and is too long. -/
def longNumeral? (line : List Char) : Option (List Char) :=
  (firstMatch? line).bind fun x => (x.1.numerals x.2).find? isTooLong

/-! ### Digits -/

/-- Digits with an optional minus sign. -/
def IsSignedRow (t : List Char) : Prop :=
  ∃ negative ds, t = signed negative ds ∧ ∀ d ∈ ds, isDigit d = true

/-- The value of an integer: it is refused if there are too many digits, where the sign does not count. -/
theorem IsSignedRow.value {t : List Char} (h : IsSignedRow t) :
    (isTooLong t = true ∧ (integerCapture t).value = .error ⟨t.countP isDigit⟩) ∨
      (isTooLong t = false ∧ ∃ v, (integerCapture t).value = .ok v) := by
  obtain ⟨negative, ds, rfl, hds⟩ := h
  have hcapture : integerCapture (signed negative ds) = .integer negative ds :=
    Capture.IsNumeral.integerCapture_written ⟨negative, ds, rfl, hds⟩
  have hcount : (signed negative ds).countP isDigit = ds.length := by
    have hsign : isDigit '-' = false := by decide
    have hall := List.countP_eq_length.2 hds
    cases negative <;> simp [signed, hsign, hall]
  rw [hcapture, Capture.value, isTooLong, hcount]
  by_cases hlong : maxIntegerDigits < ds.length
  · exact Or.inl ⟨by simpa using hlong, if_pos hlong⟩
  · exact Or.inr ⟨by simpa using hlong, _, if_neg hlong⟩

theorem isSignedRow_of_mem_row {s : List Char} {v : Way} (hv : v ∈ (Pattern.row isDigit).ways s) :
    IsSignedRow (before s v.rest) := by
  obtain ⟨t, ht, hdigits⟩ := exists_of_mem_ways_row hv
  rw [ht, before_append]
  exact ⟨false, t, rfl, hdigits⟩

theorem isSignedRow_of_mem_integer {s : List Char} {v : Way} (hv : v ∈ Pattern.integer.ways s) :
    IsSignedRow (before s v.rest) := by
  obtain ⟨t, ht | ht, hdigits⟩ := exists_of_mem_ways_integer hv <;> rw [ht, before_append]
  · exact ⟨false, t, rfl, hdigits⟩
  · exact ⟨true, t, rfl, hdigits⟩

/-- In the patterns of lines, what is read as an integer consists of digits with an optional sign. -/
theorem keeps_linePatterns : ∀ p ∈ linePatterns, (Pattern.inOrder p.parts).Keeps fun i t =>
    (∃ x ∈ p.params, x.2.group? = some i) → IsSignedRow t := by
  simp only [linePatterns, List.forall_mem_cons, List.not_mem_nil, false_imp_iff, implies_true,
    and_true]
  refine ⟨?_, ?_, ?_, ?_, ?_, ?_, ?_, ?_, ?_⟩
  all_goals
    simp +contextual [delayPattern, digitalWritePattern, analogWritePattern, methodPattern, printPattern,
      forPattern, stepParts, conditionPattern, Pattern.inOrder, Pattern.Keeps, Pattern.optional,
      Conversion.group?, isSignedRow_of_mem_row, isSignedRow_of_mem_integer]

/-! ### Refused parameters -/

theorem bind_ok_eq_error_iff {ε α β : Type} {x : Except ε α} {f : α → β} {e : ε} :
    (x >>= fun a => pure (f a)) = Except.error e ↔ x = .error e := by
  cases x <;> simp [bind, Except.bind, pure, Except.pure]

/-- What becomes of a group: an integer is read, or nothing is refused. -/
theorem Conversion.capture_cases (w : Way) (c : Conversion) :
    (∃ t, c.numeral? w = some t ∧ c.capture w = integerCapture t) ∨
      (c.numeral? w = none ∧ ∃ v, (c.capture w).value = .ok v) := by
  cases c with
  | text i => exact Or.inr ⟨rfl, _, rfl⟩
  | trimmed i => exact Or.inr ⟨rfl, _, rfl⟩
  | integer i =>
      cases ht : w.text? i with
      | none => exact Or.inr ⟨ht, _, by rw [capture, Way.text, ht]; rfl⟩
      | some t => exact Or.inl ⟨t, ht, by rw [capture, Way.text, ht]; rfl⟩
  | step i direction =>
      cases ht : w.text? i with
      | none => exact Or.inr ⟨ht, _, by rw [capture, ht]; rfl⟩
      | some t => exact Or.inl ⟨t, ht, by rw [capture, ht]⟩

/-- The first integer that is too long is refused. -/
theorem captureValues_eq_error_iff {w : Way} {params : List (String × Conversion)}
    (h : ∀ t ∈ params.filterMap (fun x => x.2.numeral? w), IsSignedRow t) {e : TooManyDigits} :
    captureValues (params.map fun x => (x.1, x.2.capture w)) = .error e ↔
      ∃ t, (params.filterMap fun x => x.2.numeral? w).find? isTooLong = some t ∧
        e = ⟨t.countP isDigit⟩ := by
  induction params with
  | nil => simp [captureValues]
  | cons x params ih =>
      rw [List.map_cons, captureValues]
      rcases x.2.capture_cases w with ⟨t, ht, hcapture⟩ | ⟨hnone, v, hv⟩
      · simp only [List.filterMap_cons, ht, hcapture, List.forall_mem_cons] at h ⊢
        rcases h.1.value with ⟨hlong, herror⟩ | ⟨hlong, v, hv⟩
        · rw [herror, List.find?_cons_of_pos hlong]
          simp [bind, Except.bind, eq_comm]
        · rw [hv, List.find?_cons_of_neg (by simp [hlong]), ← ih h.2]
          exact bind_ok_eq_error_iff
      · simp only [List.filterMap_cons, hnone] at h ⊢
        rw [hv, ← ih h]
        exact bind_ok_eq_error_iff

/-- What is read as an integer where a pattern of lines is found consists of digits. -/
theorem isSignedRow_of_mem_numerals {line : List Char} {p : LinePattern} {w : Way}
    (h : firstMatch? line = some (p, w)) {t : List Char} (ht : t ∈ p.numerals w) : IsSignedRow t := by
  obtain ⟨q, hq, hmatch⟩ := List.exists_of_findSome?_eq_some h
  obtain ⟨v, hv, heq⟩ := Option.map_eq_some_iff.1 hmatch
  obtain ⟨rfl, rfl⟩ := Prod.mk.inj heq
  obtain ⟨x, hx, hnumeral⟩ := List.mem_filterMap.1 ht
  obtain ⟨i, hi, htext⟩ := Option.bind_eq_some_iff.1 hnumeral
  exact (keeps_linePatterns q hq).text? hv htext ⟨x, hx, hi⟩

/-- The parameters of a line are refused if a number in it is too long. -/
theorem params_eq_error_iff {line : List Char} {found : Found} (h : recognise line = some found)
    {e : TooManyDigits} : found.params = .error e ↔
      ∃ t, longNumeral? line = some t ∧ e = ⟨t.countP isDigit⟩ := by
  rw [recognise_eq] at h
  obtain ⟨⟨p, w⟩, hmatch, rfl⟩ := Option.map_eq_some_iff.1 h
  rw [longNumeral?, hmatch, Option.bind_some]
  exact captureValues_eq_error_iff fun t => isSignedRow_of_mem_numerals hmatch

/-! ### Refused sketches -/

/-- Of the numbers that are too long, the first is reported. -/
theorem importLines_eq_error_iff (depth : Nat) {lines : List (List Char)} {e : TooManyDigits} :
    importLines depth lines = .error e ↔
      ∃ t, lines.findSome? longNumeral? = some t ∧ e = ⟨t.countP isDigit⟩ := by
  induction lines generalizing depth with
  | nil => simp [importLines]
  | cons line lines ih =>
      rw [importLines, List.findSome?_cons]
      cases hr : recognise line with
      | none =>
          have hnone : longNumeral? line = none := by
            rw [recognise_eq, Option.map_eq_none_iff] at hr
            rw [longNumeral?, hr, Option.bind_none]
          rw [hnone]
          dsimp only
          split
          · exact bind_ok_eq_error_iff.trans (ih _)
          · exact ih _
      | some found =>
          dsimp only
          cases hparams : found.params with
          | error e' =>
              obtain ⟨t, ht, rfl⟩ := (params_eq_error_iff hr).1 hparams
              rw [ht]
              simp [bind, Except.bind, eq_comm]
          | ok params =>
              have hnone : longNumeral? line = none := by
                cases hlong : longNumeral? line with
                | none => rfl
                | some t =>
                    have herror := (params_eq_error_iff hr).2 ⟨t, hlong, rfl⟩
                    rw [hparams] at herror
                    cases herror
              rw [hnone]
              exact bind_ok_eq_error_iff.trans (ih _)

theorem longNumeral?_isSome_iff {line : List Char} : (longNumeral? line).isSome = true ↔
    ∃ p w, firstMatch? line = some (p, w) ∧ ∃ t ∈ p.numerals w, maxIntegerDigits < t.countP isDigit := by
  rw [longNumeral?]
  cases hmatch : firstMatch? line with
  | none => simp
  | some x => simp [isTooLong, Prod.ext_iff]

/-- An import fails if a line of the loop function has a number that is too long. -/
theorem importSketch_eq_error_iff {text : String} {e : TooManyDigits} :
    importSketch text = .error e ↔ ∃ w, findWay? loopParts text.toList = some w ∧
      ∃ t, (bodyLines (w.text 1)).findSome? longNumeral? = some t ∧ e = ⟨t.countP isDigit⟩ := by
  rw [importSketch, loopBody?_eq]
  cases findWay? loopParts text.toList with
  | none => simp
  | some w =>
      simp only [Option.map_some, Option.some.injEq, exists_eq_left']
      rw [← importLines_eq_error_iff 0]
      cases importLines 0 (bodyLines (w.text 1)) <;> simp [Except.map]

theorem version_of_importSketch {text : String} {g : Graph} (h : importSketch text = .ok g) :
    g.version = 1 := by
  rw [importSketch] at h
  split at h
  · obtain rfl := Except.ok.inj h
    rfl
  · rename_i body _
    cases hes : importLines 0 (bodyLines body) with
    | error e =>
        rw [hes] at h
        cases h
    | ok es =>
        rw [hes] at h
        obtain rfl := Except.ok.inj h
        rfl

/-- **Exactly when an import fails.**  The sketch has a loop function, and the first pattern that is found
in some line of it keeps a text of more than 4300 digits in a group that is read as an integer.  The
report is that of the first such line, and of the first such text in it.  In all other cases there is a
linear graph. -/
theorem importSketch_refuses_iff (text : String) :
    ((∃ e, importSketch text = .error e) ↔
      ∃ w, findWay? loopParts text.toList = some w ∧
        ∃ line ∈ bodyLines (w.text 1), ∃ p v, firstMatch? line = some (p, v) ∧
          ∃ t ∈ p.numerals v, 4300 < t.countP isDigit) ∧
    (∀ e, importSketch text = .error e ↔
      ∃ w ls line ls' t, findWay? loopParts text.toList = some w ∧
        bodyLines (w.text 1) = ls ++ line :: ls' ∧ (∀ l ∈ ls, longNumeral? l = none) ∧
        longNumeral? line = some t ∧ e = ⟨t.countP isDigit⟩) ∧
    ((∀ e, importSketch text ≠ .error e) → ∃ g, importSketch text = .ok g ∧ g.version = 1) := by
  refine ⟨?_, fun e => ?_, fun h => ?_⟩
  · constructor
    · rintro ⟨e, he⟩
      obtain ⟨w, hw, t, ht, -⟩ := importSketch_eq_error_iff.1 he
      obtain ⟨line, hline, hlong⟩ := List.exists_of_findSome?_eq_some ht
      exact ⟨w, hw, line, hline, longNumeral?_isSome_iff.1 (by rw [hlong]; rfl)⟩
    · rintro ⟨w, hw, line, hline, hlong⟩
      have hsome : ((bodyLines (w.text 1)).findSome? longNumeral?).isSome = true :=
        List.findSome?_isSome_iff.2 ⟨line, hline, longNumeral?_isSome_iff.2 hlong⟩
      obtain ⟨t, ht⟩ := Option.isSome_iff_exists.1 hsome
      exact ⟨_, importSketch_eq_error_iff.2 ⟨w, hw, t, ht, rfl⟩⟩
  · rw [importSketch_eq_error_iff]
    simp only [List.findSome?_eq_some_iff]
    constructor
    · rintro ⟨w, hw, t, ⟨ls, line, ls', hlines, ht, hls⟩, rfl⟩
      exact ⟨w, ls, line, ls', t, hw, hlines, hls, ht, rfl⟩
    · rintro ⟨w, ls, line, ls', t, hw, hlines, hls, ht, rfl⟩
      exact ⟨w, hw, t, ⟨ls, line, ls', hlines, ht, hls⟩, rfl⟩
  · cases hg : importSketch text with
    | error e => exact absurd hg (h e)
    | ok g => exact ⟨g, rfl, version_of_importSketch hg⟩

end BlockSketch
