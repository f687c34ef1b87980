/-
**String literals are read back.**

A string literal is read from its opening quote to the first quote that is not escaped.  An escape is a
backslash with a letter, or with one, two or three octal digits, as many as there are: where an escape
ends depends on what follows it.  A control character must not stand in a literal as it is.

A message is written so that this cannot go wrong.  Octal escapes always have three digits, so a digit
after them belongs to the message.  Every backslash and every quote of the message is escaped, so that
the first quote that counts is the closing one, whatever stands after it in the sketch.

Main definitions:

* `BlockSketch.Sketch.takeOctal` — octal digits, as many as there are up to a limit;
* `BlockSketch.Sketch.lexChar?` — one character of a literal, escaped or not;
* `BlockSketch.Sketch.lexLiteral?` — the text of a literal, and what follows the literal.

Main results:

* `BlockSketch.Sketch.literalChar_forms` — the three ways to write a character;
* `BlockSketch.Sketch.lexChar?_literalChar` — each character is read back, whatever follows it;
* `BlockSketch.Sketch.lexLiteral?_literal` — **a literal is read back as its text, up to its closing
  quote**.
-/

import BlockSketch.Sketch.Literal
import Mathlib.Tactic.SplitIfs

set_option relaxedAutoImplicit false
set_option autoImplicit false

namespace BlockSketch.Sketch

/-! ### Reading literals -/

/-- The control characters of ASCII. -/
def isControl (c : Char) : Bool :=
  c.toNat < 0x20 || c.toNat == 0x7F

/-- The value of an octal digit. -/
def octalValue? (c : Char) : Option Nat :=
  if 0x30 ≤ c.toNat ∧ c.toNat < 0x38 then some (c.toNat - 0x30) else none

/-- Octal digits at the start of a text, as many as there are up to a limit: the number that they
continue, and the rest of the text. -/
def takeOctal : Nat → Nat → List Char → Nat × List Char
  | 0, value, s => (value, s)
  | _ + 1, value, [] => (value, [])
  | limit + 1, value, c :: s =>
    match octalValue? c with
    | some d => takeOctal limit (8 * value + d) s
    | none => (value, c :: s)

/-- The character of an escape by a letter. -/
def letterEscape? (c : Char) : Option Char :=
  if c = '\\' then some '\\'
  else if c = '"' then some '"'
  else if c = 'n' then some '\n'
  else if c = 'r' then some '\r'
  else if c = 't' then some '\t'
  else none

/-- The character of an escape and what follows, after the backslash. -/
def lexEscape? : List Char → Option (Char × List Char)
  | [] => none
  | c :: s =>
    match letterEscape? c, octalValue? c with
    | some d, _ => some (d, s)
    | none, some d => some ((takeOctal 2 d s).map Char.ofNat id)
    | none, none => none

/-- One character of a literal, escaped or not, and what follows. -/
def lexChar? : List Char → Option (Char × List Char)
  | [] => none
  | c :: s =>
    if c = '\\' then lexEscape? s
    else if isControl c then none
    else some (c, s)

theorem length_takeOctal_le (limit value : Nat) (s : List Char) :
    (takeOctal limit value s).2.length ≤ s.length := by
  fun_induction takeOctal limit value s with
  | case1 => exact Nat.le_refl _
  | case2 => exact Nat.le_refl _
  | case3 limit value c s d hd ih => exact Nat.le_succ_of_le ih
  | case4 => exact Nat.le_refl _

theorem length_lexEscape?_lt {s r : List Char} {c : Char} (h : lexEscape? s = some (c, r)) :
    r.length < s.length := by
  cases s with
  | nil => cases h
  | cons x s =>
      rw [lexEscape?] at h
      split at h
      · obtain ⟨-, rfl⟩ := Prod.mk.inj (Option.some.inj h)
        exact Nat.lt_succ_self _
      · obtain ⟨-, rfl⟩ := Prod.mk.inj (Option.some.inj h)
        exact Nat.lt_succ_of_le (length_takeOctal_le ..)
      · cases h

/-- A character of a literal takes up some of the text. -/
theorem length_lexChar?_lt {s r : List Char} {c : Char} (h : lexChar? s = some (c, r)) :
    r.length < s.length := by
  cases s with
  | nil => cases h
  | cons x s =>
      rw [lexChar?] at h
      split_ifs at h
      · exact Nat.lt_succ_of_lt (length_lexEscape?_lt h)
      · obtain ⟨-, rfl⟩ := Prod.mk.inj (Option.some.inj h)
        exact Nat.lt_succ_self _

/-- The text of a literal and what follows its closing quote, after the opening one. -/
def lexBody? (s : List Char) : Option (List Char × List Char) :=
  if s.head? = some '"' then some ([], s.tail)
  else
    match h : lexChar? s with
    | none => none
    | some (c, r) =>
      have := length_lexChar?_lt h
      (lexBody? r).map (Prod.map (c :: ·) id)
termination_by s.length

/-- The text of a literal and what follows the literal. -/
def lexLiteral? : List Char → Option (List Char × List Char)
  | [] => none
  | c :: s => if c = '"' then lexBody? s else none

/-! ### Characters -/

/-- The three ways to write a character: by a letter, by three octal digits, or as it is. -/
theorem literalChar_forms (c : Char) :
    (∃ x, letterEscape? x = some c ∧ isControl x = false ∧ literalChar c = ['\\', x]) ∨
      (c.toNat < 512 ∧ literalChar c = '\\' :: octalDigits c.toNat) ∨
      (c ≠ '\\' ∧ c ≠ '"' ∧ isControl c = false ∧ literalChar c = [c]) := by
  unfold literalChar
  split_ifs with h₁ h₂ h₃ h₄ h₅ h₆
  · exact Or.inl ⟨'\\', by rw [h₁]; rfl, rfl, rfl⟩
  · exact Or.inl ⟨'"', by rw [h₂]; rfl, rfl, rfl⟩
  · exact Or.inl ⟨'n', by rw [h₃]; rfl, rfl, rfl⟩
  · exact Or.inl ⟨'r', by rw [h₄]; rfl, rfl, rfl⟩
  · exact Or.inl ⟨'t', by rw [h₅]; rfl, rfl, rfl⟩
  · exact Or.inr (Or.inl ⟨by omega, rfl⟩)
  · refine Or.inr (Or.inr ⟨h₁, h₂, ?_, rfl⟩)
    simpa [isControl] using h₆

theorem octalValue?_digitChar {k : Nat} (h : k < 8) : octalValue? (Nat.digitChar k) = some k := by
  revert k
  decide

theorem isControl_digitChar {k : Nat} (h : k < 8) : isControl (Nat.digitChar k) = false := by
  revert k
  decide

theorem letterEscape?_digitChar {k : Nat} (h : k < 8) : letterEscape? (Nat.digitChar k) = none := by
  revert k
  decide

/-- Three octal digits are read back; a fourth one is not looked for. -/
theorem lexEscape?_octalDigits {n : Nat} (h : n < 512) (rest : List Char) :
    lexEscape? (octalDigits n ++ rest) = some (Char.ofNat n, rest) := by
  have hlt (k : Nat) : k % 8 < 8 := Nat.mod_lt k (by decide)
  have hvalue : 8 * (8 * (n / 64 % 8) + n / 8 % 8) + n % 8 = n := by omega
  simp only [octalDigits, List.cons_append, List.nil_append, lexEscape?, takeOctal,
    letterEscape?_digitChar (hlt _), octalValue?_digitChar (hlt _), hvalue, Prod.map, id]

/-- Each character is read back, whatever follows it. -/
theorem lexChar?_literalChar (c : Char) (rest : List Char) :
    lexChar? (literalChar c ++ rest) = some (c, rest) := by
  obtain ⟨x, hx, -, hc⟩ | ⟨hlt, hc⟩ | ⟨hbackslash, -, hcontrol, hc⟩ := literalChar_forms c
  · simp [hc, lexChar?, lexEscape?, hx]
  · rw [hc, List.cons_append, lexChar?, if_pos rfl, lexEscape?_octalDigits hlt, Char.ofNat_toNat]
  · simp [hc, lexChar?, hbackslash, hcontrol]

/-- A character is not taken for the closing quote. -/
theorem head?_literalChar (c : Char) (rest : List Char) :
    (literalChar c ++ rest).head? ≠ some '"' := by
  obtain ⟨x, -, -, hc⟩ | ⟨-, hc⟩ | ⟨-, hquote, -, hc⟩ := literalChar_forms c
  · simp [hc]
  · simp [hc]
  · simpa [hc] using hquote

/-- No control character is written as it is. -/
theorem isControl_of_mem_literalChar {c x : Char} (h : x ∈ literalChar c) : isControl x = false := by
  have hbackslash : isControl '\\' = false := rfl
  have hoctal (k : Nat) : isControl (Nat.digitChar (k % 8)) = false :=
    isControl_digitChar (Nat.mod_lt k (by decide))
  obtain ⟨y, -, hy, hc⟩ | ⟨-, hc⟩ | ⟨-, -, hcontrol, hc⟩ := literalChar_forms c
  all_goals
    rw [hc] at h
    simp only [octalDigits, List.mem_cons, List.not_mem_nil, or_false] at h
  · rcases h with rfl | rfl
    · exact hbackslash
    · exact hy
  · rcases h with rfl | rfl | rfl | rfl
    · exact hbackslash
    · exact hoctal _
    · exact hoctal _
    · exact hoctal _
  · rw [h]
    exact hcontrol

/-! ### Literals -/

/-- The characters of a text are read back one by one, up to the quote. -/
theorem lexBody?_flatMap (s rest : List Char) :
    lexBody? (s.flatMap literalChar ++ '"' :: rest) = some (s, rest) := by
  induction s with
  | nil =>
      rw [lexBody?]
      rfl
  | cons c s ih =>
      rw [List.flatMap_cons, List.append_assoc, lexBody?, if_neg (head?_literalChar c _)]
      split
      · rename_i hnone
        rw [lexChar?_literalChar] at hnone
        cases hnone
      · rename_i d r hsome
        rw [lexChar?_literalChar] at hsome
        obtain ⟨rfl, rfl⟩ := Prod.mk.inj (Option.some.inj hsome)
        rw [ih]
        rfl

/-- **A literal is read back as its text, up to its closing quote.**  What follows it in the sketch is
left as it is, and no line feed or other control character stands in it. -/
theorem lexLiteral?_literal (s rest : String) :
    lexLiteral? (literal s ++ rest).toList = some (s.toList, rest.toList) ∧
      ∀ c ∈ (literal s).toList, isControl c = false := by
  have hliteral : (literal s).toList = '"' :: (s.toList.flatMap literalChar ++ ['"']) := by
    rw [literal, String.toList_ofList, literalChars, List.cons_append]
  constructor
  · rw [String.toList_append, hliteral, List.cons_append, List.append_assoc, lexLiteral?, if_pos rfl]
    exact lexBody?_flatMap s.toList rest.toList
  · intro c hc
    rw [hliteral, List.mem_cons, List.mem_append, List.mem_singleton, List.mem_flatMap] at hc
    rcases hc with rfl | ⟨x, -, hx⟩ | rfl
    · rfl
    · exact isControl_of_mem_literalChar hx
    · rfl

/-- An octal escape takes the digits that follow it, up to three in all. -/
example : lexLiteral? "\"\\1012\\12\";".toList = some (['A', '2', '\n'], [';']) := by
  cbv

end BlockSketch.Sketch
