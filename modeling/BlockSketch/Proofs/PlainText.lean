/-
**Lines that start no function.**

The loop function of a sketch is found by the first place where its header is recognised.  A text is
plain if it has no line feed and no `void` in it, so that no header can start within it.  If the texts
of a program are plain, then so are the lines of its sketch: what stands between two texts in a line
starts and ends with characters that `void` does not have, so that no `void` arises where they meet.

Main definitions:

* `BlockSketch.Plain`, `BlockSketch.IsPlain` — plain texts;
* `BlockSketch.Operand.texts`, `BlockSketch.Action.texts`, `BlockSketch.Statement.texts` — the texts of
  a statement, without those of its bodies.

Main results:

* `BlockSketch.Plain.append` — plain texts can be joined where no `void` arises;
* `BlockSketch.isPlain_literal`, `BlockSketch.isPlain_commentText` — literals and comments of plain
  texts are plain;
* `BlockSketch.Action.isPlain_text` — **the line of an action is plain if its texts are**.
-/

import BlockSketch.Proofs.Numerals
import BlockSketch.Proofs.Scanning
import BlockSketch.Sketch.Render
import Mathlib.Data.List.Infix

set_option relaxedAutoImplicit false
set_option autoImplicit false

namespace BlockSketch

open BlockSketch.Text

/-! ### Plain texts -/

/-- A text without line feeds in which no function starts. -/
def Plain (s : List Char) : Prop :=
  '\n' ∉ s ∧ ¬ "void".toList <:+: s

instance (s : List Char) : Decidable (Plain s) :=
  inferInstanceAs (Decidable (_ ∧ _))

/-- A character that `void` does not have. -/
def isBreak (c : Char) : Bool :=
  c ∉ "void".toList

namespace Plain

variable {s t : List Char}

theorem of_infix (h : Plain t) (hs : s <:+: t) : Plain s :=
  ⟨fun hmem => h.1 (hs.subset hmem), fun hvoid => h.2 (hvoid.trans hs)⟩

/-- Characters that `void` does not have make a plain text. -/
theorem of_breaks (h : ∀ c ∈ s, isBreak c = true ∧ c ≠ '\n') : Plain s := by
  refine ⟨fun hmem => (h _ hmem).2 rfl, fun hvoid => ?_⟩
  have hv := (h 'v' (hvoid.subset (by decide))).1
  exact absurd hv (by decide)

/-- Plain texts can be joined where no `void` arises. -/
theorem append (hs : Plain s) (ht : Plain t)
    (h : (∀ c ∈ s.getLast?, isBreak c = true) ∨ ∀ c ∈ t.head?, isBreak c = true) :
    Plain (s ++ t) := by
  refine ⟨fun hmem => (List.mem_append.1 hmem).elim hs.1 ht.1, fun hvoid => ?_⟩
  rcases List.infix_append_iff_ne_nil.1 hvoid with hv | hv | ⟨v, w, hv, hw, hvw, ⟨s', rfl⟩, t', rfl⟩
  · exact hs.2 hv
  · exact ht.2 hv
  · have hbreak : ∀ c ∈ v ++ w, isBreak c = false := by
      rw [← hvw]
      decide
    rcases h with h | h
    · have hlast := h (v.getLast hv)
        (by simp [List.getLast?_append, List.getLast?_eq_some_getLast hv])
      rw [hbreak _ (List.mem_append_left w (List.getLast_mem hv))] at hlast
      simp at hlast
    · have hfirst := h (w.head hw) (by simp [List.head?_append, List.head?_eq_some_head hw])
      rw [hbreak _ (List.mem_append_right v (List.head_mem hw))] at hfirst
      simp at hfirst

end Plain

/-- A text without line feeds in which no function starts. -/
def IsPlain (s : String) : Prop :=
  Plain s.toList

instance (s : String) : Decidable (IsPlain s) :=
  inferInstanceAs (Decidable (Plain _))

/-- A plain text that starts with a character that `void` does not have. -/
def StartsFree (m : String) : Prop :=
  IsPlain m ∧ ∀ c ∈ m.toList.head?, isBreak c = true

/-- A plain text that ends with a character that `void` does not have. -/
def EndsFree (m : String) : Prop :=
  IsPlain m ∧ ∀ c ∈ m.toList.getLast?, isBreak c = true

/-- A plain text that can stand between any two others. -/
def Separates (m : String) : Prop :=
  m.toList ≠ [] ∧ StartsFree m ∧ EndsFree m

instance (m : String) : Decidable (StartsFree m) :=
  inferInstanceAs (Decidable (_ ∧ _))

instance (m : String) : Decidable (EndsFree m) :=
  inferInstanceAs (Decidable (_ ∧ _))

instance (m : String) : Decidable (Separates m) :=
  inferInstanceAs (Decidable (_ ∧ _ ∧ _))

namespace IsPlain

variable {s t m : String}

theorem before (hs : IsPlain s) (hm : StartsFree m) : IsPlain (s ++ m) := by
  rw [IsPlain, String.toList_append]
  exact Plain.append hs hm.1 (Or.inr hm.2)

theorem after (hs : IsPlain s) (hm : EndsFree m) : IsPlain (m ++ s) := by
  rw [IsPlain, String.toList_append]
  exact Plain.append hm.1 hs (Or.inl hm.2)

theorem join (hs : IsPlain s) (hm : Separates m) (ht : IsPlain t) : IsPlain (s ++ m ++ t) := by
  rw [IsPlain, String.toList_append]
  refine Plain.append (hs.before hm.2.1) ht (Or.inl ?_)
  rw [String.toList_append, List.getLast?_append_of_ne_nil _ hm.1]
  exact hm.2.2.2

end IsPlain

/-! ### Numbers -/

theorem isPlain_numberText (x : Dyadic) : IsPlain (numberText x) := by
  refine Plain.of_breaks fun c hc => ?_
  rcases isNumeralChar_of_mem_numberText hc with hdigit | hmark
  · have hne (d : Char) (hd : d.isDigit = false) : c ≠ d := by
      rintro rfl
      rw [hdigit] at hd
      simp at hd
    refine ⟨?_, hne _ (by decide)⟩
    have hvoid : ∀ d ∈ "void".toList, c ≠ d := fun d hd => hne d (by revert d; decide)
    simpa [isBreak] using hvoid
  · have hmarks : ∀ d ∈ ['-', '+', '.', 'e'], isBreak d = true ∧ d ≠ '\n' := by decide
    exact hmarks c hmark

/-! ### Literals -/

/-- The characters of escapes. -/
def escapeChars : List Char :=
  ['\\', '"', 'n', 'r', 't', '0', '1', '2', '3', '4', '5', '6', '7']

/-- A character is written as it is or by an escape. -/
theorem literalChar_cases (c : Char) :
    Sketch.literalChar c = [c] ∨
      (Sketch.literalChar c ≠ [] ∧ ∀ x ∈ Sketch.literalChar c, x ∈ escapeChars) := by
  have hoctal : ∀ k < 8, Nat.digitChar k ∈ escapeChars := by decide
  have hmod (k : Nat) : Nat.digitChar (k % 8) ∈ escapeChars := hoctal _ (Nat.mod_lt k (by decide))
  unfold Sketch.literalChar
  split_ifs
  · exact Or.inr (by decide)
  · exact Or.inr (by decide)
  · exact Or.inr (by decide)
  · exact Or.inr (by decide)
  · exact Or.inr (by decide)
  · refine Or.inr ⟨by simp, ?_⟩
    simp only [Sketch.octalDigits, List.forall_mem_cons, hmod, List.not_mem_nil, false_imp_iff,
      implies_true, and_true]
    decide
  · exact Or.inl rfl

section Escapes

variable {w : List Char} (hw : ∀ x ∈ w, isBreak x = false)
include hw

theorem not_mem_escapeChars {x : Char} (hx : x ∈ w) : x ∉ escapeChars := by
  have hbreak : ∀ y ∈ escapeChars, isBreak y = true := by decide
  intro hmem
  have hx' := hbreak x hmem
  rw [hw x hx] at hx'
  simp at hx'

/-- What stands at the start of a literal and is not escaped stands at the start of the text. -/
theorem prefix_of_prefix_flatMap {s : List Char} (h : w <+: s.flatMap Sketch.literalChar) :
    w <+: s := by
  induction w generalizing s with
  | nil => exact List.nil_prefix
  | cons x w ih =>
      cases s with
      | nil => simp at h
      | cons c s =>
          rw [List.flatMap_cons] at h
          rcases literalChar_cases c with hc | ⟨hne, hescape⟩
          · rw [hc, List.singleton_append, List.cons_prefix_cons] at h
            rw [List.cons_prefix_cons]
            exact ⟨h.1, ih (fun y hy => hw y (List.mem_cons_of_mem x hy)) h.2⟩
          · obtain ⟨y, ys, hy⟩ := List.exists_cons_of_ne_nil hne
            rw [hy, List.cons_append, List.cons_prefix_cons] at h
            refine absurd (hescape y (by simp [hy])) ?_
            rw [← h.1]
            exact not_mem_escapeChars hw List.mem_cons_self

/-- What stands in a literal and is not escaped stands in the text. -/
theorem infix_of_infix_flatMap (hne : w ≠ []) {s : List Char}
    (h : w <:+: s.flatMap Sketch.literalChar) : w <:+: s := by
  induction s with
  | nil => exact h
  | cons c s ih =>
      rcases literalChar_cases c with hc | ⟨-, hescape⟩
      · rw [List.flatMap_cons, hc, List.singleton_append, List.infix_cons_iff] at h
        rcases h with h | h
        · refine (prefix_of_prefix_flatMap hw ?_).isInfix
          rwa [List.flatMap_cons, hc]
        · exact List.infix_cons (ih h)
      · rw [List.flatMap_cons, List.infix_append_iff_ne_nil] at h
        rcases h with h | h | ⟨u, v, hu, -, rfl, hsuffix, -⟩
        · have hmem := List.head_mem hne
          exact absurd (hescape _ (h.subset hmem)) (not_mem_escapeChars hw hmem)
        · exact List.infix_cons (ih h)
        · have hmem := List.head_mem hu
          exact absurd (hescape _ (hsuffix.subset hmem))
            (not_mem_escapeChars hw (List.mem_append_left v hmem))

end Escapes

/-- The literal of a plain text is plain. -/
theorem isPlain_literal {s : String} (h : IsPlain s) : IsPlain (Sketch.literal s) := by
  have hflat : Plain (s.toList.flatMap Sketch.literalChar) := by
    refine ⟨fun hmem => ?_, fun hvoid => ?_⟩
    · obtain ⟨c, hc, hx⟩ := List.mem_flatMap.1 hmem
      rcases literalChar_cases c with heq | ⟨-, hescape⟩
      · rw [heq, List.mem_singleton] at hx
        exact h.1 (hx ▸ hc)
      · exact absurd (hescape _ hx) (by decide)
    · exact h.2 (infix_of_infix_flatMap (by decide) (by decide) hvoid)
  have hquote : Plain ['"'] := by decide
  rw [IsPlain, Sketch.literal, String.toList_ofList, Sketch.literalChars]
  exact Plain.append (Plain.append hquote hflat (Or.inl (by decide))) hquote (Or.inr (by decide))

/-! ### Comments -/

theorem words_cons (c : Char) (cs : List Char) :
    words (c :: cs) =
      if isBlank c then words cs
      else match cs with
        | [] => [[c]]
        | d :: _ =>
          if isBlank d then [c] :: words cs
          else match words cs with
            | [] => [[c]]
            | w :: ws => (c :: w) :: ws :=
  words.eq_def _

/-- The words of a text stand in it, and the first one at its start if the text does not start with a
blank. -/
theorem infix_words (s : List Char) :
    (∀ w ∈ words s, w <:+: s) ∧
      ∀ w ws, words s = w :: ws → (∀ c ∈ s.head?, isBlank c = false) → w <+: s := by
  induction s with
  | nil =>
      have hnil : words [] = [] := rfl
      simp [hnil]
  | cons c cs ih =>
      obtain ⟨hpart, hfirst⟩ := ih
      have htail : ∀ w ∈ words cs, w <:+: c :: cs := fun w hw => List.infix_cons (hpart w hw)
      -- it is enough to know the first word
      have hall (u : List Char) (us : List (List Char)) (hwords : words (c :: cs) = u :: us)
          (hu : u <+: c :: cs) (hus : ∀ w ∈ us, w ∈ words cs) :
          (∀ w ∈ words (c :: cs), w <:+: c :: cs) ∧
            ∀ w ws, words (c :: cs) = w :: ws →
              (∀ x ∈ (c :: cs).head?, isBlank x = false) → w <+: c :: cs := by
        rw [hwords, List.forall_mem_cons]
        refine ⟨⟨hu.isInfix, fun w hw => htail w (hus w hw)⟩, fun w ws heq _ => ?_⟩
        rwa [← (List.cons.inj heq).1]
      cases hc : isBlank c with
      | true =>
          rw [words_cons, if_pos hc]
          refine ⟨htail, fun w ws _ hhead => ?_⟩
          rw [hhead c rfl] at hc
          simp at hc
      | false =>
          have hc' : ¬ isBlank c = true := by simp [hc]
          cases cs with
          | nil =>
              exact hall [c] [] (by rw [words_cons, if_neg hc']) (List.prefix_refl _) (by simp)
          | cons d ds =>
              cases hd : isBlank d with
              | true =>
                  refine hall [c] (words (d :: ds)) ?_ (by simp) fun w hw => hw
                  rw [words_cons, if_neg hc']
                  exact if_pos hd
              | false =>
                  cases hws : words (d :: ds) with
                  | nil =>
                      refine hall [c] [] ?_ (by simp) (by simp)
                      rw [words_cons, if_neg hc', hws]
                      exact if_neg (by simp [hd])
                  | cons v vs =>
                      refine hall (c :: v) vs ?_ ?_ ?_
                      · rw [words_cons, if_neg hc', hws]
                        exact if_neg (by simp [hd])
                      · rw [List.cons_prefix_cons]
                        exact ⟨rfl, hfirst v vs hws (by simp [hd])⟩
                      · intro w hw
                        rw [hws]
                        exact List.mem_cons_of_mem v hw

theorem plain_intercalate {ws : List (List Char)} (h : ∀ w ∈ ws, Plain w) :
    Plain (List.intercalate [' '] ws) := by
  induction ws with
  | nil =>
      rw [List.intercalate_nil]
      decide
  | cons w ws ih =>
      rw [List.forall_mem_cons] at h
      cases ws with
      | nil =>
          rw [List.intercalate_singleton]
          exact h.1
      | cons v vs =>
          rw [List.intercalate_cons_cons]
          refine Plain.append (Plain.append h.1 (by decide) (Or.inr (by decide))) (ih h.2) (Or.inl ?_)
          simp [List.getLast?_append]
          decide

/-- The comment of a plain text is plain. -/
theorem isPlain_commentText {s : String} (h : IsPlain s) : IsPlain (Sketch.commentText s) := by
  have hwords : Plain (List.intercalate [' '] (words s.toList)) :=
    plain_intercalate fun w hw => h.of_infix ((infix_words s.toList).1 w hw)
  have hchars : Plain (Sketch.commentChars s.toList) := by
    refine hwords.of_infix ?_
    rw [Sketch.commentChars, dropEndWhile, ← List.reverse_infix, List.reverse_reverse]
    exact (List.dropWhile_suffix _).isInfix
  unfold Sketch.commentText
  dsimp only
  split
  · decide
  · rwa [IsPlain, String.toList_ofList]

/-! ### Statements -/

/-- The text of an operand that is one. -/
def Operand.texts : Operand → List String
  | .text s => [s]
  | _ => []

/-- The texts of an action. -/
def Action.texts : Action → List String
  | .comment text => [text]
  | .delay ms => ms.texts
  | .digitalWrite pin level => level :: pin.texts
  | .digitalRead pin name => name :: pin.texts
  | .analogWrite pin value => value :: pin.texts
  | .analogRead pin name => [pin, name]
  | .servoAttach name pin => name :: pin.texts
  | .servoWrite name angle => [name, angle]
  | .assign name value => [name, value]
  | .change name delta => name :: delta.texts
  | .arithmetic target left op right => [target, left, op, right]
  | .random target low high => target :: (low.texts ++ high.texts)
  | .serialBegin baud => baud.texts
  | .serialPrint message => [message]
  | .serialPrintValue value _ => [value]
  | .unknown tag => [tag]
  | .foreign name => [name]

/-- The texts of a statement, without those of its bodies. -/
def Statement.texts : Statement → List String
  | .action a => a.texts
  | .branch condition _ _ => [condition]
  | .forLoop name start stop step _ => name :: (start.texts ++ stop.texts ++ step.texts)
  | .whileLoop condition _ => [condition]

theorem Operand.isPlain_render {o : Operand} (h : ∀ t ∈ o.texts, IsPlain t) :
    IsPlain o.render := by
  cases o with
  | number x => exact isPlain_numberText x
  | float x => exact isPlain_numberText x
  | infinite negative => cases negative <;> decide
  | nan => decide
  | flag b => cases b <;> decide
  | text s => exact h s (List.mem_singleton_self s)

/-- **The line of an action is plain if its texts are.** -/
theorem Action.isPlain_text {a : Action} (h : ∀ t ∈ a.texts, IsPlain t) : IsPlain a.text := by
  cases a with
  | comment text => exact (isPlain_commentText (h text (by simp [texts]))).after (by decide)
  | delay ms => exact ((Operand.isPlain_render h).after (by decide)).before (by decide)
  | digitalWrite pin level =>
      obtain ⟨hlevel, hpin⟩ := List.forall_mem_cons.1 h
      have hcall := (Operand.isPlain_render hpin).after (m := "digitalWrite(") (by decide)
      exact (hcall.join (by decide) hlevel).before (by decide)
  | digitalRead pin name =>
      obtain ⟨hname, hpin⟩ := List.forall_mem_cons.1 h
      exact (hname.join (by decide) (Operand.isPlain_render hpin)).before (by decide)
  | analogWrite pin value =>
      obtain ⟨hvalue, hpin⟩ := List.forall_mem_cons.1 h
      have hcall := (Operand.isPlain_render hpin).after (m := "analogWrite(") (by decide)
      exact (hcall.join (by decide) hvalue).before (by decide)
  | analogRead pin name =>
      have hpin : IsPlain pin := h pin (by simp [texts])
      have hname : IsPlain name := h name (by simp [texts])
      exact (hname.join (by decide) hpin).before (by decide)
  | servoAttach name pin =>
      obtain ⟨hname, hpin⟩ := List.forall_mem_cons.1 h
      exact (hname.join (by decide) (Operand.isPlain_render hpin)).before (by decide)
  | servoWrite name angle =>
      have hname : IsPlain name := h name (by simp [texts])
      have hangle : IsPlain angle := h angle (by simp [texts])
      exact (hname.join (by decide) hangle).before (by decide)
  | assign name value =>
      have hname : IsPlain name := h name (by simp [texts])
      have hvalue : IsPlain value := h value (by simp [texts])
      exact (hname.join (by decide) hvalue).before (by decide)
  | change name delta =>
      obtain ⟨hname, hdelta⟩ := List.forall_mem_cons.1 h
      exact (hname.join (by decide) (Operand.isPlain_render hdelta)).before (by decide)
  | arithmetic target left op right =>
      have hplain (t : String) (ht : t ∈ [target, left, op, right]) : IsPlain t := h t ht
      have hleft := (hplain target (by simp)).join (m := " = ") (by decide) (hplain left (by simp))
      have hop := hleft.join (m := " ") (by decide) (hplain op (by simp))
      exact (hop.join (by decide) (hplain right (by simp))).before (by decide)
  | random target low high =>
      obtain ⟨htarget, hbounds⟩ := List.forall_mem_cons.1 h
      obtain ⟨hlow, hhigh⟩ := List.forall_mem_append.1 hbounds
      have hcall := htarget.join (m := " = random(") (by decide) (Operand.isPlain_render hlow)
      exact (hcall.join (by decide) (Operand.isPlain_render hhigh)).before (by decide)
  | serialBegin baud => exact ((Operand.isPlain_render h).after (by decide)).before (by decide)
  | serialPrint message =>
      have hmessage : IsPlain message := h message (by simp [texts])
      exact ((isPlain_literal hmessage).after (by decide)).before (by decide)
  | serialPrintValue value newline =>
      have hvalue : IsPlain value := h value (by simp [texts])
      cases newline with
      | true => exact (hvalue.after (m := "Serial.println(") (by decide)).before (by decide)
      | false => exact (hvalue.after (m := "Serial.print(") (by decide)).before (by decide)
  | unknown tag =>
      have htag : IsPlain (if tag = "" then "unknown" else tag) := by
        split
        · decide
        · exact h tag (by simp [texts])
      exact htag.after (by decide)
  | foreign name => exact (h name (by simp [texts])).after (by decide)

end BlockSketch
