/-
**Lines that are recognised.**

Every shape of a line has an opening parenthesis after a word of its own.  In a line with only one
opening parenthesis, the text before it tells which shapes are out of the question; so a line of that
kind shows a block if the shape of the block is recognised at its start and no earlier shape has a
word that the text before the parenthesis ends with.

Main definitions:

* `BlockSketch.Opens` — a shape that needs a word and an opening parenthesis after it;
* `BlockSketch.openers` — the words of the shapes, in order;
* `BlockSketch.IsDigits`, `BlockSketch.IsName` — rows of digits and names.

Main results:

* `BlockSketch.recognise_of_shape` — **one parenthesis decides which shape a line has**;
* `BlockSketch.recognise_delay`, `BlockSketch.recognise_digitalWrite` and so on — the lines of the
  blocks show these blocks.
-/

import BlockSketch.Proofs.Scanning
import BlockSketch.Proofs.Numerals
import BlockSketch.Sketch.Recognise

set_option relaxedAutoImplicit false
set_option autoImplicit false

namespace BlockSketch

open BlockSketch.Text

/-! ### One parenthesis -/

/-- A shape is only recognised where the word stands with an opening parenthesis after it, up to
blanks. -/
def Opens (word : String) (shape : List Char → Option Found) : Prop :=
  ∀ s found, shape s = some found →
    ∃ a b r, s = a ++ (word.toList ++ (b ++ '(' :: r)) ∧ ∀ x ∈ b, isBlank x = true

/-- The words of the shapes, in order. -/
def openers : List String :=
  ["delay", "digitalWrite", "analogWrite", ".write", ".attach", "Serial.println", "for", "if",
   "while"]

theorem opens_of_afterWord? {word : String} {shape : List Char → Option Found}
    (h : ∀ s found, shape s = some found →
      ∃ t r, afterWord? word.toList s = some t ∧ afterMark? '(' t = some r) : Opens word shape := by
  intro s found hs
  obtain ⟨t, r, hword, hmark⟩ := h s found hs
  obtain ⟨b, rfl, hb⟩ := afterMark?_eq_some hmark
  exact ⟨[], b, r, by simpa using afterWord?_eq_some_iff.1 hword, hb⟩

theorem opens_method (method : String) (kind : Kind) (key : String) :
    Opens method (methodShape method kind key) := by
  intro s found hs
  simp only [methodShape, Option.bind_eq_bind, Option.bind_eq_some_iff] at hs
  obtain ⟨⟨name, t⟩, hname, u, hword, r, hmark, -⟩ := hs
  obtain ⟨b, rfl, hb⟩ := afterMark?_eq_some hmark
  refine ⟨name, b, r, ?_, hb⟩
  rw [takeWord?_eq_some hname, ← afterWord?_eq_some_iff.1 hword]

/-- Each shape needs its word. -/
theorem opens_shapes : ∀ p ∈ openers.zip shapes, Opens p.1 p.2 := by
  simp only [openers, shapes, List.zip_cons_cons, List.zip_nil_left, List.forall_mem_cons,
    List.not_mem_nil, false_imp_iff, implies_true, and_true]
  refine ⟨opens_of_afterWord? ?_, opens_of_afterWord? ?_, opens_of_afterWord? ?_,
    opens_method _ _ _, opens_method _ _ _, opens_of_afterWord? ?_, opens_of_afterWord? ?_,
    opens_of_afterWord? ?_, opens_of_afterWord? ?_⟩
  all_goals
    intro s found hs
    simp only [delayShape, digitalWriteShape, analogWriteShape, printShape, forShape,
      conditionShape, Option.bind_eq_bind, Option.bind_eq_some_iff] at hs
    obtain ⟨t, hword, r, hmark, -⟩ := hs
    exact ⟨t, r, hword, hmark⟩

/-- A line without an opening parenthesis shows no block. -/
theorem recognise_eq_none {line : List Char} (h : '(' ∉ line) : recognise line = none := by
  rw [recognise, List.findSome?_eq_none_iff]
  intro shape hshape
  have hlen : openers.length = shapes.length := rfl
  obtain ⟨p, hp, rfl⟩ : ∃ p ∈ openers.zip shapes, p.2 = shape := by
    rw [← List.map_snd_zip (Nat.le_of_eq hlen.symm)] at hshape
    exact List.mem_map.1 hshape
  rw [search_eq_none_iff]
  rintro t ht
  cases hfound : p.2 t with
  | none => rfl
  | some found =>
      obtain ⟨a, b, r, rfl, -⟩ := opens_shapes p hp t found hfound
      exact absurd (ht.subset (by simp)) h

/-- Blanks at the end do not hide a word before them. -/
theorem suffix_dropEndWhile {w a b : List Char} (hw : ∀ c ∈ w.getLast?, isBlank c = false)
    (hb : ∀ x ∈ b, isBlank x = true) : w <:+ dropEndWhile isBlank (a ++ (w ++ b)) := by
  rw [dropEndWhile, List.reverse_append, List.reverse_append, List.append_assoc,
    List.dropWhile_append_of_pos (by simpa using hb)]
  cases hr : w.reverse with
  | nil => simp [List.reverse_eq_nil_iff.1 hr]
  | cons c cs =>
      have hc : isBlank c = false := hw c (by rw [List.getLast?_eq_head?_reverse, hr]; rfl)
      rw [List.cons_append, List.dropWhile_cons_of_neg (by simp [hc]), ← List.cons_append, ← hr,
        List.reverse_append, List.reverse_reverse, List.reverse_reverse]
      exact List.suffix_append a w

section Line

variable {pre post : List Char} (hpre : '(' ∉ pre) (hpost : '(' ∉ post)
include hpre hpost

/-- A shape is not found in a line if the text before its parenthesis does not end with the word. -/
theorem search_eq_none_of_opens {word : String} {shape : List Char → Option Found}
    (h : Opens word shape) (hlast : ∀ c ∈ word.toList.getLast?, isBlank c = false)
    (hword : ¬ word.toList <:+ dropEndWhile isBlank pre) :
    search shape (pre ++ '(' :: post) = none := by
  rw [search_eq_none_iff]
  rintro t ⟨u, hu⟩
  cases ht : shape t with
  | none => rfl
  | some found =>
      obtain ⟨a, b, r, rfl, hb⟩ := h t found ht
      -- there is only one place for the parenthesis
      have hsplit : pre ++ '(' :: post = ((u ++ a) ++ (word.toList ++ b)) ++ '(' :: r := by
        simpa using hu.symm
      rw [((List.append_cons_inj_of_notMem hpre hpost).1 hsplit).1] at hword
      exact absurd (suffix_dropEndWhile hlast hb) hword

/-- **One parenthesis decides which shape a line has.** -/
theorem recognise_of_shape (i : Nat) {shape : List Char → Option Found} {found : Found}
    (hi : shapes[i]? = some shape) (hshape : shape (pre ++ '(' :: post) = some found)
    (hothers : ∀ w ∈ openers.take i, ¬ w.toList <:+ dropEndWhile isBlank pre) :
    recognise (pre ++ '(' :: post) = some found := by
  have hlast : ∀ w ∈ openers, ∀ c ∈ w.toList.getLast?, isBlank c = false := by decide
  have hlen : openers.length = shapes.length := rfl
  obtain ⟨hlt, hget⟩ := List.getElem?_eq_some_iff.1 hi
  have hearlier : (shapes.take i).findSome? (fun f => search f (pre ++ '(' :: post)) = none := by
    rw [List.findSome?_eq_none_iff]
    intro f hf
    obtain ⟨j, hj, rfl⟩ := List.mem_iff_getElem.1 hf
    rw [List.length_take] at hj
    have hjo : j < openers.length := by omega
    have hopens : Opens openers[j] (shapes.take i)[j] := by
      refine opens_shapes (openers[j], (shapes.take i)[j]) (List.mem_iff_getElem.2 ⟨j, ?_, ?_⟩)
      · rw [List.length_zip]
        omega
      · simp
    refine search_eq_none_of_opens hpre hpost hopens (hlast _ (List.getElem_mem hjo)) ?_
    refine hothers _ (List.mem_iff_getElem.2 ⟨j, ?_, ?_⟩)
    · rw [List.length_take]
      omega
    · simp
  have hsplit : shapes = shapes.take i ++ shape :: shapes.drop (i + 1) := by
    rw [← hget, ← List.drop_eq_getElem_cons hlt, List.take_append_drop]
  rw [recognise, hsplit, List.findSome?_append, hearlier, Option.none_or,
    List.findSome?_cons_of_isSome (by rw [search_of_eq_some hshape]; rfl), search_of_eq_some hshape]

end Line

/-! ### Digits and names -/

/-- A row of digits. -/
def IsDigits (ds : List Char) : Prop :=
  ds ≠ [] ∧ ∀ c ∈ ds, c.isDigit = true

/-- A row of word characters. -/
def IsName (w : List Char) : Prop :=
  w ≠ [] ∧ ∀ c ∈ w, isWord c = true

/-- A row of digits with its sign. -/
def signed (negative : Bool) (ds : List Char) : List Char :=
  if negative then '-' :: ds else ds

section Runs

variable {ds w s : List Char} {c : Char}

theorem IsDigits.not_mem (h : IsDigits ds) (hc : c.isDigit = false) : c ∉ ds := by
  intro hmem
  rw [h.2 c hmem] at hc
  simp at hc

theorem IsName.not_mem (h : IsName w) (hc : isWord c = false) : c ∉ w := by
  intro hmem
  rw [h.2 c hmem] at hc
  simp at hc

/-- Blanks are not dropped before a row of digits. -/
theorem IsDigits.dropBlanks_append (h : IsDigits ds) : dropBlanks (ds ++ s) = ds ++ s := by
  cases ds with
  | nil => exact absurd rfl h.1
  | cons d ds => exact dropBlanks_cons_of_not_blank (isBlank_of_isDigit (h.2 d (by simp))) _

theorem IsName.dropBlanks_append (h : IsName w) : dropBlanks (w ++ s) = w ++ s := by
  cases w with
  | nil => exact absurd rfl h.1
  | cons d w => exact dropBlanks_cons_of_not_blank (isBlank_of_isWord (h.2 d (by simp))) _

theorem IsDigits.takeDigits?_append (h : IsDigits ds) (hc : isDigit c = false) :
    takeDigits? (ds ++ c :: s) = some (ds, c :: s) :=
  Text.takeDigits?_append (fun x hx => isDigit_of_isDigit (h.2 x hx)) h.1 hc

theorem natural?_append (h : IsDigits ds) (hc : isDigit c = false) :
    natural? (ds ++ c :: s) = some (.integer false ds, c :: s) := by
  rw [natural?, h.dropBlanks_append, h.takeDigits?_append hc]
  rfl

theorem natural?_blank (s : List Char) : natural? (' ' :: s) = natural? s := rfl

theorem integerAt?_append {negative : Bool} (h : IsDigits ds) (hc : isDigit c = false) :
    integerAt? (signed negative ds ++ c :: s) = some (.integer negative ds, c :: s) := by
  cases negative with
  | true =>
      have hblank : isBlank '-' = false := by decide
      simp only [signed, if_true, List.cons_append, integerAt?,
        dropBlanks_cons_of_not_blank hblank, h.takeDigits?_append hc, Option.map_some]
  | false =>
      have hsign : '-' ∉ ds := h.not_mem (by decide)
      simp only [signed, Bool.false_eq_true, if_false, integerAt?, h.dropBlanks_append]
      cases ds with
      | nil => exact absurd rfl h.1
      | cons d ds =>
          have hd : d ≠ '-' := fun hd => hsign (hd ▸ List.mem_cons_self)
          rw [List.cons_append]
          split
          · rename_i heq
            exact absurd (List.cons.inj heq).1 hd
          · rw [← List.cons_append, h.takeDigits?_append hc, Option.map_some]

theorem integerAt?_blank (s : List Char) : integerAt? (' ' :: s) = integerAt? s := rfl

end Runs

/-- One of the two levels of a pin is found. -/
theorem level?_append {level : List Char} (h : level = "HIGH".toList ∨ level = "LOW".toList)
    (s : List Char) : level? (' ' :: (level ++ s)) = some (.text level, s) := by
  rcases h with rfl | rfl <;> rfl

/-! ### The lines of actions -/

section Lines

variable {ds ds' name message condition : List Char}

theorem recognise_delay (h : IsDigits ds) :
    recognise ("delay".toList ++ '(' :: (ds ++ [')', ';'])) =
      some ⟨.delay, [("ms", .integer false ds)]⟩ := by
  have hds : '(' ∉ ds := h.not_mem (by decide)
  refine recognise_of_shape (by decide) (by simp [hds]) 0 rfl ?_ (by decide)
  simp (disch := decide) only [delayShape, afterWord?_append, afterMark?_cons, natural?_append h,
    Option.bind_eq_bind, Option.bind_some, Option.pure_def]

theorem recognise_digitalWrite {level : List Char} (h : IsDigits ds)
    (hl : level = "HIGH".toList ∨ level = "LOW".toList) :
    recognise ("digitalWrite".toList ++ '(' :: (ds ++ ',' :: ' ' :: (level ++ [')', ';']))) =
      some ⟨.digitalWrite, [("pin", .integer false ds), ("value", .text level)]⟩ := by
  have hds : '(' ∉ ds := h.not_mem (by decide)
  have hlevel : '(' ∉ level := by rcases hl with rfl | rfl <;> decide
  refine recognise_of_shape (by decide) (by simp [hds, hlevel]) 1 rfl ?_ (by decide)
  simp (disch := decide) only [digitalWriteShape, afterWord?_append, afterMark?_cons,
    natural?_append h, level?_append hl, Option.bind_eq_bind, Option.bind_some, Option.pure_def]

theorem recognise_analogWrite (h : IsDigits ds) (h' : IsDigits ds') :
    recognise ("analogWrite".toList ++ '(' :: (ds ++ ',' :: ' ' :: (ds' ++ [')', ';']))) =
      some ⟨.analogWrite, [("pin", .integer false ds), ("value", .integer false ds')]⟩ := by
  have hds : '(' ∉ ds := h.not_mem (by decide)
  have hds' : '(' ∉ ds' := h'.not_mem (by decide)
  refine recognise_of_shape (by decide) (by simp [hds, hds']) 2 rfl ?_ (by decide)
  simp (disch := decide) only [analogWriteShape, afterWord?_append, afterMark?_cons,
    natural?_append h, natural?_blank, natural?_append h', Option.bind_eq_bind, Option.bind_some,
    Option.pure_def]

/-- A method call ends with none of the words that are no end of the method's name. -/
theorem not_suffix_method {m w : List Char} (hm : ∀ c ∈ m.getLast?, isBlank c = false)
    (hw : ¬ w <:+ m) (hw' : ¬ m <:+ w) : ¬ w <:+ dropEndWhile isBlank (name ++ m) := by
  intro h
  have hmethod : m <:+ dropEndWhile isBlank (name ++ m) := by
    simpa using suffix_dropEndWhile (a := name) (b := []) hm (by simp)
  exact (List.suffix_or_suffix_of_suffix h hmethod).elim hw hw'

theorem methodShape_append {method key : String} {kind : Kind} {m : List Char}
    (hm : method.toList = '.' :: m) (hn : IsName name) (h : IsDigits ds) :
    methodShape method kind key (name ++ method.toList ++ '(' :: (ds ++ [')', ';'])) =
      some ⟨kind, [("variable", .text name), (key, .integer false ds)]⟩ := by
  have hname : takeWord? (name ++ (method.toList ++ '(' :: (ds ++ [')', ';']))) =
      some (name, method.toList ++ '(' :: (ds ++ [')', ';'])) := by
    rw [hm]
    exact takeWord?_append hn.2 hn.1 (by decide)
  rw [List.append_assoc]
  simp (disch := decide) only [methodShape, hname, afterWord?_append, afterMark?_cons,
    natural?_append h, Option.bind_eq_bind, Option.bind_some, Option.pure_def]

/-- The line of a method call shows its block, if no earlier word is an end of the method's name. -/
theorem recognise_method {method key : String} {kind : Kind} {m : List Char} (i : Nat)
    (hi : shapes[i]? = some (methodShape method kind key)) (hm : method.toList = '.' :: m)
    (hopen : '(' ∉ method.toList) (hlast : ∀ c ∈ method.toList.getLast?, isBlank c = false)
    (hothers : ∀ w ∈ openers.take i,
      ¬ w.toList <:+ method.toList ∧ ¬ method.toList <:+ w.toList)
    (hn : IsName name) (h : IsDigits ds) :
    recognise (name ++ method.toList ++ '(' :: (ds ++ [')', ';'])) =
      some ⟨kind, [("variable", .text name), (key, .integer false ds)]⟩ := by
  have hds : '(' ∉ ds := h.not_mem (by decide)
  have hname : '(' ∉ name := hn.not_mem (by decide)
  refine recognise_of_shape (by simp [hname, hopen]) (by simp [hds]) i hi
    (methodShape_append hm hn h) fun w hw => ?_
  exact not_suffix_method hlast (hothers w hw).1 (hothers w hw).2

theorem recognise_servoWrite (hn : IsName name) (h : IsDigits ds) :
    recognise (name ++ ".write".toList ++ '(' :: (ds ++ [')', ';'])) =
      some ⟨.servoWrite, [("variable", .text name), ("angle", .integer false ds)]⟩ :=
  recognise_method 3 rfl rfl (by decide) (by decide) (by decide) hn h

theorem recognise_servoAttach (hn : IsName name) (h : IsDigits ds) :
    recognise (name ++ ".attach".toList ++ '(' :: (ds ++ [')', ';'])) =
      some ⟨.servoAttach, [("variable", .text name), ("pin", .integer false ds)]⟩ :=
  recognise_method 4 rfl rfl (by decide) (by decide) (by decide) hn h

theorem recognise_serialPrint (hq : '"' ∉ message) (hp : '(' ∉ message) :
    recognise ("Serial.println".toList ++ '(' :: '"' :: (message ++ '"' :: [')', ';'])) =
      some ⟨.serialPrint, [("message", .text message)]⟩ := by
  refine recognise_of_shape (by decide) (by simp [hp]) 5 rfl ?_ (by decide)
  simp (disch := decide) only [printShape, afterWord?_append, afterMark?_cons, upTo?_append hq,
    Option.bind_eq_bind, Option.bind_some, Option.pure_def]

/-! ### The lines of headers -/

theorem conditionShape_append {word : String} {kind : Kind} (hne : condition ≠ [])
    (hp : ')' ∉ condition) (ht : trimChars condition = condition) :
    conditionShape word kind (word.toList ++ ' ' :: '(' :: (condition ++ ')' :: [' ', '\x7b'])) =
      some ⟨kind, [("condition", .text condition)]⟩ := by
  have hempty : condition.isEmpty = false := by simpa using hne
  have hspace : isBlank ' ' = true := by decide
  simp (disch := decide) only [conditionShape, afterWord?_append, afterMark?_cons_blank hspace,
    afterMark?_cons, upTo?_append hp, hempty, ht, Option.bind_eq_bind, Option.bind_some,
    Option.pure_def, Bool.false_eq_true, if_false]

theorem recognise_ifThen (hne : condition ≠ []) (ho : '(' ∉ condition) (hp : ')' ∉ condition)
    (ht : trimChars condition = condition) :
    recognise ("if ".toList ++ '(' :: (condition ++ ')' :: [' ', '\x7b'])) =
      some ⟨.ifThen, [("condition", .text condition)]⟩ :=
  recognise_of_shape (by decide) (by simp [ho]) 7 rfl (conditionShape_append hne hp ht) (by decide)

theorem recognise_whileLoop (hne : condition ≠ []) (ho : '(' ∉ condition) (hp : ')' ∉ condition)
    (ht : trimChars condition = condition) :
    recognise ("while ".toList ++ '(' :: (condition ++ ')' :: [' ', '\x7b'])) =
      some ⟨.whileLoop, [("condition", .text condition)]⟩ :=
  recognise_of_shape (by decide) (by simp [ho]) 8 rfl (conditionShape_append hne hp ht) (by decide)

/-- The line of a counting loop from its first parenthesis on. -/
def forRest (name : List Char) (start stop step : Bool × List Char) (mark : Char) : List Char :=
  "int".toList ++ ' ' :: (name ++ ' ' :: '=' :: ' ' :: (signed start.1 start.2 ++ ';' :: ' ' ::
    (name ++ ' ' :: mark :: ' ' :: (signed stop.1 stop.2 ++ ';' :: ' ' ::
      (name ++ ' ' :: '+' :: '=' :: ' ' :: (signed step.1 step.2 ++ [')', ' ', '\x7b']))))))

variable {start stop step : Bool × List Char}

theorem step?_append (hn : IsName name) (h : IsDigits step.2) :
    step? (' ' :: (name ++ ' ' :: '+' :: '=' :: ' ' ::
      (signed step.1 step.2 ++ [')', ' ', '\x7b']))) = some (.integer step.1 step.2) := by
  have hspace : isBlank ' ' = true := by decide
  have hword : isWord ' ' = false := by decide
  have hequal (s : List Char) : afterWord? ['='] ('=' :: s) = some s := afterWord?_append ['='] s
  simp (disch := decide) only [step?, dropBlanks_cons_of_blank, hn.dropBlanks_append,
    takeWord?_append hn.2 hn.1 hword, afterMark?_cons_blank hspace, afterMark?_cons, hequal,
    integerAt?_blank, integerAt?_append h, Option.bind_eq_bind, Option.bind_some, Option.pure_def]

theorem recognise_forLoop {mark : Char} (hn : IsName name) (h₁ : IsDigits start.2)
    (h₂ : IsDigits stop.2) (h₃ : IsDigits step.2) (hm : mark = '<' ∨ mark = '>') :
    recognise ("for ".toList ++ '(' :: forRest name start stop step mark) =
      some ⟨.forLoop, [("variable", .text name), ("start", .integer start.1 start.2),
        ("end", .integer stop.1 stop.2), ("step", .integer step.1 step.2)]⟩ := by
  have hname : '(' ∉ name := hn.not_mem (by decide)
  have hsigned {n : Bool × List Char} (h : IsDigits n.2) : '(' ∉ signed n.1 n.2 := by
    have hds : '(' ∉ n.2 := h.not_mem (by decide)
    cases hneg : n.1 <;> simp [signed, hds]
  have hmark : mark ≠ '(' := by rcases hm with rfl | rfl <;> decide
  have hcompare (s : List Char) :
      comparison? (' ' :: mark :: s) = some (mark == '>', s) := by
    rcases hm with rfl | rfl <;> rfl
  refine recognise_of_shape (by decide) ?_ 6 rfl ?_ (by decide)
  · simp [forRest, hname, hsigned h₁, hsigned h₂, hsigned h₃, Ne.symm hmark]
  · have hspace : isBlank ' ' = true := by decide
    have hword : isWord ' ' = false := by decide
    have hmarkAt {m : Char} (hm : isBlank m = false) (s : List Char) :
        afterMark? m (' ' :: m :: s) = some s := by
      rw [afterMark?_cons_blank hspace, afterMark?_cons hm]
    have hthen {α β : Type} {x : Option α} {f : α → Option β} {a : α} {b : β} (hx : x = some a)
        (hf : f a = some b) : (x >>= f) = some b := Option.bind_eq_some_iff.2 ⟨a, hx, hf⟩
    -- each part of the header is found where the one before it ends
    refine hthen (afterWord?_append "for".toList _) ?_
    refine hthen (hmarkAt (m := '(') (by decide) _) ?_
    refine hthen (afterWord?_append "int".toList _) ?_
    refine hthen (congrArg some hn.dropBlanks_append) ?_
    refine hthen (takeWord?_append hn.2 hn.1 hword) ?_
    refine hthen (hmarkAt (m := '=') (by decide) _) ?_
    refine hthen (integerAt?_append h₁ (c := ';') (by decide)) ?_
    refine hthen (afterMark?_cons (by decide) _) ?_
    refine hthen ((congrArg takeWord? hn.dropBlanks_append).trans
      (takeWord?_append hn.2 hn.1 hword)) ?_
    refine hthen (hcompare _) ?_
    refine hthen (integerAt?_append h₂ (c := ';') (by decide)) ?_
    refine hthen (afterMark?_cons (by decide) _) ?_
    rw [step?_append hn h₃]
    rfl

end Lines

end BlockSketch
