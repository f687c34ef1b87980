/-
**Statements that an import finds again.**

Some statements are written in lines that an import recognises: calls with natural numbers, messages
without characters that have to be escaped, counting loops over integers, and branches and loops whose
condition has no parentheses.  The lines of such statements are imported as the blocks that encode
them, whatever is written around them.

Integers are found again if they are below `10 ^ 300`, which keeps them apart from the numbers that
round to infinity and from rows of digits that are too long.

Main definitions:

* `BlockSketch.Action.IsImportable`, `BlockSketch.Importable` — the statements;
* `BlockSketch.trimmedLines` — the lines that an import reads;
* `BlockSketch.Shows` — a line shows a block.

Main results:

* `BlockSketch.Action.IsImportable.exists_shows` — the line of an action shows a block of it;
* `BlockSketch.Importable.exists_encodes` — **the lines of statements are imported as blocks that
  encode them**.
-/

import BlockSketch.Proofs.Encoding
import BlockSketch.Proofs.Recognition
import BlockSketch.Sketch.Render

set_option relaxedAutoImplicit false
set_option autoImplicit false

namespace BlockSketch

open BlockSketch.Text

/-! ### The statements -/

/-- Integers are found again below this bound. -/
def importBound : Nat :=
  Nat.pow 10 300

/-- The operand is an integer that is not too large. -/
def Operand.IsInteger (o : Operand) : Prop :=
  ∃ n : Int, n.natAbs < importBound ∧ o = .number (Dyadic.ofInt n)

/-- The operand is a natural number that is not too large. -/
def Operand.IsNatural (o : Operand) : Prop :=
  ∃ n : Nat, n < importBound ∧ o = .number (Dyadic.ofInt n)

/-- The text is the decimal of a natural number that is not too large. -/
def IsDecimal (s : String) : Prop :=
  ∃ n : Nat, n < importBound ∧ s = integerText n

/-- A message without quotes, backslashes, parentheses and control characters. -/
def IsMessage (s : String) : Prop :=
  ∀ c ∈ s.toList, c ∉ ['"', '\\', '(', ')'] ∧ 0x20 ≤ c.toNat ∧ c.toNat ≠ 0x7F

/-- A condition without outer blanks and parentheses. -/
def IsCondition (s : String) : Prop :=
  s.toList ≠ [] ∧ trimChars s.toList = s.toList ∧ '(' ∉ s.toList ∧ ')' ∉ s.toList

/-- The actions that are found again. -/
def Action.IsImportable : Action → Prop
  | .delay ms => ms.IsNatural
  | .digitalWrite pin level => pin.IsNatural ∧ (level = "HIGH" ∨ level = "LOW")
  | .analogWrite pin value => pin.IsNatural ∧ IsDecimal value
  | .servoWrite name angle => IsName name.toList ∧ IsDecimal angle
  | .servoAttach name pin => IsName name.toList ∧ pin.IsNatural
  | .serialPrint message => IsMessage message
  | _ => False

/-- The lists of statements that are found again.  No body is empty, and no branch has a second
body. -/
inductive Importable : List Statement → Prop
  | nil : Importable []
  | action {a : Action} {ss : List Statement} :
      a.IsImportable → Importable ss → Importable (.action a :: ss)
  | branch {condition : String} {body ss : List Statement} :
      IsCondition condition → body ≠ [] → Importable body → Importable ss →
      Importable (.branch condition body [] :: ss)
  | forLoop {name : String} {start stop step : Operand} {body ss : List Statement} :
      IsName name.toList → start.IsInteger → stop.IsInteger → step.IsInteger →
      step ≠ .number 0 → body ≠ [] → Importable body → Importable ss →
      Importable (.forLoop name start stop step body :: ss)
  | whileLoop {condition : String} {body ss : List Statement} :
      IsCondition condition → body ≠ [] → Importable body → Importable ss →
      Importable (.whileLoop condition body :: ss)

/-! ### Integers -/

theorem length_digitChars_of_lt {n : Nat} (h : n < importBound) :
    (Decimal.digitChars n).length ≤ maxIntegerDigits := by
  unfold importBound at h
  exact Nat.le_trans (Decimal.length_digitChars_le (by decide) h) (by decide)

theorem number?_int_of_lt {n : Int} (h : n.natAbs < importBound) :
    (Value.int n).number? = some (Dyadic.ofInt n) :=
  Value.number?_int (Nat.lt_trans h (by decide +kernel))

/-- The digits of a number are read as the number. -/
theorem value_integer {n : Nat} (h : n < importBound) (negative : Bool) :
    (Capture.integer negative (Decimal.digitChars n)).value =
      .ok (.int (if negative then -n else n)) := by
  rw [Capture.value, if_neg (Nat.not_lt.2 (length_digitChars_of_lt h)), digitsValue_digitChars]

theorem value_text (s : String) : (Capture.text s.toList).value = .ok (.string s) := by
  rw [Capture.value, String.ofList_toList]

/-- The sign and the digits of an integer are read as the integer. -/
theorem value_signed {n : Int} (h : n.natAbs < importBound) :
    (Capture.integer (decide (n < 0)) (Decimal.digitChars n.natAbs)).value = .ok (.int n) := by
  rw [value_integer h]
  congr 2
  split <;> rename_i hn <;> simp only [decide_eq_true_eq] at hn <;> omega

theorem isDigits_digitChars (n : Nat) : IsDigits (Decimal.digitChars n) :=
  ⟨Decimal.digitChars_ne_nil n, fun _ => Decimal.isDigit_of_mem_digitChars⟩

theorem integerText_natCast (n : Nat) :
    (integerText (n : Int)).toList = Decimal.digitChars n := by
  rw [integerText_toList, if_neg (by omega), Int.natAbs_natCast, List.nil_append]

theorem integerText_signed (n : Int) :
    (integerText n).toList = signed (decide (n < 0)) (Decimal.digitChars n.natAbs) := by
  rw [integerText_toList, signed]
  by_cases hn : n < 0 <;> simp [hn]

/-! ### Lines -/

/-- A text without outer blanks that is not empty. -/
def IsTrimmed (s : List Char) : Prop :=
  s ≠ [] ∧ (∀ c ∈ s.head?, isBlank c = false) ∧ ∀ c ∈ s.getLast?, isBlank c = false

theorem isTrimmed_append {s t : List Char} {c : Char} (hs : s ≠ [])
    (hfirst : ∀ c ∈ s.head?, isBlank c = false) (hlast : t.getLast? = some c)
    (hc : isBlank c = false) : IsTrimmed (s ++ t) := by
  refine ⟨by simp [hs], ?_, ?_⟩
  · rwa [List.head?_append_of_ne_nil _ hs]
  · simp [List.getLast?_append, hlast, hc]

/-- The lines that an import reads: without outer blanks, and not empty. -/
def trimmedLines (lines : List String) : List (List Char) :=
  (lines.map fun l => trimChars l.toList).filter fun l => !l.isEmpty

theorem trimmedLines_append (ls ls' : List String) :
    trimmedLines (ls ++ ls') = trimmedLines ls ++ trimmedLines ls' := by
  simp [trimmedLines]

/-- The indentation of a line is trimmed. -/
theorem trimmedLines_cons {s : List Char} (h : IsTrimmed s) {l : String} {depth : Nat}
    (hl : l.toList = (indent depth).toList ++ s) (ls : List String) :
    trimmedLines (l :: ls) = s :: trimmedLines ls := by
  have hindent : ∀ c ∈ (indent depth).toList, isBlank c = true := by
    intro c hc
    rw [indent, String.toList_ofList] at hc
    rw [List.eq_of_mem_replicate hc]
    rfl
  have htrim : trimChars l.toList = s := by
    rw [hl, ← List.append_nil (_ ++ s)]
    exact trimChars_append hindent (by simp) h.2.1 h.2.2 h.1
  rw [trimmedLines, List.map_cons, htrim, List.filter_cons_of_pos (by simpa using h.1)]
  rfl

/-- A line without outer blanks shows a block. -/
structure Shows (line : List Char) (e : BlockEntry) : Prop where
  trimmed : IsTrimmed line
  recognised : ∃ found, recognise line = some found ∧ found.kind = e.1 ∧ found.params = .ok e.2

section Import

variable {line : List Char} {e : BlockEntry} (k : Nat) (lines : List (List Char))

/-- The line of an action is imported as its block. -/
theorem importLines_action (h : Shows line e) (hc : e.1.isContainer = false) :
    importLines k (line :: lines) = (importLines k lines).map (e :: ·) := by
  obtain ⟨found, hfound, hkind, hparams⟩ := h.recognised
  rw [importLines, hfound]
  simp only [hparams, hkind, hc, Bool.false_eq_true, if_false]
  cases importLines k lines <;> rfl

/-- The line of a header is imported as its block and opens a container. -/
theorem importLines_header (h : Shows line e) (hc : e.1.isContainer = true) :
    importLines k (line :: lines) = (importLines (k + 1) lines).map (e :: ·) := by
  obtain ⟨found, hfound, hkind, hparams⟩ := h.recognised
  rw [importLines, hfound]
  simp only [hparams, hkind, hc, if_true]
  cases importLines (k + 1) lines <;> rfl

/-- A closing brace ends the innermost container. -/
theorem importLines_close :
    importLines (k + 1) (['\x7d'] :: lines) =
      (importLines k lines).map ((.endBlock, []) :: ·) := by
  have hnone : recognise ['\x7d'] = none := recognise_eq_none (by decide)
  rw [importLines, hnone]
  simp only [ne_eq, Nat.add_one_ne_zero, not_false_eq_true, and_self, if_true, Nat.add_sub_cancel]
  cases importLines k lines <;> rfl

end Import

/-! ### The statements of imported blocks -/

theorem entryStatement?_action {k : Kind} (hs : k.isSilent = false) (hc : k.isContainer = false)
    (ps : Fields) (body : List Statement) :
    entryStatement? (k, ps) body =
      (actionOf? k (Fields.setAll (Catalog.params k) ps)).map Statement.action := by
  simp only [entryStatement?, Node.statement?, Node.kind?_create, hs, hc, Bool.false_eq_true,
    if_false]
  rfl

theorem entryStatement?_container {k : Kind} (hs : k.isSilent = false) (hc : k.isContainer = true)
    (ps : Fields) (body : List Statement) :
    entryStatement? (k, ps) body =
      (headerOf? k (Fields.setAll (Catalog.params k) ps)).map fun h => h.statement body [] := by
  simp only [entryStatement?, Node.statement?, Node.kind?_create, hs, hc, Bool.false_eq_true,
    if_false, if_true]
  rfl

section Entries

variable {v : Value} {x : Dyadic} (h : v.number? = some x)
include h

theorem entryStatement?_delay :
    entryStatement? (.delay, [("ms", v)]) [] = some (.action (.delay (.number x))) := by
  rw [entryStatement?_action rfl rfl]
  simp [actionOf?, operandParam?_eq .delay "ms" rfl (by decide), Fields.number, Fields.setAll,
    Fields.set, Fields.get?, Catalog.params, h]

theorem entryStatement?_digitalWrite (level : String) :
    entryStatement? (.digitalWrite, [("pin", v), ("value", .string level)]) [] =
      some (.action (.digitalWrite (.number x) level)) := by
  rw [entryStatement?_action rfl rfl]
  simp [actionOf?, operandParam?_eq .digitalWrite "pin" rfl (by decide),
    textParam?_eq .digitalWrite "value" rfl, Fields.number, Fields.text, Value.string?,
    Fields.setAll, Fields.set, Fields.get?, List.lookup_cons, Catalog.params, h]

theorem entryStatement?_analogWrite {n : Nat} (hn : n < importBound) :
    entryStatement? (.analogWrite, [("pin", v), ("value", .int n)]) [] =
      some (.action (.analogWrite (.number x) (integerText n))) := by
  rw [entryStatement?_action rfl rfl]
  simp [actionOf?, operandParam?_eq .analogWrite "pin" rfl (by decide),
    expressionParam?_eq .analogWrite "value" rfl, Fields.number, Fields.expression, Fields.setAll,
    Fields.set, Fields.get?, List.lookup_cons, Catalog.params, h, number?_int_of_lt (n := n) hn,
    numberText_ofInt]

theorem entryStatement?_servoAttach (name : String) :
    entryStatement? (.servoAttach, [("variable", .string name), ("pin", v)]) [] =
      some (.action (.servoAttach name (.number x))) := by
  rw [entryStatement?_action rfl rfl]
  simp [actionOf?, operandParam?_eq .servoAttach "pin" rfl (by decide),
    textParam?_eq .servoAttach "variable" rfl, Fields.number, Fields.text, Value.string?,
    Fields.setAll, Fields.set, Fields.get?, List.lookup_cons, Catalog.params, h]

theorem entryStatement?_forLoop {v' w : Value} {y z : Dyadic} (h' : v'.number? = some y)
    (hw : w.number? = some z) (hz : z ≠ 0) (name : String) (body : List Statement) :
    entryStatement?
        (.forLoop, [("variable", .string name), ("start", v), ("end", v'), ("step", w)]) body =
      some (.forLoop name (.number x) (.number y) (.number z) body) := by
  rw [entryStatement?_container rfl rfl]
  simp [headerOf?, textParam?_eq .forLoop "variable" rfl,
    numberParam?_eq .forLoop "start" rfl (by decide),
    numberParam?_eq .forLoop "end" rfl (by decide), numberParam?_eq .forLoop "step" rfl (by decide),
    Header.statement, Fields.number, Fields.text, Value.string?, Fields.setAll, Fields.set,
    Fields.get?, List.lookup_cons, Catalog.params, h, h', hw, hz]

end Entries

theorem entryStatement?_servoWrite {n : Nat} (hn : n < importBound) (name : String) :
    entryStatement? (.servoWrite, [("variable", .string name), ("angle", .int n)]) [] =
      some (.action (.servoWrite name (integerText n))) := by
  rw [entryStatement?_action rfl rfl]
  simp [actionOf?, textParam?_eq .servoWrite "variable" rfl,
    expressionParam?_eq .servoWrite "angle" rfl, Fields.text, Value.string?, Fields.expression,
    Fields.setAll, Fields.set, Fields.get?, List.lookup_cons, Catalog.params,
    number?_int_of_lt (n := n) hn, numberText_ofInt]

/-! ### The lines of actions -/

theorem Shows.of_recognise {line : List Char} {found : Found} {ps : Fields} (ht : IsTrimmed line)
    (hr : recognise line = some found) (hp : found.params = .ok ps) :
    Shows line (found.kind, ps) :=
  ⟨ht, found, hr, rfl, hp⟩

section Lines

variable {n m : Nat} (hn : n < importBound)
include hn

theorem shows_delay :
    Shows ("delay".toList ++ '(' :: (Decimal.digitChars n ++ [')', ';']))
      (.delay, [("ms", .int n)]) := by
  refine Shows.of_recognise ?_ (recognise_delay (isDigits_digitChars n)) ?_
  · exact isTrimmed_append (c := ';') (by decide) (by decide)
      (by simp [List.getLast?_cons, List.getLast?_append]) (by decide)
  · simp only [Found.params, captureValues, value_integer hn]
    rfl

theorem shows_digitalWrite {level : String} (hl : level = "HIGH" ∨ level = "LOW") :
    Shows ("digitalWrite".toList ++
        '(' :: (Decimal.digitChars n ++ ',' :: ' ' :: (level.toList ++ [')', ';'])))
      (.digitalWrite, [("pin", .int n), ("value", .string level)]) := by
  have hl' : level.toList = "HIGH".toList ∨ level.toList = "LOW".toList := by
    simpa only [String.toList_inj] using hl
  refine Shows.of_recognise ?_ (recognise_digitalWrite (isDigits_digitChars n) hl') ?_
  · exact isTrimmed_append (c := ';') (by decide) (by decide)
      (by simp [List.getLast?_cons, List.getLast?_append]) (by decide)
  · simp only [Found.params, captureValues, value_integer hn, value_text]
    rfl

theorem shows_analogWrite (hm : m < importBound) :
    Shows ("analogWrite".toList ++
        '(' :: (Decimal.digitChars n ++ ',' :: ' ' :: (Decimal.digitChars m ++ [')', ';'])))
      (.analogWrite, [("pin", .int n), ("value", .int m)]) := by
  refine Shows.of_recognise ?_
    (recognise_analogWrite (isDigits_digitChars n) (isDigits_digitChars m)) ?_
  · exact isTrimmed_append (c := ';') (by decide) (by decide)
      (by simp [List.getLast?_cons, List.getLast?_append]) (by decide)
  · simp only [Found.params, captureValues, value_integer hn, value_integer hm]
    rfl

end Lines

section Calls

variable {n : Nat} {name : String} (hname : IsName name.toList)
include hname

theorem isTrimmed_call (n : Nat) (method : List Char) :
    IsTrimmed (name.toList ++ method ++ '(' :: (Decimal.digitChars n ++ [')', ';'])) := by
  rw [List.append_assoc]
  refine isTrimmed_append (c := ';') hname.1 (fun c hc => ?_)
    (by simp [List.getLast?_cons, List.getLast?_append]) (by decide)
  exact isBlank_of_isWord (hname.2 c (List.mem_of_mem_head? hc))

/-- The line of a method call that is recognised shows a block. -/
theorem shows_method {kind : Kind} {key : String} {method : List Char} (hn : n < importBound)
    (hr : recognise (name.toList ++ method ++ '(' :: (Decimal.digitChars n ++ [')', ';'])) =
      some ⟨kind, [("variable", .text name.toList),
        (key, .integer false (Decimal.digitChars n))]⟩) :
    Shows (name.toList ++ method ++ '(' :: (Decimal.digitChars n ++ [')', ';']))
      (kind, [("variable", .string name), (key, .int n)]) := by
  refine Shows.of_recognise (isTrimmed_call hname n _) hr ?_
  simp only [Found.params, captureValues, value_integer hn, value_text]
  rfl

end Calls

/-- A message without characters that have to be escaped is written as it is. -/
theorem IsMessage.literal_toList {message : String} (h : IsMessage message) :
    (Sketch.literal message).toList = '"' :: (message.toList ++ ['"']) := by
  have hchar : ∀ c ∈ message.toList, Sketch.literalChar c = [c] := by
    intro c hc
    obtain ⟨hmem, hlow, hdel⟩ := h c hc
    have hne (x : Char) (hx : x.toNat < 0x20) : c ≠ x := by
      rintro rfl
      omega
    simp only [List.mem_cons, List.not_mem_nil, or_false, not_or] at hmem
    have hctrl : ¬ (c.toNat < 0x20 ∨ c.toNat = 0x7F) := by omega
    rw [Sketch.literalChar, if_neg hmem.2.1, if_neg hmem.1, if_neg (hne _ (by decide)),
      if_neg (hne _ (by decide)), if_neg (hne _ (by decide)), if_neg hctrl]
  rw [Sketch.literal, String.toList_ofList, Sketch.literalChars, List.flatMap_congr hchar]
  simp

theorem shows_serialPrint {message : String} (h : IsMessage message) :
    Shows ("Serial.println".toList ++ '(' :: '"' :: (message.toList ++ '"' :: [')', ';']))
      (.serialPrint, [("message", .string message)]) := by
  have hnot (c : Char) (hc : c ∈ ['"', '\\', '(', ')']) : c ∉ message.toList :=
    fun hmem => (h c hmem).1 hc
  refine Shows.of_recognise ?_ (recognise_serialPrint (hnot _ (by decide)) (hnot _ (by decide))) ?_
  · exact isTrimmed_append (c := ';') (by decide) (by decide)
      (by simp [List.getLast?_cons, List.getLast?_append]) (by decide)
  · simp only [Found.params, captureValues, value_text]
    rfl

/-- The line of an action shows a block of it. -/
theorem Action.IsImportable.exists_shows {a : Action} (h : a.IsImportable) :
    ∃ e, e.1.isContainer = false ∧ Shows a.text.toList e ∧
      entryStatement? e [] = some (.action a) := by
  have hrender (n : Nat) : (numberText (Dyadic.ofInt n)).toList = Decimal.digitChars n := by
    rw [numberText_ofInt, integerText_natCast]
  cases a with
  | delay ms =>
      obtain ⟨n, hn, rfl⟩ := h
      have hline : (Action.delay (.number (Dyadic.ofInt n))).text.toList =
          "delay".toList ++ '(' :: (Decimal.digitChars n ++ [')', ';']) := by
        change ("delay(" ++ numberText (Dyadic.ofInt n) ++ ");").toList = _
        simp only [String.toList_append, hrender]
        rfl
      rw [hline]
      exact ⟨_, rfl, shows_delay hn, entryStatement?_delay (number?_int_of_lt (n := n) hn)⟩
  | digitalWrite pin level =>
      obtain ⟨⟨n, hn, rfl⟩, hl⟩ := h
      have hline : (Action.digitalWrite (.number (Dyadic.ofInt n)) level).text.toList =
          "digitalWrite".toList ++
            '(' :: (Decimal.digitChars n ++ ',' :: ' ' :: (level.toList ++ [')', ';'])) := by
        change ("digitalWrite(" ++ numberText (Dyadic.ofInt n) ++ ", " ++ level ++ ");").toList = _
        simp only [String.toList_append, hrender, List.append_assoc]
        rfl
      rw [hline]
      exact ⟨_, rfl, shows_digitalWrite hn hl,
        entryStatement?_digitalWrite (number?_int_of_lt (n := n) hn) level⟩
  | analogWrite pin value =>
      obtain ⟨⟨n, hn, rfl⟩, m, hm, rfl⟩ := h
      have hline : (Action.analogWrite (.number (Dyadic.ofInt n)) (integerText m)).text.toList =
          "analogWrite".toList ++
            '(' :: (Decimal.digitChars n ++ ',' :: ' ' :: (Decimal.digitChars m ++ [')', ';'])) := by
        change ("analogWrite(" ++ numberText (Dyadic.ofInt n) ++ ", " ++ integerText m ++
          ");").toList = _
        simp only [String.toList_append, hrender, integerText_natCast, List.append_assoc]
        rfl
      rw [hline]
      exact ⟨_, rfl, shows_analogWrite hn hm,
        entryStatement?_analogWrite (number?_int_of_lt (n := n) hn) hm⟩
  | servoWrite name angle =>
      obtain ⟨hname, n, hn, rfl⟩ := h
      have hline : (Action.servoWrite name (integerText n)).text.toList =
          name.toList ++ ".write".toList ++ '(' :: (Decimal.digitChars n ++ [')', ';']) := by
        change (name ++ ".write(" ++ integerText n ++ ");").toList = _
        simp only [String.toList_append, integerText_natCast, List.append_assoc]
        rfl
      rw [hline]
      have hshows := shows_method hname hn (recognise_servoWrite hname (isDigits_digitChars n))
      exact ⟨_, rfl, hshows, entryStatement?_servoWrite hn name⟩
  | servoAttach name pin =>
      obtain ⟨hname, n, hn, rfl⟩ := h
      have hline : (Action.servoAttach name (.number (Dyadic.ofInt n))).text.toList =
          name.toList ++ ".attach".toList ++ '(' :: (Decimal.digitChars n ++ [')', ';']) := by
        change (name ++ ".attach(" ++ numberText (Dyadic.ofInt n) ++ ");").toList = _
        simp only [String.toList_append, hrender, List.append_assoc]
        rfl
      rw [hline]
      have hshows := shows_method hname hn (recognise_servoAttach hname (isDigits_digitChars n))
      exact ⟨_, rfl, hshows, entryStatement?_servoAttach (number?_int_of_lt (n := n) hn) name⟩
  | serialPrint message =>
      have hline : (Action.serialPrint message).text.toList =
          "Serial.println".toList ++ '(' :: '"' :: (message.toList ++ '"' :: [')', ';']) := by
        change ("Serial.println(" ++ Sketch.literal message ++ ");").toList = _
        simp only [String.toList_append, IsMessage.literal_toList h, List.append_assoc,
          List.cons_append]
        rfl
      rw [hline]
      exact ⟨_, rfl, shows_serialPrint h, rfl⟩
  | _ => exact h.elim

/-! ### The lines of headers -/

/-- The line of a header with a condition that is recognised shows a block. -/
theorem shows_condition {kind : Kind} {condition : String} {word : List Char} (hw : word ≠ [])
    (hfirst : ∀ c ∈ word.head?, isBlank c = false)
    (hr : recognise (word ++ '(' :: (condition.toList ++ ')' :: [' ', '\x7b'])) =
      some ⟨kind, [("condition", .text condition.toList)]⟩) :
    Shows (word ++ '(' :: (condition.toList ++ ')' :: [' ', '\x7b']))
      (kind, [("condition", .string condition)]) := by
  refine Shows.of_recognise ?_ hr ?_
  · exact isTrimmed_append (c := '\x7b') hw hfirst
      (by simp [List.getLast?_cons, List.getLast?_append]) (by decide)
  · simp only [Found.params, captureValues, value_text]
    rfl

/-- The sign and the digits of an integer. -/
def signedDigits (n : Int) : Bool × List Char :=
  (decide (n < 0), Decimal.digitChars n.natAbs)

theorem shows_forLoop (mark : Char) {name : String} {a b c : Int} (hname : IsName name.toList)
    (ha : a.natAbs < importBound) (hb : b.natAbs < importBound) (hc : c.natAbs < importBound)
    (hmark : mark = '<' ∨ mark = '>') :
    Shows ("for ".toList ++
        '(' :: forRest name.toList (signedDigits a) (signedDigits b) (signedDigits c) mark)
      (.forLoop,
        [("variable", .string name), ("start", .int a), ("end", .int b), ("step", .int c)]) := by
  have hdigits (n : Int) : IsDigits (signedDigits n).2 := isDigits_digitChars n.natAbs
  refine Shows.of_recognise ?_
    (recognise_forLoop hname (hdigits a) (hdigits b) (hdigits c) hmark) ?_
  · exact isTrimmed_append (c := '\x7b') (by decide) (by decide)
      (by simp [forRest, List.getLast?_cons, List.getLast?_append]) (by decide)
  · simp only [Found.params, captureValues, value_text, signedDigits, value_signed ha,
      value_signed hb, value_signed hc]
    rfl

theorem forHeader_toList (name : String) (a b c : Int) :
    (forHeader name (.number (Dyadic.ofInt a)) (.number (Dyadic.ofInt b))
        (.number (Dyadic.ofInt c))).toList =
      "for ".toList ++
        '(' :: forRest name.toList (signedDigits a) (signedDigits b) (signedDigits c)
          (if (Operand.number (Dyadic.ofInt c)).isNegative then '>' else '<') := by
  have hrender (n : Int) : (Operand.number (Dyadic.ofInt n)).render.toList =
      signed (signedDigits n).1 (signedDigits n).2 := by
    rw [Operand.render, numberText_ofInt, integerText_signed]
    rfl
  unfold forHeader forRest
  generalize (Operand.number (Dyadic.ofInt c)).isNegative = down
  simp only [String.toList_append, hrender, List.append_assoc]
  generalize signed (signedDigits a).1 (signedDigits a).2 = start
  generalize signed (signedDigits b).1 (signedDigits b).2 = stop
  generalize signed (signedDigits c).1 (signedDigits c).2 = step
  cases down <;> rfl

/-! ### The lines of statements -/

/-- The lines are imported as the blocks, at any depth, whatever is open around them and whatever
comes after them. -/
def ImportsAs (lines : Nat → List String) (es : List BlockEntry) : Prop :=
  ∀ depth k rest,
    importLines k (trimmedLines (lines depth) ++ rest) = (importLines k rest).map (es ++ ·)

namespace ImportsAs

variable {lines lines' : Nat → List String} {es es' : List BlockEntry} {e : BlockEntry}

theorem map_append {x : Except TooManyDigits (List BlockEntry)} :
    (x.map (es' ++ ·)).map (es ++ ·) = x.map (es ++ es' ++ ·) := by
  cases x <;> simp [Except.map]

theorem append (h : ImportsAs lines es) (h' : ImportsAs lines' es') :
    ImportsAs (fun depth => lines depth ++ lines' depth) (es ++ es') := by
  intro depth k rest
  rw [trimmedLines_append, List.append_assoc, h, h', map_append]

theorem action {text : String} (h : Shows text.toList e) (hc : e.1.isContainer = false) :
    ImportsAs (fun depth => [indent depth ++ text]) [e] := by
  intro depth k rest
  rw [trimmedLines_cons h.trimmed (String.toList_append ..), List.cons_append,
    importLines_action _ _ h hc]
  rfl

/-- A container is imported as its block, the blocks of its body, and an end block. -/
theorem container {header : Nat → String} {line : List Char} (h : Shows line e)
    (hc : e.1.isContainer = true)
    (hheader : ∀ depth, (header depth).toList = (indent depth).toList ++ line)
    (hbody : ImportsAs lines es) :
    ImportsAs (fun depth => header depth :: lines (depth + 1) ++ [indent depth ++ "\x7d"])
      (e :: (es ++ [(.endBlock, [])])) := by
  intro depth k rest
  have hclose : IsTrimmed ['\x7d'] := by
    refine ⟨by decide, ?_, ?_⟩ <;> decide
  dsimp only
  rw [List.cons_append, trimmedLines_cons h.trimmed (hheader depth), trimmedLines_append,
    trimmedLines_cons hclose (String.toList_append ..), List.cons_append, List.append_assoc,
    importLines_header _ _ h hc, hbody]
  have hend : importLines (k + 1) (['\x7d'] :: trimmedLines [] ++ rest) =
      (importLines k rest).map ((.endBlock, []) :: ·) := importLines_close k rest
  rw [hend]
  cases importLines k rest <;> simp [Except.map]

end ImportsAs

/-- A container is imported as blocks that encode it, if its body is and if its header is written in a
line that shows it. -/
theorem exists_encodes_container (header : Nat → String) {line : List Char} {s : Statement}
    {body ss : List Statement} {e : BlockEntry} (hshows : Shows line e)
    (hc : e.1.isContainer = true) (hs : entryStatement? e body = some s)
    (hheader : ∀ depth, (header depth).toList = (indent depth).toList ++ line)
    (hlines : ∀ depth, s.lines depth =
      header depth :: blockLines (depth + 1) body ++ [indent depth ++ "\x7d"])
    (hne : body ≠ [])
    (hbody : ∃ es, Encodes body es ∧ ImportsAs (fun depth => blockLines depth body) es)
    (hrest : ∃ es, Encodes ss es ∧ ImportsAs (fun depth => blockLines depth ss) es) :
    ∃ es, Encodes (s :: ss) es ∧ ImportsAs (fun depth => blockLines depth (s :: ss)) es := by
  obtain ⟨bs, hbenc, hbimp⟩ := hbody
  obtain ⟨es, henc, himp⟩ := hrest
  have hblock := (ImportsAs.container hshows hc hheader hbimp).append himp
  simp only [← hlines, List.cons_append, List.append_assoc, List.nil_append] at hblock
  exact ⟨_, Encodes.container hc hs hbenc hne henc, hblock⟩

/-- **The lines of statements are imported as blocks that encode them.** -/
theorem Importable.exists_encodes {ss : List Statement} (h : Importable ss) :
    ∃ es, Encodes ss es ∧ ImportsAs (fun depth => blockLines depth ss) es := by
  induction h with
  | nil =>
      refine ⟨[], Encodes.nil, fun depth k rest => ?_⟩
      change importLines k rest = (importLines k rest).map fun es => es
      cases importLines k rest <;> rfl
  | @action a ss ha _ ih =>
      obtain ⟨es, henc, himp⟩ := ih
      obtain ⟨e, hc, hshows, hs⟩ := ha.exists_shows
      exact ⟨e :: es, Encodes.action hc hs henc, (ImportsAs.action hshows hc).append himp⟩
  | @branch condition body ss hcond hne _ _ ihbody ih =>
      obtain ⟨hempty, htrim, hopen, hclose⟩ := hcond
      have hshows := shows_condition (by decide) (by decide)
        (recognise_ifThen hempty hopen hclose htrim)
      refine exists_encodes_container (fun depth => indent depth ++ "if (" ++ condition ++ ") \x7b")
        hshows rfl rfl (fun depth => ?_) (fun depth => ?_) hne ihbody ih
      · simp only [String.toList_append, List.append_assoc]
        rfl
      · simp [Statement.lines]
  | @whileLoop condition body ss hcond hne _ _ ihbody ih =>
      obtain ⟨hempty, htrim, hopen, hclose⟩ := hcond
      have hshows := shows_condition (by decide) (by decide)
        (recognise_whileLoop hempty hopen hclose htrim)
      refine exists_encodes_container
        (fun depth => indent depth ++ "while (" ++ condition ++ ") \x7b")
        hshows rfl rfl (fun depth => ?_) (fun depth => ?_) hne ihbody ih
      · simp only [String.toList_append, List.append_assoc]
        rfl
      · simp [Statement.lines]
  | @forLoop name start stop step body ss hname hstart hstop hstep hzero hne _ _ ihbody ih =>
      obtain ⟨a, ha, rfl⟩ := hstart
      obtain ⟨b, hb, rfl⟩ := hstop
      obtain ⟨c, hc, rfl⟩ := hstep
      have hstep : Dyadic.ofInt c ≠ 0 := fun h => hzero (by rw [h])
      let mark := if (Operand.number (Dyadic.ofInt c)).isNegative then '>' else '<'
      have hmark : mark = '<' ∨ mark = '>' := by
        simp only [mark]
        split <;> simp
      refine exists_encodes_container
        (fun depth => indent depth ++ forHeader name (.number (Dyadic.ofInt a))
          (.number (Dyadic.ofInt b)) (.number (Dyadic.ofInt c)))
        (shows_forLoop mark hname ha hb hc hmark) rfl
        (entryStatement?_forLoop (number?_int_of_lt ha) (number?_int_of_lt hb)
          (number?_int_of_lt hc) hstep name body)
        (fun depth => ?_) (fun depth => ?_) hne ihbody ih
      · rw [String.toList_append, forHeader_toList]
      · simp [Statement.lines]

end BlockSketch
