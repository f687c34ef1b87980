/-
**Patterns and the ways in which they match.**

The shapes of lines are usually written as patterns: fixed words, runs of characters of a class,
alternatives, and groups whose text is kept.  In general a pattern matches the start of a text in many
ways, since a run may take more characters or fewer, and which way counts is settled by an order of
preference: the first way that lets the rest of the pattern match.  To find it one may have to go back
and shorten runs that were taken before.

Scanners never go back.  They agree with the pattern if going back is of no use: if a run cannot be
shortened without spoiling what comes after it.  For most parts of a pattern this is plain from the first
character of the next part, and then the first way is found by one scan of the part.

Main definitions:

* `BlockSketch.Text.Pattern` — patterns;
* `BlockSketch.Text.Pattern.ways` — all ways in which a pattern matches the start of a text, in the
  order of preference;
* `BlockSketch.Text.firstWay?`, `BlockSketch.Text.findWay?` — the first way at the start of a text,
  and that at the first place where there is one;
* `BlockSketch.Text.Stops` — a run of a class need not be shortened before the given parts;
* `BlockSketch.Text.Scans` — a part is matched by a scan before the given parts;
* `BlockSketch.Text.Pattern.Keeps` — whatever a group keeps has the given property.

Main results:

* `BlockSketch.Text.Scans.firstWay?_eq`, `BlockSketch.Text.Scans.firstWay?_group` — **a scan finds the
  first way**, and the text of a group;
* `BlockSketch.Text.scans_word`, `BlockSketch.Text.scans_row` and so on — the parts that are scanned;
* `BlockSketch.Text.search_eq_map_findWay?` — scanners that agree with a pattern find it at the same
  place;
* `BlockSketch.Text.Pattern.Keeps.text?` — what holds of the groups of a pattern holds where it is found.
-/

import BlockSketch.Proofs.Scanning
import Mathlib.Data.List.Infix

set_option relaxedAutoImplicit false
set_option autoImplicit false

namespace BlockSketch.Text

/-! ### Patterns -/

/-- A pattern of texts. -/
inductive Pattern where
  /-- The empty text. -/
  | nothing
  /-- A character of a class. -/
  | one (p : Char → Bool)
  /-- Characters of a class, as many as possible. -/
  | many (p : Char → Bool)
  /-- Characters of a class, as few as possible. -/
  | few (p : Char → Bool)
  /-- One pattern after the other. -/
  | both (a b : Pattern)
  /-- One of two patterns, the first if possible. -/
  | either (a b : Pattern)
  /-- A pattern whose text is kept under a number. -/
  | group (i : Nat) (a : Pattern)

namespace Pattern

/-- A fixed word. -/
def word : List Char → Pattern
  | [] => nothing
  | c :: w => both (one (· == c)) (word w)

/-- A row of characters of a class, at least one and as many as possible. -/
def row (p : Char → Bool) : Pattern :=
  both (one p) (many p)

/-- A pattern, if possible. -/
def optional (a : Pattern) : Pattern :=
  either a nothing

/-- Patterns one after the other. -/
def inOrder : List Pattern → Pattern
  | [] => nothing
  | a :: ps => both a (inOrder ps)

/-- Any number of blanks. -/
def blanks : Pattern :=
  many isBlank

/-- A row of digits with an optional minus sign. -/
def integer : Pattern :=
  both (optional (word ['-'])) (row isDigit)

end Pattern

/-! ### Ways -/

/-- A way in which a pattern matches the start of a text: the texts of its groups, and what follows. -/
structure Way where
  groups : List (Nat × List Char)
  rest : List Char

namespace Way

/-- A way, and after it another one. -/
def andThen (v w : Way) : Way :=
  ⟨v.groups ++ w.groups, w.rest⟩

/-- A way whose text is kept. -/
def keep (i : Nat) (text : List Char) (w : Way) : Way :=
  ⟨(i, text) :: w.groups, w.rest⟩

/-- The text of a group, if the group is part of the way. -/
def text? (w : Way) (i : Nat) : Option (List Char) :=
  w.groups.lookup i

/-- The text of a group, empty if the group is not part of the way. -/
def text (w : Way) (i : Nat) : List Char :=
  (w.text? i).getD []

@[simp] theorem text?_keep (i j : Nat) (text : List Char) (w : Way) :
    (w.keep i text).text? j = if j = i then some text else w.text? j := by
  rw [keep, text?, List.lookup_cons]
  by_cases h : j = i
  · simp [h]
  · rw [beq_false_of_ne h, if_neg h]
    rfl

@[simp] theorem text?_nil (s : List Char) (i : Nat) : (Way.mk [] s).text? i = none := rfl

end Way

/-- The ends of a text that follow characters of a class, the longest first. -/
def endsAfter (p : Char → Bool) : List Char → List (List Char)
  | [] => [[]]
  | c :: s => (c :: s) :: if p c then endsAfter p s else []

theorem self_mem_endsAfter (p : Char → Bool) (s : List Char) : s ∈ endsAfter p s := by
  cases s <;> simp [endsAfter]

theorem exists_of_mem_endsAfter {p : Char → Bool} {s t : List Char} (h : t ∈ endsAfter p s) :
    ∃ b, s = b ++ t ∧ ∀ c ∈ b, p c = true := by
  induction s with
  | nil => exact ⟨[], (List.mem_singleton.1 h).symm, by simp⟩
  | cons c s ih =>
      rw [endsAfter, List.mem_cons] at h
      rcases h with rfl | h
      · exact ⟨[], rfl, by simp⟩
      · split at h
        · rename_i hc
          obtain ⟨b, rfl, hb⟩ := ih h
          exact ⟨c :: b, rfl, List.forall_mem_cons.2 ⟨hc, hb⟩⟩
        · cases h

/-- The text before an end. -/
def before (s rest : List Char) : List Char :=
  s.take (s.length - rest.length)

/-- All ways in which a pattern matches the start of a text, in the order of preference. -/
@[simp] def Pattern.ways : Pattern → List Char → List Way
  | nothing, s => [⟨[], s⟩]
  | one _, [] => []
  | one p, c :: s => if p c then [⟨[], s⟩] else []
  | many p, s => (endsAfter p s).reverse.map (Way.mk [])
  | few p, s => (endsAfter p s).map (Way.mk [])
  | both a b, s => (a.ways s).flatMap fun v => (b.ways v.rest).map v.andThen
  | either a b, s => a.ways s ++ b.ways s
  | group i a, s => (a.ways s).map fun v => v.keep i (before s v.rest)

/-- The first way in which parts match the start of a text, one after the other. -/
def firstWay? (ps : List Pattern) (s : List Char) : Option Way :=
  ((Pattern.inOrder ps).ways s).head?

/-- The first way at the first place of a text where the parts match. -/
def findWay? (ps : List Pattern) (s : List Char) : Option Way :=
  s.tails.findSome? (firstWay? ps)

theorem firstWay?_nil (s : List Char) : firstWay? [] s = some ⟨[], s⟩ := rfl

/-- The ways of the first part are tried in their order. -/
theorem firstWay?_cons (a : Pattern) (ps : List Pattern) (s : List Char) :
    firstWay? (a :: ps) s =
      (a.ways s).findSome? fun v => (firstWay? ps v.rest).map v.andThen := by
  rw [firstWay?, Pattern.inOrder, Pattern.ways, List.head?_flatMap]
  simp only [List.head?_map, firstWay?]

/-- At the end of a pattern an optional part is taken if it matches. -/
theorem firstWay?_optional (qs : List Pattern) (s : List Char) :
    firstWay? [.optional (.inOrder qs)] s = (firstWay? qs s).or (some ⟨[], s⟩) := by
  have hlast : (fun v : Way => (firstWay? [] v.rest).map v.andThen) = some := by
    funext v
    simp [firstWay?_nil, Way.andThen]
  rw [firstWay?_cons, hlast, Pattern.optional, Pattern.ways, List.findSome?_append, firstWay?]
  congr 1
  cases (Pattern.inOrder qs).ways s <;> rfl

/-- A search finds what a pattern finds, if it does so at the start of any text. -/
theorem search_eq_map_findWay? {α : Type} {shape : List Char → Option α} {ps : List Pattern}
    {f : Way → α} (h : ∀ s, shape s = (firstWay? ps s).map f) (s : List Char) :
    search shape s = (findWay? ps s).map f := by
  rw [findWay?, List.map_findSome?]
  induction s with
  | nil =>
      rw [search, h, List.tails, List.findSome?_singleton]
      rfl
  | cons c s ih =>
      rw [search, List.tails_cons, List.findSome?_cons, ih, h, Function.comp_apply]
      cases firstWay? ps (c :: s) <;> rfl

theorem before_append (t r : List Char) : before (t ++ r) r = t := by
  rw [before, List.length_append, Nat.add_sub_cancel, List.take_left']
  rfl

/-! ### Runs that are not shortened -/

/-- A run of the class need not be shortened: if the parts do not match after the whole run, they do not
match at a character of it. -/
def Stops (p : Char → Bool) (ps : List Pattern) : Prop :=
  ∀ c s, p c = true → firstWay? ps (s.dropWhile p) = none → firstWay? ps (c :: s) = none

/-- The whole run is tried first, and if it leads nowhere then no other does. -/
theorem findSome?_endsAfter {α : Type} {p : Char → Bool} {f : List Char → Option α}
    (h : ∀ c s, p c = true → f (s.dropWhile p) = none → f (c :: s) = none) (s : List Char) :
    (endsAfter p s).reverse.findSome? f = f (s.dropWhile p) := by
  induction s with
  | nil => simp [endsAfter]
  | cons c s ih =>
      by_cases hc : p c = true
      · rw [endsAfter, if_pos hc, List.reverse_cons, List.findSome?_append, ih,
          List.dropWhile_cons_of_pos hc, List.findSome?_singleton]
        cases hf : f (s.dropWhile p) with
        | none => rw [h c s hc hf]; rfl
        | some a => rfl
      · rw [endsAfter, if_neg hc, List.dropWhile_cons_of_neg hc, List.reverse_singleton,
          List.findSome?_singleton]

/-- The pattern does not match where a text starts with the character. -/
def Pattern.Refuses (a : Pattern) (c : Char) : Prop :=
  ∀ s, a.ways (c :: s) = []

section Refusals

variable {p : Char → Bool} {c : Char}

theorem refuses_word {d : Char} (h : (c == d) = false) (w : List Char) :
    (Pattern.word (d :: w)).Refuses c := by
  intro s
  simp [Pattern.word, h]

theorem refuses_one (h : p c = false) : (Pattern.one p).Refuses c := by
  intro s
  simp [h]

theorem refuses_row (h : p c = false) : (Pattern.row p).Refuses c := by
  intro s
  simp [Pattern.row, h]

theorem refuses_either {a b : Pattern} (ha : a.Refuses c) (hb : b.Refuses c) :
    (Pattern.either a b).Refuses c := by
  intro s
  rw [Pattern.ways, ha s, hb s, List.append_nil]

theorem refuses_integer (hd : isDigit c = false) (hsign : (c == '-') = false) :
    Pattern.integer.Refuses c := by
  intro s
  have hword := refuses_word hsign [] s
  have hrow := refuses_row hd s
  simp [Pattern.integer, Pattern.optional, hword, hrow]

theorem refuses_group {a : Pattern} (h : a.Refuses c) (i : Nat) : (Pattern.group i a).Refuses c := by
  intro s
  rw [Pattern.ways, h s, List.map_nil]

theorem firstWay?_eq_none_of_refuses {a : Pattern} (h : a.Refuses c) (ps : List Pattern)
    (s : List Char) : firstWay? (a :: ps) (c :: s) = none := by
  rw [firstWay?_cons, h s, List.findSome?_nil]

end Refusals

section Runs

variable {p q : Char → Bool} {a : Pattern}

/-- After the whole pattern nothing has to match. -/
theorem stops_nil (p : Char → Bool) : Stops p [] := by
  intro c s _ h
  rw [firstWay?_nil] at h
  cases h

theorem stops_of_refuses (h : ∀ c, p c = true → a.Refuses c) (ps : List Pattern) :
    Stops p (a :: ps) :=
  fun c s hc _ => firstWay?_eq_none_of_refuses (h c hc) ps s

/-- Runs of another class may stand between. -/
theorem stops_many (hq : ∀ c, p c = true → q c = false) (h : ∀ c, p c = true → a.Refuses c)
    (ps : List Pattern) : Stops p (.many q :: a :: ps) := by
  intro c s hc _
  have hends : endsAfter q (c :: s) = [c :: s] := by
    rw [endsAfter, if_neg (by simp [hq c hc])]
  rw [firstWay?_cons, Pattern.ways, hends]
  simp [firstWay?_eq_none_of_refuses (h c hc)]

end Runs

/-! ### Scans -/

/-- Before the given parts, a pattern without groups is matched by a scan, which gives the text of the
pattern and what follows: whatever else matches there leads nowhere. -/
structure Scans (ps : List Pattern) (a : Pattern)
    (scan : List Char → Option (List Char × List Char)) : Prop where
  plain : ∀ s, ∃ ends : List (List Char), a.ways s = ends.map (Way.mk [])
  split : ∀ {s t r}, scan s = some (t, r) → s = t ++ r
  first : ∀ s (f : List Char → Option Way), (∀ r, f r = none ↔ firstWay? ps r = none) →
    ((a.ways s).findSome? fun v => f v.rest) = (scan s).bind fun x => f x.2

namespace Scans

variable {ps : List Pattern} {a : Pattern} {scan : List Char → Option (List Char × List Char)}

/-- A scan finds the first way. -/
theorem firstWay?_eq (h : Scans ps a scan) (s : List Char) :
    firstWay? (a :: ps) s = (scan s).bind fun x => firstWay? ps x.2 := by
  obtain ⟨ends, hends⟩ := h.plain s
  rw [firstWay?_cons, ← h.first s (firstWay? ps) fun r => Iff.rfl, hends, List.findSome?_map,
    List.findSome?_map]
  congr 1
  funext r
  exact Option.map_id_apply

/-- A scan finds the text of a group. -/
theorem firstWay?_group (h : Scans ps a scan) (i : Nat) (s : List Char) :
    firstWay? (.group i a :: ps) s =
      (scan s).bind fun x => (firstWay? ps x.2).map (Way.keep i x.1) := by
  obtain ⟨ends, hends⟩ := h.plain s
  have hfirst := h.first s (fun r => (firstWay? ps r).map (Way.keep i (before s r)))
    fun r => Option.map_eq_none_iff
  calc firstWay? (.group i a :: ps) s
      = (a.ways s).findSome? fun v =>
          (firstWay? ps v.rest).map (Way.keep i (before s v.rest)) := by
        rw [firstWay?_cons, Pattern.ways, hends, List.map_map, List.findSome?_map,
          List.findSome?_map]
        rfl
    _ = (scan s).bind fun x => (firstWay? ps x.2).map (Way.keep i (before s x.2)) := hfirst
    _ = (scan s).bind fun x => (firstWay? ps x.2).map (Way.keep i x.1) := by
        refine Option.bind_congr fun x hx => ?_
        rw [h.split hx, before_append]

end Scans

/-- The longest row of characters of a class at the start of a text, and what follows it. -/
def takeRow? (p : Char → Bool) (s : List Char) : Option (List Char × List Char) :=
  match s.takeWhile p with
  | [] => none
  | w => some (w, s.dropWhile p)

/-- A row of digits with an optional minus sign, and what follows it. -/
def takeInteger? : List Char → Option (List Char × List Char)
  | '-' :: s => (takeRow? isDigit s).map fun x => ('-' :: x.1, x.2)
  | s => takeRow? isDigit s

section Parts

variable {p : Char → Bool} {ps : List Pattern}

theorem ways_word (w s : List Char) :
    (Pattern.word w).ways s = ((afterWord? w s).map (Way.mk [])).toList := by
  induction w generalizing s with
  | nil => rfl
  | cons c w ih =>
      cases s with
      | nil => rfl
      | cons d s =>
          by_cases hcd : c = d
          · subst hcd
            have hthen : (Way.mk [] s).andThen = id := rfl
            simp [Pattern.word, afterWord?, ih, hthen]
          · simp [Pattern.word, afterWord?, hcd, Ne.symm hcd]

theorem scans_word (ps : List Pattern) (w : List Char) :
    Scans ps (.word w) fun s => (afterWord? w s).map fun r => (w, r) where
  plain s := ⟨(afterWord? w s).toList, by rw [ways_word, Option.toList_map]⟩
  split h := by
    obtain ⟨r, hr, heq⟩ := Option.map_eq_some_iff.1 h
    obtain ⟨rfl, rfl⟩ := Prod.mk.inj heq
    exact afterWord?_eq_some_iff.1 hr
  first s f _ := by
    rw [ways_word]
    cases afterWord? w s <;> simp

theorem scans_one (ps : List Pattern) (p : Char → Bool) :
    Scans ps (.one p) fun s => s.head?.bind fun c => if p c then some ([c], s.tail) else none where
  plain s := by
    cases s with
    | nil => exact ⟨[], rfl⟩
    | cons c s => exact ⟨if p c then [s] else [], by rw [Pattern.ways]; split <;> rfl⟩
  split {s t r} h := by
    cases s with
    | nil => simp at h
    | cons c s =>
        by_cases hc : p c = true
        · simp only [List.head?_cons, Option.bind_some, hc, if_true, List.tail_cons,
            Option.some.injEq, Prod.mk.injEq] at h
          obtain ⟨rfl, rfl⟩ := h
          rfl
        · simp [hc] at h
  first s f _ := by
    cases s with
    | nil => rfl
    | cons c s => by_cases hc : p c = true <;> simp [hc]

/-- Two words that do not start in the same way are tried without going back. -/
theorem scans_either {u w : List Char} (h : ∀ r, afterWord? w (u ++ r) = none) (ps : List Pattern) :
    Scans ps (.either (.word u) (.word w)) fun s =>
      ((afterWord? u s).map fun r => (u, r)).or ((afterWord? w s).map fun r => (w, r)) where
  plain s := by
    obtain ⟨us, hus⟩ := (scans_word ps u).plain s
    obtain ⟨ws, hws⟩ := (scans_word ps w).plain s
    exact ⟨us ++ ws, by rw [Pattern.ways, hus, hws, List.map_append]⟩
  split hs := by
    rcases Option.or_eq_some_iff.1 hs with hs | ⟨-, hs⟩
    · exact (scans_word ps u).split hs
    · exact (scans_word ps w).split hs
  first s f hf := by
    rw [Pattern.ways, List.findSome?_append, (scans_word ps u).first s f hf,
      (scans_word ps w).first s f hf]
    cases hu : afterWord? u s with
    | none => rfl
    | some r =>
        have hw : afterWord? w s = none := by
          rw [afterWord?_eq_some_iff.1 hu]
          exact h r
        rw [hw]
        simp

theorem scans_many (h : Stops p ps) :
    Scans ps (.many p) fun s => some (s.takeWhile p, s.dropWhile p) where
  plain s := ⟨(endsAfter p s).reverse, rfl⟩
  split {s t r} hs := by
    obtain ⟨rfl, rfl⟩ := Prod.mk.inj (Option.some.inj hs)
    exact List.takeWhile_append_dropWhile.symm
  first s f hf := by
    rw [Pattern.ways, List.findSome?_map]
    refine findSome?_endsAfter (f := f) (fun c s hc hs => ?_) s
    exact (hf _).2 (h c s hc ((hf _).1 hs))

theorem ways_row_cons {c : Char} (h : p c = true) (s : List Char) :
    (Pattern.row p).ways (c :: s) = (Pattern.many p).ways s := by
  have hthen : (Way.mk [] s).andThen = id := rfl
  simp [Pattern.row, h, hthen]

theorem takeRow?_cons {c : Char} (h : p c = true) (s : List Char) :
    takeRow? p (c :: s) = some (c :: s.takeWhile p, s.dropWhile p) := by
  simp [takeRow?, List.takeWhile_cons_of_pos h, List.dropWhile_cons_of_pos h]

theorem takeRow?_cons_of_neg {c : Char} (h : p c = false) (s : List Char) :
    takeRow? p (c :: s) = none := by
  simp [takeRow?, h]

theorem takeRow?_eq_some {s t r : List Char} (h : takeRow? p s = some (t, r)) :
    s = t ++ r ∧ ∀ c ∈ t, p c = true := by
  unfold takeRow? at h
  split at h
  · cases h
  · obtain ⟨rfl, rfl⟩ := Prod.mk.inj (Option.some.inj h)
    exact ⟨List.takeWhile_append_dropWhile.symm, List.all_eq_true.1 List.all_takeWhile⟩

theorem scans_row (h : Stops p ps) : Scans ps (.row p) (takeRow? p) where
  plain s := by
    cases s with
    | nil => exact ⟨[], rfl⟩
    | cons c s =>
        by_cases hc : p c = true
        · exact ⟨_, ways_row_cons hc s⟩
        · exact ⟨[], refuses_row (by simpa using hc) s⟩
  split hs := (takeRow?_eq_some hs).1
  first s f hf := by
    cases s with
    | nil => rfl
    | cons c s =>
        by_cases hc : p c = true
        · rw [ways_row_cons hc, takeRow?_cons hc, (scans_many h).first s f hf]
          rfl
        · have hc' : p c = false := by simpa using hc
          rw [refuses_row hc' s, takeRow?_cons_of_neg hc']
          rfl

theorem ways_integer (s : List Char) :
    Pattern.integer.ways ('-' :: s) = (Pattern.row isDigit).ways s := by
  have hthen (r : List Char) : (Way.mk [] r).andThen = id := rfl
  have hsign : (Pattern.row isDigit).ways ('-' :: s) = [] := refuses_row (by decide) s
  simp [Pattern.integer, Pattern.optional, ways_word, afterWord?, hthen, hsign]

theorem ways_integer_of_ne {s : List Char} (h : s.head? ≠ some '-') :
    Pattern.integer.ways s = (Pattern.row isDigit).ways s := by
  have hthen : (Way.mk [] s).andThen = id := rfl
  have hword : afterWord? ['-'] s = none := by
    cases s with
    | nil => rfl
    | cons c s =>
        have hc : '-' ≠ c := fun hc => h (by rw [hc]; rfl)
        simp [afterWord?, hc]
  simp [Pattern.integer, Pattern.optional, ways_word, hword, hthen]

theorem takeInteger?_of_ne {s : List Char} (h : s.head? ≠ some '-') :
    takeInteger? s = takeRow? isDigit s := by
  unfold takeInteger?
  split
  · exact absurd rfl h
  · rfl

theorem scans_integer (h : Stops isDigit ps) : Scans ps .integer takeInteger? where
  plain s := by
    by_cases hs : s.head? = some '-'
    · obtain ⟨s, rfl⟩ := List.head?_eq_some_iff.1 hs
      rw [ways_integer]
      exact (scans_row h).plain s
    · rw [ways_integer_of_ne hs]
      exact (scans_row h).plain s
  split {s t r} ht := by
    by_cases hs : s.head? = some '-'
    · obtain ⟨s, rfl⟩ := List.head?_eq_some_iff.1 hs
      obtain ⟨x, hx, heq⟩ := Option.map_eq_some_iff.1 ht
      obtain ⟨rfl, rfl⟩ := Prod.mk.inj heq
      rw [(scans_row h).split hx, List.cons_append]
    · rw [takeInteger?_of_ne hs] at ht
      exact (scans_row h).split ht
  first s f hf := by
    by_cases hs : s.head? = some '-'
    · obtain ⟨s, rfl⟩ := List.head?_eq_some_iff.1 hs
      rw [ways_integer, (scans_row h).first s f hf, takeInteger?, Option.bind_map]
      rfl
    · rw [ways_integer_of_ne hs, takeInteger?_of_ne hs, (scans_row h).first s f hf]

end Parts

/-! ### Texts of groups -/

/-- The property holds of all that the groups of a pattern can keep. -/
def Pattern.Keeps (q : Nat → List Char → Prop) : Pattern → Prop
  | nothing | one _ | many _ | few _ => True
  | both a b | either a b => a.Keeps q ∧ b.Keeps q
  | group i a => a.Keeps q ∧ ∀ s, ∀ v ∈ a.ways s, q i (before s v.rest)

section Groups

variable {q : Nat → List Char → Prop}

/-- What is kept has the property, on every way. -/
theorem Pattern.Keeps.groups {a : Pattern} (h : a.Keeps q) {s : List Char} {w : Way}
    (hw : w ∈ a.ways s) : ∀ x ∈ w.groups, q x.1 x.2 := by
  induction a generalizing s w with
  | nothing =>
      rw [List.mem_singleton.1 hw]
      simp
  | one p =>
      cases s with
      | nil => cases hw
      | cons c s =>
          rw [ways] at hw
          split at hw
          · rw [List.mem_singleton.1 hw]
            simp
          · cases hw
  | many p | few p =>
      rw [ways] at hw
      obtain ⟨r, -, rfl⟩ := List.mem_map.1 hw
      simp
  | both a b iha ihb =>
      rw [ways] at hw
      obtain ⟨v, hv, hw⟩ := List.mem_flatMap.1 hw
      obtain ⟨u, hu, rfl⟩ := List.mem_map.1 hw
      exact List.forall_mem_append.2 ⟨iha h.1 hv, ihb h.2 hu⟩
  | either a b iha ihb =>
      rw [ways] at hw
      exact (List.mem_append.1 hw).elim (iha h.1) (ihb h.2)
  | group i a ih =>
      rw [ways] at hw
      obtain ⟨v, hv, rfl⟩ := List.mem_map.1 hw
      exact List.forall_mem_cons.2 ⟨h.2 s v hv, ih h.1 hv⟩

@[simp] theorem keeps_word (w : List Char) : (Pattern.word w).Keeps q := by
  induction w with
  | nil => trivial
  | cons c w ih => exact ⟨trivial, ih⟩

@[simp] theorem keeps_blanks : Pattern.blanks.Keeps q := trivial

@[simp] theorem keeps_row (p : Char → Bool) : (Pattern.row p).Keeps q := ⟨trivial, trivial⟩

@[simp] theorem keeps_integer : Pattern.integer.Keeps q := ⟨⟨keeps_word ['-'], trivial⟩, keeps_row _⟩

/-- The text of a group has the property. -/
theorem Pattern.Keeps.text? {ps : List Pattern} (h : (inOrder ps).Keeps q) {s : List Char} {w : Way}
    (hw : findWay? ps s = some w) {i : Nat} {t : List Char} (ht : w.text? i = some t) : q i t := by
  obtain ⟨r, -, hr⟩ := List.exists_of_findSome?_eq_some hw
  obtain ⟨xs, ys, hgroups, -⟩ := List.lookup_eq_some_iff.1 ht
  exact h.groups (List.mem_of_mem_head? hr) (i, t) (by simp [hgroups])

theorem exists_of_mem_ways_row {p : Char → Bool} {s : List Char} {v : Way}
    (hv : v ∈ (Pattern.row p).ways s) : ∃ t, s = t ++ v.rest ∧ ∀ c ∈ t, p c = true := by
  cases s with
  | nil => cases hv
  | cons c s =>
      by_cases hc : p c = true
      · rw [ways_row_cons hc, Pattern.ways] at hv
        obtain ⟨r, hr, rfl⟩ := List.mem_map.1 hv
        obtain ⟨b, rfl, hb⟩ := exists_of_mem_endsAfter (List.mem_reverse.1 hr)
        exact ⟨c :: b, rfl, List.forall_mem_cons.2 ⟨hc, hb⟩⟩
      · rw [refuses_row (by simpa using hc) s] at hv
        cases hv

theorem exists_of_mem_ways_integer {s : List Char} {v : Way} (hv : v ∈ Pattern.integer.ways s) :
    ∃ t, (s = t ++ v.rest ∨ s = '-' :: t ++ v.rest) ∧ ∀ c ∈ t, isDigit c = true := by
  by_cases hs : s.head? = some '-'
  · obtain ⟨s, rfl⟩ := List.head?_eq_some_iff.1 hs
    rw [ways_integer] at hv
    obtain ⟨t, ht, hdigits⟩ := exists_of_mem_ways_row hv
    exact ⟨t, Or.inr (by rw [ht, List.cons_append]), hdigits⟩
  · rw [ways_integer_of_ne hs] at hv
    obtain ⟨t, ht, hdigits⟩ := exists_of_mem_ways_row hv
    exact ⟨t, Or.inl ht, hdigits⟩

end Groups

end BlockSketch.Text
