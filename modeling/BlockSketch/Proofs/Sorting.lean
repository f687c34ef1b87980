/-
**Sorting keeps the elements.**

A comparison may fail, and which elements are compared depends on runs, galloping and the order of
merges.  None of this matters for what becomes of the elements: if the list is sorted at all, no element
is lost or repeated on the way.  And it is sorted if any two of its elements can be compared.

Each function of the sorting algorithm has one lemma here, which says what becomes of the elements.  It
says both at once: the function fails only if some comparison may fail.

Main definitions:

* `BlockSketch.Order.Yields` — something holds of the result of a computation, unless it may fail;
* `BlockSketch.Order.Comparable` — any two elements of a list can be compared, unless this may fail.

Main results:

* `BlockSketch.Order.mergeRuns_yields` — two runs are merged;
* `BlockSketch.Order.sort_yields` — **a list of comparable elements is sorted, as a permutation**;
* `BlockSketch.Order.perm_of_sort` — a sorted list is a permutation, whatever can be compared.
-/

import BlockSketch.Order.Sort

set_option relaxedAutoImplicit false
set_option autoImplicit false

namespace BlockSketch.Order

variable {α β γ ε : Type} {mayFail : Prop}

/-! ### Computations that succeed -/

/-- The predicate holds of the result of the computation, which fails only if it may. -/
def Yields (mayFail : Prop) (x : Except ε β) (P : β → Prop) : Prop :=
  match x with
  | .ok b => P b
  | .error _ => mayFail

theorem Yields.ok {b : β} {P : β → Prop} (h : P b) : Yields mayFail (.ok b : Except ε β) P :=
  h

theorem Yields.bind {x : Except ε β} {P : β → Prop} {f : β → Except ε γ} {Q : γ → Prop}
    (hx : Yields mayFail x P) (hf : ∀ b, P b → Yields mayFail (f b) Q) :
    Yields mayFail (x >>= f) Q := by
  cases x with
  | ok b => exact hf b hx
  | error e => exact hx

theorem Yields.mono {x : Except ε β} {P Q : β → Prop} (hx : Yields mayFail x P)
    (h : ∀ b, P b → Q b) : Yields mayFail x Q := by
  cases x with
  | ok b => exact h b hx
  | error e => exact hx

theorem Yields.map {x : Except ε β} {P : β → Prop} {f : β → γ} {Q : γ → Prop}
    (hx : Yields mayFail x P) (hf : ∀ b, P b → Q (f b)) : Yields mayFail (x.map f) Q := by
  cases x with
  | ok b => exact hf b hx
  | error e => exact hx

/-- A computation that must not fail has a result. -/
theorem Yields.exists_eq_ok {x : Except ε β} {P : β → Prop} (hx : Yields False x P) :
    ∃ b, x = .ok b ∧ P b := by
  cases x with
  | ok b => exact ⟨b, rfl, hx⟩
  | error e => exact hx.elim

/-- A test that can be made of all elements of a list, unless this may fail. -/
def Decided (mayFail : Prop) (test : α → Except ε Bool) (l : List α) : Prop :=
  ∀ a ∈ l, Yields mayFail (test a) fun _ => True

/-- Any two elements of a list can be compared, unless this may fail. -/
def Comparable (mayFail : Prop) (before : α → α → Except ε Bool) (l : List α) : Prop :=
  ∀ a ∈ l, ∀ b ∈ l, Yields mayFail (before a b) fun _ => True

namespace Comparable

variable {before : α → α → Except ε Bool} {l l' : List α}

theorem mono (h : Comparable mayFail before l) (hs : l' ⊆ l) : Comparable mayFail before l' :=
  fun a ha b hb => h a (hs ha) b (hs hb)

theorem of_perm (h : Comparable mayFail before l) (hp : l'.Perm l) : Comparable mayFail before l' :=
  h.mono hp.subset

theorem swap (h : Comparable mayFail before l) : Comparable mayFail (fun x y => before y x) l :=
  fun a ha b hb => h b hb a ha

end Comparable

/-! ### Galloping -/

section Gallop

variable {test : α → Except ε Bool} {l : List α}

theorem widen_yields (h : Decided mayFail test l) (low step : Nat) :
    Yields mayFail (widen test l low step) fun _ => True := by
  induction hk : l.length - step using Nat.strongRecOn generalizing low step with
  | ind k ih =>
      rw [widen]
      split
      · refine (h _ (List.get_mem ..)).bind fun passes _ => ?_
        split
        · exact ih _ (by omega) _ _ rfl
        · exact Yields.ok trivial
      · exact Yields.ok trivial

theorem narrow_yields (h : Decided mayFail test l) (turned : Bool) (low high : Nat) :
    Yields mayFail (narrow turned test l low high) fun _ => True := by
  induction hk : high - low using Nat.strongRecOn generalizing low high with
  | ind k ih =>
      rw [narrow]
      split
      · dsimp only
        split
        · exact Yields.ok trivial
        · rename_i a ha
          refine (h a (List.mem_of_getElem? ha)).bind fun passes _ => ?_
          split
          · exact ih _ (by omega) _ _ rfl
          · refine ih _ ?_ _ _ rfl
            cases turned <;> simp <;> omega
      · exact Yields.ok trivial

theorem gallop_yields (h : Decided mayFail test l) (turned : Bool) :
    Yields mayFail (gallop turned test l) fun _ => True := by
  cases l with
  | nil => exact Yields.ok trivial
  | cons a rest =>
      rw [gallop]
      refine (h a List.mem_cons_self).bind fun passes _ => ?_
      split
      · exact (widen_yields h 1 1).bind fun bounds _ => narrow_yields h turned _ _
      · exact Yields.ok trivial

end Gallop

/-! ### Runs -/

section Runs

variable {before : α → α → Except ε Bool}

theorem splitRun_yields (falling : Bool) {a : α} {l : List α} (h : Comparable mayFail before (a :: l)) :
    Yields mayFail (splitRun before falling a l) fun r => r.1 ++ r.2 = l := by
  induction l generalizing a with
  | nil => exact Yields.ok rfl
  | cons b rest ih =>
      rw [splitRun]
      refine (h b (by simp) a (by simp)).bind fun isBefore _ => ?_
      split
      · refine (ih (h.mono (List.subset_cons_self a _))).bind fun r hr => Yields.ok ?_
        simp [hr]
      · exact Yields.ok rfl

/-- The first run is not empty. -/
theorem firstRun_yields {l : List α} (h : Comparable mayFail before l) :
    Yields mayFail (firstRun before l) fun r => (r.1 ++ r.2).Perm l ∧ (l ≠ [] → r.1 ≠ []) := by
  match l, h with
  | [], _ => exact Yields.ok ⟨List.Perm.refl _, by simp⟩
  | [a], _ => exact Yields.ok ⟨List.Perm.refl _, by simp⟩
  | a :: b :: rest, h =>
      rw [firstRun]
      refine (h b (by simp) a (by simp)).bind fun falling _ => ?_
      refine (splitRun_yields falling (h.mono (List.subset_cons_self a _))).bind fun r hr => ?_
      refine Yields.ok ⟨?_, ?_⟩
      · dsimp only
        split
        · refine ((List.reverse_perm _).append_right r.2).trans ?_
          simp [hr]
        · simp [hr]
      · intro _
        dsimp only
        split <;> simp

theorem insert_yields {a : α} {run : List α} (h : Comparable mayFail before (a :: run)) :
    Yields mayFail (insert before a run) fun r => r.Perm (a :: run) := by
  induction hk : run.length using Nat.strongRecOn generalizing run with
  | ind k ih =>
      rw [insert]
      split
      · rename_i hrun
        rw [List.length_eq_zero_iff.1 hrun]
        exact Yields.ok (List.Perm.refl _)
      · rename_i hrun
        have hmiddle : run.length / 2 < run.length := by omega
        have hsplit : run.take (run.length / 2) ++
            run.get ⟨run.length / 2, hmiddle⟩ :: run.drop (run.length / 2 + 1) = run := by
          rw [List.get_eq_getElem, ← List.drop_eq_getElem_cons hmiddle, List.take_append_drop]
        dsimp only
        generalize run.take (run.length / 2) = lower at hsplit ⊢
        generalize run.get ⟨run.length / 2, hmiddle⟩ = middle at hsplit ⊢
        generalize run.drop (run.length / 2 + 1) = upper at hsplit ⊢
        subst hsplit
        simp only [List.length_append, List.length_cons] at hk
        refine (h a (by simp) middle (by simp)).bind fun isBefore _ => ?_
        -- the element goes to one half, and the other half stays as it is
        split
        · refine (ih lower.length (by omega) (h.mono ?_) rfl).bind fun placed hp => Yields.ok ?_
          · exact List.cons_subset_cons a (List.subset_append_left ..)
          · exact hp.append_right _
        · refine (ih upper.length (by omega) (h.mono ?_) rfl).bind fun placed hp => Yields.ok ?_
          · refine List.cons_subset_cons a fun x hx => ?_
            simp [hx]
          · refine ((hp.cons middle).append_left lower).trans ?_
            exact ((List.Perm.swap a middle upper).append_left lower).trans List.perm_middle

theorem insertAll_yields {xs run : List α} (h : Comparable mayFail before (xs ++ run)) :
    Yields mayFail (xs.foldlM (fun run a => insert before a run) run) fun r => r.Perm (xs ++ run) := by
  induction xs generalizing run with
  | nil => exact Yields.ok (List.Perm.refl _)
  | cons a xs ih =>
      rw [List.foldlM_cons]
      refine (insert_yields (h.mono ?_)).bind fun r hr => ?_
      · exact List.cons_subset_cons a (List.subset_append_right ..)
      · have hperm : (xs ++ r).Perm (a :: xs ++ run) :=
          (hr.append_left xs).trans List.perm_middle
        exact (ih (h.of_perm hperm)).mono fun r' hr' => hr'.trans hperm

/-- A long run is not empty. -/
theorem longRun_yields (length : Nat) {l : List α} (h : Comparable mayFail before l) :
    Yields mayFail (longRun before length l) fun r => (r.1 ++ r.2).Perm l ∧ (l ≠ [] → r.1 ≠ []) := by
  rw [longRun]
  refine (firstRun_yields h).bind fun r hr => ?_
  obtain ⟨run, others⟩ := r
  obtain ⟨hperm, hne⟩ := hr
  dsimp only at hperm hne ⊢
  generalize length - run.length = missing
  have hsplit : (others.take missing ++ run ++ others.drop missing).Perm l := by
    refine (List.perm_append_comm.append_right _).trans ?_
    rw [List.append_assoc, List.take_append_drop]
    exact hperm
  refine (insertAll_yields (h.mono fun x hx => ?_)).bind fun filled hf => Yields.ok ⟨?_, ?_⟩
  · exact hsplit.subset (List.mem_append_left _ hx)
  · exact (hf.append_right _).trans hsplit
  · intro hl hnil
    obtain rfl : filled = [] := hnil
    exact hne hl (List.append_eq_nil_iff.1 (List.nil_perm.1 hf)).2

end Runs

/-! ### Merging -/

namespace Merging

/-- The elements of both runs and those in their place. -/
def all (m : Merging α) : List α :=
  m.placed ++ (m.left ++ m.right)

theorem rest?_perm {m : Merging α} {r : List α} (h : m.rest? = some r) :
    r.Perm (m.left ++ m.right) := by
  unfold rest? at h
  split at h
  · simp_all
  · simp_all
  · obtain rfl := Option.some.inj h
    simp_all
  · simp at h

/-- As long as the order is not settled, both runs have elements. -/
theorem exists_of_rest?_eq_none {m : Merging α} (h : m.rest? = none) :
    ∃ a l b r, m.left = a :: l ∧ m.right = b :: r := by
  unfold rest? at h
  cases hl : m.left with
  | nil => simp [hl] at h
  | cons a l =>
      cases hr : m.right with
      | nil => simp [hl, hr] at h
      | cons b r => exact ⟨a, l, b, r, rfl, rfl⟩

/-- Moving elements keeps them. -/
theorem move_perm (m : Merging α) (fromLeft : Bool) (count : Nat) :
    (m.move fromLeft count).all.Perm m.all := by
  have hplace (xs rest : List α) :
      (xs.reverse ++ m.placed ++ rest).Perm (m.placed ++ (xs ++ rest)) := by
    rw [← List.append_assoc]
    refine List.Perm.append_right _ ?_
    exact ((List.reverse_perm xs).append_right _).trans List.perm_append_comm
  unfold move all
  split
  · exact List.Perm.refl _
  · split
    · refine (hplace ..).trans ?_
      rw [← List.append_assoc (m.left.take count), List.take_append_drop]
    · refine (hplace ..).trans (List.Perm.append_left _ ?_)
      refine (List.perm_append_comm_assoc ..).trans ?_
      rw [List.take_append_drop]

theorem wins_yields {before : α → α → Except ε Bool} {m : Merging α}
    (h : Comparable mayFail before m.all) (turned fromLeft : Bool) :
    Yields mayFail (m.wins before turned fromLeft) fun _ => True := by
  unfold wins
  split
  · rename_i a l b r _ hl hr
    have ha : a ∈ m.all := by simp [all, hl]
    have hb : b ∈ m.all := by simp [all, hr]
    split
    · refine gallop_yields (fun x hx => ?_) turned
      exact (h b hb x (by simp [all, hx])).map fun _ h => h
    · exact gallop_yields (fun x hx => h x (by simp [all, hx]) a ha) turned
  · exact Yields.ok trivial

end Merging

section Merge

variable {before : α → α → Except ε Bool}

theorem mergeFor_yields (turned : Bool) (steps wins : Nat) (pace : Pace) {m : Merging α}
    (h : Comparable mayFail before m.all) :
    Yields mayFail (mergeFor before turned steps wins pace m) fun r => r.1.Perm m.all := by
  induction steps generalizing wins pace m with
  | zero =>
      rw [mergeFor]
      refine Yields.ok ?_
      dsimp only
      rw [List.append_assoc]
      exact (List.reverse_perm _).append_right _
  | succ steps ih =>
      have hgo {m' : Merging α} (hp : m'.all.Perm m.all) (wins : Nat) (pace : Pace) :
          Yields mayFail (mergeFor before turned steps wins pace m') fun r => r.1.Perm m.all :=
        (ih wins pace (h.of_perm hp)).mono fun r hr => hr.trans hp
      unfold mergeFor
      split
      · rename_i left right a l b r _ hl hr
        refine (h b (by simp [Merging.all, hr]) a (by simp [Merging.all, hl])).bind
          fun isBefore _ => ?_
        exact hgo (m.move_perm _ _) _ _
      · refine (Merging.wins_yields h turned _).bind fun first _ => ?_
        have hfirst : ((m.move (!turned) first).move turned 1).all.Perm m.all :=
          (Merging.move_perm ..).trans (Merging.move_perm ..)
        refine (Merging.wins_yields (h.of_perm hfirst) turned _).bind fun second _ => ?_
        have hsecond := ((Merging.move_perm _ (!turned) 1).trans
          (Merging.move_perm _ turned second)).trans hfirst
        dsimp only
        split
        · exact hgo hsecond _ _
        · exact hgo hsecond _ _
      · rename_i pace _ _ _ _ hgallop hsingle
        refine Yields.ok ?_
        cases hrest : m.rest? with
        | some r =>
            exact (List.reverse_perm _).append (Merging.rest?_perm hrest)
        | none =>
            -- nothing is settled, so one of the other two cases applies
            obtain ⟨a, l, b, r, hl, hr⟩ := Merging.exists_of_rest?_eq_none hrest
            cases pace with
            | single left right => exact (hsingle left right a l b r hrest rfl hl hr).elim
            | gallop again => exact (hgallop again hrest rfl).elim

theorem mergeLists_yields (turned : Bool) (wins : Nat) {left right : List α}
    (h : Comparable mayFail before (left ++ right)) :
    Yields mayFail (mergeLists before turned wins left right) fun r => r.1.Perm (left ++ right) := by
  have hmove := Merging.move_perm ({ left, right } : Merging α) false 1
  exact (mergeFor_yields turned _ wins _ (h.of_perm hmove)).mono fun r hr => hr.trans hmove

/-- Two runs are merged. -/
theorem mergeRuns_yields (wins : Nat) {left right : List α}
    (h : Comparable mayFail before (left ++ right)) :
    Yields mayFail (mergeRuns before wins left right) fun r => r.1.Perm (left ++ right) := by
  unfold mergeRuns
  split
  · rename_i last first hlast hfirst
    have hl : last ∈ left ++ right := List.mem_append_left _ (List.mem_of_getLast? hlast)
    have hf : first ∈ left ++ right := List.mem_append_right _ (List.mem_of_mem_head? hfirst)
    refine (gallop_yields (fun x hx => ?_) false).bind fun settled _ => ?_
    · exact (h first hf x (List.mem_append_left _ hx)).map fun _ h => h
    -- both runs are cut into what is settled and what is to be merged
    have hleft := List.take_append_drop settled left
    clear hlast hfirst
    dsimp only
    generalize left.take settled = lower at hleft ⊢
    generalize left.drop settled = inner at hleft ⊢
    subst hleft
    split
    · rename_i hempty
      rw [List.isEmpty_iff.1 hempty, List.append_nil]
      exact Yields.ok (List.Perm.refl _)
    · refine (gallop_yields (fun x hx => ?_) true).bind fun settled _ => ?_
      · rw [List.mem_reverse] at hx
        exact (h x (List.mem_append_right _ hx) last hl).map fun _ h => h
      have hright := List.take_append_drop (right.length - settled) right
      generalize right.take (right.length - settled) = other at hright ⊢
      generalize right.drop (right.length - settled) = upper at hright ⊢
      subst hright
      have hassoc : lower ++ inner ++ (other ++ upper) = lower ++ (inner ++ other) ++ upper := by
        simp
      have hinner : Comparable mayFail before (inner ++ other) := h.mono fun x hx => by
        rw [hassoc]
        exact List.mem_append_left _ (List.mem_append_right _ hx)
      have hall {merged : List α} (hm : merged.Perm (inner ++ other)) :
          (lower ++ merged ++ upper).Perm (lower ++ inner ++ (other ++ upper)) := by
        rw [hassoc]
        exact (hm.append_left lower).append_right upper
      split
      · rename_i hempty
        rw [List.isEmpty_iff.1 hempty, List.nil_append]
        exact Yields.ok (List.Perm.refl _)
      · split
        · exact (mergeLists_yields false wins hinner).bind fun r hr => Yields.ok (hall hr)
        · have hturned : (other.reverse ++ inner.reverse).Perm (inner ++ other) := by
            rw [← List.reverse_append]
            exact List.reverse_perm _
          refine (mergeLists_yields true wins (hinner.of_perm hturned).swap).bind fun r hr =>
            Yields.ok (hall ?_)
          exact ((List.reverse_perm _).trans hr).trans hturned
  · exact Yields.ok (List.Perm.refl _)

end Merge

/-! ### Piles -/

section Piles

variable {before : α → α → Except ε Bool}

/-- The elements of runs that wait. -/
def waitingAll (runs : List (Waiting α)) : List α :=
  runs.flatMap Waiting.run

section Merge

variable {last next : Waiting α} {rest : List (Waiting α)}

/-- Two runs that wait next to each other are merged. -/
theorem mergeWaiting_yields (wins : Nat) (h : Comparable mayFail before (waitingAll (last :: next :: rest))) :
    Yields mayFail (mergeRuns before wins next.run last.run) fun r =>
      (waitingAll ({ next with run := r.1 } :: rest)).Perm (waitingAll (last :: next :: rest)) := by
  have hsplit : waitingAll (last :: next :: rest) =
      last.run ++ next.run ++ waitingAll rest := by
    simp [waitingAll]
  rw [hsplit] at h ⊢
  have hpair : Comparable mayFail before (next.run ++ last.run) :=
    (h.mono (List.subset_append_left ..)).of_perm List.perm_append_comm
  refine (mergeRuns_yields wins hpair).mono fun r hr => ?_
  exact (hr.trans List.perm_append_comm).append_right _

end Merge

theorem mergeAbove_yields (level wins : Nat) {runs : List (Waiting α)}
    (h : Comparable mayFail before (waitingAll runs)) :
    Yields mayFail (mergeAbove before level wins runs) fun p =>
      (waitingAll p.runs).Perm (waitingAll runs) ∧ (runs ≠ [] → p.runs ≠ []) := by
  induction hk : runs.length using Nat.strongRecOn generalizing wins runs with
  | ind k ih =>
      unfold mergeAbove
      split
      · rename_i last next rest
        split
        · refine (mergeWaiting_yields wins h).bind fun r hr => ?_
          refine (ih (rest.length + 1) ?_ _ (h.of_perm hr) rfl).mono fun p hp => ?_
          · rw [← hk]
            simp
          · exact ⟨hp.1.trans hr, fun _ => hp.2 (by simp)⟩
        · exact Yields.ok ⟨List.Perm.refl _, fun h => h⟩
      · exact Yields.ok ⟨List.Perm.refl _, fun h => h⟩

theorem Pile.add_yields (whole : Nat) {p : Pile α} {run : List α}
    (h : Comparable mayFail before (waitingAll p.runs)) :
    Yields mayFail (p.add before whole run) fun q =>
      (waitingAll q.runs).Perm (waitingAll p.runs ++ run) := by
  unfold Pile.add
  split
  · rename_i hruns
    rw [hruns]
    exact Yields.ok (by simp [waitingAll])
  · rename_i last rest hruns
    refine (mergeAbove_yields _ p.wins h).bind fun q hq => ?_
    have hne : q.runs ≠ [] := hq.2 (by simp [hruns])
    dsimp only
    split
    · rename_i last rest hq'
      refine Yields.ok ?_
      have hperm := hq.1
      rw [hq'] at hperm
      exact List.perm_append_comm.trans (hperm.append_right run)
    · rename_i hq'
      exact absurd hq' hne

theorem mergeAll_yields (wins : Nat) {runs : List (Waiting α)}
    (h : Comparable mayFail before (waitingAll runs)) :
    Yields mayFail (mergeAll before wins runs) fun r => r.Perm (waitingAll runs) := by
  induction hk : runs.length using Nat.strongRecOn generalizing wins runs with
  | ind k ih =>
      unfold mergeAll
      split
      · rename_i last next third rest
        have hlt : rest.length + 2 < k := by
          rw [← hk]
          simp
        split
        · -- the two runs below the last one are merged
          have hbelow : Comparable mayFail before (waitingAll (next :: third :: rest)) :=
            h.mono (List.subset_append_right ..)
          refine (mergeWaiting_yields wins hbelow).bind fun r hr => ?_
          have hperm : (waitingAll (last :: { third with run := r.1 } :: rest)).Perm
              (waitingAll (last :: next :: third :: rest)) := hr.append_left last.run
          exact (ih _ hlt _ (h.of_perm hperm) rfl).mono fun r hr => hr.trans hperm
        · refine (mergeWaiting_yields wins h).bind fun r hr => ?_
          exact (ih _ hlt _ (h.of_perm hr) rfl).mono fun r' hr' => hr'.trans hr
      · refine (mergeWaiting_yields wins h).bind fun r hr => Yields.ok ?_
        simpa [waitingAll] using hr
      · exact Yields.ok (by simp [waitingAll])
      · exact Yields.ok (List.Perm.refl _)

/-! ### The whole list -/

theorem pileUp_yields (whole count : Nat) {p : Pile α} {l : List α} (hl : l.length ≤ count)
    (h : Comparable mayFail before (waitingAll p.runs ++ l)) :
    Yields mayFail (pileUp before whole count p l) fun q =>
      (waitingAll q.runs).Perm (waitingAll p.runs ++ l) := by
  induction count generalizing p l with
  | zero =>
      obtain rfl := List.length_eq_zero_iff.1 (Nat.le_zero.1 hl)
      exact Yields.ok (by simp)
  | succ count ih =>
      rw [pileUp]
      split
      · rename_i hempty
        rw [List.isEmpty_iff.1 hempty]
        exact Yields.ok (by simp)
      · rename_i hne
        refine (longRun_yields _ (h.mono (List.subset_append_right ..))).bind fun r hr => ?_
        obtain ⟨run, others⟩ := r
        obtain ⟨hperm, hrun⟩ := hr
        refine (Pile.add_yields whole (h.mono (List.subset_append_left ..))).bind fun q hq => ?_
        -- a run takes at least one element, so what is left fits in the remaining count
        have hlen : others.length ≤ count := by
          have hsum := hperm.length_eq
          have hpos := List.length_pos_iff.2 (hrun (by simpa using hne))
          simp only [List.length_append] at hsum hpos
          omega
        have hall : (waitingAll q.runs ++ others).Perm (waitingAll p.runs ++ l) := by
          refine (hq.append_right others).trans ?_
          rw [List.append_assoc]
          exact hperm.append_left _
        exact (ih hlen (h.of_perm hall)).mono fun r hr => hr.trans hall

/-- **A list of comparable elements is sorted, as a permutation.** -/
theorem sort_yields {l : List α} (h : Comparable mayFail before l) :
    Yields mayFail (sort before l) fun r => r.Perm l := by
  rw [sort]
  refine (pileUp_yields l.length l.length (Nat.le_refl _) h).bind fun p hp => ?_
  exact (mergeAll_yields p.wins (h.of_perm hp)).mono fun r hr => hr.trans hp

/-- A sorted list is a permutation, whatever can be compared. -/
theorem perm_of_sort {l r : List α} (h : sort before l = .ok r) : r.Perm l := by
  have hany : Comparable True before l := by
    intro a _ b _
    cases before a b <;> exact trivial
  have hsort := sort_yields hany
  rwa [h] at hsort

end Piles

end BlockSketch.Order
