/-
**Tables do not depend on the order of blocks.**

The variables of a sketch are sorted by name and its pin modes by pin.  Before they are sorted they have
been collected in the order of the blocks, where of several variables with one name the first counts,
and of several modes for one pin the last.  If no two blocks declare the same, nothing is lost in this:
the blocks in another order yield the same entries in another order, and a list without repeated keys
is sorted in one way.

Entering a mode into a table of pins takes the old entry of the pin out and puts the new one in, as
far as order is left aside; that is all that a run of actions does to the table.

Main definitions:

* `BlockSketch.declared`, `BlockSketch.pinned` — what the blocks declare, one by one;
* `BlockSketch.PinModes.IsKeyed` — no pin occurs twice.

Main results:

* `BlockSketch.mergeSort_eq_of_perm`, `BlockSketch.pairwise_lt_mergeSort_key` — a list without repeated
  keys is sorted in one way, and strictly;
* `BlockSketch.globalTable_of_perm` — **the variables do not depend on the order of the blocks**;
* `BlockSketch.PinModes.set_perm` — what entering a mode does to a table;
* `BlockSketch.pinTable_of_perm` — **the pin modes do not depend on the order of the blocks**.
-/

import BlockSketch.Proofs.Reachable
import Mathlib.Data.List.Perm.Basic

set_option relaxedAutoImplicit false
set_option autoImplicit false

namespace BlockSketch

/-! ### Sorting by a key -/

section Sorting

variable {α κ : Type} [LE κ] [DecidableLE κ] [Std.IsLinearOrder κ] (key : α → κ)

theorem pairwise_mergeSort_key (xs : List α) :
    (xs.mergeSort fun a b => key a ≤ key b).Pairwise fun a b => decide (key a ≤ key b) = true := by
  refine List.pairwise_mergeSort (fun a b c hab hbc => ?_) (fun a b => ?_) xs
  · exact decide_eq_true (Std.le_trans (of_decide_eq_true hab) (of_decide_eq_true hbc))
  · rw [Bool.or_eq_true, decide_eq_true_eq, decide_eq_true_eq]
    exact Std.le_total

/-- A list without repeated keys is sorted in one way. -/
theorem mergeSort_eq_of_perm {xs ys : List α} (h : xs.Perm ys) (hd : (xs.map key).Nodup) :
    (xs.mergeSort fun a b => key a ≤ key b) = ys.mergeSort fun a b => key a ≤ key b := by
  have hperm := (List.mergeSort_perm xs fun a b => key a ≤ key b).trans
    (h.trans (List.mergeSort_perm ys fun a b => key a ≤ key b).symm)
  refine hperm.eq_of_pairwise (fun a b ha hb hab hba => ?_) (pairwise_mergeSort_key key xs)
    (pairwise_mergeSort_key key ys)
  have hkey : key a = key b := Std.le_antisymm (of_decide_eq_true hab) (of_decide_eq_true hba)
  exact List.inj_on_of_nodup_map hd (List.mem_mergeSort.1 ha) (h.mem_iff.2 (List.mem_mergeSort.1 hb))
    hkey

/-- A list without repeated keys is sorted strictly. -/
theorem pairwise_lt_mergeSort_key [LT κ] [Std.LawfulOrderLT κ] {xs : List α}
    (hd : (xs.map key).Nodup) :
    (xs.mergeSort fun a b => key a ≤ key b).Pairwise fun a b => key a < key b := by
  have hperm := (List.mergeSort_perm xs fun a b => key a ≤ key b).symm.map key
  have hne := List.pairwise_map.1 (hperm.nodup_iff.1 hd)
  refine ((pairwise_mergeSort_key key xs).and hne).imp fun hab => ?_
  exact Std.lt_of_le_of_ne (of_decide_eq_true hab.1) hab.2

end Sorting

/-! ### Variables -/

/-- The declarations of the variable blocks, one by one. -/
def declared (nodes : List Node) : List Declaration :=
  (nodes.filter fun n => n.hasKind .global).filterMap fun n => declarationOf? n.params

theorem declared_perm {ns ms : List Node} (h : ns.Perm ms) : (declared ns).Perm (declared ms) :=
  (h.filter _).filterMap _

theorem distinctNames_eq_self {ds : List Declaration} (hd : (ds.map Declaration.name).Nodup) :
    distinctNames ds = ds := by
  induction ds with
  | nil => rfl
  | cons d ds ih =>
      rw [List.map_cons, List.nodup_cons] at hd
      rw [distinctNames, ih hd.2, List.filter_eq_self.2 fun c hc => ?_]
      exact decide_eq_true fun hname => hd.1 (hname ▸ List.mem_map_of_mem hc)

theorem explicitGlobals_eq {nodes : List Node}
    (hd : ((declared nodes).map Declaration.name).Nodup) : explicitGlobals nodes = declared nodes :=
  distinctNames_eq_self hd

section Variables

variable {explicit : List Declaration} (as : List Action)

/-- The order of the declared variables makes no difference to the others. -/
theorem autoGlobals_of_perm {explicit' : List Declaration} (h : explicit.Perm explicit') :
    autoGlobals explicit' as = autoGlobals explicit as := by
  have hany (name : String) :
      (explicit'.any fun d => d.name == name) = explicit.any fun d => d.name == name :=
    h.symm.any_eq
  simp only [autoGlobals, hany]

theorem names_autoGlobals : (autoGlobals explicit as).map Declaration.name =
    (distinct (assignedNames as)).filter fun name => !explicit.any fun d => d.name == name := by
  rw [autoGlobals, List.map_map]
  exact List.map_id _

/-- No variable is declared twice. -/
theorem nodup_names_append (hd : (explicit.map Declaration.name).Nodup) :
    ((explicit ++ autoGlobals explicit as).map Declaration.name).Nodup := by
  rw [List.map_append, names_autoGlobals, List.nodup_append]
  refine ⟨hd, (nodup_distinct _).filter _, ?_⟩
  rintro name hname _ hauto rfl
  obtain ⟨d, hmem, rfl⟩ := List.mem_map.1 hname
  have hfree := (List.mem_filter.1 hauto).2
  rw [Bool.not_eq_true', List.any_eq_false] at hfree
  exact hfree d hmem (beq_self_eq_true _)

end Variables

/-- **The variables do not depend on the order of the blocks**, if no two blocks declare the same. -/
theorem globalTable_of_perm {ns ms : List Node} (h : ns.Perm ms)
    (hd : ((declared ns).map Declaration.name).Nodup) : globalTable ms = globalTable ns := by
  have hperm := declared_perm h
  have hd' : ((declared ms).map Declaration.name).Nodup := (hperm.map _).nodup_iff.1 hd
  funext as
  have hall : allGlobals ms as = allGlobals ns as := by
    rw [allGlobals, allGlobals, explicitGlobals_eq hd, explicitGlobals_eq hd',
      autoGlobals_of_perm as hperm]
    exact (mergeSort_eq_of_perm Declaration.name (hperm.append_right _)
      (nodup_names_append as hd)).symm
  rw [globalTable, hall, globalTable]

/-! ### Pin modes -/

/-- The pins and modes of the pin mode blocks, as far as they are valid, one by one. -/
def pinned (nodes : List Node) : PinModes :=
  (nodes.filter fun n => n.hasKind .pinMode).filterMap fun n => pinModeOf? n.params

theorem pinned_perm {ns ms : List Node} (h : ns.Perm ms) : (pinned ns).Perm (pinned ms) :=
  (h.filter _).filterMap _

namespace PinModes

/-- No pin occurs twice. -/
def IsKeyed (t : PinModes) : Prop :=
  (t.map Prod.fst).Nodup

theorem IsKeyed.of_perm {t t' : PinModes} (hd : t.IsKeyed) (h : t.Perm t') : t'.IsKeyed :=
  (h.map Prod.fst).nodup_iff.1 hd

/-- The mode of a pin is its entry. -/
theorem get?_eq_some_iff {t : PinModes} (hd : t.IsKeyed) {pin : Dyadic} {mode : String} :
    t.get? pin = some mode ↔ (pin, mode) ∈ t := by
  induction t with
  | nil => simp [get?]
  | cons pm t ih =>
      obtain ⟨p, m⟩ := pm
      rw [IsKeyed, List.map_cons, List.nodup_cons] at hd
      rw [get?, List.lookup_cons, List.mem_cons, Prod.mk.injEq]
      by_cases hp : pin = p
      · have hnot : (pin, mode) ∉ t := fun hmem => hd.1 (List.mem_map.2 ⟨_, hmem, hp⟩)
        rw [beq_iff_eq.2 hp, or_iff_left hnot, Option.some.injEq, and_iff_right hp, eq_comm]
      · rw [beq_eq_false_iff_ne.2 hp, or_iff_right fun h => hp h.1]
        exact ih hd.2

theorem get?_of_perm {t t' : PinModes} (hd : t.IsKeyed) (h : t.Perm t') : t'.get? = t.get? := by
  funext pin
  refine Option.ext fun mode => ?_
  rw [get?_eq_some_iff hd, get?_eq_some_iff (hd.of_perm h), h.mem_iff]

/-- A new pin gets its place at the end. -/
theorem set_of_notMem {t : PinModes} {pin : Dyadic} (h : pin ∉ t.map Prod.fst) (mode : String) :
    t.set pin mode = t ++ [(pin, mode)] := by
  induction t with
  | nil => rfl
  | cons pm t ih =>
      rw [List.map_cons, List.mem_cons, not_or] at h
      rw [set, if_neg (Ne.symm h.1), ih h.2, List.cons_append]

/-- Entering a mode takes the old entry of the pin out and puts the new one in. -/
theorem set_perm {t : PinModes} (hd : t.IsKeyed) (pin : Dyadic) (mode : String) :
    (t.set pin mode).Perm ((pin, mode) :: t.filter fun pm => pm.1 ≠ pin) := by
  induction t with
  | nil => exact .refl _
  | cons pm t ih =>
      obtain ⟨p, m⟩ := pm
      rw [IsKeyed, List.map_cons, List.nodup_cons] at hd
      by_cases hp : p = pin
      · have hkeep : (t.filter fun pm => pm.1 ≠ pin) = t :=
          List.filter_eq_self.2 fun qm hqm =>
            decide_eq_true fun hq => hd.1 (List.mem_map.2 ⟨qm, hqm, hq.trans hp.symm⟩)
        rw [set, if_pos hp, List.filter_cons_of_neg (by simp [hp]), hkeep, hp]
      · rw [set, if_neg hp, List.filter_cons_of_pos (by simp [hp])]
        exact ((ih hd.2).cons _).trans (.swap _ _ _)

section Entering

variable {t t' : PinModes} (hd : t.IsKeyed)
include hd

theorem IsKeyed.set (pin : Dyadic) (mode : String) : (PinModes.set t pin mode).IsKeyed := by
  refine IsKeyed.of_perm ?_ (set_perm hd pin mode).symm
  rw [IsKeyed, List.map_cons, List.nodup_cons]
  refine ⟨fun hmem => ?_, hd.sublist (List.filter_sublist.map _)⟩
  obtain ⟨pm, hpm, hpin⟩ := List.mem_map.1 hmem
  exact of_decide_eq_true (List.mem_filter.1 hpm).2 hpin

theorem set_perm_set (h : t.Perm t') (pin : Dyadic) (mode : String) :
    (t.set pin mode).Perm (t'.set pin mode) :=
  (set_perm hd pin mode).trans
    (((h.filter _).cons _).trans (set_perm (hd.of_perm h) pin mode).symm)

end Entering

/-- Pins that are all new are entered one after the other. -/
theorem foldl_set {t ps : PinModes} (hd : IsKeyed (t ++ ps)) :
    ps.foldl (fun t pm => t.set pm.1 pm.2) t = t ++ ps := by
  induction ps generalizing t with
  | nil => rw [List.foldl_nil, List.append_nil]
  | cons pm ps ih =>
      have hnew : pm.1 ∉ t.map Prod.fst := by
        rw [IsKeyed, List.map_append, List.map_cons] at hd
        exact fun hmem => (List.nodup_append.1 hd).2.2 _ hmem _ List.mem_cons_self rfl
      rw [List.append_cons] at hd ⊢
      rw [List.foldl_cons, set_of_notMem hnew, ih hd]

end PinModes

theorem explicitPinModes_eq {nodes : List Node} (hd : (pinned nodes).IsKeyed) :
    explicitPinModes nodes = pinned nodes :=
  PinModes.foldl_set (t := []) hd

section Pins

variable {explicit explicit' : PinModes} {u u' : PinUse}

namespace PinUse

/-- What a write does to the modes; conflicts are noted elsewhere. -/
theorem modes_write (explicit : PinModes) (u : PinUse) (pin : Dyadic) :
    (u.write explicit pin).modes =
      if (explicit.get? pin).isNone then u.modes.set pin "OUTPUT" else u.modes := by
  unfold write
  split
  · rfl
  · split
    · split <;> rfl
    · rfl

theorem modes_read (u : PinUse) (pin : Dyadic) : (u.read pin).modes =
    if (u.modes.get? pin).isSome then u.modes else u.modes.set pin "INPUT" := by
  unfold read
  split <;> rfl

section Steps

variable (hd : u.modes.IsKeyed) (h : u.modes.Perm u'.modes)
include hd h

theorem write_of_perm (he : explicit'.get? = explicit.get?) (pin : Dyadic) :
    (u.write explicit pin).modes.IsKeyed ∧
      (u.write explicit pin).modes.Perm (u'.write explicit' pin).modes := by
  rw [modes_write, modes_write, he]
  split
  · exact ⟨hd.set pin _, PinModes.set_perm_set hd h pin _⟩
  · exact ⟨hd, h⟩

theorem read_of_perm (pin : Dyadic) :
    (u.read pin).modes.IsKeyed ∧ (u.read pin).modes.Perm (u'.read pin).modes := by
  rw [modes_read, modes_read, PinModes.get?_of_perm hd h]
  split
  · exact ⟨hd, h⟩
  · exact ⟨hd.set pin _, PinModes.set_perm_set hd h pin _⟩

/-- An action does the same to modes in another order. -/
theorem observe_of_perm (he : explicit'.get? = explicit.get?) (a : Action) :
    (u.observe explicit a).modes.IsKeyed ∧
      (u.observe explicit a).modes.Perm (u'.observe explicit' a).modes := by
  cases a with
  | digitalWrite pin _ | analogWrite pin _ =>
      rw [observe, observe]
      cases pin.number? with
      | none => exact ⟨hd, h⟩
      | some p => exact write_of_perm hd h he p
  | digitalRead pin _ =>
      rw [observe, observe]
      cases pin.number? with
      | none => exact ⟨hd, h⟩
      | some p => exact read_of_perm hd h p
  | _ => exact ⟨hd, h⟩

end Steps

/-- A run of actions does the same to modes in another order. -/
theorem foldl_observe_of_perm (he : explicit'.get? = explicit.get?) (hd : u.modes.IsKeyed)
    (h : u.modes.Perm u'.modes) (as : List Action) :
    (as.foldl (observe explicit) u).modes.IsKeyed ∧
      (as.foldl (observe explicit) u).modes.Perm (as.foldl (observe explicit') u').modes := by
  induction as generalizing u u' with
  | nil => exact ⟨hd, h⟩
  | cons a as ih =>
      obtain ⟨hd', h'⟩ := observe_of_perm hd h he a
      exact ih hd' h'

end PinUse

end Pins

/-- **The pin modes do not depend on the order of the blocks**, if no two blocks set a mode for one
pin. -/
theorem pinTable_of_perm {ns ms : List Node} (h : ns.Perm ms) (hd : (pinned ns).IsKeyed) :
    pinTable ms = pinTable ns := by
  have hperm := pinned_perm h
  have he := PinModes.get?_of_perm hd hperm
  funext as
  obtain ⟨hd', h'⟩ :
      PinModes.IsKeyed (as.foldl (PinUse.observe (pinned ns)) ⟨pinned ns, []⟩).modes ∧
        (as.foldl (PinUse.observe (pinned ns)) ⟨pinned ns, []⟩).modes.Perm
          (as.foldl (PinUse.observe (pinned ms)) ⟨pinned ms, []⟩).modes :=
    PinUse.foldl_observe_of_perm he hd hperm as
  rw [pinTable, pinTable, pinUse, pinUse, explicitPinModes_eq hd,
    explicitPinModes_eq (hd.of_perm hperm)]
  exact (mergeSort_eq_of_perm Prod.fst h' hd').symm

end BlockSketch
