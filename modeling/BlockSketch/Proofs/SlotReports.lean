/-
**Slots with several links.**

The table of slots is made in one pass over the links.  The first link of a slot fills it, and each
further one is reported, unless the message about it has been written before.  So a report depends on
the texts of the messages, and an id may hold any text, that of a message included.  Still no two slots
share a message: the tags of the slots end in different characters, and all that follows them is the
same.  Hence a slot is reported at its second link, and only there.

Main definitions:

* `BlockSketch.slotPlaces` — the places of the links that fill a slot;
* `BlockSketch.DoubledBefore` — one slot has its second link before another;
* `BlockSketch.Reports` — the slots to be reported for a list of links, in order.

Main results:

* `BlockSketch.Fault.multipleOutputs_message_inj` — no two slots share a message;
* `BlockSketch.Reports.add` — what one more link has to report;
* `BlockSketch.SlotTable.exists_reports` — a table reports what is to be reported;
* `BlockSketch.Graph.slotTable_resolves` — **the first link fills a slot and the second is reported**.
-/

import BlockSketch.Proofs.Slots
import Mathlib.Data.List.Induction
import Mathlib.Data.List.Nodup

set_option relaxedAutoImplicit false
set_option autoImplicit false

namespace BlockSketch

/-! ### Messages -/

/-- The report about a slot. -/
def slotFault (x : String × Slot) : Fault :=
  .multipleOutputs x.1 x.2

/-- The last characters of the tags tell the slots apart. -/
theorem Slot.eq_of_getLast?_tag {k k' : Slot}
    (h : k.tag.toList.getLast? = k'.tag.toList.getLast?) : k = k' := by
  revert h
  cases k <;> cases k' <;> decide

/-- No two slots share a message, whatever the ids are. -/
theorem Fault.multipleOutputs_message_inj {s s' : String} {k k' : Slot}
    (h : (Fault.multipleOutputs s k).message = (Fault.multipleOutputs s' k').message) :
    s = s' ∧ k = k' := by
  have htags : "Block " ++ s ++ " has multiple '" ++ k.tag =
      "Block " ++ s' ++ " has multiple '" ++ k'.tag :=
    (String.append_left_inj "' outputs.").1 h
  have hlast (t : String) (j : Slot) :
      (t ++ j.tag).toList.getLast? = j.tag.toList.getLast? := by
    rw [String.toList_append, List.getLast?_append]
    cases j <;> rfl
  obtain rfl : k = k' := by
    refine Slot.eq_of_getLast?_tag ?_
    rw [← hlast ("Block " ++ s ++ " has multiple '"), htags, hlast]
  have hids : "Block " ++ s ++ " has multiple '" = "Block " ++ s' ++ " has multiple '" :=
    (String.append_left_inj k.tag).1 htags
  exact ⟨(String.append_right_inj "Block ").1 ((String.append_left_inj _).1 hids), rfl⟩

theorem slotFault_message_injective : Function.Injective fun x => (slotFault x).message := by
  intro x y h
  obtain ⟨hs, hk⟩ := Fault.multipleOutputs_message_inj h
  exact Prod.ext hs hk

/-! ### Places of links -/

/-- The places of the links that leave a block by a slot and have both ends among the blocks. -/
def slotPlaces (nodes : List Node) (es : List Edge) (x : String × Slot) : List Nat :=
  es.findIdxs (Edge.fills nodes x.1 x.2)

/-- The second link of one slot stands before the second link of another. -/
def DoubledBefore (nodes : List Node) (es : List Edge) (x y : String × Slot) : Prop :=
  ∃ i j, (slotPlaces nodes es x)[1]? = some i ∧ (slotPlaces nodes es y)[1]? = some j ∧ i < j

/-- The slots with at least two links, in the order of their second ones. -/
structure Reports (nodes : List Node) (es : List Edge) (slots : List (String × Slot)) : Prop where
  mem_iff : ∀ x, x ∈ slots ↔ 2 ≤ (slotPlaces nodes es x).length
  ordered : slots.Pairwise (DoubledBefore nodes es)

section Places

variable {nodes : List Node} {es : List Edge} {x : String × Slot} {e : Edge}

theorem Edge.fills_self (h : e.isPresent nodes = true) :
    e.fills nodes e.source (e.slotIn nodes) = true :=
  Edge.fills_iff.2 ⟨h, rfl, rfl⟩

/-- A link fills no other slot than its own. -/
theorem Edge.eq_of_fills (h : e.fills nodes x.1 x.2 = true) : x = (e.source, e.slotIn nodes) := by
  obtain ⟨-, hs, hk⟩ := Edge.fills_iff.1 h
  exact Prod.ext hs.symm hk.symm

theorem slotPlaces_concat (nodes : List Node) (es : List Edge) (e : Edge) (x : String × Slot) :
    slotPlaces nodes (es ++ [e]) x =
      slotPlaces nodes es x ++ if e.fills nodes x.1 x.2 then [es.length] else [] := by
  rw [slotPlaces, List.findIdxs_append, List.findIdxs_singleton, Nat.zero_add]
  rfl

/-- The second link of a slot has its place, whatever follows. -/
theorem getElem?_slotPlaces_concat (h : 2 ≤ (slotPlaces nodes es x).length) (e : Edge) :
    (slotPlaces nodes (es ++ [e]) x)[1]? = (slotPlaces nodes es x)[1]? := by
  rw [slotPlaces_concat]
  exact List.getElem?_append_left h

theorem exists_getElem?_slotPlaces (h : 2 ≤ (slotPlaces nodes es x).length) :
    ∃ i, (slotPlaces nodes es x)[1]? = some i ∧ i < es.length := by
  refine ⟨_, List.getElem?_eq_getElem h, ?_⟩
  exact List.lt_add_of_mem_findIdxs _ (List.getElem_mem h)

/-- A slot has a link exactly if it leads somewhere. -/
theorem find?_fills_isSome_iff :
    (es.find? (Edge.fills nodes x.1 x.2)).isSome = true ↔ 0 < (slotPlaces nodes es x).length := by
  rw [slotPlaces, List.length_findIdxs, List.countP_pos_iff, List.find?_isSome]

end Places

/-! ### One more link -/

namespace Reports

variable {nodes : List Node} {es : List Edge} {slots : List (String × Slot)}

theorem nodup (h : Reports nodes es slots) : slots.Nodup := by
  refine h.ordered.imp ?_
  rintro x _ ⟨i, j, hi, hj, hij⟩ rfl
  rw [hi] at hj
  exact Nat.ne_of_lt hij (Option.some.inj hj)

theorem start (nodes : List Node) : Reports nodes [] [] :=
  ⟨fun x => by simp [slotPlaces], .nil⟩

/-- The second links that there are keep their order. -/
theorem ordered_concat (h : Reports nodes es slots) (e : Edge) :
    slots.Pairwise (DoubledBefore nodes (es ++ [e])) := by
  refine h.ordered.imp_of_mem fun {x y} hx hy hxy => ?_
  rw [DoubledBefore, getElem?_slotPlaces_concat ((h.mem_iff x).1 hx),
    getElem?_slotPlaces_concat ((h.mem_iff y).1 hy)]
  exact hxy

/-- A link that is not the second of its slot has nothing to report. -/
theorem skip (h : Reports nodes es slots) {e : Edge}
    (he : e.isPresent nodes = true →
      (slotPlaces nodes es (e.source, e.slotIn nodes)).length ≠ 1) :
    Reports nodes (es ++ [e]) slots where
  mem_iff x := by
    rw [h.mem_iff, slotPlaces_concat]
    split
    · rename_i hfills
      obtain rfl := Edge.eq_of_fills hfills
      have hone := he (Edge.fills_iff.1 hfills).1
      rw [List.length_append, List.length_singleton]
      omega
    · rw [List.append_nil]
  ordered := h.ordered_concat e

/-- The second link of a slot has this slot to report, after all others. -/
theorem add (h : Reports nodes es slots) {e : Edge} (hpresent : e.isPresent nodes = true)
    (hone : (slotPlaces nodes es (e.source, e.slotIn nodes)).length = 1) :
    Reports nodes (es ++ [e]) (slots ++ [(e.source, e.slotIn nodes)]) where
  mem_iff x := by
    rw [List.mem_append, List.mem_singleton, h.mem_iff, slotPlaces_concat, List.length_append]
    by_cases hx : x = (e.source, e.slotIn nodes)
    · subst hx
      simp [hone, Edge.fills_self hpresent]
    · have hfills : ¬ e.fills nodes x.1 x.2 = true := mt Edge.eq_of_fills hx
      simp [hx, hfills]
  ordered := by
    refine List.pairwise_append.2 ⟨h.ordered_concat e, List.pairwise_singleton _ _, ?_⟩
    intro x hx y hy
    obtain rfl := List.mem_singleton.1 hy
    have htwo := (h.mem_iff x).1 hx
    obtain ⟨i, hi, hlt⟩ := exists_getElem?_slotPlaces htwo
    refine ⟨i, es.length, (getElem?_slotPlaces_concat htwo e).trans hi, ?_, hlt⟩
    rw [slotPlaces_concat, if_pos (Edge.fills_self hpresent),
      List.getElem?_append_right (Nat.le_of_eq hone), hone]
    rfl

end Reports

namespace SlotTable

/-- A report is made unless the slot has been reported: the message says which slot is meant. -/
theorem report_faults {t : SlotTable} {slots : List (String × Slot)}
    (ht : t.faults = slots.map slotFault) (x : String × Slot) :
    (t.report x.1 x.2).faults = (if x ∈ slots then slots else slots ++ [x]).map slotFault := by
  have hsaid : (t.faults.map Fault.message).contains (slotFault x).message = true ↔ x ∈ slots := by
    rw [List.contains_iff_mem, ht, List.map_map]
    exact List.mem_map_of_injective slotFault_message_injective
  have hreport : (t.report x.1 x.2).faults =
      if (t.faults.map Fault.message).contains (slotFault x).message then t.faults
      else t.faults ++ [slotFault x] :=
    apply_ite SlotTable.faults _ _ _
  rw [hreport, if_congr hsaid rfl rfl, ht, apply_ite (List.map slotFault), List.map_append]
  rfl

/-- What a table reports after one more link. -/
theorem exists_reports_add {nodes : List Node} {es : List Edge} {t : SlotTable}
    {slots : List (String × Slot)} (h : Reports nodes es slots)
    (ht : t.faults = slots.map slotFault)
    (htarget : ∀ s k, t.target? s k = (es.find? (Edge.fills nodes s k)).map Edge.target) (e : Edge) :
    ∃ slots', Reports nodes (es ++ [e]) slots' ∧ (t.add nodes e).faults = slots'.map slotFault := by
  have hfilled : (t.target? e.source (e.slotIn nodes)).isSome = true ↔
      0 < (slotPlaces nodes es (e.source, e.slotIn nodes)).length := by
    rw [htarget, Option.isSome_map]
    exact find?_fills_isSome_iff (x := (e.source, e.slotIn nodes))
  by_cases hpresent : e.isPresent nodes = true
  · cases hslot : t.target? e.source (e.slotIn nodes) with
    | none =>
        -- the link is the first of its slot
        refine ⟨slots, h.skip fun _ hone => ?_, (add_faults_of_free hslot).trans ht⟩
        rw [hslot, hone] at hfilled
        exact absurd (hfilled.2 Nat.one_pos) (by simp)
    | some target =>
        have hpos := hfilled.1 (by rw [hslot]; rfl)
        have hadd : t.add nodes e = t.report e.source (e.slotIn nodes) := by
          unfold Edge.isPresent at hpresent
          simp only [add, hpresent, if_true, hslot]
        rw [hadd, report_faults ht (e.source, e.slotIn nodes)]
        refine ⟨_, ?_, rfl⟩
        split
        · rename_i hmem
          refine h.skip fun _ hone => ?_
          have htwo := (h.mem_iff _).1 hmem
          omega
        · rename_i hnew
          refine h.add hpresent ?_
          have hlt := mt (h.mem_iff _).2 hnew
          omega
  · -- a link with an end that is missing leaves the table as it is
    refine ⟨slots, h.skip fun hp => absurd hp hpresent, ?_⟩
    unfold Edge.isPresent at hpresent
    rw [add, if_neg hpresent, ht]

/-- A table reports what is to be reported for its links. -/
theorem exists_reports (nodes : List Node) (es : List Edge) :
    ∃ slots, Reports nodes es slots ∧
      (es.foldl (SlotTable.add nodes) {}).faults = slots.map slotFault := by
  induction es using List.reverseRecOn with
  | nil => exact ⟨[], .start nodes, rfl⟩
  | append_singleton es e ih =>
      obtain ⟨slots, h, ht⟩ := ih
      rw [List.foldl_concat]
      refine exists_reports_add h ht (fun s k => ?_) e
      rw [foldl_add_target?]
      rfl

end SlotTable

/-! ### The slots of a graph -/

/-- **The first link fills a slot and the second is reported.**  A slot leads to the target of the first
link that leaves by it and has both ends in the graph.  The reports are those about the slots with two or
more such links, each once, in the order of the second ones; no two slots share a message. -/
theorem Graph.slotTable_resolves (g : Graph) :
    (∀ s k, g.slotTable.target? s k =
      (g.edges.find? (Edge.fills g.nodes s k)).map Edge.target) ∧
    (∃ slots : List (String × Slot),
      g.slotTable.faults.map Fault.message =
        slots.map (fun x => "Block " ++ x.1 ++ " has multiple '" ++ x.2.tag ++ "' outputs.") ∧
      (∀ x, x ∈ slots ↔ 2 ≤ g.edges.countP (Edge.fills g.nodes x.1 x.2)) ∧
      slots.Pairwise (DoubledBefore g.nodes g.edges)) ∧
    (g.slotTable.faults.map Fault.message).Nodup ∧
    ∀ s s' k k', (Fault.multipleOutputs s k).message = (Fault.multipleOutputs s' k').message →
      s = s' ∧ k = k' := by
  obtain ⟨slots, h, hfaults⟩ := SlotTable.exists_reports g.nodes g.edges
  have hmessages : g.slotTable.faults.map Fault.message =
      slots.map fun x => (slotFault x).message := by
    rw [Graph.slotTable, hfaults, List.map_map]
    rfl
  refine ⟨g.slotTable_target?, ⟨slots, hmessages, fun x => ?_, h.ordered⟩, ?_,
    fun _ _ _ _ => Fault.multipleOutputs_message_inj⟩
  · rw [h.mem_iff, slotPlaces, List.length_findIdxs]
  · rw [hmessages]
    exact h.nodup.map slotFault_message_injective

end BlockSketch
