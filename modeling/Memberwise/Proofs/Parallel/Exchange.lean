import Memberwise.Proofs.Parallel.Transfer
import Memberwise.Proofs.Whole.World

/-! # Places that are exchanged

Two runs come upon objects that stand for each other, and make new objects, each at the end of its
own store.  Where the objects that they come upon have kept what they hold, the worlds in which the
runs start are side by side.
-/

namespace Memberwise

/-! ## Places of new objects -/

/-- A place as it is, or moved along with the end of a store. -/
def beyond (n m p : Nat) : Nat := if p < n then p else m + (p - n)

section Beyond

variable {n m p : Nat}

theorem beyond_of_lt (h : p < n) : beyond n m p = p := if_pos h

theorem beyond_of_le (h : n ≤ p) : beyond n m p = m + (p - n) := if_neg (Nat.not_lt.mpr h)

theorem beyond_add (n m i : Nat) : beyond n m (n + i) = m + i := by
  rw [beyond_of_le (Nat.le_add_right n i), Nat.add_sub_cancel_left]

theorem beyond_injective (h : n ≤ m) : Function.Injective (beyond n m) := by
  intro p q hpq
  rcases Nat.lt_or_ge p n with hp | hp <;> rcases Nat.lt_or_ge q n with hq | hq
  · rwa [beyond_of_lt hp, beyond_of_lt hq] at hpq
  · rw [beyond_of_lt hp, beyond_of_le hq] at hpq
    omega
  · rw [beyond_of_le hp, beyond_of_lt hq] at hpq
    omega
  · rw [beyond_of_le hp, beyond_of_le hq] at hpq
    omega

end Beyond

/-! ## Renamings that agree -/

theorem Slot.rename_congr {ρ σ : Place → Place} {slot : Slot}
    (h : slot.Within fun p => ρ p = σ p) : slot.rename ρ = slot.rename σ := by
  cases slot with
  | atom a => rfl
  | ref p => exact congrArg Slot.ref (h p rfl)

theorem Slot.rename_of_within {ρ : Place → Place} {slot : Slot}
    (h : slot.Within fun p => ρ p = p) : slot.rename ρ = slot :=
  (rename_congr (σ := id) h).trans slot.rename_id

theorem Cell.rename_congr {ρ σ : Place → Place} {cell : Cell}
    (h : ∀ slot ∈ cell.slots, slot.Within fun p => ρ p = σ p) : cell.rename ρ = cell.rename σ := by
  have hsame : ∀ slot ∈ cell.slots, slot.rename ρ = slot.rename σ :=
    fun slot hslot => Slot.rename_congr (h slot hslot)
  cases cell with
  | seq kind items => exact congrArg (Cell.seq kind) (List.map_congr_left hsame)
  | dict entries =>
      refine congrArg Cell.dict (List.map_congr_left ?_)
      intro entry hentry
      exact Prod.ext (hsame _ (mem_slots_dict hentry).1) (hsame _ (mem_slots_dict hentry).2)
  | object name core attributes =>
      refine congrArg (Cell.object name core) (List.map_congr_left ?_)
      intro entry hentry
      exact Prod.ext rfl (hsame _ (List.mem_map_of_mem hentry))

theorem Cell.rename_of_within {ρ : Place → Place} {cell : Cell}
    (h : ∀ slot ∈ cell.slots, slot.Within fun p => ρ p = p) : cell.rename ρ = cell :=
  (rename_congr (σ := id) h).trans cell.rename_id

namespace World

/-! ## Worlds with exchanged objects -/

variable {w u u' : World} {σ : Place → Place} {K P P' : Place → Prop}

/-- Objects of a kind have counterparts by an exchange, and new objects correspond to each other in
the order in which they are made. -/
def exchanged (hσ : σ.Injective) (K : Place → Prop) {n m : Nat} (h : n ≤ m) : Correspondence where
  place q := beyond n m (σ q)
  covers q := K q ∨ n ≤ q
  settled _ := True
  injective := (beyond_injective h).comp hσ

/-- Whether a renaming takes the objects of a kind to objects of another world that hold their
counterparts, and leaves alone what classes keep. -/
structure Mirrors (ρ : Place → Place) (K : Place → Prop) (w w' : World) : Prop where
  injective : ρ.Injective
  old : ∀ q, K q → q < w.store.size
  cells : ∀ q, K q → w'.store.get? (ρ q) = (w.store.get? q).map (Cell.rename ρ)
  closed : ∀ q cell, K q → w.store.get? q = some cell → ∀ slot ∈ cell.slots, slot.Within K
  kept : ∀ key slot, w.constants.lookup key = some slot → slot.Within fun q => K q ∧ ρ q = q

/-- Whether a renaming also leaves alone the places that have no object yet. -/
structure Exchanges (σ : Place → Place) (K : Place → Prop) (u u' : World) : Prop
    extends Mirrors σ K u u' where
  fresh : ∀ q, u.store.size ≤ q → σ q = q

/-- What is exchanged stays among the old places. -/
theorem Exchanges.lt (h : Exchanges σ K u u') {q : Place} (hq : q < u.store.size) :
    σ q < u.store.size := by
  by_contra hout
  have hfixed : σ (σ q) = σ q := h.fresh _ (Nat.le_of_not_lt hout)
  have hsame : σ q = q := h.injective hfixed
  rw [hsame] at hout
  exact hout hq

theorem Exchanges.place (h : Exchanges σ K u u') {m : Nat} {q : Place} (hq : K q) :
    beyond u.store.size m (σ q) = σ q := beyond_of_lt (h.lt (h.old q hq))

theorem Exchanges.pairs (h : Exchanges σ K u u') {m : Nat} (hsize : u.store.size ≤ m)
    {v : Slot} (hv : v.Within K) : (exchanged h.injective K hsize).Pairs v (v.rename σ) := by
  refine ⟨fun q hq => .inl (hv q hq), Slot.rename_congr fun q hq => ?_⟩
  exact (h.place (hv q hq)).symm

/-- Objects stay exchanged as long as they are not changed. -/
theorem Exchanges.later (h : Exchanges σ K w w) (hu : ChangesOnly P w u) (hu' : ChangesOnly P' w u')
    (hapart : ∀ q, K q → ¬ P q ∧ ¬ P' (σ q)) : Exchanges σ K u u' := by
  have hcells : ∀ q, K q → u.store.get? q = w.store.get? q :=
    fun q hq => hu.cells q (h.old q hq) (hapart q hq).1
  refine ⟨⟨h.injective, fun q hq => Nat.lt_of_lt_of_le (h.old q hq) hu.size, fun q hq => ?_, ?_, ?_⟩,
    fun q hq => h.fresh q (Nat.le_trans hu.size hq)⟩
  · rw [hu'.cells _ (h.lt (h.old q hq)) (hapart q hq).2, h.cells q hq, hcells q hq]
  · intro q cell hq hcell
    rw [hcells q hq] at hcell
    exact h.closed q cell hq hcell
  · intro key slot hkept
    rw [hu.constants] at hkept
    exact h.kept key slot hkept

/-- Worlds whose objects are exchanged are side by side. -/
theorem Exchanges.parallel (h : Exchanges σ K u u') (hclasses : u'.classes = u.classes)
    (hconstants : u'.constants = u.constants) (hsize : u.store.size ≤ u'.store.size) :
    Parallel (exchanged h.injective K hsize) (some u'.schemas) u u' := by
  refine ⟨?_, ⟨?_, ?_, ?_, ?_⟩, ?_, ?_, rfl, rfl⟩
  · rw [hclasses]
    exact .refl u.classes
  · intro i
    show beyond _ _ (σ _) = _
    rw [h.fresh _ (Nat.le_add_right _ i), beyond_add]
  · intro i
    exact .inr (Nat.le_add_right _ i)
  · rintro q (hq | hq)
    · show u'.store.get? (beyond _ _ (σ q)) = _
      rw [h.place hq, h.cells q hq]
      cases hcell : u.store.get? q with
      | none => rfl
      | some cell =>
          refine congrArg some (Cell.rename_congr fun slot hslot part hpart => ?_)
          exact (h.place (h.closed q cell hq hcell slot hslot part hpart)).symm
    · show u'.store.get? (beyond _ _ (σ q)) = _
      rw [h.fresh q hq, Store.get?_eq_none hq, beyond_of_le hq,
        Store.get?_eq_none (Nat.le_add_right _ _)]
      rfl
  · rintro q cell (hq | hq) hcell slot hslot part hpart
    · exact .inl (h.closed q cell hq hcell slot hslot part hpart)
    · rw [Store.get?_eq_none hq] at hcell
      cases hcell
  · intro key
    rw [hconstants]
    cases hkept : u.constants.lookup key with
    | none => rfl
    | some slot =>
        have hfixed := h.kept key slot hkept
        refine congrArg some (Slot.rename_of_within fun q hq => ?_).symm
        exact (h.place (hfixed q hq).1).trans (hfixed q hq).2
  · intro key slot hkept q hq
    exact .inl (h.kept key slot hkept q hq).1

/-- A step changes only what it can come upon. -/
theorem Exchanges.transferred_changesOnly (h : Exchanges id K w w) {source : Slot}
    (hsource : source.Within K) (a : Assignment Converter) :
    ChangesOnly K w (w.transferred a source).1 := by
  have hpairs := h.pairs (Nat.le_refl _) hsource
  have hchanges := Similar.transferred_changesOnly (h.parallel rfl rfl (Nat.le_refl _)) hpairs a
  exact hchanges.mono fun q hq hcovers => hcovers.resolve_right (Nat.not_le.mpr hq)

/-- Steps that come upon no iterator spend none. -/
theorem Exchanges.keepsIterators (h : Exchanges id K w w) {source : Slot}
    (hsource : source.Within K) (hapart : ∀ q, K q → ¬ P q ∧ ¬ w.IsIterator q)
    (steps : List (Assignment Converter)) : w.KeepsIterators P source steps := by
  intro u hu a _
  have hself : Exchanges id K u u :=
    h.later hu hu fun q hq => ⟨(hapart q hq).1, (hapart q hq).1⟩
  refine (transferred_spends u a source).changesOnly_of
    (hself.transferred_changesOnly hsource a) fun q _ hq => ?_
  rw [IsIterator.congr (hu.cells q (h.old q hq) (hapart q hq).1)]
  exact (hapart q hq).2

end World

end Memberwise
