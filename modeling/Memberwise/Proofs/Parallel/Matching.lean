import Memberwise.Proofs.Parallel.Exchange
import Mathlib.Data.Fintype.Sum

/-! # Values that match

Two values match if one is the other with its objects exchanged for objects that hold the same, one
for one and all the way down.  What classes keep is there once for all, so it is not exchanged.
-/

namespace Memberwise

/-- What takes some places below a bound to places below it is part of an exchange of all of
them. -/
theorem exists_exchange {ρ : Place → Place} (hρ : ρ.Injective) {K : Place → Prop} {n : Nat}
    (hK : ∀ q, K q → ρ q < n) : ∃ σ : Place → Place,
    σ.Injective ∧ (∀ q, n ≤ q → σ q = q) ∧ ∀ q, q < n → K q → σ q = ρ q := by
  have hinto : Set.MapsTo (fun i : Fin n => ρ i) {i | K i} (Finset.range n) :=
    fun i hi => Finset.mem_coe.mpr (Finset.mem_range.mpr (hK i hi))
  obtain ⟨g, hg⟩ := hinto.exists_equiv_extend_of_card_eq (by simp)
    fun i _ j _ hij => Fin.ext (hρ hij)
  have hlt : ∀ i, (g i : Nat) < n := fun i => Finset.mem_range.mp (g i).2
  refine ⟨fun q => if h : q < n then g ⟨q, h⟩ else q, ?_, fun q hq => ?_, fun q hq hkind => ?_⟩
  · intro p q hpq
    dsimp only at hpq
    split at hpq <;> split at hpq
    · exact congrArg Fin.val (g.injective (Subtype.ext hpq))
    · rename_i hp hq
      exact absurd (hpq ▸ hlt ⟨p, hp⟩) hq
    · rename_i hp hq
      exact absurd (hpq.symm ▸ hlt ⟨q, hq⟩) hp
    · exact hpq
  · exact dif_neg (Nat.not_lt.mpr hq)
  · exact (dif_pos hq).trans (hg ⟨q, hq⟩ hkind)

theorem Cell.slots_rename (ρ : Place → Place) (cell : Cell) :
    (cell.rename ρ).slots = cell.slots.map (Slot.rename ρ) := by
  cases cell <;> simp [rename, slots, Function.comp_def]

namespace World

variable {w w' u u' : World} {ρ σ : Place → Place} {K P P' : Place → Prop} {slot v v' : Slot}
  {p q : Place}

/-! ## What is seen from a slot -/

/-- Whether an object is reached from a slot or from what a class keeps. -/
def Sees (w : World) (slot : Slot) (q : Place) : Prop :=
  w.store.Reaches slot q ∨
    ∃ key kept, w.constants.lookup key = some kept ∧ w.store.Reaches kept q

theorem sees_self (w : World) (p : Place) : w.Sees (.ref p) p := .inl (.self p)

theorem Sees.part (h : w.Sees slot p) {cell : Cell} (hfound : w.store.get? p = some cell)
    (hholds : v ∈ cell.slots) (hq : w.store.Reaches v q) : w.Sees slot q := by
  rcases h with h | ⟨key, kept, hkept, h⟩
  · exact .inl (h.trans hfound hholds hq)
  · exact .inr ⟨key, kept, hkept, h.trans hfound hholds hq⟩

/-- What is read from an object is held by it or kept by a class. -/
theorem read_of_getWithin {fuel : Nat} {name : String} {made : World × Slot}
    (h : w.getWithin (.ref p) fuel name = .ok made) : made.1 = w ∧
    ((∃ cell, w.store.get? p = some cell ∧ made.2 ∈ cell.slots) ∨ ∃ key, made.2 = w.constant key) := by
  induction fuel generalizing name with
  | zero => cases h
  | succ fuel ih =>
      rw [getWithin_ref] at h
      split at h
      · rename_i className core attributes hcell
        have hheld : ∀ v, attributes.lookup name = some v →
            ∃ cell, w.store.get? p = some cell ∧ v ∈ cell.slots :=
          fun v hv => ⟨_, hcell, List.mem_map_of_mem (f := Prod.snd) (mem_of_lookup hv)⟩
        unfold World.readAs at h
        split at h
        · cases h
        · split at h
          · exact ih h
          · cases h
            exact ⟨rfl, .inr ⟨_, rfl⟩⟩
          · cases h
        · cases h
          exact ⟨rfl, .inl (hheld _ ‹_›)⟩
        · cases h
          exact ⟨rfl, .inr ⟨_, rfl⟩⟩
        · cases h
      · cases h

/-- Nothing is seen from what is read from an object that is not seen from the object. -/
theorem sees_of_getAttribute {name : String} {made : World × Slot}
    (h : w.getAttribute (.ref p) name = .ok made) (hq : w.Sees made.2 q) : w.Sees (.ref p) q := by
  rcases hq with hq | hq
  · rcases (read_of_getWithin h).2 with ⟨cell, hcell, hholds⟩ | ⟨key, hkept⟩
    · exact .inl (.part hcell hholds hq)
    · rw [hkept] at hq
      unfold World.constant at hq
      cases hfound : w.constants.lookup key with
      | none =>
          rw [hfound] at hq
          cases hq
      | some kept =>
          rw [hfound] at hq
          exact .inr ⟨key, kept, hfound, hq⟩
  · exact .inr hq

/-! ## Renamings -/

/-- What is reached from a slot has counterparts that are reached from its counterpart. -/
theorem Mirrors.reaches (h : Mirrors ρ K w w') (hv : v.Within K) (hq : w.store.Reaches v q) :
    K q ∧ w'.store.Reaches (v.rename ρ) (ρ q) := by
  induction hq with
  | self p => exact ⟨hv p rfl, .self _⟩
  | @part p q cell slot hfound hholds _ ih =>
      have hp := hv p rfl
      obtain ⟨hq, hreaches⟩ := ih (h.closed p cell hp hfound slot hholds)
      have hcell : w'.store.get? (ρ p) = some (cell.rename ρ) := by
        rw [h.cells p hp, hfound]
        rfl
      have hpart : slot.rename ρ ∈ (cell.rename ρ).slots := by
        rw [Cell.slots_rename]
        exact List.mem_map_of_mem hholds
      exact ⟨hq, .part hcell hpart hreaches⟩

theorem Mirrors.sees (h : Mirrors ρ K w w) (hv : v.Within K) (hq : w.Sees v q) :
    K q ∧ w.Sees (v.rename ρ) (ρ q) := by
  rcases hq with hq | ⟨key, kept, hkept, hq⟩
  · obtain ⟨hkind, hreaches⟩ := h.reaches hv hq
    exact ⟨hkind, .inl hreaches⟩
  · have hfixed := h.kept key kept hkept
    obtain ⟨hkind, hreaches⟩ := h.reaches (fun p hp => (hfixed p hp).1) hq
    rw [Slot.rename_of_within fun p hp => (hfixed p hp).2] at hreaches
    exact ⟨hkind, .inr ⟨key, kept, hkept, hreaches⟩⟩

/-- A renaming takes part only with what is seen from a slot. -/
theorem Mirrors.narrow (h : Mirrors ρ K w w) (hv : v.Within K) : Mirrors ρ (w.Sees v) w w where
  injective := h.injective
  old q hq := h.old q (h.sees hv hq).1
  cells q hq := h.cells q (h.sees hv hq).1
  closed q cell hq hcell slot hslot := by
    rintro p rfl
    exact hq.part hcell hslot (.self p)
  kept key slot hkept := by
    rintro p rfl
    exact ⟨.inr ⟨key, _, hkept, .self p⟩, (h.kept key _ hkept p rfl).2⟩

/-- What a renaming does to objects of a world is done by an exchange. -/
theorem Mirrors.exchange (h : Mirrors ρ K w w) :
    ∃ σ, Exchanges σ K w w ∧ ∀ q, K q → σ q = ρ q := by
  have hinto : ∀ q, K q → ρ q < w.store.size := by
    intro q hq
    have hsome : (w.store.get? q).isSome = true := by
      rw [Store.isSome_get?]
      exact decide_eq_true (h.old q hq)
    obtain ⟨cell, hcell⟩ := Option.isSome_iff_exists.mp hsome
    have hcells := h.cells q hq
    rw [hcell] at hcells
    exact Store.lt_of_get? hcells
  obtain ⟨σ, hinjective, hfresh, hsame⟩ := exists_exchange h.injective hinto
  have hsame : ∀ q, K q → σ q = ρ q := fun q hq => hsame q (h.old q hq) hq
  refine ⟨σ, ⟨⟨hinjective, h.old, fun q hq => ?_, h.closed, fun key slot hkept p hp => ?_⟩,
    hfresh⟩, hsame⟩
  · rw [hsame q hq, h.cells q hq]
    cases hcell : w.store.get? q with
    | none => rfl
    | some cell =>
        refine congrArg some (Cell.rename_congr fun slot hslot p hp => ?_)
        exact (hsame p (h.closed q cell hq hcell slot hslot p hp)).symm
  · have hfixed := h.kept key slot hkept p hp
    exact ⟨hfixed.1, (hsame p hfixed.1).trans hfixed.2⟩

/-! ## Matching -/

/-- Whether one value is another one with its objects exchanged, one for one, for objects that hold
the same. -/
def Matches (w : World) (v v' : Slot) : Prop :=
  ∃ ρ K, Mirrors ρ K w w ∧ v.Within K ∧ v' = v.rename ρ

theorem mirrors_id (h : w.IsWhole) : Mirrors id (· < w.store.size) w w where
  injective := Function.injective_id
  old _ := id
  cells q _ := by
    have hsame : Cell.rename id = id := funext Cell.rename_id
    rw [hsame, Option.map_id]
    rfl
  closed q cell _ := h.parts q cell
  kept key slot hkept q hq := ⟨h.constants key slot hkept q hq, rfl⟩

theorem exchanges_seen (h : w.IsWhole) (hv : w.Has v) : Exchanges id (w.Sees v) w w :=
  ⟨(mirrors_id h).narrow hv, fun _ _ => rfl⟩

theorem Matches.refl (h : w.IsWhole) (hv : w.Has v) : w.Matches v v :=
  ⟨id, _, mirrors_id h, hv, (Slot.rename_id v).symm⟩

/-- Values that match are exchanged for each other, with all that is seen from them. -/
theorem Matches.exchange (h : w.Matches v v') : ∃ σ, Exchanges σ (w.Sees v) w w ∧
    v.Within (w.Sees v) ∧ v' = v.rename σ ∧ ∀ q, w.Sees v q → w.Sees v' (σ q) := by
  obtain ⟨ρ, K, hmirrors, hv, rfl⟩ := h
  obtain ⟨σ, hσ, hsame⟩ := (hmirrors.narrow hv).exchange
  have hwithin : v.Within (w.Sees v) := by
    rintro p rfl
    exact w.sees_self p
  refine ⟨σ, hσ, hwithin, Slot.rename_congr fun p hp => (hsame p (hwithin p hp)).symm, fun q hq => ?_⟩
  rw [hsame q hq]
  exact (hmirrors.sees hv hq).2

/-- Counterparts in worlds side by side match once both are in one world, if what has changed by
then is none of what they hold. -/
theorem Parallel.matches {r : Correspondence} {final : Option SchemaCache}
    (h : Parallel r final u u') (hconstants : u'.constants = u.constants) (hwhole : u.IsWhole)
    (hv : r.Pairs v v') (hhas : u.Has v) (hw : ChangesOnly P u w) (hw' : ChangesOnly P' u' w)
    (hapart : ∀ q, r.covers q → ¬ P q ∧ ¬ P' (r.place q)) : w.Matches v v' := by
  have hcells : ∀ q, r.covers q → q < u.store.size → w.store.get? q = u.store.get? q :=
    fun q hq hlt => hw.cells q hlt (hapart q hq).1
  refine ⟨r.place, fun q => r.covers q ∧ q < u.store.size, ⟨r.injective, ?_, ?_, ?_, ?_⟩, ?_, hv.2⟩
  · rintro q ⟨-, hlt⟩
    exact Nat.lt_of_lt_of_le hlt hw.size
  · rintro q ⟨hq, hlt⟩
    obtain ⟨cell, hcell⟩ : ∃ cell, u.store.get? q = some cell := by
      rw [← Option.isSome_iff_exists, Store.isSome_get?]
      exact decide_eq_true hlt
    have hthere := h.store.cells q hq
    rw [hcells q hq hlt, ← hthere]
    rw [hcell] at hthere
    exact hw'.cells _ (Store.lt_of_get? hthere) (hapart q hq).2
  · rintro q cell ⟨hq, hlt⟩ hcell slot hslot p hp
    rw [hcells q hq hlt] at hcell
    exact ⟨h.store.closed q cell hq hcell slot hslot p hp, hwhole.parts q cell hcell slot hslot p hp⟩
  · intro key slot hkept p hp
    rw [hw.constants] at hkept
    have hsame := h.constants key
    rw [hconstants, hkept] at hsame
    obtain rfl := hp
    exact ⟨⟨h.kept key _ hkept p rfl, hwhole.constants key _ hkept p rfl⟩,
      (Slot.ref.inj (Option.some.inj hsame)).symm⟩
  · exact fun p hp => ⟨hv.1 p hp, hhas p hp⟩

end World

end Memberwise
