import Memberwise.Proofs.World.Frame

/-! # What becomes of a value in a store

A value that is put into a store is held there as it is: its nodes that know their places are the
objects there, and all others are new objects.  New objects are not changed by anything that
happens at older places.
-/

namespace Memberwise.Store

variable {s s' : Store} {n m : Place}

mutual

/-- Whether a slot holds a value: the objects that the value knows, and objects at places from a
given one on for the rest of it. -/
def Holds (s : Store) (n : Place) : Value → Slot → Prop
  | .atom a, slot => slot = .atom a
  | .seq (some p) _ _, slot | .dict (some p) _, slot | .object (some p) _ _ _, slot => slot = .ref p
  | .seq none kind items, slot =>
    ∃ p slots, slot = .ref p ∧ n ≤ p ∧ s.get? p = some (.seq kind slots) ∧ HoldsAll s n items slots
  | .dict none entries, slot =>
    ∃ p slots, slot = .ref p ∧ n ≤ p ∧ s.get? p = some (.dict slots) ∧
      HoldsEntries s n entries slots
  | .object none name core attributes, slot =>
    ∃ p slots, slot = .ref p ∧ n ≤ p ∧ s.get? p = some (.object name core slots) ∧
      HoldsAttributes s n attributes slots

def HoldsAll (s : Store) (n : Place) : List Value → List Slot → Prop
  | [], slots => slots = []
  | v :: rest, slots => ∃ slot others, slots = slot :: others ∧ Holds s n v slot ∧
      HoldsAll s n rest others

def HoldsEntries (s : Store) (n : Place) : List (Value × Value) → List (Slot × Slot) → Prop
  | [], slots => slots = []
  | (k, v) :: rest, slots => ∃ key slot others, slots = (key, slot) :: others ∧ Holds s n k key ∧
      Holds s n v slot ∧ HoldsEntries s n rest others

def HoldsAttributes (s : Store) (n : Place) : List (String × Value) → List (String × Slot) → Prop
  | [], slots => slots = []
  | (name, v) :: rest, slots => ∃ slot others, slots = (name, slot) :: others ∧ Holds s n v slot ∧
      HoldsAttributes s n rest others

end

/-! ## Stores that change at older places -/

/-- Whether a store has the objects of another one from a given place on. -/
def Keeps (n : Place) (s s' : Store) : Prop :=
  ∀ p cell, n ≤ p → s.get? p = some cell → s'.get? p = some cell

theorem Extends.keeps (h : s.Extends s') (n : Place) : Keeps n s s' := by
  intro p cell _ hcell
  rw [h.cells p (Array.getElem?_eq_some_iff.mp hcell).choose, hcell]

mutual

theorem Holds.frame (h : Keeps m s s') (hnm : n ≤ m) : (v : Value) → {slot : Slot} →
    s.Holds m v slot → s'.Holds n v slot
  | .atom _, _, hv | .seq (some _) _ _, _, hv | .dict (some _) _, _, hv
  | .object (some _) _ _ _, _, hv => hv
  | .seq none _ items, _, ⟨p, slots, hslot, hp, hcell, hitems⟩ =>
    ⟨p, slots, hslot, Nat.le_trans hnm hp, h p _ hp hcell, HoldsAll.frame h hnm items hitems⟩
  | .dict none entries, _, ⟨p, slots, hslot, hp, hcell, hentries⟩ =>
    ⟨p, slots, hslot, Nat.le_trans hnm hp, h p _ hp hcell,
      HoldsEntries.frame h hnm entries hentries⟩
  | .object none _ _ attributes, _, ⟨p, slots, hslot, hp, hcell, hattributes⟩ =>
    ⟨p, slots, hslot, Nat.le_trans hnm hp, h p _ hp hcell,
      HoldsAttributes.frame h hnm attributes hattributes⟩

theorem HoldsAll.frame (h : Keeps m s s') (hnm : n ≤ m) : (l : List Value) →
    {slots : List Slot} → s.HoldsAll m l slots → s'.HoldsAll n l slots
  | [], _, hl => hl
  | v :: rest, _, ⟨slot, others, hslots, hv, hrest⟩ =>
    ⟨slot, others, hslots, Holds.frame h hnm v hv, HoldsAll.frame h hnm rest hrest⟩

theorem HoldsEntries.frame (h : Keeps m s s') (hnm : n ≤ m) : (l : List (Value × Value)) →
    {slots : List (Slot × Slot)} → s.HoldsEntries m l slots → s'.HoldsEntries n l slots
  | [], _, hl => hl
  | (k, v) :: rest, _, ⟨key, slot, others, hslots, hk, hv, hrest⟩ =>
    ⟨key, slot, others, hslots, Holds.frame h hnm k hk, Holds.frame h hnm v hv,
      HoldsEntries.frame h hnm rest hrest⟩

theorem HoldsAttributes.frame (h : Keeps m s s') (hnm : n ≤ m) : (l : List (String × Value)) →
    {slots : List (String × Slot)} → s.HoldsAttributes m l slots → s'.HoldsAttributes n l slots
  | [], _, hl => hl
  | (_, v) :: rest, _, ⟨slot, others, hslots, hv, hrest⟩ =>
    ⟨slot, others, hslots, Holds.frame h hnm v hv, HoldsAttributes.frame h hnm rest hrest⟩

end

/-! ## Values that are put into stores -/

theorem holds_alloc (hsize : n ≤ s.size) (cell : Cell) : n ≤ (s.alloc cell).2 ∧
    (s.alloc cell).1.get? (s.alloc cell).2 = some cell :=
  ⟨hsize, get?_alloc_self s cell⟩

mutual

/-- A value that is put into a store is held there by the slot that is given back. -/
theorem holds_intern {s : Store} (hsize : n ≤ s.size) : (v : Value) →
    (s.intern v).1.Holds n v (s.intern v).2
  | .atom _ | .seq (some _) _ _ | .dict (some _) _ | .object (some _) _ _ _ => rfl
  | .seq none kind items => by
    have hitems := holdsAll_internAll hsize items
    have hgrown := Nat.le_trans hsize (internAll_extends s items).size
    obtain ⟨hnew, hcell⟩ := holds_alloc hgrown (.seq kind (s.internAll items).2)
    exact ⟨_, _, rfl, hnew, hcell, hitems.frame ((alloc_extends _ _).keeps n) (Nat.le_refl n)⟩
  | .dict none entries => by
    have hentries := holdsEntries_internEntries hsize entries
    have hgrown := Nat.le_trans hsize (internEntries_extends s entries).size
    obtain ⟨hnew, hcell⟩ := holds_alloc hgrown (.dict (s.internEntries entries).2)
    exact ⟨_, _, rfl, hnew, hcell, hentries.frame ((alloc_extends _ _).keeps n) (Nat.le_refl n)⟩
  | .object none name core attributes => by
    have hattributes := holdsAttributes_internAttributes hsize attributes
    have hgrown := Nat.le_trans hsize (internAttributes_extends s attributes).size
    obtain ⟨hnew, hcell⟩ :=
      holds_alloc hgrown (.object name core (s.internAttributes attributes).2)
    exact ⟨_, _, rfl, hnew, hcell, hattributes.frame ((alloc_extends _ _).keeps n) (Nat.le_refl n)⟩

theorem holdsAll_internAll {s : Store} (hsize : n ≤ s.size) : (l : List Value) →
    (s.internAll l).1.HoldsAll n l (s.internAll l).2
  | [] => rfl
  | v :: rest => by
    have hfirst := holds_intern hsize v
    have hrest := holdsAll_internAll (Nat.le_trans hsize (intern_extends s v).size) rest
    exact ⟨_, _, rfl, hfirst.frame ((internAll_extends _ rest).keeps n) (Nat.le_refl n), hrest⟩

theorem holdsEntries_internEntries {s : Store} (hsize : n ≤ s.size) :
    (l : List (Value × Value)) → (s.internEntries l).1.HoldsEntries n l (s.internEntries l).2
  | [] => rfl
  | (k, v) :: rest => by
    have hkey := holds_intern hsize k
    have hsize' := Nat.le_trans hsize (intern_extends s k).size
    have hvalue := holds_intern hsize' v
    have hboth := intern_extends (s.intern k).1 v
    have hothers := internEntries_extends ((s.intern k).1.intern v).1 rest
    have hrest := holdsEntries_internEntries (Nat.le_trans hsize' hboth.size) rest
    exact ⟨_, _, _, rfl, hkey.frame ((hboth.trans hothers).keeps n) (Nat.le_refl n),
      hvalue.frame (hothers.keeps n) (Nat.le_refl n), hrest⟩

theorem holdsAttributes_internAttributes {s : Store} (hsize : n ≤ s.size) :
    (l : List (String × Value)) →
      (s.internAttributes l).1.HoldsAttributes n l (s.internAttributes l).2
  | [] => rfl
  | (_, v) :: rest => by
    have hfirst := holds_intern hsize v
    have hrest := holdsAttributes_internAttributes (Nat.le_trans hsize (intern_extends s v).size)
      rest
    exact ⟨_, _, rfl, hfirst.frame ((internAttributes_extends _ rest).keeps n) (Nat.le_refl n),
      hrest⟩

end

end Memberwise.Store
