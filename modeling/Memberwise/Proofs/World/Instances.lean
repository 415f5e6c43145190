import Memberwise.Proofs.World.Creation

/-! # Classes of objects

An object has one class from its creation on.  What is created for a class that a program declares
is an instance of that class and of no other.
-/

namespace Memberwise.World

variable {w w' w'' : World} {slot : Slot} {p : Place}

/-- Whether what a slot holds is there: it is an atom or has a place in the world. -/
def Has (w : World) (slot : Slot) : Prop := ∀ q, slot = .ref q → q < w.store.size

theorem has_atom (w : World) (a : Atom) : w.Has (.atom a) := by
  intro q hq
  cases hq

theorem has_ref : w.Has (.ref p) ↔ p < w.store.size := by
  constructor
  · intro h
    exact h p rfl
  · intro h q hq
    cases hq
    exact h

/-- Whether all objects of a world are still there in another one, with the classes they had. -/
structure KeepsInstances (w w' : World) : Prop where
  size : w.store.size ≤ w'.store.size
  classOf : ∀ slot, w.Has slot → w'.classOf slot = w.classOf slot

theorem KeepsInstances.has (h : KeepsInstances w w') (hslot : w.Has slot) : w'.Has slot := by
  intro q hq
  exact Nat.lt_of_lt_of_le (hslot q hq) h.size

theorem KeepsInstances.refl (w : World) : KeepsInstances w w := ⟨Nat.le_refl _, fun _ _ => rfl⟩

theorem KeepsInstances.trans (h : KeepsInstances w w') (h' : KeepsInstances w' w'') :
    KeepsInstances w w'' := by
  refine ⟨Nat.le_trans h.size h'.size, ?_⟩
  intro slot hslot
  have hlater : w''.classOf slot = w'.classOf slot := h'.classOf slot (h.has hslot)
  exact hlater.trans (h.classOf slot hslot)

theorem KeepsInstances.of_spends (h : Spends (fun _ => False) w w') : KeepsInstances w w' := by
  refine ⟨h.size, ?_⟩
  intro slot hslot
  cases slot with
  | atom a => rfl
  | ref p => exact h.classOf_eq (hslot p rfl) not_false

theorem KeepsInstances.of_extends (h : Extends w w') : KeepsInstances w w' :=
  .of_spends (.of_extends h)

theorem classOf_set {cell new : Cell} (hcell : w.store.get? p = some cell)
    (h : new.classOf = cell.classOf) (slot : Slot) :
    (w.set p new).classOf slot = w.classOf slot := by
  cases slot with
  | atom a => rfl
  | ref q =>
      show (((w.store.set p new).get? q).map Cell.classOf).getD _ = _
      by_cases hq : q = p
      · have hp : p < w.store.size := by
          by_contra hout
          have hnone : w.store.get? p = none := Array.getElem?_eq_none (Nat.le_of_not_lt hout)
          rw [hnone] at hcell
          cases hcell
        rw [hq, Store.get?_set_self hp]
        show new.classOf = ((w.store.get? p).map Cell.classOf).getD _
        rw [hcell, h]
        rfl
      · rw [Store.get?_set_of_ne hq]
        rfl

theorem classOf_storeOn (w : World) (p : Place) (name : String) (v slot : Slot) :
    (w.storeOn p name v).classOf slot = w.classOf slot := by
  unfold storeOn
  split
  · rename_i className core attributes hcell
    have hclass : (Cell.object className core (putAttribute attributes name v)).classOf =
        (Cell.object className core attributes).classOf := rfl
    exact classOf_set hcell hclass slot
  · rfl

theorem storeOn_keepsInstances (w : World) (p : Place) (name : String) (v : Slot) :
    KeepsInstances w (w.storeOn p name v) :=
  ⟨(storeOn_changesOnly w p name v).size, fun slot _ => classOf_storeOn w p name v slot⟩

theorem keepsInstances_writeRelation (p : Place) : WriteRelation p KeepsInstances :=
  ⟨.trans, .of_extends, fun w => storeOn_keepsInstances w p⟩

theorem setAttribute_keepsInstances {name : String} {v : Slot}
    (h : w.setAttribute slot name v = .ok w') : KeepsInstances w w' :=
  setAttribute_rel (fun p _ => keepsInstances_writeRelation p) (.refl w) h

/-! ## What is created -/

theorem classOf_alloc {c : Cell} (h : w.alloc c = (w', slot)) : w'.classOf slot = c.classOf := by
  have hworld := congrArg Prod.fst h
  have hslot := congrArg Prod.snd h
  dsimp only at hworld hslot
  rw [← hworld, ← hslot]
  show (((w.store.alloc c).1.get? (w.store.alloc c).2).map Cell.classOf).getD _ = _
  rw [Store.get?_alloc_self]
  rfl

theorem has_of_alloc {c : Cell} (h : w.alloc c = (w', slot)) : w'.Has slot := by
  have hworld := congrArg Prod.fst h
  have hslot := congrArg Prod.snd h
  dsimp only at hworld hslot
  rw [← hworld, ← hslot]
  show (w.alloc c).1.Has (.ref (w.store.alloc c).2)
  rw [has_ref]
  show w.store.size < (w.store.alloc c).1.size
  rw [Store.size_alloc]
  exact Nat.lt_succ_self _

/-- What is created is there and no class, and is absent for the class of the absent value only. -/
structure Created (w : World) (c : ClassRef) (slot : Slot) : Prop where
  has : w.Has slot
  isNone : c ≠ .builtin .noneType → slot.isNone = false
  noClass : ∀ d, slot ≠ .atom (.classRef d)
  classOf : ∀ name, c = .declared name → w.classOf slot = c

theorem Created.of_alloc {c : ClassRef} {cell : Cell} (h : w.alloc cell = (w', slot))
    (hcell : ∀ name, c = .declared name → cell.classOf = c) : Created w' c slot := by
  obtain ⟨p, rfl⟩ : ∃ p, slot = .ref p := ⟨_, (congrArg Prod.snd h).symm⟩
  constructor
  case has => exact has_of_alloc h
  case isNone =>
    intro _
    rfl
  case noClass =>
    intro d hd
    cases hd
  case classOf =>
    intro name hname
    rw [classOf_alloc h]
    exact hcell name hname

theorem createBuiltin_created {b : Builtin} (h : w.createBuiltin b = .ok (w', slot)) :
    Created w' (.builtin b) slot := by
  unfold createBuiltin at h
  split at h
  all_goals first
    | exact .of_alloc (Except.ok.inj h) fun name hname => by cases hname
    | cases h
  all_goals
    refine ⟨has_atom w _, ?_, ?_, ?_⟩
    · intro hclass
      first
        | rfl
        | exact absurd rfl hclass
    · intro d hd
      cases hd
    · intro name hname
      cases hname

theorem construct_created (w : World) (name : String) (given : List (String × Slot)) :
    Created (w.construct (.declared name) given).1 (.declared name)
      (w.construct (.declared name) given).2 := by
  unfold construct
  dsimp only
  exact .of_alloc rfl fun _ _ => rfl

/-- What is created for a declared class is an instance of it, whatever its initializer stores. -/
theorem create_created {c : ClassRef} {named : List (String × Slot)}
    (h : w.create c named = .ok (w', slot)) : Created w' c slot := by
  generalize hmade : (w', slot) = made at h
  cases createWith_makes h with
  | builtin h => exact createBuiltin_created (hmade ▸ h)
  | @model name =>
      have hnew := construct_created w name named
      rw [← hmade] at hnew
      exact hnew
  | bag => exact .of_alloc hmade.symm fun _ _ => rfl
  | @object name core w₁ hrun =>
      cases hmade
      have hnew : Created (w.alloc (.object name core [])).1 (.declared name)
          (.ref w.store.size) := .of_alloc rfl fun _ _ => rfl
      have hkept := (keepsInstances_writeRelation _).runInitializer hrun
      refine ⟨hkept.has hnew.has, hnew.isNone, hnew.noClass, ?_⟩
      intro other hother
      rw [hkept.classOf _ hnew.has]
      exact hnew.classOf other hother

end Memberwise.World
