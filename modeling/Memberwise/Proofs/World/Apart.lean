import Memberwise.Proofs.Mapper.Learning
import Memberwise.Proofs.Whole.Transfer

/-! # Objects that nothing refers to

Nothing refers to an object that has just been made.  As long as nothing does, the object may change
in any way without a change of what other slots hold.  A world corresponds to itself apart from such
an object, and what operations do in worlds that correspond shows that none begins to refer to it.
-/

namespace Memberwise

/-- The correspondence in which each object but one is its own counterpart. -/
def Correspondence.apart (p : Place) : Correspondence :=
  ⟨id, (· ≠ p), fun _ => True, Function.injective_id⟩

namespace World

variable {w w' : World} {p q : Place} {slot v : Slot} {items : List Slot}

/-- Whether nothing refers to an object, unless the object itself does. -/
def IsApart (w : World) (p : Place) : Prop := Similar (.apart p) w.schemas w.schemas w w

theorem isApart_of_similar {known : SchemaCache} (h : Similar (.apart p) known known w w) :
    w.IsApart p := by
  unfold IsApart
  rw [h.schemas]
  exact h

theorem pairs_apart (hv : v.Within (· ≠ p)) : (Correspondence.apart p).Pairs v v :=
  ⟨hv, (Slot.rename_id v).symm⟩

/-- Nothing refers to a new object of a whole world. -/
theorem isApart_alloc (h : w.IsWhole) (cell : Cell) : (w.alloc cell).1.IsApart w.store.size := by
  have hslots : (Slot.rename (Correspondence.apart w.store.size).place) = id :=
    funext Slot.rename_id
  have hcells : (Cell.rename (Correspondence.apart w.store.size).place) = id :=
    funext Cell.rename_id
  refine ⟨.refl w.classes, ⟨fun _ => rfl, fun i => ?_, fun q _ => ?_, ?_⟩, fun key => ?_, ?_, rfl,
    rfl⟩
  · show (w.store.alloc cell).1.size + i ≠ w.store.size
    rw [Store.size_alloc]
    omega
  · rw [hcells, Option.map_id]
    rfl
  · intro q found hq hfound slot hslot p hp
    have hold : w.store.get? q = some found := by
      rw [← hfound]
      exact ((Store.get?_alloc w.store cell q).trans (if_neg hq)).symm
    exact Nat.ne_of_lt (h.parts q found hold slot hslot p hp)
  · rw [hslots, Option.map_id]
    rfl
  · intro key slot hkept p hp
    exact Nat.ne_of_lt (h.constants key slot hkept p hp)

/-- What is reached from elsewhere is another object. -/
theorem IsApart.ne_of_reaches (h : w.IsApart p) (hv : v.Within (· ≠ p))
    (hreaches : w.store.Reaches v q) : q ≠ p := by
  induction hreaches with
  | self q => exact hv q rfl
  | part hfound hholds _ ih => exact ih (h.store.closed _ _ (hv _ rfl) hfound _ hholds)

/-- What slots hold does not depend on an object that nothing refers to. -/
theorem IsApart.load_eq (h : w.IsApart p) (hwhole : w.IsWhole) (hw : ChangesOnly (· = p) w w')
    (hhas : w.Has v) (hv : v.Within (· ≠ p)) : w'.load v = w.load v :=
  Store.load_congr fun _ hreaches =>
    hw.cells _ (hwhole.lt_of_reaches hhas hreaches) (h.ne_of_reaches hv hreaches)

/-- What slots hold does not depend on new objects. -/
theorem IsWhole.load_eq (h : w.IsWhole) (hw : Extends w w') (hv : w.Has v) :
    w'.load v = w.load v :=
  Store.load_congr fun _ hreaches => hw.cells _ (h.lt_of_reaches hv hreaches) not_false

theorem IsApart.getAttribute (h : w.IsApart p) (hslot : slot.Within (· ≠ p)) {name : String}
    (hget : w.getAttribute slot name = .ok (w', v)) : w'.IsApart p ∧ v.Within (· ≠ p) := by
  have hboth := Similar.getAttribute h (pairs_apart hslot) name
  rw [hget] at hboth
  cases hboth with
  | ok hboth => exact ⟨isApart_of_similar hboth.world, hboth.result.1⟩

theorem IsApart.yielded (h : w.IsApart p) (hslot : slot.Within (· ≠ p))
    (hyields : w.yielded slot = .ok (w', items)) :
    w'.IsApart p ∧ ∀ item ∈ items, item.Within (· ≠ p) := by
  have hboth := Similar.yielded h (pairs_apart hslot)
  rw [hyields] at hboth
  cases hboth with
  | ok hboth => exact ⟨isApart_of_similar hboth.world, hboth.result.1⟩

theorem IsApart.afterConversion (h : w.IsApart p) (u : Value) (type : TypeExpr) :
    (w.afterConversion u type).IsApart p := { h with schemas := rfl, schemas' := rfl }

theorem IsApart.intern (h : w.IsApart p) {u : Value} (hu : u.Within (· ≠ p)) :
    (w.intern u).1.IsApart p ∧ (w.intern u).2.Within (· ≠ p) := by
  have hboth := Similar.intern h (r := .apart p) hu (Value.rename_id u).symm
  exact ⟨isApart_of_similar hboth.world, hboth.result.1⟩

/-- The object itself may change in any way. -/
theorem IsApart.set (h : w.IsApart p) (cell : Cell) : (w.set p cell).IsApart p :=
  isApart_of_similar (Similar.set h fun hp => absurd rfl hp)

end World

end Memberwise
