import Memberwise.Proofs.Fallible
import Memberwise.World.Attribute

/-! # What stays as it is

Objects are made at new places, and an operation on an object changes that object alone.  Classes
and what they keep stay as they are in any case.
-/

namespace Memberwise

/-! ## Stores that grow -/

namespace Store

/-- Whether a store has the cells of another one at the places of that one. -/
structure Extends (s s' : Store) : Prop where
  size : s.size ≤ s'.size
  cells : ∀ q, q < s.size → s'.get? q = s.get? q

theorem Extends.refl (s : Store) : s.Extends s := ⟨Nat.le_refl _, fun _ _ => rfl⟩

theorem Extends.trans {s s' s'' : Store} (h : s.Extends s') (h' : s'.Extends s'') :
    s.Extends s'' := by
  refine ⟨Nat.le_trans h.size h'.size, fun q hq => ?_⟩
  rw [h'.cells q (Nat.lt_of_lt_of_le hq h.size), h.cells q hq]

theorem size_alloc (s : Store) (c : Cell) : (s.alloc c).1.size = s.size + 1 := by
  simp [alloc, size]

theorem size_set (s : Store) (p : Place) (c : Cell) : (s.set p c).size = s.size := by
  simp [set, size]

theorem alloc_extends (s : Store) (c : Cell) : s.Extends (s.alloc c).1 := by
  refine ⟨?_, fun q hq => get?_alloc_of_lt hq⟩
  rw [size_alloc]
  omega

mutual

theorem intern_extends (s : Store) : (v : Value) → s.Extends (s.intern v).1
  | .atom _ => .refl s
  | .seq (some _) _ _ | .dict (some _) _ | .object (some _) _ _ _ => .refl s
  | .seq none _ items => (internAll_extends s items).trans (alloc_extends _ _)
  | .dict none entries => (internEntries_extends s entries).trans (alloc_extends _ _)
  | .object none _ _ attributes =>
    (internAttributes_extends s attributes).trans (alloc_extends _ _)

theorem internAll_extends (s : Store) : (l : List Value) → s.Extends (s.internAll l).1
  | [] => .refl s
  | v :: rest => (intern_extends s v).trans (internAll_extends _ rest)

theorem internEntries_extends (s : Store) :
    (l : List (Value × Value)) → s.Extends (s.internEntries l).1
  | [] => .refl s
  | (k, v) :: rest =>
    ((intern_extends s k).trans (intern_extends _ v)).trans (internEntries_extends _ rest)

theorem internAttributes_extends (s : Store) :
    (l : List (String × Value)) → s.Extends (s.internAttributes l).1
  | [] => .refl s
  | (_, v) :: rest => (intern_extends s v).trans (internAttributes_extends _ rest)

end

end Store

/-! ## Worlds that change at given places -/

namespace World

/-- Whether nothing of a world changes but the cells of given places. -/
structure ChangesOnly (changed : Place → Prop) (w w' : World) : Prop where
  classes : w'.classes = w.classes
  constants : w'.constants = w.constants
  size : w.store.size ≤ w'.store.size
  cells : ∀ q, q < w.store.size → ¬ changed q → w'.store.get? q = w.store.get? q

/-- Whether nothing of a world changes, though there may be new objects. -/
abbrev Extends (w w' : World) : Prop := ChangesOnly (fun _ => False) w w'

section Frames

variable {P Q : Place → Prop} {w w' w'' : World} {slot : Slot} {p : Place}

theorem ChangesOnly.refl (P : Place → Prop) (w : World) : ChangesOnly P w w :=
  ⟨rfl, rfl, Nat.le_refl _, fun _ _ _ => rfl⟩

theorem ChangesOnly.trans (h : ChangesOnly P w w') (h' : ChangesOnly P w' w'') :
    ChangesOnly P w w'' := by
  refine ⟨h'.classes.trans h.classes, h'.constants.trans h.constants,
    Nat.le_trans h.size h'.size, fun q hq hP => ?_⟩
  rw [h'.cells q (Nat.lt_of_lt_of_le hq h.size) hP, h.cells q hq hP]

/-- What happens at places that a world does not have yet is no change of it. -/
theorem ChangesOnly.mono (h : ChangesOnly P w w') (hPQ : ∀ q, q < w.store.size → P q → Q q) :
    ChangesOnly Q w w' :=
  ⟨h.classes, h.constants, h.size, fun q hq hQ => h.cells q hq fun hP => hQ (hPQ q hq hP)⟩

theorem ChangesOnly.of_extends (h : Extends w w') : ChangesOnly P w w' :=
  h.mono fun _ _ hfalse => hfalse.elim

theorem extends_of_store {s : Store} (h : w.store.Extends s) : Extends w { w with store := s } :=
  ⟨rfl, rfl, h.size, fun q hq _ => h.cells q hq⟩

theorem intern_extends (w : World) (v : Value) : Extends w (w.intern v).1 :=
  extends_of_store (w.store.intern_extends v)

theorem alloc_extends (w : World) (c : Cell) : Extends w (w.alloc c).1 :=
  extends_of_store (w.store.alloc_extends c)

theorem afterConversion_extends (w : World) (v : Value) (type : TypeExpr) :
    Extends w (w.afterConversion v type) :=
  ⟨rfl, rfl, Nat.le_refl _, fun _ _ _ => rfl⟩

theorem set_changesOnly (w : World) (p : Place) (c : Cell) :
    ChangesOnly (· = p) w (w.set p c) := by
  refine ⟨rfl, rfl, ?_, fun q _ hq => Store.get?_set_of_ne hq⟩
  exact Nat.le_of_eq (Store.size_set _ _ _).symm

/-- A cell that is put where it is already changes nothing. -/
theorem set_get? {c : Cell} (h : w.store.get? p = some c) : w.set p c = w := by
  obtain ⟨hp, hc⟩ := Array.getElem?_eq_some_iff.mp h
  have hcells : w.store.cells.setIfInBounds p c = w.store.cells := by
    rw [Array.setIfInBounds_def, dif_pos hp, ← hc, Array.set_getElem_self]
  show { w with store := ⟨w.store.cells.setIfInBounds p c⟩ } = w
  rw [hcells]

theorem storeOn_changesOnly (w : World) (p : Place) (name : String) (v : Slot) :
    ChangesOnly (· = p) w (w.storeOn p name v) := by
  unfold storeOn
  split
  · exact set_changesOnly w p _
  · exact .refl _ w

theorem classOf_of_get? {cell : Cell} (h : w.store.get? p = some cell) :
    w.classOf (.ref p) = cell.classOf := by
  show ((w.store.get? p).map Cell.classOf).getD _ = _
  rw [h]
  rfl

/-! ## Iterators that are spent -/

/-- Whether there is an iterator at a place. -/
def IsIterator (w : World) (q : Place) : Prop :=
  ∃ yielded items, w.store.get? q = some (.seq (.iterator yielded) items)

/-- Whether there is an iterator at a place that has nothing left to yield. -/
def IsSpent (w : World) (q : Place) : Prop :=
  ∃ yielded, w.store.get? q = some (.seq (.iterator yielded) [])

theorem IsIterator.congr {q : Place} (h : w'.store.get? q = w.store.get? q) :
    w'.IsIterator q ↔ w.IsIterator q := by
  rw [IsIterator, IsIterator, h]

theorem IsSpent.isIterator {q : Place} (h : w.IsSpent q) : w.IsIterator q :=
  ⟨h.choose, [], h.choose_spec⟩

/-- An iterator is of the class of iterators. -/
theorem not_isIterator_of_classOf {q : Place} {cell : Cell} (h : w.store.get? q = some cell)
    (hclass : cell.classOf ≠ .builtin .validatorIterator) : ¬ w.IsIterator q := by
  rintro ⟨yielded, items, hcell⟩
  rw [h] at hcell
  cases hcell
  exact hclass rfl

theorem isIterator_of_classOf {q : Place} {cell : Cell} (h : w.store.get? q = some cell)
    (hclass : cell.classOf = .builtin .validatorIterator) : w.IsIterator q := by
  cases cell with
  | dict | object => cases hclass
  | seq kind items =>
      cases kind with
      | iterator yielded => exact ⟨yielded, items, h⟩
      | _ => cases hclass

theorem not_isIterator_of_object {q : Place} {className : String} {core : Option Atom}
    {attributes : List (String × Slot)}
    (h : w.store.get? q = some (.object className core attributes)) : ¬ w.IsIterator q :=
  not_isIterator_of_classOf h nofun

/-- Whether nothing of a world changes but the cells of given places, and iterators that are
spent. -/
structure Spends (changed : Place → Prop) (w w' : World) : Prop where
  classes : w'.classes = w.classes
  constants : w'.constants = w.constants
  size : w.store.size ≤ w'.store.size
  cells : ∀ q, q < w.store.size → ¬ changed q →
    w'.store.get? q = w.store.get? q ∨ w.IsIterator q ∧ w'.IsSpent q

theorem Spends.of_changesOnly (h : ChangesOnly P w w') : Spends P w w' :=
  ⟨h.classes, h.constants, h.size, fun q hq hP => .inl (h.cells q hq hP)⟩

theorem Spends.refl (P : Place → Prop) (w : World) : Spends P w w := .of_changesOnly (.refl P w)

theorem Spends.of_extends (h : Extends w w') : Spends P w w' := .of_changesOnly (.of_extends h)

theorem Spends.trans (h : Spends P w w') (h' : Spends P w' w'') : Spends P w w'' := by
  refine ⟨h'.classes.trans h.classes, h'.constants.trans h.constants,
    Nat.le_trans h.size h'.size, fun q hq hP => ?_⟩
  have hlast := h'.cells q (Nat.lt_of_lt_of_le hq h.size) hP
  rcases h.cells q hq hP with hsame | ⟨hiterator, hspent⟩
  · rwa [hsame, IsIterator.congr hsame] at hlast
  · refine .inr ⟨hiterator, ?_⟩
    rcases hlast with hsame | ⟨-, hspent⟩
    · rwa [IsSpent, hsame]
    · exact hspent

theorem Spends.mono (h : Spends P w w') (hPQ : ∀ q, q < w.store.size → P q → Q q) :
    Spends Q w w' :=
  ⟨h.classes, h.constants, h.size, fun q hq hQ => h.cells q hq fun hP => hQ (hPQ q hq hP)⟩

theorem Spends.of_spends (h : Spends (fun _ => False) w w') : Spends P w w' :=
  h.mono fun _ _ hfalse => hfalse.elim

theorem Spends.changesOnly (h : Spends P w w') : ChangesOnly (fun q => P q ∨ w.IsIterator q) w w' :=
  ⟨h.classes, h.constants, h.size, fun q hq hnot =>
    (h.cells q hq fun hP => hnot (.inl hP)).resolve_right fun hspent => hnot (.inr hspent.1)⟩

theorem Spends.get?_eq (h : Spends P w w') {q : Place} (hq : q < w.store.size) (hP : ¬ P q)
    (hiterator : ¬ w.IsIterator q) : w'.store.get? q = w.store.get? q :=
  h.changesOnly.cells q hq fun hchanged => hchanged.elim hP hiterator

/-- Nothing is spent where no iterator is among what may have changed. -/
theorem Spends.changesOnly_of (h : Spends P w w') (hin : ChangesOnly Q w w')
    (hQ : ∀ q, q < w.store.size → Q q → ¬ w.IsIterator q) : ChangesOnly P w w' := by
  refine ⟨h.classes, h.constants, h.size, fun q hq hP => ?_⟩
  by_cases hchanged : Q q
  · exact h.get?_eq hq hP (hQ q hq hchanged)
  · exact hin.cells q hq hchanged

theorem Spends.isIterator (h : Spends P w w') {q : Place} (hq : w.IsIterator q) (hP : ¬ P q) :
    w'.IsIterator q := by
  obtain ⟨yielded, items, hcell⟩ := id hq
  have hlt : q < w.store.size := (Array.getElem?_eq_some_iff.mp hcell).choose
  rcases h.cells q hlt hP with hsame | ⟨-, hspent⟩
  · exact (IsIterator.congr hsame).mpr hq
  · exact hspent.isIterator

/-- What is no iterator in the end has not been spent. -/
theorem Spends.get?_of_classOf (h : Spends P w w') {q : Place} {cell : Cell}
    (hcell : w'.store.get? q = some cell) (hclass : cell.classOf ≠ .builtin .validatorIterator)
    (hq : q < w.store.size) (hP : ¬ P q) : w.store.get? q = some cell := by
  rcases h.cells q hq hP with hsame | ⟨-, hspent⟩
  · exact hsame.symm.trans hcell
  · exact absurd hspent.isIterator (not_isIterator_of_classOf hcell hclass)

/-- An iterator that is spent is of the class that it was of. -/
theorem Spends.classOf_eq (h : Spends P w w') {q : Place} (hq : q < w.store.size) (hP : ¬ P q) :
    w'.classOf (.ref q) = w.classOf (.ref q) := by
  rcases h.cells q hq hP with hsame | ⟨⟨yielded, items, hcell⟩, ⟨yielded', hcell'⟩⟩
  · show ((w'.store.get? q).map Cell.classOf).getD _ = ((w.store.get? q).map Cell.classOf).getD _
    rw [hsame]
  · rw [classOf_of_get? hcell, classOf_of_get? hcell']
    rfl

/-! ## Attributes -/

theorem atomAttribute_extends {a : Atom} {name : String} {v : Slot}
    (h : w.atomAttribute a name = .ok (w', v)) : Extends w w' := by
  have hfound : ∃ found : Option Value, w.atomAttribute a name =
      found.elim (.error .missingAttribute) fun v => .ok (w.intern v) := by
    unfold atomAttribute
    dsimp only
    split
    · exact ⟨some _, rfl⟩
    · exact ⟨none, rfl⟩
  obtain ⟨found, hfound⟩ := hfound
  rw [hfound] at h
  cases found with
  | none => cases h
  | some v =>
      cases h
      exact intern_extends w v

/-- Reading makes new objects at most. -/
theorem getWithin_extends {fuel : Nat} {name : String} {v : Slot}
    (h : w.getWithin slot fuel name = .ok (w', v)) : Extends w w' := by
  induction fuel generalizing name with
  | zero => cases h
  | succ fuel ih =>
      unfold getWithin at h
      cases slot with
      | atom a => exact atomAttribute_extends h
      | ref p =>
          dsimp only at h
          split at h
          · split at h
            · cases h
            · split at h
              · exact ih h
              · cases h
                exact .refl _ w
              · cases h
            all_goals
              cases h
              try exact .refl _ w
          · cases h

theorem getAttribute_extends {name : String} {v : Slot}
    (h : w.getAttribute slot name = .ok (w', v)) : Extends w w' := getWithin_extends h

theorem validated_extends {c : ClassRef} {name : String} {v v' : Slot}
    (h : w.validated c name v = .ok (w', v')) : Extends w w' := by
  unfold validated at h
  split at h
  · split at h
    · cases h
      exact .refl _ w
    · dsimp only at h
      split at h
      · cases h
        exact intern_extends w _
      · cases h
  · cases h
    exact .refl _ w

/-- Where a value goes that is stored on an object of a class under a name. -/
def targetOf (w : World) (direct : Bool) (c : ClassRef) (name : String) :
    Except Fault StoreTarget :=
  if !direct && w.classes.isModel c then w.modelTarget c name else w.plainTarget c name

/-- What becomes of a value where it goes. -/
def storeAt (w : World) (p : Place) (direct : Bool) (v : Slot) (fuel : Nat) (name : String) :
    StoreTarget → Except Fault World
  | .property none => .error .missingAttribute
  | .property (some setter) =>
    match setter.body with
    | .attribute next => w.setWithin p false v fuel next
    | .failing message => .error (.value message)
  | .place => do
    let (w, v) ← if direct then .ok (w, v) else w.validated (w.classOf (.ref p)) name v
    .ok (w.storeOn p name v)

theorem setWithin_succ (w : World) (p : Place) (direct : Bool) (v : Slot) (fuel : Nat)
    (name : String) : w.setWithin p direct v (fuel + 1) name =
      match w.store.get? p with
      | some (.object ..) =>
        if !direct && w.isGuarded (w.classOf (.ref p)) name then .error .frozen
        else do w.storeAt p direct v fuel name (← w.targetOf direct (w.classOf (.ref p)) name)
      | _ => .error .missingAttribute := by
  unfold setWithin targetOf
  cases hc : w.store.get? p with
  | none => rfl
  | some cell =>
      cases cell with
      | seq | dict => rfl
      | object className core attributes =>
          dsimp only
          split
          · rfl
          · split <;> rfl

theorem storeAt_place (w : World) (p : Place) (direct : Bool) (v : Slot) (fuel : Nat)
    (name : String) : w.storeAt p direct v fuel name .place =
      (if direct then .ok (w, v) else w.validated (w.classOf (.ref p)) name v).map
        fun (w, v) => w.storeOn p name v := by
  cases direct with
  | true => rfl
  | false =>
      simp only [storeAt, Bool.false_eq_true, if_false]
      cases w.validated (w.classOf (.ref p)) name v <;> rfl

/-- A relation on worlds that a world has to the worlds that come of it by making new objects and
by writing to one of its objects. -/
structure WriteRelation (p : Place) (R : World → World → Prop) : Prop where
  trans : ∀ {w w' w'' : World}, R w w' → R w' w'' → R w w''
  grows : ∀ {w w' : World}, Extends w w' → R w w'
  writes : ∀ (w : World) (name : String) (v : Slot), R w (w.storeOn p name v)

theorem changesOnly_writeRelation {P : Place → Prop} (hp : P p) :
    WriteRelation p (ChangesOnly P) :=
  ⟨.trans, .of_extends, fun w name v =>
    (storeOn_changesOnly w p name v).mono fun _ _ hq => hq ▸ hp⟩

theorem WriteRelation.storeAt_place {R : World → World → Prop} (hR : WriteRelation p R)
    {direct : Bool} {v : Slot} {fuel : Nat} {name : String}
    (h : w.storeAt p direct v fuel name .place = .ok w') : R w w' := by
  rw [World.storeAt_place] at h
  obtain ⟨⟨w₁, v₁⟩, hv, rfl⟩ := map_eq_ok.mp h
  have hvalid : Extends w w₁ := by
    split at hv
    · cases hv
      exact .refl _ w
    · exact validated_extends hv
  exact hR.trans (hR.grows hvalid) (hR.writes w₁ name v₁)

/-- A store writes to the object that it goes to, whatever the setters on its way. -/
theorem WriteRelation.setWithin {R : World → World → Prop} (hR : WriteRelation p R) {direct : Bool}
    {v : Slot} {fuel : Nat} {name : String} (h : w.setWithin p direct v fuel name = .ok w') :
    R w w' := by
  induction fuel generalizing direct name with
  | zero => cases h
  | succ fuel ih =>
      rw [setWithin_succ] at h
      split at h
      · split at h
        · cases h
        · obtain ⟨target, _, h⟩ := bind_eq_ok.mp h
          cases target with
          | property setter =>
              cases setter with
              | none => cases h
              | some setter =>
                  unfold storeAt at h
                  dsimp only at h
                  split at h
                  · exact ih h
                  · cases h
          | place => exact hR.storeAt_place h
      · cases h

/-- An attribute is stored on an object, or nothing changes. -/
theorem setAttribute_rel {R : World → World → Prop} (hR : ∀ p, slot = .ref p → WriteRelation p R)
    (hrefl : R w w) {name : String} {v : Slot} (h : w.setAttribute slot name v = .ok w') :
    R w w' := by
  unfold setAttribute at h
  split at h
  · exact (hR _ rfl).setWithin h
  · split at h
    · cases h
    · cases h
      exact hrefl
  · cases h

theorem setAttribute_changesOnly {name : String} {v : Slot}
    (h : w.setAttribute slot name v = .ok w') : ChangesOnly (slot = .ref ·) w w' :=
  setAttribute_rel (fun _ hp => changesOnly_writeRelation hp) (.refl _ w) h

theorem deleteAttribute_changesOnly {name : String}
    (h : w.deleteAttribute slot name = .ok w') : ChangesOnly (slot = .ref ·) w w' := by
  unfold deleteAttribute at h
  split at h
  · cases h
  · split at h
    · dsimp only at h
      split at h
      · cases h
      · split at h
        · cases h
        · split at h
          · cases h
          · cases h
            exact (set_changesOnly w _ _).mono fun q _ hq => by rw [hq]
    · cases h

end Frames

end World

end Memberwise
