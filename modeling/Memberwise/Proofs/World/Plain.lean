import Memberwise.Proofs.Mapper.Transfer
import Memberwise.Proofs.Member.Ordinary
import Memberwise.Proofs.World.Instances

/-! # Plain attributes

A name that stands for no property is read from the object that holds it and stored on it, unless
the class of the object is guarded or has no place for it.
-/

namespace Memberwise

/-- Whether the instances of a class take every attribute: no record class that it descends from
is frozen, and some class does not fix the names that they have a place for. -/
structure Classes.IsOpen (classes : Classes) (name : String) : Prop where
  unfrozen : ∀ decl ∈ classes.declsOf (.declared name), ∀ options,
    decl.kind = .record options → options.frozen = false
  roomy : ∃ decl ∈ classes.declsOf (.declared name), decl.slotNames = none

theorem Classes.isFrozenRecord_of_open {classes : Classes} {name : String}
    (h : classes.IsOpen name) : classes.isFrozenRecord (.declared name) = false := by
  unfold Classes.isFrozenRecord
  cases hfound : List.findSome? _ (classes.declsOf (.declared name)) with
  | none => rfl
  | some frozen =>
      obtain ⟨decl, hdecl, hfrozen⟩ := List.exists_of_findSome?_eq_some hfound
      split at hfrozen
      · rename_i options hkind
        cases hfrozen
        exact h.unfrozen decl hdecl options hkind
      · cases hfrozen

namespace World

variable {w w' : World} {p t : Place} {name other : String} {v : Slot}

/-! ## What objects hold -/

theorem object_of_held (h : w.held? p name = some v) : ∃ className core attributes,
    w.store.get? p = some (.object className core attributes) ∧
      attributes.lookup name = some v := by
  unfold held? at h
  split at h
  · rename_i className core attributes hcell
    exact ⟨className, core, attributes, hcell, h⟩
  · cases h

/-- Whether there is an object of a class at a place, with attributes of its own. -/
def IsInstance (w : World) (p : Place) (className : String) : Prop :=
  ∃ core attributes, w.store.get? p = some (.object className core attributes)

theorem IsInstance.classOf {className : String} (h : w.IsInstance p className) :
    w.classOf (.ref p) = .declared className := by
  obtain ⟨core, attributes, hcell⟩ := h
  show ((w.store.get? p).map Cell.classOf).getD _ = _
  rw [hcell]
  rfl

theorem IsInstance.lt {className : String} (h : w.IsInstance p className) : p < w.store.size := by
  obtain ⟨core, attributes, hcell⟩ := h
  exact Store.lt_of_get? hcell

theorem IsInstance.of_extends {className : String} (h : w.IsInstance p className)
    (hw : Extends w w') : w'.IsInstance p className := by
  obtain ⟨core, attributes, hcell⟩ := id h
  exact ⟨core, attributes, (hw.cells p h.lt not_false).trans hcell⟩

/-- An object stays one of its class when one is written to. -/
theorem IsInstance.storeOn {className : String} (h : w.IsInstance p className) (q : Place)
    (name : String) (v : Slot) : (w.storeOn q name v).IsInstance p className := by
  obtain ⟨core, attributes, hcell⟩ := id h
  by_cases hsame : p = q
  · subst hsame
    refine ⟨core, writeAll attributes [(name, v)], ?_⟩
    rw [get?_storeOn h.lt, hcell]
    rfl
  · exact ⟨core, attributes,
      ((storeOn_changesOnly w q name v).cells p h.lt hsame).trans hcell⟩

theorem isInstance_writeRelation (q : Place) : WriteRelation q fun w w' =>
    ∀ p className, w.IsInstance p className → w'.IsInstance p className where
  trans h h' p className hp := h' p className (h p className hp)
  grows hw _ _ hp := hp.of_extends hw
  writes _ name v _ _ hp := hp.storeOn q name v

/-- An object of an ordinary class is made by running the initializers of the class on it. -/
theorem create_of_isOrdinary {name : String} (hc : w.classes.IsOrdinary name)
    {named : List (String × Slot)} {made : World × Slot}
    (h : w.create (.declared name) named = .ok made) :
    ∃ (core : Option Atom) (w₁ : World),
      (w.alloc (.object name core [])).1.runInitializer w.store.size
        (w.classes.lineageOf (.declared name))
        (w.classes.initialArguments (.declared name) ⟨[], named⟩) = .ok w₁ ∧
      made = (w₁, .ref w.store.size) := by
  cases createWith_makes h with
  | model hmodel =>
      rw [hc.noModel] at hmodel
      cases hmodel
  | bag hkind =>
      have hown := hc.own
      rw [hkind] at hown
      cases hown
  | object hrun => exact ⟨_, _, hrun, rfl⟩

/-- What is created for an ordinary class is a new object with attributes of its own. -/
theorem isInstance_of_create {className : String} (hc : w.classes.IsOrdinary className)
    {named : List (String × Slot)} {slot : Slot}
    (h : w.create (.declared className) named = .ok (w', slot)) :
    ∃ p, slot = .ref p ∧ w.store.size ≤ p ∧ w'.IsInstance p className := by
  obtain ⟨core, w₁, hrun, hmade⟩ := create_of_isOrdinary hc h
  cases hmade
  refine ⟨_, rfl, Nat.le_refl _, (isInstance_writeRelation _).runInitializer hrun _ _ ?_⟩
  exact ⟨core, [], Store.get?_alloc_self _ _⟩

theorem IsInstance.of_written {className : String} {ws : List (String × Slot)}
    (h : w.IsInstance p className) (hw : Written p ws w w') : w'.IsInstance p className := by
  obtain ⟨core, attributes, hcell⟩ := h
  refine ⟨core, writeAll attributes ws, ?_⟩
  rw [hw.target, hcell]
  rfl

/-- A plain attribute that an object holds is read as it is. -/
theorem getAttribute_of_held (hplain : w.classes.IsPlain (w.classOf (.ref p)) name)
    (h : w.held? p name = some v) : w.getAttribute (.ref p) name = .ok (w, v) := by
  obtain ⟨className, core, attributes, hcell, hheld⟩ := object_of_held h
  have hclass : w.classOf (.ref p) = .declared className := by
    show ((w.store.get? p).map Cell.classOf).getD _ = _
    rw [hcell]
    rfl
  rw [hclass] at hplain
  have hget : w.getAttribute (.ref p) name = w.getWithin (.ref p) (w.chainLength - 1 + 1) name := rfl
  rw [hget, getWithin, hcell]
  dsimp only
  cases howned : w.classes.ownedBinding? (.declared className) name with
  | none => rw [hheld]
  | some owned =>
      obtain ⟨owner, binding⟩ := owned
      have hbinding : w.classes.binding? (.declared className) name = some binding := by
        rw [Classes.binding?, howned]
        rfl
      have hnone := hplain.not_property hbinding
      rw [hheld]
      cases binding with
      | property getter setter => cases hnone
      | _ => rfl

/-- What an object holds after writes to it is the last value that was written under a name, or
what it held. -/
theorem Written.held_of_mem {ws : List (String × Slot)} {className : String} (h : Written p ws w w')
    (hp : w.IsInstance p className) (hname : name ∈ ws.map (·.1)) {g : String → Slot}
    (hws : ∀ write ∈ ws, write.2 = g write.1) : w'.held? p name = some (g name) := by
  obtain ⟨core, attributes, hcell⟩ := hp
  unfold held?
  rw [h.target, hcell]
  show (writeAll attributes ws).lookup name = some (g name)
  clear h hcell
  induction ws generalizing attributes with
  | nil => cases hname
  | cons write rest ih =>
      obtain ⟨key, u⟩ := write
      rw [List.forall_mem_cons] at hws
      obtain rfl : u = g key := hws.1
      show (writeAll (putAttribute attributes key (g key)) rest).lookup name = _
      by_cases hrest : name ∈ rest.map (·.1)
      · exact ih hrest hws.2 _
      · have hkey : name = key := by
          rw [List.map_cons, List.mem_cons] at hname
          exact hname.resolve_right hrest
        rw [lookup_writeAll hrest, hkey]
        exact lookup_putAttribute_self attributes key (g key)

/-! ## Where stores end -/

theorem destination_of_guarded {className : String} (hp : w.IsInstance p className)
    (h : w.isGuarded (.declared className) name = true) : w.destination p name = .error .frozen := by
  have hclass := hp.classOf
  obtain ⟨core, attributes, hcell⟩ := hp
  have hfirst : w.destination p name = w.destinationWithin p (w.chainLength - 1 + 1) name := rfl
  rw [hfirst, destinationWithin, hcell, hclass]
  exact if_pos h

theorem destination_of_place {className : String} (hp : w.IsInstance p className)
    (hopen : w.isGuarded (.declared className) name = false)
    (hplace : w.targetOf false (.declared className) name = .ok .place) :
    w.destination p name = .ok name := by
  have hclass := hp.classOf
  obtain ⟨core, attributes, hcell⟩ := hp
  have hfirst : w.destination p name = w.destinationWithin p (w.chainLength - 1 + 1) name := rfl
  rw [hfirst, destinationWithin, hcell, hclass]
  dsimp only
  rw [hopen, hplace]
  rfl

theorem isGuarded_of_open {className : String} (h : w.classes.IsOpen className) (name : String) :
    w.isGuarded (.declared className) name = false := by
  refine List.any_eq_false.mpr fun decl hdecl => ?_
  split
  · rename_i options hkind
    simp [h.unfrozen decl hdecl options hkind]
  · simp

theorem hasPlaceFor_of_open {className : String} (h : w.classes.IsOpen className) (name : String) :
    w.hasPlaceFor (.declared className) name = true := by
  obtain ⟨decl, hdecl, hslots⟩ := h.roomy
  have hopen : w.hasOpenAttributes (.declared className) = true :=
    List.any_eq_true.mpr ⟨decl, hdecl, by simp [hslots]⟩
  simp [hasPlaceFor, hopen]

/-- A plain name has its place on the object itself, where the class keeps one for it. -/
theorem targetOf_of_plain {c : ClassRef} (hmodel : w.classes.isModel c = false)
    (hplain : w.classes.IsPlain c name) (hplace : w.hasPlaceFor c name = true) :
    w.targetOf false c name = .ok .place := by
  rw [targetOf, if_neg (by simp [hmodel]), plainTarget]
  cases hbinding : w.classes.binding? c name with
  | none => simp [hplace]
  | some binding =>
      cases binding with
      | property getter setter => cases hplain.not_property hbinding
      | _ => simp [hplace]

/-- A store under a plain name ends in the attribute of that name, if anywhere. -/
theorem eq_of_destination {className key : String} (hp : w.IsInstance p className)
    (hmodel : w.classes.isModel (.declared className) = false)
    (hplain : w.classes.IsPlain (.declared className) name) (h : w.destination p name = .ok key) :
    key = name := by
  have hclass := hp.classOf
  obtain ⟨core, attributes, hcell⟩ := hp
  have hfirst : w.destinationWithin p (w.chainLength - 1 + 1) name = .ok key := h
  rw [destinationWithin, hcell, hclass] at hfirst
  dsimp only at hfirst
  by_cases hguarded : w.isGuarded (.declared className) name = true
  · rw [if_pos hguarded] at hfirst
    cases hfirst
  rw [if_neg hguarded] at hfirst
  by_cases hplace : w.hasPlaceFor (.declared className) name = true
  · rw [targetOf_of_plain hmodel hplain hplace] at hfirst
    exact (Except.ok.inj hfirst).symm
  · have hnowhere : w.targetOf false (.declared className) name = .error .missingAttribute := by
      rw [targetOf, if_neg (by simp [hmodel]), plainTarget, if_neg hplace]
      cases hbinding : w.classes.binding? (.declared className) name with
      | none => rfl
      | some binding =>
          cases binding with
          | property getter setter => cases hplain.not_property hbinding
          | _ => rfl
    rw [hnowhere] at hfirst
    cases hfirst

/-- The fields of a model have a place on its instances. -/
theorem targetOf_of_modelField {c : ClassRef} (hmodel : w.classes.isModel c = true)
    (hplain : w.classes.IsPlain c name) (hpublic : isHiddenName name = false) {f : Field}
    (hfield : (w.classes.modelFields c).find? (·.name == name) = some f)
    (hfrozen : w.classes.isFrozenModel c = false) (hopen : f.frozen = false) :
    w.targetOf false c name = .ok .place := by
  rw [targetOf, if_pos (by simp [hmodel]), modelTarget, if_neg (by simp [hpublic])]
  dsimp only
  rw [if_neg (by simp [hfield, hfrozen, hopen]), hfield]
  cases hbinding : w.classes.binding? c name with
  | none => rfl
  | some binding =>
      cases binding with
      | property getter setter => cases hplain.not_property hbinding
      | _ => rfl

end World

end Memberwise
