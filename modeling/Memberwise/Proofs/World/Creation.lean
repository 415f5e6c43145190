import Memberwise.Proofs.KeyedList
import Memberwise.Proofs.World.Frame
import Memberwise.World.Create

/-! # What creating an object leaves alone

An initializer changes the object that it is run on, and that object is new.  So nothing that was
there before is changed by the creation of another object.
-/

namespace Memberwise.World

variable {w w' : World} {p : Place}

theorem internCopy_extends (w : World) (v : Value) : Extends w (w.internCopy v).1 :=
  intern_extends w v.detach

/-! ## Initializers -/

theorem isRequired_parameter (f : Field) : f.parameter.isRequired = !f.default.isPresent := by
  unfold Field.parameter Parameter.isRequired Parameter.isSingle
  cases f.default.isPresent <;> cases f.keywordOnly.getD false <;> rfl

theorem parameterValue_extends (w : World) (owner : String) (call : Call) (p : Parameter) :
    Extends w (w.parameterValue owner call p).1 := by
  unfold parameterValue
  split
  · exact alloc_extends w _
  · exact alloc_extends w _
  · exact .refl _ w

theorem parameterValues_extends (w : World) (owner : String) (params : List Parameter)
    (call : Call) : Extends w (w.parameterValues owner params call).1 := by
  refine foldl_invariant (fun state : World × List (String × Slot) => Extends w state.1) ?_ params
    (ChangesOnly.refl _ w)
  rintro ⟨w₁, bound⟩ parameter h
  exact h.trans (parameterValue_extends w₁ owner call parameter)

theorem initialFieldValue_extends (w : World) (owner : String) (usesSlots : Bool) (call : Call)
    (f : Field) : Extends w (w.initialFieldValue owner usesSlots call f).1 := by
  unfold initialFieldValue
  split
  · exact .refl _ w
  · split
    · exact .refl _ w
    · exact internCopy_extends w _
    · exact .refl _ w
    · exact .refl _ w

theorem initializeBuiltin_eq_ok {b : Builtin} {args : Arguments} :
    w.initializeBuiltin b args = .ok w' ↔
      args.isEmpty = true ∧ lacksArguments b args = false ∧ w = w' := by
  unfold initializeBuiltin
  cases args.isEmpty <;> cases lacksArguments b args <;> simp

theorem runInitializer_builtin (w : World) (p : Place) (b : Builtin) (rest : List ClassRef)
    (args : Arguments) : w.runInitializer p (.builtin b :: rest) args =
      if b.initializes then w.initializeBuiltin b args else w.runInitializer p rest args := by
  rw [World.runInitializer]

section Relations

variable {R : World → World → Prop}

theorem WriteRelation.initializeRecord (hR : WriteRelation p R) {owner : String}
    {options : RecordOptions} {args : Arguments}
    (h : w.initializeRecord p owner options args = .ok w') : R w w' := by
  unfold World.initializeRecord at h
  dsimp only at h
  split at h
  · cases h
  · rename_i call _
    refine foldlM_invariant (R w) ?_ h (hR.grows (.refl _ w))
    intro w₁ f w₂ hstep hw
    have hvalue := initialFieldValue_extends w₁ owner options.usesSlots call f
    split at hstep
    · rename_i heq
      cases hstep
      rw [heq] at hvalue
      exact hR.trans hw (hR.grows hvalue)
    · rename_i heq
      rw [heq] at hvalue
      refine hR.trans (hR.trans hw (hR.grows hvalue)) ?_
      split at hstep
      · exact hR.setWithin hstep
      · exact hR.setWithin hstep

theorem WriteRelation.storeAll (hR : WriteRelation p R)
    {store : World → String → Slot → Except Fault World}
    (hstore : ∀ w name v w', store w name v = .ok w' → R w w')
    {bound : List (String × Slot)} {pairs : List (String × String)}
    (h : World.storeAll store bound w pairs = .ok w') : R w w' := by
  refine foldlM_invariant (R w) ?_ h (hR.grows (.refl _ w))
  rintro w₁ ⟨target, name⟩ w₂ hstep hw
  dsimp only at hstep
  split at hstep
  · exact hR.trans hw (hstore _ _ _ _ hstep)
  · cases hstep

/-- A declared initializer stores parameters at last. -/
theorem WriteRelation.storeParameters (hR : WriteRelation p R) {bound : List (String × Slot)}
    {stores directStores : List (String × String)} {refuses : Bool}
    (h : (do
      let w ← World.storeAll (fun w name v => w.setAttribute (.ref p) name v) bound w stores
      if refuses = true then .error .missingAttribute
      else World.storeAll (fun w name v => w.setDirectly (.ref p) name v) bound w directStores) =
        Except.ok w') : R w w' := by
  obtain ⟨w₁, hstored, h⟩ := bind_eq_ok.mp h
  have hfirst := hR.storeAll (fun _ _ _ _ hset => hR.setWithin hset) hstored
  split at h
  · cases h
  · exact hR.trans hfirst (hR.storeAll (fun _ _ _ _ hset => hR.setWithin hset) h)

/-- An initializer makes new objects and writes to the object that it is run on. -/
theorem WriteRelation.runInitializer (hR : WriteRelation p R) {lineage : List ClassRef}
    {args : Arguments} (h : w.runInitializer p lineage args = .ok w') : R w w' := by
  induction lineage generalizing w w' args with
  | nil =>
      obtain ⟨-, -, rfl⟩ := initializeBuiltin_eq_ok.mp h
      exact hR.grows (.refl _ w)
  | cons c rest ih =>
      unfold World.runInitializer at h
      split at h
      · rename_i heq
        cases heq
      · rename_i heq
        cases heq
        split at h
        · obtain ⟨-, -, rfl⟩ := initializeBuiltin_eq_ok.mp h
          exact hR.grows (.refl _ w)
        · exact ih h
      · rename_i heq
        cases heq
        split at h
        · exact ih h
        · rename_i name _ decl _
          split at h
          · split at h
            · cases h
            · rename_i init _ _ call _
              have hbound := hR.grows (parameterValues_extends w name init.parameters call)
              dsimp only at h
              split at h
              · exact hR.trans hbound (hR.storeParameters h)
              · split at h
                · cases h
                · obtain ⟨values, _, h⟩ := bind_eq_ok.mp h
                  obtain ⟨w₁, hforward, h⟩ := bind_eq_ok.mp h
                  exact hR.trans (hR.trans hbound (ih hforward)) (hR.storeParameters h)
          · split at h
            · exact hR.initializeRecord h
            · exact ih h
          · split at h
            · exact hR.trans (hR.grows (alloc_extends w (.seq .list []))) (hR.setWithin h)
            · cases h
          · exact ih h

end Relations

/-! ## Creation -/

/-- Whether a slot holds no object that is in a world already. -/
def IsNew (w : World) (slot : Slot) : Prop := ∀ q, slot = .ref q → w.store.size ≤ q

theorem isNew_atom (w : World) (a : Atom) : w.IsNew (.atom a) := by
  intro q hq
  cases hq

theorem alloc_isNew {c : Cell} {slot : Slot} (h : w.alloc c = (w', slot)) :
    Extends w w' ∧ w.IsNew slot := by
  have hw := congrArg Prod.fst h
  have hslot := congrArg Prod.snd h
  dsimp only at hw hslot
  rw [← hw, ← hslot]
  refine ⟨alloc_extends w c, fun q hq => ?_⟩
  exact Nat.le_of_eq (Slot.ref.inj hq)

theorem IsNew.of_extends {slot : Slot} (h : w'.IsNew slot) (hw : Extends w w') : w.IsNew slot :=
  fun q hq => Nat.le_trans hw.size (h q hq)

theorem createBuiltin_extends {b : Builtin} {slot : Slot}
    (h : w.createBuiltin b = .ok (w', slot)) : Extends w w' ∧ w.IsNew slot := by
  unfold createBuiltin at h
  split at h
  all_goals first
    | exact alloc_isNew (Except.ok.inj h)
    | (cases h; exact ⟨.refl _ w, isNew_atom w _⟩)
    | cases h

theorem modelDefault_extends (w : World) (c : ClassRef) (f : Field) :
    Extends w (w.modelDefault c f).1 := by
  unfold modelDefault
  split
  · exact .refl _ w
  · exact internCopy_extends w _
  · exact internCopy_extends w _

theorem construct_extends (w : World) (c : ClassRef) (given : List (String × Slot)) :
    Extends w (w.construct c given).1 ∧ w.IsNew (w.construct c given).2 := by
  unfold construct
  dsimp only
  generalize hf : List.foldl _ (w, given, ([] : List (String × Slot))) (w.classes.modelFields c) =
    fields
  have hfields : Extends w fields.1 := by
    rw [← hf]
    refine foldl_invariant
      (fun state : World × List (String × Slot) × List (String × Slot) => Extends w state.1) ?_ _
      (ChangesOnly.refl _ w)
    rintro ⟨w₁, left, attributes⟩ f h
    dsimp only
    split
    · exact h
    · have hdefault := modelDefault_extends w₁ c f
      split
      · rename_i heq
        rw [heq] at hdefault
        exact h.trans hdefault
      · rename_i heq
        rw [heq] at hdefault
        exact h.trans hdefault
  obtain ⟨w₁, left, attributes⟩ := fields
  dsimp only at hfields ⊢
  generalize hh : List.foldl _ (w₁, ([] : List (String × Slot))) (w₁.classes.hiddenAttributes c) =
    hidden
  have hhidden : Extends w hidden.1 := by
    rw [← hh]
    refine foldl_invariant (fun state : World × List (String × Slot) => Extends w state.1) ?_ _
      hfields
    rintro ⟨w₂, known⟩ ⟨name, v⟩ h
    dsimp only
    split
    · exact h
    · exact h.trans (internCopy_extends w₂ v)
  obtain ⟨w₂, known⟩ := hidden
  obtain ⟨hobject, hnew⟩ := alloc_isNew (w := w₂) rfl
  exact ⟨hhidden.trans hobject, hnew.of_extends hhidden⟩

theorem initialArguments_none (classes : Classes) (c : ClassRef) :
    classes.initialArguments c .none = .none := by
  unfold Classes.initialArguments
  split
  · split <;> rfl
  · rfl

/-- How an object of a class is made from arguments, in one way for each kind of class. -/
inductive Makes (w : World) (args : Arguments) : ClassRef → World × Slot → Prop where
  | builtin {b : Builtin} {made : World × Slot} (hmade : w.createBuiltin b = .ok made) :
      Makes w args (.builtin b) made
  | model {name : String} (hmodel : w.classes.isModel (.declared name) = true) :
      Makes w args (.declared name) (w.construct (.declared name) args.named)
  | bag {name : String} {append add : Option Adder} {isAbstract : Bool}
      (hkind : w.classes.kindOf? name = some (.bag append add isAbstract)) :
      Makes w args (.declared name) (w.alloc (.seq (.bag name) []))
  /-- The initializers of the class are run on the new object. -/
  | object {name : String} {core : Option Atom} {w₁ : World}
      (hrun : (w.alloc (.object name core [])).1.runInitializer w.store.size
        (w.classes.lineageOf (.declared name))
        (w.classes.initialArguments (.declared name) args) = .ok w₁) :
      Makes w args (.declared name) (w₁, .ref w.store.size)

theorem createDeclared_makes {name : String} {args : Arguments} {core : Option Atom}
    {made : World × Slot} (h : w.createDeclared name args core = .ok made) :
    Makes w args (.declared name) made := by
  unfold createDeclared at h
  dsimp only at h
  split at h
  · cases h
  split at h
  · rename_i hmodel
    split at h
    · obtain rfl := Except.ok.inj h
      exact .model hmodel
    · cases h
  · split at h
    · rename_i hkind
      split at h
      · cases h
        exact .bag hkind
      · cases h
    · obtain ⟨w₁, hrun, h⟩ := bind_eq_ok.mp h
      cases h
      exact .object hrun

theorem createWith_makes {c : ClassRef} {args : Arguments} {made : World × Slot}
    (h : w.createWith c args = .ok made) : Makes w args c made := by
  unfold createWith at h
  cases c with
  | builtin b =>
      dsimp only at h
      split at h
      · exact .builtin h
      · cases h
  | declared name =>
      dsimp only at h
      split at h
      · cases h
      · obtain ⟨core, -, h⟩ := bind_eq_ok.mp h
        exact createDeclared_makes h

/-- What is created is new, and nothing else is changed. -/
theorem createWith_extends {c : ClassRef} {args : Arguments} {slot : Slot}
    (h : w.createWith c args = .ok (w', slot)) : Extends w w' ∧ w.IsNew slot := by
  generalize hmade : (w', slot) = made at h
  cases createWith_makes h with
  | builtin h => exact createBuiltin_extends (hmade ▸ h)
  | @model name =>
      have hnew := construct_extends w (.declared name) args.named
      rw [← hmade] at hnew
      exact hnew
  | bag => exact alloc_isNew hmade.symm
  | @object name core w₁ hrun =>
      cases hmade
      obtain ⟨hobject, hnew⟩ := alloc_isNew (w := w) (c := .object name core []) rfl
      refine ⟨?_, hnew⟩
      have hinit := (ChangesOnly.of_extends hobject).trans
        ((changesOnly_writeRelation (P := (· = w.store.size)) rfl).runInitializer hrun)
      -- The initializer writes to its own place only, which the world did not have.
      refine hinit.mono fun q hq hplace => ?_
      exact absurd (hnew q (congrArg Slot.ref hplace.symm)) (by omega)

theorem create_extends {c : ClassRef} {named : List (String × Slot)} {slot : Slot}
    (h : w.create c named = .ok (w', slot)) : Extends w w' ∧ w.IsNew slot := createWith_extends h

end Memberwise.World
