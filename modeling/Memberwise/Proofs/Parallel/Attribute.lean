import Memberwise.Proofs.Parallel.World
import Memberwise.Proofs.World.Writes

/-! # Attributes in worlds that correspond

What is read of objects that correspond corresponds, and so do the objects after a store under
the same name: which way a store takes is decided by the class of the object.
-/

namespace Memberwise

open Classes (Alike)

namespace World

variable {r : Correspondence} {known known' : SchemaCache} {w w' w₁ w₁' : World} {v v' : Slot}

theorem intern_placeless (h : Similar r known known' w w') {u : Value}
    (hu : ∀ ρ : Place → Place, u.rename ρ = u) :
    Both r known known' r.Pairs (w.intern u) (w'.intern u) :=
  h.intern (Value.within_of_placeless hu) (hu _).symm

/-! ## Reading -/

theorem uuidAttribute?_placeless {n : Nat} {name : String} {u : Value}
    (h : uuidAttribute? n name = some u) (ρ : Place → Place) : u.rename ρ = u := by
  unfold uuidAttribute? at h
  dsimp only at h
  split at h <;> cases h <;> try rfl
  split <;> rfl

/-- What a member of an enumeration or another atom has by its class is new. -/
theorem Similar.atomAttribute (h : Similar r known known' w w') (a : Atom) (name : String) :
    Agree (Both r known known' r.Pairs) (w.atomAttribute a name) (w'.atomAttribute a name) := by
  unfold World.atomAttribute
  cases a with
  | member owner member =>
      dsimp only
      rw [h.alike.memberValue]
      split
      · rename_i u hfound
        apply Agree.ok
        apply intern_placeless h
        intro ρ
        split at hfound
        · cases hfound
          rfl
        · split at hfound <;> cases hfound
          exact Schema.rename_memberValue _ _
      · exact .error _
  | uuid n =>
      dsimp only
      cases hfound : uuidAttribute? n name with
      | none => exact .error _
      | some u => exact .ok (intern_placeless h (uuidAttribute?_placeless hfound))
  | _ => exact .error _

/-- What is read of an object under a name, by what the name means on its class and by what the
object itself holds. -/
def readAs (w : World) (further : String → Except Fault (World × Slot)) (name : String) :
    Option (String × Binding) → Option Slot → Except Fault (World × Slot)
  | some (_, .property none _), _ => .error .missingAttribute
  | some (owner, .property (some getter) _), _ =>
    match getter.body with
    | .attribute source => further source
    | .constant _ => .ok (w, w.constant (.getter owner name))
    | .failing message => .error (.value message)
  | _, some v => .ok (w, v)
  | some (owner, .constant _), none => .ok (w, w.constant (.attribute owner name))
  | _, none => .error .missingAttribute

theorem getWithin_ref (w : World) (p : Place) (fuel : Nat) (name : String) :
    w.getWithin (.ref p) (fuel + 1) name =
      match w.store.get? p with
      | some (.object className _ attributes) =>
        w.readAs (w.getWithin (.ref p) fuel) name
          (w.classes.ownedBinding? (.declared className) name) (attributes.lookup name)
      | _ => .error .missingAttribute := by
  unfold getWithin
  rfl

/-- The annotations of properties do not matter to what is read. -/
theorem readAs_outline (w : World) (further : String → Except Fault (World × Slot)) (name : String)
    (found : Option (String × Binding)) (own : Option Slot) :
    w.readAs further name (found.map fun found => (found.1, found.2.outline)) own =
      w.readAs further name found own := by
  cases found with
  | none => rfl
  | some found =>
      obtain ⟨owner, binding⟩ := found
      cases binding with
      | property getter setter => cases getter <;> rfl
      | _ => cases own <;> rfl

theorem Similar.readAs (h : Similar r known known' w w')
    {further further' : String → Except Fault (World × Slot)}
    (hfurther : ∀ source, Agree (Both r known known' r.Pairs) (further source) (further' source))
    (name : String) (found : Option (String × Binding)) {own own' : Option Slot}
    (hown : Option.Rel r.Pairs own own') :
    Agree (Both r known known' r.Pairs) (w.readAs further name found own)
      (w'.readAs further' name found own') := by
  cases found with
  | none =>
      cases hown with
      | none => exact .error _
      | some hv => exact .ok ⟨h, hv⟩
  | some found =>
      obtain ⟨owner, binding⟩ := found
      cases binding with
      | property getter setter =>
          cases getter with
          | none => exact .error _
          | some getter =>
              simp only [World.readAs]
              cases getter.body with
              | «attribute» source => exact hfurther source
              | constant v => exact .ok ⟨h, h.constant _⟩
              | failing message => exact .error _
      | constant v =>
          cases hown with
          | none => exact .ok ⟨h, h.constant _⟩
          | some hv => exact .ok ⟨h, hv⟩
      | method | iteration | slot =>
          cases hown with
          | none => exact .error _
          | some hv => exact .ok ⟨h, hv⟩

theorem Similar.getWithin (h : Similar r known known' w w') (hv : r.Pairs v v') (fuel : Nat)
    (name : String) : Agree (Both r known known' r.Pairs) (w.getWithin v fuel name)
      (w'.getWithin v' fuel name) := by
  induction fuel generalizing name with
  | zero => exact .error _
  | succ fuel ih =>
      cases v with
      | atom a =>
          rw [hv.2]
          exact h.atomAttribute a name
      | ref p =>
          obtain ⟨q, rfl, hq⟩ := h.cell hv
          rw [getWithin_ref, getWithin_ref, hq]
          cases hcell : w.store.get? p with
          | none => exact .error _
          | some cell =>
              cases cell with
              | seq | dict => exact .error _
              | object className core attributes =>
                  have hattributes : PairsNamed r attributes (renameNamed r attributes) :=
                    ⟨List.forall_mem_map.mp (h.slots_within hv hcell), rfl⟩
                  show Agree _ (w.readAs _ name _ _) (w'.readAs _ name _ _)
                  rw [← readAs_outline w, ← readAs_outline w', h.alike.ownedBinding?]
                  exact h.readAs ih name _ (pairsNamed_lookup hattributes name)

theorem Similar.getAttribute (h : Similar r known known' w w') (hv : r.Pairs v v') (name : String) :
    Agree (Both r known known' r.Pairs) (w.getAttribute v name) (w'.getAttribute v' name) := by
  unfold World.getAttribute
  rw [h.chainLength]
  exact h.getWithin hv _ name

/-! ## Where a store goes -/

/-- A place where a value goes, without the annotations of a setter on the way. -/
def StoreTarget.outline : StoreTarget → StoreTarget
  | .property setter => .property (setter.map Setter.outline)
  | .place => .place

theorem isGuarded_outline (w : World) (c : ClassRef) (name : String) :
    isGuarded { w with classes := w.classes.outline } c name = w.isGuarded c name := by
  unfold isGuarded
  simp only [Classes.declsOf_outline, List.any_map, Classes.recordFields_outline]
  rfl

theorem hasPlaceFor_outline (w : World) (c : ClassRef) (name : String) :
    hasPlaceFor { w with classes := w.classes.outline } c name = w.hasPlaceFor c name := by
  unfold hasPlaceFor hasOpenAttributes
  simp only [Classes.slotsOf_outline, Classes.declsOf_outline, List.any_map, Function.comp_def,
    ClassDecl.slotNames_outline]

theorem plainTarget_outline (w : World) (c : ClassRef) (name : String) :
    plainTarget { w with classes := w.classes.outline } c name =
      (w.plainTarget c name).map StoreTarget.outline := by
  unfold plainTarget
  rw [hasPlaceFor_outline]
  simp only [Classes.binding?_outline]
  cases w.classes.binding? c name with
  | none =>
      dsimp only [Option.map_none]
      split <;> rfl
  | some binding =>
      cases binding with
      | property getter setter => rfl
      | _ =>
          dsimp only [Option.map_some, Binding.outline]
          split <;> rfl

theorem modelTarget_outline (w : World) (c : ClassRef) (name : String) :
    modelTarget { w with classes := w.classes.outline } c name =
      (w.modelTarget c name).map StoreTarget.outline := by
  unfold modelTarget
  simp only [Classes.binding?_outline, Classes.modelFields_outline, Classes.isFrozenModel_outline,
    Classes.modelOption?_outline, List.find?_map, Option.any_map, Function.comp_def, Field.outline]
  generalize (w.classes.modelFields c).find? (·.name == name) = field
  generalize w.classes.binding? c name = binding
  by_cases hhidden : isHiddenName name = true
  · rw [if_pos hhidden, if_pos hhidden]
    rfl
  · rw [if_neg hhidden, if_neg hhidden]
    by_cases hfrozen : (w.classes.isFrozenModel c || field.any fun f => f.frozen) = true
    · rw [if_pos hfrozen, if_pos hfrozen]
      rfl
    · rw [if_neg hfrozen, if_neg hfrozen]
      have hunknown : ∀ x y : Bool, ∀ fault : Fault,
          (if x = true then (.error .validation : Except Fault StoreTarget)
            else if y = true then .ok .place else .error fault) =
          Except.map StoreTarget.outline (if x = true then .error .validation
            else if y = true then .ok .place else .error fault) := by
        intro x y fault
        cases x <;> cases y <;> rfl
      cases binding with
      | none =>
          cases field with
          | none => exact hunknown _ _ _
          | some f => rfl
      | some binding =>
          cases binding with
          | property getter setter => rfl
          | _ =>
              cases field with
              | none => exact hunknown _ _ _
              | some f => rfl

theorem targetOf_outline (w : World) (direct : Bool) (c : ClassRef) (name : String) :
    targetOf { w with classes := w.classes.outline } direct c name =
      (w.targetOf direct c name).map StoreTarget.outline := by
  unfold targetOf
  rw [modelTarget_outline, plainTarget_outline, Classes.isModel_outline]
  split <;> rfl

theorem Similar.isGuarded (h : Similar r known known' w w') (c : ClassRef) (name : String) :
    w'.isGuarded c name = w.isGuarded c name := by
  rw [← isGuarded_outline w', ← isGuarded_outline w, h.alike]
  rfl

/-- A store goes the same way in both worlds, through setters that differ in annotations at
most. -/
theorem Similar.targetOf (h : Similar r known known' w w') (direct : Bool) (c : ClassRef)
    (name : String) : Agree (fun a b => b.outline = a.outline) (w.targetOf direct c name)
      (w'.targetOf direct c name) := by
  have hsame : (w'.targetOf direct c name).map StoreTarget.outline =
      (w.targetOf direct c name).map StoreTarget.outline := by
    rw [← targetOf_outline w', ← targetOf_outline w, h.alike]
    rfl
  exact (Agree.of_map_eq hsame.symm).mono fun a b hab => hab.symm

/-! ## Storing -/

/-- A model makes the same of a value that is assigned in both worlds, if its fields have the same
schemas in both. -/
theorem Similar.validated (h : Similar r known known' w w') {owner : String}
    (howner : w.classes.isModel (.declared owner) = true → r.settled owner) (name : String)
    (hv : r.Pairs v v') :
    Agree (Both r known known' r.Pairs) (w.validated (.declared owner) name v)
      (w'.validated (.declared owner) name v') := by
  unfold World.validated
  rw [h.alike.isModel, h.alike.modelOption?]
  cases hvalidates : w.classes.isModel (.declared owner) &&
    (w.classes.modelOption? (.declared owner) (·.validatesAssignment)).getD false with
  | false => exact .ok ⟨h, hv⟩
  | true =>
      have hsettled := howner (Bool.and_eq_true_iff.mp hvalidates).1
      have hfound := find?_of_forall₂ (p := (·.name == name)) (q := (·.name == name))
        (fun f f' hf => by rw [hf.congr Field.name fun _ => rfl])
        (h.classes.modelFields owner hsettled)
      simp only [if_true]
      revert hfound
      generalize (w'.classes.modelFields (.declared owner)).find? (·.name == name) = found'
      cases hfield : (w.classes.modelFields (.declared owner)).find? (·.name == name) with
      | none =>
          intro hfound
          cases hfound with
          | none => exact .ok ⟨h, hv⟩
      | some f =>
          intro hfound
          cases hfound with
          | @some _ f' hf =>
              have hresolved : f'.type.resolveField w'.classes = f'.type.resolveField w.classes :=
                TypeExpr.resolveField_congr h.alike f'.type
              simp only [hresolved, h.classes.describes_congr hf.schema]
              cases hschema : Schema.describe? w.classes (f.type.resolveField w.classes) with
              | none => exact .error _
              | some schema =>
                  have hbehind := h.classes.behindModel owner hsettled f
                    (List.mem_of_find?_eq_some hfield) schema (Schema.ofType?_of_describe? hschema)
                  simp only [Option.bind_some, h.load hv,
                    Schema.read?_rename h.classes r.injective schema hbehind]
                  cases hread : Schema.read? w.classes schema (w.load v) with
                  | none => exact .error _
                  | some result =>
                      exact .ok (h.intern (Schema.within_of_read? (h.load_within hv) hread) rfl)

/-- A write to an object and to one of its kind leaves worlds that correspond. -/
theorem Similar.storeOn (h : Similar r known known' w w') {p : Place}
    (hsame : (w'.store.get? (r.place p)).map Cell.hollow = (w.store.get? p).map Cell.hollow)
    (name : String) (hv : r.Pairs v v') :
    Similar r known known' (w.storeOn p name v) (w'.storeOn (r.place p) name v') := by
  unfold World.storeOn
  cases hcell : w.store.get? p with
  | none =>
      rw [hcell] at hsame
      rw [Option.map_eq_none_iff.mp hsame]
      exact h
  | some cell =>
      rw [hcell] at hsame
      obtain ⟨cell', hcell', hhollow⟩ := Option.map_eq_some_iff.mp hsame
      rw [hcell']
      cases cell with
      | seq | dict =>
          cases cell' <;> cases hhollow
          exact h
      | object className core attributes =>
          cases cell' with
          | seq | dict => cases hhollow
          | object className' core' attributes' =>
              cases hhollow
              apply h.set
              intro hp
              have hattributes : PairsNamed r attributes attributes' := by
                have hcells := h.store.cells p hp
                rw [hcell, hcell'] at hcells
                cases hcells
                exact ⟨List.forall_mem_map.mp (h.store.closed p _ hp hcell), rfl⟩
              have hput := pairsNamed_putAttribute hattributes name hv
              exact ⟨congrArg _ hput.2, List.forall_mem_map.mpr hput.1⟩

/-- Whether two worlds have come from worlds with an object each by corresponding writes to these
objects.  The objects need not correspond at first. -/
structure Writing (r : Correspondence) (known known' : SchemaCache) (p : Place) (cell cell' : Cell)
    (w w' : World) : Prop where
  similar : Similar r known known' w w'
  same : cell'.hollow = cell.hollow
  settled : ∀ owner, cell.classOf = .declared owner →
    w.classes.isModel (.declared owner) = true → r.settled owner
  written : ∃ ws, (∀ write ∈ ws, write.2.Within r.covers) ∧
    w.store.get? p = some (cell.writeAll ws) ∧
    w'.store.get? (r.place p) = some (cell'.writeAll (renameNamed r ws))

namespace Writing

variable {p : Place} {cell cell' : Cell}

theorem grows (h : Writing r known known' p cell cell' w w') (hw : Extends w w₁)
    (hw' : Extends w' w₁') {later later' : SchemaCache} (hsimilar : Similar r later later' w₁ w₁') :
    Writing r later later' p cell cell' w₁ w₁' := by
  obtain ⟨ws, hws, hcell, hcell'⟩ := h.written
  refine ⟨hsimilar, h.same, ?_, ws, hws, ?_, ?_⟩
  · rw [hw.classes]
    exact h.settled
  · rw [hw.cells p (Store.lt_of_get? hcell) not_false, hcell]
  · rw [hw'.cells _ (Store.lt_of_get? hcell') not_false, hcell']

theorem classOf_eq (h : Writing r known known' p cell cell' w w') : cell'.classOf = cell.classOf := by
  have hhollow : ∀ cell : Cell, cell.hollow.classOf = cell.classOf := fun cell => by cases cell <;> rfl
  rw [← hhollow cell', h.same, hhollow]

/-- What has been written to an object that is no iterator stays where iterators are spent. -/
theorem spends (h : Writing r known known' p cell cell' w w')
    (hclass : cell.classOf ≠ .builtin .validatorIterator) (hw : Spends (fun _ => False) w w₁)
    (hw' : Spends (fun _ => False) w' w₁') {later later' : SchemaCache}
    (hsimilar : Similar r later later' w₁ w₁') : Writing r later later' p cell cell' w₁ w₁' := by
  have hkeeps : ∀ {u u₁ : World} {q : Place} {written : Cell}, Spends (fun _ => False) u u₁ →
      u.store.get? q = some written → written.classOf = cell.classOf →
      u₁.store.get? q = some written := by
    intro u u₁ q written hu hcell hsame
    rw [hu.get?_eq (Store.lt_of_get? hcell) not_false
      (not_isIterator_of_classOf hcell (hsame ▸ hclass)), hcell]
  obtain ⟨ws, hws, hcell, hcell'⟩ := h.written
  refine ⟨hsimilar, h.same, ?_, ws, hws, hkeeps hw hcell (Cell.classOf_writeAll ws cell),
    hkeeps hw' hcell' ((Cell.classOf_writeAll _ cell').trans h.classOf_eq)⟩
  rw [hw.classes]
  exact h.settled

theorem hollow_writeAll (ws : List (String × Slot)) (cell : Cell) :
    (cell.writeAll ws).hollow = cell.hollow := by
  cases cell <;> rfl

theorem storeOn (h : Writing r known known' p cell cell' w w') (name : String)
    (hv : r.Pairs v v') :
    Writing r known known' p cell cell' (w.storeOn p name v) (w'.storeOn (r.place p) name v') := by
  obtain ⟨ws, hws, hcell, hcell'⟩ := h.written
  have hsame : (w'.store.get? (r.place p)).map Cell.hollow =
      (w.store.get? p).map Cell.hollow := by
    rw [hcell, hcell', Option.map_some, Option.map_some, hollow_writeAll, hollow_writeAll, h.same]
  refine ⟨h.similar.storeOn hsame name hv, h.same, ?_, ws ++ [(name, v)], ?_, ?_, ?_⟩
  · rw [(storeOn_changesOnly w p name v).classes]
    exact h.settled
  · exact List.forall_mem_append.mpr ⟨hws, List.forall_mem_singleton.mpr hv.1⟩
  · rw [get?_storeOn (Store.lt_of_get? hcell), hcell, Option.map_some, Cell.writeAll_append]
  · rw [get?_storeOn (Store.lt_of_get? hcell'), hcell', Option.map_some, renameNamed_append,
      Cell.writeAll_append, hv.2]
    rfl

theorem storeAt_place (h : Writing r known known' p cell cell' w w') {owner : String}
    (hclass : w.classOf (.ref p) = .declared owner)
    (hclass' : w'.classOf (.ref (r.place p)) = .declared owner) (direct : Bool)
    (hv : r.Pairs v v') (fuel : Nat) (name : String) :
    Agree (Writing r known known' p cell cell') (w.storeAt p direct v fuel name .place)
      (w'.storeAt (r.place p) direct v' fuel name .place) := by
  obtain ⟨ws, -, hcell, -⟩ := h.written
  have howner : cell.classOf = .declared owner := by
    rw [← hclass, classOf_of_get? hcell, Cell.classOf_writeAll]
  rw [World.storeAt_place, World.storeAt_place, hclass, hclass']
  cases direct with
  | true => exact .ok (h.storeOn name hv)
  | false =>
      have hvalid := (h.similar.validated (h.settled owner howner) name hv).with
        (fun _ hfirst => validated_extends hfirst) (fun _ hfirst => validated_extends hfirst)
      apply hvalid.map
      intro first first' hfirst
      exact (h.grows hfirst.2.1 hfirst.2.2 hfirst.1.world).storeOn name hfirst.1.result

/-- Stores under the same name agree, whatever the setters on their way. -/
theorem setWithin (h : Writing r known known' p cell cell' w w') (direct : Bool)
    (hv : r.Pairs v v') (fuel : Nat) (name : String) :
    Agree (Writing r known known' p cell cell') (w.setWithin p direct v fuel name)
      (w'.setWithin (r.place p) direct v' fuel name) := by
  induction fuel generalizing direct name with
  | zero => exact .error _
  | succ fuel ih =>
      obtain ⟨ws, hws, hcell, hcell'⟩ := h.written
      have hsame := h.same
      rw [setWithin_succ, setWithin_succ, hcell, hcell']
      cases cell with
      | seq | dict =>
          cases cell' <;> cases hsame
          exact .error _
      | object className core attributes =>
          cases cell' with
          | seq | dict => cases hsame
          | object className' core' attributes' =>
              cases hsame
              have hclass : w.classOf (.ref p) = .declared className := classOf_of_get? hcell
              have hclass' : w'.classOf (.ref (r.place p)) = .declared className :=
                classOf_of_get? hcell'
              simp only [Cell.writeAll, hclass, hclass', h.similar.isGuarded]
              cases !direct && w.isGuarded (.declared className) name with
              | true => exact .error _
              | false =>
                  apply (h.similar.targetOf direct _ name).bind
                  intro target target' htarget
                  cases target with
                  | place =>
                      cases target' with
                      | property setter => cases htarget
                      | place => exact h.storeAt_place hclass hclass' direct hv fuel name
                  | property setter =>
                      cases target' with
                      | place => cases htarget
                      | property setter' =>
                          have hsetter := StoreTarget.property.inj htarget
                          cases setter with
                          | none =>
                              rw [Option.map_eq_none_iff.mp hsetter]
                              exact .error _
                          | some setter =>
                              obtain ⟨setter', rfl, houtline⟩ := Option.map_eq_some_iff.mp hsetter
                              have hbody : setter'.outline.body = setter.outline.body :=
                                congrArg Setter.body houtline
                              rw [Setter.body_outline, Setter.body_outline] at hbody
                              unfold storeAt
                              simp only [hbody]
                              cases setter.body with
                              | «attribute» next => exact ih false next
                              | failing message => exact .error _

theorem setAttribute (h : Writing r known known' p cell cell' w w') (hv : r.Pairs v v')
    (name : String) :
    Agree (Writing r known known' p cell cell') (w.setAttribute (.ref p) name v)
      (w'.setAttribute (.ref (r.place p)) name v') := by
  unfold World.setAttribute
  rw [h.similar.chainLength]
  exact h.setWithin false hv _ name

theorem setDirectly (h : Writing r known known' p cell cell' w w') (hv : r.Pairs v v')
    (name : String) :
    Agree (Writing r known known' p cell cell') (w.setDirectly (.ref p) name v)
      (w'.setDirectly (.ref (r.place p)) name v') := by
  unfold World.setDirectly
  rw [h.similar.chainLength]
  exact h.setWithin true hv _ name

end Writing

end World

end Memberwise
