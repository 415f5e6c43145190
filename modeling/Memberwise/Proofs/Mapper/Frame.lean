import Memberwise.Mapper.Transfer
import Memberwise.Proofs.World.Creation
import Memberwise.Proofs.World.Renaming

/-! # What a transfer leaves alone

A step of a transfer reads the source, makes a value out of new objects, and stores it.  The only
object that was there before and is changed is the target, and that only by the store.
-/

namespace Memberwise.World

variable {w w' : World} {slot : Slot}

/-! ## Collections -/

theorem pairUp_extends (w : World) (l : List (String × Slot)) : Extends w (w.pairUp l).1 := by
  induction l generalizing w with
  | nil => exact .refl _ w
  | cons entry rest ih => exact (alloc_extends w _).trans (ih _)

theorem eq_of_parts {a : Option Atom} {items : List Slot} (h : w.parts a = .ok (w', items)) :
    w' = w := by
  unfold parts at h
  split at h
  · cases h
    rfl
  · cases h

/-- A collection of a predefined kind, or one that a program declares, yields what it holds. -/
theorem elements_of_seq {p : Place} {kind : SeqKind} {items : List Slot}
    (hcell : w.store.get? p = some (.seq kind items)) :
    ∃ w', w.elements (.ref p) = .ok (w', items) := by
  have hyields : ∀ further, ∃ w', w.elementsBy further (.ref p) = .ok (w', items) := by
    intro further
    cases kind <;> simp [elementsBy, hcell]
  unfold elements
  cases callLimit with
  | zero => exact hyields _
  | succ depth => exact hyields _

/-- What iterating an object does to a world: it makes new objects at most, or it spends an iterator
that the object is or leads to. -/
inductive Iterates (w : World) (slot : Slot) (items : List Slot) : World → Prop
  | makes {w' : World} (grows : Extends w w') (silent : items = [] → w' = w) :
      Iterates w slot items w'
  | spends {q : Place} {yielded : Nat} (reaches : w.store.Reaches slot q)
      (held : w.store.get? q = some (.seq (.iterator yielded) items)) :
      Iterates w slot items (w.set q (.seq (.iterator (yielded + items.length)) []))

section Iterating

variable {items : List Slot}

theorem Iterates.refl (w : World) : Iterates w slot items w := .makes (.refl _ w) fun _ => rfl

/-- What an object leads to is reached from the object. -/
theorem Iterates.of_part {p : Place} {cell : Cell} {v : Slot} (h : Iterates w v items w')
    (found : w.store.get? p = some cell) (holds : v ∈ cell.slots) :
    Iterates w (.ref p) items w' := by
  cases h with
  | makes grows silent => exact .makes grows silent
  | spends reaches held => exact .spends (.part found holds reaches) held

theorem pairUp_iterates {l : List (String × Slot)} (h : w.pairUp l = (w', items)) :
    Iterates w slot items w' := by
  have hworld : (w.pairUp l).1 = w' := congrArg Prod.fst h
  refine .makes (hworld ▸ pairUp_extends w l) fun hitems => ?_
  cases l with
  | nil => exact (congrArg Prod.fst h).symm
  | cons entry rest =>
      subst hitems
      cases h

theorem elementsBy_iterates {further : Slot → Except Fault (World × List Slot)}
    (hfurther : ∀ v, further v = .ok (w', items) → Iterates w v items w')
    (h : w.elementsBy further slot = .ok (w', items)) : Iterates w slot items w' := by
  unfold elementsBy at h
  split at h
  · split at h
    · cases h
      exact .refl w
    · cases h
  · obtain rfl := eq_of_parts h
    exact .refl _
  · rename_i p
    split at h
    · rename_i yielded held hcell
      cases h
      exact .spends (.self p) hcell
    · cases h
      exact .refl w
    · cases h
      exact .refl w
    · rename_i className core attributes hcell
      split at h
      · cases h
        exact .refl w
      · split at h
        · rename_i v hfound
          have hholds : v ∈ attributes.map (·.2) :=
            List.mem_map_of_mem (mem_of_lookup hfound)
          exact (hfurther v h).of_part hcell hholds
        · cases h
      · cases h
      · split at h
        · exact pairUp_iterates (Except.ok.inj h)
        · obtain rfl := eq_of_parts h
          exact .refl _
    · cases h

theorem elementsWithin_iterates {depth : Nat} (h : w.elementsWithin depth slot = .ok (w', items)) :
    Iterates w slot items w' := by
  induction depth generalizing slot with
  | zero =>
      unfold elementsWithin at h
      refine elementsBy_iterates (fun v hfails => ?_) h
      cases hfails
  | succ depth ih =>
      unfold elementsWithin at h
      exact elementsBy_iterates (fun _ => ih) h

theorem yielded_iterates (h : w.yielded slot = .ok (w', items)) : Iterates w slot items w' := by
  unfold yielded at h
  split at h
  · cases h
    exact .refl w
  · exact elementsWithin_iterates h

theorem Iterates.spent (h : Iterates w slot items w') : Spends (fun _ => False) w w' := by
  cases h with
  | makes grows => exact .of_extends grows
  | @spends p yielded _ held =>
      have hframe := set_changesOnly w p (.seq (.iterator (yielded + items.length)) [])
      refine ⟨hframe.classes, hframe.constants, hframe.size, fun q hq _ => ?_⟩
      by_cases hp : q = p
      · subst hp
        exact .inr ⟨⟨yielded, items, held⟩, ⟨_, Store.get?_set_self hq⟩⟩
      · exact .inl (hframe.cells q hq hp)

/-- Only iterators that the object reaches are changed when it is iterated. -/
theorem Iterates.changesOnly (h : Iterates w slot items w') :
    ChangesOnly (fun q => w.IsIterator q ∧ w.store.Reaches slot q) w w' := by
  cases h with
  | makes grows => exact .of_extends grows
  | spends reaches held =>
      exact (set_changesOnly w _ _).mono fun _ _ hq => hq ▸ ⟨⟨_, _, held⟩, reaches⟩

/-- Nothing is changed where nothing is yielded: an iterator that has nothing left stays as it
is. -/
theorem Iterates.eq_of_nil (h : Iterates w slot [] w') : w' = w := by
  cases h with
  | makes _ silent => exact silent rfl
  | spends _ held => exact set_get? held

end Iterating

/-- What is copied changes nothing but iterators, which are spent. -/
theorem yielded_spends {items : List Slot} (h : w.yielded slot = .ok (w', items)) :
    Spends (fun _ => False) w w' := (yielded_iterates h).spent

theorem addElement_changesOnly {v : Slot} (h : w.addElement slot v = .ok w') :
    ChangesOnly (slot = .ref ·) w w' := by
  unfold addElement at h
  split at h
  · cases h
  · cases h
    exact .refl _ w
  · split at h
    · obtain ⟨items, _, h⟩ := bind_eq_ok.mp h
      cases h
      exact (set_changesOnly w _ _).mono fun q _ hq => by rw [hq]
    · cases h
      exact .refl _ w

theorem convert_extends {v : Value} {type : TypeExpr} {result : Except Fault Value}
    (h : w.convert v type = (w', result)) : Extends w w' := by
  have hknown : w.afterConversion v type = w' := congrArg Prod.fst h
  rw [← hknown]
  exact afterConversion_extends w v type

theorem addConverted_changesOnly (w : World) (slot : Slot) (elementType : TypeExpr)
    (items : List Slot) :
    ChangesOnly (slot = .ref ·) w (w.addConverted slot elementType items).1 := by
  induction items generalizing w with
  | nil => exact .refl _ w
  | cons item rest ih =>
      unfold addConverted
      split
      · exact ih w
      · split
        · rename_i heq
          exact .of_extends (convert_extends heq)
        · rename_i w₁ v heq
          have hvalue := (convert_extends heq).trans (intern_extends w₁ v)
          dsimp only
          split
          · exact .of_extends hvalue
          · rename_i w₂ hadd
            have hadded := (ChangesOnly.of_extends hvalue).trans (addElement_changesOnly hadd)
            exact hadded.trans (ih w₂)

/-- A copy iterates its source, and then changes its target only. -/
theorem copyElements_iterates (w : World) (source slot : Slot) (elementType : TypeExpr) :
    ∃ w₁ items, Iterates w source items w₁ ∧
      ChangesOnly (slot = .ref ·) w₁ (w.copyElements source slot elementType).1 := by
  unfold copyElements
  split
  · exact ⟨w, [], .refl w, .refl _ w⟩
  · rename_i heq
    exact ⟨_, [], yielded_iterates heq, .refl _ _⟩
  · rename_i heq
    refine ⟨_, _, yielded_iterates heq, ?_⟩
    split
    · exact .refl _ _
    · split
      · exact .refl _ _
      · exact addConverted_changesOnly _ _ _ _

theorem finishCollection_extends (w : World) (finish : Finish) (collection : Slot) :
    Extends w (w.finishCollection finish collection).1 := by
  unfold finishCollection
  split
  · exact alloc_extends w _
  · exact alloc_extends w _
  · exact .refl _ w

theorem fillCollection_iterates (w : World) (elementType : TypeExpr) (finish : Finish)
    (source collection : Slot) :
    ∃ w₁ items, Iterates w source items w₁ ∧ ChangesOnly (collection = .ref ·) w₁
      (w.fillCollection elementType finish source collection).1 := by
  obtain ⟨w₁, items, hread, hcopy⟩ := copyElements_iterates w source collection elementType
  refine ⟨w₁, items, hread, ?_⟩
  unfold fillCollection
  split
  · rename_i heq
    rw [heq] at hcopy
    exact hcopy
  · rename_i w₂ heq
    rw [heq] at hcopy
    exact hcopy.trans (.of_extends (finishCollection_extends w₂ finish collection))

/-! ## Converters -/

theorem double_extends {v : Slot} (h : w.double slot = .ok (w', v)) : Extends w w' := by
  unfold double at h
  split at h
  · obtain ⟨a, _, h⟩ := map_eq_ok.mp h
    cases h
    exact .refl _ w
  · cases h
  · cases h
  · cases h
  · exact (alloc_isNew (Except.ok.inj h)).1

theorem upper_extends {v : Slot} (h : w.upper slot = .ok (w', v)) : Extends w w' := by
  unfold upper at h
  split at h
  · cases h
    exact .refl _ w
  · cases h
    exact .refl _ w
  · exact (alloc_isNew (Except.ok.inj h)).1
  · cases h

theorem toIntegers_extends {v : Slot} (h : w.toIntegers slot = .ok (w', v)) : Extends w w' := by
  unfold toIntegers at h
  split at h
  · cases h
  · split at h
    · obtain ⟨entries, _, h⟩ := bind_eq_ok.mp h
      exact (alloc_isNew (Except.ok.inj h)).1
    · cases h

theorem toText_extends {v : Slot} (h : w.toText slot = .ok (w', v)) : Extends w w' := by
  unfold toText at h
  split at h
  · cases h
    exact .refl _ w
  · cases h

theorem applyFunction_extends {f : Function} {v : Slot}
    (h : w.applyFunction f slot = .ok (w', v)) : Extends w w' := by
  unfold applyFunction at h
  cases f with
  | identity | isNone | number =>
      cases h
      exact .refl _ w
  | text => exact toText_extends h
  | double => exact double_extends h
  | length =>
      dsimp only at h
      split at h
      · cases h
        exact .refl _ w
      · cases h
  | upper => exact upper_extends h
  | decimal =>
      dsimp only at h
      split at h
      · obtain ⟨d, _, h⟩ := map_eq_ok.mp h
        cases h
        exact .refl _ w
      · cases h
        exact .refl _ w
  | integers => exact toIntegers_extends h
  | failing => cases h

/-- A converter makes new objects at most. -/
theorem applyConverter_extends {f : Converter} {v : Slot}
    (h : w.applyConverter f slot = .ok (w', v)) : Extends w w' := by
  unfold applyConverter at h
  split at h
  · exact applyFunction_extends h
  · obtain ⟨u, _, h⟩ := map_eq_ok.mp h
    have hextends := intern_extends w u
    rwa [h] at hextends
  · exact toText_extends h
  · cases h
    exact .refl _ w
  · obtain ⟨n, _, h⟩ := map_eq_ok.mp h
    cases h
    exact .refl _ w
  · obtain ⟨d, _, h⟩ := map_eq_ok.mp h
    cases h
    exact .refl _ w
  · exact (createWith_extends h).1
  · cases h
    exact .refl _ w

/-! ## Steps -/

theorem transferValue_extends (w : World) (a : Assignment Converter) (v : Slot) :
    Extends w (w.transferValue a v).1 := by
  unfold transferValue
  split
  · split
    · exact intern_extends w _
    · exact .refl _ w
  · unfold orUnchanged
    split
    · rename_i heq
      exact applyConverter_extends heq
    · exact .refl _ w
  · exact (afterConversion_extends w _ _).trans (intern_extends _ _)
  · exact .refl _ w

/-- What a step makes of the source changes nothing but iterators: a collection that it fills is
new. -/
theorem transferred_spends (w : World) (a : Assignment Converter) (source : Slot) :
    Spends (fun _ => False) w (w.transferred a source).1 := by
  unfold transferred
  split
  · split
    · exact .refl _ w
    · rename_i w₁ collection hcreate
      obtain ⟨hcreated, hnew⟩ := create_extends hcreate
      split
      · split
        · exact .of_extends hcreated
        · rename_i w₂ v hget
          obtain ⟨w₃, items, hyields, hfilled⟩ := fillCollection_iterates w₂ _ _ v collection
          have hread : Spends (collection = .ref ·) w w₃ :=
            (Spends.of_extends (hcreated.trans (getAttribute_extends hget))).trans
              hyields.spent.of_spends
          refine (hread.trans (.of_changesOnly hfilled)).mono fun q hq hplace => ?_
          exact absurd (hnew q hplace) (by omega)
      · exact .of_extends (hcreated.trans (finishCollection_extends w₁ _ _))
  · split
    · exact .refl _ w
    · rename_i w₁ v hget
      exact .of_extends ((getAttribute_extends hget).trans (transferValue_extends w₁ a v))

/-! ## Functions -/

/-- A relation on worlds that a world has to the worlds that come of it by making new objects, by
spending iterators and by storing attributes on a target. -/
structure TransferRelation (target : Slot) (R : World → World → Prop) : Prop where
  trans : ∀ {w w' w'' : World}, R w w' → R w' w'' → R w w''
  spends : ∀ {w w' : World}, Spends (fun _ => False) w w' → R w w'
  stores : ∀ {w w' : World} {name : String} {v : Slot},
    w.setAttribute target name v = .ok w' → R w w'

namespace TransferRelation

variable {target : Slot} {R : World → World → Prop}

theorem transferMember (hR : TransferRelation target R) (w : World) (a : Assignment Converter)
    (source : Slot) : R w (w.transferMember a source target).1 := by
  have hvalue := hR.spends (transferred_spends w a source)
  unfold World.transferMember
  split
  · rename_i heq
    rw [heq] at hvalue
    exact hvalue
  · rename_i heq
    rw [heq] at hvalue
    split
    · exact hvalue
    · rename_i hset
      exact hR.trans hvalue (hR.stores hset)

theorem transferMembers (hR : TransferRelation target R) (w : World) (source : Slot)
    (steps : List (Assignment Converter)) : R w (w.transferMembers source target steps).1 := by
  induction steps generalizing w with
  | nil => exact hR.spends (.refl _ w)
  | cons a rest ih =>
      have hstep := hR.transferMember w a source
      unfold World.transferMembers
      split
      · rename_i heq
        rw [heq] at hstep
        exact hstep
      · rename_i w₁ heq
        rw [heq] at hstep
        exact hR.trans hstep (ih w₁)

theorem mutate (hR : TransferRelation target R) (w : World) (f : MapFunction) (source : Slot) :
    R w (w.mutate f source target).1 := by
  unfold World.mutate
  split
  · exact hR.spends (.refl _ w)
  · split
    · exact hR.spends (.refl _ w)
    · exact hR.transferMembers w source f.steps

end TransferRelation

theorem spends_transferRelation (target : Slot) :
    TransferRelation target (Spends (target = .ref ·)) :=
  ⟨.trans, Spends.of_spends, fun hset => .of_changesOnly (setAttribute_changesOnly hset)⟩

theorem transferMembers_spends (w : World) (source target : Slot)
    (steps : List (Assignment Converter)) :
    Spends (target = .ref ·) w (w.transferMembers source target steps).1 :=
  (spends_transferRelation target).transferMembers w source steps

theorem mutate_spends (w : World) (f : MapFunction) (source target : Slot) :
    Spends (target = .ref ·) w (w.mutate f source target).1 :=
  (spends_transferRelation target).mutate w f source

theorem produce_spends (w : World) (f : MapFunction) (source : Slot) :
    Spends (fun _ => False) w (w.produce f source).1 := by
  unfold produce
  split
  · exact .refl _ w
  · split
    · exact .refl _ w
    · split
      · exact .refl _ w
      · rename_i w₁ created hcreate
        obtain ⟨hcreated, hnew⟩ := create_extends hcreate
        have hsteps := transferMembers_spends w₁ source created f.steps
        have hall : Spends (fun _ => False) w _ := ((Spends.of_extends hcreated).trans hsteps).mono
          fun q hq hplace => absurd (hnew q hplace) (by omega)
        split
        · rename_i heq
          rw [heq] at hall
          exact hall
        · rename_i heq
          rw [heq] at hall
          exact hall

/-! ## Runs that spend nothing -/

/-- Whether no step spends an iterator, as long as nothing but the cells of given places has
changed. -/
def KeepsIterators (w : World) (P : Place → Prop) (source : Slot)
    (steps : List (Assignment Converter)) : Prop :=
  ∀ u, ChangesOnly P w u → ∀ a ∈ steps, Extends u (u.transferred a source).1

section KeepsIterators

variable {P : Place → Prop} {source target : Slot} {steps : List (Assignment Converter)}

theorem KeepsIterators.later (h : w.KeepsIterators P source steps) (hw : ChangesOnly P w w') :
    w'.KeepsIterators P source steps :=
  fun u hu => h u (hw.trans hu)

theorem KeepsIterators.mono {Q : Place → Prop} (h : w.KeepsIterators P source steps)
    (hQP : ∀ q, Q q → P q) : w.KeepsIterators Q source steps :=
  fun u hu => h u (hu.mono fun q _ => hQP q)

theorem KeepsIterators.tail {a : Assignment Converter}
    (h : w.KeepsIterators P source (a :: steps)) : w.KeepsIterators P source steps :=
  fun u hu b hb => h u hu b (List.mem_cons_of_mem _ hb)

theorem transferMembers_changesOnly (h : w.KeepsIterators (target = .ref ·) source steps) :
    ChangesOnly (target = .ref ·) w (w.transferMembers source target steps).1 := by
  induction steps generalizing w with
  | nil => exact .refl _ w
  | cons a rest ih =>
      have hvalue := h w (.refl _ w) a List.mem_cons_self
      have hstep : ChangesOnly (target = .ref ·) w (w.transferMember a source target).1 := by
        unfold transferMember
        split
        · rename_i heq
          rw [heq] at hvalue
          exact .of_extends hvalue
        · rename_i heq
          rw [heq] at hvalue
          split
          · exact .of_extends hvalue
          · rename_i hset
            exact (ChangesOnly.of_extends hvalue).trans (setAttribute_changesOnly hset)
      unfold transferMembers
      split
      · rename_i heq
        rw [heq] at hstep
        exact hstep
      · rename_i w₁ heq
        rw [heq] at hstep
        exact hstep.trans (ih (h.later hstep).tail)

end KeepsIterators

end Memberwise.World
