import Memberwise.Proofs.Conversion.Renaming
import Memberwise.Proofs.Mapper.Learning

/-! # What copying adds to a collection

Copying converts the elements of one collection that are present, in order, and adds each to
another one by a single method, up to the first that cannot be converted or added.  The elements
are those that the source has at the start, so that it may be the target as well.
-/

namespace Memberwise

open SchemaCache (Grows)

namespace Conversion

variable {classes : Classes} {known : SchemaCache} {v : Value} {type : TypeExpr}

/-- What a conversion learns is nothing or the schema of its type. -/
theorem knownAfter_eq_or (classes : Classes) (known : SchemaCache) (v : Value) (type : TypeExpr) :
    knownAfter classes known v type = known ∨
      knownAfter classes known v type = known.remember classes type.unwrapOptional := by
  rw [knownAfter_eq]
  split
  · exact .inr rfl
  · exact .inl rfl

/-- A conversion finds the same schema after another one into the same type. -/
theorem convertWith_remember (classes : Classes) (known : SchemaCache) (v : Value)
    (type : TypeExpr) :
    convertWith classes (known.remember classes type.unwrapOptional) v type =
      convertWith classes known v type := by
  have hschema : convertBySchema classes (known.remember classes type.unwrapOptional) v
      type.unwrapOptional = convertBySchema classes known v type.unwrapOptional := by
    unfold convertBySchema
    by_cases hhashable : type.unwrapOptional.isHashable classes = true
    · rw [SchemaCache.schema?_of_grows (.refl classes _) hhashable]
    · simp [hhashable]
  simp only [convertWith, convertPresent, hschema]

end Conversion

/-! ## Methods that add -/

namespace Adder

/-- Whether a method puts every element behind those that are there. -/
def IsBehind (adder : Adder) : Prop :=
  ∀ held v, adder.arrange held v = .ok (List.range (held.length + 1))

/-- Whether a method puts every element in front of those that are there. -/
def IsInFront (adder : Adder) : Prop :=
  ∀ held v, adder.arrange held v = .ok (held.length :: List.range held.length)

theorem isBehind_behind : behind.IsBehind := fun _ _ => rfl

theorem isInFront_inFront : inFront.IsInFront := fun _ _ => rfl

/-- The numbers of the first elements of a list give these elements. -/
theorem filterMap_range {α : Type} (items rest : List α) :
    (List.range items.length).filterMap (fun n => (items ++ rest)[n]?) = items := by
  induction items using List.reverseRecOn generalizing rest with
  | nil => rfl
  | append_singleton items last ih =>
      rw [List.length_append, List.length_singleton, List.range_succ, List.filterMap_append,
        List.append_assoc, ih]
      simp

end Adder

namespace Classes

/-- Whether a method puts all that is added to a collection of a kind behind what it holds. -/
def PutsBehind (classes : Classes) (m : Adding) : SeqKind → Prop
  | .list | .deque => True
  | .bag name => ∃ adder, classes.adder? name m = some adder ∧ adder.IsBehind
  | _ => False

/-- Whether a method puts all that is added to a collection of a kind in front of what it holds. -/
def PutsInFront (classes : Classes) (m : Adding) : SeqKind → Prop
  | .bag name => ∃ adder, classes.adder? name m = some adder ∧ adder.IsInFront
  | _ => False

end Classes

namespace World

variable {w w' w₁ w₂ : World} {source slot v : Slot} {p : Place} {m : Adding} {kind : SeqKind}
  {items held held' : List Slot} {elementType : TypeExpr} {fault : Fault}

theorem call_bag {name : String} {adder : Adder} (h : w.classes.adder? name m = some adder)
    (held : List Slot) (v : Slot) :
    w.call m (.bag name) held v = w.arrange adder held v := by
  cases m <;> simp only [call, h]

theorem call_behind (hm : w.classes.PutsBehind m kind) (h : w.call m kind held v = .ok held') :
    held' = held ++ [v] := by
  cases kind with
  | list | deque =>
      cases m with
      | append => exact (Except.ok.inj h).symm
      | add => cases h
  | bag name =>
      obtain ⟨adder, hadder, hbehind⟩ := hm
      rw [call_bag hadder, arrange, hbehind, List.length_map] at h
      have hall := Adder.filterMap_range (held ++ [v]) []
      rw [List.append_nil, List.length_append, List.length_singleton] at hall
      exact (Except.ok.inj h).symm.trans hall
  | tuple | set | frozenset | bytearray | iterator => exact hm.elim

theorem call_inFront (hm : w.classes.PutsInFront m kind) (h : w.call m kind held v = .ok held') :
    held' = v :: held := by
  cases kind with
  | bag name =>
      obtain ⟨adder, hadder, hfront⟩ := hm
      rw [call_bag hadder, arrange, hfront, List.length_map] at h
      have hlast : (held ++ [v])[held.length]? = some v := List.getElem?_concat_length
      have hall : held' = (held.length :: List.range held.length).filterMap
          fun n => (held ++ [v])[n]? := (Except.ok.inj h).symm
      rw [hall, List.filterMap_cons_some hlast, Adder.filterMap_range held [v]]
  | list | deque | tuple | set | frozenset | bytearray | iterator => exact hm.elim

theorem addElement_eq_call (hcell : w.store.get? p = some (.seq kind held))
    (hm : w.classes.adding? kind.classOf = some m) (v : Slot) :
    w.addElement (.ref p) v =
      (w.call m kind held v).map fun held => w.set p (.seq kind held) := by
  have hclass : w.classOf (.ref p) = kind.classOf := classOf_of_get? hcell
  unfold addElement
  rw [hclass, hm]
  simp only [hcell]
  cases w.call m kind held v <;> rfl

/-! ## Additions -/

/-- An element, what it is converted to, and where that is kept. -/
structure Addition where
  item : Slot
  result : Value
  slot : Slot

/-- The world in which an element has been converted, with the result in it. -/
def withResult (w : World) (elementType : TypeExpr) (item : Slot) (result : Value) :
    World × Slot :=
  (w.afterConversion (w.load item) elementType).intern result

/-- Whether an element is converted and added to a collection. -/
structure AddsOne (m : Adding) (elementType : TypeExpr) (p : Place) (w : World) (a : Addition)
    (w' : World) : Prop where
  converts : Conversion.convertWith w.classes w.schemas (w.load a.item) elementType = .ok a.result
  kept : (w.withResult elementType a.item a.result).2 = a.slot
  adds : ∃ kind held held', w.store.get? p = some (.seq kind held) ∧
    (w.withResult elementType a.item a.result).1.call m kind held a.slot = .ok held' ∧
    w' = (w.withResult elementType a.item a.result).1.set p (.seq kind held')

/-- Whether elements are converted and added to a collection, one after another. -/
inductive Adds (m : Adding) (elementType : TypeExpr) (p : Place) :
    World → List Addition → World → Prop
  | done (w : World) : Adds m elementType p w [] w
  | step {w w₁ w' : World} {a : Addition} {rest : List Addition}
      (first : AddsOne m elementType p w a w₁) (further : Adds m elementType p w₁ rest w') :
      Adds m elementType p w (a :: rest) w'

/-- Whether an element cannot be converted, or what it is converted to cannot be added. -/
inductive FailsToAdd (m : Adding) (elementType : TypeExpr) (p : Place) (w : World) (item : Slot)
    (fault : Fault) : World → Prop
  | conversion
      (fails : Conversion.convertWith w.classes w.schemas (w.load item) elementType =
        .error fault) :
      FailsToAdd m elementType p w item fault (w.afterConversion (w.load item) elementType)
  | addition {kind : SeqKind} {held : List Slot} {result : Value}
      (converts : Conversion.convertWith w.classes w.schemas (w.load item) elementType = .ok result)
      (cell : w.store.get? p = some (.seq kind held))
      (fails : (w.withResult elementType item result).1.call m kind held
        (w.withResult elementType item result).2 = .error fault) :
      FailsToAdd m elementType p w item fault (w.withResult elementType item result).1

theorem withResult_extends (w : World) (elementType : TypeExpr) (item : Slot) (result : Value) :
    Extends w (w.withResult elementType item result).1 :=
  (afterConversion_extends w _ elementType).trans (intern_extends _ result)

theorem get?_withResult (hcell : w.store.get? p = some (.seq kind held)) (elementType : TypeExpr)
    (item : Slot) (result : Value) :
    (w.withResult elementType item result).1.store.get? p = some (.seq kind held) :=
  ((withResult_extends w elementType item result).cells p (Store.lt_of_get? hcell)
    not_false).trans hcell

theorem AddsOne.changesOnly {a : Addition} (h : AddsOne m elementType p w a w') :
    ChangesOnly (· = p) w w' := by
  obtain ⟨kind, held, held', -, -, rfl⟩ := h.adds
  exact (ChangesOnly.of_extends (withResult_extends w _ _ _)).trans (set_changesOnly _ p _)

theorem Adds.changesOnly {additions : List Addition} (h : Adds m elementType p w additions w') :
    ChangesOnly (· = p) w w' := by
  induction h with
  | done w => exact .refl _ w
  | step first _ ih => exact first.changesOnly.trans ih

theorem FailsToAdd.extends {item : Slot} (h : FailsToAdd m elementType p w item fault w') :
    Extends w w' := by
  cases h with
  | conversion => exact afterConversion_extends w _ _
  | addition => exact withResult_extends w _ _ _

/-- A collection stays one of its kind. -/
theorem AddsOne.cell {a : Addition} (h : AddsOne m elementType p w a w')
    (hcell : w.store.get? p = some (.seq kind held)) :
    ∃ held', (w.withResult elementType a.item a.result).1.call m kind held a.slot = .ok held' ∧
      w'.store.get? p = some (.seq kind held') := by
  obtain ⟨kind', held₀, held', hcell', hcall, rfl⟩ := h.adds
  rw [hcell] at hcell'
  cases hcell'
  have hsize := Store.lt_of_get? (get?_withResult hcell elementType a.item a.result)
  exact ⟨held', hcall, Store.get?_set_self hsize⟩

/-- Additions by a method that makes the same of all elements are a fold over what is added. -/
theorem Adds.fold {additions : List Addition} (h : Adds m elementType p w additions w')
    (hcell : w.store.get? p = some (.seq kind held)) (grown : List Slot → Slot → List Slot)
    (hm : ∀ w₁ held v held', w₁.classes = w.classes → call w₁ m kind held v = .ok held' →
      held' = grown held v) :
    w'.store.get? p = some (.seq kind ((additions.map (·.slot)).foldl grown held)) := by
  induction h generalizing held with
  | done w => exact hcell
  | step first _ ih =>
      obtain ⟨held', hcall, hcell'⟩ := first.cell hcell
      obtain rfl := hm _ _ _ _ (withResult_extends _ _ _ _).classes hcall
      exact ih hcell' fun w₁ held v held' hw₁ =>
        hm w₁ held v held' (hw₁.trans first.changesOnly.classes)

theorem Adds.behind {additions : List Addition} (h : Adds m elementType p w additions w')
    (hcell : w.store.get? p = some (.seq kind held)) (hm : w.classes.PutsBehind m kind) :
    w'.store.get? p = some (.seq kind (held ++ additions.map (·.slot))) := by
  have hlast := h.fold hcell (fun held v => held ++ [v]) fun _ _ _ _ hw hcall =>
    call_behind (hw ▸ hm) hcall
  rwa [List.foldl_append_eq_append, ← List.flatMap_def, List.flatMap_singleton'] at hlast

/-- What a method puts in front of what is there is at the front, last first. -/
theorem Adds.inFront {additions : List Addition} (h : Adds m elementType p w additions w')
    (hcell : w.store.get? p = some (.seq kind held)) (hm : w.classes.PutsInFront m kind) :
    w'.store.get? p = some (.seq kind ((additions.map (·.slot)).reverse ++ held)) := by
  have hlast := h.fold hcell (fun held v => v :: held) fun _ _ _ _ hw hcall =>
    call_inFront (hw ▸ hm) hcall
  rwa [List.foldl_flip_cons_eq_append'] at hlast

/-- A method that leaves out what is there already keeps the elements and adds further ones in
order. -/
theorem Adds.inserted {additions : List Addition} (h : Adds m elementType p w additions w')
    (hcell : w.store.get? p = some (.seq kind held))
    (hm : ∀ w held v held', call w m kind held v = .ok held' →
      held' = held ∨ held' = held ++ [v]) :
    ∃ added, added.Sublist (additions.map (·.slot)) ∧
      w'.store.get? p = some (.seq kind (held ++ added)) := by
  induction h generalizing held with
  | done w => exact ⟨[], List.Sublist.refl [], by simpa using hcell⟩
  | @step _ _ _ a rest first _ ih =>
      obtain ⟨held', hcall, hcell'⟩ := first.cell hcell
      rcases hm _ _ _ _ hcall with rfl | rfl
      · obtain ⟨added, hadded, hlast⟩ := ih hcell'
        exact ⟨added, hadded.cons a.slot, hlast⟩
      · obtain ⟨added, hadded, hlast⟩ := ih hcell'
        exact ⟨a.slot :: added, hadded.cons_cons a.slot, by simpa using hlast⟩

theorem call_set_eq (h : w.call m .set held v = .ok held') :
    held' = held ∨ held' = held ++ [v] := by
  cases m with
  | append => cases h
  | add =>
      change w.insertInto held v = .ok held' at h
      unfold insertInto at h
      split at h
      · cases h
      · split at h
        · exact .inl (Except.ok.inj h).symm
        · exact .inr (Except.ok.inj h).symm

/-! ## Runs -/

/-- What is converted is added by the method, and the copying goes on from there. -/
theorem addConverted_of_converted {item : Slot} {result : Value} (hitem : item.isNone = false)
    (hconverted : Conversion.convertWith w.classes w.schemas (w.load item) elementType = .ok result)
    (hcell : w.store.get? p = some (.seq kind held))
    (hm : w.classes.adding? kind.classOf = some m) (rest : List Slot) :
    w.addConverted (.ref p) elementType (item :: rest) =
      match (w.withResult elementType item result).1.call m kind held
          (w.withResult elementType item result).2 with
      | .error fault => ((w.withResult elementType item result).1, some fault)
      | .ok held' =>
        ((w.withResult elementType item result).1.set p (.seq kind held')).addConverted (.ref p)
          elementType rest := by
  have hclasses := (withResult_extends w elementType item result).classes
  have hadd := addElement_eq_call (get?_withResult hcell elementType item result)
    (hclasses ▸ hm) (w.withResult elementType item result).2
  rw [addConverted_cons hitem, hconverted]
  show goOn _ _ (addElement (w.withResult elementType item result).1 (.ref p)
    (w.withResult elementType item result).2) = _
  rw [hadd]
  cases (w.withResult elementType item result).1.call m kind held
    (w.withResult elementType item result).2 <;> rfl

/-- Elements are added one after another until all are, or one cannot be converted or added; those
that are absent are left out. -/
theorem addConverted_adds (hcell : w.store.get? p = some (.seq kind held))
    (hm : w.classes.adding? kind.classOf = some m) (elementType : TypeExpr) (items : List Slot) :
    ∃ additions w₁, Adds m elementType p w additions w₁ ∧
      (items.filter (fun item => !item.isNone) = additions.map (·.item) ∧
          w.addConverted (.ref p) elementType items = (w₁, none) ∨
        ∃ item rest fault w₂,
          items.filter (fun item => !item.isNone) = additions.map (·.item) ++ item :: rest ∧
          FailsToAdd m elementType p w₁ item fault w₂ ∧
          w.addConverted (.ref p) elementType items = (w₂, some fault)) := by
  induction items generalizing w held with
  | nil => exact ⟨[], w, .done w, .inl ⟨rfl, rfl⟩⟩
  | cons item rest ih =>
      cases hitem : item.isNone with
      | true =>
          rw [addConverted, hitem, List.filter_cons_of_neg (by simp [hitem])]
          exact ih hcell hm
      | false =>
          rw [List.filter_cons_of_pos (by simp [hitem])]
          cases hconverted : Conversion.convertWith w.classes w.schemas (w.load item) elementType with
          | error fault =>
              rw [addConverted_cons hitem, hconverted]
              exact ⟨[], w, .done w, .inr ⟨item, _, fault, _, rfl, .conversion hconverted, rfl⟩⟩
          | ok result =>
              rw [addConverted_of_converted hitem hconverted hcell hm]
              cases hcall : (w.withResult elementType item result).1.call m kind held
                  (w.withResult elementType item result).2 with
              | error fault =>
                  exact ⟨[], w, .done w, .inr ⟨item, _, fault, _, rfl,
                    .addition hconverted hcell hcall, rfl⟩⟩
              | ok held' =>
                  have hfirst : AddsOne m elementType p w ⟨item, result, _⟩ _ :=
                    ⟨hconverted, rfl, kind, held, held', hcell, hcall, rfl⟩
                  obtain ⟨held'', hcall', hcell'⟩ := hfirst.cell hcell
                  obtain ⟨additions, w₁, hadds, hend⟩ :=
                    ih hcell' (hfirst.changesOnly.classes ▸ hm)
                  refine ⟨_ :: additions, w₁, .step hfirst hadds, ?_⟩
                  rcases hend with ⟨hall, hrun⟩ | ⟨e, others, fault, w₂, hsplit, hfails, hrun⟩
                  · exact .inl ⟨congrArg (item :: ·) hall, hrun⟩
                  · exact .inr ⟨e, others, fault, w₂, congrArg (item :: ·) hsplit, hfails, hrun⟩

/-! ## Conversions that nothing before them changes -/

/-- What is known after additions is what was known before, or the schema of the type as well. -/
theorem Adds.schemas {additions : List Addition} (h : Adds m elementType p w additions w') :
    w'.schemas = w.schemas ∨
      w'.schemas = w.schemas.remember w.classes elementType.unwrapOptional := by
  induction h with
  | done w => exact .inl rfl
  | @step w w₁ w' a rest first further ih =>
      have hclasses := first.changesOnly.classes
      have hfirst : w₁.schemas =
          Conversion.knownAfter w.classes w.schemas (w.load a.item) elementType := by
        obtain ⟨_, _, _, _, _, rfl⟩ := first.adds
        rfl
      rw [hclasses] at ih
      rcases Conversion.knownAfter_eq_or w.classes w.schemas (w.load a.item) elementType with
        hsame | hmore
      · rw [hsame] at hfirst
        rwa [hfirst] at ih
      · rw [hmore] at hfirst
        rw [hfirst, SchemaCache.remember_of_grows (.refl _ _)] at ih
        exact .inr (ih.elim id id)

/-- An element that does not hold the collection is converted as it would have been at first,
whatever has been added since. -/
theorem Adds.convertWith_eq {additions : List Addition} {item : Slot}
    (h : Adds m elementType p w additions w')
    (hitem : ∀ q, w.store.Reaches item q → q < w.store.size ∧ q ≠ p) :
    Conversion.convertWith w'.classes w'.schemas (w'.load item) elementType =
      Conversion.convertWith w.classes w.schemas (w.load item) elementType := by
  have hload : w'.load item = w.load item := Store.load_congr fun q hq =>
    h.changesOnly.cells q (hitem q hq).1 (hitem q hq).2
  rw [hload, h.changesOnly.classes]
  rcases h.schemas with hschemas | hschemas
  · rw [hschemas]
  · rw [hschemas, Conversion.convertWith_remember]

theorem Adds.concat {additions : List Addition} {a : Addition}
    (h : Adds m elementType p w additions w₁) (last : AddsOne m elementType p w₁ a w₂) :
    Adds m elementType p w (additions ++ [a]) w₂ := by
  induction h with
  | done w => exact .step last (.done _)
  | step first _ ih => exact .step first (ih last)

/-- All elements are converted as they would have been at first. -/
theorem Adds.converts {before additions : List Addition} (h : Adds m elementType p w before w₁)
    (further : Adds m elementType p w₁ additions w₂)
    (hitems : ∀ a ∈ additions, ∀ q, w.store.Reaches a.item q → q < w.store.size ∧ q ≠ p) :
    ∀ a ∈ additions, Conversion.convertWith w.classes w.schemas (w.load a.item) elementType =
      .ok a.result := by
  induction further generalizing before with
  | done => exact List.forall_mem_nil _
  | step first _ ih =>
      rw [List.forall_mem_cons] at hitems ⊢
      exact ⟨(h.convertWith_eq hitems.1).symm.trans first.converts, ih (h.concat first) hitems.2⟩

/-! ## Copies -/

/-- A collection that can be added to is no iterator, so that it is as it was when its source has
been read. -/
theorem get?_of_yielded (hyields : w.yielded source = .ok (w₁, items))
    (hcell : w.store.get? p = some (.seq kind held))
    (hm : w.classes.adding? kind.classOf = some m) :
    w₁.store.get? p = some (.seq kind held) := by
  have hiterator : ¬ w.IsIterator p := by
    rintro ⟨yielded, left, hleft⟩
    rw [hcell] at hleft
    cases hleft
    cases hm
  have hsame := (yielded_spends hyields).get?_eq (Store.lt_of_get? hcell) not_false hiterator
  exact hsame.trans hcell

/-- A collection with a method for adding gets the elements that the source has at the start. -/
theorem copyElements_eq_addConverted (hyields : w.yielded source = .ok (w₁, items))
    (hcell : w₁.store.get? p = some (.seq kind held))
    (hm : w₁.classes.adding? kind.classOf = some m) (elementType : TypeExpr) :
    w.copyElements source (.ref p) elementType = w₁.addConverted (.ref p) elementType items := by
  have hgrows : w₁.canGrow (.ref p) = true := by
    have hclass : w₁.classOf (.ref p) = kind.classOf := classOf_of_get? hcell
    rw [canGrow, hclass, hm]
    rfl
  unfold copyElements
  rw [hyields]
  cases items with
  | nil => rfl
  | cons item rest =>
      dsimp only
      rw [hgrows]
      rfl

/-- A copy reads the elements of its source first, which spends the source if it is an iterator or
leads to one.  Without any elements it does nothing, and with some it fails for an absent target.
Into a collection it adds the conversions of those that are present, in order and by one method, up
to the first that cannot be converted or added, and it changes nothing else but iterators that the
source leads to.  What an element is converted to does not depend on the additions before it, unless
the element holds the target or an iterator. -/
theorem copyElements_prefix (hyields : w.yielded source = .ok (w₁, items))
    (elementType : TypeExpr) :
    Iterates w source items w₁ ∧
    (items = [] → ∀ target, w.copyElements source target elementType = (w, none)) ∧
    (items ≠ [] → ∀ target : Slot, target.isNone = true →
      w.copyElements source target elementType =
        (w₁, some (.absent (absentCollectionMessage w.classes elementType)))) ∧
    ∀ p kind held m, w.store.get? p = some (.seq kind held) →
      w.classes.adding? kind.classOf = some m →
      ∃ additions w₂, Adds m elementType p w₁ additions w₂ ∧
        (items.filter (fun item => !item.isNone) = additions.map (·.item) ∧
            w.copyElements source (.ref p) elementType = (w₂, none) ∨
          ∃ item rest fault w₃,
            items.filter (fun item => !item.isNone) = additions.map (·.item) ++ item :: rest ∧
            FailsToAdd m elementType p w₂ item fault w₃ ∧
            w.copyElements source (.ref p) elementType = (w₃, some fault)) ∧
        (w.classes.PutsBehind m kind →
          (w.copyElements source (.ref p) elementType).1.store.get? p =
            some (.seq kind (held ++ additions.map (·.slot)))) ∧
        (w.classes.PutsInFront m kind →
          (w.copyElements source (.ref p) elementType).1.store.get? p =
            some (.seq kind ((additions.map (·.slot)).reverse ++ held))) ∧
        (kind = .set → ∃ added, added.Sublist (additions.map (·.slot)) ∧
          (w.copyElements source (.ref p) elementType).1.store.get? p =
            some (.seq kind (held ++ added))) ∧
        ChangesOnly (fun q => q = p ∨ w.IsIterator q ∧ w.store.Reaches source q) w
          (w.copyElements source (.ref p) elementType).1 ∧
        ∀ item, (∀ q, w₁.store.Reaches item q →
            q < w₁.store.size ∧ q ≠ p ∧ ¬ w₁.IsIterator q) →
          Conversion.convertWith w₂.classes w₂.schemas (w₂.load item) elementType =
            Conversion.convertWith w₁.classes w₁.schemas (w₁.load item) elementType := by
  have hread := yielded_iterates hyields
  have hclasses := (yielded_spends hyields).classes
  refine ⟨hread, ?_, ?_, ?_⟩
  · rintro rfl target
    unfold copyElements
    rw [hyields, hread.eq_of_nil]
  · intro hsome target htarget
    unfold copyElements
    rw [hyields]
    cases items with
    | nil => exact absurd rfl hsome
    | cons item rest =>
        dsimp only
        rw [htarget, hclasses]
        rfl
  · intro p kind held m hcell hm
    have hcell₁ := get?_of_yielded hyields hcell hm
    have hm₁ : w₁.classes.adding? kind.classOf = some m := hclasses ▸ hm
    have hrun := copyElements_eq_addConverted hyields hcell₁ hm₁ elementType
    obtain ⟨additions, w₂, hadds, hend⟩ := addConverted_adds hcell₁ hm₁ elementType items
    have hlast : Extends w₂ (w₁.addConverted (.ref p) elementType items).1 := by
      rcases hend with ⟨-, hend⟩ | ⟨item, rest, fault, w₃, -, hfails, hend⟩
      · rw [hend]
        exact .refl _ w₂
      · rw [hend]
        exact hfails.extends
    have hcontent : ∀ cell, w₂.store.get? p = some cell →
        (w₁.addConverted (.ref p) elementType items).1.store.get? p = some cell := fun cell hcell =>
      (hlast.cells p (Store.lt_of_get? hcell) not_false).trans hcell
    rw [hrun]
    refine ⟨additions, w₂, hadds, hend, fun hbehind => ?_, fun hfront => ?_, ?_,
      ?_, fun item hitem => hadds.convertWith_eq fun q hq => ⟨(hitem q hq).1, (hitem q hq).2.1⟩⟩
    · exact hcontent _ (hadds.behind hcell₁ (hclasses ▸ hbehind))
    · exact hcontent _ (hadds.inFront hcell₁ (hclasses ▸ hfront))
    · rintro rfl
      obtain ⟨added, hadded, hcell₂⟩ := hadds.inserted hcell₁ fun w₃ held v held' hcall =>
        call_set_eq hcall
      exact ⟨added, hadded, hcontent _ hcell₂⟩
    · exact (hread.changesOnly.mono fun _ _ => .inr).trans
        ((hadds.changesOnly.trans (.of_extends hlast)).mono fun _ _ => .inl)

/-- An iterator over a text, and an empty list. -/
def streaming : World where
  classes := []
  store := ⟨#[.seq (.iterator 0) [.atom (.str "a")], .seq .list []]⟩
  constants := []
  schemas := .empty

/-- The target is not all that changes: the iterator has nothing left. -/
theorem copyElements_streaming :
    (streaming.copyElements (.ref 0) (.ref 1) (.builtin .str)).2 = none ∧
    (streaming.copyElements (.ref 0) (.ref 1) (.builtin .str)).1.store.get? 0 =
      some (.seq (.iterator 1) []) ∧
    ¬ ChangesOnly (· = 1) streaming
      (streaming.copyElements (.ref 0) (.ref 1) (.builtin .str)).1 := by
  have hspent : (streaming.copyElements (.ref 0) (.ref 1) (.builtin .str)).1.store.get? 0 =
      some (.seq (.iterator 1) []) := by decide +kernel
  refine ⟨by decide +kernel, hspent, fun hchanges => ?_⟩
  have hsame := hchanges.cells 0 (by decide) (by decide)
  rw [hspent] at hsame
  cases hsame

/-- A list of a number, nothing and a text. -/
def jotting : World where
  classes := []
  store := ⟨#[.seq .list [.atom (.int 1), .none, .atom (.str "2")]]⟩
  constants := []
  schemas := .empty

/-- The list is copied into itself as texts: it grows by what it held at first. -/
theorem copyElements_prefix_jotting :
    (jotting.copyElements (.ref 0) .none (.builtin .str)).2 =
      some (.absent "Collection of str cannot be None.") ∧
    ∃ slots, slots.length = 2 ∧
      (jotting.copyElements (.ref 0) (.ref 0) (.builtin .str)).1.store.get? 0 =
        some (.seq .list ([.atom (.int 1), .none, .atom (.str "2")] ++ slots)) := by
  have hyields : jotting.yielded (.ref 0) =
      .ok (jotting, [.atom (.int 1), .none, .atom (.str "2")]) := rfl
  obtain ⟨-, -, habsent, hcopies⟩ := copyElements_prefix hyields (.builtin .str)
  have hends : (jotting.copyElements (.ref 0) (.ref 0) (.builtin .str)).2 = none := by
    decide +kernel
  obtain ⟨additions, w₂, -, hend, hcell, -⟩ := hcopies 0 .list _ .append rfl rfl
  refine ⟨?_, additions.map (·.slot), ?_, hcell trivial⟩
  · rw [habsent (List.cons_ne_nil _ _) .none rfl]
    rfl
  · rcases hend with ⟨hall, -⟩ | ⟨item, rest, fault, w₃, -, -, hfails⟩
    · have hlength : 2 = _ := congrArg List.length hall
      simpa using hlength.symm
    · rw [hfails] at hends
      cases hends

end World

end Memberwise
