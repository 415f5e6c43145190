import Memberwise.Proofs.Mapper.Frame
import Memberwise.Proofs.Parallel.Application
import Memberwise.Proofs.Parallel.Attribute
import Memberwise.Proofs.Parallel.Collection
import Memberwise.Proofs.Schema.Growth

/-! # What a transfer learns

A transfer adds the schemas that it makes to those that are known, when it converts, and at no
other time.  A world corresponds to itself, and operations that do the same in worlds that
correspond know in the end what they knew at first.
-/

namespace Memberwise

open SchemaCache (Grows)

/-- The correspondence in which each object is its own counterpart, and given classes have fields
with the same schemas on both sides. -/
def Correspondence.inPlace (settled : String → Prop) : Correspondence :=
  ⟨id, fun _ => True, settled, Function.injective_id⟩

/-- The correspondence of a world with itself. -/
abbrev Correspondence.identity : Correspondence := .inPlace fun _ => True

theorem Store.Similar.inPlace (settled : String → Prop) (s : Store) :
    Store.Similar (.inPlace settled) s s where
  fresh _ := rfl
  covers _ := trivial
  cells p _ := by
    have hsame : (Cell.rename (Correspondence.inPlace settled).place) = id := funext Cell.rename_id
    rw [hsame, Option.map_id]
    rfl
  closed _ _ _ _ _ _ _ _ := trivial

theorem Store.Similar.refl (s : Store) : Store.Similar .identity s s := .inPlace _ s

namespace World

variable {w w' w'' : World} {source slot target v : Slot} {known : SchemaCache}

/-- A world corresponds to itself with other classes that read alike. -/
theorem Similar.inPlace {settled : String → Prop} {classes' : Classes}
    (h : Schema.ReadsAlike settled w.classes classes') :
    Similar (.inPlace settled) w.schemas w.schemas w { w with classes := classes' } where
  classes := h
  store := .inPlace settled w.store
  constants key := by
    have hsame : (Slot.rename (Correspondence.inPlace settled).place) = id := funext Slot.rename_id
    rw [hsame, Option.map_id]
    rfl
  kept _ _ _ _ _ := trivial
  schemas := rfl
  schemas' := rfl

theorem Similar.refl (w : World) : Similar .identity w.schemas w.schemas w w :=
  .inPlace (.refl w.classes)

theorem pairs_inPlace (settled : String → Prop) (v : Slot) :
    (Correspondence.inPlace settled).Pairs v v :=
  ⟨fun _ _ => trivial, (Slot.rename_id v).symm⟩

theorem pairs_refl (v : Slot) : Correspondence.identity.Pairs v v := pairs_inPlace _ v

theorem pairsNamed_refl (named : List (String × Slot)) :
    PairsNamed .identity named named := by
  refine ⟨fun _ _ _ _ => trivial, ?_⟩
  have hsame : (fun entry : String × Slot => (entry.1, entry.2.rename id)) = id :=
    funext fun entry => Prod.ext rfl (Slot.rename_id entry.2)
  show named = named.map fun entry => (entry.1, entry.2.rename id)
  rw [hsame, List.map_id]

/-! ## Operations that learn nothing -/

/-- What agrees with itself keeps what agreeing results share. -/
theorem schemas_of_agree {α : Type} {R : α → α → Prop} {x : Except Fault (World × α)} {a : α}
    (h : Agree (Both .identity known known R) x x) (hx : x = .ok (w', a)) : w'.schemas = known := by
  subst hx
  cases h with
  | ok h => exact h.world.schemas

theorem getAttribute_schemas {name : String} (h : w.getAttribute slot name = .ok (w', v)) :
    w'.schemas = w.schemas :=
  schemas_of_agree ((Similar.refl w).getAttribute (pairs_refl slot) name) h

theorem create_schemas {c : ClassRef} {named : List (String × Slot)}
    (h : w.create c named = .ok (w', v)) : w'.schemas = w.schemas :=
  schemas_of_agree ((Similar.refl w).create c (pairsNamed_refl named)) h

theorem applyConverter_schemas {f : Converter} (h : w.applyConverter f slot = .ok (w', v)) :
    w'.schemas = w.schemas :=
  schemas_of_agree ((Similar.refl w).applyConverter f (pairs_refl slot)) h

theorem yielded_schemas {items : List Slot} (h : w.yielded slot = .ok (w', items)) :
    w'.schemas = w.schemas :=
  schemas_of_agree ((Similar.refl w).yielded (pairs_refl slot)) h

theorem addElement_schemas (h : w.addElement target v = .ok w') : w'.schemas = w.schemas := by
  have hsimilar := (Similar.refl w).addElement (pairs_refl target) (pairs_refl v)
  rw [h] at hsimilar
  cases hsimilar with
  | ok hsimilar => exact hsimilar.schemas

theorem setAttribute_schemas {name : String} (h : w.setAttribute target name v = .ok w') :
    w'.schemas = w.schemas := by
  cases target with
  | atom a =>
      unfold setAttribute at h
      split at h
      · rename_i heq
        cases heq
      · split at h
        · cases h
        · cases h
          rfl
      · cases h
  | ref p =>
      cases hcell : w.store.get? p with
      | none =>
          -- Where there is no object there is nothing to store on.
          have hmissing : w.setAttribute (.ref p) name v = .error .missingAttribute := by
            show w.setWithin p false v (_ + 1) name = _
            rw [setWithin_succ, hcell]
          rw [hmissing] at h
          cases h
      | some cell =>
          have hwriting : Writing .identity w.schemas w.schemas p cell cell w w := by
            have hself : w.store.get? p = some (cell.writeAll []) := by
              rw [hcell, Cell.writeAll_nil]
            exact ⟨.refl w, rfl, fun _ _ _ => trivial, [], fun _ hwrite => (nomatch hwrite), hself,
              hself⟩
          have hself : Agree (Writing .identity w.schemas w.schemas p cell cell)
              (w.setAttribute (.ref p) name v) (w.setAttribute (.ref p) name v) :=
            hwriting.setAttribute (pairs_refl v) name
          rw [h] at hself
          cases hself with
          | ok hwriting => exact hwriting.similar.schemas

/-! ## Worlds that learn -/

/-- Whether a world has the classes of another one and knows at least its schemas. -/
structure Learns (w w' : World) : Prop where
  classes : w'.classes = w.classes
  schemas : Grows w.classes w.schemas w'.schemas

theorem Learns.refl (w : World) : Learns w w := ⟨rfl, .refl _ _⟩

theorem Learns.trans (h : Learns w w') (h' : Learns w' w'') : Learns w w'' := by
  refine ⟨h'.classes.trans h.classes, h.schemas.trans ?_⟩
  rw [← h.classes]
  exact h'.schemas

theorem learns_of_same (hclasses : w'.classes = w.classes) (hschemas : w'.schemas = w.schemas) :
    Learns w w' := by
  refine ⟨hclasses, ?_⟩
  rw [hschemas]
  exact .refl _ _

theorem intern_learns (w : World) (u : Value) : Learns w (w.intern u).1 :=
  learns_of_same rfl rfl

theorem alloc_learns (w : World) (cell : Cell) : Learns w (w.alloc cell).1 :=
  learns_of_same rfl rfl

/-- A conversion learns the schema of its type at most. -/
theorem afterConversion_learns (w : World) (u : Value) (type : TypeExpr) :
    Learns w (w.afterConversion u type) := by
  refine ⟨rfl, ?_⟩
  show Grows w.classes w.schemas (Conversion.knownAfter w.classes w.schemas u type)
  unfold Conversion.knownAfter
  dsimp only
  split
  · exact .refl _ _
  · split
    · exact SchemaCache.grows_remember _ _ _
    · exact .refl _ _

/-- Goes on in the world that a change leaves, if it is made at all. -/
def goOn (w : World) (further : World → World × Option Fault) :
    Except Fault World → World × Option Fault
  | .error fault => (w, some fault)
  | .ok w => further w

/-- Adds what has come of a conversion to a collection and goes on from there. -/
def addResult (w : World) (target : Slot) (further : World → World × Option Fault) :
    Except Fault Value → World × Option Fault
  | .error fault => (w, some fault)
  | .ok u =>
    (w.intern u).1.goOn further ((w.intern u).1.addElement target (w.intern u).2)

theorem addConverted_cons {item : Slot} (hitem : item.isNone = false) (w : World) (target : Slot)
    (elementType : TypeExpr) (rest : List Slot) :
    w.addConverted target elementType (item :: rest) =
      (w.afterConversion (w.load item) elementType).addResult target
        (fun w => w.addConverted target elementType rest)
        (Conversion.convertWith w.classes w.schemas (w.load item) elementType) := by
  rw [addConverted, hitem]
  simp only [Bool.false_eq_true, if_false, convert]
  cases Conversion.convertWith w.classes w.schemas (w.load item) elementType <;> rfl

theorem goOn_learns {further : World → World × Option Fault}
    (hfurther : ∀ w, Learns w (further w).1) {result : Except Fault World}
    (hresult : ∀ w', result = .ok w' → Learns w w') : Learns w (w.goOn further result).1 := by
  cases result with
  | error fault => exact .refl w
  | ok w₁ => exact (hresult w₁ rfl).trans (hfurther w₁)

theorem addResult_learns {further : World → World × Option Fault}
    (hfurther : ∀ w, Learns w (further w).1) (w : World) (target : Slot)
    (result : Except Fault Value) : Learns w (w.addResult target further result).1 := by
  cases result with
  | error fault => exact .refl w
  | ok u =>
      apply (intern_learns w u).trans
      apply goOn_learns hfurther
      intro w₁ hadd
      exact learns_of_same (addElement_changesOnly hadd).classes (addElement_schemas hadd)

theorem addConverted_learns (w : World) (target : Slot) (elementType : TypeExpr)
    (items : List Slot) : Learns w (w.addConverted target elementType items).1 := by
  induction items generalizing w with
  | nil => exact .refl w
  | cons item rest ih =>
      cases hitem : item.isNone with
      | true =>
          rw [addConverted, hitem]
          exact ih w
      | false =>
          rw [addConverted_cons hitem]
          exact (afterConversion_learns w _ elementType).trans (addResult_learns ih _ _ _)

theorem yielded_learns {items : List Slot} (h : w.yielded source = .ok (w', items)) :
    Learns w w' := learns_of_same (yielded_spends h).classes (yielded_schemas h)

theorem copyElements_learns (w : World) (source target : Slot) (elementType : TypeExpr) :
    Learns w (w.copyElements source target elementType).1 := by
  unfold copyElements
  split
  · exact .refl w
  · rename_i hyielded
    exact yielded_learns hyielded
  · rename_i hyielded
    split
    · exact yielded_learns hyielded
    · split
      · exact yielded_learns hyielded
      · exact (yielded_learns hyielded).trans (addConverted_learns _ _ _ _)

theorem finishCollection_learns (w : World) (finish : Finish) (collection : Slot) :
    Learns w (w.finishCollection finish collection).1 := by
  unfold finishCollection
  split
  · exact alloc_learns w _
  · exact alloc_learns w _
  · exact .refl w

/-- Goes on where nothing has failed. -/
def proceed {α : Type} (failed : Fault → α) (further : World → World × α) :
    World × Option Fault → World × α
  | (w, some fault) => (w, failed fault)
  | (w, none) => further w

theorem proceed_learns {α : Type} {failed : Fault → α} {further : World → World × α}
    (hfurther : ∀ w, Learns w (further w).1) (x : World × Option Fault) :
    Learns x.1 (proceed failed further x).1 := by
  obtain ⟨w, outcome⟩ := x
  cases outcome with
  | some fault => exact .refl w
  | none => exact hfurther w

theorem fillCollection_eq (w : World) (elementType : TypeExpr) (finish : Finish)
    (source collection : Slot) :
    w.fillCollection elementType finish source collection =
      proceed .error (fun w => ((w.finishCollection finish collection).1,
        .ok (w.finishCollection finish collection).2))
        (w.copyElements source collection elementType) := by
  unfold fillCollection
  generalize w.copyElements source collection elementType = copied
  obtain ⟨w₁, outcome⟩ := copied
  cases outcome <;> rfl

theorem fillCollection_learns (w : World) (elementType : TypeExpr) (finish : Finish)
    (source collection : Slot) :
    Learns w (w.fillCollection elementType finish source collection).1 := by
  rw [fillCollection_eq]
  apply (copyElements_learns w source collection elementType).trans
  apply proceed_learns
  exact fun w => finishCollection_learns w finish collection

theorem transferValue_learns (w : World) (a : Assignment Converter) (v : Slot) :
    Learns w (w.transferValue a v).1 := by
  unfold transferValue
  split
  · split
    · exact intern_learns w _
    · exact .refl w
  · unfold orUnchanged
    split
    · rename_i heq
      exact learns_of_same (applyConverter_extends heq).classes (applyConverter_schemas heq)
    · exact .refl w
  · exact (afterConversion_learns w _ _).trans (intern_learns _ _)
  · exact .refl w

/-- Goes on with what is read or made, if anything is. -/
def resume (w : World) (further : World → Slot → World × Except Fault Slot) :
    Except Fault (World × Slot) → World × Except Fault Slot
  | .error fault => (w, .error fault)
  | .ok (w, v) => further w v

theorem resume_learns {further : World → Slot → World × Except Fault Slot}
    (hfurther : ∀ w v, Learns w (further w v).1) {result : Except Fault (World × Slot)}
    (hresult : ∀ w' v, result = .ok (w', v) → Learns w w') :
    Learns w (w.resume further result).1 := by
  cases result with
  | error fault => exact .refl w
  | ok result => exact (hresult _ _ rfl).trans (hfurther _ _)

/-- What becomes of a collection that has been made for the elements of a member. -/
def fill (source : Slot) (name : String) (elementType : TypeExpr) (finish : Finish) (copies : Bool)
    (w : World) (collection : Slot) : World × Except Fault Slot :=
  if copies then
    w.resume (fun w v => w.fillCollection elementType finish v collection)
      (w.getAttribute source name)
  else ((w.finishCollection finish collection).1, .ok (w.finishCollection finish collection).2)

theorem transferred_copyCollection {a : Assignment Converter} {elementType : TypeExpr}
    {builder : Builder} {copies : Bool}
    (ha : a.operation = .copyCollection elementType builder copies) (w : World) (source : Slot) :
    w.transferred a source =
      w.resume (fill source a.source.name elementType builder.finish copies)
        (w.create builder.create []) := by
  unfold transferred
  rw [ha]
  cases hcreated : w.create builder.create [] with
  | error fault => simp only [hcreated, resume]
  | ok created =>
      obtain ⟨w₁, collection⟩ := created
      cases copies with
      | false => simp only [hcreated, resume, fill, Bool.false_eq_true, if_false]
      | true =>
          cases hread : w₁.getAttribute source a.source.name <;>
            simp only [hcreated, hread, resume, fill, if_true]

/-- Whether an operation makes a new collection. -/
def makesCollection : Operation Converter → Bool
  | .copyCollection .. => true
  | _ => false

theorem transferred_of_not_makesCollection {a : Assignment Converter}
    (ha : makesCollection a.operation = false) (w : World) (source : Slot) :
    w.transferred a source =
      w.resume (fun w v => w.transferValue a v) (w.getAttribute source a.source.name) := by
  unfold transferred
  cases hoperation : a.operation with
  | copyCollection =>
      rw [hoperation] at ha
      cases ha
  | _ => cases w.getAttribute source a.source.name <;> rfl

theorem getAttribute_learns {name : String} (h : w.getAttribute slot name = .ok (w', v)) :
    Learns w w' := learns_of_same (getAttribute_extends h).classes (getAttribute_schemas h)

theorem transferred_learns (w : World) (a : Assignment Converter) (source : Slot) :
    Learns w (w.transferred a source).1 := by
  cases hmakes : makesCollection a.operation with
  | false =>
      rw [transferred_of_not_makesCollection hmakes]
      exact resume_learns (fun w v => transferValue_learns w a v) fun _ _ => getAttribute_learns
  | true =>
      cases hoperation : a.operation with
      | copyCollection elementType builder copies =>
          rw [transferred_copyCollection hoperation]
          apply resume_learns
          · intro w₁ collection
            unfold fill
            split
            · apply resume_learns (fun w₂ v => fillCollection_learns w₂ _ _ v collection)
              exact fun _ _ => getAttribute_learns
            · exact finishCollection_learns w₁ _ _
          · intro w₁ collection hcreate
            exact learns_of_same (create_extends hcreate).1.classes (create_schemas hcreate)
      | _ =>
          rw [hoperation] at hmakes
          cases hmakes

/-- Stores what a step makes of the source, unless the step fails. -/
def storeResult (w : World) (target : Slot) (name : String) :
    Except Fault Slot → World × Option Fault
  | .error fault => (w, some fault)
  | .ok v => w.goOn (·, none) (w.setAttribute target name v)

theorem transferMember_eq (w : World) (a : Assignment Converter) (source target : Slot) :
    w.transferMember a source target =
      (w.transferred a source).1.storeResult target a.target.name (w.transferred a source).2 := by
  unfold transferMember
  generalize w.transferred a source = value
  obtain ⟨w₁, result⟩ := value
  cases result with
  | error fault => rfl
  | ok v =>
      dsimp only [storeResult]
      cases w₁.setAttribute target a.target.name v <;> rfl

theorem storeResult_learns (w : World) (target : Slot) (name : String)
    (result : Except Fault Slot) : Learns w (w.storeResult target name result).1 := by
  cases result with
  | error fault => exact .refl w
  | ok v =>
      apply goOn_learns fun w => .refl w
      intro w₁ hset
      exact learns_of_same (setAttribute_changesOnly hset).classes (setAttribute_schemas hset)

theorem transferMember_learns (w : World) (a : Assignment Converter) (source target : Slot) :
    Learns w (w.transferMember a source target).1 := by
  rw [transferMember_eq]
  exact (transferred_learns w a source).trans (storeResult_learns _ _ _ _)

theorem transferMembers_cons (w : World) (source target : Slot) (a : Assignment Converter)
    (rest : List (Assignment Converter)) :
    w.transferMembers source target (a :: rest) =
      proceed some (fun w => w.transferMembers source target rest)
        (w.transferMember a source target) := by
  rw [transferMembers]
  generalize w.transferMember a source target = step
  obtain ⟨w₁, outcome⟩ := step
  cases outcome <;> rfl

theorem transferMembers_learns (w : World) (source target : Slot)
    (steps : List (Assignment Converter)) :
    Learns w (w.transferMembers source target steps).1 := by
  induction steps generalizing w with
  | nil => exact .refl w
  | cons a rest ih =>
      rw [transferMembers_cons]
      exact (transferMember_learns w a source target).trans (proceed_learns ih _)

end World

end Memberwise
