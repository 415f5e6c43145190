import Memberwise.Proofs.Schema.Records
import Memberwise.Proofs.World.Creation
import Memberwise.Proofs.World.Renaming

/-! # Worlds that correspond

An operation does the same in worlds that correspond: it fails with the same fault, or makes
counterparts of the same objects and leaves worlds that correspond again.  What lies apart from
the objects that take part may differ, and so may the annotations of classes.
-/

namespace Memberwise.World

open Classes (Alike)
open Schema (ReadsAlike)

/-- Whether classes, the objects that take part, and what classes keep are the same in two worlds
up to places.  The schemas that are known in either one are given. -/
structure Similar (r : Correspondence) (known known' : SchemaCache) (w w' : World) : Prop where
  classes : ReadsAlike r.settled w.classes w'.classes
  store : w.store.Similar r w'.store
  constants : ∀ key, w'.constants.lookup key = (w.constants.lookup key).map (Slot.rename r.place)
  kept : ∀ key slot, w.constants.lookup key = some slot → slot.Within r.covers
  schemas : w.schemas = known
  schemas' : w'.schemas = known'

/-- Whether worlds with a result correspond, and their results do. -/
structure Both {α β : Type} (r : Correspondence) (known known' : SchemaCache) (R : α → β → Prop)
    (a : World × α) (b : World × β) : Prop where
  world : Similar r known known' a.1 b.1
  result : R a.2 b.2

/-- Whether slots hold counterparts, one by one. -/
def PairsAll (r : Correspondence) (slots slots' : List Slot) : Prop :=
  (∀ slot ∈ slots, slot.Within r.covers) ∧ slots' = slots.map (Slot.rename r.place)

def renameNamed (r : Correspondence) (named : List (String × Slot)) : List (String × Slot) :=
  named.map fun entry => (entry.1, entry.2.rename r.place)

/-- Whether names have counterparts, one by one. -/
def PairsNamed (r : Correspondence) (named named' : List (String × Slot)) : Prop :=
  (∀ entry ∈ named, entry.2.Within r.covers) ∧ named' = renameNamed r named

variable {r : Correspondence} {known known' : SchemaCache} {w w' : World} {v v' : Slot}

theorem pairs_atom (a : Atom) : r.Pairs (.atom a) (.atom a) := ⟨Slot.within_atom a, rfl⟩

theorem pairs_isNone (h : r.Pairs v v') : v'.isNone = v.isNone := by
  rw [h.2, Slot.isNone_rename]

theorem pairsAll_nil : PairsAll r [] [] := ⟨fun _ hslot => (nomatch hslot), rfl⟩

theorem pairsAll_append {slots slots' others others' : List Slot} (h : PairsAll r slots slots')
    (hothers : PairsAll r others others') : PairsAll r (slots ++ others) (slots' ++ others') := by
  refine ⟨List.forall_mem_append.mpr ⟨h.1, hothers.1⟩, ?_⟩
  rw [h.2, hothers.2, List.map_append]

theorem pairsAll_cons {slots slots' : List Slot} (h : r.Pairs v v') (hrest : PairsAll r slots slots') :
    PairsAll r (v :: slots) (v' :: slots') :=
  ⟨List.forall_mem_cons.mpr ⟨h.1, hrest.1⟩, congrArg₂ _ h.2 hrest.2⟩

theorem pairsAll_atoms {slots : List Slot} (h : ∀ slot ∈ slots, ∃ a, slot = .atom a) :
    PairsAll r slots slots := by
  constructor
  · intro slot hslot
    obtain ⟨a, rfl⟩ := h slot hslot
    exact Slot.within_atom a
  · symm
    have hmap : slots.map (Slot.rename r.place) = slots.map id := by
      apply List.map_congr_left
      intro slot hslot
      obtain ⟨a, rfl⟩ := h slot hslot
      rfl
    rw [hmap, List.map_id]

theorem pairsAll_length {slots slots' : List Slot} (h : PairsAll r slots slots') :
    slots'.length = slots.length := by
  rw [h.2, List.length_map]

theorem pairsNamed_nil : PairsNamed r [] [] := ⟨fun _ hentry => (nomatch hentry), rfl⟩

theorem renameNamed_append (named others : List (String × Slot)) :
    renameNamed r (named ++ others) = renameNamed r named ++ renameNamed r others :=
  List.map_append

theorem pairsNamed_append {named named' others others' : List (String × Slot)}
    (h : PairsNamed r named named') (hothers : PairsNamed r others others') :
    PairsNamed r (named ++ others) (named' ++ others') := by
  refine ⟨List.forall_mem_append.mpr ⟨h.1, hothers.1⟩, ?_⟩
  rw [h.2, hothers.2, renameNamed_append]

theorem pairsNamed_singleton (name : String) (h : r.Pairs v v') :
    PairsNamed r [(name, v)] [(name, v')] :=
  ⟨List.forall_mem_singleton.mpr h.1, congrArg (fun v => [(name, v)]) h.2⟩

/-- Names are chosen by the names alone. -/
theorem pairsNamed_filter {named named' : List (String × Slot)} (h : PairsNamed r named named')
    (p : String → Bool) :
    PairsNamed r (named.filter fun entry => p entry.1) (named'.filter fun entry => p entry.1) := by
  refine ⟨fun entry hentry => h.1 entry (List.mem_of_mem_filter hentry), ?_⟩
  rw [h.2, renameNamed, renameNamed, List.filter_map]
  rfl

theorem any_named {named named' : List (String × Slot)} (h : PairsNamed r named named')
    (p : String → Bool) :
    (named'.any fun entry => p entry.1) = named.any fun entry => p entry.1 := by
  rw [h.2, renameNamed, List.any_map]
  rfl

theorem lookup_renameNamed (named : List (String × Slot)) (name : String) :
    (renameNamed r named).lookup name = (named.lookup name).map (Slot.rename r.place) :=
  lookup_map (Slot.rename r.place) named name

theorem pairsNamed_lookup {named named' : List (String × Slot)} (h : PairsNamed r named named')
    (name : String) : Option.Rel r.Pairs (named.lookup name) (named'.lookup name) := by
  rw [h.2, lookup_renameNamed]
  cases hfound : named.lookup name with
  | none => exact .none
  | some v => exact .some ⟨h.1 _ (mem_of_lookup hfound), rfl⟩

theorem renameNamed_putAttribute (named : List (String × Slot)) (name : String) (v : Slot) :
    renameNamed r (putAttribute named name v) =
      putAttribute (renameNamed r named) name (v.rename r.place) := by
  have hany : ((renameNamed r named).any fun entry => entry.1 == name) =
      named.any fun entry => entry.1 == name := List.any_map
  unfold putAttribute
  rw [hany]
  split
  · rw [renameNamed, renameNamed, List.map_map, List.map_map]
    apply List.map_congr_left
    intro entry _
    simp only [Function.comp_apply]
    split <;> rfl
  · exact renameNamed_append _ _

theorem pairsNamed_putAttribute {named named' : List (String × Slot)}
    (h : PairsNamed r named named') (name : String) (hv : r.Pairs v v') :
    PairsNamed r (putAttribute named name v) (putAttribute named' name v') := by
  constructor
  · intro entry hentry
    unfold putAttribute at hentry
    split at hentry
    · obtain ⟨old, hold, rfl⟩ := List.mem_map.mp hentry
      split
      · exact hv.1
      · exact h.1 old hold
    · rcases List.mem_append.mp hentry with hold | hnew
      · exact h.1 entry hold
      · rw [List.mem_singleton.mp hnew]
        exact hv.1
  · rw [h.2, hv.2, renameNamed_putAttribute]

namespace Similar

variable (h : Similar r known known' w w')

include h

/-! ## Reading worlds -/

theorem alike : Alike w.classes w'.classes := h.classes.alike

theorem load (hv : r.Pairs v v') : w'.load v' = (w.load v).rename r.place := by
  rw [hv.2]
  exact h.store.load hv.1

theorem load_within (hv : r.Pairs v v') : (w.load v).Within r.covers := h.store.load_within hv.1

theorem constant (key : ConstantKey) : r.Pairs (w.constant key) (w'.constant key) := by
  unfold World.constant
  rw [h.constants]
  cases hkept : w.constants.lookup key with
  | none => exact pairs_atom _
  | some slot => exact ⟨h.kept key slot hkept, rfl⟩

/-- What is at the counterpart of a place that takes part. -/
theorem cell {p : Place} (hp : r.Pairs (.ref p) v') :
    ∃ q, v' = .ref q ∧ w'.store.get? q = (w.store.get? p).map (Cell.rename r.place) :=
  ⟨r.place p, hp.2, h.store.cells p (Slot.within_ref.mp hp.1)⟩

theorem slots_within {p : Place} {cell : Cell} (hp : r.Pairs (.ref p) v')
    (hcell : w.store.get? p = some cell) : ∀ slot ∈ cell.slots, slot.Within r.covers :=
  h.store.closed p cell (Slot.within_ref.mp hp.1) hcell

theorem classOf (hv : r.Pairs v v') : w'.classOf v' = w.classOf v := by
  cases v with
  | atom a =>
      rw [hv.2]
      rfl
  | ref p =>
      obtain ⟨q, rfl, hq⟩ := h.cell hv
      show ((w'.store.get? q).map Cell.classOf).getD _ = ((w.store.get? p).map Cell.classOf).getD _
      rw [hq, Option.map_map]
      congr 2
      funext cell
      exact Cell.classOf_rename cell

theorem chainLength : w'.chainLength = w.chainLength := by
  have hlengths := h.alike.congr (q := fun classes => classes.map fun c => c.decl.body.length)
    fun classes => by
      show (classes.map Class.outline).map _ = _
      rw [List.map_map]
      apply List.map_congr_left
      intro c _
      exact List.length_map _
  unfold World.chainLength
  rw [hlengths]

/-! ## Changing worlds -/

theorem alloc {cell cell' : Cell} (hcell : ∀ slot ∈ cell.slots, slot.Within r.covers)
    (hcell' : cell' = cell.rename r.place) :
    Both r known known' r.Pairs (w.alloc cell) (w'.alloc cell') := by
  subst hcell'
  have hstore := h.store.alloc_both hcell
  exact ⟨{ h with store := hstore.store }, hstore.result⟩

theorem alloc_seq (kind : SeqKind) {items items' : List Slot} (hitems : PairsAll r items items') :
    Both r known known' r.Pairs (w.alloc (.seq kind items)) (w'.alloc (.seq kind items')) :=
  h.alloc hitems.1 (congrArg _ hitems.2)

theorem alloc_object (name : String) (core : Option Atom) {attributes attributes' : List (String × Slot)}
    (hattributes : PairsNamed r attributes attributes') :
    Both r known known' r.Pairs (w.alloc (.object name core attributes))
      (w'.alloc (.object name core attributes')) :=
  h.alloc (List.forall_mem_map.mpr hattributes.1) (congrArg _ hattributes.2)

theorem intern {u u' : Value} (hu : u.Within r.covers) (hu' : u' = u.rename r.place) :
    Both r known known' r.Pairs (w.intern u) (w'.intern u') := by
  subst hu'
  have hstore := h.store.intern u hu
  exact ⟨{ h with store := hstore.store }, hstore.result⟩

/-- An object may be changed along with its counterpart, and in any way if it takes no part. -/
theorem set {p : Place} {cell cell' : Cell} (hcell : r.covers p →
      cell' = cell.rename r.place ∧ ∀ slot ∈ cell.slots, slot.Within r.covers) :
    Similar r known known' (w.set p cell) (w'.set (r.place p) cell') :=
  { h with store := h.store.set hcell }

end Similar

end Memberwise.World
