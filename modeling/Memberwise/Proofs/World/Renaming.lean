import Memberwise.Proofs.Value.Renaming
import Memberwise.Proofs.World.Frame
import Mathlib.Data.List.Perm.Subperm

/-! # Stores at other places

Two runs of one operation make their new objects at different places.  Stores correspond if the
objects that take part hold what their counterparts hold, all the way down; then the values that
they hold are the same up to places, however much else is in either store.
-/

namespace Memberwise

/-! ## Slots and cells -/

namespace Slot

def rename (ρ : Place → Place) : Slot → Slot
  | .atom a => .atom a
  | .ref p => .ref (ρ p)

/-- Whether what a slot holds is at a place of a kind, if it is an object. -/
def Within (C : Place → Prop) (slot : Slot) : Prop := ∀ p, slot = .ref p → C p

variable {ρ : Place → Place} {C : Place → Prop}

theorem within_atom (a : Atom) : Within C (.atom a) := nofun

theorem within_ref {p : Place} : Within C (.ref p) ↔ C p := by
  constructor
  · intro h
    exact h p rfl
  · intro h q hq
    cases hq
    exact h

@[simp]
theorem isNone_rename (slot : Slot) : (slot.rename ρ).isNone = slot.isNone := by
  cases slot <;> rfl

theorem rename_id (slot : Slot) : slot.rename id = slot := by
  cases slot <;> rfl

end Slot

namespace Cell

/-- What a cell holds. -/
def slots : Cell → List Slot
  | .seq _ items => items
  | .dict entries => entries.map (·.1) ++ entries.map (·.2)
  | .object _ _ attributes => attributes.map (·.2)

def rename (ρ : Place → Place) : Cell → Cell
  | .seq kind items => .seq kind (items.map (Slot.rename ρ))
  | .dict entries => .dict (entries.map fun entry => (entry.1.rename ρ, entry.2.rename ρ))
  | .object name core attributes =>
    .object name core (attributes.map fun entry => (entry.1, entry.2.rename ρ))

variable {ρ : Place → Place} {C : Place → Prop}

@[simp]
theorem classOf_rename (cell : Cell) : (cell.rename ρ).classOf = cell.classOf := by
  cases cell <;> rfl

@[simp]
theorem hollow_rename (cell : Cell) : (cell.rename ρ).hollow = cell.hollow := by
  cases cell <;> rfl

theorem rename_hollow (cell : Cell) : cell.hollow.rename ρ = cell.hollow := by
  cases cell <;> rfl

theorem rename_id (cell : Cell) : cell.rename id = cell := by
  have hslot : Slot.rename id = id := funext Slot.rename_id
  cases cell <;> simp [rename, hslot]

theorem slots_hollow (cell : Cell) : cell.hollow.slots = [] := by
  cases cell <;> rfl

/-- A cell as it is seen from inside or from outside. -/
def seen (inside : Bool) (cell : Cell) : Cell := if inside then cell.hollow else cell

theorem seen_rename (inside : Bool) (cell : Cell) :
    (cell.rename ρ).seen inside = (cell.seen inside).rename ρ := by
  cases inside with
  | true => exact (hollow_rename cell).trans (rename_hollow cell).symm
  | false => rfl

theorem mem_slots_of_seen {inside : Bool} {cell : Cell} {slot : Slot}
    (h : slot ∈ (cell.seen inside).slots) : inside = false ∧ slot ∈ cell.slots := by
  cases inside with
  | true =>
      rw [seen, if_pos rfl, slots_hollow] at h
      cases h
  | false => exact ⟨rfl, h⟩

theorem mem_slots_dict {entries : List (Slot × Slot)} {entry : Slot × Slot} (h : entry ∈ entries) :
    entry.1 ∈ (Cell.dict entries).slots ∧ entry.2 ∈ (Cell.dict entries).slots :=
  ⟨List.mem_append_left _ (List.mem_map_of_mem h), List.mem_append_right _ (List.mem_map_of_mem h)⟩

theorem forall_slots_dict {P : Slot → Prop} {entries : List (Slot × Slot)}
    (h : ∀ entry ∈ entries, P entry.1 ∧ P entry.2) : ∀ slot ∈ (Cell.dict entries).slots, P slot := by
  intro slot hslot
  rcases List.mem_append.mp hslot with hslot | hslot
  · obtain ⟨entry, hentry, rfl⟩ := List.mem_map.mp hslot
    exact (h entry hentry).1
  · obtain ⟨entry, hentry, rfl⟩ := List.mem_map.mp hslot
    exact (h entry hentry).2

/-- What a cell holds depends on the values of its own parts only. -/
theorem valueAt_congr {cell : Cell} {p : Place} {part part' : Slot → Value}
    (h : ∀ slot ∈ cell.slots, part' slot = part slot) :
    cell.valueAt p part' = cell.valueAt p part := by
  cases cell with
  | seq kind items => exact congrArg _ (List.map_congr_left h)
  | dict entries =>
      refine congrArg _ (List.map_congr_left ?_)
      intro entry hentry
      exact Prod.ext (h _ (mem_slots_dict hentry).1) (h _ (mem_slots_dict hentry).2)
  | object name core attributes =>
      refine congrArg _ (List.map_congr_left ?_)
      intro entry hentry
      exact Prod.ext rfl (h _ (List.mem_map_of_mem hentry))

/-- The value of a renamed cell is the renamed value, if those of its parts are. -/
theorem valueAt_rename {cell : Cell} {p : Place} {part part' : Slot → Value}
    (h : ∀ slot ∈ cell.slots, part' (slot.rename ρ) = (part slot).rename ρ) :
    (cell.rename ρ).valueAt (ρ p) part' = (cell.valueAt p part).rename ρ := by
  cases cell with
  | seq kind items =>
      simp only [rename, valueAt, Value.rename_seq, Option.map_some, List.map_map]
      congr 1
      exact List.map_congr_left h
  | dict entries =>
      simp only [rename, valueAt, Value.rename_dict, Option.map_some, List.map_map]
      congr 1
      apply List.map_congr_left
      intro entry hentry
      exact Prod.ext (h _ (mem_slots_dict hentry).1) (h _ (mem_slots_dict hentry).2)
  | object name core attributes =>
      simp only [rename, valueAt, Value.rename_object, Option.map_some, List.map_map]
      congr 1
      apply List.map_congr_left
      intro entry hentry
      exact Prod.ext rfl (h _ (List.mem_map_of_mem hentry))

theorem within_valueAt {cell : Cell} {p : Place} {part : Slot → Value} (hp : C p)
    (h : ∀ slot ∈ cell.slots, (part slot).Within C) : (cell.valueAt p part).Within C := by
  have hplace : ∀ q, some p = some q → C q := by
    intro q hq
    cases hq
    exact hp
  cases cell with
  | seq kind items => exact Value.within_seq.mpr ⟨hplace, List.forall_mem_map.mpr h⟩
  | dict entries =>
      refine Value.within_dict.mpr ⟨hplace, List.forall_mem_map.mpr fun entry hentry => ?_⟩
      exact ⟨h _ (mem_slots_dict hentry).1, h _ (mem_slots_dict hentry).2⟩
  | object name core attributes =>
      refine Value.within_object.mpr ⟨hplace, List.forall_mem_map.mpr fun entry hentry => ?_⟩
      exact h _ (List.mem_map_of_mem hentry)

end Cell

/-! ## Reaching -/

/-- Whether a place is reached from a slot, through objects that hold one another. -/
inductive Store.Reaches (s : Store) : Slot → Place → Prop
  | self (p : Place) : s.Reaches (.ref p) p
  | part {p q : Place} {cell : Cell} {slot : Slot} (found : s.get? p = some cell)
      (holds : slot ∈ cell.slots) (further : s.Reaches slot q) : s.Reaches (.ref p) q

theorem Store.Reaches.trans {s : Store} {slot part : Slot} {p q : Place} {cell : Cell}
    (h : s.Reaches slot p) (found : s.get? p = some cell) (holds : part ∈ cell.slots)
    (further : s.Reaches part q) : s.Reaches slot q := by
  induction h with
  | self p => exact .part found holds further
  | part hfound hholds _ ih => exact .part hfound hholds (ih found)

namespace Store

variable {s : Store}

/-! ## Enough depth -/

/-- A path without repetition that is as long as the store goes through every place. -/
theorem mem_of_size_le {path : List Place} (hnodup : path.Nodup) (hpath : ∀ p ∈ path, p < s.size)
    (hlength : s.size ≤ path.length) {p : Place} (hp : p < s.size) : p ∈ path := by
  by_contra hmem
  have hrange : p :: path ⊆ List.range s.size := by
    intro q hq
    rcases List.mem_cons.mp hq with rfl | hq
    · exact List.mem_range.mpr hp
    · exact List.mem_range.mpr (hpath q hq)
  have hle := (List.subperm_of_subset (List.nodup_cons.mpr ⟨hmem, hnodup⟩) hrange).length_le
  rw [List.length_range, List.length_cons] at hle
  omega

theorem lt_of_get? {p : Place} {cell : Cell} (h : s.get? p = some cell) : p < s.size :=
  (Array.getElem?_eq_some_iff.mp h).choose

theorem loadWithin_ref (depth : Nat) (path : List Place) (p : Place) :
    s.loadWithin (depth + 1) path (.ref p) =
      ((s.get? p).map fun cell => (cell.seen (path.contains p)).valueAt p fun slot =>
        s.loadWithin depth (p :: path) slot).getD .none := rfl

/-- More depth than there are places left changes nothing. -/
theorem loadWithin_succ {depth : Nat} {path : List Place} (hnodup : path.Nodup)
    (hpath : ∀ p ∈ path, p < s.size) (hdepth : s.size ≤ depth + path.length) (slot : Slot) :
    s.loadWithin (depth + 1) path slot = s.loadWithin depth path slot := by
  induction depth generalizing path slot with
  | zero =>
      cases slot with
      | atom a => rfl
      | ref p =>
          simp only [loadWithin]
          cases hcell : s.get? p with
          | none => rfl
          | some cell =>
              have hmem : p ∈ path :=
                mem_of_size_le hnodup hpath (by omega) (lt_of_get? hcell)
              simp only [List.contains_iff_mem.mpr hmem, if_true, Option.map_some, Option.getD_some]
              apply Cell.valueAt_congr
              rw [Cell.slots_hollow]
              exact fun _ hslot => nomatch hslot
  | succ depth ih =>
      cases slot with
      | atom a => rfl
      | ref p =>
          rw [loadWithin_ref, loadWithin_ref]
          cases hcell : s.get? p with
          | none => rfl
          | some cell =>
              simp only [Option.map_some, Option.getD_some]
              apply Cell.valueAt_congr
              intro part hpart
              have hfresh : p ∉ path := by simpa using (Cell.mem_slots_of_seen hpart).1
              have hfurther : s.size ≤ depth + (p :: path).length := by
                rw [List.length_cons]
                omega
              exact ih (List.nodup_cons.mpr ⟨hfresh, hnodup⟩)
                (List.forall_mem_cons.mpr ⟨lt_of_get? hcell, hpath⟩) hfurther part

/-- A value can be read with any depth that is at least the size of the store. -/
theorem loadWithin_eq_load {depth : Nat} (h : s.size ≤ depth) (slot : Slot) :
    s.loadWithin depth [] slot = s.load slot := by
  obtain ⟨further, rfl⟩ := Nat.exists_eq_add_of_le h
  clear h
  induction further with
  | zero => rfl
  | succ further ih =>
      have hdepth : s.size ≤ s.size + further + ([] : List Place).length := by
        rw [List.length_nil]
        omega
      rw [← ih]
      exact loadWithin_succ List.nodup_nil (fun _ hp => nomatch hp) hdepth slot

end Store

/-! ## Stores that correspond -/

/-- The counterparts of objects in another store, for the objects that take part in a run, and the
classes whose fields have the same types on both sides. -/
structure Correspondence where
  place : Place → Place
  covers : Place → Prop
  settled : String → Prop
  injective : place.Injective

/-- Whether a slot holds the counterpart of what another slot holds. -/
def Correspondence.Pairs (r : Correspondence) (v v' : Slot) : Prop :=
  v.Within r.covers ∧ v' = v.rename r.place

namespace Store

variable {r : Correspondence} {s s' : Store}

/-- Whether the objects that take part hold what their counterparts in another store hold.  New
objects correspond to each other in the order in which they are made. -/
structure Similar (r : Correspondence) (s s' : Store) : Prop where
  fresh : ∀ i, r.place (s.size + i) = s'.size + i
  covers : ∀ i, r.covers (s.size + i)
  cells : ∀ p, r.covers p → s'.get? (r.place p) = (s.get? p).map (Cell.rename r.place)
  closed : ∀ p cell, r.covers p → s.get? p = some cell → ∀ slot ∈ cell.slots, slot.Within r.covers

/-- Where the parts of objects of a kind are of the kind, so are the values of such objects. -/
theorem loadWithin_within {C : Place → Prop}
    (h : ∀ p cell, C p → s.get? p = some cell → ∀ slot ∈ cell.slots, slot.Within C) (depth : Nat)
    (path : List Place) {slot : Slot} (hslot : slot.Within C) :
    (s.loadWithin depth path slot).Within C := by
  induction depth generalizing path slot with
  | zero =>
      cases slot with
      | atom a => exact Value.within_atom a
      | ref p =>
          rw [loadWithin]
          cases s.get? p with
          | none => exact Value.within_atom _
          | some cell =>
              apply Cell.within_valueAt (Slot.within_ref.mp hslot)
              exact fun _ _ => Value.within_atom _
  | succ depth ih =>
      cases slot with
      | atom a => exact Value.within_atom a
      | ref p =>
          have hp : C p := Slot.within_ref.mp hslot
          rw [loadWithin_ref]
          cases hcell : s.get? p with
          | none => exact Value.within_atom _
          | some cell =>
              apply Cell.within_valueAt hp
              intro part hpart
              exact ih (p :: path) (h p cell hp hcell part (Cell.mem_slots_of_seen hpart).2)

/-- Where objects hold what their counterparts hold, the values of counterparts are the same up to
places. -/
theorem loadWithin_rename
    (hcells : ∀ p, r.covers p → s'.get? (r.place p) = (s.get? p).map (Cell.rename r.place))
    (hclosed : ∀ p cell, r.covers p → s.get? p = some cell →
      ∀ slot ∈ cell.slots, slot.Within r.covers)
    (depth : Nat) (path : List Place) {slot : Slot} (hslot : slot.Within r.covers) :
    s'.loadWithin depth (path.map r.place) (slot.rename r.place) =
      (s.loadWithin depth path slot).rename r.place := by
  induction depth generalizing path slot with
  | zero =>
      cases slot with
      | atom a => rfl
      | ref p =>
          simp only [Slot.rename, loadWithin]
          rw [hcells p (Slot.within_ref.mp hslot)]
          cases s.get? p with
          | none => rfl
          | some cell => cases cell <;> rfl
  | succ depth ih =>
      cases slot with
      | atom a => rfl
      | ref p =>
          have hp : r.covers p := Slot.within_ref.mp hslot
          have hcontains : (path.map r.place).contains (r.place p) = path.contains p := by
            rw [Bool.eq_iff_iff, List.contains_iff_mem, List.contains_iff_mem]
            exact List.mem_map_of_injective r.injective
          rw [Slot.rename, loadWithin_ref, loadWithin_ref, hcells p hp, hcontains]
          cases hcell : s.get? p with
          | none => rfl
          | some cell =>
              simp only [Option.map_some, Option.getD_some, Cell.seen_rename]
              apply Cell.valueAt_rename
              intro part hpart
              exact ih (p :: path) (hclosed p cell hp hcell part (Cell.mem_slots_of_seen hpart).2)

/-- What a slot holds is the same up to places in stores that correspond. -/
theorem Similar.load (h : Similar r s s') {slot : Slot}
    (hslot : slot.Within r.covers) : s'.load (slot.rename r.place) = (s.load slot).rename r.place := by
  rw [← loadWithin_eq_load (Nat.le_max_left s.size s'.size),
    ← loadWithin_eq_load (Nat.le_max_right s.size s'.size)]
  exact loadWithin_rename h.cells h.closed _ [] hslot

/-- What a slot holds depends on the objects that are reached from it only. -/
theorem load_congr {slot : Slot} (h : ∀ p, s.Reaches slot p → s'.get? p = s.get? p) :
    s'.load slot = s.load slot := by
  let r : Correspondence := ⟨id, s.Reaches slot, fun _ => True, Function.injective_id⟩
  have hself : slot.Within r.covers := by
    rintro p rfl
    exact .self p
  have hcells : ∀ p, r.covers p → s'.get? (r.place p) = (s.get? p).map (Cell.rename r.place) := by
    intro p hp
    have hsame : Cell.rename id = id := funext Cell.rename_id
    show s'.get? p = (s.get? p).map (Cell.rename id)
    rw [hsame, Option.map_id, h p hp]
    rfl
  have hclosed : ∀ p cell, r.covers p → s.get? p = some cell →
      ∀ slot ∈ cell.slots, slot.Within r.covers := by
    rintro p cell hp hcell part hpart q rfl
    exact Reaches.trans hp hcell hpart (.self q)
  have hload := loadWithin_rename hcells hclosed (max s.size s'.size) [] hself
  rw [Value.rename_id, Slot.rename_id] at hload
  rw [← loadWithin_eq_load (Nat.le_max_left s.size s'.size),
    ← loadWithin_eq_load (Nat.le_max_right s.size s'.size)]
  exact hload

theorem Similar.load_within (h : Similar r s s') {slot : Slot} (hslot : slot.Within r.covers) :
    (s.load slot).Within r.covers := loadWithin_within h.closed _ [] hslot

/-! ## New objects -/

theorem get?_alloc (s : Store) (c : Cell) (p : Place) :
    (s.alloc c).1.get? p = if p = s.size then some c else s.get? p := Array.getElem?_push

theorem isSome_get? (s : Store) (p : Place) : (s.get? p).isSome = decide (p < s.size) := by
  unfold get? size
  grind

theorem get?_eq_none {p : Place} (h : s.size ≤ p) : s.get? p = none :=
  Array.getElem?_eq_none h

/-- Objects that are made in both stores correspond if what they hold does. -/
theorem Similar.alloc (h : Similar r s s') {cell : Cell}
    (hcell : ∀ slot ∈ cell.slots, slot.Within r.covers) :
    Similar r (s.alloc cell).1 (s'.alloc (cell.rename r.place)).1 where
  fresh i := by
    have hfresh := h.fresh (1 + i)
    rw [size_alloc, size_alloc]
    rwa [← Nat.add_assoc, ← Nat.add_assoc] at hfresh
  covers i := by
    have hcovers := h.covers (1 + i)
    rw [size_alloc]
    rwa [← Nat.add_assoc] at hcovers
  cells p hp := by
    have hplace : r.place s.size = s'.size := h.fresh 0
    rw [get?_alloc, get?_alloc, ← hplace]
    by_cases hnew : p = s.size
    · rw [if_pos hnew, if_pos (congrArg r.place hnew)]
      rfl
    · rw [if_neg hnew, if_neg fun heq => hnew (r.injective heq)]
      exact h.cells p hp
  closed p found hp hfound := by
    rw [get?_alloc] at hfound
    split at hfound
    · cases hfound
      exact hcell
    · exact h.closed p found hp hfound

/-- An object may be changed along with its counterpart, and in any way if it takes no part. -/
theorem Similar.set (h : Similar r s s') {p : Place} {cell cell' : Cell}
    (hcell : r.covers p → cell' = cell.rename r.place ∧ ∀ slot ∈ cell.slots, slot.Within r.covers) :
    Similar r (s.set p cell) (s'.set (r.place p) cell') where
  fresh i := by
    rw [size_set, size_set]
    exact h.fresh i
  covers i := by
    rw [size_set]
    exact h.covers i
  cells q hq := by
    by_cases hqp : q = p
    · subst hqp
      have hsize : r.place q < s'.size ↔ q < s.size := by
        have hcells := congrArg Option.isSome (h.cells q hq)
        rw [Option.isSome_map, isSome_get?, isSome_get?] at hcells
        exact decide_eq_decide.mp hcells
      by_cases hbound : q < s.size
      · rw [get?_set_self hbound, get?_set_self (hsize.mpr hbound), (hcell hq).1]
        rfl
      · have hnone : (s.set q cell).get? q = none := by
          apply get?_eq_none
          rw [size_set]
          exact Nat.le_of_not_lt hbound
        have hnone' : (s'.set (r.place q) cell').get? (r.place q) = none := by
          apply get?_eq_none
          rw [size_set]
          exact Nat.le_of_not_lt fun hlt => hbound (hsize.mp hlt)
        rw [hnone, hnone']
        rfl
    · rw [get?_set_of_ne hqp, get?_set_of_ne fun heq => hqp (r.injective heq)]
      exact h.cells q hq
  closed q found hq hfound := by
    by_cases hqp : q = p
    · subst hqp
      have hbound : q < s.size := by
        rw [← size_set s q cell]
        exact lt_of_get? hfound
      rw [get?_set_self hbound] at hfound
      cases hfound
      exact (hcell hq).2
    · rw [get?_set_of_ne hqp] at hfound
      exact h.closed q found hq hfound

/-! ## Values that are put into stores -/

/-- Whether stores with a result correspond, and their results do. -/
structure Both {α β : Type} (r : Correspondence) (R : α → β → Prop) (a : Store × α)
    (b : Store × β) : Prop where
  store : Similar r a.1 b.1
  result : R a.2 b.2

theorem Similar.alloc_both (h : Similar r s s') {cell : Cell}
    (hcell : ∀ slot ∈ cell.slots, slot.Within r.covers) :
    Both r (fun p q => r.Pairs (.ref p) (.ref q)) (s.alloc cell) (s'.alloc (cell.rename r.place)) :=
  ⟨h.alloc hcell, Slot.within_ref.mpr (h.covers 0), congrArg Slot.ref (h.fresh 0).symm⟩

theorem pairs_of_place {v : Value} {p : Place} (hv : v.Within r.covers) (hp : p ∈ v.places) :
    r.Pairs (.ref p) (.ref (r.place p)) := ⟨Slot.within_ref.mpr (hv p hp), rfl⟩

mutual

/-- A value that is put into stores that correspond makes objects that correspond. -/
theorem Similar.intern {s s' : Store} (h : Similar r s s') : (v : Value) → v.Within r.covers →
    Both r r.Pairs (s.intern v) (s'.intern (v.rename r.place))
  | .atom a, _ => ⟨h, Slot.within_atom a, rfl⟩
  | .seq (some _) _ _, hv | .dict (some _) _, hv | .object (some _) _ _ _, hv =>
    ⟨h, pairs_of_place hv List.mem_cons_self⟩
  | .seq none kind items, hv => by
    have hitems := h.internAll items fun p hp => hv p hp
    have hcell : ∀ slot ∈ (Cell.seq kind (s.internAll items).2).slots, slot.Within r.covers :=
      hitems.result.1
    have hnew := hitems.store.alloc_both hcell
    simp only [Cell.rename, ← hitems.result.2] at hnew
    exact ⟨hnew.store, hnew.result⟩
  | .dict none entries, hv => by
    have hentries := h.internEntries entries fun p hp => hv p hp
    have hnew := hentries.store.alloc_both (Cell.forall_slots_dict hentries.result.1)
    simp only [Cell.rename, ← hentries.result.2] at hnew
    exact ⟨hnew.store, hnew.result⟩
  | .object none name core attributes, hv => by
    have hattributes := h.internAttributes attributes fun p hp => hv p hp
    have hcell : ∀ slot ∈ (Cell.object name core (s.internAttributes attributes).2).slots,
        slot.Within r.covers := List.forall_mem_map.mpr hattributes.result.1
    have hnew := hattributes.store.alloc_both hcell
    simp only [Cell.rename, ← hattributes.result.2] at hnew
    exact ⟨hnew.store, hnew.result⟩

theorem Similar.internAll {s s' : Store} (h : Similar r s s') : (l : List Value) →
    (∀ p ∈ Value.placesAll l, r.covers p) →
    Both r (fun slots slots' => (∀ slot ∈ slots, slot.Within r.covers) ∧
      slots' = slots.map (Slot.rename r.place))
      (s.internAll l) (s'.internAll (Value.renameAll r.place l))
  | [], _ => ⟨h, fun _ hslot => (nomatch hslot), rfl⟩
  | v :: rest, hl => by
    have hfirst := h.intern v fun p hp => hl p (List.mem_append_left _ hp)
    have hrest := hfirst.store.internAll rest fun p hp => hl p (List.mem_append_right _ hp)
    exact ⟨hrest.store, List.forall_mem_cons.mpr ⟨hfirst.result.1, hrest.result.1⟩,
      congrArg₂ _ hfirst.result.2 hrest.result.2⟩

theorem Similar.internEntries {s s' : Store} (h : Similar r s s') : (l : List (Value × Value)) →
    (∀ p ∈ Value.placesEntries l, r.covers p) →
    Both r (fun slots slots' =>
      (∀ entry ∈ slots, entry.1.Within r.covers ∧ entry.2.Within r.covers) ∧
        slots' = slots.map fun entry => (entry.1.rename r.place, entry.2.rename r.place))
      (s.internEntries l) (s'.internEntries (Value.renameEntries r.place l))
  | [], _ => ⟨h, fun _ hslot => (nomatch hslot), rfl⟩
  | (k, v) :: rest, hl => by
    have hkey := h.intern k fun p hp => hl p (List.mem_append_left _ (List.mem_append_left _ hp))
    have hvalue := hkey.store.intern v fun p hp =>
      hl p (List.mem_append_left _ (List.mem_append_right _ hp))
    have hrest := hvalue.store.internEntries rest fun p hp => hl p (List.mem_append_right _ hp)
    exact ⟨hrest.store,
      List.forall_mem_cons.mpr ⟨⟨hkey.result.1, hvalue.result.1⟩, hrest.result.1⟩,
      congrArg₂ _ (Prod.ext hkey.result.2 hvalue.result.2) hrest.result.2⟩

theorem Similar.internAttributes {s s' : Store} (h : Similar r s s') : (l : List (String × Value)) →
    (∀ p ∈ Value.placesAttributes l, r.covers p) →
    Both r (fun slots slots' => (∀ entry ∈ slots, entry.2.Within r.covers) ∧
        slots' = slots.map fun entry => (entry.1, entry.2.rename r.place))
      (s.internAttributes l) (s'.internAttributes (Value.renameAttributes r.place l))
  | [], _ => ⟨h, fun _ hslot => (nomatch hslot), rfl⟩
  | (name, v) :: rest, hl => by
    have hfirst := h.intern v fun p hp => hl p (List.mem_append_left _ hp)
    have hrest := hfirst.store.internAttributes rest fun p hp => hl p (List.mem_append_right _ hp)
    exact ⟨hrest.store, List.forall_mem_cons.mpr ⟨hfirst.result.1, hrest.result.1⟩,
      congrArg₂ _ (Prod.ext rfl hfirst.result.2) hrest.result.2⟩

end

end Store

end Memberwise
