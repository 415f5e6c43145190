import Memberwise.Proofs.Parallel.Attribute
import Memberwise.Proofs.World.Instances

/-! # Whole worlds

Everything that objects hold and that classes keep is there.  What is made of things that are
there is there as well, and leaves the world whole: nothing ever refers to a place that has no
object.
-/

namespace Memberwise

variable {α : Type}

/-! ## Values at places that are there -/

namespace Store

variable {s : Store} {C : Place → Prop}

/-- Whether what objects hold is there. -/
def IsWhole (s : Store) : Prop :=
  ∀ p cell, s.get? p = some cell → ∀ slot ∈ cell.slots, slot.Within (· < s.size)

/-- What grows out of a whole store, with something that is there in the end. -/
structure Yields (there : Store → α → Prop) (s : Store) (a : Store × α) : Prop where
  whole : a.1.IsWhole
  size : s.size ≤ a.1.size
  there : there a.1 a.2

def Has (s : Store) (slot : Slot) : Prop := slot.Within (· < s.size)

theorem Has.mono {s' : Store} {slot : Slot} (h : s.Has slot) (hsize : s.size ≤ s'.size) :
    s'.Has slot := fun p hp => Nat.lt_of_lt_of_le (h p hp) hsize

theorem yields_alloc (h : s.IsWhole) (cell : Cell) (hcell : ∀ slot ∈ cell.slots, s.Has slot) :
    Yields (fun s p => p < s.size) s (s.alloc cell) := by
  have hsize := size_alloc s cell
  have hle : s.size ≤ (s.alloc cell).1.size := by omega
  refine ⟨fun p found hfound slot hslot => ?_, hle, ?_⟩
  · rw [get?_alloc] at hfound
    split at hfound
    · cases hfound
      exact Has.mono (hcell slot hslot) hle
    · exact Has.mono (h p found hfound slot hslot) hle
  · show s.size < _
    omega

mutual

/-- A value whose objects are there is put into a store that stays whole. -/
theorem yields_intern {s : Store} (h : s.IsWhole) : (v : Value) → v.Within (· < s.size) →
    Yields Has s (s.intern v)
  | .atom a, _ => ⟨h, Nat.le_refl _, Slot.within_atom a⟩
  | .seq (some _) _ _, hv | .dict (some _) _, hv | .object (some _) _ _ _, hv =>
    ⟨h, Nat.le_refl _, Slot.within_ref.mpr (hv _ List.mem_cons_self)⟩
  | .seq none kind items, hv => by
    have hitems := yields_internAll h items fun p hp => hv p hp
    have hnew := yields_alloc hitems.whole (.seq kind (s.internAll items).2) hitems.there
    exact ⟨hnew.whole, Nat.le_trans hitems.size hnew.size, Slot.within_ref.mpr hnew.there⟩
  | .dict none entries, hv => by
    have hentries := yields_internEntries h entries fun p hp => hv p hp
    have hnew := yields_alloc hentries.whole (.dict (s.internEntries entries).2)
      (Cell.forall_slots_dict hentries.there)
    exact ⟨hnew.whole, Nat.le_trans hentries.size hnew.size, Slot.within_ref.mpr hnew.there⟩
  | .object none name core attributes, hv => by
    have hattributes := yields_internAttributes h attributes fun p hp => hv p hp
    have hnew := yields_alloc hattributes.whole (.object name core (s.internAttributes attributes).2)
      (List.forall_mem_map.mpr hattributes.there)
    exact ⟨hnew.whole, Nat.le_trans hattributes.size hnew.size, Slot.within_ref.mpr hnew.there⟩

theorem yields_internAll {s : Store} (h : s.IsWhole) : (l : List Value) →
    (∀ p ∈ Value.placesAll l, p < s.size) →
    Yields (fun s slots => ∀ slot ∈ slots, s.Has slot) s (s.internAll l)
  | [], _ => ⟨h, Nat.le_refl _, List.forall_mem_nil _⟩
  | v :: rest, hl => by
    have hfirst := yields_intern h v fun p hp => hl p (List.mem_append_left _ hp)
    have hrest := yields_internAll hfirst.whole rest fun p hp =>
      Nat.lt_of_lt_of_le (hl p (List.mem_append_right _ hp)) hfirst.size
    exact ⟨hrest.whole, Nat.le_trans hfirst.size hrest.size,
      List.forall_mem_cons.mpr ⟨hfirst.there.mono hrest.size, hrest.there⟩⟩

theorem yields_internEntries {s : Store} (h : s.IsWhole) : (l : List (Value × Value)) →
    (∀ p ∈ Value.placesEntries l, p < s.size) →
    Yields (fun s slots => ∀ entry ∈ slots, s.Has entry.1 ∧ s.Has entry.2) s (s.internEntries l)
  | [], _ => ⟨h, Nat.le_refl _, List.forall_mem_nil _⟩
  | (k, v) :: rest, hl => by
    have hkey := yields_intern h k fun p hp =>
      hl p (List.mem_append_left _ (List.mem_append_left _ hp))
    have hvalue := yields_intern hkey.whole v fun p hp =>
      Nat.lt_of_lt_of_le (hl p (List.mem_append_left _ (List.mem_append_right _ hp))) hkey.size
    have hboth := Nat.le_trans hkey.size hvalue.size
    have hrest := yields_internEntries hvalue.whole rest fun p hp =>
      Nat.lt_of_lt_of_le (hl p (List.mem_append_right _ hp)) hboth
    refine ⟨hrest.whole, Nat.le_trans hboth hrest.size, List.forall_mem_cons.mpr ⟨⟨?_, ?_⟩, hrest.there⟩⟩
    · exact hkey.there.mono (Nat.le_trans hvalue.size hrest.size)
    · exact hvalue.there.mono hrest.size

theorem yields_internAttributes {s : Store} (h : s.IsWhole) : (l : List (String × Value)) →
    (∀ p ∈ Value.placesAttributes l, p < s.size) →
    Yields (fun s slots => ∀ entry ∈ slots, s.Has entry.2) s (s.internAttributes l)
  | [], _ => ⟨h, Nat.le_refl _, List.forall_mem_nil _⟩
  | (_, v) :: rest, hl => by
    have hfirst := yields_intern h v fun p hp => hl p (List.mem_append_left _ hp)
    have hrest := yields_internAttributes hfirst.whole rest fun p hp =>
      Nat.lt_of_lt_of_le (hl p (List.mem_append_right _ hp)) hfirst.size
    exact ⟨hrest.whole, Nat.le_trans hfirst.size hrest.size,
      List.forall_mem_cons.mpr ⟨hfirst.there.mono hrest.size, hrest.there⟩⟩

end

end Store

/-! ## Whole worlds -/

namespace World

/-- Whether everything that objects hold and that classes keep is there. -/
structure IsWhole (w : World) : Prop where
  parts : ∀ p cell, w.store.get? p = some cell → ∀ slot ∈ cell.slots, w.Has slot
  constants : ∀ key slot, w.constants.lookup key = some slot → w.Has slot

variable {w w' w'' : World} {slot v : Slot} {p q : Place}

theorem IsWhole.lt_of_reaches (h : w.IsWhole) (hslot : w.Has slot)
    (hreaches : w.store.Reaches slot p) : p < w.store.size := by
  induction hreaches with
  | self p => exact has_ref.mp hslot
  | part hfound hholds _ ih => exact ih (h.parts _ _ hfound _ hholds)

/-- Whether a whole world has the places of a world that it has come of. -/
structure Sound (w w' : World) : Prop where
  whole : w'.IsWhole
  size : w.store.size ≤ w'.store.size

/-- Whether a world is sound with something that is there in it. -/
structure Yields (there : World → α → Prop) (w : World) (a : World × α) : Prop where
  sound : Sound w a.1
  there : there a.1 a.2

def HasAll (w : World) (slots : List Slot) : Prop := ∀ slot ∈ slots, w.Has slot

def HasNamed (w : World) (named : List (String × Slot)) : Prop := ∀ entry ∈ named, w.Has entry.2

theorem Sound.refl (h : w.IsWhole) : Sound w w := ⟨h, Nat.le_refl _⟩

theorem Sound.trans (h : Sound w w') (h' : Sound w' w'') : Sound w w'' :=
  ⟨h'.whole, Nat.le_trans h.size h'.size⟩

theorem Sound.has (h : Sound w w') (hslot : w.Has slot) : w'.Has slot :=
  fun q hq => Nat.lt_of_lt_of_le (hslot q hq) h.size

theorem Sound.hasAll (h : Sound w w') {slots : List Slot} (hslots : w.HasAll slots) :
    w'.HasAll slots := fun slot hslot => h.has (hslots slot hslot)

theorem Sound.hasNamed (h : Sound w w') {named : List (String × Slot)} (hnamed : w.HasNamed named) :
    w'.HasNamed named := fun entry hentry => h.has (hnamed entry hentry)

theorem Yields.of_sound {there : World → α → Prop} {a : World × α} (h : Sound w w')
    (ha : Yields there w' a) : Yields there w a := ⟨h.trans ha.sound, ha.there⟩

theorem Sound.of_store (h : w.IsWhole) {s : Store} (hs : s.IsWhole) (hsize : w.store.size ≤ s.size) :
    Sound w { w with store := s } :=
  ⟨⟨hs, fun key slot hkept q hq => Nat.lt_of_lt_of_le (h.constants key slot hkept q hq) hsize⟩, hsize⟩

/-! ## Making objects -/

theorem yields_alloc (h : w.IsWhole) (cell : Cell) (hcell : w.HasAll cell.slots) :
    Yields Has w (w.alloc cell) := by
  have hnew := Store.yields_alloc h.parts cell hcell
  exact ⟨.of_store h hnew.whole hnew.size, has_ref.mpr hnew.there⟩

theorem yields_intern (h : w.IsWhole) {u : Value} (hu : u.Within (· < w.store.size)) :
    Yields Has w (w.intern u) := by
  have hnew := Store.yields_intern h.parts u hu
  exact ⟨.of_store h hnew.whole hnew.size, hnew.there⟩

theorem yields_placeless (h : w.IsWhole) {u : Value} (hu : ∀ ρ : Place → Place, u.rename ρ = u) :
    Yields Has w (w.intern u) := yields_intern h (Value.within_of_placeless hu)

theorem sound_set (h : w.IsWhole) {cell : Cell} (hcell : w.HasAll cell.slots) :
    Sound w (w.set p cell) := by
  have hsize := Store.size_set w.store p cell
  refine .of_store h (fun q found hfound slot hslot => ?_) (by omega)
  rw [hsize]
  by_cases hq : q = p
  · subst hq
    have hlt := Store.lt_of_get? hfound
    rw [hsize] at hlt
    rw [Store.get?_set_self hlt] at hfound
    cases hfound
    exact hcell slot hslot
  · rw [Store.get?_set_of_ne hq] at hfound
    exact h.parts q found hfound slot hslot

theorem IsWhole.load_within (h : w.IsWhole) (hslot : w.Has slot) :
    (w.load slot).Within (· < w.store.size) :=
  Store.loadWithin_within (fun p cell _ => h.parts p cell) _ [] hslot

theorem IsWhole.constant (h : w.IsWhole) (key : ConstantKey) : w.Has (w.constant key) := by
  unfold World.constant
  cases hkept : w.constants.lookup key with
  | none => exact has_atom w _
  | some slot => exact h.constants key slot hkept

theorem HasNamed.lookup {named : List (String × Slot)} (h : w.HasNamed named) {name : String}
    (hfound : named.lookup name = some v) : w.Has v := h _ (mem_of_lookup hfound)

theorem IsWhole.attributes (h : w.IsWhole) {className : String} {core : Option Atom}
    {attributes : List (String × Slot)}
    (hcell : w.store.get? p = some (.object className core attributes)) : w.HasNamed attributes :=
  List.forall_mem_map.mp (h.parts p _ hcell)

/-! ## Reading -/

theorem yields_atomAttribute (h : w.IsWhole) {a : Atom} {name : String} {made : World × Slot}
    (hmade : w.atomAttribute a name = .ok made) : Yields Has w made := by
  unfold World.atomAttribute at hmade
  cases a with
  | member owner member =>
      dsimp only at hmade
      split at hmade
      · rename_i u hfound
        cases hmade
        apply yields_placeless h
        intro ρ
        split at hfound
        · cases hfound
          rfl
        · split at hfound <;> cases hfound
          exact Schema.rename_memberValue _ _
      · cases hmade
  | uuid n =>
      dsimp only at hmade
      split at hmade
      · rename_i u hfound
        cases hmade
        exact yields_placeless h (uuidAttribute?_placeless hfound)
      · cases hmade
  | _ => cases hmade

theorem yields_readAs (h : w.IsWhole) {further : String → Except Fault (World × Slot)}
    (hfurther : ∀ source made, further source = .ok made → Yields Has w made) {name : String}
    {found : Option (String × Binding)} {own : Option Slot} (hown : ∀ v, own = some v → w.Has v)
    {made : World × Slot} (hmade : w.readAs further name found own = .ok made) :
    Yields Has w made := by
  have hheld : ∀ v, own = some v → Yields Has w (w, v) := fun v hv => ⟨.refl h, hown v hv⟩
  unfold World.readAs at hmade
  split at hmade
  · cases hmade
  · split at hmade
    · exact hfurther _ _ hmade
    · cases hmade
      exact ⟨.refl h, h.constant _⟩
    · cases hmade
  · cases hmade
    exact hheld _ rfl
  · cases hmade
    exact ⟨.refl h, h.constant _⟩
  · cases hmade

theorem yields_getWithin (h : w.IsWhole) (hslot : w.Has slot) {fuel : Nat} {name : String}
    {made : World × Slot} (hmade : w.getWithin slot fuel name = .ok made) : Yields Has w made := by
  induction fuel generalizing name made with
  | zero => cases hmade
  | succ fuel ih =>
      cases slot with
      | atom a => exact yields_atomAttribute h hmade
      | ref p =>
          rw [getWithin_ref] at hmade
          split at hmade
          · rename_i className core attributes hcell
            exact yields_readAs h (fun _ _ => ih) (fun _ => (h.attributes hcell).lookup) hmade
          · cases hmade

theorem yields_getAttribute (h : w.IsWhole) (hslot : w.Has slot) {name : String}
    {made : World × Slot} (hmade : w.getAttribute slot name = .ok made) : Yields Has w made :=
  yields_getWithin h hslot hmade

/-! ## Storing -/

theorem hasNamed_putAttribute {attributes : List (String × Slot)} (h : w.HasNamed attributes)
    (name : String) (hv : w.Has v) : w.HasNamed (putAttribute attributes name v) := by
  intro entry hentry
  unfold putAttribute at hentry
  split at hentry
  · obtain ⟨old, hold, rfl⟩ := List.mem_map.mp hentry
    split
    · exact hv
    · exact h old hold
  · rcases List.mem_append.mp hentry with hold | hnew
    · exact h entry hold
    · rw [List.mem_singleton.mp hnew]
      exact hv

theorem sound_storeOn (h : w.IsWhole) (p : Place) (name : String) (hv : w.Has v) :
    Sound w (w.storeOn p name v) := by
  unfold storeOn
  split
  · rename_i className core attributes hcell
    exact sound_set h (List.forall_mem_map.mpr
      (hasNamed_putAttribute (h.attributes hcell) name hv))
  · exact .refl h

theorem yields_validated (h : w.IsWhole) (hv : w.Has v) {c : ClassRef} {name : String}
    {made : World × Slot} (hmade : w.validated c name v = .ok made) : Yields Has w made := by
  unfold validated at hmade
  split at hmade
  · split at hmade
    · cases hmade
      exact ⟨.refl h, hv⟩
    · dsimp only at hmade
      split at hmade
      · rename_i result hresult
        cases hmade
        obtain ⟨schema, -, hread⟩ := Option.bind_eq_some_iff.mp hresult
        exact yields_intern h (Schema.within_of_read? (h.load_within hv) hread)
      · cases hmade
  · cases hmade
    exact ⟨.refl h, hv⟩

theorem sound_storeAt_place (h : w.IsWhole) (hv : w.Has v) {direct : Bool} {fuel : Nat}
    {name : String} (hset : w.storeAt p direct v fuel name .place = .ok w') : Sound w w' := by
  rw [storeAt_place] at hset
  obtain ⟨made, hmade, rfl⟩ := map_eq_ok.mp hset
  have hvalue : Yields Has w made := by
    split at hmade
    · cases hmade
      exact ⟨.refl h, hv⟩
    · exact yields_validated h hv hmade
  exact hvalue.sound.trans (sound_storeOn hvalue.sound.whole p name hvalue.there)

theorem sound_setWithin (h : w.IsWhole) (hv : w.Has v) {direct : Bool} {fuel : Nat} {name : String}
    (hset : w.setWithin p direct v fuel name = .ok w') : Sound w w' := by
  induction fuel generalizing direct name with
  | zero => cases hset
  | succ fuel ih =>
      rw [setWithin_succ] at hset
      split at hset
      · split at hset
        · cases hset
        · obtain ⟨target, -, hset⟩ := bind_eq_ok.mp hset
          cases target with
          | place => exact sound_storeAt_place h hv hset
          | property setter =>
              cases setter with
              | none => cases hset
              | some setter =>
                  unfold storeAt at hset
                  dsimp only at hset
                  split at hset
                  · exact ih hset
                  · cases hset
      · cases hset

/-- A store of something that is there leaves a world whole. -/
theorem sound_setAttribute (h : w.IsWhole) (hv : w.Has v) {name : String}
    (hset : w.setAttribute slot name v = .ok w') : Sound w w' := by
  unfold setAttribute at hset
  split at hset
  · exact sound_setWithin h hv hset
  · split at hset
    · cases hset
    · cases hset
      exact .refl h
  · cases hset

theorem sound_setDirectly (h : w.IsWhole) (hv : w.Has v) {name : String}
    (hset : w.setDirectly slot name v = .ok w') : Sound w w' := by
  unfold setDirectly at hset
  split at hset
  · exact sound_setWithin h hv hset
  · cases hset

end World

end Memberwise
