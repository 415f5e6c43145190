import Memberwise.Proofs.Mapper.Copying
import Memberwise.Proofs.World.Apart
import Memberwise.Proofs.World.Interning

/-! # Collections that are filled

A new list gets all elements that are added to it.  A new set gets the first of those that are
equal, and keeps them apart in the end: nothing refers to the set while it is filled, so what is
equal when it is added stays so.
-/

namespace Memberwise

/-- The kinds of collections that copies are made of. -/
inductive CollectionKind where
  | list | set | tuple | frozenset
deriving DecidableEq

namespace CollectionKind

/-- Whether collections of a kind have no two equal elements. -/
def isSet : CollectionKind → Bool
  | list | tuple => false
  | set | frozenset => true

/-- What a finished collection of a kind is. -/
def finished : CollectionKind → SeqKind
  | list => .list
  | set => .set
  | tuple => .tuple
  | frozenset => .frozenset

/-- What grows until a collection of a kind is finished. -/
def growing (kind : CollectionKind) : SeqKind := if kind.isSet then .set else .list

def adding (kind : CollectionKind) : Adding := if kind.isSet then .add else .append

theorem adding?_growing (classes : Classes) (kind : CollectionKind) :
    classes.adding? kind.growing.classOf = some kind.adding := by
  unfold growing adding
  cases kind.isSet <;> rfl

end CollectionKind

namespace World

variable {w w' w₁ w₂ : World} {p q : Place} {e v : Slot} {elementType : TypeExpr}
  {held held' given : List Slot} {additions : List Addition} {fault : Fault}
  {kind : CollectionKind}

/-! ## Equal elements -/

/-- Whether a set has one slot in the place of another one: what they hold is hashable and
equal. -/
def Equal (w : World) (e v : Slot) : Prop :=
  ∃ key, w.classes.keyOf? (w.load v) = some key ∧
    (w.classes.keyOf? (w.load e)).any (sameKey key) = true

theorem equal_congr (hclasses : w'.classes = w.classes) (he : w'.load e = w.load e)
    (hv : w'.load v = w.load v) : w'.Equal e v ↔ w.Equal e v := by
  unfold Equal
  rw [hclasses, he, hv]

/-- Whether a collection of a kind has been filled: a list with all that is given, in order, and a
set with some of it, so that nothing is given that is not equal to an element, and no two elements
are equal. -/
structure IsFilled (w : World) (kind : CollectionKind) (given held : List Slot) : Prop where
  ordered : kind.isSet = false → held = given
  part : held.Sublist given
  whole : ∀ v ∈ given, v ∈ held ∨ ∃ e ∈ held, w.Equal e v
  once : kind.isSet = true → held.Pairwise fun e v => ¬ w.Equal e v

theorem isFilled_ordered (w : World) (hkind : kind.isSet = false) (given : List Slot) :
    w.IsFilled kind given given := by
  refine ⟨fun _ => rfl, List.Sublist.refl _, fun v hv => .inl hv, fun hset => ?_⟩
  rw [hkind] at hset
  cases hset

/-- What has been filled stays so where all of it keeps what it holds. -/
theorem IsFilled.of_loads (h : w.IsFilled kind given held) (hclasses : w'.classes = w.classes)
    (hloads : ∀ v ∈ given, w'.load v = w.load v) : w'.IsFilled kind given held := by
  have hheld : ∀ e ∈ held, w'.load e = w.load e := fun e he => hloads e (h.part.subset he)
  refine ⟨h.ordered, h.part, fun v hv => ?_, fun hset => ?_⟩
  · refine (h.whole v hv).imp_right fun ⟨e, he, hequal⟩ => ⟨e, he, ?_⟩
    exact (equal_congr hclasses (hheld e he) (hloads v hv)).mpr hequal
  · refine (h.once hset).imp_of_mem fun he hv hne hequal => hne ?_
    exact (equal_congr hclasses (hheld _ he) (hheld _ hv)).mp hequal

/-- A set takes what is hashable, unless an equal element is there. -/
theorem insertInto_eq_ok (h : w.insertInto held v = .ok held') :
    (∃ e ∈ held, w.Equal e v) ∧ held' = held ∨
      (∀ e ∈ held, ¬ w.Equal e v) ∧ held' = held ++ [v] := by
  unfold insertInto at h
  split at h
  · cases h
  · rename_i key hkey
    have hequal : ∀ e, w.Equal e v ↔ (w.classes.keyOf? (w.load e)).any (sameKey key) = true := by
      intro e
      unfold Equal
      rw [hkey]
      simp
    split at h
    · rename_i hthere
      cases h
      obtain ⟨e, he, hsame⟩ := List.any_eq_true.mp hthere
      exact .inl ⟨⟨e, he, (hequal e).mpr hsame⟩, rfl⟩
    · rename_i hthere
      cases h
      refine .inr ⟨fun e he hsame => hthere ?_, rfl⟩
      exact List.any_eq_true.mpr ⟨e, he, (hequal e).mp hsame⟩

theorem insertInto_eq_error (h : w.insertInto held v = .error fault) :
    fault = .typeMismatch ∧ w.classes.keyOf? (w.load v) = none := by
  unfold insertInto at h
  split at h
  · rename_i hkey
    cases h
    exact ⟨rfl, hkey⟩
  · split at h <;> cases h

/-! ## One element -/

/-- Whether a set that nothing refers to is being filled. -/
structure Filling (p : Place) (w : World) (held : List Slot) : Prop where
  whole : w.IsWhole
  apart : w.IsApart p
  cell : w.store.get? p = some (.seq .set held)
  elsewhere : ∀ v ∈ held, v.Within (· ≠ p)
  once : held.Pairwise fun e v => ¬ w.Equal e v

theorem Filling.has (h : Filling p w held) (hv : v ∈ held) : w.Has v :=
  h.whole.parts p _ h.cell v hv

/-- The result of a conversion is there, and refers to nothing that its source does not refer
to. -/
theorem withResult_apart (hwhole : w.IsWhole) (happart : w.IsApart p) {item : Slot}
    (hhas : w.Has item) (hitem : item.Within (· ≠ p)) {result : Value}
    (h : Conversion.convertWith w.classes w.schemas (w.load item) elementType = .ok result) :
    (w.withResult elementType item result).1.IsWhole ∧
      (w.withResult elementType item result).1.IsApart p ∧
      (w.withResult elementType item result).1.Has (w.withResult elementType item result).2 ∧
      (w.withResult elementType item result).2.Within (· ≠ p) := by
  have hpresent : Conversion.convertPresent w.classes w.schemas (w.load item) elementType =
      .ok result := by
    unfold Conversion.convertWith at h
    split at h
    · cases h
    · exact h
  have hthere := Conversion.within_of_convertPresent (hwhole.load_within hhas) hpresent
  have helsewhere : result.Within (· ≠ p) := Conversion.within_of_convertPresent
    (Similar.load_within happart (pairs_apart hitem)) hpresent
  have hafter := sound_afterConversion hwhole (w.load item) elementType
  have hmade := yields_intern hafter.whole hthere
  obtain ⟨hstill, hslot⟩ := (happart.afterConversion (w.load item) elementType).intern helsewhere
  exact ⟨hmade.sound.whole, hstill, hmade.there, hslot⟩

/-- New objects leave a set as it is. -/
theorem Filling.of_extends (h : Filling p w held) (hw : Extends w w₁) (hwhole : w₁.IsWhole)
    (happart : w₁.IsApart p) : Filling p w₁ held where
  whole := hwhole
  apart := happart
  cell := (hw.cells p (Store.lt_of_get? h.cell) not_false).trans h.cell
  elsewhere := h.elsewhere
  once := h.once.imp_of_mem fun he hv hne hequal => hne <|
    (equal_congr hw.classes (h.whole.load_eq hw (h.has he))
      (h.whole.load_eq hw (h.has hv))).mp hequal

/-- Elements that are equal stay so when the set is changed. -/
theorem Filling.equal_set (h : Filling p w held) (cell : Cell) (he : w.Has e)
    (he' : e.Within (· ≠ p)) (hv : w.Has v) (hv' : v.Within (· ≠ p)) :
    (w.set p cell).Equal e v ↔ w.Equal e v :=
  equal_congr rfl (h.apart.load_eq h.whole (set_changesOnly w p cell) he he')
    (h.apart.load_eq h.whole (set_changesOnly w p cell) hv hv')

/-- With a further element a set has no two equal elements, and one that is equal to it. -/
theorem Filling.insert (h : Filling p w held) (hv : w.Has v) (hv' : v.Within (· ≠ p))
    (hinsert : w.insertInto held v = .ok held') :
    Filling p (w.set p (.seq .set held')) held' ∧
      ((∃ e ∈ held, (w.set p (.seq .set held')).Equal e v) ∧ held' = held ∨
        held' = held ++ [v]) := by
  have hcell : (w.set p (.seq .set held')).store.get? p = some (.seq .set held') :=
    Store.get?_set_self (Store.lt_of_get? h.cell)
  have hsound (hitems : w.HasAll (Cell.seq .set held').slots) :
      (w.set p (.seq .set held')).IsWhole := (sound_set h.whole hitems).whole
  have hlater : ∀ e ∈ held, ((w.set p (.seq .set held')).Equal e v ↔ w.Equal e v) := fun e he =>
    h.equal_set _ (h.has he) (h.elsewhere e he) hv hv'
  have honce : held.Pairwise fun e v => ¬ (w.set p (.seq .set held')).Equal e v :=
    h.once.imp_of_mem fun he hv hne hequal => hne <|
      (h.equal_set _ (h.has he) (h.elsewhere _ he) (h.has hv) (h.elsewhere _ hv)).mp hequal
  have hheld : w.HasAll held := fun e he => h.has he
  rcases insertInto_eq_ok hinsert with ⟨⟨e, he, hequal⟩, rfl⟩ | ⟨hne, rfl⟩
  · exact ⟨⟨hsound hheld, h.apart.set _, hcell, h.elsewhere, honce⟩,
      .inl ⟨⟨e, he, (hlater e he).mpr hequal⟩, rfl⟩⟩
  · refine ⟨⟨hsound (hasAll_concat hheld hv), h.apart.set _, hcell, ?_, ?_⟩, .inr rfl⟩
    · exact List.forall_mem_append.mpr ⟨h.elsewhere, List.forall_mem_singleton.mpr hv'⟩
    · refine List.pairwise_append.mpr ⟨honce, List.pairwise_singleton _ _, fun e he u hu => ?_⟩
      obtain rfl := List.mem_singleton.mp hu
      exact fun hequal => hne e he ((hlater e he).mp hequal)

theorem Filling.step (h : Filling p w held) {a : Addition} (hhas : w.Has a.item)
    (hitem : a.item.Within (· ≠ p)) (hadds : AddsOne .add elementType p w a w₁) :
    w₁.Has a.slot ∧ a.slot.Within (· ≠ p) ∧ ∃ held₁, Filling p w₁ held₁ ∧
      ((∃ e ∈ held, w₁.Equal e a.slot) ∧ held₁ = held ∨ held₁ = held ++ [a.slot]) := by
  obtain ⟨hwhole, happart, hthere, hslot⟩ :=
    withResult_apart h.whole h.apart hhas hitem hadds.converts
  have hconverted := h.of_extends (withResult_extends w elementType a.item a.result) hwhole happart
  obtain ⟨kind, held₀, held₁, hcell₀, hcall, rfl⟩ := hadds.adds
  rw [h.cell] at hcell₀
  cases hcell₀
  rw [hadds.kept] at hthere hslot
  have hsize := (set_changesOnly (w.withResult elementType a.item a.result).1 p
    (.seq .set held₁)).size
  exact ⟨fun q hq => Nat.lt_of_lt_of_le (hthere q hq) hsize, hslot, held₁,
    hconverted.insert hthere hslot hcall⟩

/-! ## All elements -/

/-- A set that is filled has no two equal elements, all of which are among those that were added,
and one for each of these. -/
theorem Filling.run (h : Filling p w held) (hadds : Adds .add elementType p w additions w')
    (hitems : ∀ a ∈ additions, w.Has a.item ∧ a.item.Within (· ≠ p)) :
    ∃ added, Filling p w' (held ++ added) ∧ added.Sublist (additions.map (·.slot)) ∧
      ∀ v ∈ additions.map (·.slot), w'.Has v ∧
        (v ∈ held ++ added ∨ ∃ e ∈ held ++ added, w'.Equal e v) := by
  induction hadds generalizing held with
  | done w => exact ⟨[], by simpa using h, .slnil, List.forall_mem_nil _⟩
  | @step w w₁ w' a rest first further ih =>
      rw [List.forall_mem_cons] at hitems
      obtain ⟨hthere, hslot, held₁, hfilling, hend⟩ := h.step hitems.1.1 hitems.1.2 first
      have hlater : ∀ b ∈ rest, w₁.Has b.item ∧ b.item.Within (· ≠ p) := fun b hb =>
        ⟨fun q hq => Nat.lt_of_lt_of_le ((hitems.2 b hb).1 q hq) first.changesOnly.size,
          (hitems.2 b hb).2⟩
      obtain ⟨added, hfilled, hadded, hwhole⟩ := ih hfilling hlater
      have hload : ∀ v, w₁.Has v → v.Within (· ≠ p) → w'.load v = w₁.load v := fun v =>
        hfilling.apart.load_eq hfilling.whole further.changesOnly
      have hstays : w'.Has a.slot := fun q hq =>
        Nat.lt_of_lt_of_le (hthere q hq) further.changesOnly.size
      rcases hend with ⟨⟨e, he, hequal⟩, rfl⟩ | rfl
      · refine ⟨added, hfilled, hadded.cons _,
          List.forall_mem_cons.mpr ⟨⟨hstays, .inr ⟨e, ?_, ?_⟩⟩, hwhole⟩⟩
        · exact List.mem_append_left _ he
        · exact (equal_congr further.changesOnly.classes
            (hload e (hfilling.has he) (hfilling.elsewhere e he))
            (hload a.slot hthere hslot)).mpr hequal
      · rw [List.append_assoc] at hfilled hwhole
        exact ⟨a.slot :: added, hfilled, hadded.cons_cons _,
          List.forall_mem_cons.mpr ⟨⟨hstays, .inl (by simp)⟩, hwhole⟩⟩

/-- What grows is filled by additions, and stays so when it is finished. -/
theorem Adds.filled (h : Adds kind.adding elementType p w additions w') (hwhole : w.IsWhole)
    (happart : w.IsApart p) (hcell : w.store.get? p = some (.seq kind.growing []))
    (hitems : ∀ a ∈ additions, w.Has a.item ∧ a.item.Within (· ≠ p)) :
    ∃ held, w'.store.get? p = some (.seq kind.growing held) ∧
      ∀ w₂, Extends w' w₂ → w₂.IsFilled kind (additions.map (·.slot)) held := by
  unfold CollectionKind.adding at h
  unfold CollectionKind.growing at hcell ⊢
  cases hkind : kind.isSet with
  | false =>
      rw [hkind] at h hcell
      have hlast : w'.store.get? p = some (.seq .list ([] ++ additions.map (·.slot))) :=
        h.behind hcell trivial
      exact ⟨_, hlast, fun w₂ _ => isFilled_ordered w₂ hkind _⟩
  | true =>
      rw [hkind] at h hcell
      have hempty : Filling p w [] := ⟨hwhole, happart, hcell, List.forall_mem_nil _, .nil⟩
      obtain ⟨added, hfilling, hadded, hall⟩ := hempty.run h hitems
      have hfilled : w'.IsFilled kind (additions.map (·.slot)) added :=
        ⟨fun hordered => (by rw [hkind] at hordered; cases hordered), hadded,
          fun v hv => (hall v hv).2, fun _ => hfilling.once⟩
      exact ⟨added, hfilling.cell, fun w₂ hw₂ => hfilled.of_loads hw₂.classes fun v hv =>
        hfilling.whole.load_eq hw₂ (hall v hv).1⟩

/-- What is added to a collection is held in it as it was converted. -/
theorem Adds.holds {m : Adding} (h : Adds m elementType p w additions w')
    (hp : p < w.store.size) : ∀ a ∈ additions, w'.store.Holds (p + 1) a.result a.slot := by
  induction h with
  | done => exact List.forall_mem_nil _
  | @step w w₁ w' a rest first further ih =>
      have hsize := first.changesOnly.size
      refine List.forall_mem_cons.mpr ⟨?_, ih (Nat.lt_of_lt_of_le hp hsize)⟩
      have hmade : (w.withResult elementType a.item a.result).1.store.Holds (p + 1) a.result
          a.slot := by
        rw [← first.kept]
        exact Store.holds_intern hp a.result
      obtain ⟨kind, held, held', -, -, hw₁⟩ := first.adds
      have hset := set_changesOnly (w.withResult elementType a.item a.result).1 p (.seq kind held')
      rw [← hw₁] at hset
      have hlater := hset.trans further.changesOnly
      refine hmade.frame (fun q cell hq hcell => ?_) (Nat.le_refl _)
      rw [hlater.cells q (Store.lt_of_get? hcell) (Nat.ne_of_gt hq), hcell]

end World

end Memberwise
