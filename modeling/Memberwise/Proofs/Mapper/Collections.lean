import Memberwise.Proofs.Mapper.Filling
import Memberwise.Proofs.Mapper.Presence
import Memberwise.Proofs.Parallel.Matching
import Memberwise.Proofs.Schema.Fresh
import Memberwise.Proofs.Whole.Plan

/-! # Copies of collections

A step that copies a collection makes a new one, fills it with the conversions of the elements and
stores it, or fails and stores nothing.  It reads the collections that were there before and changes
none of them, except that it spends an iterator; what it stores was not there before.
-/

namespace Memberwise

/-! ## How collections of a kind are built -/

namespace CollectionKind

/-- The builder of collections of a kind. -/
def builder : CollectionKind → Builder
  | list => .list
  | set => .set
  | tuple => ⟨.builtin .list, .tuple⟩
  | frozenset => ⟨.builtin .set, .frozenset⟩

/-- The kind of the collections that instances of a class are built as: interfaces of lists and
sets are built as these. -/
def ofOrigin? (origin : ClassRef) : Option CollectionKind :=
  if Builder.listOrigins.any (origin == .builtin ·) then some list
  else if Builder.setOrigins.any (origin == .builtin ·) then some set
  else if origin == .builtin .tuple then some tuple
  else if origin == .builtin .frozenset then some frozenset
  else none

variable {classes : Classes} {kind : CollectionKind} {origin : ClassRef}

theorem ofOrigin?_builder (h : ofOrigin? origin = some kind) :
    Builder.ofOrigin? classes origin = some kind.builder := by
  unfold ofOrigin? at h
  unfold Builder.ofOrigin?
  split_ifs at h with hlist hset htuple hfrozenset
  · cases h
    exact if_pos hlist
  · cases h
    rw [if_neg hlist]
    exact if_pos hset
  · cases h
    rw [if_neg hlist, if_neg hset]
    exact if_pos htuple
  · cases h
    rw [if_neg hlist, if_neg hset, if_neg htuple]
    exact if_pos hfrozenset

end CollectionKind

/-- The kind of the collections that a member holds, if it is a list, a set, a tuple or a frozen
set by its type. -/
def Member.collectionKind? (m : Member) : Option CollectionKind :=
  m.underlying.genericOrigin?.bind CollectionKind.ofOrigin?

theorem Builder.ofMember_of_collectionKind? {classes : Classes} {m : Member}
    {kind : CollectionKind} (h : m.collectionKind? = some kind) :
    ofMember classes m = .ok kind.builder := by
  obtain ⟨origin, horigin, hkind⟩ := Option.bind_eq_some_iff.mp h
  have hbuilder : m.underlying.genericOrigin?.bind (ofOrigin? classes) = some kind.builder := by
    rw [horigin]
    exact CollectionKind.ofOrigin?_builder hkind
  unfold ofMember
  rw [hbuilder]

/-- How a collection is copied by an operation that converts its elements to a given type. -/
def Operation.collects? (operation : Operation Converter) (type : TypeExpr) :
    Option (Builder × Bool) :=
  match operation with
  | .copyCollection elementType builder copies =>
    if elementType.same type then some (builder, copies) else none
  | _ => none

theorem Operation.eq_of_collects? {operation : Operation Converter} {c : ClassRef}
    {builder : Builder} {copies : Bool}
    (h : operation.collects? (.cls c) = some (builder, copies)) :
    operation = .copyCollection (.cls c) builder copies := by
  unfold collects? at h
  split at h
  · split at h
    · rename_i hsame
      cases h
      rw [(TypeExpr.same_plain_iff rfl).mp (TypeExpr.same_symm hsame)]
    · cases h
  · cases h

namespace World

variable {w w' w₁ w₂ : World} {s v : Slot} {p q t : Place} {kind : CollectionKind}
  {elementType : TypeExpr} {held items : List Slot} {fault : Fault} {a : Assignment Converter}

theorem create_builder (w : World) (kind : CollectionKind) :
    w.create kind.builder.create [] = .ok (w.alloc (.seq kind.growing [])) := by
  cases kind <;> rfl

/-- A list that has grown becomes a tuple, and a set a frozen set, at a new place. -/
theorem finishCollection_cell (hcell : w.store.get? p = some (.seq kind.growing held)) :
    ∃ q, (w.finishCollection kind.builder.finish (.ref p)).2 = .ref q ∧ p ≤ q ∧
      (w.finishCollection kind.builder.finish (.ref p)).1.store.get? q =
        some (.seq kind.finished held) := by
  obtain ⟨w₁, hyields⟩ := elements_of_seq hcell
  have hlater : p ≤ w.store.size := Nat.le_of_lt (Store.lt_of_get? hcell)
  unfold finishCollection
  rw [hyields]
  cases kind with
  | list | set => exact ⟨p, rfl, Nat.le_refl p, hcell⟩
  | tuple | frozenset => exact ⟨_, rfl, hlater, Store.get?_alloc_self w.store _⟩

/-! ## Copies of elements -/

/-- Whether an element is rejected: it cannot be converted, or what it is converted to is not
hashable and so cannot be an element of a set.  Objects from a given place on are new. -/
inductive Rejects (kind : CollectionKind) (elementType : TypeExpr) (w : World) (n : Place)
    (item : Slot) : Fault → Prop
  | conversion {fault : Fault}
      (fails : Conversion.convertWith w.classes w.schemas (w.load item) elementType =
        .error fault) :
      Rejects kind elementType w n item fault
  | unhashable {result : Value} {w' : World} {v : Slot} (set : kind.isSet = true)
      (converts : Conversion.convertWith w.classes w.schemas (w.load item) elementType = .ok result)
      (later : ChangesOnly (n ≤ ·) w w') (holds : w'.store.Holds n result v)
      (unhashable : w'.classes.keyOf? (w'.load v) = none) :
      Rejects kind elementType w n item .typeMismatch

/-- What comes of the elements of a collection that is read in a world: a collection at a place
from a given one on, which has been filled with the conversions of all of them, or the fault of the
first one that is rejected. -/
inductive Copies (kind : CollectionKind) (elementType : TypeExpr) (w : World) (n : Place)
    (items : List Slot) : World × Except Fault Slot → Prop
  | all {additions : List Addition} {w' : World} {q : Place} {held : List Slot}
      (elements : items = additions.map (·.item))
      (converts : ∀ a ∈ additions,
        Conversion.convertWith w.classes w.schemas (w.load a.item) elementType = .ok a.result)
      (holds : ∀ a ∈ additions, w'.store.Holds n a.result a.slot)
      (new : n ≤ q) (cell : w'.store.get? q = some (.seq kind.finished held))
      (filled : w'.IsFilled kind (additions.map (·.slot)) held) :
      Copies kind elementType w n items (w', .ok (.ref q))
  | rejected {before rest : List Slot} {item : Slot} {fault : Fault} {w' : World}
      (elements : items = before ++ item :: rest)
      (accepts : ∀ e ∈ before, ∃ result,
        Conversion.convertWith w.classes w.schemas (w.load e) elementType = .ok result)
      (rejects : Rejects kind elementType w n item fault) :
      Copies kind elementType w n items (w', .error fault)

/-- Whether a whole world has elements that lead to nothing at a place, to which nothing leads. -/
structure Offers (p : Place) (w : World) (items : List Slot) : Prop where
  whole : w.IsWhole
  apart : w.IsApart p
  there : ∀ item ∈ items, w.Has item ∧ item.Within (· ≠ p)

theorem Offers.filter (h : Offers p w items) (f : Slot → Bool) : Offers p w (items.filter f) :=
  ⟨h.whole, h.apart, fun item hitem => h.there item (List.mem_of_mem_filter hitem)⟩

theorem Offers.left {rest : List Slot} (h : Offers p w (items ++ rest)) : Offers p w items :=
  ⟨h.whole, h.apart, (List.forall_mem_append.mp h.there).1⟩

theorem Offers.reaches (h : Offers p w items) {item : Slot} (hitem : item ∈ items)
    (hreaches : w.store.Reaches item q) : q < w.store.size ∧ q ≠ p :=
  ⟨h.whole.lt_of_reaches (h.there item hitem).1 hreaches,
    h.apart.ne_of_reaches (h.there item hitem).2 hreaches⟩

/-- What an object yields is there, and refers to nothing that the object does not refer to. -/
theorem offers_yielded (hwhole : w.IsWhole) (happart : w.IsApart p) (hv : w.Has v)
    (helsewhere : v.Within (· ≠ p)) (hyields : w.yielded v = .ok (w₁, items)) :
    Offers p w₁ items := by
  obtain ⟨hsound, hthere⟩ := yields_yielded hwhole hv hyields
  obtain ⟨hstill, hwithin⟩ := happart.yielded helsewhere hyields
  exact ⟨hsound.whole, hstill, fun item hitem => ⟨hthere item hitem, hwithin item hitem⟩⟩

section Copies

variable {additions : List Addition}

theorem Offers.converts (h : Offers p w (additions.map (·.item)))
    (hadds : Adds kind.adding elementType p w additions w') :
    ∀ a ∈ additions, Conversion.convertWith w.classes w.schemas (w.load a.item) elementType =
      .ok a.result :=
  (Adds.done w).converts hadds fun _ ha _ hq => h.reaches (List.mem_map_of_mem ha) hq

theorem Offers.filled (h : Offers p w (additions.map (·.item)))
    (hadds : Adds kind.adding elementType p w additions w')
    (hcell : w.store.get? p = some (.seq kind.growing [])) :
    ∃ held, w'.store.get? p = some (.seq kind.growing held) ∧
      ∀ w₂, Extends w' w₂ → w₂.IsFilled kind (additions.map (·.slot)) held :=
  hadds.filled h.whole h.apart hcell (List.forall_mem_map.mp h.there)

/-- What has grown by all elements is finished to a copy of them. -/
theorem Offers.copies (h : Offers p w (additions.map (·.item)))
    (hadds : Adds kind.adding elementType p w additions w')
    (hcell : w.store.get? p = some (.seq kind.growing [])) :
    Copies kind elementType w p (additions.map (·.item))
      ((w'.finishCollection kind.builder.finish (.ref p)).1,
        .ok (w'.finishCollection kind.builder.finish (.ref p)).2) := by
  obtain ⟨held, hgrown, hfilled⟩ := h.filled hadds hcell
  obtain ⟨q, hq, hnew, hfinished⟩ := finishCollection_cell hgrown
  have hextends := finishCollection_extends w' kind.builder.finish (.ref p)
  have hkeeps : Store.Keeps (p + 1) w'.store
      (w'.finishCollection kind.builder.finish (.ref p)).1.store := fun q cell _ hcell =>
    (hextends.cells q (Store.lt_of_get? hcell) not_false).trans hcell
  have hholds := hadds.holds (Store.lt_of_get? hcell)
  rw [hq]
  exact .all rfl (h.converts hadds) (fun a ha => (hholds a ha).frame hkeeps (Nat.le_succ p)) hnew
    hfinished (hfilled _ hextends)

/-- What cannot be added to what grows is rejected as it would have been at first. -/
theorem Offers.rejects {item : Slot} {rest : List Slot}
    (h : Offers p w (additions.map (·.item) ++ item :: rest))
    (hadds : Adds kind.adding elementType p w additions w₁)
    (hcell : w.store.get? p = some (.seq kind.growing []))
    (hfails : FailsToAdd kind.adding elementType p w₁ item fault w') :
    Rejects kind elementType w p item fault := by
  have hsame := hadds.convertWith_eq fun q hq =>
    h.reaches (List.mem_append_right _ List.mem_cons_self) hq
  obtain ⟨held, hgrown, -⟩ := h.left.filled hadds hcell
  cases hfails with
  | conversion fails => exact .conversion (hsame.symm.trans fails)
  | addition converts cell fails =>
      rename_i kind' held' result
      rw [hgrown] at cell
      cases cell
      unfold CollectionKind.adding CollectionKind.growing at fails
      cases hkind : kind.isSet with
      | false =>
          rw [hkind] at fails
          cases fails
      | true =>
          rw [hkind] at fails
          obtain ⟨rfl, hunhashable⟩ := insertInto_eq_error fails
          have hconverted := withResult_extends w₁ elementType item result
          have hlater := (hadds.changesOnly.trans (.of_extends hconverted)).mono
            fun q _ hq => Nat.le_of_eq hq.symm
          have hholds := Store.holds_intern (Nat.le_of_lt (Store.lt_of_get? hgrown)) result
          exact .unhashable hkind (hsame.symm.trans converts) hlater hholds hunhashable

end Copies

/-- What grows in a new collection and is finished is a copy of the elements that are present. -/
theorem fillCollection_copies (hwhole : w.IsWhole) (happart : w.IsApart p)
    (hcell : w.store.get? p = some (.seq kind.growing [])) (hv : w.Has v)
    (helsewhere : v.Within (· ≠ p)) (hyields : w.yielded v = .ok (w₁, items)) :
    Copies kind elementType w₁ p (items.filter fun item => !item.isNone)
      (w.fillCollection elementType kind.builder.finish v (.ref p)) := by
  have hcell₁ := get?_of_yielded hyields hcell (CollectionKind.adding?_growing w.classes kind)
  have hoffers := (offers_yielded hwhole happart hv helsewhere hyields).filter fun item =>
    !item.isNone
  have hm := CollectionKind.adding?_growing w₁.classes kind
  obtain ⟨additions, w₂, hadds, hend⟩ := addConverted_adds hcell₁ hm elementType items
  rw [fillCollection_eq, copyElements_eq_addConverted hyields hcell₁ hm]
  rcases hend with ⟨hall, hrun⟩ | ⟨item, rest, fault, w₃, hsplit, hfails, hrun⟩
  · rw [hall] at hoffers ⊢
    rw [hrun]
    exact hoffers.copies hadds hcell₁
  · rw [hsplit] at hoffers
    have hconverts := hoffers.left.converts hadds
    rw [hrun]
    exact .rejected hsplit (List.forall_mem_map.mpr fun a ha => ⟨a.result, hconverts a ha⟩)
      (hoffers.rejects hadds hcell₁ hfails)

theorem fillCollection_of_error (elementType : TypeExpr) (finish : Finish) (collection : Slot)
    (h : w.yielded v = .error fault) :
    w.fillCollection elementType finish v collection = (w, .error fault) := by
  unfold fillCollection copyElements
  rw [h]

/-! ## What a step makes -/

/-- A step that copies the elements reads its source when the new collection is there. -/
theorem transferred_copying
    (hoperation : a.operation = .copyCollection elementType kind.builder true) (w : World)
    (s : Slot) :
    w.transferred a s = (w.alloc (.seq kind.growing [])).1.resume
      (fun w₁ v => w₁.fillCollection elementType kind.builder.finish v (.ref w.store.size))
      ((w.alloc (.seq kind.growing [])).1.getAttribute s a.source.name) := by
  rw [transferred_copyCollection hoperation, create_builder]
  rfl

theorem transferred_copies (hwhole : w.IsWhole) (hs : w.Has s)
    (hoperation : a.operation = .copyCollection elementType kind.builder true)
    (hread : (w.alloc (.seq kind.growing [])).1.getAttribute s a.source.name = .ok (w₁, v))
    (hyields : w₁.yielded v = .ok (w₂, items)) :
    Copies kind elementType w₂ w.store.size (items.filter fun item => !item.isNone)
      (w.transferred a s) := by
  have hmade := yields_alloc hwhole (.seq kind.growing []) (hasAll_nil w)
  have happart := isApart_alloc hwhole (.seq kind.growing [])
  have hcell := Store.get?_alloc_self w.store (.seq kind.growing [])
  have helsewhere : s.Within (· ≠ w.store.size) := fun q hq => Nat.ne_of_lt (hs q hq)
  have hvalue := yields_getAttribute hmade.sound.whole (hmade.sound.has hs) hread
  obtain ⟨hstill, hwithin⟩ := happart.getAttribute helsewhere hread
  have hcell₁ : w₁.store.get? w.store.size = some (.seq kind.growing []) :=
    ((getAttribute_extends hread).cells _ (Store.lt_of_get? hcell) not_false).trans hcell
  rw [transferred_copying hoperation, hread]
  exact fillCollection_copies hvalue.sound.whole hstill hcell₁ hvalue.there hwithin hyields

/-- A step that leaves the elements behind makes an empty collection, whatever the source is. -/
theorem transferred_empty
    (hoperation : a.operation = .copyCollection elementType kind.builder false) (w : World)
    (s : Slot) :
    ∃ w₁ q, w.transferred a s = (w₁, .ok (.ref q)) ∧ w.store.size ≤ q ∧
      w₁.store.get? q = some (.seq kind.finished []) ∧ Extends w w₁ := by
  have hcell := Store.get?_alloc_self w.store (.seq kind.growing [])
  obtain ⟨q, hq, hnew, hcell₁⟩ :=
    finishCollection_cell (w := (w.alloc (.seq kind.growing [])).1) hcell
  rw [transferred_copyCollection hoperation, create_builder]
  exact ⟨_, q, congrArg (fun slot => (_, Except.ok slot)) hq, hnew, hcell₁,
    (alloc_extends w _).trans (finishCollection_extends _ _ _)⟩

/-- Whatever collection a step makes, it is a new one. -/
theorem transferred_new {copies : Bool} (hwhole : w.IsWhole) (hs : w.Has s)
    (hoperation : a.operation = .copyCollection elementType kind.builder copies)
    (h : w.transferred a s = (w₁, .ok v)) :
    ∃ q held, v = .ref q ∧ w.store.size ≤ q ∧
      w₁.store.get? q = some (.seq kind.finished held) := by
  cases copies with
  | false =>
      obtain ⟨w₂, q, hmade, hnew, hcell, -⟩ := transferred_empty hoperation w s
      rw [hmade] at h
      cases h
      exact ⟨q, [], rfl, hnew, hcell⟩
  | true =>
      have hrun := transferred_copying hoperation w s
      cases hread : (w.alloc (.seq kind.growing [])).1.getAttribute s a.source.name with
      | error fault =>
          rw [hread, h] at hrun
          cases hrun
      | ok read =>
          obtain ⟨w₂, u⟩ := read
          cases hyields : w₂.yielded u with
          | error fault =>
              rw [hread, h] at hrun
              change (w₁, Except.ok v) = w₂.fillCollection elementType _ u _ at hrun
              rw [fillCollection_of_error _ _ _ hyields] at hrun
              cases hrun
          | ok yielded =>
              have hcopies := transferred_copies hwhole hs hoperation hread hyields
              rw [h] at hcopies
              cases hcopies with
              | all elements converts holds new cell filled => exact ⟨_, _, rfl, new, cell⟩

/-! ## What a target holds -/

theorem place?_load {cell : Cell} (hcell : w.store.get? p = some cell) :
    (w.load (.ref p)).place? = some p := by
  have hplace : ∀ (part : Slot → Value) (cell : Cell), (cell.valueAt p part).place? = some p := by
    intro part cell
    cases cell <;> rfl
  show (w.store.loadWithin w.store.size [] (.ref p)).place? = some p
  cases w.store.size with
  | zero =>
      unfold Store.loadWithin
      rw [hcell]
      exact hplace _ _
  | succ depth =>
      unfold Store.loadWithin
      rw [hcell]
      exact hplace _ _

theorem isNew_intern {u : Value} (hu : u.place? = none) (w : World) :
    w.IsNew (w.intern u).2 := by
  have hmade : ∀ s : Store, w.store.Extends s → ∀ cell, w.IsNew (.ref (s.alloc cell).2) := by
    rintro s hs cell q ⟨⟩
    exact hs.size
  cases u with
  | atom => exact nofun
  | seq place kind items =>
      cases hu
      exact hmade _ (Store.internAll_extends w.store items) (.seq kind (w.store.internAll items).2)
  | dict place entries =>
      cases hu
      exact hmade _ (Store.internEntries_extends w.store entries)
        (.dict (w.store.internEntries entries).2)
  | object place name core attributes =>
      cases hu
      exact hmade _ (Store.internAttributes_extends w.store attributes)
        (.object name core (w.store.internAttributes attributes).2)

theorem intern_of_place? {u : Value} (hu : u.place? = some q) : w.intern u = (w, .ref q) := by
  cases u with
  | atom => cases hu
  | seq place | dict place | object place =>
      cases hu
      rfl

/-- What a class makes of a new object is new as well. -/
theorem validated_isNew {c : ClassRef} {name : String} {cell : Cell} {stored : Slot}
    (hsize : w.store.size ≤ w₁.store.size) (hnew : w.store.size ≤ q)
    (hcell : w₁.store.get? q = some cell)
    (h : w₁.validated c name (.ref q) = .ok (w₂, stored)) : w.IsNew stored := by
  have hself : w.IsNew (.ref q) := by
    rintro _ ⟨⟩
    exact hnew
  unfold validated at h
  split at h
  · split at h
    · cases h
      exact hself
    · dsimp only at h
      split at h
      · rename_i result hresult
        cases h
        obtain ⟨schema, -, hread⟩ := Option.bind_eq_some_iff.mp hresult
        rcases Schema.read?_fresh hread with rfl | hplace
        · show w.IsNew (w₁.intern (w₁.load (.ref q))).2
          rw [intern_of_place? (place?_load hcell)]
          exact hself
        · exact fun r hr => Nat.le_trans hsize (isNew_intern hplace w₁ r hr)
      · cases h
  · cases h
    exact hself

/-! ## What a step stores -/

/-- Whether an object with attributes is at a place. -/
def IsObject (w : World) (p : Place) : Prop :=
  ∃ className core attributes, w.store.get? p = some (.object className core attributes)

/-- Once a step has made something, it changes nothing but the object that is its target. -/
theorem transferMember_writes (w : World) (a : Assignment Converter) (s : Slot)
    (ht : t < w.store.size) :
    ChangesOnly (fun q => q = t ∧ w.IsObject q) (w.transferred a s).1
      (w.transferMember a s (.ref t)).1 := by
  have hspends := transferred_spends w a s
  rw [transferMember_eq]
  cases hmade : (w.transferred a s).2 with
  | error fault => exact .refl _ _
  | ok v =>
      show ChangesOnly _ _ (goOn _ _ (setAttribute _ (.ref t) a.target.name v)).1
      cases hset : setAttribute (w.transferred a s).1 (.ref t) a.target.name v with
      | error fault => exact .refl _ _
      | ok w' =>
          obtain ⟨key, _, _, hkey, -⟩ := held?_setAttribute hset
          obtain ⟨className, core, attributes, hcell⟩ := object_of_destination hkey
          have hobject : w.IsObject t :=
            ⟨className, core, attributes, hspends.get?_of_classOf hcell nofun ht not_false⟩
          refine (setAttribute_changesOnly hset).mono fun q _ hq => ?_
          obtain rfl := Slot.ref.inj hq
          exact ⟨rfl, hobject⟩

/-- A step changes nothing but the object that is its target and iterators that are seen from its
source, which are spent. -/
theorem transferMember_frame (hwhole : w.IsWhole) (hs : w.Has s) (a : Assignment Converter)
    (ht : t < w.store.size) :
    Spends (fun q => q = t ∧ w.IsObject q) w (w.transferMember a s (.ref t)).1 ∧
      ChangesOnly (fun q => q = t ∧ w.IsObject q ∨ w.Sees s q) w
        (w.transferMember a s (.ref t)).1 := by
  have hwrites := transferMember_writes w a s ht
  have hwithin : s.Within (w.Sees s) := by
    rintro p rfl
    exact w.sees_self p
  have hseen := (exchanges_seen hwhole hs).transferred_changesOnly hwithin a
  exact ⟨(transferred_spends w a s).of_spends.trans (.of_changesOnly hwrites),
    (hseen.mono fun _ _ => .inr).trans (hwrites.mono fun _ _ => .inl)⟩

/-- Whether a step has made a collection at a place and stored in an object what its class makes of
it.  That is the collection itself, unless the class reads what it is given by a schema, and nothing
that was there before in any case. -/
structure StoresMade (a : Assignment Converter) (s : Slot) (t : Place) (w w' w₁ : World) (q : Place)
    (stored : Slot) : Prop where
  made : w.transferred a s = (w₁, .ok (.ref q))
  kept : w'.store.get? q = w₁.store.get? q
  held : ∃ key w₂, w.destination t a.target.name = .ok key ∧
    w₁.validated (w₁.classOf (.ref t)) key (.ref q) = .ok (w₂, stored) ∧
    w'.held? t key = some stored
  plain : w.StoresPlainly t → stored = .ref q
  new : w.IsNew stored
  there : w'.Has stored

theorem storesMade_of_transferMember {copies : Bool} (hwhole : w.IsWhole) (hs : w.Has s)
    (ht : t < w.store.size) (hsteady : a.operation.IsSteady w.store.size)
    (hoperation : a.operation = .copyCollection elementType kind.builder copies)
    (h : w.transferMember a s (.ref t) = (w', none)) :
    ∃ w₁ q stored, StoresMade a s t w w' w₁ q stored := by
  obtain ⟨w₁, v, hmade, hset⟩ := setAttribute_of_transferMember h
  obtain ⟨q, held, rfl, hnew, hcell⟩ := transferred_new hwhole hs hoperation hmade
  obtain ⟨key, w₂, stored, hkey, hvalid, hheld⟩ := held?_setAttribute hset
  obtain ⟨className, core, attributes, hobject⟩ := object_of_destination hkey
  have hspends := transferred_spends w a s
  rw [hmade] at hspends
  have hlasting : ¬ w.IsIterator t :=
    not_isIterator_of_object (hspends.get?_of_classOf hobject nofun ht not_false)
  have hother : ¬ Slot.ref t = .ref q := by
    intro hsame
    rw [Slot.ref.inj hsame, hcell] at hobject
    cases hobject
  rw [(Written.of_spends ht hlasting hspends).destination] at hkey
  refine ⟨w₁, q, stored, hmade, ?_, ⟨key, w₂, hkey, hvalid, hheld⟩, fun hplain => ?_, ?_, ?_⟩
  · exact (setAttribute_changesOnly hset).cells q (Store.lt_of_get? hcell) hother
  · have hstill := (Written.of_spends ht hlasting hspends).plain hplain
    rw [validated_of_plain hstill] at hvalid
    cases hvalid
    rfl
  · exact validated_isNew hspends.size hnew hcell hvalid
  · have hsound := sound_transferMember hwhole hsteady hs (.ref t)
    rw [h] at hsound
    exact hsound.whole.has_of_held hheld

/-- What a later run stores is not what an earlier one has stored. -/
theorem StoresMade.ne_of_later {w₃ w₄ : World} {s' stored stored' : Slot} {t' q' : Place}
    (h : StoresMade a s t w w' w₁ q stored) (h' : StoresMade a s' t' w₂ w₃ w₄ q' stored')
    (hlater : w'.store.size ≤ w₂.store.size) (hp : stored = .ref p) : stored' ≠ .ref p := by
  subst hp
  intro hsame
  have hthere : p < w'.store.size := has_ref.mp h.there
  have hnew : w₂.store.size ≤ p := h'.new p hsame
  exact Nat.lt_irrefl p (Nat.lt_of_lt_of_le hthere (Nat.le_trans hlater hnew))

/-- A step that makes nothing stores nothing. -/
theorem transferMember_of_error {target : Slot} (h : w.transferred a s = (w₁, .error fault)) :
    w.transferMember a s target = (w₁, some fault) := by
  unfold transferMember
  rw [h]

/-- A target that stores plainly gets what a step makes, if it has a place for it. -/
theorem transferMember_of_plain (ht : t < w.store.size) (hplain : w.StoresPlainly t) {key : String}
    (hkey : w.destination t a.target.name = .ok key) (h : w.transferred a s = (w₁, .ok v)) :
    w.transferMember a s (.ref t) = (w₁.storeOn t key v, none) := by
  have hspends := transferred_spends w a s
  rw [h] at hspends
  obtain ⟨className, core, attributes, hobject⟩ := object_of_destination hkey
  have hlater := Written.of_spends ht (not_isIterator_of_object hobject) hspends
  unfold transferMember
  rw [h]
  dsimp only
  rw [setAttribute_of_plain (hlater.plain hplain), hlater.destination, hkey]
  rfl

end World

/-- A planned step for a list, a set, a tuple or a frozen set makes a new collection.  It is empty
if the elements of the source are of a value kind, whatever the source holds; otherwise it has the
conversions of the elements that are present, unless one of them is rejected.  The step stores the
collection, or what the class of the target reads from it, or stores nothing at all.  It changes
nothing but the target object in any case, so neither the collection of the source nor that of the
target, except that an iterator which it reads is spent.  What it stores is neither of these
collections, and no other run of the step stores it. -/
theorem Plan.build_collects {classes : Classes} {registry : Registry Converter}
    {source target : ClassRef} {creates : Bool} {p : Plan Converter}
    (h : (build classes registry (.cls source) (.cls target) creates).outcome = .ok p)
    {a : Assignment Converter} (ha : a ∈ p.assignments) {elementType : TypeExpr} {builder : Builder}
    {copies : Bool} (hoperation : a.operation = .copyCollection elementType builder copies)
    {kind : CollectionKind} (hkind : a.target.collectionKind? = some kind) {w : World} {s : Slot}
    (hwhole : w.IsWhole) (hs : w.Has s) :
    (∃ sourceElement, a.source.typeArgs = [sourceElement] ∧
      copies = !classes.isValueKind sourceElement) ∧
    a.target.typeArgs = [elementType] ∧
    (copies = false → ∃ w₁ q, w.transferred a s = (w₁, .ok (.ref q)) ∧ w.store.size ≤ q ∧
      w₁.store.get? q = some (.seq kind.finished []) ∧ World.Extends w w₁) ∧
    (copies = true → ∀ w₁ v w₂ items,
      (w.alloc (.seq kind.growing [])).1.getAttribute s a.source.name = .ok (w₁, v) →
      w₁.yielded v = .ok (w₂, items) →
      World.Copies kind elementType w₂ w.store.size (items.filter fun item => !item.isNone)
        (w.transferred a s)) ∧
    ∀ t < w.store.size,
      World.Spends (fun q => q = t ∧ w.IsObject q) w (w.transferMember a s (.ref t)).1 ∧
      World.ChangesOnly (fun q => q = t ∧ w.IsObject q ∨ w.Sees s q) w
        (w.transferMember a s (.ref t)).1 ∧
      (∀ w₁ fault, w.transferred a s = (w₁, .error fault) →
        w.transferMember a s (.ref t) = (w₁, some fault)) ∧
      (∀ w₁ v key, w.transferred a s = (w₁, .ok v) → w.StoresPlainly t →
        w.destination t a.target.name = .ok key →
        w.transferMember a s (.ref t) = (w₁.storeOn t key v, none)) ∧
      (∀ w' fault, w.transferMember a s (.ref t) = (w', some fault) →
        World.Spends (fun _ => False) w w') ∧
      ∀ w', w.transferMember a s (.ref t) = (w', none) →
        ∃ w₁ q stored, World.StoresMade a s t w w' w₁ q stored ∧
          ∀ w₂ w₃ w₄ s' t' q' stored', w'.store.size ≤ w₂.store.size →
            World.StoresMade a s' t' w₂ w₃ w₄ q' stored' →
            ∀ place, stored = .ref place → stored' ≠ .ref place := by
  obtain ⟨_, _, hresolved⟩ := resolve_of_build h ha
  obtain ⟨hsource, htarget, hbuilder⟩ := Resolver.collects_of_resolve hresolved hoperation
  obtain rfl : kind.builder = builder :=
    Except.ok.inj ((Builder.ofMember_of_collectionKind? hkind).symm.trans hbuilder)
  refine ⟨hsource, htarget, ?_, ?_, fun t ht => ?_⟩
  · rintro rfl
    exact World.transferred_empty hoperation w s
  · rintro rfl w₁ v w₂ items hread hyields
    exact World.transferred_copies hwhole hs hoperation hread hyields
  obtain ⟨hspends, hchanges⟩ := World.transferMember_frame hwhole hs a ht
  refine ⟨hspends, hchanges, ?_, ?_, ?_, fun w' hstep => ?_⟩
  · exact fun w₁ fault hfails => World.transferMember_of_error hfails
  · exact fun w₁ v key hmade hplain hkey => World.transferMember_of_plain ht hplain hkey hmade
  · exact fun w' fault hfails => World.transferMember_eq_some hfails
  · have hsteady := (isSteady_of_build h ha w.store.size).2
    obtain ⟨w₁, q, stored, hstored⟩ :=
      World.storesMade_of_transferMember hwhole hs ht hsteady hoperation hstep
    exact ⟨w₁, q, stored, hstored, fun w₂ w₃ w₄ s' t' q' stored' hlater hstored' place hplace =>
      hstored.ne_of_later hstored' hlater hplace⟩

namespace World

/-- Votes as texts, one of them missing and another one there twice, and what they are counted
in. -/
def polling : World where
  classes := [Plan.annotatedClass "Ballot" [("votes", .applied (.builtin .list) [.builtin .str])],
    Plan.annotatedClass "Count" [("Votes", .applied (.builtin .set) [.builtin .int])]]
  store := ⟨#[.seq .list [.atom (.str "2"), .none, .atom (.str "1"), .atom (.str "2")],
    .object "Ballot" none [("votes", .ref 0)], .seq .set [],
    .object "Count" none [("Votes", .ref 2)]]⟩
  constants := []
  schemas := .empty

theorem parts_polling {p : Place} {cell : Cell} (hcell : polling.store.get? p = some cell) :
    polling.HasAll cell.slots := by
  match p with
  | 0 =>
      cases hcell
      exact hasAll_of_atoms (by simp [Cell.slots, polling]) polling
  | 1 | 3 =>
      cases hcell
      exact List.forall_mem_singleton.mpr (has_ref.mpr (by decide))
  | 2 =>
      cases hcell
      exact hasAll_nil polling
  | n + 4 => cases hcell

theorem isWhole_polling : polling.IsWhole :=
  ⟨fun _ _ => parts_polling, fun _ _ hkept => nomatch hkept⟩

end World

/-- The votes are counted in a new set of two numbers. -/
theorem Plan.build_collects_votes : ∃ (p : Plan Converter) (a : Assignment Converter)
    (w' w₁ : World),
    (build World.polling.classes .empty (.cls (.declared "Ballot")) (.cls (.declared "Count"))
      false).outcome = .ok p ∧
    a ∈ p.assignments ∧
    World.Copies .set (.builtin .int) (World.polling.alloc (.seq .set [])).1 4
      [.atom (.str "2"), .atom (.str "1"), .atom (.str "2")]
      (World.polling.transferred a (.ref 1)) ∧
    World.polling.transferMember a (.ref 1) (.ref 3) = (w', none) ∧
    World.StoresMade a (.ref 1) 3 World.polling w' w₁ 4 (.ref 4) ∧
    w'.store.get? 4 = some (.seq .set [.atom (.int 2), .atom (.int 1)]) := by
  have hfacts : (build World.polling.classes (Registry.empty : Registry Converter)
      (.cls (.declared "Ballot")) (.cls (.declared "Count")) false).outcome.toOption.map
        (fun p => p.assignments.map fun a => decide (a.source.name = "votes" ∧
          a.target.collectionKind? = some .set ∧
          a.operation.collects? (.builtin .int) = some (.set, true) ∧
          (World.polling.transferMember a (.ref 1) (.ref 3)).2 = none ∧
          (World.polling.transferred a (.ref 1)).2.toOption = some (.ref 4) ∧
          (World.polling.transferMember a (.ref 1) (.ref 3)).1.store.get? 4 =
            some (.seq .set [.atom (.int 2), .atom (.int 1)]))) =
      some [true] := by decide +kernel
  obtain ⟨p, hp, hfacts⟩ := Option.map_eq_some_iff.mp hfacts
  rw [toOption_eq_some] at hp
  obtain ⟨a, hassignments, ha⟩ := List.map_eq_singleton_iff.mp hfacts
  obtain ⟨hname, hkind, hcollects, hsucceeds, hmade, hcell⟩ := of_decide_eq_true ha
  have hmem : a ∈ p.assignments := by simp [hassignments]
  have hread : (World.polling.alloc (.seq .set [])).1.getAttribute (.ref 1) a.source.name =
      .ok ((World.polling.alloc (.seq .set [])).1, .ref 0) := by
    rw [hname]
    rfl
  obtain ⟨-, -, -, hcopies, hstores⟩ := build_collects hp hmem (Operation.eq_of_collects? hcollects)
    hkind World.isWhole_polling (World.has_ref.mpr (by decide : 1 < World.polling.store.size))
  have hstep : World.polling.transferMember a (.ref 1) (.ref 3) =
      ((World.polling.transferMember a (.ref 1) (.ref 3)).1, none) := Prod.ext rfl hsucceeds
  obtain ⟨-, -, -, -, -, hstored⟩ := hstores 3 (by decide)
  obtain ⟨w₁, q, stored, hmakes, -⟩ := hstored _ hstep
  obtain rfl := hmakes.plain rfl
  rw [hmakes.made] at hmade
  cases hmade
  have hyields : (World.polling.alloc (.seq .set [])).1.yielded (.ref 0) =
      .ok ((World.polling.alloc (.seq .set [])).1,
        [.atom (.str "2"), .none, .atom (.str "1"), .atom (.str "2")]) := rfl
  exact ⟨p, a, _, w₁, hp, hmem, hcopies rfl _ _ _ _ hread hyields, hstep, hmakes, hcell⟩

/-- Schedules with a moment for a day, in a list and behind an iterator, and a diary that validates
what is assigned to it. -/
def World.scheduling : World where
  classes := [
    Plan.annotatedClass "Schedule" [("days", .applied (.builtin .list) [.builtin .object])],
    ⟨⟨"Diary", .model ⟨none, none, some true, none⟩, [.builtin .baseModel], none,
      [.field ⟨"days", .applied (.builtin .list) [.builtin .date], .missing, false, none, true,
        none⟩], none⟩,
      [.declared "Diary", .builtin .baseModel, .builtin .object]⟩]
  store :=
    let moment : Moment := ⟨⟨2020, 1, 2, by decide⟩, .midnight, none⟩
    ⟨#[.seq .list [.atom (.datetime moment)], .object "Schedule" none [("days", .ref 0)],
      .seq .list [], .object "Diary" none [("days", .ref 2)],
      .seq (.iterator 0) [.atom (.datetime moment)], .object "Schedule" none [("days", .ref 4)]]⟩
  constants := []
  schemas := .empty

/-- The moment is converted to itself, but the diary holds its day; and an iterator over the moment
has nothing left when it has been copied. -/
theorem Plan.build_collects_days : ∃ (p : Plan Converter) (a : Assignment Converter) (w' : World)
    (q : Place) (moment : Moment) (day : Date),
    (build World.scheduling.classes .empty (.cls (.declared "Schedule"))
      (.cls (.declared "Diary")) false).outcome = .ok p ∧
    a ∈ p.assignments ∧ a.target.collectionKind? = some .list ∧
    a.operation = .copyCollection (.builtin .date) .list true ∧
    World.scheduling.getAttribute (.ref 1) a.source.name = .ok (World.scheduling, .ref 0) ∧
    World.scheduling.store.get? 0 = some (.seq .list [.atom (.datetime moment)]) ∧
    Conversion.convertWith World.scheduling.classes World.scheduling.schemas
      (World.scheduling.load (.atom (.datetime moment))) (.builtin .date) =
        .ok (.atom (.datetime moment)) ∧
    World.scheduling.transferMember a (.ref 1) (.ref 3) = (w', none) ∧
    w'.held? 3 "days" = some (.ref q) ∧
    w'.store.get? q = some (.seq .list [.atom (.date day)]) ∧
    World.scheduling.getAttribute (.ref 5) a.source.name = .ok (World.scheduling, .ref 4) ∧
    World.scheduling.store.get? 4 = some (.seq (.iterator 0) [.atom (.datetime moment)]) ∧
    (World.scheduling.transferMember a (.ref 5) (.ref 3)).1.store.get? 4 =
      some (.seq (.iterator 1) []) := by
  have hfacts : (build World.scheduling.classes (Registry.empty : Registry Converter)
      (.cls (.declared "Schedule")) (.cls (.declared "Diary")) false).outcome.toOption.map
        (fun p => p.assignments.map fun a => decide (a.source.name = "days" ∧
          a.target.collectionKind? = some .list ∧
          a.operation.collects? (.builtin .date) = some (.list, true) ∧
          (World.scheduling.transferMember a (.ref 1) (.ref 3)).2 = none ∧
          (World.scheduling.transferMember a (.ref 1) (.ref 3)).1.held? 3 "days" =
            some (.ref 7) ∧
          (World.scheduling.transferMember a (.ref 1) (.ref 3)).1.store.get? 7 =
            some (.seq .list [.atom (.date ⟨2020, 1, 2, by decide⟩)]) ∧
          (World.scheduling.transferMember a (.ref 5) (.ref 3)).1.store.get? 4 =
            some (.seq (.iterator 1) []))) =
      some [true] := by decide +kernel
  obtain ⟨p, hp, hfacts⟩ := Option.map_eq_some_iff.mp hfacts
  rw [toOption_eq_some] at hp
  obtain ⟨a, hassignments, ha⟩ := List.map_eq_singleton_iff.mp hfacts
  obtain ⟨hname, hkind, hcollects, hsucceeds, hheld, hcell, hspent⟩ := of_decide_eq_true ha
  have hmem : a ∈ p.assignments := by simp [hassignments]
  have hread : World.scheduling.getAttribute (.ref 1) a.source.name =
      .ok (World.scheduling, .ref 0) := by
    rw [hname]
    rfl
  have hread' : World.scheduling.getAttribute (.ref 5) a.source.name =
      .ok (World.scheduling, .ref 4) := by
    rw [hname]
    rfl
  exact ⟨p, a, _, 7, _, _, hp, hmem, hkind, Operation.eq_of_collects? hcollects, hread, rfl,
    by cbv, Prod.ext rfl hsucceeds, hheld, hcell, hread', rfl, hspent⟩

end Memberwise
