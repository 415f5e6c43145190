import Memberwise.Proofs.Mapper.Transfer
import Memberwise.Proofs.Parallel.Exchange

/-! # Running a mutator again

A mutator that is run again on the same objects does what it did at first.  Its target is written
to, but what it reads is not; so the second run reads counterparts of what the first one read, and
its writes, one after another, leave nothing of the first ones.
-/

namespace Memberwise

namespace World

theorem renameNamed_writeAll (r : Correspondence) (attributes ws : List (String × Slot)) :
    renameNamed r (writeAll attributes ws) =
      writeAll (renameNamed r attributes) (renameNamed r ws) := by
  induction ws generalizing attributes with
  | nil => rfl
  | cons write rest ih =>
      have hput := renameNamed_putAttribute (r := r) attributes write.1 write.2
      exact (ih _).trans (congrArg (writeAll · (renameNamed r rest)) hput)

theorem rename_writeAll (r : Correspondence) (ws : List (String × Slot)) (cell : Cell) :
    (cell.writeAll ws).rename r.place = (cell.rename r.place).writeAll (renameNamed r ws) := by
  cases cell with
  | seq | dict => rfl
  | object name core attributes =>
      exact congrArg (Cell.object name core) (renameNamed_writeAll r attributes ws)

/-! ## What a run comes upon -/

variable {w w₁ w₂ : World} {source target slot : Slot} {steps : List (Assignment Converter)}
  {p q : Place} {r : Correspondence}

/-- Whether a run of steps can come upon an object: one that is reached from its source, from what
a class keeps, or from a value that a step stores as it is given. -/
inductive Meets (w : World) (source : Slot) (steps : List (Assignment Converter)) (q : Place) :
    Prop
  | read (further : w.store.Reaches source q)
  | kept {key : ConstantKey} {slot : Slot} (found : w.constants.lookup key = some slot)
      (further : w.store.Reaches slot q)
  | given {a : Assignment Converter} {p : Place} (step : a ∈ steps) (place : p ∈ a.operation.places)
      (further : w.store.Reaches (.ref p) q)

/-- Whether the values that steps store as they are given are there. -/
def HasGiven (w : World) (steps : List (Assignment Converter)) : Prop :=
  ∀ a ∈ steps, ∀ p ∈ a.operation.places, p < w.store.size

theorem Meets.part (h : w.Meets source steps p) {cell : Cell} (found : w.store.get? p = some cell)
    (holds : slot ∈ cell.slots) (further : w.store.Reaches slot q) :
    w.Meets source steps q := by
  cases h with
  | read h => exact .read (h.trans found holds further)
  | kept hkept h => exact .kept hkept (h.trans found holds further)
  | given hstep hplace h => exact .given hstep hplace (h.trans found holds further)

theorem IsWhole.lt_of_meets (h : w.IsWhole) (hsource : w.Has source) (hgiven : w.HasGiven steps)
    (hmeets : w.Meets source steps p) : p < w.store.size := by
  cases hmeets with
  | read hreaches => exact h.lt_of_reaches hsource hreaches
  | kept hkept hreaches => exact h.lt_of_reaches (h.constants _ _ hkept) hreaches
  | given hstep hplace hreaches =>
      exact h.lt_of_reaches (has_ref.mpr (hgiven _ hstep _ hplace)) hreaches

/-! ## The second run beside the first -/

/-- The objects that a run comes upon are their own counterparts in a run that starts later, and
the new objects of the one correspond to those of the other. -/
def later (w w₁ : World) (source : Slot) (steps : List (Assignment Converter))
    (h : w.store.size ≤ w₁.store.size) : Correspondence :=
  exchanged Function.injective_id (w.Meets source steps) h

/-- Where nothing has changed but the target, a run finds everything as it was. -/
theorem exchanges_met (hwhole : w.IsWhole) (hsource : w.Has source) (hgiven : w.HasGiven steps)
    (happart : ∀ q, w.Meets source steps q → target ≠ .ref q)
    (hchanged : ChangesOnly (target = .ref ·) w w₁) :
    Exchanges id (w.Meets source steps) w w₁ := by
  refine ⟨⟨Function.injective_id, fun q => hwhole.lt_of_meets hsource hgiven, fun q hq => ?_, ?_,
    ?_⟩, fun _ _ => rfl⟩
  · have hlt := hwhole.lt_of_meets hsource hgiven hq
    have hsame : Cell.rename id = id := funext Cell.rename_id
    rw [hsame, Option.map_id]
    exact hchanged.cells q hlt (happart q hq)
  · rintro q cell hq hcell slot hslot part rfl
    exact hq.part hcell hslot (.self part)
  · rintro key slot hkept q rfl
    exact ⟨.kept hkept (.self q), rfl⟩

theorem later_parallel (hwhole : w.IsWhole) (hsource : w.Has source) (hgiven : w.HasGiven steps)
    (happart : ∀ q, w.Meets source steps q → target ≠ .ref q)
    (hchanged : ChangesOnly (target = .ref ·) w w₁) :
    Parallel (later w w₁ source steps hchanged.size) (some w₁.schemas) w w₁ :=
  (exchanges_met hwhole hsource hgiven happart hchanged).parallel hchanged.classes
    hchanged.constants hchanged.size

/-- A run that meets no iterator spends none. -/
theorem keepsIterators_of_meets (hwhole : w.IsWhole) (hsource : w.Has source)
    (hgiven : w.HasGiven steps) (happart : ∀ q, w.Meets source steps q → target ≠ .ref q)
    (hlasting : ∀ q, w.Meets source steps q → ¬ w.IsIterator q) :
    w.KeepsIterators (target = .ref ·) source steps := by
  have hself := exchanges_met hwhole hsource hgiven happart (.refl _ w)
  refine hself.keepsIterators ?_ (fun q hq => ⟨happart q hq, hlasting q hq⟩) steps
  rintro q rfl
  exact .read (.self q)

theorem later_pairs (steps : List (Assignment Converter)) (hsource : w.Has source)
    (h : w.store.size ≤ w₁.store.size) : (later w w₁ source steps h).Pairs source source := by
  constructor
  · rintro q rfl
    exact .inl (.read (.self q))
  · symm
    apply Slot.rename_of_within
    rintro q rfl
    exact beyond_of_lt (has_ref.mp hsource)

theorem later_isShared (hgiven : w.HasGiven steps) (h : w.store.size ≤ w₁.store.size)
    {a : Assignment Converter} (ha : a ∈ steps) :
    a.IsShared (later w w₁ source steps h) w.classes where
  settled _ _ _ _ _ _ _ := trivial
  fixed p hp := ⟨.inl (.given ha hp (.self p)), beyond_of_lt (hgiven a ha p hp)⟩

/-- Whether a world is another one again: with the same classes and schemas, and with each object
where it was or, if it is newer than a given size, in the place of its counterpart. -/
structure Again (n : Nat) (ρ : Place → Place) (w w' : World) : Prop where
  classes : w'.classes = w.classes
  constants : w'.constants = w.constants
  schemas : w'.schemas = w.schemas
  injective : ρ.Injective
  old : ∀ p < n, ρ p = p
  cells : ∀ p, w'.store.get? (ρ p) = (w.store.get? p).map (Cell.rename ρ)
  loads : ∀ slot, w'.load (slot.rename ρ) = (w.load slot).rename ρ

theorem Again.refl (n : Nat) (w : World) : Again n id w w where
  classes := rfl
  constants := rfl
  schemas := rfl
  injective := Function.injective_id
  old _ _ := rfl
  cells p := (Store.Similar.refl w.store).cells p trivial
  loads _ := (Store.Similar.refl w.store).load fun _ _ => trivial

/-- What an object holds itself is the same again. -/
theorem Again.held {n : Nat} {ρ : Place → Place} {w' : World} (h : Again n ρ w w') (hp : p < n)
    (name : String) : w'.held? p name = (w.held? p name).map (Slot.rename ρ) := by
  have hcells := h.cells p
  rw [h.old p hp] at hcells
  unfold held?
  rw [hcells]
  cases w.store.get? p with
  | none => rfl
  | some cell =>
      cases cell with
      | seq | dict => rfl
      | object className core attributes =>
          exact lookup_renameNamed (r := ⟨ρ, fun _ => True, fun _ => True, h.injective⟩) attributes name

/-- What a whole world has is not moved by the places that a second run shifts. -/
theorem IsWhole.rename_beyond (hwhole : w.IsWhole) {cell : Cell}
    (hcell : w.store.get? q = some cell) (n : Nat) : cell.rename (beyond w.store.size n) = cell := by
  apply Cell.rename_of_within
  rintro slot hslot part rfl
  exact beyond_of_lt (has_ref.mp (hwhole.parts q cell hcell _ hslot))

/-- Where the objects that a run came upon or made correspond to those of a second run, and so does
the target, everything does: nothing else has changed. -/
theorem again_of_parallel (hwhole : w.IsWhole) (hchanged : ChangesOnly (target = .ref ·) w w₁)
    (hchanged' : ChangesOnly (target = .ref ·) w₁ w₂)
    (hparallel : Parallel (later w w₁ source steps hchanged.size) (some w₁.schemas) w₁ w₂)
    (htarget : ∀ t, target = .ref t → w₂.store.get? t =
      (w₁.store.get? t).map (Cell.rename (beyond w.store.size w₁.store.size))) :
    Again w.store.size (beyond w.store.size w₁.store.size) w₁ w₂ := by
  have hcells : ∀ q, w₂.store.get? (beyond w.store.size w₁.store.size q) =
      (w₁.store.get? q).map (Cell.rename (beyond w.store.size w₁.store.size)) := by
    intro q
    rcases Nat.lt_or_ge q w.store.size with hq | hq
    · rw [beyond_of_lt hq]
      by_cases hwritten : target = .ref q
      · exact htarget q hwritten
      · rw [hchanged'.cells q (Nat.lt_of_lt_of_le hq hchanged.size) hwritten,
          hchanged.cells q hq hwritten]
        cases hcell : w.store.get? q with
        | none => rfl
        | some cell => exact congrArg some (hwhole.rename_beyond hcell w₁.store.size).symm
    · exact hparallel.store.cells q (.inr hq)
  -- Nothing is left out, so the values of all slots correspond.
  have hsimilar : Store.Similar ⟨beyond w.store.size w₁.store.size, fun _ => True, fun _ => True,
      beyond_injective hchanged.size⟩ w₁.store w₂.store :=
    ⟨hparallel.store.fresh, fun _ => trivial, fun q _ => hcells q, fun _ _ _ _ _ _ _ _ => trivial⟩
  exact ⟨hchanged'.classes, hchanged'.constants, hparallel.schemas', beyond_injective hchanged.size,
    fun _ => beyond_of_lt, hcells, fun _ => hsimilar.load fun _ _ => trivial⟩

/-- What a run leaves of its target is what its steps wrote to it. -/
theorem transferMembers_writes {t : Place} {cell : Cell} (ht : w.store.get? t = some cell)
    (hclass : cell.classOf ≠ .builtin .validatorIterator) (source : Slot) (steps : List (Assignment Converter)) : ∃ ws,
    (w.transferMembers source (.ref t) steps).1.store.get? t = some (cell.writeAll ws) := by
  have hstart : WritesAlike .identity none t cell cell w w :=
    ⟨.refl w, rfl, fun _ _ _ => trivial, [], List.forall_mem_nil _, by rw [ht, Cell.writeAll_nil],
      by rw [renameNamed, List.map_nil, Cell.writeAll_nil]; exact ht⟩
  have hsame : List.Forall₂ Assignment.SameStep steps steps :=
    List.forall₂_same.mpr fun a _ => .refl a
  have hrun := (storing_object .identity none t cell hclass).transferMembers hstart hsame
    (fun a _ => ⟨fun _ _ _ _ _ _ _ => trivial, fun p _ => ⟨trivial, rfl⟩⟩) (pairs_refl source)
    (foreseen_none _)
  obtain ⟨ws, -, hws, -⟩ := hrun.world.written
  exact ⟨ws, hws⟩

/-- A second run leaves of an object counterparts of what the first one wrote to it, over that. -/
theorem get?_written_again {t : Place} {cell : Cell} {us ws : List (String × Slot)}
    (hwhole : w.IsWhole) (hcell : w.store.get? t = some cell) (ht : t < w.store.size)
    (hsize : w.store.size ≤ w₁.store.size)
    (hus : w₁.store.get? t = some (cell.writeAll us))
    (hws : w₁.store.get? t = some (cell.writeAll ws))
    (hws' : w₂.store.get? (beyond w.store.size w₁.store.size t) =
      some ((cell.writeAll us).writeAll (renameNamed (later w w₁ source steps hsize) ws))) :
    w₂.store.get? t = (w₁.store.get? t).map (Cell.rename (beyond w.store.size w₁.store.size)) := by
  have hfirst : cell.writeAll us = cell.writeAll ws := Option.some.inj (hus.symm.trans hws)
  have hover := Cell.writeAll_writeAll (Slot.rename (beyond w.store.size w₁.store.size)) ws cell
  have hwritten := rename_writeAll (later w w₁ source steps hsize) ws cell
  have hfixed := hwhole.rename_beyond hcell w₁.store.size
  calc w₂.store.get? t
      = w₂.store.get? (beyond w.store.size w₁.store.size t) := by rw [beyond_of_lt ht]
    _ = some ((cell.writeAll us).writeAll (renameNamed (later w w₁ source steps _) ws)) := hws'
    _ = some (cell.writeAll (renameNamed (later w w₁ source steps _) ws)) := by
        rw [hfirst]
        exact congrArg some hover
    _ = some ((cell.writeAll ws).rename (beyond w.store.size w₁.store.size)) := by
        refine congrArg some (Eq.trans ?_ hwritten.symm)
        exact congrArg (Cell.writeAll _) hfixed.symm
    _ = (w₁.store.get? t).map (Cell.rename (beyond w.store.size w₁.store.size)) := by
        rw [hws]
        rfl

/-- A run of steps that is done again fails where it failed or comes to an end again, and leaves
everything as it was. -/
theorem transferMembers_again (hwhole : w.IsWhole) (hsource : w.Has source)
    (htarget : w.Has target) (hgiven : w.HasGiven steps)
    (happart : ∀ q, w.Meets source steps q → target ≠ .ref q)
    (hlasting : ∀ q, w.Meets source steps q ∨ target = .ref q → ¬ w.IsIterator q)
    (hw₁ : (w.transferMembers source target steps).1 = w₁) :
    (w₁.transferMembers source target steps).2 = (w.transferMembers source target steps).2 ∧
      Again w.store.size (beyond w.store.size w₁.store.size) w₁
        (w₁.transferMembers source target steps).1 := by
  have hkeeps := keepsIterators_of_meets hwhole hsource hgiven happart fun q hq => hlasting q (.inl hq)
  have hchanged : ChangesOnly (target = .ref ·) w w₁ := hw₁ ▸ transferMembers_changesOnly hkeeps
  have hchanged' := transferMembers_changesOnly (hkeeps.later hchanged)
  have hstart := later_parallel hwhole hsource hgiven happart hchanged
  have hsame : List.Forall₂ Assignment.SameStep steps steps :=
    List.forall₂_same.mpr fun a _ => .refl a
  have hshared : ∀ a ∈ steps, a.IsShared (later w w₁ source steps hchanged.size) w.classes :=
    fun a ha => later_isShared hgiven hchanged.size ha
  have hpairs := later_pairs steps hsource hchanged.size
  have hforeseen : Foreseen (some w₁.schemas) (w.transferMembers source target steps).1 := by
    rintro later ⟨⟩
    rw [hw₁]
    exact .refl _ _
  cases target with
  | atom a =>
      have hrun := (storing_atom a).transferMembers hstart hsame hshared hpairs hforeseen
      refine ⟨hrun.result.symm, ?_⟩
      have hworld := hrun.world
      rw [hw₁] at hworld
      exact again_of_parallel hwhole hchanged hchanged' hworld nofun
  | ref t =>
      have ht : t < w.store.size := has_ref.mp htarget
      have hplace : beyond w.store.size w₁.store.size t = t := beyond_of_lt ht
      obtain ⟨cell, hcell⟩ : ∃ cell, w.store.get? t = some cell := by
        rw [← Option.isSome_iff_exists, Store.isSome_get?]
        exact decide_eq_true ht
      have hclass : cell.classOf ≠ .builtin .validatorIterator := fun hclass =>
        hlasting t (.inr rfl) (isIterator_of_classOf hcell hclass)
      obtain ⟨us, hus⟩ := transferMembers_writes hcell hclass source steps
      rw [hw₁] at hus
      have hwriting : WritesAlike (later w w₁ source steps hchanged.size) (some w₁.schemas) t cell
          (cell.writeAll us) w w₁ := by
        refine ⟨hstart, Writing.hollow_writeAll us cell, fun _ _ _ => trivial, [],
          List.forall_mem_nil _, ?_, ?_⟩
        · rw [hcell, Cell.writeAll_nil]
        · show w₁.store.get? (beyond _ _ t) = _
          rw [hplace, hus, renameNamed, List.map_nil, Cell.writeAll_nil]
      have hstoring := storing_object (later w w₁ source steps hchanged.size) (some w₁.schemas) t
        (cell.writeAll us) hclass
      rw [show (later w w₁ source steps hchanged.size).place t = t from hplace] at hstoring
      have hrun := hstoring.transferMembers hwriting hsame hshared hpairs hforeseen
      refine ⟨hrun.result.symm, ?_⟩
      have hworld := hrun.world
      rw [hw₁] at hworld
      refine again_of_parallel hwhole hchanged hchanged' hworld.similar ?_
      rintro _ ⟨⟩
      obtain ⟨ws, -, hws, hws'⟩ := hworld.written
      exact get?_written_again hwhole hcell ht hchanged.size hus hws hws'

/-- A mutator that is run twice on objects fails both times with the same fault or comes to an end
both times, and leaves everything as it was after the first run: its target with the same
attributes, up to the places of new objects.  The target must be none of the objects that the
mutator comes upon, and no iterator may be among them, which would yield nothing the second time. -/
theorem mutate_again (f : MapFunction) (hwhole : w.IsWhole) (hsource : w.Has source)
    (htarget : w.Has target) (hgiven : w.HasGiven f.steps)
    (happart : ∀ q, w.Meets source f.steps q → target ≠ .ref q)
    (hlasting : ∀ q, w.Meets source f.steps q ∨ target = .ref q → ¬ w.IsIterator q)
    (hw₁ : (w.mutate f source target).1 = w₁) :
    (w₁.mutate f source target).2 = (w.mutate f source target).2 ∧
      ∃ ρ, Again w.store.size ρ w₁ (w₁.mutate f source target).1 ∧
        ∀ t, target = .ref t → ∀ name, (w₁.mutate f source target).1.held? t name =
          (w₁.held? t name).map (Slot.rename ρ) := by
  have hagain : (w₁.mutate f source target).2 = (w.mutate f source target).2 ∧
      ∃ ρ, Again w.store.size ρ w₁ (w₁.mutate f source target).1 := by
    unfold mutate at hw₁ ⊢
    by_cases hcreates : f.creates.isSome = true
    · rw [if_pos hcreates] at hw₁ ⊢
      rw [if_pos hcreates]
      exact ⟨rfl, id, .refl _ _⟩
    · rw [if_neg hcreates] at hw₁ ⊢
      rw [if_neg hcreates]
      by_cases habsent : (source.isNone || target.isNone) = true
      · rw [if_pos habsent] at hw₁ ⊢
        rw [if_pos habsent]
        exact ⟨rfl, id, .refl _ _⟩
      · rw [if_neg habsent] at hw₁ ⊢
        rw [if_neg habsent]
        have hrun := transferMembers_again hwhole hsource htarget hgiven happart hlasting hw₁
        exact ⟨hrun.1, _, hrun.2⟩
  obtain ⟨houtcome, ρ, hworld⟩ := hagain
  refine ⟨houtcome, ρ, hworld, ?_⟩
  rintro t rfl name
  exact hworld.held (has_ref.mp htarget) name

/-- A draft without tags and a leaf, both of classes that take any attribute. -/
def drafting : World where
  classes := ["Draft", "Leaf"].map fun name =>
    ⟨⟨name, .plain, [], none, [], none⟩, [.declared name, .builtin .object]⟩
  store := ⟨#[
    .object "Draft" none [("tags", .none), ("title", .atom (.str "Ferns"))],
    .object "Leaf" none []]⟩
  constants := []
  schemas := .empty

/-- A plan that stores a new list in the place of absent tags, and then copies the title. -/
def draftingPlan : Plan Converter where
  source := .declared "Draft"
  target := .declared "Leaf"
  createsTarget := false
  steps :=
    let member (name : String) := Member.describe drafting.classes name (.builtin .str) true true
    [.assignment ⟨member "tags", member "tags", .mismatchedNullability,
        .unwrapOr (.seq none .list [])⟩,
      .assignment ⟨member "title", member "title", .matchingNullability, .assign⟩]

theorem mutate_again_leaf : ∃ f w₁ w₂ ρ,
    draftingPlan.compileMutator drafting.classes = .ok f ∧
    drafting.mutate f (.ref 0) (.ref 1) = (w₁, none) ∧ w₁.mutate f (.ref 0) (.ref 1) = (w₂, none) ∧
    w₁.held? 1 "tags" = some (.ref 2) ∧ w₂.held? 1 "tags" = some (.ref 3) ∧
    Again 2 ρ w₁ w₂ := by
  obtain ⟨f, w₁, w₂, hf, hsteps, hrun, hrun', htags, htags'⟩ : ∃ f w₁ w₂,
      draftingPlan.compileMutator drafting.classes = .ok f ∧ f.steps = draftingPlan.assignments ∧
      drafting.mutate f (.ref 0) (.ref 1) = (w₁, none) ∧ w₁.mutate f (.ref 0) (.ref 1) = (w₂, none) ∧
      w₁.held? 1 "tags" = some (.ref 2) ∧ w₂.held? 1 "tags" = some (.ref 3) :=
    ⟨_, _, _, rfl, rfl, rfl, rfl, rfl, rfl⟩
  have hatoms : ∀ p cell, drafting.store.get? p = some cell → ∀ slot ∈ cell.slots,
      ∃ a, slot = .atom a := by
    intro p cell hcell
    match p with
    | 0 =>
        cases hcell
        exact List.forall_mem_cons.mpr ⟨⟨_, rfl⟩, List.forall_mem_singleton.mpr ⟨_, rfl⟩⟩
    | 1 =>
        cases hcell
        exact List.forall_mem_nil _
    | n + 2 => cases hcell
  have hwhole : drafting.IsWhole := by
    refine ⟨fun p cell hcell slot hslot => ?_, fun key slot hkept => nomatch hkept⟩
    obtain ⟨a, rfl⟩ := hatoms p cell hcell slot hslot
    exact has_atom _ a
  have hplaces : ∀ a ∈ f.steps, a.operation.places = [] := by
    rw [hsteps]
    exact List.forall_mem_cons.mpr ⟨rfl, List.forall_mem_singleton.mpr rfl⟩
  have hgiven : drafting.HasGiven f.steps := by
    intro a ha p hp
    rw [hplaces a ha] at hp
    cases hp
  have happart : ∀ q, drafting.Meets (.ref 0) f.steps q → Slot.ref 1 ≠ .ref q := by
    rintro q hmeets ⟨⟩
    cases hmeets with
    | read h =>
        cases h with
        | part hfound hholds hfurther =>
            obtain ⟨a, rfl⟩ := hatoms _ _ hfound _ hholds
            cases hfurther
    | kept hkept => cases hkept
    | given ha hp =>
        rw [hplaces _ ha] at hp
        cases hp
  have hlasting : ∀ q, drafting.Meets (.ref 0) f.steps q ∨ Slot.ref 1 = .ref q →
      ¬ drafting.IsIterator q := by
    rintro q - ⟨yielded, items, hcell⟩
    match q with
    | 0 | 1 | n + 2 => cases hcell
  obtain ⟨-, ρ, hagain, -⟩ := mutate_again f hwhole (has_ref.mpr (by decide))
    (has_ref.mpr (by decide)) hgiven happart hlasting (congrArg Prod.fst hrun)
  rw [hrun'] at hagain
  exact ⟨f, w₁, w₂, ρ, hf, hrun, hrun', htags, htags', hagain⟩

/-- A box is unpacked twice: what it yielded the first time is not there the second time. -/
theorem mutate_again_unpacking : ∃ f w₁ w₂,
    unpackingPlan.compileMutator unpacking.classes = .ok f ∧
    unpacking.mutate f (.ref 0) (.ref 1) = (w₁, none) ∧
    w₁.mutate f (.ref 0) (.ref 1) = (w₂, none) ∧
    w₁.held? 1 "items" = some (.ref 3) ∧
    w₁.store.get? 3 = some (.seq .list [.atom (.str "a")]) ∧
    w₂.held? 1 "items" = some (.ref 4) ∧ w₂.store.get? 4 = some (.seq .list []) := by
  have hruns : (unpackingPlan.compileMutator unpacking.classes).toOption.map (fun f =>
      let once := unpacking.mutate f (.ref 0) (.ref 1)
      let twice := once.1.mutate f (.ref 0) (.ref 1)
      ([once.2, twice.2], [once.1.held? 1 "items", twice.1.held? 1 "items"],
        [once.1.store.get? 3, twice.1.store.get? 4])) =
      some ([none, none], [some (.ref 3), some (.ref 4)],
        [some (.seq .list [.atom (.str "a")]), some (.seq .list [])]) := by decide +kernel
  obtain ⟨f, hf, hruns⟩ := Option.map_eq_some_iff.mp hruns
  rw [toOption_eq_some] at hf
  simp only [Prod.mk.injEq, List.cons.injEq, and_true] at hruns
  obtain ⟨⟨honce, htwice⟩, ⟨hheld, hheld'⟩, hcopy, hcopy'⟩ := hruns
  exact ⟨f, _, _, hf, Prod.ext rfl honce, Prod.ext rfl htwice, hheld, hcopy, hheld', hcopy'⟩

end World

end Memberwise
