import Memberwise.Proofs.Parallel.Create
import Memberwise.Proofs.Value.Shown
import Memberwise.Converter.Application

/-! # Converters in worlds that correspond

A converter makes the same of values that correspond: it looks at what they hold, never at where
they are.
-/

namespace Memberwise

/-- A pure function passes on objects of its argument and no others. -/
theorem PureFunction.within_apply (f : PureFunction) {C : Place → Prop} {v u : Value}
    (hv : v.Within C) (hu : f.apply v = .ok u) : u.Within C := by
  have hcommutes : ∀ ρ : Place → Place, ρ.Injective →
      (f.apply (v.rename ρ)).toOption = (f.apply v).toOption.map (Value.rename ρ) := by
    intro ρ hρ
    rw [f.natural ρ fun p q h => hρ h]
    cases f.apply v <;> rfl
  exact Value.Within.of_commutes (f := fun v => (f.apply v).toOption) hcommutes hv
    (toOption_eq_some.mpr hu)

namespace World

variable {r : Correspondence} {known known' : SchemaCache} {w w' : World} {v v' : Slot}

/-! ## What a value is -/

theorem Similar.scalarOf? (h : Similar r known known' w w') (hv : r.Pairs v v') :
    w'.scalarOf? v' = w.scalarOf? v := by
  cases v with
  | atom a =>
      rw [hv.2]
      exact h.alike.scalarOf? _
  | ref p =>
      obtain ⟨q, rfl, hq⟩ := h.cell hv
      simp only [World.scalarOf?, hq]
      cases w.store.get? p with
      | none => rfl
      | some cell => cases cell <;> rfl

/-- Whether collections are of the same kind and hold elements that correspond. -/
def PairsItems (r : Correspondence) (a b : SeqKind × List Slot) : Prop :=
  b.1 = a.1 ∧ PairsAll r a.2 b.2

theorem Similar.predefinedItems? (h : Similar r known known' w w') (hv : r.Pairs v v') :
    Option.Rel (PairsItems r) (w.predefinedItems? v) (w'.predefinedItems? v') := by
  cases v with
  | atom a =>
      rw [hv.2]
      exact .none
  | ref p =>
      obtain ⟨q, rfl, hq⟩ := h.cell hv
      simp only [World.predefinedItems?, hq]
      cases hcell : w.store.get? p with
      | none => exact .none
      | some cell =>
          cases cell with
          | dict | object => exact .none
          | seq kind items =>
              have hitems : PairsItems r (kind, items) (kind, items.map (Slot.rename r.place)) :=
                ⟨rfl, h.slots_within hv hcell, rfl⟩
              cases kind with
              | bag | iterator => exact .none
              | _ => exact .some hitems

/-- Two slots that correspond hold sequences of one kind with items that correspond, or neither
holds a sequence. -/
theorem Similar.predefinedItems?_cases (h : Similar r known known' w w') (hv : r.Pairs v v') :
    (w.predefinedItems? v = none ∧ w'.predefinedItems? v' = none) ∨
    ∃ (kind : SeqKind) (items items' : List Slot), w.predefinedItems? v = some (kind, items) ∧
      w'.predefinedItems? v' = some (kind, items') ∧ PairsAll r items items' := by
  have hitems := h.predefinedItems? hv
  revert hitems
  generalize w.predefinedItems? v = found
  generalize w'.predefinedItems? v' = found'
  intro hitems
  cases hitems with
  | none => exact .inl ⟨rfl, rfl⟩
  | @some found found' hitems =>
      obtain ⟨kind, items⟩ := found
      obtain ⟨kind', items'⟩ := found'
      obtain ⟨rfl, hitems⟩ : kind' = kind ∧ PairsAll r items items' := hitems
      exact .inr ⟨_, _, _, rfl, rfl, hitems⟩

theorem Similar.mapItems (h : Similar r known known' w w') (hv : r.Pairs v v') {α : Type}
    {f : SeqKind × List Slot → α} (hf : ∀ a b, PairsItems r a b → f b = f a) :
    (w'.predefinedItems? v').map f = (w.predefinedItems? v).map f := by
  obtain ⟨hnone, hnone'⟩ | ⟨kind, items, items', hsome, hsome', hitems⟩ :=
    h.predefinedItems?_cases hv
  · rw [hnone, hnone']
  · rw [hsome, hsome']
    exact congrArg some (hf _ _ ⟨rfl, hitems⟩)

theorem Similar.isTrue (h : Similar r known known' w w') (hv : r.Pairs v v') :
    w'.isTrue v' = w.isTrue v := by
  have hitems := h.mapItems hv (f := fun found => !found.2.isEmpty) fun a b hab => by
    rw [pairsAll_isEmpty hab.2]
  unfold World.isTrue
  rw [h.scalarOf? hv]
  cases w.scalarOf? v with
  | some a => rfl
  | none =>
      cases v with
      | atom a =>
          rw [hv.2]
          rfl
      | ref p =>
          obtain ⟨q, rfl, hq⟩ := h.cell hv
          simp only [hq]
          cases hcell : w.store.get? p with
          | none => exact congrArg (Option.getD · true) hitems
          | some cell =>
              cases cell with
              | dict entries => exact congrArg not List.isEmpty_map
              | seq | object => exact congrArg (Option.getD · true) hitems

/-- The number of elements that an object holds itself. -/
def heldLength? (w : World) : Slot → Option Nat
  | .atom _ => none
  | .ref p =>
    match w.store.get? p with
    | some (.dict entries) => some entries.length
    | _ => (w.predefinedItems? (.ref p)).map (·.2.length)

theorem lengthOf?_eq (w : World) (slot : Slot) : w.lengthOf? slot =
    match w.scalarOf? slot with
    | some (.str s) => some s.length
    | some (.bytes content) => some content.length
    | some (.classRef (.declared name)) =>
      if w.classes.isEnumeration (.declared name) then some (w.classes.properMembers name).length
      else none
    | _ => w.heldLength? slot := by
  unfold lengthOf?
  cases w.scalarOf? slot with
  | none => cases slot <;> rfl
  | some a =>
      cases a with
      | classRef c => cases c <;> cases slot <;> rfl
      | _ => cases slot <;> rfl

theorem Similar.heldLength? (h : Similar r known known' w w') (hv : r.Pairs v v') :
    w'.heldLength? v' = w.heldLength? v := by
  have hitems := h.mapItems hv (f := fun found => found.2.length) fun a b hab =>
    pairsAll_length hab.2
  cases v with
  | atom a =>
      rw [hv.2]
      rfl
  | ref p =>
      obtain ⟨q, rfl, hq⟩ := h.cell hv
      simp only [World.heldLength?, hq]
      cases w.store.get? p with
      | none => exact hitems
      | some cell =>
          cases cell with
          | dict entries => exact congrArg some (List.length_map _)
          | seq | object => exact hitems

theorem Similar.lengthOf? (h : Similar r known known' w w') (hv : r.Pairs v v') :
    w'.lengthOf? v' = w.lengthOf? v := by
  rw [lengthOf?_eq, lengthOf?_eq, h.scalarOf? hv, h.heldLength? hv]
  simp only [h.alike.isEnumeration, h.alike.properMembers]

/-! ## What functions make of values -/

theorem pairsAll_map {slots slots' : List Slot} (h : PairsAll r slots slots') {f : Slot → Slot}
    (hf : ∀ v v', r.Pairs v v' → r.Pairs (f v) (f v')) : PairsAll r (slots.map f) (slots'.map f) := by
  constructor
  · exact List.forall_mem_map.mpr fun slot hslot => (hf slot _ ⟨h.1 slot hslot, rfl⟩).1
  · rw [h.2, List.map_map, List.map_map]
    apply List.map_congr_left
    intro slot hslot
    exact (hf slot _ ⟨h.1 slot hslot, rfl⟩).2

theorem Similar.double (h : Similar r known known' w w') (hv : r.Pairs v v') :
    Agree (Both r known known' r.Pairs) (w.double v) (w'.double v') := by
  unfold World.double
  rw [h.scalarOf? hv]
  cases w.scalarOf? v with
  | some a =>
      have hdouble := Agree.refl (T := Eq) (fun _ => rfl) (doubleAtom a)
      exact hdouble.map fun _ _ hab => ⟨h, hab ▸ pairs_atom _⟩
  | none =>
      obtain ⟨hnone, hnone'⟩ | ⟨kind, items, items', hsome, hsome', hitems⟩ :=
        h.predefinedItems?_cases hv
      · simp only [hnone, hnone']
        exact .error _
      · simp only [hsome, hsome']
        cases kind with
        | set | frozenset => exact .error _
        | _ => exact .ok (h.alloc_seq _ (pairsAll_append hitems hitems))

theorem Similar.upper (h : Similar r known known' w w') (hv : r.Pairs v v') :
    Agree (Both r known known' r.Pairs) (w.upper v) (w'.upper v') := by
  unfold World.upper
  rw [h.scalarOf? hv]
  cases w.scalarOf? v with
  | some a =>
      cases a with
      | str s => exact .ok ⟨h, pairs_atom _⟩
      | bytes content => exact .ok ⟨h, pairs_atom _⟩
      | _ => exact .error _
  | none =>
      obtain ⟨hnone, hnone'⟩ | ⟨kind, items, items', hsome, hsome', hitems⟩ :=
        h.predefinedItems?_cases hv
      · simp only [hnone, hnone']
        exact .error _
      · simp only [hsome, hsome']
        cases kind with
        | bytearray =>
            apply Agree.ok
            apply h.alloc_seq
            apply pairsAll_map hitems
            intro v v' hv
            rw [hv.2]
            cases v with
            | ref p => exact ⟨hv.1, rfl⟩
            | atom a => cases a <;> exact pairs_atom _
        | _ => exact .error _

theorem Similar.digitsOf? (h : Similar r known known' w w') (hv : r.Pairs v v') :
    w'.digitsOf? v' = w.digitsOf? v := by
  unfold World.digitsOf?
  obtain ⟨hnone, hnone'⟩ | ⟨kind, items, items', hsome, hsome', -, rfl⟩ :=
    h.predefinedItems?_cases hv
  · rw [hnone, hnone']
  · simp only [hsome, hsome', Option.bind_some, List.mapM_map]
    split
    · congr 1
      funext slot
      cases slot <;> rfl
    · rfl

theorem Similar.decimalOfParts (h : Similar r known known' w w') {slots slots' : List Slot}
    (hslots : PairsAll r slots slots') : w'.decimalOfParts slots' = w.decimalOfParts slots := by
  obtain ⟨hwithin, rfl⟩ := hslots
  cases slots with
  | nil => rfl
  | cons sign rest =>
      cases rest with
      | nil => rfl
      | cons digits rest =>
          cases rest with
          | nil => rfl
          | cons exponent rest =>
              cases rest with
              | cons => rfl
              | nil =>
                  have hdigits : w'.digitsOf? (digits.rename r.place) = w.digitsOf? digits :=
                    h.digitsOf? ⟨hwithin digits (by simp), rfl⟩
                  simp only [List.map_cons, List.map_nil, World.decimalOfParts, hdigits]
                  cases sign <;> cases exponent <;> rfl

theorem Similar.toDecimal (h : Similar r known known' w w') (hv : r.Pairs v v') :
    w'.toDecimal v' = w.toDecimal v := by
  unfold World.toDecimal
  rw [h.scalarOf? hv]
  cases w.scalarOf? v with
  | some a => cases a <;> rfl
  | none =>
      obtain ⟨hnone, hnone'⟩ | ⟨kind, items, items', hsome, hsome', hitems⟩ :=
        h.predefinedItems?_cases hv
      · simp only [hnone, hnone']
      · simp only [hsome, hsome']
        cases kind with
        | tuple | list => exact h.decimalOfParts hitems
        | _ => rfl

theorem Similar.toInteger (h : Similar r known known' w w') (hv : r.Pairs v v') :
    w'.toInteger v' = w.toInteger v := by
  unfold World.toInteger
  rw [h.scalarOf? hv]

/-- An entry of a mapping with its value as an integer. -/
def integerEntry (w : World) (entry : Slot × Slot) : Except Fault (Slot × Slot) := do
  .ok (entry.1, .atom (.int (← w.toInteger entry.2)))

theorem Similar.integerEntries (h : Similar r known known' w w') {entries : List (Slot × Slot)}
    (hentries : ∀ entry ∈ entries, entry.1.Within r.covers ∧ entry.2.Within r.covers) :
    Agree (fun made made' =>
        (∀ entry ∈ made, entry.1.Within r.covers ∧ entry.2.Within r.covers) ∧
          made' = made.map fun entry => (entry.1.rename r.place, entry.2.rename r.place))
      (entries.mapM w.integerEntry)
      ((entries.map fun entry => (entry.1.rename r.place, entry.2.rename r.place)).mapM
        w'.integerEntry) := by
  induction entries with
  | nil => exact .ok ⟨fun _ hentry => (nomatch hentry), rfl⟩
  | cons entry rest ih =>
      rw [List.forall_mem_cons] at hentries
      rw [List.map_cons, List.mapM_cons, List.mapM_cons]
      unfold integerEntry
      rw [h.toInteger ⟨hentries.1.2, rfl⟩]
      cases w.toInteger entry.2 with
      | error fault => exact .error _
      | ok n =>
          apply (ih hentries.2).bind
          intro made made' hmade
          apply Agree.ok
          constructor
          · exact List.forall_mem_cons.mpr ⟨⟨hentries.1.1, Slot.within_atom _⟩, hmade.1⟩
          · rw [hmade.2]
            rfl

theorem Similar.toIntegers (h : Similar r known known' w w') (hv : r.Pairs v v') :
    Agree (Both r known known' r.Pairs) (w.toIntegers v) (w'.toIntegers v') := by
  cases v with
  | atom a =>
      rw [hv.2]
      exact .error _
  | ref p =>
      obtain ⟨q, rfl, hq⟩ := h.cell hv
      simp only [World.toIntegers, hq]
      cases hcell : w.store.get? p with
      | none => exact .error _
      | some cell =>
          cases cell with
          | seq | object => exact .error _
          | dict entries =>
              have hslots := h.slots_within hv hcell
              simp only [Option.map_some, Cell.rename]
              have hentries : ∀ entry ∈ entries,
                  entry.1.Within r.covers ∧ entry.2.Within r.covers := fun entry hentry =>
                ⟨hslots _ (Cell.mem_slots_dict hentry).1, hslots _ (Cell.mem_slots_dict hentry).2⟩
              apply (h.integerEntries hentries).bind
              intro made made' hmade
              exact .ok (h.alloc (Cell.forall_slots_dict hmade.1) (congrArg Cell.dict hmade.2))

theorem Similar.toText (h : Similar r known known' w w') (hv : r.Pairs v v') :
    Agree (Both r known known' r.Pairs) (w.toText v) (w'.toText v') := by
  unfold World.toText
  rw [h.load hv, h.alike.plainText_rename]
  cases w.classes.plainText (w.load v) with
  | ok text => exact .ok ⟨h, pairs_atom _⟩
  | error fault => exact .error _

/-- What a function makes of values that correspond corresponds. -/
theorem Similar.applyFunction (h : Similar r known known' w w') (f : Function)
    (hv : r.Pairs v v') :
    Agree (Both r known known' r.Pairs) (w.applyFunction f v) (w'.applyFunction f v') := by
  unfold World.applyFunction
  cases f with
  | identity => exact .ok ⟨h, hv⟩
  | text => exact h.toText hv
  | double => exact h.double hv
  | isNone =>
      rw [pairs_isNone hv]
      exact .ok ⟨h, pairs_atom _⟩
  | length =>
      dsimp only
      rw [h.lengthOf? hv]
      cases w.lengthOf? v with
      | none => exact .error _
      | some n => exact .ok ⟨h, pairs_atom _⟩
  | upper => exact h.upper hv
  | number => exact .ok ⟨h, pairs_atom _⟩
  | decimal =>
      dsimp only
      rw [h.isTrue hv, h.toDecimal hv]
      split
      · cases w.toDecimal v with
        | ok d => exact .ok ⟨h, pairs_atom _⟩
        | error fault => exact .error _
      · exact .ok ⟨h, pairs_atom _⟩
  | integers => exact h.toIntegers hv
  | failing => exact .error _

/-- What a converter makes of values that correspond corresponds. -/
theorem Similar.applyConverter (h : Similar r known known' w w') (f : Converter)
    (hv : r.Pairs v v') :
    Agree (Both r known known' r.Pairs) (w.applyConverter f v) (w'.applyConverter f v') := by
  cases f with
  | function f signature => exact h.applyFunction f hv
  | pure f signature =>
      simp only [World.applyConverter, h.load hv]
      rw [f.natural _ fun p q heq => r.injective heq]
      cases happlied : f.apply (w.load v) with
      | error fault => exact .error _
      | ok u => exact .ok (h.intern (f.within_apply (h.load_within hv) happlied) rfl)
  | value u =>
      cases u with
      | atom a =>
          cases a with
          | classRef c =>
              have hcreate : ∀ c, Agree (Both r known known' r.Pairs) (w.createWith c ⟨[v], []⟩)
                  (w'.createWith c ⟨[v'], []⟩) := fun c =>
                h.createWith c ⟨pairsAll_cons hv pairsAll_nil, pairsNamed_nil⟩
              cases c with
              | declared name =>
                  simp only [World.applyConverter]
                  exact hcreate _
              | builtin b =>
                  cases b with
                  | str => exact h.toText hv
                  | bool =>
                      simp only [World.applyConverter, h.isTrue hv]
                      exact .ok ⟨h, pairs_atom _⟩
                  | int =>
                      simp only [World.applyConverter, h.toInteger hv]
                      cases w.toInteger v with
                      | ok n => exact .ok ⟨h, pairs_atom _⟩
                      | error fault => exact .error _
                  | decimal =>
                      simp only [World.applyConverter, h.toDecimal hv]
                      cases w.toDecimal v with
                      | ok d => exact .ok ⟨h, pairs_atom _⟩
                      | error fault => exact .error _
                  | _ =>
                      simp only [World.applyConverter]
                      exact hcreate _
          | _ => exact .ok ⟨h, pairs_atom _⟩
      | seq | dict | object => exact .ok ⟨h, pairs_atom _⟩

end World

end Memberwise
