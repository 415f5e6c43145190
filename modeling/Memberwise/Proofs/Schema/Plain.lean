import Memberwise.Proofs.Fallible
import Memberwise.Proofs.Schema.Renaming
import Memberwise.Proofs.Value.Shown
import Memberwise.Schema.Plain

/-! # Plain forms

A plain form is made of atoms by lists and mappings from texts, all of them new.  It tells nothing of
the places of its value, which matter only where a value is inside itself.
-/

namespace Memberwise.Schema

open Classes (Alike)

variable {classes classes' : Classes} {ρ : Place → Place}

/-! ## What a plain form is made of -/

/-- Whether a value is made of atoms by new lists and new mappings from texts. -/
inductive IsPlain : Value → Prop where
  | atom (a : Atom) : IsPlain (.atom a)
  | list {items : List Value} (h : ∀ v ∈ items, IsPlain v) : IsPlain (.list items)
  | dict {entries : List (Value × Value)}
      (hkeys : ∀ entry ∈ entries, ∃ key, entry.1 = .atom (.str key))
      (h : ∀ entry ∈ entries, IsPlain entry.2) : IsPlain (.dict none entries)

theorem IsPlain.rename {v : Value} (hv : IsPlain v) (ρ : Place → Place) : v.rename ρ = v := by
  induction hv with
  | atom a => rfl
  | list _ ih =>
      rw [Value.list, Value.rename_seq, Value.map_items_eq ih]
      rfl
  | @dict entries hkeys _ ih =>
      have hkey : ∀ entry ∈ entries, entry.1.rename ρ = entry.1 := by
        intro entry hentry
        obtain ⟨key, hkey⟩ := hkeys entry hentry
        rw [hkey]
        rfl
      rw [Value.rename_dict,
        Value.map_pairs_eq fun entry hentry => ⟨hkey entry hentry, ih entry hentry⟩]
      rfl

theorem isPlain_of_plainBytes {content : List UInt8} {result : Value}
    (h : plainBytes content = .ok result) : IsPlain result := by
  unfold plainBytes at h
  split at h <;> cases h
  exact .atom _

theorem isPlain_of_plainAtom {a : Atom} {result : Value} (h : plainAtom a = .ok result) :
    IsPlain result := by
  unfold plainAtom at h
  split at h
  case h_2 => exact isPlain_of_plainBytes h
  all_goals
    cases h
    try exact .atom _

section Trees

variable {ofConstant : List (Option Place) → Value → Except PlainFault Value}

theorem isPlain_of_plainTrees {items results : List Value} {around : List (Option Place)}
    (ih : ∀ v ∈ items, ∀ around result, plainTree classes ofConstant around v = .ok result →
      IsPlain result)
    (h : plainTrees classes ofConstant around items = .ok results) :
    ∀ v ∈ results, IsPlain v := by
  induction items generalizing results with
  | nil =>
      cases h
      exact fun _ hv => nomatch hv
  | cons v rest ihrest =>
      rw [List.forall_mem_cons] at ih
      obtain ⟨item, hitem, h⟩ := bind_eq_ok.mp h
      obtain ⟨others, hothers, h⟩ := bind_eq_ok.mp h
      cases h
      exact List.forall_mem_cons.mpr ⟨ih.1 _ item hitem, ihrest ih.2 hothers⟩

/-- Entries from texts to plain forms. -/
theorem isPlain_of_plainEntries {entries results : List (Value × Value)}
    {around : List (Option Place)}
    (ih : ∀ entry ∈ entries, ∀ around result,
      plainTree classes ofConstant around entry.2 = .ok result → IsPlain result)
    (h : plainEntries classes ofConstant around entries = .ok results) :
    (∀ entry ∈ results, ∃ key, entry.1 = .atom (.str key)) ∧ ∀ entry ∈ results, IsPlain entry.2 := by
  induction entries generalizing results with
  | nil =>
      cases h
      exact ⟨(fun _ hentry => nomatch hentry), fun _ hentry => nomatch hentry⟩
  | cons entry rest ihrest =>
      rw [List.forall_mem_cons] at ih
      obtain ⟨key, -, h⟩ := bind_eq_ok.mp h
      obtain ⟨v, hv, h⟩ := bind_eq_ok.mp h
      obtain ⟨others, hothers, h⟩ := bind_eq_ok.mp h
      cases h
      have hrest := ihrest ih.2 hothers
      exact ⟨List.forall_mem_cons.mpr ⟨⟨key, rfl⟩, hrest.1⟩,
        List.forall_mem_cons.mpr ⟨ih.1 _ v hv, hrest.2⟩⟩

theorem isPlain_of_plainAttributes {attributes : List (String × Value)}
    {around : List (Option Place)}
    (ih : ∀ entry ∈ attributes, ∀ around result,
      plainTree classes ofConstant around entry.2 = .ok result → IsPlain result) :
    ∀ entry ∈ plainAttributes classes ofConstant around attributes, ∀ result,
      entry.2 = .ok result → IsPlain result := by
  induction attributes with
  | nil => exact fun _ hentry => nomatch hentry
  | cons entry rest ihrest =>
      rw [List.forall_mem_cons] at ih
      exact List.forall_mem_cons.mpr ⟨ih.1 _, ihrest ih.2⟩

theorem isPlain_of_describedAttributes {ofConstant : Value → Except PlainFault Value}
    (hconstant : ∀ v result, ofConstant v = .ok result → IsPlain result) {c : ClassRef}
    {own : List (String × Except PlainFault Value)}
    (hown : ∀ entry ∈ own, ∀ result, entry.2 = .ok result → IsPlain result)
    {entries : List (Value × Value)}
    (h : describedAttributes classes ofConstant c own = .ok entries) :
    (∀ entry ∈ entries, ∃ key, entry.1 = .atom (.str key)) ∧ ∀ entry ∈ entries, IsPlain entry.2 := by
  have hmade : ∀ entry ∈ entries, ∃ key v, IsPlain v ∧ entry = (.atom (.str key), v) := by
    intro entry hentry
    unfold describedAttributes at h
    split at h
    · obtain ⟨given, hgiven, hfound⟩ := exists_of_mem_mapM h hentry
      obtain ⟨v, hv, rfl⟩ := map_eq_ok.mp hfound
      exact ⟨_, v, hown given (List.mem_of_mem_filter hgiven) v hv, rfl⟩
    · split at h
      · obtain ⟨f, -, hfound⟩ := exists_of_mem_mapM h hentry
        obtain ⟨v, hv, rfl⟩ := map_eq_ok.mp hfound
        refine ⟨_, v, ?_, rfl⟩
        rcases Classes.attributeOf_eq_ok hv with ⟨given, hgiven, hv⟩ | ⟨kept, hv⟩
        · exact hown given hgiven v hv
        · exact hconstant kept v hv
      · cases h
  constructor
  · intro entry hentry
    obtain ⟨key, v, -, rfl⟩ := hmade entry hentry
    exact ⟨key, rfl⟩
  · intro entry hentry
    obtain ⟨key, v, hv, rfl⟩ := hmade entry hentry
    exact hv

theorem isPlain_of_plainTree
    (hconstant : ∀ around v result, ofConstant around v = .ok result → IsPlain result) {v : Value}
    {around : List (Option Place)} {result : Value}
    (h : plainTree classes ofConstant around v = .ok result) : IsPlain result := by
  induction v using Value.parts generalizing around result with
  | atom a =>
      obtain ⟨-, -, h⟩ := bind_eq_ok.mp h
      split at h
      · split at h
        · exact isPlain_of_plainAtom h
        · cases h
      · exact isPlain_of_plainAtom h
  | seq place kind items ih =>
      obtain ⟨-, -, h⟩ := bind_eq_ok.mp h
      split at h
      · exact isPlain_of_plainBytes h
      · cases h
      · obtain ⟨results, hresults, rfl⟩ := map_eq_ok.mp h
        exact .list (isPlain_of_plainTrees (fun v hv _ _ => ih v hv) hresults)
  | dict place entries ih =>
      obtain ⟨-, -, h⟩ := bind_eq_ok.mp h
      obtain ⟨results, hresults, rfl⟩ := map_eq_ok.mp h
      have hmade := isPlain_of_plainEntries (fun entry hentry _ _ => (ih entry hentry).2) hresults
      exact .dict hmade.1 hmade.2
  | object place name core attributes ih =>
      cases core with
      | some core =>
          obtain ⟨-, -, h⟩ := bind_eq_ok.mp h
          exact isPlain_of_plainAtom h
      | none =>
          obtain ⟨-, -, h⟩ := bind_eq_ok.mp h
          obtain ⟨results, hresults, rfl⟩ := map_eq_ok.mp h
          have hmade := isPlain_of_describedAttributes (hconstant _)
            (isPlain_of_plainAttributes fun entry hentry _ _ => ih entry hentry) hresults
          exact .dict hmade.1 hmade.2

end Trees

theorem isPlain_of_plainWithin {depth : Nat} {around : List (Option Place)} {v result : Value}
    (h : plainWithin classes depth around v = .ok result) : IsPlain result := by
  induction depth generalizing around v result with
  | zero =>
      refine isPlain_of_plainTree ?_ h
      intro _ _ _ hkept
      cases hkept
  | succ depth ih => exact isPlain_of_plainTree (fun _ _ _ h => ih h) h

theorem isPlain_of_plain {v result : Value} (h : plain classes v = .ok result) : IsPlain result :=
  isPlain_of_plainWithin h

/-! ## Parts of a plain form at other places -/

theorem enter_rename (hρ : ρ.Injective) (around : List (Option Place)) (place : Option Place) :
    enter (around.map (Option.map ρ)) (place.map ρ) = enter around place := by
  have hcontains : (around.map (Option.map ρ)).contains (place.map ρ) = around.contains place := by
    rw [Bool.eq_iff_iff, List.contains_iff_mem, List.contains_iff_mem]
    exact List.mem_map_of_injective (Option.map_injective hρ)
  unfold enter
  rw [hcontains, Option.isSome_map, List.length_map]

theorem plainKey_rename (h : Alike classes classes') (v : Value) :
    plainKey classes' (v.rename ρ) = plainKey classes v := by
  cases v with
  | atom a => cases a <;> simp only [Value.rename_atom, plainKey, h.memberValue]
  | seq place kind items =>
      rw [Value.rename_seq]
      cases kind with
      | tuple =>
          simp only [plainKey, List.mapM_map, Function.comp_def, h.scalarOf?_rename]
      | _ => rfl
  | dict place entries => rfl
  | object place name core attributes => rfl

theorem describedAttributes_alike (h : Alike classes classes')
    (ofConstant : Value → Except PlainFault Value) (c : ClassRef)
    (own : List (String × Except PlainFault Value)) :
    describedAttributes classes' ofConstant c own = describedAttributes classes ofConstant c own :=
  h.congr (q := (describedAttributes · ofConstant c own)) fun classes => by
    simp only [describedAttributes, Classes.isModel_outline, Classes.isRecord_outline,
      Classes.recordFields_outline, Classes.attributeOf_outline, List.mapM_map]
    rfl

/-! ## Values at other places -/

section Trees

variable {ofConstant ofConstant' : List (Option Place) → Value → Except PlainFault Value}

theorem plainTrees_rename {items : List Value} {around : List (Option Place)}
    (ih : ∀ v ∈ items, ∀ around : List (Option Place),
      plainTree classes' ofConstant' (around.map (Option.map ρ)) (v.rename ρ) =
        plainTree classes ofConstant around v) :
    plainTrees classes' ofConstant' (around.map (Option.map ρ)) (items.map (Value.rename ρ)) =
      plainTrees classes ofConstant around items := by
  induction items with
  | nil => rfl
  | cons v rest ihrest =>
      rw [List.forall_mem_cons] at ih
      simp only [List.map_cons, plainTrees, ih.1, ihrest ih.2]

theorem plainEntries_rename (h : Alike classes classes') {entries : List (Value × Value)}
    {around : List (Option Place)}
    (ih : ∀ entry ∈ entries, ∀ around : List (Option Place),
      plainTree classes' ofConstant' (around.map (Option.map ρ)) (entry.2.rename ρ) =
        plainTree classes ofConstant around entry.2) :
    plainEntries classes' ofConstant' (around.map (Option.map ρ))
        (entries.map fun entry => (entry.1.rename ρ, entry.2.rename ρ)) =
      plainEntries classes ofConstant around entries := by
  induction entries with
  | nil => rfl
  | cons entry rest ihrest =>
      rw [List.forall_mem_cons] at ih
      simp only [List.map_cons, plainEntries, plainKey_rename h, ih.1, ihrest ih.2]

theorem plainAttributes_rename {attributes : List (String × Value)}
    {around : List (Option Place)}
    (ih : ∀ entry ∈ attributes, ∀ around : List (Option Place),
      plainTree classes' ofConstant' (around.map (Option.map ρ)) (entry.2.rename ρ) =
        plainTree classes ofConstant around entry.2) :
    plainAttributes classes' ofConstant' (around.map (Option.map ρ))
        (attributes.map fun entry => (entry.1, entry.2.rename ρ)) =
      plainAttributes classes ofConstant around attributes := by
  induction attributes with
  | nil => rfl
  | cons entry rest ihrest =>
      rw [List.forall_mem_cons] at ih
      simp only [List.map_cons, plainAttributes, ih.1, ihrest ih.2]

theorem plainTree_rename (h : Alike classes classes') (hρ : ρ.Injective)
    (hconstant : ∀ around v, ofConstant' (around.map (Option.map ρ)) v = ofConstant around v)
    (v : Value) (around : List (Option Place)) :
    plainTree classes' ofConstant' (around.map (Option.map ρ)) (v.rename ρ) =
      plainTree classes ofConstant around v := by
  induction v using Value.parts generalizing around with
  | atom a =>
      have henter := enter_rename hρ around none
      rw [Value.rename_atom]
      simp only [plainTree, h.memberValue]
      rw [← henter]
      rfl
  | seq place kind items ih =>
      rw [Value.rename_seq]
      unfold plainTree
      rw [enter_rename hρ]
      cases kind with
      | bytearray => simp only [bytesOf_rename]
      | bag name => rfl
      | _ => simp only [← List.map_cons, plainTrees_rename ih]
  | dict place entries ih =>
      rw [Value.rename_dict]
      unfold plainTree
      rw [enter_rename hρ]
      simp only [← List.map_cons,
        plainEntries_rename h fun entry hentry => (ih entry hentry).2]
  | object place name core attributes ih =>
      rw [Value.rename_object]
      cases core with
      | some core => simp only [plainTree, enter_rename hρ]
      | none =>
          have hshared : ofConstant' (place.map ρ :: around.map (Option.map ρ)) =
              ofConstant (place :: around) := funext (hconstant (place :: around))
          have hattributes : plainAttributes classes' ofConstant'
              ((place :: around).map (Option.map ρ))
              (attributes.map fun entry => (entry.1, entry.2.rename ρ)) =
              plainAttributes classes ofConstant (place :: around) attributes :=
            plainAttributes_rename ih
          rw [List.map_cons] at hattributes
          simp only [plainTree, enter_rename hρ, describedAttributes_alike h, hshared, hattributes]

end Trees

theorem plainWithin_rename (h : Alike classes classes') (hρ : ρ.Injective) (depth : Nat)
    (around : List (Option Place)) (v : Value) :
    plainWithin classes' depth (around.map (Option.map ρ)) (v.rename ρ) =
      plainWithin classes depth around v := by
  induction depth generalizing around v with
  | zero => exact plainTree_rename h hρ (fun _ _ => rfl) v around
  | succ depth ih =>
      refine plainTree_rename h hρ (fun around v => ?_) v around
      -- What a class keeps is at no place.
      have hkept := ih around v.detach
      rwa [Value.rename_detach] at hkept

/-- The plain form of a value tells nothing of its places. -/
theorem plain_rename (h : Alike classes classes') (hρ : ρ.Injective) (v : Value) :
    plain classes' (v.rename ρ) = plain classes v := by
  unfold plain
  rw [h.length]
  exact plainWithin_rename h hρ _ [] v

end Memberwise.Schema
