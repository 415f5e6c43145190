import Memberwise.Proofs.Class.Outline
import Memberwise.Proofs.Fallible
import Memberwise.Value.Iteration

/-! # Values at other places

Objects that are made again have other places than before.  A renaming of places carries a value
from one to the other; equality of values, and with it all that sets and mappings do, does not
depend on the places as long as different objects keep different ones.
-/

namespace Memberwise

/-! ## Renaming -/

namespace Value

variable {ρ : Place → Place}

theorem renameAll_eq (l : List Value) : renameAll ρ l = l.map (rename ρ) := by
  induction l with
  | nil => rfl
  | cons v rest ih => exact congrArg _ ih

theorem renameEntries_eq (l : List (Value × Value)) :
    renameEntries ρ l = l.map fun entry => (entry.1.rename ρ, entry.2.rename ρ) := by
  induction l with
  | nil => rfl
  | cons entry rest ih => exact congrArg _ ih

theorem renameAttributes_eq (l : List (String × Value)) :
    renameAttributes ρ l = l.map fun entry => (entry.1, entry.2.rename ρ) := by
  induction l with
  | nil => rfl
  | cons entry rest ih => exact congrArg _ ih

@[simp]
theorem rename_atom (a : Atom) : rename ρ (.atom a) = .atom a := rfl

@[simp]
theorem rename_seq (place : Option Place) (kind : SeqKind) (items : List Value) :
    rename ρ (.seq place kind items) = .seq (place.map ρ) kind (items.map (rename ρ)) :=
  congrArg _ (renameAll_eq items)

@[simp]
theorem rename_dict (place : Option Place) (entries : List (Value × Value)) :
    rename ρ (.dict place entries) =
      .dict (place.map ρ) (entries.map fun entry => (entry.1.rename ρ, entry.2.rename ρ)) :=
  congrArg _ (renameEntries_eq entries)

@[simp]
theorem rename_object (place : Option Place) (name : String) (core : Option Atom)
    (attributes : List (String × Value)) :
    rename ρ (.object place name core attributes) =
      .object (place.map ρ) name core (attributes.map fun entry => (entry.1, entry.2.rename ρ)) :=
  congrArg _ (renameAttributes_eq attributes)

theorem sizeOf_fst_lt {α β : Type} [SizeOf α] [SizeOf β] {entry : α × β} {l : List (α × β)}
    (h : entry ∈ l) : sizeOf entry.1 < sizeOf l := by
  have hentry := List.sizeOf_lt_of_mem h
  cases entry
  simp only [Prod.mk.sizeOf_spec] at hentry ⊢
  omega

theorem sizeOf_snd_lt {α β : Type} [SizeOf α] [SizeOf β] {entry : α × β} {l : List (α × β)}
    (h : entry ∈ l) : sizeOf entry.2 < sizeOf l := by
  have hentry := List.sizeOf_lt_of_mem h
  cases entry
  simp only [Prod.mk.sizeOf_spec] at hentry ⊢
  omega

/-- What holds of a value as soon as it holds of its parts holds of every value. -/
theorem parts {P : Value → Prop} (atom : ∀ a, P (.atom a))
    (seq : ∀ place kind items, (∀ v ∈ items, P v) → P (.seq place kind items))
    (dict : ∀ place entries, (∀ entry ∈ entries, P entry.1 ∧ P entry.2) → P (.dict place entries))
    (object : ∀ place name core attributes, (∀ entry ∈ attributes, P entry.2) →
      P (.object place name core attributes)) (v : Value) : P v :=
  match v with
  | .atom a => atom a
  | .seq place kind items => seq place kind items fun v _ => parts atom seq dict object v
  | .dict place entries =>
    dict place entries fun entry h =>
      have := sizeOf_fst_lt h
      have := sizeOf_snd_lt h
      ⟨parts atom seq dict object entry.1, parts atom seq dict object entry.2⟩
  | .object place name core attributes =>
    object place name core attributes fun entry h =>
      have := sizeOf_snd_lt h
      parts atom seq dict object entry.2
termination_by sizeOf v

/-- Pairs that a map leaves alone part by part. -/
theorem map_pairs_eq {f : Value → Value} {entries : List (Value × Value)}
    (h : ∀ entry ∈ entries, f entry.1 = entry.1 ∧ f entry.2 = entry.2) :
    entries.map (fun entry => (f entry.1, f entry.2)) = entries := by
  have hmap : entries.map (fun entry => (f entry.1, f entry.2)) = entries.map id :=
    List.map_congr_left fun entry hentry => Prod.ext (h entry hentry).1 (h entry hentry).2
  rw [hmap, List.map_id]

theorem map_attributes_eq {f : Value → Value} {attributes : List (String × Value)}
    (h : ∀ entry ∈ attributes, f entry.2 = entry.2) :
    attributes.map (fun entry => (entry.1, f entry.2)) = attributes := by
  have hmap : attributes.map (fun entry => (entry.1, f entry.2)) = attributes.map id :=
    List.map_congr_left fun entry hentry => Prod.ext rfl (h entry hentry)
  rw [hmap, List.map_id]

theorem map_items_eq {f : Value → Value} {items : List Value} (h : ∀ v ∈ items, f v = v) :
    items.map f = items := by
  have hmap : items.map f = items.map id := List.map_congr_left h
  rw [hmap, List.map_id]

theorem rename_id (v : Value) : v.rename id = v := by
  induction v using parts with
  | atom a => rfl
  | seq place kind items ih => rw [rename_seq, Option.map_id, map_items_eq ih, id]
  | dict place entries ih => rw [rename_dict, Option.map_id, map_pairs_eq ih, id]
  | object place name core attributes ih =>
      rw [rename_object, Option.map_id, map_attributes_eq ih, id]

/-! ## What a renaming leaves alone -/

@[simp]
theorem isNone_rename (v : Value) : (v.rename ρ).isNone = v.isNone := by
  cases v <;> rfl

@[simp]
theorem core?_rename (v : Value) : (v.rename ρ).core? = v.core? := by
  cases v <;> rfl

@[simp]
theorem classOf_rename (v : Value) : (v.rename ρ).classOf = v.classOf := by
  cases v <;> rfl

/-! ## Copies -/

theorem detachAll_eq (l : List Value) : detachAll l = l.map detach := by
  induction l with
  | nil => rfl
  | cons v rest ih => exact congrArg _ ih

theorem detachEntries_eq (l : List (Value × Value)) :
    detachEntries l = l.map fun entry => (entry.1.detach, entry.2.detach) := by
  induction l with
  | nil => rfl
  | cons entry rest ih => exact congrArg _ ih

theorem detachAttributes_eq (l : List (String × Value)) :
    detachAttributes l = l.map fun entry => (entry.1, entry.2.detach) := by
  induction l with
  | nil => rfl
  | cons entry rest ih => exact congrArg _ ih

/-- A copy is at no place, so that a renaming does nothing to it. -/
theorem rename_detach (v : Value) : v.detach.rename ρ = v.detach := by
  induction v using parts with
  | atom a => rfl
  | seq place kind items ih =>
      simp only [detach, detachAll_eq, rename_seq, Option.map_none, List.map_map]
      congr 1
      exact List.map_congr_left ih
  | dict place entries ih =>
      simp only [detach, detachEntries_eq, rename_dict, Option.map_none, List.map_map]
      congr 1
      exact List.map_congr_left fun entry hentry => Prod.ext (ih entry hentry).1 (ih entry hentry).2
  | object place name core attributes ih =>
      simp only [detach, detachAttributes_eq, rename_object, Option.map_none, List.map_map]
      congr 1
      exact List.map_congr_left fun entry hentry => Prod.ext rfl (ih entry hentry)

/-- A copy tells nothing of the places of what it is a copy of. -/
theorem detach_rename (v : Value) : (v.rename ρ).detach = v.detach := by
  induction v using parts with
  | atom a => rfl
  | seq place kind items ih =>
      simp only [rename_seq, detach, detachAll_eq, List.map_map]
      congr 1
      exact List.map_congr_left ih
  | dict place entries ih =>
      simp only [rename_dict, detach, detachEntries_eq, List.map_map]
      congr 1
      exact List.map_congr_left fun entry hentry => Prod.ext (ih entry hentry).1 (ih entry hentry).2
  | object place name core attributes ih =>
      simp only [rename_object, detach, detachAttributes_eq, List.map_map]
      congr 1
      exact List.map_congr_left fun entry hentry => Prod.ext rfl (ih entry hentry)

end Value

/-! ## Places of values -/

mutual

/-- The places at which the objects of a value are. -/
def Value.places : Value → List Place
  | .atom _ => []
  | .seq place _ items => place.toList ++ Value.placesAll items
  | .dict place entries => place.toList ++ Value.placesEntries entries
  | .object place _ _ attributes => place.toList ++ Value.placesAttributes attributes

def Value.placesAll : List Value → List Place
  | [] => []
  | v :: rest => v.places ++ Value.placesAll rest

def Value.placesEntries : List (Value × Value) → List Place
  | [] => []
  | (k, v) :: rest => k.places ++ v.places ++ Value.placesEntries rest

def Value.placesAttributes : List (String × Value) → List Place
  | [] => []
  | (_, v) :: rest => v.places ++ Value.placesAttributes rest

end

namespace Value

variable {ρ σ : Place → Place} {C : Place → Prop}

/-- Whether the objects of a value are at places of a kind. -/
def Within (C : Place → Prop) (v : Value) : Prop := ∀ p ∈ v.places, C p

theorem within_atom (a : Atom) : (Value.atom a).Within C := nofun

theorem within_seq {place : Option Place} {kind : SeqKind} {items : List Value} :
    (Value.seq place kind items).Within C ↔
      (∀ p, place = some p → C p) ∧ ∀ v ∈ items, v.Within C := by
  have hitems : (∀ p ∈ placesAll items, C p) ↔ ∀ v ∈ items, v.Within C := by
    induction items with
    | nil => simp [placesAll]
    | cons v rest ih => simp only [placesAll, List.forall_mem_append, List.forall_mem_cons, ih, Within]
  simp only [Within, places, List.forall_mem_append, hitems, Option.mem_toList]

theorem within_dict {place : Option Place} {entries : List (Value × Value)} :
    (Value.dict place entries).Within C ↔
      (∀ p, place = some p → C p) ∧ ∀ entry ∈ entries, entry.1.Within C ∧ entry.2.Within C := by
  have hentries : (∀ p ∈ placesEntries entries, C p) ↔
      ∀ entry ∈ entries, entry.1.Within C ∧ entry.2.Within C := by
    induction entries with
    | nil => simp [placesEntries]
    | cons entry rest ih =>
        simp only [placesEntries, List.forall_mem_append, List.forall_mem_cons, ih, Within]
  simp only [Within, places, List.forall_mem_append, hentries, Option.mem_toList]

theorem within_object {place : Option Place} {name : String} {core : Option Atom}
    {attributes : List (String × Value)} :
    (Value.object place name core attributes).Within C ↔
      (∀ p, place = some p → C p) ∧ ∀ entry ∈ attributes, entry.2.Within C := by
  have hattributes : (∀ p ∈ placesAttributes attributes, C p) ↔
      ∀ entry ∈ attributes, entry.2.Within C := by
    induction attributes with
    | nil => simp [placesAttributes]
    | cons entry rest ih =>
        simp only [placesAttributes, List.forall_mem_append, List.forall_mem_cons, ih, Within]
  simp only [Within, places, List.forall_mem_append, hattributes, Option.mem_toList]

/-- Renamings do the same to a value exactly if they agree on its places. -/
theorem rename_eq_iff (v : Value) : v.rename ρ = v.rename σ ↔ v.Within fun p => ρ p = σ p := by
  have hplace : ∀ place : Option Place,
      place.map ρ = place.map σ ↔ ∀ p, place = some p → ρ p = σ p := by
    intro place
    cases place <;> simp
  induction v using parts with
  | atom a => exact iff_of_true rfl (within_atom a)
  | seq place kind items ih =>
      rw [rename_seq, rename_seq, within_seq, Value.seq.injEq, hplace, List.map_inj_left]
      exact and_congr_right' ((and_iff_right rfl).trans (forall₂_congr ih))
  | dict place entries ih =>
      rw [rename_dict, rename_dict, within_dict, Value.dict.injEq, hplace, List.map_inj_left]
      refine and_congr_right' (forall₂_congr fun entry hentry => ?_)
      rw [Prod.mk.injEq]
      exact and_congr (ih entry hentry).1 (ih entry hentry).2
  | object place name core attributes ih =>
      rw [rename_object, rename_object, within_object, Value.object.injEq, hplace, List.map_inj_left]
      simp only [true_and, Prod.mk.injEq]
      exact and_congr_right' (forall₂_congr ih)

theorem injective_marked (C : Nat → Prop) [DecidablePred C] :
    Function.Injective fun p : Nat => if C p then 2 * p else 2 * p + 1 := by
  intro p q h
  dsimp only at h
  split at h <;> split at h <;> omega

/-- What renamings commute with makes no places of its own. -/
theorem Within.of_commutes {f : Value → Option Value} {v r : Value}
    (hf : ∀ ρ : Place → Place, ρ.Injective → f (v.rename ρ) = (f v).map (rename ρ))
    (h : v.Within C) (hr : f v = some r) : r.Within C := by
  classical
  -- Two renamings that agree on the places of the kind only.
  let even (p : Place) : Place := if True then 2 * p else 2 * p + 1
  let marked (p : Place) : Place := if C p then 2 * p else 2 * p + 1
  have hagree : ∀ p, even p = marked p ↔ C p := by
    intro p
    simp only [even, marked]
    split <;> simp_all
  have hsame : v.rename even = v.rename marked :=
    (rename_eq_iff v).mpr fun p hp => (hagree p).mpr (h p hp)
  have hresult : (f v).map (rename even) = (f v).map (rename marked) := by
    rw [← hf even (injective_marked _), ← hf marked (injective_marked C), hsame]
  rw [hr] at hresult
  have hplaces := (rename_eq_iff r).mp (Option.some.inj hresult)
  exact fun p hp => (hagree p).mp (hplaces p hp)

/-- A value that no renaming changes is at no place. -/
theorem within_of_placeless {v : Value} (h : ∀ ρ : Place → Place, v.rename ρ = v) : v.Within C := by
  have hconst : ∀ ρ : Place → Place, ρ.Injective →
      (fun _ => some v) (Value.rename ρ .none) = some (v.rename ρ) := by
    intro ρ _
    rw [h ρ]
  exact Within.of_commutes (f := fun _ => some v) hconst (within_atom .none) rfl

end Value

/-! ## Keys -/

/-- The token of an object that is at another place. -/
def Token.rename (ρ : Place → Place) : Token → Token
  | .place p => .place (p.map ρ)
  | token => token

def Key.rename (ρ : Place → Place) (key : Key) : Key := key.map (Token.rename ρ)

section Keys

variable {ρ : Place → Place}

theorem Token.rename_injective (hρ : ρ.Injective) : (Token.rename ρ).Injective := by
  intro a b h
  cases a <;> cases b <;> try exact h
  all_goals try cases h
  rename_i p q
  have hplaces : p.map ρ = q.map ρ := Token.place.inj h
  rw [Option.map_injective hρ hplaces]

theorem Token.isReflexive_rename (token : Token) : (token.rename ρ).isReflexive = token.isReflexive := by
  cases token with
  | place p => cases p <;> rfl
  | _ => rfl

theorem Atom.token_rename (a : Atom) : a.token.rename ρ = a.token := by
  unfold Atom.token
  split <;> try rfl
  · split <;> rfl
  · split <;> rfl

theorem beq_rename (hρ : ρ.Injective) (a b : Key) : (a.rename ρ == b.rename ρ) = (a == b) := by
  rw [Bool.eq_iff_iff, beq_iff_eq, beq_iff_eq]
  exact ((Token.rename_injective hρ).list_map).eq_iff

/-- Renamed keys are those of equal values exactly if the keys are. -/
theorem sameKey_rename (hρ : ρ.Injective) (a b : Key) :
    sameKey (a.rename ρ) (b.rename ρ) = sameKey a b := by
  have hreflexive : (a.rename ρ).all Token.isReflexive = a.all Token.isReflexive := by
    unfold Key.rename
    rw [List.all_map]
    exact congrArg a.all (funext Token.isReflexive_rename)
  unfold sameKey
  rw [beq_rename hρ, hreflexive]

theorem shape_rename (v : Value) : (v.rename ρ).shape = v.shape.rename ρ := by
  have happend : ∀ a b : Key, Key.rename ρ (a ++ b) = a.rename ρ ++ b.rename ρ :=
    fun _ _ => List.map_append
  have hbracket : ∀ (tag : ClassRef) (keys : Key),
      Key.rename ρ (.opening tag :: keys ++ [.closing]) =
        .opening tag :: keys.rename ρ ++ [.closing] := fun tag keys => happend (_ :: keys) _
  induction v using Value.parts with
  | atom a => exact congrArg (fun token => [token]) (Atom.token_rename a).symm
  | seq place kind items ih =>
      have hitems : Value.shapes (items.map (Value.rename ρ)) = (Value.shapes items).rename ρ := by
        induction items with
        | nil => rfl
        | cons v rest ihrest =>
            rw [List.forall_mem_cons] at ih
            simp only [List.map_cons, Value.shapes, ih.1, ihrest ih.2, happend]
      simp only [Value.rename_seq, Value.shape, hitems, hbracket]
  | dict place entries ih =>
      have hentries : Value.entryShapes (entries.map fun entry =>
          (entry.1.rename ρ, entry.2.rename ρ)) = (Value.entryShapes entries).rename ρ := by
        induction entries with
        | nil => rfl
        | cons entry rest ihrest =>
            rw [List.forall_mem_cons] at ih
            simp only [List.map_cons, Value.entryShapes, ih.1.1, ih.1.2, ihrest ih.2, happend]
      simp only [Value.rename_dict, Value.shape, hentries, hbracket]
  | object place name core attributes ih =>
      rw [Value.rename_object]
      cases core with
      | none => rfl
      | some core => exact congrArg (fun token => [token]) (Atom.token_rename core).symm

namespace Classes

variable {classes classes' : Classes}

theorem Alike.scalarOf?_rename (h : Alike classes classes') (v : Value) :
    classes'.scalarOf? (v.rename ρ) = classes.scalarOf? v := by
  rw [h.scalarOf?]
  cases v <;> rfl

theorem Alike.isInstance_rename (h : Alike classes classes') (v : Value) (c : ClassRef) :
    classes'.isInstance (v.rename ρ) c = classes.isInstance v c := by
  simp only [isInstance, Value.classOf_rename, h.isSubclass]

theorem keysOf?_rename {items : List Value}
    (ih : ∀ v ∈ items, classes'.keyOf? (v.rename ρ) = (classes.keyOf? v).map (Key.rename ρ)) :
    classes'.keysOf? (items.map (Value.rename ρ)) =
      (classes.keysOf? items).map (Key.rename ρ) := by
  induction items with
  | nil => rfl
  | cons v rest ihrest =>
      rw [List.forall_mem_cons] at ih
      simp only [List.map_cons, keysOf?, ih.1, ihrest ih.2]
      cases classes.keyOf? v with
      | none => rfl
      | some key =>
          cases classes.keysOf? rest with
          | none => rfl
          | some keys => exact congrArg some List.map_append.symm

theorem attributeKeys?_rename {attributes : List (String × Value)}
    (ih : ∀ entry ∈ attributes,
      classes'.keyOf? (entry.2.rename ρ) = (classes.keyOf? entry.2).map (Key.rename ρ)) :
    classes'.attributeKeys? (attributes.map fun entry => (entry.1, entry.2.rename ρ)) =
      (classes.attributeKeys? attributes).map (Key.rename ρ) := by
  induction attributes with
  | nil => rfl
  | cons entry rest ihrest =>
      rw [List.forall_mem_cons] at ih
      simp only [List.map_cons, attributeKeys?, ih.1, ihrest ih.2]
      cases classes.keyOf? entry.2 with
      | none => rfl
      | some key =>
          cases classes.attributeKeys? rest with
          | none => rfl
          | some keys =>
              have hkeys : Key.rename ρ (.text entry.1 :: key ++ keys) =
                  .text entry.1 :: key.rename ρ ++ keys.rename ρ := by
                simp only [Key.rename, List.map_append, List.map_cons]
                rfl
              exact congrArg some hkeys.symm

theorem Alike.keyOf?_rename (h : Alike classes classes') (v : Value) :
    classes'.keyOf? (v.rename ρ) = (classes.keyOf? v).map (Key.rename ρ) := by
  have hbracket : ∀ (tag : ClassRef) (keys : Key),
      Key.rename ρ (.opening tag :: keys ++ [.closing]) =
        .opening tag :: keys.rename ρ ++ [.closing] := by
    intro tag keys
    simp only [Key.rename, List.map_append, List.map_cons, List.map_nil]
    rfl
  induction v using Value.parts with
  | atom a =>
      simp only [Value.rename_atom, keyOf?, h.scalarOf?]
      split
      · rfl
      · exact congrArg (fun token => some [token]) (Atom.token_rename _).symm
      · exact congrArg (fun token => some [token]) (Atom.token_rename _).symm
  | seq place kind items ih =>
      rw [Value.rename_seq]
      cases kind with
      | list | set | deque | bytearray => rfl
      | bag | iterator => rfl
      | tuple | frozenset =>
          simp only [keyOf?, keysOf?_rename ih, Option.map_map]
          exact congrArg (Option.map · _) (funext fun keys => (hbracket _ keys).symm)
  | dict place entries => rfl
  | object place name core attributes ih =>
      rw [Value.rename_object]
      cases core with
      | some core =>
          simp only [keyOf?]
          split
          · rfl
          · exact congrArg (fun token => some [token]) (Atom.token_rename _).symm
      | none =>
          simp only [keyOf?, h.identityOf, attributeKeys?_rename ih, Option.map_map]
          split
          · rfl
          · rfl
          · rw [Option.map_map]
            exact congrArg (Option.map · _) (funext fun keys => (hbracket _ keys).symm)

theorem Alike.isHashable_rename (h : Alike classes classes') (v : Value) :
    classes'.isHashable (v.rename ρ) = classes.isHashable v := by
  simp only [isHashable, h.keyOf?_rename, Option.isSome_map]

/-! ## Sets -/

theorem Alike.hasKey_rename (h : Alike classes classes') (hρ : ρ.Injective) (key : Key) (v : Value) :
    (classes'.keyOf? (v.rename ρ)).any (sameKey (key.rename ρ)) =
      (classes.keyOf? v).any (sameKey key) := by
  rw [h.keyOf?_rename]
  cases classes.keyOf? v with
  | none => rfl
  | some other => exact sameKey_rename hρ key other

theorem Alike.insertElement?_rename (h : Alike classes classes') (hρ : ρ.Injective)
    (elements : List Value) (v : Value) :
    classes'.insertElement? (elements.map (Value.rename ρ)) (v.rename ρ) =
      (classes.insertElement? elements v).map (List.map (Value.rename ρ)) := by
  unfold insertElement?
  rw [h.keyOf?_rename, Option.map_map, Option.map_map]
  congr 1
  funext key
  have hany : (elements.map (Value.rename ρ)).any
      (fun e => (classes'.keyOf? e).any (sameKey (key.rename ρ))) =
      elements.any fun e => (classes.keyOf? e).any (sameKey key) := by
    rw [List.any_map]
    exact congrArg elements.any (funext (h.hasKey_rename hρ key))
  simp only [Function.comp_apply, hany]
  split
  · rfl
  · rw [List.map_append, List.map_singleton]

theorem Alike.toSet?_rename (h : Alike classes classes') (hρ : ρ.Injective) (values : List Value) :
    classes'.toSet? (values.map (Value.rename ρ)) =
      (classes.toSet? values).map (List.map (Value.rename ρ)) :=
  foldlM_map_comm (h.insertElement?_rename hρ) [] values

end Classes

/-! ## What values yield -/

theorem Value.depth_rename (v : Value) : (v.rename ρ).depth = v.depth := by
  induction v using Value.parts with
  | atom a => rfl
  | seq place kind items ih =>
      have hitems : Value.depth.deepest (items.map (Value.rename ρ)) = Value.depth.deepest items := by
        induction items with
        | nil => rfl
        | cons v rest ihrest =>
            rw [List.forall_mem_cons] at ih
            simp only [List.map_cons, Value.depth.deepest, ih.1, ihrest ih.2]
      simp only [Value.rename_seq, Value.depth, hitems]
  | dict place entries ih =>
      have hentries : Value.depth.deepestEntry (entries.map fun entry =>
          (entry.1.rename ρ, entry.2.rename ρ)) = Value.depth.deepestEntry entries := by
        induction entries with
        | nil => rfl
        | cons entry rest ihrest =>
            rw [List.forall_mem_cons] at ih
            simp only [List.map_cons, Value.depth.deepestEntry, ih.1.1, ih.1.2, ihrest ih.2]
      simp only [Value.rename_dict, Value.depth, hentries]
  | object place name core attributes ih =>
      have hattributes : Value.depth.deepestAttribute (attributes.map fun entry =>
          (entry.1, entry.2.rename ρ)) = Value.depth.deepestAttribute attributes := by
        induction attributes with
        | nil => rfl
        | cons entry rest ihrest =>
            rw [List.forall_mem_cons] at ih
            simp only [List.map_cons, Value.depth.deepestAttribute, ih.1, ihrest ih.2]
      simp only [Value.rename_object, Value.depth, hattributes]

namespace Classes

/-- The parts of a scalar are at no places. -/
theorem partsOf?_rename (a : Option Atom) :
    (partsOf? a).map (List.map (Value.rename ρ)) = partsOf? a := by
  simp only [partsOf?, Option.map_map]
  congr 1
  funext parts
  rw [Function.comp_apply, List.map_map]
  rfl

theorem yieldedBy_rename (h : Alike classes classes') {further further' : Value → Option (List Value)}
    (hfurther : ∀ v, further' (v.rename ρ) = (further v).map (List.map (Value.rename ρ)))
    (v : Value) : classes'.yieldedBy further' (v.rename ρ) =
      (classes.yieldedBy further v).map (List.map (Value.rename ρ)) := by
  cases v with
  | atom a =>
      rw [Value.rename_atom]
      unfold yieldedBy
      split
      · rw [h.isEnumeration, h.properMembers]
        split
        · rw [Option.map_some, List.map_map]
          rfl
        · rfl
      · rw [h.scalarOf?, partsOf?_rename]
      all_goals contradiction
  | seq place kind items =>
      rw [Value.rename_seq]
      rfl
  | dict place entries =>
      rw [Value.rename_dict]
      simp only [yieldedBy, Option.map_some, List.map_map]
      rfl
  | object place name core attributes =>
      rw [Value.rename_object]
      simp only [yieldedBy, h.iterationOf, h.isModel]
      cases classes.iterationOf (.declared name) with
      | nothing | impossible => rfl
      | «attribute» source =>
          dsimp only
          rw [lookup_map]
          cases attributes.lookup source with
          | none => rfl
          | some v => exact hfurther v
      | inherent =>
          dsimp only
          split
          · rw [List.filter_map, Option.map_some, List.map_map, List.map_map]
            simp only [Function.comp_def, Value.rename_seq, List.map_cons, List.map_nil,
              Option.map_none, Value.rename_atom]
          · exact (partsOf?_rename core).symm

theorem yieldedWithin_rename (h : Alike classes classes') (depth : Nat) (v : Value) :
    classes'.yieldedWithin depth (v.rename ρ) =
      (classes.yieldedWithin depth v).map (List.map (Value.rename ρ)) := by
  induction depth generalizing v with
  | zero => exact yieldedBy_rename h (fun _ => rfl) v
  | succ depth ih => exact yieldedBy_rename h ih v

theorem Alike.yielded?_rename (h : Alike classes classes') (v : Value) :
    classes'.yielded? (v.rename ρ) = (classes.yielded? v).map (List.map (Value.rename ρ)) := by
  rw [yielded?, Value.depth_rename, yieldedWithin_rename h]
  rfl

end Classes

end Keys

end Memberwise
