import Memberwise.Proofs.Schema.Alike
import Memberwise.Proofs.Schema.Renaming

/-! # Records at other places

A record that is read from a mapping is new, and its fields hold what their schemas read.  Classes
that differ in annotations read alike as far as the fields behind a schema have the same types.
-/

namespace Memberwise.Schema

open Classes (Alike)

variable {classes classes' : Classes} {ρ : Place → Place} {settled : String → Prop}

/-- Whether two fields differ at most in the spelling of a type that has the same schema. -/
structure SameSchema (classes : Classes) (f f' : Field) : Prop where
  outline : f'.outline = f.outline
  schema : ofType? classes (f'.type.resolveField classes) =
    ofType? classes (f.type.resolveField classes)

theorem SameSchema.refl (f : Field) : SameSchema classes f f := ⟨rfl, rfl⟩

/-- Whether two lists of classes describe the same types and read them alike, as far as the classes
behind a schema are among given ones. -/
structure ReadsAlike (settled : String → Prop) (classes classes' : Classes) : Prop where
  alike : Alike classes classes'
  fieldReferences : ∀ name, fieldReferences? classes' name = fieldReferences? classes name
  modelFields : ∀ name, settled name → List.Forall₂ (SameSchema classes)
    (classes.modelFields (.declared name)) (classes'.modelFields (.declared name))
  recordArguments : ∀ name, settled name → List.Forall₂ (SameSchema classes)
    (classes.recordArguments (.declared name)) (classes'.recordArguments (.declared name))
  behindModel : ∀ name, settled name → ∀ f ∈ classes.modelFields (.declared name), ∀ schema,
    ofType? classes (f.type.resolveField classes) = some schema →
      ∀ other ∈ references schema, settled other
  behindRecord : ∀ name, settled name → ∀ f ∈ classes.recordArguments (.declared name), ∀ schema,
    ofType? classes (f.type.resolveField classes) = some schema →
      ∀ other ∈ references schema, settled other

theorem ReadsAlike.refl (classes : Classes) : ReadsAlike (fun _ => True) classes classes where
  alike := rfl
  fieldReferences _ := rfl
  modelFields _ _ := List.forall₂_same.mpr fun f _ => .refl f
  recordArguments _ _ := List.forall₂_same.mpr fun f _ => .refl f
  behindModel _ _ _ _ _ _ _ _ := trivial
  behindRecord _ _ _ _ _ _ _ _ := trivial

/-! ## Types with schemas -/

/-- Which classes can be reached is told by what the fields of each class refer to. -/
theorem isClosed_of_references
    (h : ∀ name, fieldReferences? classes' name = fieldReferences? classes name) (rounds : Nat)
    (seen pending : List String) :
    isClosed classes' rounds seen pending = isClosed classes rounds seen pending := by
  have hreferences : fieldReferences? classes' = fieldReferences? classes := funext h
  induction rounds generalizing seen pending with
  | zero => cases pending <;> rfl
  | succ rounds ih =>
      cases pending with
      | nil => rfl
      | cons first rest => simp only [isClosed, hreferences, ih]

/-- Types with the same schema are described by it in both lists of classes or in none. -/
theorem ReadsAlike.describes_congr (h : ReadsAlike settled classes classes') {t t' : TypeExpr}
    (ht : ofType? classes t' = ofType? classes t) : describe? classes' t' = describe? classes t := by
  unfold describe?
  rw [ofType?_congr h.alike, ht, h.alike.length]
  simp only [isClosed_of_references h.fieldReferences]

theorem ReadsAlike.describes (h : ReadsAlike settled classes classes') (t : TypeExpr) :
    describe? classes' t = describe? classes t := h.describes_congr rfl

/-! ## Fields of records -/

/-- What a field says besides its type is the same in both spellings. -/
theorem SameSchema.congr {α : Type} {f f' : Field} (h : SameSchema classes f f') (q : Field → α)
    (hq : ∀ f, q f.outline = q f) : q f' = q f := by
  rw [← hq f', ← hq f, h.outline]

theorem readFields_rename (h : Alike classes classes') (hρ : ρ.Injective)
    {read read' : Schema → Value → Reading}
    (hread : ∀ schema, (∀ name ∈ references schema, settled name) →
      Follows ρ (read schema) (read' schema))
    (acceptsNames : Bool) (entries : List (Value × Value)) {fields fields' : List Field}
    (hsame : List.Forall₂ (SameSchema classes) fields fields')
    (hfields : ∀ f ∈ fields, ∀ schema, ofType? classes (f.type.resolveField classes) = some schema →
      ∀ name ∈ references schema, settled name) :
    readFields classes' read' acceptsNames
        (entries.map fun entry => (entry.1.rename ρ, entry.2.rename ρ)) fields' =
      (readFields classes read acceptsNames entries fields).map fun r =>
        (r.1.map fun entry => (entry.1, entry.2.rename ρ), r.2) := by
  induction hsame with
  | nil => rfl
  | @cons f f' rest rest' hfirst _ ih =>
      rw [List.forall_mem_cons] at hfields
      have hname : f'.name = f.name := hfirst.congr Field.name fun _ => rfl
      have hinInit : f'.inInit = f.inInit := hfirst.congr Field.inInit fun _ => rfl
      have hinitOnly : f'.type.isInitOnly = f.type.isInitOnly :=
        hfirst.congr (fun f => f.type.isInitOnly) fun f => TypeExpr.isInitOnly_outline f.type
      have hgiven : given? acceptsNames entries f' = given? acceptsNames entries f :=
        hfirst.congr (given? acceptsNames entries) fun _ => rfl
      have hvalue : defaultOf? f' = defaultOf? f := hfirst.congr defaultOf? fun _ => rfl
      simp only [readFields, ih hfields.2]
      refine bind_map_comm fun others => ?_
      have hkeep : ∀ v : Value,
          (if f.type.isInitOnly then others.1.map fun entry => (entry.1, entry.2.rename ρ)
            else (f.name, v.rename ρ) :: others.1.map fun entry => (entry.1, entry.2.rename ρ)) =
          (if f.type.isInitOnly then others.1 else (f.name, v) :: others.1).map
            fun entry => (entry.1, entry.2.rename ρ) := by
        intro v
        split <;> rfl
      have hdefault := defaultOf?_rename (ρ := ρ) f
      dsimp only
      rw [hname, hinInit, hinitOnly, hvalue]
      split
      · rw [given?_rename hρ, hgiven, TypeExpr.resolveField_congr h, ofType?_congr h, hfirst.schema]
        cases given? acceptsNames entries f with
        | none =>
            refine Eq.trans (congrArg (· >>= _) hdefault.symm) ?_
            exact bind_map_comm fun v => congrArg (fun kept => some (kept, others.2)) (hkeep v)
        | some v =>
            cases hschema : ofType? classes (f.type.resolveField classes) with
            | none => rfl
            | some schema =>
                have hv := hread schema (hfields.1 schema hschema) v
                simp only [Option.map_some, Option.bind_eq_bind, Option.bind_some, hv]
                exact bind_map_comm fun r =>
                  congrArg (fun kept => some (kept, (others.2.meet r.2).meet ⟨.exact, some 1⟩))
                    (hkeep r.1)
      · cases hvalue : defaultOf? f with
        | none => rfl
        | some v =>
            rw [hvalue] at hdefault
            have hkept := hkeep v
            rw [Option.some.inj hdefault] at hkept
            exact congrArg (fun kept => some (kept, others.2)) hkept

/-- Which entries belong to no field is told by the names of the fields. -/
theorem extraEntries_of_sameSchema {fields fields' : List Field}
    (h : List.Forall₂ (SameSchema classes) fields fields') (acceptsNames : Bool)
    (entries : List (Value × Value)) :
    extraEntries acceptsNames fields' entries = extraEntries acceptsNames fields entries := by
  unfold extraEntries
  congr 1
  funext entry
  obtain ⟨k, v⟩ := entry
  cases k with
  | atom a =>
      cases a with
      | str name =>
          dsimp only
          rw [any_of_forall₂ _ h]
          intro f f' hf
          rw [hf.congr Field.name fun _ => rfl, hf.congr Field.otherName fun _ => rfl]
      | _ => rfl
  | _ => rfl

/-- A new object with renamed attributes is the renamed object. -/
theorem object_rename (name : String) (attributes : List (String × Value)) (grade : Grade) :
    some (Value.object none name none (attributes.map fun entry => (entry.1, entry.2.rename ρ)), grade) =
      Reading.rename ρ (some (.object none name none attributes, grade)) := by
  simp only [Reading.rename, Option.map_some, Value.rename_object, Option.map_none]

theorem readRecordWith_rename (h : ReadsAlike settled classes classes') (hρ : ρ.Injective)
    {read read' : Schema → Value → Reading}
    (hread : ∀ schema, (∀ name ∈ references schema, settled name) →
      Follows ρ (read schema) (read' schema))
    (name : String) (hname : settled name) :
    Follows ρ (readRecordWith classes read name) (readRecordWith classes' read' name) := by
  intro v
  simp only [readRecordWith, h.alike.isInstance_rename, Value.classOf_rename]
  split
  · split <;> rfl
  · cases v with
    | atom | seq | object =>
        simp only [Value.rename_atom, Value.rename_seq, Value.rename_object]
        rfl
    | dict place entries =>
        have hextra := extraEntries_of_sameSchema (h.modelFields name hname)
        simp only [Value.rename_dict, h.alike.isModel, h.alike.modelOption?, h.alike.hiddenAttributes,
          hextra]
        split
        · rw [readFields_rename h.alike hρ hread _ _ (h.modelFields name hname)
            (h.behindModel name hname)]
          refine bind_map_comm fun r => ?_
          have hhidden : (classes.hiddenAttributes (.declared name)).map (fun entry =>
              (entry.1, entry.2.rename ρ)) = classes.hiddenAttributes (.declared name) :=
            rename_hiddenAttributes (.declared name)
          have hkept : ∀ attributes : List (String × Value),
              some (Value.object none name none (attributes.map (fun entry =>
                (entry.1, entry.2.rename ρ)) ++ classes.hiddenAttributes (.declared name)), r.2) =
              Reading.rename ρ (some (.object none name none
                (attributes ++ classes.hiddenAttributes (.declared name)), r.2)) := by
            intro attributes
            rw [← object_rename, List.map_append, hhidden]
          rw [extraEntries_rename]
          split
          · exact hkept r.1
          · rw [← List.map_append]
            exact hkept _
          · rw [List.isEmpty_map]
            split
            · exact hkept r.1
            · rfl
        · rw [readFields_rename h.alike hρ hread _ _ (h.recordArguments name hname)
            (h.behindRecord name hname)]
          exact bind_map_comm fun r => object_rename name r.1 r.2

theorem readWithin_rename (h : ReadsAlike settled classes classes') (hρ : ρ.Injective) (depth : Nat)
    (schema : Schema) (hschema : ∀ name ∈ references schema, settled name) :
    Follows ρ (readWithin classes depth schema) (readWithin classes' depth schema) := by
  induction depth generalizing schema with
  | zero => exact readWith_rename h.alike hρ (fun _ _ _ => rfl) schema hschema
  | succ depth ih =>
      exact readWith_rename h.alike hρ (readRecordWith_rename h hρ ih) schema hschema

/-- A schema reads the renamed value as the renamed result. -/
theorem read?_rename (h : ReadsAlike settled classes classes') (hρ : ρ.Injective) (schema : Schema)
    (hschema : ∀ name ∈ references schema, settled name) (v : Value) :
    read? classes' schema (v.rename ρ) = (read? classes schema v).map (Value.rename ρ) := by
  unfold read?
  rw [Value.depth_rename, readWithin_rename h hρ _ schema hschema v]
  cases readWithin classes (v.depth + 1) schema v <;> rfl

/-- What a schema reads is made anew or is part of the value that is read. -/
theorem within_of_read? {schema : Schema} {v result : Value} {C : Place → Prop} (hv : v.Within C)
    (h : read? classes schema v = some result) : result.Within C :=
  hv.of_commutes (fun _ hρ => read?_rename (.refl classes) hρ schema (fun _ _ => trivial) v) h

theorem ofType?_of_describe? {t : TypeExpr} {schema : Schema}
    (h : describe? classes t = some schema) : ofType? classes t = some schema := by
  obtain ⟨found, hfound, hclosed⟩ := Option.bind_eq_some_iff.mp h
  split at hclosed
  · cases hclosed
    exact hfound
  · cases hclosed

end Memberwise.Schema
