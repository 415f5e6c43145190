import Memberwise.Member.Discovery
import Memberwise.Proofs.Fallible

/-! # Classes that can be described

The members of a class can be told as soon as its annotations resolve, each of its properties has
an accessor and the types of its members have normal spellings.
-/

namespace Memberwise

/-- Whether a type has a normal spelling. -/
def TypeExpr.IsNormalizable (t : TypeExpr) : Prop := t.normalize?.isSome = true

instance (t : TypeExpr) : Decidable t.IsNormalizable :=
  inferInstanceAs (Decidable (t.normalize?.isSome = true))

theorem Member.describe?_eq {t : TypeExpr} (h : t.IsNormalizable) (classes : Classes)
    (name : String) (readable writable : Bool) :
    describe? classes name t readable writable = some (describe classes name t readable writable) := by
  obtain ⟨normal, hnormal⟩ := Option.isSome_iff_exists.mp h
  rw [describe?, hnormal]
  rfl

theorem Member.describe?_eq_some {classes : Classes} {t : TypeExpr} {name : String}
    {readable writable : Bool} {m : Member} (h : describe? classes name t readable writable = some m) :
    t.IsNormalizable ∧ m = describe classes name t readable writable := by
  obtain ⟨normal, hnormal, rfl⟩ := Option.map_eq_some_iff.mp h
  exact ⟨Option.isSome_iff_exists.mpr ⟨normal, hnormal⟩, rfl⟩

/-- The annotations that the type of a property is read from. -/
def Property.annotations (p : Property) : List TypeExpr :=
  match p.getter, p.setter with
  | some getter, _ => getter.type.toList
  | none, some setter => setter.type.toList ++ setter.returns.toList
  | none, none => []

namespace Classes

variable (classes : Classes)

/-- The parameters of a declared initializer. -/
def InitSource.parameters : InitSource → List Parameter
  | .declared _ init => init.parameters
  | _ => []

/-- Whether all names in an annotation stand for something. -/
def Hints (t : TypeExpr) : Prop := ∃ u, t.resolve classes = .ok u

/-- Whether the annotations of a class resolve, those of its properties can be asked for, and the types
that they state have normal spellings.  The fields of a model are resolved as they are declared. -/
structure Describable (c : ClassRef) : Prop where
  accessors : ∀ entry ∈ classes.publicProperties c,
    entry.2.statesHints = true
  property_hints : ∀ entry ∈ classes.publicProperties c, ∀ t ∈ entry.2.annotations, classes.Hints t
  field_hints : classes.isModel c = false →
    ∀ decl ∈ classes.declsOf c, ∀ entry ∈ decl.annotations, classes.Hints entry.2
  parameter_hints : classes.isModel c = false →
    ∀ p ∈ (classes.initSource c).parameters, ∀ t ∈ p.type.toList, classes.Hints t
  property_types : ∀ entry ∈ classes.publicProperties c, ∀ t,
    classes.propertyType entry.1 entry.2 = .ok t → t.IsNormalizable
  field_types : ∀ stated, classes.statedFields c = .ok stated →
    ∀ entry ∈ stated, entry.2.1.IsNormalizable

variable {classes} {c : ClassRef}

instance {ε α : Type} (x : Except ε α) (P : α → Prop) [DecidablePred P] :
    Decidable (∀ a, x = .ok a → P a) :=
  match x with
  | .ok a => decidable_of_iff (P a) ⟨fun h _ ha => Except.ok.inj ha ▸ h, fun h => h a rfl⟩
  | .error _ => isTrue nofun

instance (t : TypeExpr) : Decidable (classes.Hints t) :=
  match h : t.resolve classes with
  | .ok u => isTrue ⟨u, h⟩
  | .error _ => isFalse fun ⟨u, hu⟩ => by simp [h] at hu

instance : Decidable (classes.Describable c) :=
  decidable_of_iff
    ((∀ entry ∈ classes.publicProperties c,
        entry.2.statesHints = true) ∧
      (∀ entry ∈ classes.publicProperties c, ∀ t ∈ entry.2.annotations, classes.Hints t) ∧
      (classes.isModel c = false →
        ∀ decl ∈ classes.declsOf c, ∀ entry ∈ decl.annotations, classes.Hints entry.2) ∧
      (classes.isModel c = false →
        ∀ p ∈ (classes.initSource c).parameters, ∀ t ∈ p.type.toList, classes.Hints t) ∧
      (∀ entry ∈ classes.publicProperties c, ∀ t,
        classes.propertyType entry.1 entry.2 = .ok t → t.IsNormalizable) ∧
      ∀ stated, classes.statedFields c = .ok stated →
        ∀ entry ∈ stated, entry.2.1.IsNormalizable)
    ⟨fun ⟨ha, hp, hf, hi, ht, hs⟩ => ⟨ha, hp, hf, hi, ht, hs⟩,
      fun ⟨ha, hp, hf, hi, ht, hs⟩ => ⟨ha, hp, hf, hi, ht, hs⟩⟩

theorem hintOf_isOk {t : TypeExpr} (h : classes.Hints t) (owner : String) :
    ∃ u, classes.hintOf owner t = .ok u := by
  obtain ⟨u, hu⟩ := h
  exact ⟨u, by simp only [hintOf, hu]⟩

theorem hintOf?_isOk {t : Option TypeExpr} (h : ∀ u ∈ t.toList, classes.Hints u)
    (owner : String) : ∃ u, classes.hintOf? owner t = .ok u := by
  cases t with
  | none => exact ⟨none, rfl⟩
  | some t =>
      obtain ⟨u, hu⟩ := hintOf_isOk (h t (by simp)) owner
      exact ⟨some u, by simp only [hintOf?, hu, Except.map]⟩

theorem described_of_isNormalizable {t : TypeExpr} (h : t.IsNormalizable) (name : String)
    (readable writable : Bool) :
    described (Member.describe? classes name t readable writable) =
      .ok (Member.describe classes name t readable writable) := by
  rw [Member.describe?_eq h]
  rfl

theorem described_eq_ok {t : TypeExpr} {name : String} {readable writable : Bool} {m : Member}
    (h : described (Member.describe? classes name t readable writable) = .ok m) :
    t.IsNormalizable ∧ m = Member.describe classes name t readable writable := by
  cases hdescribe : Member.describe? classes name t readable writable with
  | none =>
      rw [hdescribe] at h
      cases h
  | some found =>
      rw [hdescribe] at h
      cases h
      exact Member.describe?_eq_some hdescribe

/-! ## Properties -/

theorem propertyType_isOk {p : Property} (ha : p.statesHints = true)
    (h : ∀ t ∈ p.annotations, classes.Hints t) (name : String) :
    ∃ t, classes.propertyType name p = .ok t := by
  unfold propertyType
  rw [ha]
  obtain ⟨owner, getter, setter⟩ := p
  cases getter with
  | some getter =>
      obtain ⟨t, ht⟩ := hintOf?_isOk h (owner ++ "._get_" ++ name)
      exact ⟨t.getD .any, bind_eq_ok.mpr ⟨t, ht, rfl⟩⟩
  | none =>
      cases setter with
      | none => exact ⟨.any, rfl⟩
      | some setter =>
          have hsplit : ∀ t ∈ setter.type.toList ++ setter.returns.toList, classes.Hints t := h
          obtain ⟨t, ht⟩ := hintOf?_isOk (fun u hu => hsplit u (List.mem_append_left _ hu))
            (owner ++ "._set_" ++ name)
          obtain ⟨r, hr⟩ := hintOf?_isOk (fun u hu => hsplit u (List.mem_append_right _ hu))
            (owner ++ "._set_" ++ name)
          exact ⟨t.getD .any, bind_eq_ok.mpr ⟨t, ht, bind_eq_ok.mpr ⟨r, hr, rfl⟩⟩⟩

theorem properties_isOk (h : classes.Describable c) :
    ∃ members, classes.properties c = .ok members := by
  apply mapM_isOk
  rintro ⟨name, p⟩ hentry
  obtain ⟨t, ht⟩ := propertyType_isOk (h.accessors _ hentry) (h.property_hints _ hentry) name
  have hnormal := h.property_types _ hentry t ht
  exact ⟨_, bind_eq_ok.mpr ⟨t, ht, described_of_isNormalizable hnormal name _ _⟩⟩

/-! ## Fields -/

theorem classHints_isOk
    (h : ∀ decl ∈ classes.declsOf c, ∀ entry ∈ decl.annotations, classes.Hints entry.2) :
    ∃ hints, classes.classHints c = .ok hints := by
  apply foldlM_isOk
  rintro known ⟨name, t⟩ hentry
  obtain ⟨decl, hdecl, hentry⟩ := List.mem_flatMap.mp hentry
  obtain ⟨u, hu⟩ := hintOf_isOk (h decl (List.mem_reverse.mp hdecl) _ hentry) c.name
  exact ⟨_, bind_eq_ok.mpr ⟨u, hu, rfl⟩⟩

theorem storedParameters_isOk
    (h : ∀ p ∈ (classes.initSource c).parameters, ∀ t ∈ p.type.toList, classes.Hints t) :
    ∃ parameters, classes.storedParameters c = .ok parameters := by
  unfold storedParameters
  split
  · rename_i owner init hinit
    have hparameters : ∃ hints, (init.parameters.mapM fun p => do
        .ok (p, ← classes.hintOf? (owner ++ ".__init__") p.type)) =
          (.ok hints : Except Fault (List (Parameter × Option TypeExpr))) := by
      refine mapM_isOk fun p hp => ?_
      rw [hinit] at h
      obtain ⟨t, ht⟩ := hintOf?_isOk (h p hp) (owner ++ ".__init__")
      exact ⟨_, bind_eq_ok.mpr ⟨t, ht, rfl⟩⟩
    obtain ⟨hints, hhints⟩ := hparameters
    exact ⟨_, bind_eq_ok.mpr ⟨hints, hhints, rfl⟩⟩
  · exact ⟨_, rfl⟩
  · exact ⟨[], rfl⟩

theorem statedFields_isOk (h : classes.Describable c) :
    ∃ stated, classes.statedFields c = .ok stated := by
  unfold statedFields
  cases hm : classes.isModel c with
  | true => exact ⟨_, if_pos rfl⟩
  | false =>
      obtain ⟨hints, hh⟩ := classHints_isOk (h.field_hints hm)
      obtain ⟨parameters, hp⟩ := storedParameters_isOk (h.parameter_hints hm)
      have hannotations : ∃ annotations, classes.fieldAnnotations c = .ok annotations :=
        ⟨_, bind_eq_ok.mpr ⟨hints, hh, bind_eq_ok.mpr ⟨parameters, hp, rfl⟩⟩⟩
      obtain ⟨annotations, ha⟩ := hannotations
      exact ⟨_, bind_eq_ok.mpr ⟨annotations, ha, rfl⟩⟩

/-- Stated types that have normal spellings describe the fields of a class. -/
theorem fields_of_statedFields {stated : List (String × TypeExpr × Bool)}
    (h : classes.statedFields c = .ok stated) (hnormal : ∀ entry ∈ stated, entry.2.1.IsNormalizable) :
    classes.fields c = .ok (stated.map fun entry =>
      Member.describe classes entry.1 entry.2.1 true entry.2.2) := by
  refine bind_eq_ok.mpr ⟨stated, h, mapM_eq_ok_iff.mpr ?_⟩
  rw [List.forall₂_map_right_iff, List.forall₂_same]
  exact fun entry hentry => described_of_isNormalizable (hnormal entry hentry) ..

theorem fields_isOk (h : classes.Describable c) : ∃ members, classes.fields c = .ok members := by
  obtain ⟨stated, hstated⟩ := statedFields_isOk h
  exact ⟨_, fields_of_statedFields hstated (h.field_types stated hstated)⟩

/-- The fields of a class are described by their stated types, all of which have normal
spellings. -/
theorem fields_eq_ok {members : List Member} (h : classes.fields c = .ok members) :
    ∃ stated, classes.statedFields c = .ok stated ∧
      (∀ entry ∈ stated, entry.2.1.IsNormalizable) ∧
      members = stated.map fun entry =>
        Member.describe classes entry.1 entry.2.1 true entry.2.2 := by
  obtain ⟨stated, hstated, hmembers⟩ := bind_eq_ok.mp h
  refine ⟨stated, hstated, ?_⟩
  have hpairs := mapM_eq_ok_iff.mp hmembers
  clear hstated hmembers h
  induction hpairs with
  | nil => exact ⟨List.forall_mem_nil _, rfl⟩
  | @cons entry m rest others hfirst _ ih =>
      obtain ⟨name, t, writable⟩ := entry
      obtain ⟨hnormal, rfl⟩ := described_eq_ok hfirst
      exact ⟨List.forall_mem_cons.mpr ⟨hnormal, ih.1⟩, congrArg (_ :: ·) ih.2⟩

/-- The fields of a class that is no model are described by the annotations whose names may be
fields. -/
theorem mem_fields_iff (hmodel : classes.isModel c = false) {members : List Member}
    (h : classes.fields c = .ok members) :
    ∃ annotations, classes.fieldAnnotations c = .ok annotations ∧
      ∀ m, m ∈ members ↔ ∃ name t, (name, t) ∈ annotations ∧
        isFieldName (classes.publicProperties c) name = true ∧
          m = Member.describe classes name t true !classes.isFrozenRecord c := by
  obtain ⟨stated, hstated, -, rfl⟩ := fields_eq_ok h
  unfold statedFields at hstated
  rw [hmodel, if_neg Bool.false_ne_true] at hstated
  obtain ⟨annotations, hannotations, hstated⟩ := bind_eq_ok.mp hstated
  cases hstated
  refine ⟨annotations, hannotations, fun m => ?_⟩
  rw [List.mem_map]
  constructor
  · rintro ⟨entry, hentry, rfl⟩
    obtain ⟨⟨name, t⟩, hannotation, hkept⟩ := List.mem_filterMap.mp hentry
    dsimp only at hkept
    split at hkept
    · rename_i hname
      cases hkept
      exact ⟨name, t, hannotation, hname, rfl⟩
    · cases hkept
  · rintro ⟨name, t, hannotation, hname, rfl⟩
    exact ⟨(name, t, !classes.isFrozenRecord c),
      List.mem_filterMap.mpr ⟨(name, t), hannotation, if_pos hname⟩, rfl⟩

/-- The fields of a model are described by its fields as they are declared. -/
theorem mem_fields_of_model (hmodel : classes.isModel c = true) {members : List Member} {m : Member}
    (h : classes.fields c = .ok members) (hm : m ∈ members) :
    ∃ f ∈ classes.modelFields c, m = Member.describe classes f.name (f.type.resolveField classes) true
      !(classes.isFrozenModel c || f.frozen) := by
  obtain ⟨stated, hstated, -, rfl⟩ := fields_eq_ok h
  obtain ⟨entry, hentry, rfl⟩ := List.mem_map.mp hm
  unfold statedFields at hstated
  rw [hmodel, if_pos rfl] at hstated
  cases hstated
  obtain ⟨f, hf, hkept⟩ := List.mem_filterMap.mp hentry
  split at hkept
  · cases hkept
    exact ⟨f, hf, rfl⟩
  · cases hkept

end Classes

end Memberwise
