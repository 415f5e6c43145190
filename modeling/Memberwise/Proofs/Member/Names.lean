import Memberwise.Proofs.KeyedList
import Memberwise.Proofs.Member.Describable

/-! # Names of members

The members of a class have names of their own: no two properties share one, no two fields do,
and no field has the name of a property.
-/

namespace Memberwise.Classes

variable (classes : Classes) (c : ClassRef)

/-! ## Properties -/

theorem nodup_enterBindings {known : List (String × Property)}
    (bindings : List (String × Option Property)) (h : (known.map (·.1)).Nodup) :
    ((enterBindings known bindings).map (·.1)).Nodup := by
  refine foldl_invariant (fun known : List (String × Property) => (known.map (·.1)).Nodup) ?_
    bindings h
  rintro known ⟨name, property⟩ h
  cases property with
  | none => exact nodup_map_filter _ _ h
  | some p =>
      by_cases hidden : isHiddenName name
      · simpa only [hidden, if_true] using nodup_map_filter _ _ h
      · simpa only [hidden, Bool.false_eq_true, if_false] using nodup_upsert (·.1) (name, p) h

theorem nodup_publicProperties : ((classes.publicProperties c).map (·.1)).Nodup := by
  refine foldl_invariant (fun known : List (String × Property) => (known.map (·.1)).Nodup) ?_ _ ?_
  · exact fun _ parent h => nodup_enterBindings (classes.namespaceOf parent) h
  · exact List.nodup_nil

/-- The members that properties become keep their names and order. -/
theorem properties_names {members : List Member} (h : classes.properties c = .ok members) :
    members.map (·.name) = (classes.publicProperties c).map (·.1) := by
  have hf := mapM_eq_ok_iff.mp h
  clear h
  generalize classes.publicProperties c = known at hf ⊢
  induction hf with
  | nil => rfl
  | cons hm _ ih =>
      obtain ⟨t, -, hm⟩ := bind_eq_ok.mp hm
      obtain ⟨-, rfl⟩ := described_eq_ok hm
      exact congrArg (_ :: ·) ih

theorem nodup_properties {members : List Member} (h : classes.properties c = .ok members) :
    (members.map (·.name)).Nodup := by
  rw [classes.properties_names c h]
  exact classes.nodup_publicProperties c

/-! ## Fields -/

theorem nodup_modelFields : ((classes.modelFields c).map (·.name)).Nodup := by
  refine nodup_map_filter _ _ ?_
  refine foldl_invariant (fun known : List Field => (known.map (·.name)).Nodup) ?_ _ ?_
  · intro known decl h
    exact foldl_invariant (fun known : List Field => (known.map (·.name)).Nodup)
      (fun known f h => nodup_upsert Field.name f h) _ h
  · exact List.nodup_nil

theorem nodup_classHints {hints : List (String × TypeExpr)} (h : classes.classHints c = .ok hints) :
    (hints.map (·.1)).Nodup := by
  refine foldlM_invariant (fun known : List (String × TypeExpr) => (known.map (·.1)).Nodup) ?_ h
    List.nodup_nil
  rintro known ⟨name, t⟩ after hstep hknown
  obtain ⟨t, _, hstep⟩ := bind_eq_ok.mp hstep
  cases hstep
  exact nodup_upsert (·.1) (name, t) hknown

theorem mem_generatedArguments {owner : String} {f : Field} :
    f ∈ classes.generatedArguments owner ↔
      f ∈ classes.recordArguments (.declared owner) ∧ f.inInit = true := by
  simp only [generatedArguments, List.mem_append, List.mem_filter]
  cases f.keywordOnly == some true <;> simp

theorem mem_generatedParameters {owner name : String} {t : TypeExpr} :
    (name, t) ∈ classes.generatedParameters c owner ↔
      ∃ f ∈ classes.recordArguments (.declared owner), f.inInit = true ∧ f.name = name ∧
        classes.storesArgument c owner f = true ∧ f.type.resolve classes = .ok t := by
  unfold generatedParameters
  rw [List.mem_filterMap]
  constructor
  · rintro ⟨f, hf, hparameter⟩
    obtain ⟨hf, hinit⟩ := (classes.mem_generatedArguments).mp hf
    split at hparameter
    · rename_i hstored
      obtain ⟨u, hu, hentry⟩ := Option.map_eq_some_iff.mp hparameter
      cases hentry
      exact ⟨f, hf, hinit, rfl, hstored, toOption_eq_some.mp hu⟩
    · cases hparameter
  · rintro ⟨f, hf, hinit, rfl, hstored, ht⟩
    refine ⟨f, (classes.mem_generatedArguments).mpr ⟨hf, hinit⟩, ?_⟩
    rw [if_pos hstored, ht]
    rfl

theorem nodup_fieldAnnotations {annotations : List (String × TypeExpr)}
    (h : classes.fieldAnnotations c = .ok annotations) : (annotations.map (·.1)).Nodup := by
  unfold fieldAnnotations at h
  obtain ⟨hints, hh, h⟩ := bind_eq_ok.mp h
  obtain ⟨parameters, _, h⟩ := bind_eq_ok.mp h
  cases h
  refine foldl_invariant (fun known : List (String × TypeExpr) => (known.map (·.1)).Nodup) ?_ _
    (nodup_map_filter _ _ (classes.nodup_classHints c hh))
  rintro known ⟨name, t⟩ hknown
  by_cases hany : known.any (·.1 == name)
  · simpa only [hany, if_true] using hknown
  · have hput := nodup_upsert (·.1) (name, t) hknown
    simpa only [hany, Bool.false_eq_true, if_false] using hput

/-- The stated fields of a class have names of their own, each of which may be a field. -/
theorem statedFields_names {stated : List (String × TypeExpr × Bool)}
    (h : classes.statedFields c = .ok stated) :
    (stated.map (·.1)).Nodup ∧
      ∀ entry ∈ stated, isFieldName (classes.publicProperties c) entry.1 = true := by
  -- Fields are taken from models and from annotations alike: some entries, each under its name.
  have hchosen : ∀ {α : Type} {key : α → String} {entry : α → TypeExpr × Bool} {l : List α},
      (l.map key).Nodup → stated = l.filterMap (fun a =>
        if isFieldName (classes.publicProperties c) (key a) then some (key a, entry a) else none) →
      (stated.map (·.1)).Nodup ∧
        ∀ entry ∈ stated, isFieldName (classes.publicProperties c) entry.1 = true := by
    rintro α key entry l hl rfl
    constructor
    · refine hl.sublist (map_filterMap_sublist ?_ l)
      intro a found ha
      split at ha
      · cases ha
        rfl
      · cases ha
    · intro found hfound
      obtain ⟨a, -, ha⟩ := List.mem_filterMap.mp hfound
      split at ha
      · rename_i hname
        cases ha
        exact hname
      · cases ha
  unfold statedFields at h
  by_cases hm : classes.isModel c
  · simp only [hm, if_true, Except.ok.injEq] at h
    exact hchosen (classes.nodup_modelFields c) h.symm
  · simp only [hm] at h
    obtain ⟨annotations, ha, h⟩ := bind_eq_ok.mp h
    cases h
    exact hchosen (classes.nodup_fieldAnnotations c ha) rfl

theorem nodup_fields {members : List Member} (h : classes.fields c = .ok members) :
    (members.map (·.name)).Nodup := by
  obtain ⟨stated, hstated, -, rfl⟩ := fields_eq_ok h
  rw [List.map_map]
  exact (classes.statedFields_names c hstated).1

theorem isFieldName_of_mem_fields {members : List Member} (h : classes.fields c = .ok members)
    {m : Member} (hm : m ∈ members) : isFieldName (classes.publicProperties c) m.name = true := by
  obtain ⟨stated, hstated, -, rfl⟩ := fields_eq_ok h
  obtain ⟨entry, hentry, rfl⟩ := List.mem_map.mp hm
  exact (classes.statedFields_names c hstated).2 entry hentry

/-- No field has the name of a property. -/
theorem properties_disjoint_fields {properties fields : List Member}
    (hp : classes.properties c = .ok properties) (hf : classes.fields c = .ok fields) :
    (properties.map (·.name)).Disjoint (fields.map (·.name)) := by
  intro name hname hfield
  rw [classes.properties_names c hp] at hname
  obtain ⟨m, hm, rfl⟩ := List.mem_map.mp hfield
  obtain ⟨entry, hentry, hkey⟩ := List.mem_map.mp hname
  have hfree := classes.isFieldName_of_mem_fields c hf hm
  simp only [isFieldName, Bool.and_eq_true, Bool.not_eq_true', List.any_eq_false] at hfree
  exact hfree.2 entry hentry (by simp [hkey])

/-! ## Required arguments -/

theorem mem_sortNames {names : List String} {name : String} :
    name ∈ sortNames names ↔ name ∈ names := by
  rw [sortNames, List.mem_eraseDups, List.mem_mergeSort]

theorem sortNames_eq_nil {names : List String} : sortNames names = [] ↔ names = [] := by
  simp only [List.eq_nil_iff_forall_not_mem, mem_sortNames]

end Memberwise.Classes
