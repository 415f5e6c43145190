import Memberwise.Proofs.Member.Described
import Memberwise.Proofs.Plan.Matching
import Memberwise.Proofs.TypeExpr.Flat

/-! # Stated types of members

The type that is stated for a field of a class that is no model is a hint.  So it is flat, however
its annotation is written.
-/

namespace Memberwise.Classes

variable {classes : Classes} {c : ClassRef} {members : List Member} {m : Member}

theorem isFlat_hintOf {owner : String} {t u : TypeExpr} (h : classes.hintOf owner t = .ok u) :
    u.IsFlat := by
  unfold hintOf at h
  split at h
  · rename_i hresolve
    cases h
    exact TypeExpr.isFlat_resolve hresolve
  · cases h
  · cases h

theorem isFlat_hintOf? {owner : String} {t : Option TypeExpr} {u : Option TypeExpr}
    (h : classes.hintOf? owner t = .ok u) : ∀ hint ∈ u, hint.IsFlat := by
  intro hint hhint
  cases t with
  | none =>
      cases h
      cases hhint
  | some t =>
      obtain ⟨resolved, hresolved, rfl⟩ := map_eq_ok.mp h
      cases hhint
      exact isFlat_hintOf hresolved

/-- Whether all types of a list of named types are flat. -/
abbrev AllFlat (hints : List (String × TypeExpr)) : Prop := ∀ hint ∈ hints, hint.2.IsFlat

theorem allFlat_append {hints : List (String × TypeExpr)} (h : AllFlat hints) {name : String}
    {t : TypeExpr} (ht : t.IsFlat) : AllFlat (hints ++ [(name, t)]) := by
  intro hint hhint
  rcases List.mem_append.mp hhint with hhint | hhint
  · exact h hint hhint
  · rw [List.mem_singleton.mp hhint]
    exact ht

theorem allFlat_putHint {hints : List (String × TypeExpr)} (h : AllFlat hints) {name : String}
    {t : TypeExpr} (ht : t.IsFlat) : AllFlat (putHint hints name t) := by
  unfold putHint
  split
  · intro hint hhint
    obtain ⟨old, hold, rfl⟩ := List.mem_map.mp hhint
    split
    · exact ht
    · exact h old hold
  · exact allFlat_append h ht

theorem allFlat_classHints {hints : List (String × TypeExpr)}
    (h : classes.classHints c = .ok hints) : AllFlat hints := by
  refine foldlM_invariant AllFlat ?_ h fun _ hnone => absurd hnone List.not_mem_nil
  rintro known ⟨name, t⟩ after hstep hknown
  obtain ⟨u, hu, hstep⟩ := bind_eq_ok.mp hstep
  cases hstep
  exact allFlat_putHint hknown (isFlat_hintOf hu)

theorem allFlat_storedParameters {parameters : List (String × TypeExpr)}
    (h : classes.storedParameters c = .ok parameters) : AllFlat parameters := by
  unfold storedParameters at h
  split at h
  · rename_i owner init _
    obtain ⟨hints, hhints, h⟩ := bind_eq_ok.mp h
    cases h
    intro entry hentry
    obtain ⟨⟨p, hint⟩, hmem, hstored⟩ := List.mem_filterMap.mp hentry
    obtain ⟨parameter, -, hread⟩ := exists_of_mem_mapM hhints hmem
    obtain ⟨resolved, hresolved, hread⟩ := bind_eq_ok.mp hread
    cases hread
    dsimp only at hstored
    split at hstored
    · obtain ⟨t, ht, rfl⟩ := Option.map_eq_some_iff.mp hstored
      exact isFlat_hintOf? hresolved t ht
    · cases hstored
  · cases h
    intro entry hentry
    obtain ⟨f, -, -, -, -, hresolved⟩ := (classes.mem_generatedParameters c).mp hentry
    exact TypeExpr.isFlat_resolve hresolved
  · cases h
    exact fun _ hnone => absurd hnone List.not_mem_nil

theorem allFlat_fieldAnnotations {annotations : List (String × TypeExpr)}
    (h : classes.fieldAnnotations c = .ok annotations) : AllFlat annotations := by
  unfold fieldAnnotations at h
  obtain ⟨hints, hhints, h⟩ := bind_eq_ok.mp h
  obtain ⟨parameters, hparameters, h⟩ := bind_eq_ok.mp h
  cases h
  have hstored := allFlat_storedParameters hparameters
  refine foldl_invariant_of_mem AllFlat ?_ fun hint hhint =>
    allFlat_classHints hhints hint (List.mem_filter.mp hhint).1
  rintro known ⟨name, t⟩ hentry hknown
  dsimp only
  split
  · exact hknown
  · exact allFlat_append hknown (hstored _ hentry)

/-- A flat type is stated for every field of a class that is no model, and the fields of a class
can be written unless its nearest record class is frozen. -/
theorem exists_isFlat_of_mem_fields (hmodel : classes.isModel c = false)
    (h : classes.fields c = .ok members) (hm : m ∈ members) :
    ∃ t, t.IsFlat ∧ m = Member.describe classes m.name t true !classes.isFrozenRecord c := by
  obtain ⟨annotations, hannotations, hmembers⟩ := mem_fields_iff hmodel h
  obtain ⟨name, t, hannotation, -, rfl⟩ := (hmembers m).mp hm
  exact ⟨t, allFlat_fieldAnnotations hannotations _ hannotation, rfl⟩

end Memberwise.Classes
