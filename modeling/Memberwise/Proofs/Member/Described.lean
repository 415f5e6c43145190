import Memberwise.Proofs.Member.Names

/-! # Members as they are described

Every member is described by its name, its stated type and its access.  A property is writable if
it has a setter, whatever its class; a field is not writable if its class is frozen.
-/

namespace Memberwise

/-- Whether a member is described by a stated type. -/
def Member.Describes (classes : Classes) (t : TypeExpr) (m : Member) : Prop :=
  ∃ name readable writable, m = describe classes name t readable writable

namespace Classes

variable {classes : Classes} {c : ClassRef} {members : List Member} {m : Member}

theorem mem_properties (h : classes.properties c = .ok members) (hm : m ∈ members) :
    ∃ name p t, (name, p) ∈ classes.publicProperties c ∧
      m = Member.describe classes name t p.getter.isSome p.setter.isSome := by
  have hpairs := mapM_eq_ok_iff.mp h
  clear h
  generalize classes.publicProperties c = known at hpairs ⊢
  induction hpairs with
  | nil => cases hm
  | @cons entry first rest others hfirst _ ih =>
      rcases List.mem_cons.mp hm with rfl | hm
      · obtain ⟨t, -, hfirst⟩ := bind_eq_ok.mp hfirst
        obtain ⟨-, rfl⟩ := described_eq_ok hfirst
        exact ⟨entry.1, entry.2, t, List.mem_cons_self, rfl⟩
      · obtain ⟨name, p, t, hentry, hm⟩ := ih hm
        exact ⟨name, p, t, List.mem_cons_of_mem entry hentry, hm⟩

theorem mem_fields (h : classes.fields c = .ok members) (hm : m ∈ members) :
    ∃ name t writable, m = Member.describe classes name t true writable ∧
      (writable = true →
        if classes.isModel c then classes.isFrozenModel c = false
        else classes.isFrozenRecord c = false) := by
  by_cases hmodel : classes.isModel c = true
  · obtain ⟨f, -, rfl⟩ := mem_fields_of_model hmodel h hm
    refine ⟨_, _, _, rfl, fun hw => ?_⟩
    rw [if_pos hmodel]
    simp only [Bool.not_eq_true', Bool.or_eq_false_iff] at hw
    exact hw.1
  · obtain ⟨annotations, -, hmembers⟩ := mem_fields_iff (by simpa using hmodel) h
    obtain ⟨name, t, -, -, rfl⟩ := (hmembers m).mp hm
    refine ⟨_, _, _, rfl, fun hw => ?_⟩
    rw [if_neg hmodel]
    simpa using hw

theorem isHiddenName_of_mem_enterBindings {known : List (String × Property)}
    (bindings : List (String × Option Property))
    (hknown : ∀ entry ∈ known, isHiddenName entry.1 = false) :
    ∀ entry ∈ enterBindings known bindings, isHiddenName entry.1 = false := by
  refine foldl_invariant (fun known : List (String × Property) =>
    ∀ entry ∈ known, isHiddenName entry.1 = false) ?_ bindings hknown
  rintro known ⟨name, property⟩ hknown entry hentry
  cases property with
  | none => exact hknown entry (List.mem_filter.mp hentry).1
  | some p =>
      dsimp only at hentry
      by_cases hhidden : isHiddenName name = true
      · rw [if_pos hhidden] at hentry
        exact hknown entry (List.mem_filter.mp hentry).1
      · have hpublic : isHiddenName name = false := by simpa using hhidden
        rw [if_neg hhidden] at hentry
        split at hentry
        · obtain ⟨old, hold, rfl⟩ := List.mem_map.mp hentry
          split
          · exact hpublic
          · exact hknown old hold
        · rcases List.mem_append.mp hentry with hentry | hentry
          · exact hknown entry hentry
          · rw [List.mem_singleton.mp hentry]
            exact hpublic

/-- The names of properties are public. -/
theorem isHiddenName_of_mem_publicProperties {entry : String × Property}
    (h : entry ∈ classes.publicProperties c) : isHiddenName entry.1 = false := by
  refine foldl_invariant (fun known : List (String × Property) =>
    ∀ e ∈ known, isHiddenName e.1 = false) ?_ (classes.lineageOf c).reverse ?_ entry h
  · exact fun known parent => isHiddenName_of_mem_enterBindings (classes.namespaceOf parent)
  · simp

end Classes

end Memberwise
