import Memberwise.Proofs.Schema.Same
import Memberwise.Schema.Cache

/-! # Schemas that become known

Schemas are only ever added to those that are known.  Whoever knows from the start all schemas
that a run of conversions is to make finds the same ones in it, and makes no further ones.
-/

namespace Memberwise.SchemaCache

open TypeExpr (Same)

variable {classes : Classes} {known later latest : SchemaCache} {t : TypeExpr}

/-- Whether schemas that are known later are those known before and further ones. -/
def Grows (classes : Classes) (known later : SchemaCache) : Prop :=
  ∃ rest, later.types = known.types ++ rest ∧ ∀ t ∈ rest, (Schema.describe? classes t).isSome = true

theorem Grows.refl (classes : Classes) (known : SchemaCache) : Grows classes known known :=
  ⟨[], (List.append_nil _).symm, fun _ ht => (nomatch ht)⟩

theorem Grows.trans (h : Grows classes known later) (h' : Grows classes later latest) :
    Grows classes known latest := by
  obtain ⟨rest, hrest, hdescribed⟩ := h
  obtain ⟨rest', hrest', hdescribed'⟩ := h'
  refine ⟨rest ++ rest', ?_, List.forall_mem_append.mpr ⟨hdescribed, hdescribed'⟩⟩
  rw [hrest', hrest, List.append_assoc]

/-- Whether a schema is made for a type that is asked for. -/
def isRemembered (known : SchemaCache) (classes : Classes) (t : TypeExpr) : Bool :=
  !known.contains t && t.isHashable classes && (Schema.describe? classes t).isSome

theorem remember_eq (known : SchemaCache) (classes : Classes) (t : TypeExpr) :
    known.remember classes t = if known.isRemembered classes t then ⟨known.types ++ [t]⟩ else known := by
  unfold remember isRemembered
  cases known.contains t <;> cases t.isHashable classes <;>
    cases Schema.describe? classes t <;> rfl

theorem grows_remember (classes : Classes) (known : SchemaCache) (t : TypeExpr) :
    Grows classes known (known.remember classes t) := by
  rw [remember_eq]
  split
  · rename_i hremembered
    refine ⟨[t], rfl, List.forall_mem_singleton.mpr ?_⟩
    simp only [isRemembered, Bool.and_eq_true] at hremembered
    exact hremembered.2
  · exact .refl classes known

theorem contains_iff : known.contains t = true ↔ ∃ u ∈ known.types, Same u t := List.any_eq_true

theorem contains_of_grows (h : Grows classes known later) (ht : known.contains t = true) :
    later.contains t = true := by
  obtain ⟨rest, hrest, -⟩ := h
  obtain ⟨u, hu, hsame⟩ := contains_iff.mp ht
  rw [contains_iff, hrest]
  exact ⟨u, List.mem_append_left _ hu, hsame⟩

theorem contains_remember (h : known.isRemembered classes t = true) :
    (known.remember classes t).contains t = true := by
  rw [remember_eq, if_pos h, contains_iff]
  exact ⟨t, List.mem_append_right _ (List.mem_singleton_self t), TypeExpr.same_refl t⟩

/-- A spelling that is known is found first later on, too. -/
theorem spelling_of_grows (h : Grows classes known later) (ht : known.contains t = true) :
    later.spelling t = known.spelling t := by
  obtain ⟨rest, hrest, -⟩ := h
  unfold spelling
  rw [hrest, List.find?_append]
  cases hfound : known.types.find? (·.same t) with
  | some u => rfl
  | none =>
      obtain ⟨u, hu, hsame⟩ := contains_iff.mp ht
      exact absurd hsame (List.find?_eq_none.mp hfound u hu)

/-- Whoever knows what is known after a request reads by the same schema as whoever makes it. -/
theorem schema?_of_grows (h : Grows classes (known.remember classes t) later)
    (ht : t.isHashable classes = true) : later.schema? classes t = known.schema? classes t := by
  unfold schema?
  by_cases hknown : known.contains t = true
  · rw [spelling_of_grows ((grows_remember classes known t).trans h) hknown]
  · have hunknown : known.contains t = false := by simpa using hknown
    rw [spelling_of_not_contains hunknown]
    cases hdescribed : (Schema.describe? classes t).isSome with
    | true =>
        have hremembered : known.isRemembered classes t = true := by
          simp [isRemembered, hunknown, ht, hdescribed]
        rw [spelling_of_grows h (contains_remember hremembered)]
        -- The type itself has just been added behind types that are not the same.
        rw [remember_eq, if_pos hremembered, spelling, List.find?_append]
        have hnone : known.types.find? (·.same t) = none := by
          rw [List.find?_eq_none]
          intro u hu hsame
          exact hknown (contains_iff.mpr ⟨u, hu, hsame⟩)
        rw [hnone, List.find?_singleton, if_pos (TypeExpr.same_refl t)]
        rfl
    | false =>
        -- No type that is the same has a schema, so none has been added since.
        have hlater : later.contains t = false := by
          rw [← Bool.not_eq_true, contains_iff]
          rintro ⟨u, hu, hsame⟩
          obtain ⟨rest, hrest, hrestDescribed⟩ := (grows_remember classes known t).trans h
          rw [hrest] at hu
          rcases List.mem_append.mp hu with hu | hu
          · exact hknown (contains_iff.mpr ⟨u, hu, hsame⟩)
          · rw [← Schema.isSome_describe?_of_same hsame, hrestDescribed u hu] at hdescribed
            cases hdescribed
        rw [spelling_of_not_contains hlater]

/-- Whoever knows what is known after a request adds nothing to it by the same request. -/
theorem remember_of_grows (h : Grows classes (known.remember classes t) later) :
    later.remember classes t = later := by
  rw [remember_eq, if_neg]
  intro hremembered
  simp only [isRemembered, Bool.and_eq_true, Bool.not_eq_true'] at hremembered
  have hunknown : known.contains t = false := by
    rw [← Bool.not_eq_true]
    intro hknown
    rw [contains_of_grows ((grows_remember classes known t).trans h) hknown] at hremembered
    simp at hremembered
  have hfirst : known.isRemembered classes t = true := by
    simp [isRemembered, hunknown, hremembered]
  rw [contains_of_grows h (contains_remember hfirst)] at hremembered
  simp at hremembered

end Memberwise.SchemaCache
