import Memberwise.Proofs.Plan.Planning
import Memberwise.Proofs.Whole.Transfer

/-! # Planned steps in whole worlds

The values that a plan falls back on are atoms, and its builders fill lists and sets before they
finish them.  So a mutator leaves a whole world, whatever it is run on.
-/

namespace Memberwise

theorem Classes.places_defaultValue (classes : Classes) (t : TypeExpr) :
    (classes.defaultValue t).places = [] := by
  unfold Classes.defaultValue
  split
  · rfl
  · split
    · split
      · unfold Classes.zeroOf
        split
        · split <;> rfl
        · split <;> rfl
      · rfl
    · rfl

theorem Builder.isPlain_of_ofOrigin? {classes : Classes} {origin : ClassRef} {builder : Builder}
    (h : Builder.ofOrigin? classes origin = some builder) : builder.IsPlain := by
  unfold Builder.ofOrigin? at h
  split at h
  · cases h
    exact .inl rfl
  split at h
  · cases h
    exact .inl rfl
  split at h
  · cases h
    exact .inr (.inl rfl)
  split at h
  · cases h
    exact .inr (.inr rfl)
  split at h
  · cases h
    exact .inl rfl
  · cases h

theorem Builder.isPlain_of_ofMember {classes : Classes} {m : Member} {builder : Builder}
    (h : Builder.ofMember classes m = .ok builder) : builder.IsPlain := by
  unfold Builder.ofMember at h
  split at h
  · rename_i hfound
    cases h
    obtain ⟨origin, -, horigin⟩ := Option.bind_eq_some_iff.mp hfound
    exact isPlain_of_ofOrigin? horigin
  · cases h

namespace Resolver

variable {classes : Classes} {registry : Registry Converter} {source target : Member}
  {a : Assignment Converter}

theorem places_of_chooses {operation : Operation Converter}
    (h : Chooses classes registry source target operation) : operation.places = [] := by
  cases h with
  | direct =>
      unfold directOperation
      split
      · exact classes.places_defaultValue _
      · rfl
  | custom | copy => rfl
  | convert => exact classes.places_defaultValue _

/-- Only collections are copied element by element. -/
theorem copied_of_chooses {elementType : TypeExpr} {builder : Builder} {copies : Bool}
    (h : Chooses classes registry source target (.copyCollection elementType builder copies)) :
    Copied classes registry source target := by
  generalize hoperation : Operation.copyCollection elementType builder copies = operation at h
  cases h with
  | direct =>
      unfold directOperation at hoperation
      split at hoperation <;> cases hoperation
  | copy hcopied => exact hcopied
  | custom | convert => cases hoperation

theorem collects_of_resolve {elementType : TypeExpr} {builder : Builder} {copies : Bool}
    (h : (resolve classes registry source target).outcome = .ok (some a))
    (hoperation : a.operation = .copyCollection elementType builder copies) :
    Collects classes a.source a.target elementType builder copies := by
  obtain ⟨-, -, hchooses⟩ := chooses_of_resolve h
  rw [hoperation] at hchooses
  have hu : ¬ Unusable classes source target := by
    intro hu
    rw [resolve_of_unusable hu] at h
    cases h
  rw [resolve_of_copied (copied_of_chooses hchooses) hu] at h
  obtain ⟨rfl, rfl, elementType', builder', copies', hoperation', hcollects⟩ :=
    resolveCollection_eq_ok h
  cases hoperation.symm.trans hoperation'
  exact hcollects

/-- What is decided for a pair stores no object as it is given, and can be carried out. -/
theorem isSteady_of_resolve (h : (resolve classes registry source target).outcome = .ok (some a))
    (size : Nat) : a.operation.places = [] ∧ a.operation.IsSteady size := by
  obtain ⟨-, -, hchooses⟩ := chooses_of_resolve h
  have hplaces := places_of_chooses hchooses
  refine ⟨hplaces, ?_, ?_⟩
  · intro p hp
    rw [hplaces] at hp
    cases hp
  · intro elementType builder copies hoperation
    exact Builder.isPlain_of_ofMember (collects_of_resolve h hoperation).builds

end Resolver

namespace Plan

variable {classes : Classes} {registry : Registry Converter} {S T : ClassRef} {creates : Bool}
  {p : Plan Converter}

/-- Each assignment of a plan is what the resolver decides for some pair of members. -/
theorem resolve_of_build (h : (build classes registry (.cls S) (.cls T) creates).outcome = .ok p)
    {a : Assignment Converter} (ha : a ∈ p.assignments) :
    ∃ source target, (Resolver.resolve classes registry source target).outcome = .ok (some a) := by
  obtain ⟨matched, -, -, -, hassignments⟩ := build_eq_ok h
  rw [hassignments] at ha
  obtain ⟨pair, -, hpair⟩ := List.mem_filterMap.mp ha
  exact ⟨_, _, assignment?_eq_some_iff.mp hpair⟩

theorem isSteady_of_build (h : (build classes registry (.cls S) (.cls T) creates).outcome = .ok p)
    {a : Assignment Converter} (ha : a ∈ p.assignments) (size : Nat) :
    a.operation.places = [] ∧ a.operation.IsSteady size := by
  obtain ⟨_, _, hresolved⟩ := resolve_of_build h ha
  exact Resolver.isSteady_of_resolve hresolved size

end Plan

end Memberwise
