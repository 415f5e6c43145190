import Memberwise.Proofs.Plan.Planning

/-! # The order of declaration

Members are matched one by one, by their names alone, and no two of them may have one target.  So
a plan comes of source members in any order, and has the same assignments in another order.
-/

namespace Memberwise

/-- Whether two classes have no properties, and the same fields in some order. -/
structure Classes.Reordered (classes : Classes) (c c' : ClassRef) : Prop where
  properties : classes.properties c = .ok []
  properties' : classes.properties c' = .ok []
  fields : Agree List.Perm (classes.fields c) (classes.fields c')

theorem Classes.Reordered.symm {classes : Classes} {c c' : ClassRef}
    (h : classes.Reordered c c') : classes.Reordered c' c where
  properties := h.properties'
  properties' := h.properties
  fields := by
    have hfields := h.fields
    revert hfields
    generalize classes.fields c = found
    generalize classes.fields c' = found'
    intro hfields
    cases hfields with
    | ok hperm => exact .ok hperm.symm
    | error fault => exact .error fault

/-- The fields of a class with the classes that they are annotated with, if all of them are
annotated with classes. -/
def Classes.fieldClasses? (classes : Classes) (c : ClassRef) : Option (List (String × ClassRef)) :=
  (classes.fieldAnnotations c).toOption.bind fun annotations =>
    annotations.mapM fun
      | (name, .cls d) => some (name, d)
      | _ => none

theorem Classes.fieldAnnotations_of_classes {classes : Classes} {c : ClassRef}
    {l : List (String × ClassRef)} (h : classes.fieldClasses? c = some l) :
    classes.fieldAnnotations c = .ok (l.map fun entry => (entry.1, .cls entry.2)) := by
  obtain ⟨annotations, hfound, hmapped⟩ := Option.bind_eq_some_iff.mp h
  rw [toOption_eq_some.mp hfound]
  have hall := mapM_eq_some_iff.mp hmapped
  clear h hfound hmapped
  refine congrArg _ ?_
  induction hall with
  | nil => rfl
  | @cons annotation entry _ _ hentry _ ih =>
      refine congrArg₂ _ ?_ ih
      split at hentry
      · cases hentry
        rfl
      · cases hentry

/-- Fields that are annotated with classes are described by these. -/
theorem Classes.fields_of_classes {classes : Classes} {c : ClassRef}
    {l : List (String × ClassRef)} (hmodel : classes.isModel c = false)
    (h : classes.fieldClasses? c = some l) :
    classes.fields c = .ok (((l.map fun entry => (entry.1, TypeExpr.cls entry.2)).filterMap
      fun (name, t) => if isFieldName (classes.publicProperties c) name then
        some (name, t, !classes.isFrozenRecord c) else none).map fun entry =>
          Member.describe classes entry.1 entry.2.1 true entry.2.2) := by
  refine fields_of_statedFields ?_ ?_
  · unfold statedFields
    rw [hmodel, fieldAnnotations_of_classes h]
    rfl
  · intro entry hentry
    obtain ⟨found, hannotation, hfield⟩ := List.mem_filterMap.mp hentry
    obtain ⟨⟨name, d⟩, -, rfl⟩ := List.mem_map.mp hannotation
    dsimp only at hfield
    split at hfield
    · cases hfield
      rfl
    · cases hfield

/-- Classes without properties are the same up to the order of their fields if these are annotated
with the same classes. -/
theorem Classes.reordered_of_classes {classes : Classes} {c c' : ClassRef}
    (hmodel : classes.isModel c = false) (hmodel' : classes.isModel c' = false)
    (hnone : classes.publicProperties c = []) (hnone' : classes.publicProperties c' = [])
    (hfrozen : classes.isFrozenRecord c' = classes.isFrozenRecord c)
    {l l' : List (String × ClassRef)} (h : classes.fieldClasses? c = some l)
    (h' : classes.fieldClasses? c' = some l') (hperm : l.Perm l') : classes.Reordered c c' where
  properties := by
    unfold properties
    rw [hnone]
    rfl
  properties' := by
    unfold properties
    rw [hnone']
    rfl
  fields := by
    rw [fields_of_classes hmodel h, fields_of_classes hmodel' h', hnone, hnone', hfrozen]
    exact .ok (((hperm.map _).filterMap _).map _)

namespace Plan

variable {Converter : Type} {classes : Classes} {registry : Registry Converter}
  {S S' T : ClassRef} {creates : Bool} {p p' : Plan Converter}

theorem matchMembers_perm {sources sources' : List Member} (h : sources.Perm sources')
    (targets : List Member) :
    (matchMembers sources targets).Perm (matchMembers sources' targets) := h.filterMap _

/-- The fields of a class are matched one by one. -/
theorem pairs_reordered (h : classes.Reordered S S') {matched : List (Member × Member)}
    (hp : pairs classes S T = .ok matched) :
    ∃ matched', pairs classes S' T = .ok matched' ∧ matched.Perm matched' := by
  obtain ⟨sources, targets, hs, ht, rfl⟩ := pairs_eq_ok hp
  have hnone : sources .properties = [] :=
    Except.ok.inj ((hs .properties).symm.trans h.properties)
  have hfields : Agree List.Perm (.ok (sources .fields)) (classes.fields S') := by
    have hown : classes.fields S = .ok (sources .fields) := hs .fields
    rw [← hown]
    exact h.fields
  obtain ⟨fields', hfields', hperm⟩ : ∃ fields', classes.fields S' = .ok fields' ∧
      (sources .fields).Perm fields' := by
    revert hfields
    generalize classes.fields S' = found'
    intro hfields
    cases hfields with
    | ok hperm => exact ⟨_, rfl, hperm⟩
  have hs' : ∀ g, classes.members S' g = .ok (fieldsOnly fields' g) := by
    intro g
    cases g with
    | properties => exact h.properties'
    | fields => exact hfields'
  refine ⟨_, pairs_of_members hs' ht, ?_⟩
  unfold matchGroups
  rw [hnone]
  exact (matchMembers_perm hperm _).append_left _

/-- What has no properties is matched with fields only. -/
theorem mem_fields_of_pairs (hS : classes.properties S = .ok []) {matched : List (Member × Member)}
    (hp : pairs classes S T = .ok matched) : ∃ fields, classes.fields T = .ok fields ∧
      ∀ pair ∈ matched, pair.2 ∈ fields := by
  obtain ⟨sources, targets, hs, ht, rfl⟩ := pairs_eq_ok hp
  have hnone : sources .properties = [] := Except.ok.inj ((hs .properties).symm.trans hS)
  refine ⟨targets .fields, ht .fields, ?_⟩
  rintro ⟨source, target⟩ hpair
  unfold matchGroups at hpair
  rw [hnone] at hpair
  obtain ⟨-, hmatch⟩ := mem_matchMembers.mp (show _ ∈ matchMembers _ _ from hpair)
  exact (matchFor?_eq_some_iff.mp hmatch).2.mem

/-- A plan comes of source members in any order, with the same assignments in some order. -/
theorem build_of_reordered (h : classes.Reordered S S')
    (hp : (build classes registry (.cls S) (.cls T) creates).outcome = .ok p) :
    ∃ p', (build classes registry (.cls S') (.cls T) creates).outcome = .ok p' ∧
      p.assignments.Perm p'.assignments := by
  obtain ⟨matched, hmatched, hdistinct, hresolves, hassignments⟩ := build_eq_ok hp
  obtain ⟨matched', hmatched', hperm⟩ := pairs_reordered h hmatched
  obtain ⟨p', hp', hassignments'⟩ := build_isOk registry (required_of_build_eq_ok hp) hmatched'
    ((hperm.map _).nodup_iff.mp hdistinct) (fun pair hpair => hresolves pair (hperm.mem_iff.mpr hpair))
  refine ⟨p', hp', ?_⟩
  rw [hassignments, hassignments']
  exact hperm.filterMap _

/-- Classes with the same fields in some order both have a plan for a target or both have none. -/
theorem build_isOk_reordered (h : classes.Reordered S S') :
    (∃ p, (build classes registry (.cls S) (.cls T) creates).outcome = .ok p) ↔
      ∃ p', (build classes registry (.cls S') (.cls T) creates).outcome = .ok p' := by
  constructor
  · rintro ⟨p, hp⟩
    obtain ⟨p', hp', -⟩ := build_of_reordered h hp
    exact ⟨p', hp'⟩
  · rintro ⟨p', hp'⟩
    obtain ⟨p, hp, -⟩ := build_of_reordered h.symm hp'
    exact ⟨p, hp⟩

theorem assignments_perm (h : classes.Reordered S S')
    (hp : (build classes registry (.cls S) (.cls T) creates).outcome = .ok p)
    (hp' : (build classes registry (.cls S') (.cls T) creates).outcome = .ok p') :
    p.assignments.Perm p'.assignments := by
  obtain ⟨q, hq, hperm⟩ := build_of_reordered h hp
  rw [hp'] at hq
  cases hq
  exact hperm

end Plan

end Memberwise
