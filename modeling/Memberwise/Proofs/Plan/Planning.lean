import Mathlib.Data.List.Nodup
import Memberwise.Proofs.Plan.Matching
import Memberwise.Proofs.Plan.Resolution

/-! # Outcomes of planning

Planning comes to an end where every matching pair is resolved and no two pairs have one target.
The plan then holds the assignments of the pairs in their order.
-/

namespace Memberwise.Plan

variable {Converter : Type} (classes : Classes) (registry : Registry Converter)

/-! ## Planning pairs -/

/-- The assignment that a pair is resolved to, if it gets one. -/
def assignment? (pair : Member × Member) : Option (Assignment Converter) :=
  match (Resolver.resolve classes registry pair.1 pair.2).outcome with
  | .ok a => a
  | .error _ => none

theorem assignment?_eq_some_iff {classes : Classes} {registry : Registry Converter}
    {pair : Member × Member} {a : Assignment Converter} :
    assignment? classes registry pair = some a ↔
      (Resolver.resolve classes registry pair.1 pair.2).outcome = .ok (some a) := by
  unfold assignment?
  cases (Resolver.resolve classes registry pair.1 pair.2).outcome <;> simp

/-- Whether a pair is resolved without a fault. -/
def Resolves (pair : Member × Member) : Prop :=
  ∃ a, (Resolver.resolve classes registry pair.1 pair.2).outcome = .ok a

theorem not_unusable_of_resolves {classes : Classes} {registry : Registry Converter}
    {pair : Member × Member} (h : Resolves classes registry pair) :
    ¬ Resolver.Unusable classes pair.1 pair.2 := by
  intro hu
  obtain ⟨a, ha⟩ := h
  rw [Resolver.resolve_of_unusable hu] at ha
  cases ha

theorem not_unbuildable_of_resolves {classes : Classes} {registry : Registry Converter}
    {pair : Member × Member} (h : Resolves classes registry pair) :
    ¬ Resolver.Unbuildable classes registry pair.1 pair.2 := by
  intro hb
  obtain ⟨fault, hf⟩ := Resolver.resolve_of_unbuildable hb (not_unusable_of_resolves h)
  obtain ⟨a, ha⟩ := h
  rw [hf] at ha
  cases ha

variable (sourceClass targetClass : String)

theorem planPair_of_claimed (source : Member) {state : Progress Converter} {target : Member}
    (h : target.name ∈ state.claims.map (·.1)) :
    ∃ fault notes, planPair classes registry sourceClass targetClass state source target =
      (.error (.configuration fault), notes) := by
  unfold planPair
  cases hl : state.claims.lookup target.name with
  | none => exact absurd h (lookup_eq_none.mp hl)
  | some first => exact ⟨_, _, rfl⟩

theorem planPair_of_fault {state : Progress Converter} {source target : Member}
    (h : target.name ∉ state.claims.map (·.1)) {fault : Fault}
    (hr : (Resolver.resolve classes registry source target).outcome = .error fault) :
    ∃ notes, planPair classes registry sourceClass targetClass state source target =
      (.error fault, notes) := by
  unfold planPair
  rw [lookup_eq_none.mpr h]
  simp only [hr]
  exact ⟨_, rfl⟩

/-- A pair that is planned claims its target and adds its assignment, if it gets one. -/
theorem planPair_of_ok {state : Progress Converter} {source target : Member}
    (h : target.name ∉ state.claims.map (·.1)) {a : Option (Assignment Converter)}
    (hr : (Resolver.resolve classes registry source target).outcome = .ok a) :
    ∃ next notes, planPair classes registry sourceClass targetClass state source target =
        (.ok next, notes) ∧
      next.claims.map (·.1) = state.claims.map (·.1) ++ [target.name] ∧
      next.assignments = state.assignments ++ a.toList := by
  unfold planPair
  rw [lookup_eq_none.mpr h]
  simp only [hr]
  exact ⟨_, _, rfl, by simp, rfl⟩

variable {classes : Classes} {registry : Registry Converter} {sourceClass targetClass : String}

/-- Pairs that are planned to the end are all resolved, and have targets of their own that
nothing had claimed. -/
theorem planPairs_eq_ok {pairs : List (Member × Member)} {state final : Progress Converter}
    {notes : List String}
    (h : planPairs classes registry sourceClass targetClass state pairs = (.ok final, notes))
    (hstate : (state.claims.map (·.1)).Nodup) :
    (state.claims.map (·.1) ++ pairs.map (·.2.name)).Nodup ∧
      (∀ pair ∈ pairs, Resolves classes registry pair) ∧
      final.assignments = state.assignments ++ pairs.filterMap (assignment? classes registry) := by
  -- The invariant is that the claimed names are distinct; a pair adds the name of its target.
  induction pairs generalizing state with
  | nil =>
      cases h
      simpa using hstate
  | cons pair rest ih =>
      obtain ⟨source, target⟩ := pair
      by_cases hclaimed : target.name ∈ state.claims.map (·.1)
      · obtain ⟨cause, notes', hp⟩ := planPair_of_claimed classes registry
          sourceClass targetClass source hclaimed
        simp only [planPairs, hp, Prod.mk.injEq, reduceCtorEq, false_and] at h
      · cases hr : (Resolver.resolve classes registry source target).outcome with
        | error fault =>
            obtain ⟨notes', hp⟩ := planPair_of_fault classes registry sourceClass
              targetClass hclaimed hr
            simp only [planPairs, hp, Prod.mk.injEq, reduceCtorEq, false_and] at h
        | ok a =>
            obtain ⟨next, notes', hp, hclaims, hassigned⟩ := planPair_of_ok
              classes registry sourceClass targetClass hclaimed hr
            simp only [planPairs, hp] at h
            have hnext : (next.claims.map (·.1)).Nodup := by
              rw [hclaims]
              exact List.nodup_append.mpr ⟨hstate, List.nodup_singleton _, by
                rintro name hname _ hsingle rfl
                exact hclaimed (List.mem_singleton.mp hsingle ▸ hname)⟩
            obtain ⟨hdistinct, hresolves, hall⟩ := ih h hnext
            have hpair : assignment? classes registry (source, target) = a := by
              simp only [assignment?, hr]
            refine ⟨by simpa [hclaims] using hdistinct, ?_, ?_⟩
            · intro pair hmem
              rcases List.mem_cons.mp hmem with rfl | hmem
              · exact ⟨a, hr⟩
              · exact hresolves pair hmem
            · rw [hall, hassigned, List.append_assoc]
              cases a with
              | none => simp [List.filterMap_cons_none hpair]
              | some a => simp [List.filterMap_cons_some hpair]

/-- Where planning fails, a target is claimed twice, or some pair is resolved with the fault. -/
theorem planPairs_eq_error {pairs : List (Member × Member)} {state : Progress Converter}
    {fault : Fault} {notes : List String}
    (h : planPairs classes registry sourceClass targetClass state pairs = (.error fault, notes)) :
    (¬ (state.claims.map (·.1) ++ pairs.map (·.2.name)).Nodup ∧
        ∃ cause, fault = .configuration cause) ∨
      ∃ pair ∈ pairs, (Resolver.resolve classes registry pair.1 pair.2).outcome =
        .error fault := by
  induction pairs generalizing state with
  | nil => cases h
  | cons pair rest ih =>
      obtain ⟨source, target⟩ := pair
      by_cases hclaimed : target.name ∈ state.claims.map (·.1)
      · obtain ⟨cause, notes', hp⟩ := planPair_of_claimed classes registry
          sourceClass targetClass source hclaimed
        simp only [planPairs, hp, Prod.mk.injEq, Except.error.injEq] at h
        refine .inl ⟨fun hn => ?_, cause, h.1.symm⟩
        exact (List.nodup_append.mp hn).2.2 _ hclaimed _ (by simp) rfl
      · cases hr : (Resolver.resolve classes registry source target).outcome with
        | error cause =>
            obtain ⟨notes', hp⟩ := planPair_of_fault classes registry sourceClass
              targetClass hclaimed hr
            simp only [planPairs, hp, Prod.mk.injEq, Except.error.injEq] at h
            exact .inr ⟨(source, target), List.mem_cons_self, h.1 ▸ hr⟩
        | ok a =>
            obtain ⟨next, notes', hp, hclaims, -⟩ := planPair_of_ok
              classes registry sourceClass targetClass hclaimed hr
            simp only [planPairs, hp] at h
            obtain ⟨hn, hcause⟩ | ⟨pair, hmem, hfault⟩ := ih h
            · refine .inl ⟨fun hd => hn ?_, hcause⟩
              simpa [hclaims] using hd
            · exact .inr ⟨pair, List.mem_cons_of_mem _ hmem, hfault⟩

/-! ## Plans of two classes -/

@[simp]
theorem assignments_ofAssignments (source target : ClassRef) (creates : Bool)
    (l : List (Assignment Converter)) :
    (Plan.mk source target creates (l.map .assignment)).assignments = l := by
  simp [assignments, List.filterMap_map]

theorem guardCreation_eq_ok {target : ClassRef} (h : classes.requiredArguments target = []) :
    guardCreation classes target = .ok () := by
  simp only [guardCreation, h]

theorem guardCreation_eq_error {target : ClassRef} (h : classes.requiredArguments target ≠ []) :
    ∃ fault, guardCreation classes target = .error (.configuration fault) := by
  unfold guardCreation
  split
  · rename_i hr
    exact absurd hr h
  · exact ⟨_, rfl⟩

/-- A target that needs arguments is refused before any member is looked at. -/
theorem build_of_required (registry : Registry Converter) (source : ClassRef) {target : ClassRef}
    (h : classes.requiredArguments target ≠ []) :
    ∃ fault, (build classes registry (.cls source) (.cls target) true).outcome =
      .error (.configuration fault) := by
  obtain ⟨fault, hg⟩ := guardCreation_eq_error h
  refine ⟨fault, ?_⟩
  simp [build, guardClass, hg, bind, Except.bind]

/-- Without such a refusal the outcome is that of matching the members and planning the
pairs. -/
theorem build_outcome {source target : ClassRef} {creates : Bool}
    (h : creates = true → classes.requiredArguments target = []) :
    (build classes registry (.cls source) (.cls target) creates).outcome =
      (pairs classes source target).bind fun matched =>
        (planPairs classes registry source.name target.name ⟨[], [], []⟩ matched).1.map fun final =>
          ⟨source, target, creates, final.assignments.map .assignment⟩ := by
  have hguard : (if creates = true then guardCreation classes target else .ok ()) = .ok () := by
    split
    · exact guardCreation_eq_ok (h ‹_›)
    · rfl
  cases hp : pairs classes source target with
  | error fault => cases creates <;> simp_all [build, guardClass, bind, Except.bind]
  | ok matched =>
      cases hplan : planPairs classes registry source.name target.name ⟨[], [], []⟩ matched with
      | mk result notes =>
          cases result <;> cases creates <;>
            simp_all [build, guardClass, bind, Except.bind, Except.map]

theorem required_of_build_eq_ok {source target : ClassRef} {creates : Bool} {p : Plan Converter}
    (h : (build classes registry (.cls source) (.cls target) creates).outcome = .ok p) :
    creates = true → classes.requiredArguments target = [] := by
  rintro rfl
  by_cases hr : classes.requiredArguments target = []
  · exact hr
  · obtain ⟨fault, hf⟩ := build_of_required registry source hr
    rw [hf] at h
    cases h

/-- What a plan is made from: pairs that are all resolved and have targets of their own. -/
theorem build_eq_ok {source target : ClassRef} {creates : Bool} {p : Plan Converter}
    (h : (build classes registry (.cls source) (.cls target) creates).outcome = .ok p) :
    ∃ matched, pairs classes source target = .ok matched ∧
      (matched.map (·.2.name)).Nodup ∧ (∀ pair ∈ matched, Resolves classes registry pair) ∧
      p.assignments = matched.filterMap (assignment? classes registry) := by
  rw [build_outcome (required_of_build_eq_ok h)] at h
  obtain ⟨matched, hmatched, h⟩ := bind_eq_ok.mp h
  refine ⟨matched, hmatched, ?_⟩
  cases hplan : planPairs classes registry source.name target.name ⟨[], [], []⟩ matched with
  | mk result notes =>
      cases result with
      | error fault =>
          rw [hplan] at h
          cases h
      | ok final =>
          rw [hplan] at h
          cases h
          simpa using planPairs_eq_ok hplan List.nodup_nil

/-- Where no plan comes of matching pairs, targets clash or some pair is not resolved. -/
theorem build_eq_error {source target : ClassRef} {creates : Bool}
    (hr : creates = true → classes.requiredArguments target = [])
    {matched : List (Member × Member)} (hp : pairs classes source target = .ok matched)
    {fault : Fault}
    (h : (build classes registry (.cls source) (.cls target) creates).outcome = .error fault) :
    (¬ (matched.map (·.2.name)).Nodup ∧ ∃ cause, fault = .configuration cause) ∨
      ∃ pair ∈ matched, (Resolver.resolve classes registry pair.1 pair.2).outcome =
        .error fault := by
  rw [build_outcome hr, hp] at h
  cases hplan : planPairs classes registry source.name target.name ⟨[], [], []⟩ matched with
  | mk result notes =>
      cases result with
      | ok final =>
          simp only [Except.bind, hplan, Except.map, reduceCtorEq] at h
      | error cause =>
          simp only [Except.bind, hplan, Except.map, Except.error.injEq] at h
          simpa [h] using planPairs_eq_error hplan

/-- A plan that is made is one of its two classes, and has assignments only for steps. -/
theorem steps_of_build_eq_ok {source target : ClassRef} {creates : Bool} {p : Plan Converter}
    (h : (build classes registry (.cls source) (.cls target) creates).outcome = .ok p) :
    p.source = source ∧ p.target = target ∧ p.createsTarget = creates ∧
      p.steps = p.assignments.map .assignment := by
  rw [build_outcome (required_of_build_eq_ok h)] at h
  obtain ⟨matched, -, h⟩ := bind_eq_ok.mp h
  obtain ⟨final, -, rfl⟩ := map_eq_ok.mp h
  refine ⟨rfl, rfl, rfl, ?_⟩
  rw [assignments_ofAssignments]

/-- Pairs that are all resolved and have targets of their own make a plan. -/
theorem build_isOk (registry : Registry Converter) {source target : ClassRef} {creates : Bool}
    (hr : creates = true → classes.requiredArguments target = [])
    {matched : List (Member × Member)} (hp : pairs classes source target = .ok matched)
    (hdistinct : (matched.map (·.2.name)).Nodup)
    (hresolves : ∀ pair ∈ matched, Resolves classes registry pair) :
    ∃ p, (build classes registry (.cls source) (.cls target) creates).outcome = .ok p ∧
      p.assignments = matched.filterMap (assignment? classes registry) := by
  cases houtcome : (build classes registry (.cls source) (.cls target) creates).outcome with
  | ok p =>
      obtain ⟨matched', hp', -, -, hassignments⟩ := build_eq_ok houtcome
      rw [hp] at hp'
      cases hp'
      exact ⟨p, rfl, hassignments⟩
  | error fault =>
      exfalso
      rcases build_eq_error hr hp houtcome with ⟨hclash, -⟩ | ⟨pair, hpair, hfault⟩
      · exact hclash hdistinct
      · obtain ⟨a, ha⟩ := hresolves pair hpair
        rw [hfault] at ha
        cases ha

end Memberwise.Plan
