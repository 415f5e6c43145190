import Memberwise.Proofs.Plan.Refusal

/-! # Faults of planning

Planning fails with a configuration fault: a name that stands for nothing, members that contend for
a target, a collection that cannot be built.  It fails in another way if an annotation is a text that
cannot be read, or for one of three mismatches.  The type of a property is read from its accessors,
so a property without any is a mismatch; so is a type without a normal spelling, and a type that
cannot be looked up among the rules.
-/

namespace Memberwise

/-- Whether a fault is one of configuration. -/
def Fault.IsConfiguration (fault : Fault) : Prop := ∃ cause, fault = .configuration cause

namespace Classes

variable {classes : Classes} {c : ClassRef} {fault : Fault}

/-- Whether a class has a public property without an accessor that its type could be asked of. -/
def HasUntoldProperty (classes : Classes) (c : ClassRef) : Prop :=
  ∃ entry ∈ classes.publicProperties c, entry.2.statesHints = false

instance : Decidable (classes.HasUntoldProperty c) :=
  inferInstanceAs (Decidable (∃ entry ∈ classes.publicProperties c, entry.2.statesHints = false))

/-- Whether a member of a class has a type without a normal spelling. -/
def HasUnspelledMember (classes : Classes) (c : ClassRef) : Prop :=
  (∃ entry ∈ classes.publicProperties c, ∃ t,
    classes.propertyType entry.1 entry.2 = .ok t ∧ ¬ t.IsNormalizable) ∨
  ∃ stated, classes.statedFields c = .ok stated ∧ ∃ entry ∈ stated, ¬ entry.2.1.IsNormalizable

/-- The annotations that are read to find the members of a class.  Those of a model are read where it
is declared. -/
def readAnnotations (classes : Classes) (c : ClassRef) : List TypeExpr :=
  (classes.publicProperties c).flatMap (fun entry => entry.2.annotations) ++
    if classes.isModel c then []
    else
      (classes.declsOf c).flatMap (fun decl => decl.annotations.map (·.2)) ++
        (classes.initSource c).parameters.flatMap fun p => p.type.toList

/-- Whether a fault is what reading one of some annotations raises, other than a name that stands for
nothing. -/
def IsRaisedBy (classes : Classes) (fault : Fault) (annotations : List TypeExpr) : Prop :=
  ∃ kind, fault = .raised kind ∧ ∃ t ∈ annotations, t.resolve classes = .error (.raised kind)

/-- Whether the annotations that the types of properties are read from resolve. -/
def PropertiesResolve (classes : Classes) (c : ClassRef) : Prop :=
  ∀ entry ∈ classes.publicProperties c, ∀ t ∈ entry.2.annotations, classes.Hints t

/-! ## Hints -/

theorem IsRaisedBy.mono {annotations others : List TypeExpr}
    (h : classes.IsRaisedBy fault annotations) (hsub : annotations ⊆ others) :
    classes.IsRaisedBy fault others := by
  obtain ⟨kind, hfault, t, ht, hraised⟩ := h
  exact ⟨kind, hfault, t, hsub ht, hraised⟩

theorem hintOf_error {owner : String} {t : TypeExpr} (h : classes.hintOf owner t = .error fault) :
    (fault.IsConfiguration ∨ classes.IsRaisedBy fault [t]) ∧ ¬ classes.Hints t := by
  have hhints : ∀ cause, t.resolve classes = .error cause → ¬ classes.Hints t := by
    rintro cause hcause ⟨u, hu⟩
    rw [hcause] at hu
    cases hu
  unfold hintOf at h
  split at h
  · cases h
  · rename_i hunresolved
    cases h
    exact ⟨.inl ⟨_, rfl⟩, hhints _ hunresolved⟩
  · rename_i kind hraised
    cases h
    exact ⟨.inr ⟨kind, rfl, t, List.mem_singleton.mpr rfl, hraised⟩, hhints _ hraised⟩

theorem hintOf?_error {owner : String} {t : Option TypeExpr}
    (h : classes.hintOf? owner t = .error fault) :
    (fault.IsConfiguration ∨ classes.IsRaisedBy fault t.toList) ∧
      ∃ u ∈ t.toList, ¬ classes.Hints u := by
  cases t with
  | none => cases h
  | some t =>
      obtain ⟨hcause, hhints⟩ := hintOf_error (map_eq_error.mp h)
      exact ⟨hcause, t, List.mem_singleton.mpr rfl, hhints⟩

theorem hints_of_hintOf {owner : String} {t u : TypeExpr} (h : classes.hintOf owner t = .ok u) :
    classes.Hints t := by
  unfold hintOf at h
  split at h
  · rename_i hresolved
    exact ⟨_, hresolved⟩
  · cases h
  · cases h

theorem hints_of_hintOf? {owner : String} {t u : Option TypeExpr}
    (h : classes.hintOf? owner t = .ok u) : ∀ hint ∈ t.toList, classes.Hints hint := by
  cases t with
  | none => exact List.forall_mem_nil _
  | some t =>
      obtain ⟨u, hu, -⟩ := map_eq_ok.mp h
      exact List.forall_mem_singleton.mpr (hints_of_hintOf hu)

/-! ## Properties -/

/-- The type of a property is not found where an annotation does not resolve, or where there is no
accessor to ask for it. -/
theorem propertyType_error {p : Property} {name : String}
    (h : classes.propertyType name p = .error fault) :
    ((fault.IsConfiguration ∨ classes.IsRaisedBy fault p.annotations) ∧
      ∃ t ∈ p.annotations, ¬ classes.Hints t) ∨
      fault = .typeMismatch ∧ p.statesHints = false := by
  unfold propertyType at h
  split at h
  · rename_i huntold
    cases h
    exact .inr ⟨rfl, by simpa using huntold⟩
  left
  obtain ⟨owner, getter, setter⟩ := p
  cases getter with
  | some getter =>
      rcases bind_eq_error.mp h with hfails | ⟨t, -, hdone⟩
      · exact hintOf?_error hfails
      · cases hdone
  | none =>
      cases setter with
      | none => cases h
      | some setter =>
          rcases bind_eq_error.mp h with hfails | ⟨type, -, hrest⟩
          · obtain ⟨hcause, t, ht, hhints⟩ := hintOf?_error hfails
            exact ⟨hcause.imp_right (·.mono (List.subset_append_left _ _)), t,
              List.mem_append_left _ ht, hhints⟩
          · rcases bind_eq_error.mp hrest with hfails | ⟨returns, -, hdone⟩
            · obtain ⟨hcause, t, ht, hhints⟩ := hintOf?_error hfails
              exact ⟨hcause.imp_right (·.mono (List.subset_append_right _ _)), t,
                List.mem_append_right _ ht, hhints⟩
            · cases hdone

theorem propertyType_of_untold {p : Property} (h : p.statesHints = false) (name : String) :
    classes.propertyType name p = .error .typeMismatch := by
  unfold propertyType
  rw [h]
  rfl

/-- Where the type of a property is found, its accessor tells it and its annotations resolve. -/
theorem told_of_propertyType {p : Property} {name : String} {t : TypeExpr}
    (h : classes.propertyType name p = .ok t) :
    p.statesHints = true ∧ ∀ u ∈ p.annotations, classes.Hints u := by
  have htold : p.statesHints = true := by
    rw [← Bool.not_eq_false]
    intro huntold
    rw [propertyType_of_untold huntold] at h
    cases h
  refine ⟨htold, ?_⟩
  unfold propertyType at h
  rw [htold] at h
  obtain ⟨owner, getter, setter⟩ := p
  cases getter with
  | some getter =>
      obtain ⟨hint, hhint, -⟩ := bind_eq_ok.mp h
      exact hints_of_hintOf? hhint
  | none =>
      cases setter with
      | none => exact List.forall_mem_nil _
      | some setter =>
          obtain ⟨hint, hhint, h⟩ := bind_eq_ok.mp h
          obtain ⟨returns, hreturns, -⟩ := bind_eq_ok.mp h
          exact List.forall_mem_append.mpr ⟨hints_of_hintOf? hhint, hints_of_hintOf? hreturns⟩

theorem described_error {classes : Classes} {t : TypeExpr} {name : String} {readable writable : Bool}
    (h : described (Member.describe? classes name t readable writable) = .error fault) :
    fault = .typeMismatch ∧ ¬ t.IsNormalizable := by
  by_cases hnormal : t.IsNormalizable
  · rw [described_of_isNormalizable hnormal] at h
    cases h
  · rw [Member.describe?, Option.not_isSome_iff_eq_none.mp hnormal] at h
    cases h
    exact ⟨rfl, hnormal⟩

theorem properties_error (h : classes.properties c = .error fault) :
    ((fault.IsConfiguration ∨ classes.IsRaisedBy fault (classes.readAnnotations c)) ∧
        ¬ classes.PropertiesResolve c) ∨
      fault = .typeMismatch ∧ (classes.HasUntoldProperty c ∨ classes.HasUnspelledMember c) := by
  obtain ⟨⟨name, p⟩, hentry, hfails⟩ := exists_of_mapM_eq_error h
  rcases bind_eq_error.mp hfails with htype | ⟨t, ht, hspelling⟩
  · rcases propertyType_error htype with ⟨hcause, t, ht, hhints⟩ | ⟨hmismatch, huntold⟩
    · refine .inl ⟨hcause.imp_right (·.mono ?_), fun hresolve => hhints (hresolve _ hentry t ht)⟩
      exact fun u hu => List.mem_append_left _ (List.mem_flatMap.mpr ⟨_, hentry, hu⟩)
    · exact .inr ⟨hmismatch, .inl ⟨_, hentry, huntold⟩⟩
  · obtain ⟨hmismatch, hunspelled⟩ := described_error hspelling
    exact .inr ⟨hmismatch, .inr (.inl ⟨_, hentry, t, ht, hunspelled⟩)⟩

/-! ## Fields -/

theorem mem_readAnnotations_of_field (hmodel : classes.isModel c = false) {decl : ClassDecl}
    (hdecl : decl ∈ classes.declsOf c) {entry : String × TypeExpr}
    (hentry : entry ∈ decl.annotations) : entry.2 ∈ classes.readAnnotations c := by
  unfold readAnnotations
  rw [hmodel]
  exact List.mem_append_right _ (List.mem_append_left _
    (List.mem_flatMap.mpr ⟨decl, hdecl, List.mem_map.mpr ⟨entry, hentry, rfl⟩⟩))

theorem mem_readAnnotations_of_parameter (hmodel : classes.isModel c = false) {p : Parameter}
    (hp : p ∈ (classes.initSource c).parameters) {t : TypeExpr} (ht : t ∈ p.type.toList) :
    t ∈ classes.readAnnotations c := by
  unfold readAnnotations
  rw [hmodel]
  exact List.mem_append_right _ (List.mem_append_right _ (List.mem_flatMap.mpr ⟨p, hp, ht⟩))

theorem classHints_error (hmodel : classes.isModel c = false)
    (h : classes.classHints c = .error fault) :
    fault.IsConfiguration ∨ classes.IsRaisedBy fault (classes.readAnnotations c) := by
  obtain ⟨known, ⟨name, t⟩, hentry, hfails⟩ := exists_of_foldlM_eq_error h
  obtain ⟨decl, hdecl, hentry⟩ := List.mem_flatMap.mp hentry
  rcases bind_eq_error.mp hfails with hhint | ⟨u, -, hdone⟩
  · refine (hintOf_error hhint).1.imp_right (·.mono ?_)
    have hread := mem_readAnnotations_of_field hmodel (List.mem_reverse.mp hdecl) hentry
    exact fun u hu => List.mem_singleton.mp hu ▸ hread
  · cases hdone

theorem storedParameters_error (hmodel : classes.isModel c = false)
    (h : classes.storedParameters c = .error fault) :
    fault.IsConfiguration ∨ classes.IsRaisedBy fault (classes.readAnnotations c) := by
  unfold storedParameters at h
  split at h
  · rename_i owner init hinit
    rcases bind_eq_error.mp h with hhints | ⟨hints, -, hdone⟩
    · obtain ⟨p, hp, hfails⟩ := exists_of_mapM_eq_error hhints
      rcases bind_eq_error.mp hfails with hhint | ⟨u, -, hdone⟩
      · refine (hintOf?_error hhint).1.imp_right (·.mono fun t ht => ?_)
        exact mem_readAnnotations_of_parameter hmodel (p := p) (by rwa [hinit]) ht
      · cases hdone
    · cases hdone
  · cases h
  · cases h

theorem fields_error (h : classes.fields c = .error fault) :
    (fault.IsConfiguration ∨ classes.IsRaisedBy fault (classes.readAnnotations c)) ∨
      fault = .typeMismatch ∧ classes.HasUnspelledMember c := by
  rcases bind_eq_error.mp h with hfails | ⟨stated, hstated, hfails⟩
  · left
    unfold statedFields at hfails
    dsimp only at hfails
    split at hfails
    · cases hfails
    · rename_i hmodel
      rw [Bool.not_eq_true] at hmodel
      rcases bind_eq_error.mp hfails with hannotations | ⟨annotations, -, hdone⟩
      · rcases bind_eq_error.mp hannotations with hhints | ⟨hints, -, hrest⟩
        · exact classHints_error hmodel hhints
        · rcases bind_eq_error.mp hrest with hparameters | ⟨parameters, -, hdone⟩
          · exact storedParameters_error hmodel hparameters
          · cases hdone
      · cases hdone
  · obtain ⟨entry, hentry, hspelling⟩ := exists_of_mapM_eq_error hfails
    obtain ⟨hmismatch, hunspelled⟩ := described_error hspelling
    exact .inr ⟨hmismatch, .inr ⟨stated, hstated, entry, hentry, hunspelled⟩⟩

/-! ## Classes whose members are told -/

theorem hints_of_classHints {hints : List (String × TypeExpr)}
    (h : classes.classHints c = .ok hints) :
    ∀ decl ∈ classes.declsOf c, ∀ entry ∈ decl.annotations, classes.Hints entry.2 := by
  intro decl hdecl entry hentry
  obtain ⟨known, next, hnext⟩ := exists_step_of_foldlM_eq_ok h
    (List.mem_flatMap.mpr ⟨decl, List.mem_reverse.mpr hdecl, hentry⟩)
  obtain ⟨t, ht, -⟩ := bind_eq_ok.mp hnext
  exact hints_of_hintOf ht

theorem hints_of_storedParameters {parameters : List (String × TypeExpr)}
    (h : classes.storedParameters c = .ok parameters) :
    ∀ p ∈ (classes.initSource c).parameters, ∀ t ∈ p.type.toList, classes.Hints t := by
  intro p hp t ht
  unfold storedParameters at h
  split at h
  · rename_i owner init hinit
    obtain ⟨hints, hhints, -⟩ := bind_eq_ok.mp h
    rw [hinit] at hp
    obtain ⟨entry, hentry⟩ := isOk_of_mem_mapM hhints hp
    obtain ⟨hint, hhint, -⟩ := bind_eq_ok.mp hentry
    exact hints_of_hintOf? hhint t ht
  · rename_i owner hgenerated
    rw [hgenerated] at hp
    cases hp
  · rename_i hdeclared _
    cases hsource : classes.initSource c with
    | declared owner init => exact absurd hsource (hdeclared owner init)
    | _ =>
        rw [hsource] at hp
        cases hp

/-- Classes whose members are told can be described. -/
theorem describable_of_members {properties fields : List Member}
    (hproperties : classes.properties c = .ok properties)
    (hfields : classes.fields c = .ok fields) : classes.Describable c := by
  have htype : ∀ entry ∈ classes.publicProperties c, ∃ t,
      classes.propertyType entry.1 entry.2 = .ok t ∧ t.IsNormalizable := by
    intro entry hentry
    obtain ⟨m, hm⟩ := isOk_of_mem_mapM hproperties hentry
    obtain ⟨t, ht, hspelling⟩ := bind_eq_ok.mp hm
    exact ⟨t, ht, (described_eq_ok hspelling).1⟩
  have htold : ∀ entry ∈ classes.publicProperties c,
      entry.2.statesHints = true ∧ ∀ u ∈ entry.2.annotations, classes.Hints u := by
    intro entry hentry
    obtain ⟨t, ht, -⟩ := htype entry hentry
    exact told_of_propertyType ht
  obtain ⟨stated, hstated, hspelled, -⟩ := fields_eq_ok hfields
  have hannotations : classes.isModel c = false →
      ∃ annotations, classes.fieldAnnotations c = .ok annotations := by
    intro hmodel
    have hread := hstated
    unfold statedFields at hread
    rw [hmodel] at hread
    obtain ⟨annotations, hannotations, -⟩ := bind_eq_ok.mp hread
    exact ⟨annotations, hannotations⟩
  exact {
    accessors := fun entry hentry => (htold entry hentry).1
    property_hints := fun entry hentry => (htold entry hentry).2
    field_hints := fun hmodel => by
      obtain ⟨annotations, hannotations⟩ := hannotations hmodel
      obtain ⟨hints, hhints, -⟩ := bind_eq_ok.mp hannotations
      exact hints_of_classHints hhints
    parameter_hints := fun hmodel => by
      obtain ⟨annotations, hannotations⟩ := hannotations hmodel
      obtain ⟨hints, -, hrest⟩ := bind_eq_ok.mp hannotations
      obtain ⟨parameters, hparameters, -⟩ := bind_eq_ok.mp hrest
      exact hints_of_storedParameters hparameters
    property_types := fun entry hentry t ht => by
      obtain ⟨u, hu, hnormal⟩ := htype entry hentry
      rw [ht] at hu
      cases hu
      exact hnormal
    field_types := fun found hfound => by
      rw [hstated] at hfound
      cases hfound
      exact hspelled }

end Classes

namespace Plan

variable {Converter : Type} {classes : Classes} {registry : Registry Converter}
  {source target : ClassRef} {creates : Bool} {fault : Fault}

/-! ## Pairs and plans -/

/-- Whether a fault is that of a class whose members cannot be told: an annotation raises something, a
property has no accessor to ask, or a type has no normal spelling. -/
def IsMemberFault (classes : Classes) (fault : Fault) (c : ClassRef) : Prop :=
  classes.IsRaisedBy fault (classes.readAnnotations c) ∨
    fault = .typeMismatch ∧ (classes.HasUntoldProperty c ∨ classes.HasUnspelledMember c)

theorem members_error {g : MemberGroup} (h : classes.members source g = .error fault) :
    fault.IsConfiguration ∨ IsMemberFault classes fault source := by
  cases g with
  | properties =>
      rcases Classes.properties_error h with ⟨hcause, -⟩ | hmismatch
      · exact hcause.imp_right .inl
      · exact .inr (.inr hmismatch)
  | fields =>
      rcases Classes.fields_error h with hcause | ⟨hmismatch, hunspelled⟩
      · exact hcause.imp_right .inl
      · exact .inr (.inr ⟨hmismatch, .inr hunspelled⟩)

theorem pairs_error (h : pairs classes source target = .error fault) :
    fault.IsConfiguration ∨ IsMemberFault classes fault source ∨
      IsMemberFault classes fault target := by
  rcases bind_eq_error.mp h with hsource | ⟨sourceProperties, -, h⟩
  · exact (members_error (g := .properties) hsource).imp_right .inl
  rcases bind_eq_error.mp h with htarget | ⟨targetProperties, -, h⟩
  · exact (members_error (g := .properties) htarget).imp_right .inr
  rcases bind_eq_error.mp h with hsource | ⟨sourceFields, -, h⟩
  · exact (members_error (g := .fields) hsource).imp_right .inl
  rcases bind_eq_error.mp h with htarget | ⟨targetFields, -, hdone⟩
  · exact (members_error (g := .fields) htarget).imp_right .inr
  · cases hdone

/-- A property without an accessor to ask is a mismatch where the properties of both classes resolve
otherwise. -/
theorem pairs_of_untold (hsource : classes.PropertiesResolve source)
    (htarget : classes.PropertiesResolve target)
    (huntold : classes.HasUntoldProperty source ∨ classes.HasUntoldProperty target) :
    pairs classes source target = .error .typeMismatch := by
  have hmismatch : ∀ {c fault}, classes.PropertiesResolve c →
      classes.properties c = .error fault → fault = .typeMismatch := by
    intro c fault hresolve hfails
    rcases Classes.properties_error hfails with ⟨-, hunresolved⟩ | ⟨hmismatch, -⟩
    · exact absurd hresolve hunresolved
    · exact hmismatch
  have htold : ∀ {c members}, classes.properties c = .ok members →
      ¬ classes.HasUntoldProperty c := by
    rintro c members hmembers ⟨⟨name, p⟩, hentry, huntold⟩
    obtain ⟨m, hm⟩ := isOk_of_mem_mapM hmembers hentry
    obtain ⟨t, ht, -⟩ := bind_eq_ok.mp hm
    rw [Classes.propertyType_of_untold huntold] at ht
    cases ht
  unfold pairs
  cases hs : classes.properties source with
  | error fault =>
      rw [hmismatch hsource hs]
      rfl
  | ok sourceProperties =>
      cases ht : classes.properties target with
      | error fault =>
          rw [hmismatch htarget ht]
          rfl
      | ok targetProperties => exact absurd huntold (not_or.mpr ⟨htold hs, htold ht⟩)

/-- Pairs that are matched are refused with a configuration fault, or have a type that cannot be
looked up. -/
theorem build_error_of_pairs (hr : creates = true → classes.requiredArguments target = [])
    {matched : List (Member × Member)} (hp : pairs classes source target = .ok matched)
    (h : (build classes registry (.cls source) (.cls target) creates).outcome = .error fault) :
    fault.IsConfiguration ∨ fault = .typeMismatch ∧ Obstructed classes source target := by
  obtain ⟨sources, targets, hs, ht, rfl⟩ := pairs_eq_ok hp
  rcases build_eq_error hr hp h with ⟨-, hcause⟩ | ⟨⟨m, t⟩, hpair, hfault⟩
  · exact .inl hcause
  · rcases resolve_eq_error hfault with ⟨hmismatch, hunusable⟩ | ⟨hcause, -⟩
    · exact .inr ⟨hmismatch, m, t, (matched_iff hs ht).mpr hpair, hunusable⟩
    · exact .inl hcause

/-- Whatever planning fails with is a configuration fault, the fault of a class whose members cannot
be told, or a mismatch because a matched pair has a type that cannot be looked up. -/
theorem build_error
    (h : (build classes registry (.cls source) (.cls target) creates).outcome = .error fault) :
    fault.IsConfiguration ∨ IsMemberFault classes fault source ∨
      IsMemberFault classes fault target ∨
      fault = .typeMismatch ∧ Obstructed classes source target := by
  by_cases hr : creates = true → classes.requiredArguments target = []
  · cases hpairs : pairs classes source target with
    | ok matched => exact (build_error_of_pairs hr hpairs h).imp_right fun hfault => .inr (.inr hfault)
    | error cause =>
        rw [build_outcome hr, hpairs] at h
        cases h
        rcases pairs_error hpairs with hcause | hsource | htarget
        · exact .inl hcause
        · exact .inr (.inl hsource)
        · exact .inr (.inr (.inl htarget))
  · obtain ⟨rfl, hrequired⟩ := Classical.not_imp.mp hr
    obtain ⟨cause, hcause⟩ := build_of_required registry source hrequired
    rw [hcause] at h
    cases h
    exact .inl ⟨cause, rfl⟩

/-- Classes between which there is a plan can be described. -/
theorem describable_of_build {p : Plan Converter}
    (h : (build classes registry (.cls source) (.cls target) creates).outcome = .ok p) :
    classes.Describable source ∧ classes.Describable target := by
  obtain ⟨matched, hmatched, -⟩ := build_eq_ok h
  obtain ⟨sources, targets, hs, ht, -⟩ := pairs_eq_ok hmatched
  exact ⟨Classes.describable_of_members (hs .properties) (hs .fields),
    Classes.describable_of_members (ht .properties) (ht .fields)⟩

/-- A draft with a property that has neither a getter nor a setter, and a note with a name. -/
def noting : Classes := [
  ⟨⟨"Draft", .plain, [], none,
    [.field ⟨"name", .builtin .str, .missing, false, none, true, none⟩,
      .property "label" none none], none⟩, [.declared "Draft", .builtin .object]⟩,
  annotatedClass "Note" [("name", .builtin .str)]]

end Plan

end Memberwise
