import Memberwise.Proofs.Member.Nearest

/-! # Class variables and init-only variables

Neither a class variable nor an init-only variable is kept on an instance.  Of their spellings,
only the class variable with an argument is told from a field, and even that comes back where the
initializer stores a parameter of its name.
-/

namespace Memberwise.Classes

variable {classes : Classes} {c : ClassRef} {name : String} {t u : TypeExpr}

/-- Whether a hint is no type of a field: that of a class variable, in either spelling, or of an
init-only variable. -/
def IsPseudo (u : TypeExpr) : Prop := u.isClassVariable = true ∨ u.isInitOnly = true

instance : Decidable (IsPseudo u) := inferInstanceAs (Decidable (_ ∨ _))

/-- The spellings that are not told from those of fields. -/
theorem not_marksClassVariable_iff (h : IsPseudo u) :
    ¬ MarksClassVariable u ↔ u = .special .classVar ∨ u.isInitOnly = true := by
  unfold IsPseudo TypeExpr.isClassVariable at h
  unfold MarksClassVariable
  constructor
  · intro hother
    rcases h with hvariable | hinit
    · split at hvariable
      · exact .inl rfl
      · exact absurd ⟨_, rfl⟩ hother
      · cases hvariable
    · exact .inr hinit
  · rintro (rfl | hinit) ⟨args, hu⟩
    · cases hu
    · rw [hu] at hinit
      cases hinit

/-- A name whose nearest annotation is that of a class variable or an init-only variable is a field
all the same if its spelling is not told from that of a field, or if the initializer stores a
parameter of this name.  It has to be public and no property, like any field. -/
theorem reports_pseudoField_iff (hc : classes.Describable c) (hmodel : classes.isModel c = false)
    (hnearest : classes.nearestAnnotation? c name = some t) (hu : t.resolve classes = .ok u)
    (hpseudo : IsPseudo u) :
    classes.Reports c name ↔
      isFieldName (classes.publicProperties c) name = true ∧
        (u = .special .classVar ∨ u.isInitOnly = true ∨
          classes.Stores c name ∨ classes.StoresArgument c name) := by
  obtain ⟨members, hmembers⟩ := fields_isOk hc
  obtain ⟨hints, hhints, hnames⟩ := fields_names name hmodel hmembers
  have hhint : ∀ v, (name, v) ∈ hints ↔ v = u := by
    intro v
    rw [mem_classHints_iff hhints, hnearest]
    constructor
    · rintro ⟨_, ht, hv⟩
      cases ht
      rw [hu] at hv
      cases hv
      rfl
    · rintro rfl
      exact ⟨t, rfl, hu⟩
  have hannotated : (∃ v, (name, v) ∈ hints ∧ ¬ MarksClassVariable v) ↔
      u = .special .classVar ∨ u.isInitOnly = true := by
    rw [← not_marksClassVariable_iff hpseudo]
    simp only [hhint, exists_eq_left]
  rw [hannotated, or_assoc] at hnames
  rw [← hnames]
  constructor
  · rintro ⟨found, hfound, hmem⟩
    rw [hmembers] at hfound
    cases hfound
    exact hmem
  · exact fun hmem => ⟨members, hmembers, hmem⟩

/-- A class with one annotation. -/
def annotatedDecl (name : String) (kind : ClassKind) (bases : List ClassRef) (field : String)
    (t : TypeExpr) : ClassDecl :=
  ⟨name, kind, bases, none, [.field ⟨field, t, .value (.atom (.int 3)), false, none, true, none⟩],
    none⟩

/-- The options of a record class as they are if none is given. -/
def plainRecord : RecordOptions := ⟨true, true, true, false, false, false, false, false⟩

/-- Gauges count themselves in a class variable with an argument, meters in one without, and probes
take a scale when they are created. -/
def instruments : Classes :=
  let gauge : List ClassRef := [.declared "Gauge", .builtin .object]
  [⟨annotatedDecl "Gauge" .plain [] "count" (.applied (.form .classVar) [.builtin .int]), gauge⟩,
    ⟨annotatedDecl "Meter" .plain [.declared "Gauge"] "count" (.special .classVar),
      .declared "Meter" :: gauge⟩,
    ⟨annotatedDecl "Probe" (.record plainRecord) [.declared "Gauge"] "scale"
        (.initOnly 0 (.builtin .int)), .declared "Probe" :: gauge⟩]

theorem reports_pseudoField_iff_gauge :
    instruments.Describable (.declared "Gauge") ∧
    instruments.isModel (.declared "Gauge") = false ∧
    instruments.nearestAnnotation? (.declared "Gauge") "count" =
      some (.applied (.form .classVar) [.builtin .int]) ∧
    IsPseudo (.applied (.form .classVar) [.builtin .int]) ∧
    ¬ instruments.Reports (.declared "Gauge") "count" := by
  have hc : instruments.Describable (.declared "Gauge") := by decide +kernel
  have hmodel : instruments.isModel (.declared "Gauge") = false := by decide +kernel
  have hpseudo : IsPseudo (.applied (.form .classVar) [.builtin .int]) := .inl rfl
  refine ⟨hc, hmodel, rfl, hpseudo, fun hreports => ?_⟩
  have hspelling := ((reports_pseudoField_iff hc hmodel rfl rfl hpseudo).mp hreports).2
  have hsource : instruments.initSource (.declared "Gauge") = .builtin .object := rfl
  rcases hspelling with hbare | hinit | ⟨owner, init, hstored, -⟩ | ⟨owner, hstored, -⟩
  · cases hbare
  · cases hinit
  · rw [hsource] at hstored
    cases hstored
  · rw [hsource] at hstored
    cases hstored

/-- A class variable without an argument is a field, and so is an init-only variable, though the
nearest annotation says that there is none on the instances. -/
theorem reports_count_meter :
    instruments.isModel (.declared "Meter") = false ∧
    instruments.nearestAnnotation? (.declared "Meter") "count" = some (.special .classVar) ∧
    IsPseudo (.special .classVar) ∧ instruments.Reports (.declared "Meter") "count" ∧
    instruments.isModel (.declared "Probe") = false ∧
    instruments.nearestAnnotation? (.declared "Probe") "scale" =
      some (.initOnly 0 (.builtin .int)) ∧
    IsPseudo (.initOnly 0 (.builtin .int)) ∧ instruments.Reports (.declared "Probe") "scale" := by
  have hmeter : (instruments.fields (.declared "Meter")).toOption.map (·.map (·.name)) =
      some ["count"] := by decide +kernel
  have hprobe : (instruments.fields (.declared "Probe")).toOption.map (·.map (·.name)) =
      some ["scale"] := by decide +kernel
  exact ⟨by decide +kernel, rfl, .inl rfl, (reports_of_names hmeter).mpr List.mem_cons_self,
    by decide +kernel, rfl, .inr rfl, (reports_of_names hprobe).mpr List.mem_cons_self⟩

end Memberwise.Classes
