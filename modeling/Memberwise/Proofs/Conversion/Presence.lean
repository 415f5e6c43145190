import Memberwise.Conversion
import Memberwise.Proofs.Fallible
import Memberwise.Proofs.Schema.Presence

/-! # Conversions into value kinds

What is converted into a class of values is not the absent value: a value of the class is present,
a scalar becomes one of the scalar class asked for, and a schema that reads a value gives an
instance of the class.
-/

namespace Memberwise

namespace Conversion

variable {classes : Classes} {c : ClassRef} {known : SchemaCache} {v result : Value}

/-! ## Scalars -/

section Scalars

variable {a r : Atom}

theorem toBool_classOf (h : toBool a = .ok r) : r.classOf = .builtin .bool := by
  cases a with
  | bool | int | float | decimal =>
      cases h
      rfl
  | str s =>
      simp only [toBool] at h
      split at h
      · cases h
        rfl
      · split at h
        · cases h
          rfl
        · cases h
  | _ => cases h

theorem toInt_classOf (h : toInt a = .ok r) : r.classOf = .builtin .int := by
  cases a with
  | bool | int =>
      cases h
      rfl
  | float | decimal | str =>
      obtain ⟨n, -, rfl⟩ := map_eq_ok.mp h
      rfl
  | _ => cases h

theorem toFloat_classOf (h : toFloat a = .ok r) : r.classOf = .builtin .float := by
  cases a with
  | bool | float =>
      cases h
      rfl
  | int n | str s =>
      simp only [toFloat] at h
      split at h
      · cases h
        rfl
      · cases h
  | decimal d =>
      cases d with
      | finite | infinity =>
          cases h
          rfl
      | nan negative signalling payload =>
          simp only [toFloat] at h
          split at h
          · cases h
          · cases h
            rfl
  | _ => cases h

theorem toDecimal_classOf (h : toDecimal a = .ok r) : r.classOf = .builtin .decimal := by
  cases a with
  | bool | int | decimal =>
      cases h
      rfl
  | float | str =>
      obtain ⟨d, -, rfl⟩ := map_eq_ok.mp h
      rfl
  | _ => cases h

theorem toText_classOf (h : toText a = .ok r) : r.classOf = .builtin .str := by
  cases a with
  | bool | float | decimal | str | datetime =>
      cases h
      rfl
  | int n =>
      simp only [toText] at h
      split at h
      · cases h
        rfl
      · cases h
  | _ => cases h

theorem toMoment_classOf {className : String} (h : toMoment className a = .ok r) :
    r.classOf = .builtin .datetime := by
  cases a with
  | str s =>
      simp only [toMoment] at h
      split at h
      · cases h
        rfl
      · cases h
  | _ => cases h

/-- A scalar is converted into one of the class asked for. -/
theorem convertScalar_classOf {className : String} {kind : ScalarKind}
    (h : convertScalar className kind a = .ok r) : r.classOf = .builtin kind.builtin := by
  cases kind with
  | bool => exact toBool_classOf h
  | int => exact toInt_classOf h
  | float => exact toFloat_classOf h
  | decimal => exact toDecimal_classOf h
  | str => exact toText_classOf h
  | datetime => exact toMoment_classOf h

theorem convertScalar_isNone {className : String} {kind : ScalarKind}
    (h : convertScalar className kind a = .ok r) : (Value.atom r).isNone = false := by
  have hclass := convertScalar_classOf h
  cases r with
  | none => cases kind <;> cases hclass
  | _ => rfl

end Scalars

/-! ## Schemas -/

/-- A class has only one spelling, whatever schemas have been made. -/
theorem spelling_cls (known : SchemaCache) (c : ClassRef) : known.spelling (.cls c) = .cls c := by
  unfold SchemaCache.spelling
  cases hfound : known.types.find? (·.same (.cls c)) with
  | none => rfl
  | some t =>
      have hsame : t.same (.cls c) = true := by simpa using List.find?_some hfound
      exact (TypeExpr.same_plain_iff rfl).mp (TypeExpr.same_symm hsame)

theorem isInstance_of_isConverted (h : isConverted classes v (.cls c) = true) :
    classes.isInstance v c = true := by
  unfold isConverted at h
  split at h
  · cases h
  · rename_i found hplain
    have hclass := TypeExpr.cls.inj (TypeExpr.plainClass?_eq_some hplain)
    subst hclass
    split at h
    · cases h
    · exact h

theorem convertBySchema_isInstance (hv : Schema.ReadsInstance classes c v)
    (hplain : ∀ plain, Schema.plain classes v = .ok plain → Schema.ReadsInstance classes c plain)
    (h : convertBySchema classes known v (.cls c) = .ok result) :
    classes.isInstance result c = true := by
  have hread : ∀ u r, Schema.ReadsInstance classes c u →
      (known.schema? classes (.cls c)).bind (fun s => Schema.read? classes s u) = some r →
      classes.isInstance r c = true := by
    intro u r hreads hsome
    rw [SchemaCache.schema?, spelling_cls] at hsome
    obtain ⟨schema, hschema, hresult⟩ := Option.bind_eq_some_iff.mp hsome
    exact hreads schema r hschema hresult
  simp only [convertBySchema] at h
  split at h
  · cases h
  · split at h
    · rename_i r hsome
      cases h
      exact hread v _ hv hsome
    · split at h
      · cases h
      · split at h
        · cases h
        · rename_i plain hform
          split at h
          · rename_i hconverted
            cases h
            exact isInstance_of_isConverted hconverted
          · split at h
            · rename_i r hsome
              cases h
              exact hread plain _ (hplain plain hform) hsome
            · cases h

/-- Nothing that is converted into a class of values is absent. -/
theorem convertPresent_isNone (hc : classes.isValueClass c = true) (hpresent : v.isNone = false)
    (hv : Schema.ReadsInstance classes c v)
    (hplain : ∀ plain, Schema.plain classes v = .ok plain → Schema.ReadsInstance classes c plain)
    (h : convertPresent classes known v (.cls c) = .ok result) : result.isNone = false := by
  have htarget : (TypeExpr.cls c).unwrapOptional = .cls c := rfl
  simp only [convertPresent, htarget] at h
  split at h
  · cases h
    exact hpresent
  · split at h
    · rename_i r hscalar
      cases h
      exact convertScalar_isNone hscalar
    · cases h
  · exact Classes.isNone_of_isInstance hc (convertBySchema_isInstance hv hplain h)

/-- With a value to fall back on that is present, the outcome always is. -/
theorem convertOrWith_isNone (hc : classes.isValueClass c = true)
    (hv : Schema.ReadsInstance classes c v)
    (hplain : ∀ plain, Schema.plain classes v = .ok plain → Schema.ReadsInstance classes c plain)
    {default : Value} (hdefault : default.isNone = false) :
    (convertOrWith classes known v (.cls c) default).isNone = false := by
  unfold convertOrWith
  split
  · exact hdefault
  · rename_i hpresent
    split
    · rename_i r hconverted
      exact convertPresent_isNone hc (by simpa using hpresent) hv hplain hconverted
    · exact hdefault

end Conversion

end Memberwise
