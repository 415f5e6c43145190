import Memberwise.Proofs.Conversion.Presence

/-! # What a conversion into a scalar class makes

A scalar becomes an instance of one of the six scalar classes, also where a class that extends one
was asked for.  Every other way to convert a value gives an instance of the class asked for.
-/

namespace Memberwise

namespace Classes

variable {classes : Classes} {c : ClassRef} {kind : ScalarKind} {v : Value}

/-- The scalar that an instance of a scalar class is or wraps. -/
def scalarIn? (classes : Classes) (v : Value) : Option Atom :=
  (classes.scalarKind? v.classOf).bind fun _ => v.core?

/-- A predefined class of scalars is the scalar class that it descends from. -/
theorem eq_of_scalarKind?_builtin {b : Builtin}
    (h : classes.scalarKind? (.builtin b) = some kind) : b = kind.builtin := by
  have hempty : Classes.scalarKind? [] (.builtin b) = some kind := h
  revert hempty
  cases b <;> cases kind <;> decide

theorem plainClass?_of_scalarKind? (h : classes.scalarKind? c = some kind) :
    (TypeExpr.cls c).plainClass? = some c := by
  cases c with
  | declared name => rfl
  | builtin b =>
      obtain rfl := eq_of_scalarKind?_builtin h
      cases kind <;> rfl

/-- A predefined class has no declared ancestor. -/
theorem isSubclass_builtin_declared (b : Builtin) (name : String) :
    classes.isSubclass (.builtin b) (.declared name) = false := by
  simp [isSubclass, lineageOf]

/-- A value of a scalar class itself is an instance of no class that extends it. -/
theorem isInstance_iff_of_classOf (hkind : classes.scalarKind? c = some kind)
    (hv : v.classOf = .builtin kind.builtin) :
    classes.isInstance v c = true ↔ c = .builtin kind.builtin := by
  rw [isInstance, hv]
  cases c with
  | builtin b =>
      obtain rfl := eq_of_scalarKind?_builtin hkind
      have hself : .builtin kind.builtin ∈ classes.lineageOf (.builtin kind.builtin) :=
        List.mem_map_of_mem (Builtin.mem_ancestors_self _)
      simp [isSubclass, hself]
  | declared name => simp [isSubclass_builtin_declared]

end Classes

namespace Conversion

variable {classes : Classes} {c : ClassRef} {kind : ScalarKind} {known : SchemaCache}
  {v result : Value}

/-- A truth value that is to become an integer is the only instance of a scalar class that is
not of it already. -/
theorem isConverted_of_isInstance (hkind : classes.scalarKind? c = some kind)
    (hc : c ≠ .builtin kind.builtin) (h : classes.isInstance v c = true) :
    isConverted classes v (.cls c) = true := by
  unfold isConverted
  rw [Classes.plainClass?_of_scalarKind? hkind]
  cases c with
  | builtin b =>
      obtain rfl := Classes.eq_of_scalarKind?_builtin hkind
      exact absurd rfl hc
  | declared name => simpa using h

/-- Into a scalar class, a value that is not of it already is converted as a scalar if it is
one. -/
theorem meansFor_cls (hkind : classes.scalarKind? c = some kind) :
    meansFor classes v (.cls c) =
      if isConverted classes v (.cls c) then .none
      else
        match classes.scalarIn? v with
        | some a => .scalar kind a
        | none => .schema := by
  have hany : (TypeExpr.cls c == .any) = false := by
    refine Bool.eq_false_iff.mpr fun hsame => ?_
    have heq := (TypeExpr.same_plain_iff rfl).mp hsame
    cases heq
    cases hkind
  have hobject : (TypeExpr.cls c == .builtin .object) = false := by
    refine Bool.eq_false_iff.mpr fun hsame => ?_
    have heq := (TypeExpr.same_plain_iff rfl).mp hsame
    cases heq
    cases hkind
  rw [meansFor, hany, hobject, Classes.plainClass?_of_scalarKind? hkind, Classes.scalarIn?]
  simp only [Bool.false_or, Option.bind_some, hkind]
  cases classes.scalarKind? v.classOf <;> cases v.core? <;> rfl

/-- A value that is or wraps a scalar is converted into a scalar class that it is not of by the rules
for scalars. -/
theorem convertWith_scalar {a : Atom} (hkind : classes.scalarKind? c = some kind)
    (ha : classes.scalarIn? v = some a) (hnot : isConverted classes v (.cls c) = false)
    (known : SchemaCache) :
    convertWith classes known v (.cls c) =
      match convertScalar (classes.typeName v) kind a with
      | .ok result => .ok (.atom result)
      | .error reason => .error (classes.conversionFault v (.cls c) (.stated reason)) := by
  have hpresent : v.isNone = false := by
    refine Bool.eq_false_iff.mpr fun hnone => ?_
    rw [Value.eq_none_of_isNone hnone] at ha
    cases ha
  have htarget : (TypeExpr.cls c).unwrapOptional = .cls c := rfl
  have hmeans : meansFor classes v (.cls c) = .scalar kind a := by
    rw [meansFor_cls hkind, hnot, ha]
    rfl
  cases hscalar : convertScalar (classes.typeName v) kind a with
  | ok | error =>
      simp only [convertWith, hpresent, Bool.false_eq_true, if_false, convertPresent, htarget, hmeans,
        hscalar]

/-- A scalar that is not of a scalar class becomes an instance of the class only if that is one of
the six. -/
theorem isInstance_iff_of_convertScalar {className : String} {a r : Atom}
    (hkind : classes.scalarKind? c = some kind) (hnot : isConverted classes v (.cls c) = false)
    (h : convertScalar className kind a = .ok r) :
    classes.isInstance (.atom r) c = true ↔
      c = .builtin kind.builtin ∨ classes.isInstance v c = true := by
  have hclass : (Value.atom r).classOf = .builtin kind.builtin := convertScalar_classOf h
  rw [Classes.isInstance_iff_of_classOf hkind hclass]
  refine ⟨.inl, fun hor => hor.elim id fun hinstance => ?_⟩
  by_contra hc
  rw [isConverted_of_isInstance hkind hc hinstance] at hnot
  cases hnot

/-- What is converted into a scalar class is an instance of it, unless the class extends one of the
six and the value is a scalar that is not of the class: that becomes an instance of the class
extended. -/
theorem convertWith_isInstance_iff (hkind : classes.scalarKind? c = some kind)
    (hv : Schema.ReadsInstance classes c v)
    (hplain : ∀ plain, Schema.plain classes v = .ok plain → Schema.ReadsInstance classes c plain)
    (h : convertWith classes known v (.cls c) = .ok result) :
    classes.isInstance result c = true ↔
      c = .builtin kind.builtin ∨ classes.isInstance v c = true ∨ classes.scalarIn? v = none := by
  have hpresent : v.isNone = false := by
    refine Bool.eq_false_iff.mpr fun hnone => ?_
    simp only [convertWith, hnone, if_true, reduceCtorEq] at h
  have htarget : (TypeExpr.cls c).unwrapOptional = .cls c := rfl
  simp only [convertWith, hpresent, Bool.false_eq_true, if_false, convertPresent, htarget] at h
  rw [meansFor_cls hkind] at h
  cases hconverted : isConverted classes v (.cls c) with
  | true =>
      simp only [hconverted, if_true] at h
      cases h
      simp [isInstance_of_isConverted hconverted]
  | false =>
      rw [hconverted] at h
      cases hscalar : classes.scalarIn? v with
      | none =>
          rw [hscalar] at h
          have hresult := convertBySchema_isInstance hv hplain h
          simp [hresult]
      | some a =>
          rw [hscalar] at h
          cases hconvert : convertScalar (classes.typeName v) kind a with
          | error reason => simp [hconvert] at h
          | ok r =>
              simp only [Bool.false_eq_true, if_false, hconvert] at h
              cases h
              simpa using isInstance_iff_of_convertScalar hkind hconverted hconvert

/-- A text of digits becomes an integer, by the rules of scalars. -/
theorem convertWith_isInstance_iff_int :
    convertWith [] .empty (.atom (.str "7")) (.builtin .int) = .ok (.atom (.int 7)) ∧
      Classes.isInstance [] (.atom (.int 7)) (.builtin .int) = true := by
  have hreads : Schema.ReadsInstance [] (.builtin .int) (.atom (.str "7")) := by
    intro schema result hschema hresult
    rw [Schema.describe?_int] at hschema
    cases hschema
    cases hresult
    decide
  have hconvert : convertWith [] .empty (.atom (.str "7")) (.builtin .int) =
      .ok (.atom (.int 7)) := by cbv
  refine ⟨hconvert, (convertWith_isInstance_iff rfl hreads ?_ hconvert).mpr (.inl rfl)⟩
  intro plain hplain
  cases hplain
  exact hreads

/-- A class of ages that extends the class of integers. -/
def aged : Classes :=
  [⟨⟨"Age", .plain, [.builtin .int], none, [], none⟩,
    [.declared "Age", .builtin .int, .builtin .object]⟩]

/-- An age that is asked for of a text is only an integer. -/
theorem convertWith_age :
    aged.scalarKind? (.declared "Age") = some .int ∧
      convertWith aged .empty (.atom (.str "7")) (.cls (.declared "Age")) =
        .ok (.atom (.int 7)) ∧
      aged.isInstance (.atom (.int 7)) (.declared "Age") = false := by
  exact ⟨by decide, by cbv, by decide⟩

end Conversion

end Memberwise
