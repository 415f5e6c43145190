import Memberwise.Proofs.Member.Described
import Memberwise.Proofs.TypeExpr.Optional

/-! # Value kinds

A member of a value kind that is not optional is declared as a class, by its only spelling.  The
absent value is no instance of such a class, and its zero is not the absent value unless it is an
enumeration without members.
-/

namespace Memberwise

theorem Value.eq_none_of_isNone {v : Value} (h : v.isNone = true) : v = .none := by
  unfold isNone at h
  split at h
  · rfl
  · cases h

theorem TypeExpr.plainClass?_eq_some {t : TypeExpr} {c : ClassRef} (h : t.plainClass? = some c) :
    t = .cls c := by
  unfold plainClass? at h
  split at h
  · cases h
  · cases h
    rfl
  · cases h

namespace Classes

variable {classes : Classes} {c : ClassRef}

theorem descendsFrom_of_isValueClass (h : classes.isValueClass c = true) :
    ∃ kind ∈ valueKinds, classes.descendsFrom c kind = true :=
  List.any_eq_true.mp h

theorem isValueClass_ne_noneType (h : classes.isValueClass c = true) : c ≠ .builtin .noneType := by
  rintro rfl
  cases h

theorem isValueClass_ne_generic (h : classes.isValueClass c = true) : c ≠ .builtin .generic := by
  rintro rfl
  cases h

theorem plainClass?_of_isValueClass (h : classes.isValueClass c = true) :
    (TypeExpr.cls c).plainClass? = some c := by
  unfold TypeExpr.plainClass?
  split
  · rename_i heq
    exact absurd (TypeExpr.cls.inj heq) (isValueClass_ne_generic h)
  · rename_i heq
    rw [TypeExpr.cls.inj heq]
  · rename_i hother
    exact absurd rfl (hother c)

/-- The absent value is no instance of a value class. -/
theorem isNone_of_isInstance (hc : classes.isValueClass c = true) {v : Value}
    (h : classes.isInstance v c = true) : v.isNone = false := by
  refine Bool.eq_false_iff.mpr fun hnone => ?_
  obtain rfl := Value.eq_none_of_isNone hnone
  cases c with
  | declared name =>
      simp [isInstance, isSubclass, lineageOf, Value.classOf, Atom.classOf, Builtin.ancestors] at h
  | builtin b =>
      have hempty : Classes.isInstance [] .none (.builtin b) = true := h
      have hkind : Classes.isValueClass [] (.builtin b) = true := hc
      revert hempty hkind
      cases b <;> decide

/-! ## Zeros -/

theorem lookup_self_of_first {name : String} {v : Value} {rest members : List (String × Value)}
    (h : members = (name, v) :: rest) : members.lookup name = some v := by
  rw [h, List.lookup_cons, beq_self_eq_true]

/-- The first member of an enumeration is no other name for an earlier one. -/
theorem properMembers_ne_nil {name : String} (h : classes.membersOf name ≠ []) :
    classes.properMembers name ≠ [] := by
  obtain ⟨⟨first, v⟩, rest, hmembers⟩ := List.exists_cons_of_ne_nil h
  have hvalue : classes.memberValue name first = v := by
    rw [memberValue, lookup_self_of_first hmembers]
    rfl
  have hcanonical : classes.canonicalMember name first = first := by
    rw [canonicalMember, hvalue, hmembers]
    simp
  have hmem : (first, v) ∈ classes.properMembers name := by
    refine List.mem_filter.mpr ⟨by rw [hmembers]; exact List.mem_cons_self, ?_⟩
    simp [hcanonical]
  exact List.ne_nil_of_mem hmem

/-- Whether a class is no enumeration, or one that has members. -/
def IsInhabited (classes : Classes) (c : ClassRef) : Prop :=
  classes.isEnumeration c = true → classes.membersOf c.name ≠ []

theorem zeroOf_isNone (hc : classes.isValueClass c = true) (hinhabited : classes.IsInhabited c) :
    (classes.zeroOf c).isNone = false := by
  unfold zeroOf
  by_cases henum : classes.isEnumeration c = true
  · rw [if_pos henum]
    obtain ⟨entry, rest, hproper⟩ :=
      List.exists_cons_of_ne_nil (properMembers_ne_nil (hinhabited henum))
    rw [hproper]
    rfl
  · rw [if_neg henum]
    obtain ⟨kind, hkind, hdescends⟩ := descendsFrom_of_isValueClass hc
    have hentry : ∃ entry ∈ zeroValues, classes.descendsFrom c entry.1 = true := by
      have hzeros : ∀ kind ∈ valueKinds, kind = .enum ∨ kind ∈ zeroValues.map (·.1) := by decide
      rcases hzeros kind hkind with rfl | hzero
      · exact absurd hdescends henum
      · obtain ⟨entry, hentry, rfl⟩ := List.mem_map.mp hzero
        exact ⟨entry, hentry, hdescends⟩
    obtain ⟨entry, hentry⟩ := Option.isSome_iff_exists.mp (List.find?_isSome.mpr hentry)
    rw [hentry]
    have hzeros : ∀ entry ∈ zeroValues, (Value.atom entry.2).isNone = false := by decide
    exact hzeros entry (List.mem_of_find?_eq_some hentry)

theorem defaultValue_of_isValueClass (hc : classes.isValueClass c = true) :
    classes.defaultValue (.cls c) = classes.zeroOf c := by
  have hoptional : (TypeExpr.cls c).isOptional = false := rfl
  rw [defaultValue, hoptional, plainClass?_of_isValueClass hc]
  simp [hc]

theorem isValueKind_cls (hc : classes.isValueClass c = true) :
    classes.isValueKind (.cls c) = true := by
  have hplain : (TypeExpr.cls c).unwrapOptional.plainClass? = some c :=
    plainClass?_of_isValueClass hc
  rw [isValueKind, hplain]
  exact hc

/-- A type with the key of a value class is that class. -/
theorem keyType_eq_cls (hc : classes.isValueClass c = true) {t : TypeExpr}
    (h : classes.keyType t = .cls c) : t = .cls c := by
  unfold keyType at h
  split at h
  · exact TypeExpr.normalize_eq_cls h (isValueClass_ne_noneType hc)
  · rename_i hkind
    refine absurd ?_ hkind
    rw [isValueKind, h, plainClass?_of_isValueClass hc]
    exact hc

end Classes

namespace Member

variable {classes : Classes} {c : ClassRef} {m : Member} {t : TypeExpr}

/-- Whether a member holds values of a kind that is never absent. -/
def IsRequired (m : Member) : Prop := m.isValueKind = true ∧ m.isNullable = false

/-- A member that is never absent is declared as a class of values. -/
theorem Describes.declared_of_required (h : Describes classes t m) (hm : m.IsRequired) :
    ∃ c, t = .cls c ∧ m.declared = .cls c ∧ classes.isValueClass c = true := by
  obtain ⟨name, readable, writable, rfl⟩ := h
  obtain ⟨hkind, hnullable⟩ := hm
  have hoptional : t.isOptional = false := by
    have hboth : ((describe classes name t readable writable).isValueKind && t.isOptional) = false :=
      hnullable
    rwa [hkind, Bool.true_and] at hboth
  have hvalue : (t.unwrapOptional.unwrapOptional.plainClass?.any classes.isValueClass) = true :=
    hkind
  rw [TypeExpr.unwrapOptional_of_not_isOptional hoptional,
    TypeExpr.unwrapOptional_of_not_isOptional hoptional] at hvalue
  cases hplain : t.plainClass? with
  | none =>
      rw [hplain] at hvalue
      cases hvalue
  | some c =>
      rw [hplain] at hvalue
      obtain rfl := TypeExpr.plainClass?_eq_some hplain
      exact ⟨c, rfl, TypeExpr.normalize_of_not_isOptional hoptional, hvalue⟩

/-- Only a member that is never absent has the key of a class of values. -/
theorem Describes.required_of_keyType (h : Describes classes t m)
    (hc : classes.isValueClass c = true) (hkey : m.keyType classes = .cls c) : m.IsRequired := by
  obtain ⟨name, readable, writable, rfl⟩ := h
  have hdeclared : t.normalize = .cls c := Classes.keyType_eq_cls hc hkey
  obtain rfl := TypeExpr.normalize_eq_cls hdeclared (Classes.isValueClass_ne_noneType hc)
  exact ⟨Classes.isValueKind_cls hc, Bool.and_false _⟩

end Member

end Memberwise
