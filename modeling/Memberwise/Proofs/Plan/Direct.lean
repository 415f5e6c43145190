import Memberwise.Proofs.Member.Described
import Memberwise.Proofs.Plan.Resolution
import Memberwise.Proofs.TypeExpr.Spelling
import Memberwise.Proofs.TypeExpr.Underlying

/-! # Members that go as they are

Members are told apart by their keys, and by their options where only one of two value kinds has
one.  It comes to the same as to leave the options out: members go to each other as they are just
if their types are the same without them.
-/

namespace Memberwise.Resolver

open TypeExpr

variable {classes : Classes} {m n : Member} {s t : TypeExpr}

/-! ## Keys of members -/

theorem keyType_of_describes (hm : Member.Describes classes s m) (hs : s.IsFlat) :
    m.keyType classes = classes.keyType s := by
  obtain ⟨name, readable, writable, rfl⟩ := hm
  exact Classes.keyType_normalize classes hs

theorem underlying_of_describes (hm : Member.Describes classes s m) :
    m.underlying = s.unwrapOptional := by
  obtain ⟨name, readable, writable, rfl⟩ := hm
  rfl

theorem plain_of_isValueKind (h : classes.isValueKind t = true) :
    ∃ c, t.unwrapOptional = .cls c := by
  unfold Classes.isValueKind at h
  cases hu : t.unwrapOptional with
  | cls c => exact ⟨c, rfl⟩
  | _ =>
      rw [hu] at h
      cases h

/-- The key of a value kind is its class, or the union of the class with the absent value. -/
theorem keyType_of_isValueKind (hs : s.IsFlat) (hkind : classes.isValueKind s = true) :
    classes.keyType s =
      if s.isOptional then .union .named [s.unwrapOptional, noneType] else s.unwrapOptional := by
  obtain ⟨c, hc⟩ := plain_of_isValueKind hkind
  rw [Classes.keyType, if_pos hkind]
  cases unwraps hs with
  | plain hsame _ hnormal =>
      rw [hnormal, hsame]
      rw [← hsame, hc]
      rfl
  | option _ _ hoptional _ hnormal => rw [hnormal, if_pos hoptional]

/-! ## Types without their options -/

/-- Types that are the same without their options are value kinds together. -/
theorem isValueKind_of_underlying (hkind : classes.isValueKind s = true)
    (h : Same s.unwrapOptional t.unwrapOptional) :
    t.unwrapOptional = s.unwrapOptional ∧ classes.isValueKind t = true := by
  obtain ⟨c, hc⟩ := plain_of_isValueKind hkind
  have hother : t.unwrapOptional = s.unwrapOptional := by
    rw [hc] at h ⊢
    exact (same_plain_iff rfl).mp h
  refine ⟨hother, ?_⟩
  unfold Classes.isValueKind
  rw [hother]
  exact hkind

/-- A key has the option of its type or none, so types with one key are the same without them. -/
theorem same_underlying_of_keyType (hs : s.IsFlat) (ht : t.IsFlat)
    (h : Same (classes.keyType s) (classes.keyType t)) :
    Same s.unwrapOptional t.unwrapOptional := by
  have hflat : ∀ {u : TypeExpr}, u.IsFlat → (classes.keyType u).IsFlat ∧
      (classes.keyType u).unwrapOptional = u.unwrapOptional := by
    intro u hu
    unfold Classes.keyType
    split
    · exact ⟨isFlat_normalize hu, unwrapOptional_normalize hu⟩
    · cases unwraps hu with
      | plain hsame =>
          rw [hsame]
          exact ⟨hu, hsame⟩
      | option hsingle =>
          exact ⟨isFlat_of_not_isUnion hsingle, unwrapOptional_of_not_isUnion hsingle⟩
  obtain ⟨hkey, hunwrapped⟩ := hflat hs
  obtain ⟨hkey', hunwrapped'⟩ := hflat ht
  rw [← hunwrapped, ← hunwrapped']
  exact same_unwrapOptional hkey hkey' h

/-! ## Direct pairs -/

variable (hm : Member.Describes classes s m) (hs : s.IsFlat) (hn : Member.Describes classes t n)
  (ht : t.IsFlat)

include hm hs hn ht

/-- Members whose types are the same without their options go to each other as they are. -/
theorem isDirect_of_underlying (h : Same s.unwrapOptional t.unwrapOptional) :
    isDirect classes m n = true := by
  have hkeys : (m.isValueKind && m.isNullable != n.isNullable) = false →
      Same (m.keyType classes) (n.keyType classes) := by
    intro hagree
    rw [keyType_of_describes hm hs, keyType_of_describes hn ht]
    obtain ⟨_, _, _, rfl⟩ := hm
    obtain ⟨_, _, _, rfl⟩ := hn
    simp only [Member.describe, Classes.isValueKind_unwrapOptional classes hs,
      Classes.isValueKind_unwrapOptional classes ht] at hagree
    cases hkind : classes.isValueKind s with
    | true =>
        obtain ⟨hsame, hother⟩ := isValueKind_of_underlying hkind h
        have hoptional : s.isOptional = t.isOptional := by
          simpa [hkind, hother] using hagree
        rw [keyType_of_isValueKind hs hkind, keyType_of_isValueKind ht hother, hsame, hoptional]
        exact same_refl _
    | false =>
        have hother : classes.isValueKind t = false := by
          refine Bool.eq_false_iff.mpr fun hother => ?_
          rw [(isValueKind_of_underlying hother (same_symm h)).2] at hkind
          cases hkind
        rw [Classes.keyType, Classes.keyType, hkind, hother]
        exact h
  unfold isDirect
  split
  · rw [underlying_of_describes hm, underlying_of_describes hn]
    exact h
  · rename_i hagree
    exact hkeys (Bool.eq_false_iff.mpr hagree)

/-- Members go to each other as they are just if their types are the same without their options. -/
theorem isDirect_iff : isDirect classes m n = true ↔ Same m.underlying n.underlying := by
  have hunderlying := underlying_of_describes hm
  have hunderlying' := underlying_of_describes hn
  constructor
  · intro h
    unfold isDirect at h
    split at h
    · exact h
    · rw [keyType_of_describes hm hs, keyType_of_describes hn ht] at h
      rw [hunderlying, hunderlying']
      exact same_underlying_of_keyType hs ht h
  · intro h
    rw [hunderlying, hunderlying'] at h
    exact isDirect_of_underlying hm hs hn ht h

/-- Members with one key go to each other as they are. -/
theorem isDirect_of_same (h : Same (m.keyType classes) (n.keyType classes)) :
    isDirect classes m n = true := by
  rw [keyType_of_describes hm hs, keyType_of_describes hn ht] at h
  exact isDirect_of_underlying hm hs hn ht (same_underlying_of_keyType hs ht h)

end Memberwise.Resolver
