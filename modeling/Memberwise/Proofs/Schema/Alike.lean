import Memberwise.Proofs.TypeExpr.Same
import Memberwise.Proofs.Value.Renaming
import Memberwise.Schema.Cache

/-! # Types in classes that are alike

What a type is read as depends on the kinds of the classes that it names and on no annotation.
-/

namespace Memberwise

open Classes (Alike)

variable {classes classes' : Classes}

namespace TypeExpr

theorem resolveInners_congr {types : List TypeExpr}
    (ih : ∀ t ∈ types, t.resolveInner classes' = t.resolveInner classes) :
    resolveInners classes' types = resolveInners classes types := by
  induction types with
  | nil => rfl
  | cons t rest ihrest =>
      rw [List.forall_mem_cons] at ih
      simp only [resolveInners, ih.1, ihrest ih.2]

theorem resolveArgs_congr (h : Alike classes classes') {types : List TypeExpr}
    (ih : ∀ t ∈ types, t.resolveInner classes' = t.resolveInner classes) :
    resolveArgs classes' types = resolveArgs classes types := by
  induction types with
  | nil => rfl
  | cons t rest ihrest =>
      rw [List.forall_mem_cons] at ih
      cases t with
      | value v =>
          cases v with
          | atom a => cases a <;> simp only [resolveArgs, ih.1, ihrest ih.2, h.typeOfText]
          | _ => simp only [resolveArgs, ih.1, ihrest ih.2]
      | _ => simp only [resolveArgs, ih.1, ihrest ih.2]

theorem resolveInner_congr (h : Alike classes classes') (t : TypeExpr) :
    t.resolveInner classes' = t.resolveInner classes := by
  induction t using parts with
  | cls | special | generic | literal | initOnly | ellipsis | value => rfl
  | forward text => exact h.typeOfText text
  | applied head args ih =>
      cases head <;> simp only [resolveInner, resolveInners_congr ih, resolveArgs_congr h ih]
  | union style members ih => simp only [resolveInner, resolveInners_congr ih]
  | annotated t ih => simp only [resolveInner, ih]

theorem resolveTop_congr (h : Alike classes classes') (t : TypeExpr) :
    t.resolveTop classes' = t.resolveTop classes := by
  unfold resolveTop
  split
  · exact h.typeOfText _
  · rfl
  · exact resolveInner_congr h _

theorem resolve_congr (h : Alike classes classes') (t : TypeExpr) :
    t.resolve classes' = t.resolve classes := by
  simp only [resolve, resolveTop_congr h]

theorem resolveField_congr (h : Alike classes classes') (t : TypeExpr) :
    t.resolveField classes' = t.resolveField classes := by
  simp only [resolveField, resolveTop_congr h]

theorem areHashable_congr {types : List TypeExpr}
    (ih : ∀ t ∈ types, t.isHashable classes' = t.isHashable classes) :
    areHashable classes' types = areHashable classes types := by
  induction types with
  | nil => rfl
  | cons t rest ihrest =>
      rw [List.forall_mem_cons] at ih
      simp only [areHashable, ih.1, ihrest ih.2]

theorem isHashable_congr (h : Alike classes classes') (t : TypeExpr) :
    t.isHashable classes' = t.isHashable classes := by
  induction t using parts with
  | cls | special | generic | literal | initOnly | forward | ellipsis => rfl
  | applied head args ih => simp only [isHashable, areHashable_congr ih]
  | union style members ih => simp only [isHashable, areHashable_congr ih]
  | annotated t ih => simp only [isHashable, ih]
  | value v =>
      have hv := h.isHashable_rename (ρ := id) v
      rwa [Value.rename_id] at hv

end TypeExpr

namespace Schema

theorem ofClass?_congr (h : Alike classes classes') (c : ClassRef) :
    ofClass? classes' c = ofClass? classes c := by
  cases c with
  | builtin b => rfl
  | declared name =>
      simp only [ofClass?, ofDeclared?, h.isEnumeration, h.isModel, h.isRecord, h.membersOf]

theorem ofTypes?_congr {types : List TypeExpr}
    (ih : ∀ t ∈ types, ofType? classes' t = ofType? classes t) :
    ofTypes? classes' types = ofTypes? classes types := by
  induction types with
  | nil => rfl
  | cons t rest ihrest =>
      rw [List.forall_mem_cons] at ih
      simp only [ofTypes?, ih.1, ihrest ih.2]

theorem ofMembers?_congr {types : List TypeExpr}
    (ih : ∀ t ∈ types, ofType? classes' t = ofType? classes t) :
    ofMembers? classes' types = ofMembers? classes types := by
  induction types with
  | nil => rfl
  | cons t rest ihrest =>
      rw [List.forall_mem_cons] at ih
      simp only [ofMembers?, ih.1, ihrest ih.2]

theorem ofType?_congr (h : Alike classes classes') (t : TypeExpr) :
    ofType? classes' t = ofType? classes t := by
  induction t using TypeExpr.parts with
  | cls c => exact ofClass?_congr h c
  | special | generic | literal | initOnly | forward | ellipsis => rfl
  | value v => rfl
  | union style members ih => simp only [ofType?, ofMembers?_congr ih]
  | annotated t ih => simp only [ofType?, ih]
  | applied head args ih =>
      have hargs := ofTypes?_congr ih
      unfold ofType?
      split <;> rename_i heq <;> cases heq
      · split
        · rw [ih _ List.mem_cons_self]
        · rw [hargs]
      · split
        · rw [ih _ List.mem_cons_self]
        · rw [hargs]
      · rw [hargs]
      · rw [hargs]
      · rfl

end Schema

end Memberwise
