import Mathlib.Data.List.Forall2
import Memberwise.TypeExpr.Shape

/-! # Equality of types

The sameness of type expressions is an equivalence.  It is decided by comparing arguments place by
place and the members of unions as sets, so two types can be the same and yet list the members of
a union in another order.
-/

namespace Memberwise.TypeExpr

/-- What holds of a type as soon as it holds of its parts holds of every type. -/
theorem parts {P : TypeExpr → Prop} (cls : ∀ c, P (.cls c)) (special : ∀ f, P (.special f))
    (generic : ∀ a, P (.generic a))
    (applied : ∀ head args, (∀ t ∈ args, P t) → P (.applied head args))
    (union : ∀ style members, (∀ t ∈ members, P t) → P (.union style members))
    (literal : ∀ values, P (.literal values)) (annotated : ∀ t, P t → P (.annotated t))
    (initOnly : ∀ mark t, P t → P (.initOnly mark t)) (forward : ∀ name, P (.forward name))
    (ellipsis : P .ellipsis) (value : ∀ v, P (.value v)) (t : TypeExpr) : P t :=
  match t with
  | .cls c => cls c
  | .special f => special f
  | .generic a => generic a
  | .applied head args => applied head args fun t _ => recurse t
  | .union style members => union style members fun t _ => recurse t
  | .literal values => literal values
  | .annotated t => annotated t (recurse t)
  | .initOnly mark t => initOnly mark t (recurse t)
  | .forward name => forward name
  | .ellipsis => ellipsis
  | .value v => value v
where
  recurse (t : TypeExpr) : P t :=
    parts cls special generic applied union literal annotated initOnly forward ellipsis value t

/-! ## Lists as sets -/

/-- Whether each of two lists has a counterpart for every element of the other. -/
structure Matches {α : Type} (R : α → α → Prop) (xs ys : List α) : Prop where
  left : ∀ x ∈ xs, ∃ y ∈ ys, R x y
  right : ∀ y ∈ ys, ∃ x ∈ xs, R x y

section Matches

variable {α : Type} {R : α → α → Prop} {xs ys zs : List α}

theorem Matches.refl (h : ∀ x ∈ xs, R x x) : Matches R xs xs :=
  ⟨fun x hx => ⟨x, hx, h x hx⟩, fun x hx => ⟨x, hx, h x hx⟩⟩

theorem Matches.symm (hR : ∀ x ∈ xs, ∀ y, R x y → R y x) (h : Matches R xs ys) :
    Matches R ys xs := by
  constructor
  · intro y hy
    obtain ⟨x, hx, hxy⟩ := h.right y hy
    exact ⟨x, hx, hR x hx y hxy⟩
  · intro x hx
    obtain ⟨y, hy, hxy⟩ := h.left x hx
    exact ⟨y, hy, hR x hx y hxy⟩

theorem Matches.trans (hR : ∀ x ∈ xs, ∀ y z, R x y → R y z → R x z) (h : Matches R xs ys)
    (h' : Matches R ys zs) : Matches R xs zs := by
  constructor
  · intro x hx
    obtain ⟨y, hy, hxy⟩ := h.left x hx
    obtain ⟨z, hz, hyz⟩ := h'.left y hy
    exact ⟨z, hz, hR x hx y z hxy hyz⟩
  · intro z hz
    obtain ⟨y, hy, hyz⟩ := h'.right z hz
    obtain ⟨x, hx, hxy⟩ := h.right y hy
    exact ⟨x, hx, hR x hx y z hxy hyz⟩

end Matches

/-! ## What is the same as a given type -/

/-- Sameness as a relation. -/
abbrev Same (a b : TypeExpr) : Prop := same a b = true

/-- Whether two values of literal types are the same. -/
def SameLiteral (a b : Atom) : Prop := a.token = b.token ∧ a.classOf = b.classOf

variable {as bs : List TypeExpr} {a b c : TypeExpr}

theorem sameArgs_iff : sameArgs as bs = true ↔ List.Forall₂ Same as bs := by
  induction as generalizing bs with
  | nil => cases bs <;> simp [sameArgs]
  | cons a rest ih => cases bs <;> simp [sameArgs, ih]

theorem coveredBy_iff : coveredBy as bs = true ↔ ∀ a ∈ as, ∃ b ∈ bs, Same a b := by
  induction as with
  | nil => simp [coveredBy]
  | cons a rest ih => simp [coveredBy, ih]

theorem someSame_iff : someSame as b = true ↔ ∃ a ∈ as, Same a b := by
  induction as with
  | nil => simp [someSame]
  | cons a rest ih => simp [someSame, ih]

theorem same_applied_iff {head : Head} :
    Same (.applied head as) b ↔ ∃ bs, b = .applied head bs ∧ List.Forall₂ Same as bs := by
  cases b with
  | applied head' bs =>
      simp only [Same, same, Bool.and_eq_true, beq_iff_eq, sameArgs_iff, applied.injEq]
      constructor
      · rintro ⟨rfl, h⟩
        exact ⟨bs, ⟨rfl, rfl⟩, h⟩
      · rintro ⟨_, ⟨rfl, rfl⟩, h⟩
        exact ⟨rfl, h⟩
  | _ => simp [same]

/-- Unions are the same as sets of members, whatever their style. -/
theorem same_union_iff {style : UnionStyle} :
    Same (.union style as) b ↔ ∃ style' bs, b = .union style' bs ∧ Matches Same as bs := by
  cases b with
  | union style' bs =>
      simp only [Same, same, Bool.and_eq_true, coveredBy_iff, List.all_eq_true, someSame_iff,
        union.injEq]
      constructor
      · rintro ⟨hleft, hright⟩
        exact ⟨style', bs, ⟨rfl, rfl⟩, hleft, hright⟩
      · rintro ⟨_, _, ⟨rfl, rfl⟩, hleft, hright⟩
        exact ⟨hleft, hright⟩
  | _ => simp [same]

theorem same_literal_iff {xs : List Atom} :
    Same (.literal xs) b ↔ ∃ ys, b = .literal ys ∧ Matches SameLiteral xs ys := by
  cases b with
  | literal ys =>
      simp only [Same, same, Bool.and_eq_true, List.all_eq_true, List.any_eq_true, beq_iff_eq,
        literal.injEq]
      constructor
      · rintro ⟨hleft, hright⟩
        exact ⟨ys, rfl, hleft, hright⟩
      · rintro ⟨_, rfl, hleft, hright⟩
        exact ⟨hleft, hright⟩
  | _ => simp [same]

theorem same_annotated_iff : Same (.annotated a) b ↔ ∃ t, b = .annotated t ∧ Same a t := by
  cases b <;> simp [Same, same]

/-- Init-only types are the same if they were written at one place. -/
theorem same_initOnly_iff {mark : Nat} : Same (.initOnly mark a) b ↔ ∃ t, b = .initOnly mark t := by
  cases b with
  | initOnly mark' t =>
      simp only [Same, same, beq_iff_eq, initOnly.injEq]
      constructor
      · rintro rfl
        exact ⟨t, rfl, rfl⟩
      · rintro ⟨_, rfl, rfl⟩
        rfl
  | _ => simp [Same, same]

theorem same_value_iff {v : Value} :
    Same (.value v) b ↔ ∃ u, b = .value u ∧ v.shape = u.shape := by
  cases b <;> simp [Same, same]

/-- Types without parts are the same as themselves only. -/
theorem same_plain_iff (ha : a matches .cls _ | .special _ | .generic _ | .forward _ | .ellipsis) :
    Same a b ↔ b = a := by
  cases a <;> cases ha <;> cases b <;> simp only [Same, same, beq_iff_eq, reduceCtorEq,
    Bool.false_eq_true, cls.injEq, special.injEq, generic.injEq, forward.injEq] <;> exact eq_comm

/-! ## Equivalence -/

theorem same_refl (a : TypeExpr) : Same a a := by
  induction a using parts with
  | cls | special | generic | forward | ellipsis => exact (same_plain_iff rfl).mpr rfl
  | applied head args ih => exact same_applied_iff.mpr ⟨args, rfl, List.forall₂_same.mpr ih⟩
  | union style members ih => exact same_union_iff.mpr ⟨style, members, rfl, .refl ih⟩
  | literal values => exact same_literal_iff.mpr ⟨values, rfl, .refl fun _ _ => ⟨rfl, rfl⟩⟩
  | annotated t ih => exact same_annotated_iff.mpr ⟨t, rfl, ih⟩
  | initOnly mark t => exact same_initOnly_iff.mpr ⟨t, rfl⟩
  | value v => exact same_value_iff.mpr ⟨v, rfl, rfl⟩

theorem same_symm (h : Same a b) : Same b a := by
  induction a using parts generalizing b with
  | cls | special | generic | forward | ellipsis =>
      rw [(same_plain_iff rfl).mp h]
      exact same_refl _
  | applied head args ih =>
      obtain ⟨bs, rfl, hargs⟩ := same_applied_iff.mp h
      refine same_applied_iff.mpr ⟨args, rfl, ?_⟩
      clear h
      induction hargs with
      | nil => exact .nil
      | cons hab _ further =>
          rw [List.forall_mem_cons] at ih
          exact .cons (ih.1 hab) (further ih.2)
  | union style members ih =>
      obtain ⟨style', bs, rfl, hmatch⟩ := same_union_iff.mp h
      exact same_union_iff.mpr ⟨style, members, rfl, hmatch.symm fun a ha _ => ih a ha⟩
  | literal values =>
      obtain ⟨ys, rfl, hmatch⟩ := same_literal_iff.mp h
      exact same_literal_iff.mpr ⟨values, rfl,
        hmatch.symm fun _ _ _ hsame => ⟨hsame.1.symm, hsame.2.symm⟩⟩
  | annotated t ih =>
      obtain ⟨u, rfl, hsame⟩ := same_annotated_iff.mp h
      exact same_annotated_iff.mpr ⟨t, rfl, ih hsame⟩
  | initOnly mark t =>
      obtain ⟨u, rfl⟩ := same_initOnly_iff.mp h
      exact same_initOnly_iff.mpr ⟨t, rfl⟩
  | value v =>
      obtain ⟨u, rfl, hshape⟩ := same_value_iff.mp h
      exact same_value_iff.mpr ⟨v, rfl, hshape.symm⟩

theorem same_trans (h : Same a b) (h' : Same b c) : Same a c := by
  induction a using parts generalizing b c with
  | cls | special | generic | forward | ellipsis => rwa [(same_plain_iff rfl).mp h] at h'
  | applied head args ih =>
      obtain ⟨bs, rfl, hargs⟩ := same_applied_iff.mp h
      obtain ⟨cs, rfl, hargs'⟩ := same_applied_iff.mp h'
      refine same_applied_iff.mpr ⟨cs, rfl, ?_⟩
      clear h h'
      induction hargs generalizing cs with
      | nil => exact hargs'
      | cons hab _ further =>
          rw [List.forall_mem_cons] at ih
          cases hargs' with
          | cons hbc hrest => exact .cons (ih.1 hab hbc) (further ih.2 _ hrest)
  | union style members ih =>
      obtain ⟨style', bs, rfl, hmatch⟩ := same_union_iff.mp h
      obtain ⟨style'', cs, rfl, hmatch'⟩ := same_union_iff.mp h'
      exact same_union_iff.mpr ⟨style'', cs, rfl, hmatch.trans (fun a ha _ _ => ih a ha) hmatch'⟩
  | literal values =>
      obtain ⟨ys, rfl, hmatch⟩ := same_literal_iff.mp h
      obtain ⟨zs, rfl, hmatch'⟩ := same_literal_iff.mp h'
      refine same_literal_iff.mpr ⟨zs, rfl, hmatch.trans ?_ hmatch'⟩
      exact fun _ _ _ _ hxy hyz => ⟨hxy.1.trans hyz.1, hxy.2.trans hyz.2⟩
  | annotated t ih =>
      obtain ⟨u, rfl, hsame⟩ := same_annotated_iff.mp h
      obtain ⟨v, rfl, hsame'⟩ := same_annotated_iff.mp h'
      exact same_annotated_iff.mpr ⟨v, rfl, ih hsame hsame'⟩
  | initOnly mark t =>
      obtain ⟨u, rfl⟩ := same_initOnly_iff.mp h
      exact same_initOnly_iff.mpr (same_initOnly_iff.mp h')
  | value v =>
      obtain ⟨u, rfl, hshape⟩ := same_value_iff.mp h
      obtain ⟨x, rfl, hshape'⟩ := same_value_iff.mp h'
      exact same_value_iff.mpr ⟨x, rfl, hshape.trans hshape'⟩

/-! ## The absent value -/

theorem eq_noneType_of_isNoneType (h : a.isNoneType = true) : a = noneType := by
  unfold isNoneType at h
  split at h
  · rfl
  · cases h

/-- The absent value has no other type. -/
theorem isNoneType_of_same (h : Same a b) : b.isNoneType = a.isNoneType := by
  cases a with
  | cls c => rw [(same_plain_iff rfl).mp h]
  | _ =>
      cases b with
      | cls c => cases (same_plain_iff rfl).mp (same_symm h)
      | _ => rfl

end Memberwise.TypeExpr
