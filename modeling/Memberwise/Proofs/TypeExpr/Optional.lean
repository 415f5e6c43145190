import Memberwise.Proofs.TypeExpr.Same

/-! # Types without an option

A type that does not allow the absent value is left as it is by unwrapping and by the normal
spelling, and the normal spelling of no other type is a class.
-/

namespace Memberwise.TypeExpr

variable {t : TypeExpr}

/-- No member of a union is dropped if none of them is the absent value. -/
theorem filter_of_not_isOptional {style : UnionStyle} {members : List TypeExpr}
    (h : (union style members).isOptional = false) :
    members.filter (fun member => !member.isNoneType) = members := by
  refine List.filter_eq_self.mpr fun member hmember => ?_
  have hnone := List.any_eq_false.mp h member hmember
  simpa using hnone

theorem isWrapped_of_not_isOptional (h : t.isOptional = false) : t.isWrapped = false := by
  cases t with
  | union style members =>
      simp only [isWrapped, filter_of_not_isOptional h, Bool.and_eq_false_iff, beq_eq_false_iff_ne,
        decide_eq_false_iff_not]
      omega
  | _ => rfl

theorem unwrapOptional_of_not_isOptional (h : t.isOptional = false) : t.unwrapOptional = t := by
  cases t with
  | union style members =>
      simp only [unwrapOptional, filter_of_not_isOptional h]
      split
      · rfl
      · rfl
  | _ => rfl

theorem normalize_of_not_isOptional (h : t.isOptional = false) : t.normalize = t := by
  simp [normalize, isWrapped_of_not_isOptional h]

/-! ## Unions without repetitions -/

theorem exists_same_mem_foldl {l known : List TypeExpr}
    (h : t ∈ l ∨ ∃ kept ∈ known, Same kept t) :
    ∃ kept ∈ l.foldl (fun kept t => if kept.any (same · t) then kept else kept ++ [t]) known,
      Same kept t := by
  induction l generalizing known with
  | nil =>
      rcases h with h | h
      · cases h
      · exact h
  | cons a rest ih =>
      rw [List.foldl_cons]
      refine ih ?_
      rcases h with h | ⟨kept, hkept, hsame⟩
      · rcases List.mem_cons.mp h with rfl | h
        · by_cases hany : known.any (same · t) = true
          · obtain ⟨kept, hkept, hsame⟩ := List.any_eq_true.mp hany
            exact .inr ⟨kept, by rwa [if_pos hany], hsame⟩
          · exact .inr ⟨t, by simp [hany], same_refl t⟩
        · exact .inl h
      · refine .inr ⟨kept, ?_, hsame⟩
        split
        · exact hkept
        · exact List.mem_append_left _ hkept

/-- Of every type in a list one that is the same is kept. -/
theorem exists_same_mem_dedup {l : List TypeExpr} (h : t ∈ l) : ∃ kept ∈ dedup l, Same kept t :=
  exists_same_mem_foldl (.inl h)

/-- A union with the absent value is a class only if it is that of the absent value. -/
theorem optional_eq_cls {c : ClassRef} (h : optional t = .cls c) : c = .builtin .noneType := by
  have hnone : noneType ∈ [t, noneType].flatMap unionMembers := by simp [unionMembers]
  obtain ⟨kept, hkept, hsame⟩ := exists_same_mem_dedup hnone
  have hkind : kept = noneType := ((same_plain_iff rfl).mp (same_symm hsame))
  subst hkind
  unfold optional unionOf at h
  split at h
  · rename_i only honly
    subst h
    rw [honly, List.mem_singleton] at hkept
    exact (cls.inj hkept).symm
  · cases h

/-- Only a class itself has a class for its normal spelling. -/
theorem normalize_eq_cls {c : ClassRef} (h : t.normalize = .cls c) (hc : c ≠ .builtin .noneType) :
    t = .cls c := by
  unfold normalize at h
  split at h
  · exact absurd (optional_eq_cls h) hc
  · exact h

end Memberwise.TypeExpr
