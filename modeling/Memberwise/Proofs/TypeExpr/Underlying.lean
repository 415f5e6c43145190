import Memberwise.Proofs.TypeExpr.Flat

/-! # Types under their options

What an option is put on is the same for types that are the same.  So types may be compared with
their options or without them, and the normal spelling of a type is that type.
-/

namespace Memberwise.TypeExpr

variable {s t u v : TypeExpr}

/-! ## Options of one type -/

/-- Only a union of a type with the absent value is the same as such a union. -/
theorem isWrapped_of_same_pair (ht : t.IsFlat) (hu : u.isNoneType = false)
    (h : Same (.union .named [u, noneType]) t) : t.isWrapped = true := by
  obtain ⟨style, members, rfl, hmatch⟩ := same_union_iff.mp h
  have hpresent : ∀ member ∈ members, member.isNoneType = false → Same u member := by
    intro member hmember hpresent
    obtain ⟨x, hx, hsame⟩ := hmatch.right member hmember
    rcases List.mem_cons.mp hx with rfl | hx
    · exact hsame
    · rw [List.mem_singleton.mp hx] at hsame
      rw [(same_plain_iff rfl).mp hsame] at hpresent
      cases hpresent
  obtain ⟨first, hfirst, hsame⟩ := hmatch.left u List.mem_cons_self
  obtain ⟨absent, habsent, hnone⟩ :=
    hmatch.left noneType (List.mem_cons_of_mem u (List.mem_singleton_self noneType))
  have hfirstPresent : first.isNoneType = false := (isNoneType_of_same hsame).trans hu
  have habsentNone : absent = noneType := (same_plain_iff rfl).mp hnone
  -- All members but the absent value are the same type, and none is repeated.
  have hone : (members.filter fun member => !member.isNoneType) = [first] := by
    have hdistinct : (members.filter fun member => !member.isNoneType).Pairwise
        fun a b => ¬ Same a b := ht.2.filter _
    have hall : ∀ member ∈ members.filter (fun member => !member.isNoneType), Same u member := by
      intro member hmember
      obtain ⟨hin, hkept⟩ := List.mem_filter.mp hmember
      exact hpresent member hin (by simpa using hkept)
    have hin : first ∈ members.filter fun member => !member.isNoneType :=
      List.mem_filter.mpr ⟨hfirst, by simp [hfirstPresent]⟩
    generalize members.filter (fun member => !member.isNoneType) = kept at hdistinct hall hin
    cases kept with
    | nil => cases hin
    | cons a rest =>
        cases rest with
        | nil => rw [List.mem_singleton.mp hin]
        | cons b rest =>
            have hab : ¬ Same a b := List.rel_of_pairwise_cons hdistinct List.mem_cons_self
            have ha : Same u a := hall a List.mem_cons_self
            have hb : Same u b := hall b (List.mem_cons_of_mem a List.mem_cons_self)
            exact absurd (same_trans (same_symm ha) hb) hab
  have hmany : 1 < members.length := by
    have hsub : (members.filter fun member => !member.isNoneType).length < members.length := by
      refine List.length_filter_lt_length_iff_exists.mpr ⟨absent, habsent, ?_⟩
      rw [habsentNone]
      decide
    rw [hone] at hsub
    exact hsub
  simp [isWrapped, hone, hmany]

/-- Options are the same only if they are options of the same type. -/
theorem same_of_same_pair (hu : u.isNoneType = false) {style style' : UnionStyle}
    (h : Same (.union style [u, noneType]) (.union style' [v, noneType])) : Same u v := by
  obtain ⟨_, _, hmembers, hmatch⟩ := same_union_iff.mp h
  cases hmembers
  obtain ⟨member, hmember, hsame⟩ := hmatch.left u List.mem_cons_self
  rcases List.mem_cons.mp hmember with rfl | hmember
  · exact hsame
  · rw [List.mem_singleton.mp hmember] at hsame
    exact absurd hsame (not_same_noneType hu)

/-- The normal spelling of a type is that type. -/
theorem same_normalize (h : t.IsFlat) : Same t.normalize t := by
  cases unwraps h with
  | plain _ _ hnormal =>
      rw [hnormal]
      exact same_refl t
  | option _ hpresent hoptional hwrapped hnormal =>
      rw [hnormal]
      generalize hunwrapped : t.unwrapOptional = u at hpresent
      cases t with
      | union style members =>
          simp only [isWrapped, Bool.and_eq_true, beq_iff_eq, decide_eq_true_eq] at hwrapped
          obtain ⟨only, honly⟩ := List.length_eq_one_iff.mp hwrapped.1
          have hu : only = u := by
            simpa only [unwrapOptional, honly, if_pos hwrapped.2] using hunwrapped
          subst hu
          obtain ⟨absent, habsent, hnone⟩ := List.any_eq_true.mp hoptional
          rw [eq_noneType_of_isNoneType hnone] at habsent
          have hin : only ∈ members :=
            (List.mem_filter.mp (honly ▸ List.mem_singleton_self only)).1
          refine same_union_iff.mpr ⟨style, members, rfl, ?_, ?_⟩
          · intro member hmember
            rcases List.mem_cons.mp hmember with rfl | hmember
            · exact ⟨member, hin, same_refl member⟩
            · rw [List.mem_singleton.mp hmember]
              exact ⟨noneType, habsent, same_refl noneType⟩
          · intro member hmember
            cases hm : member.isNoneType with
            | true =>
                rw [eq_noneType_of_isNoneType hm]
                exact ⟨noneType, List.mem_cons_of_mem only (List.mem_singleton_self _),
                  same_refl noneType⟩
            | false =>
                have hkept : member ∈ members.filter fun member => !member.isNoneType :=
                  List.mem_filter.mpr ⟨hmember, by simp [hm]⟩
                rw [honly, List.mem_singleton] at hkept
                exact ⟨only, List.mem_cons_self, hkept ▸ same_refl member⟩
      | _ => cases hwrapped

/-- Types that are the same are the same under their options. -/
theorem same_unwrapOptional (hs : s.IsFlat) (ht : t.IsFlat) (h : Same s t) :
    Same s.unwrapOptional t.unwrapOptional := by
  have hnormal : Same s.normalize t.normalize :=
    same_trans (same_normalize hs) (same_trans h (same_symm (same_normalize ht)))
  have hplain : ∀ {a b : TypeExpr}, a.IsFlat → b.IsFlat → Same a.normalize b.normalize →
      b.isWrapped = false → a.isWrapped = false := by
    intro a b ha hb hsame hplain
    cases unwraps ha with
    | plain _ hwrapped => exact hwrapped
    | option _ hpresent _ _ hnormal =>
        rw [hnormal] at hsame
        have hwrapped := isWrapped_of_same_pair (isFlat_normalize hb) hpresent hsame
        rw [normalize, hplain] at hwrapped
        rw [if_neg Bool.false_ne_true, hplain] at hwrapped
        cases hwrapped
  cases unwraps hs with
  | plain hsame hwrapped =>
      have hother := hplain ht hs (same_symm hnormal) hwrapped
      cases unwraps ht with
      | plain hsame' =>
          rw [hsame, hsame']
          exact h
      | option _ _ _ hwrapped' =>
          rw [hother] at hwrapped'
          cases hwrapped'
  | option _ hpresent _ hwrapped hnormal₁ =>
      cases unwraps ht with
      | plain _ hwrapped' =>
          rw [hplain hs ht hnormal hwrapped'] at hwrapped
          cases hwrapped
      | option _ _ _ _ hnormal₂ =>
          rw [hnormal₁, hnormal₂] at hnormal
          exact same_of_same_pair hpresent hnormal

end Memberwise.TypeExpr
