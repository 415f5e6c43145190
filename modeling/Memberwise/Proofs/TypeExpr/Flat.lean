import Memberwise.Proofs.Fallible
import Memberwise.Proofs.KeyedList
import Memberwise.Proofs.TypeExpr.Optional
import Memberwise.TypeExpr.Resolve

/-! # Flat unions

A union is built of types that are no unions themselves, each named once, and so it stays when notes
are dropped.  Of such a union the normal spelling depends on the type that is made optional alone,
and hints are always built so.
-/

namespace Memberwise.TypeExpr

variable {t u : TypeExpr}

def isUnion : TypeExpr → Bool
  | .union .. => true
  | _ => false

/-- Whether a type is no union of unions, and no union with a repetition. -/
def IsFlat : TypeExpr → Prop
  | .union _ members =>
    (∀ member ∈ members, member.isUnion = false) ∧ members.Pairwise fun a b => ¬ Same a b
  | _ => True

theorem isFlat_of_not_isUnion (h : t.isUnion = false) : t.IsFlat := by
  cases t with
  | union => cases h
  | _ => trivial

theorem not_isUnion_of_mem_unionMembers (ht : t.IsFlat) (hu : u ∈ t.unionMembers) :
    u.isUnion = false := by
  cases t with
  | union style members => exact ht.1 u hu
  | _ =>
      rw [List.mem_singleton.mp hu]
      rfl

/-! ## Building unions -/

theorem mem_of_mem_dedup {l : List TypeExpr} (h : t ∈ dedup l) : t ∈ l := by
  have hstart : ∀ (rest known : List TypeExpr), t ∈ rest.foldl
      (fun kept t => if kept.any (same · t) then kept else kept ++ [t]) known →
      t ∈ known ∨ t ∈ rest := by
    intro rest
    induction rest with
    | nil =>
        intro known hmem
        exact .inl hmem
    | cons a rest ih =>
        intro known hmem
        rw [List.foldl_cons] at hmem
        rcases ih _ hmem with hkept | hrest
        · split at hkept
          · exact .inl hkept
          · rcases List.mem_append.mp hkept with hknown | hlast
            · exact .inl hknown
            · rw [List.mem_singleton.mp hlast]
              exact .inr List.mem_cons_self
        · exact .inr (List.mem_cons_of_mem a hrest)
  rcases hstart l [] h with hnil | hmem
  · cases hnil
  · exact hmem

/-- No type that is kept is the same as one that was kept before. -/
theorem pairwise_dedup (l : List TypeExpr) : (dedup l).Pairwise fun a b => ¬ Same a b := by
  have hstart : ∀ (rest known : List TypeExpr), known.Pairwise (fun a b => ¬ Same a b) →
      (rest.foldl (fun kept t => if kept.any (same · t) then kept else kept ++ [t])
        known).Pairwise fun a b => ¬ Same a b := by
    intro rest
    induction rest with
    | nil =>
        intro known hknown
        exact hknown
    | cons a rest ih =>
        intro known hknown
        rw [List.foldl_cons]
        apply ih
        split
        · exact hknown
        · rename_i hany
          refine List.pairwise_append.mpr ⟨hknown, List.pairwise_singleton _ _, ?_⟩
          intro b hb c hc hsame
          rw [List.mem_singleton.mp hc] at hsame
          exact hany (List.any_eq_true.mpr ⟨b, hb, hsame⟩)
  exact hstart l [] .nil

/-! ## Flat unions under notes -/

/-- Whether a type is flat, and remains so when notes are dropped. -/
inductive Tidy : TypeExpr → Prop
  | single {t : TypeExpr} (hunion : t.isUnion = false) (hnote : ∀ inner, t ≠ .annotated inner) :
      Tidy t
  | annotated {t : TypeExpr} (h : Tidy t) : Tidy (.annotated t)
  | union {style : UnionStyle} {members : List TypeExpr}
      (hsingle : ∀ member ∈ members, member.isUnion = false)
      (hdistinct : members.Pairwise fun a b => ¬ Same a b)
      (h : ∀ member ∈ members, Tidy member) : Tidy (.union style members)

theorem Tidy.isFlat (h : Tidy t) : t.IsFlat := by
  cases h with
  | single hunion => exact isFlat_of_not_isUnion hunion
  | annotated => trivial
  | union hsingle hdistinct => exact ⟨hsingle, hdistinct⟩

theorem Tidy.withoutTopNotes (h : Tidy t) : Tidy t.withoutTopNotes := by
  induction h with
  | @single t hunion hnote =>
      cases t with
      | annotated inner => exact absurd rfl (hnote inner)
      | _ => exact .single hunion hnote
  | annotated _ ih => exact ih
  | union hsingle hdistinct h => exact .union hsingle hdistinct h

theorem Tidy.unionMembers (h : Tidy t) (hu : u ∈ t.unionMembers) : Tidy u := by
  cases h with
  | union _ _ h => exact h u hu
  | annotated h =>
      rw [List.mem_singleton.mp hu]
      exact .annotated h
  | single hunion hnote =>
      cases t with
      | union => cases hunion
      | _ =>
          rw [List.mem_singleton.mp hu]
          exact .single hunion hnote

theorem tidy_unionOf {types : List TypeExpr} (h : ∀ t ∈ types, Tidy t) (style : UnionStyle) :
    Tidy (unionOf style types) := by
  have hmembers : ∀ member ∈ dedup (types.flatMap unionMembers),
      member.isUnion = false ∧ Tidy member := by
    intro member hmember
    obtain ⟨t, ht, hmem⟩ := List.mem_flatMap.mp (mem_of_mem_dedup hmember)
    exact ⟨not_isUnion_of_mem_unionMembers (h t ht).isFlat hmem, (h t ht).unionMembers hmem⟩
  unfold unionOf
  split
  · rename_i only honly
    exact (hmembers only (honly ▸ List.mem_singleton_self only)).2
  · exact .union (fun member hmember => (hmembers member hmember).1) (pairwise_dedup _)
      fun member hmember => (hmembers member hmember).2

theorem tidy_bar (ht : Tidy t) (hu : Tidy u) : Tidy (bar t u) :=
  tidy_unionOf (by simp [ht, hu]) _

theorem tidy_unionIn {members : List TypeExpr} (h : ∀ t ∈ members, Tidy t) (style : UnionStyle) :
    Tidy (unionIn style members) := by
  unfold unionIn
  split
  · rename_i first rest
    exact foldl_invariant_of_mem Tidy
      (fun s a ha hs => tidy_bar hs (h a (List.mem_cons_of_mem first ha))) (h first List.mem_cons_self)
  · exact tidy_unionOf h _

/-! ## Hints -/

theorem stripAll_eq_map (l : List TypeExpr) : stripAll l = l.map stripNotes := by
  induction l with
  | nil => rfl
  | cons t rest ih => rw [stripAll, ih, List.map_cons]

theorem tidy_stripNotes (t : TypeExpr) : Tidy t.stripNotes := by
  induction t using parts with
  | union style members ih =>
      rw [stripNotes, stripAll_eq_map]
      apply tidy_unionIn
      intro t ht
      obtain ⟨member, hmember, rfl⟩ := List.mem_map.mp ht
      exact ih member hmember
  | annotated t ih =>
      rw [stripNotes]
      exact ih
  | applied head args ih =>
      unfold stripNotes
      split
      · rename_i h
        cases h
      · rename_i t h
        cases h
        exact ih t List.mem_cons_self
      · rename_i t h
        cases h
        exact ih t List.mem_cons_self
      · rename_i h
        cases h
        exact .single rfl nofun
      · rename_i h
        cases h
      · exact .single rfl nofun
  | _ => exact .single rfl nofun

theorem isFlat_resolve {classes : Classes} (h : t.resolve classes = .ok u) : u.IsFlat := by
  obtain ⟨resolved, -, rfl⟩ := map_eq_ok.mp h
  exact (tidy_stripNotes resolved).isFlat

/-! ## Optional types -/

theorem not_same_noneType (h : t.isNoneType = false) : ¬ Same t noneType := by
  intro hsame
  have hnone : t = noneType := (same_plain_iff rfl).mp (same_symm hsame)
  rw [hnone] at h
  cases h

/-- The union of a type with the absent value has just these two members. -/
theorem unionOf_pair (style : UnionStyle) (hu : t.isUnion = false) (hn : t.isNoneType = false) :
    unionOf style [t, noneType] = .union style [t, noneType] := by
  have hmembers : [t, noneType].flatMap unionMembers = [t, noneType] := by
    cases t with
    | union => cases hu
    | _ => rfl
  have hne : same t noneType = false := Bool.eq_false_iff.mpr (not_same_noneType hn)
  have hdedup : dedup [t, noneType] = [t, noneType] := by
    simp [dedup, hne]
  unfold unionOf
  rw [hmembers, hdedup]

theorem optional_of_not_isUnion (hu : t.isUnion = false) (hn : t.isNoneType = false) :
    optional t = .union .named [t, noneType] := unionOf_pair .named hu hn

/-- How a type is made of the type that unwrapping leaves of it. -/
inductive Unwraps (t u : TypeExpr) : Prop
  | plain (same : u = t) (wrapped : t.isWrapped = false) (normal : t.normalize = t)
  | option (single : u.isUnion = false) (present : u.isNoneType = false)
      (optional : t.isOptional = true) (wrapped : t.isWrapped = true)
      (normal : t.normalize = .union .named [u, noneType])

theorem unwraps (h : t.IsFlat) : Unwraps t t.unwrapOptional := by
  cases hw : t.isWrapped with
  | false =>
      have hsame : t.unwrapOptional = t := by
        cases t with
        | union style members =>
            simp only [isWrapped, Bool.and_eq_false_iff, beq_eq_false_iff_ne,
              decide_eq_false_iff_not] at hw
            simp only [unwrapOptional]
            split
            · rename_i inner hinner
              rw [hinner] at hw
              rw [if_neg (by simpa using hw)]
            · rfl
        | _ => rfl
      exact .plain hsame hw (by simp [normalize, hw])
  | true =>
      cases t with
      | union style members =>
          simp only [isWrapped, Bool.and_eq_true, beq_iff_eq, decide_eq_true_eq] at hw
          obtain ⟨hone, hmany⟩ := hw
          obtain ⟨u, hu⟩ := List.length_eq_one_iff.mp hone
          have hmem : u ∈ members.filter fun member => !member.isNoneType := by
            rw [hu]
            exact List.mem_singleton_self u
          obtain ⟨hin, hpresent⟩ := List.mem_filter.mp hmem
          have hsingle : u.isUnion = false := h.1 u hin
          have hn : u.isNoneType = false := by simpa using hpresent
          have hunwrap : (union style members).unwrapOptional = u := by
            simp only [unwrapOptional, hu, if_pos hmany]
          have hwrapped : (union style members).isWrapped = true := by
            simp [isWrapped, hone, hmany]
          have hoptional : (union style members).isOptional = true := by
            by_contra hnot
            have hall := filter_of_not_isOptional (Bool.eq_false_iff.mpr hnot)
            rw [hall] at hone
            omega
          rw [hunwrap]
          refine .option hsingle hn hoptional hwrapped ?_
          rw [normalize, if_pos hwrapped, hunwrap]
          exact optional_of_not_isUnion hsingle hn
      | _ => cases hw

theorem unwrapOptional_of_not_isUnion (h : t.isUnion = false) : t.unwrapOptional = t := by
  cases t with
  | union => cases h
  | _ => rfl

theorem unwrapOptional_unwrapOptional (h : t.IsFlat) :
    t.unwrapOptional.unwrapOptional = t.unwrapOptional := by
  cases unwraps h with
  | plain hsame => rw [hsame, hsame]
  | option hsingle => exact unwrapOptional_of_not_isUnion hsingle

/-- The normal spelling of an optional type unwraps to the same type. -/
theorem unwrapOptional_pair {style : UnionStyle} (hn : u.isNoneType = false) :
    (union style [u, noneType]).unwrapOptional = u := by
  have hnone : noneType.isNoneType = true := rfl
  have hfilter : [u, noneType].filter (fun member => !member.isNoneType) = [u] := by
    simp [hn, hnone]
  simp only [unwrapOptional, hfilter]
  rfl

theorem isFlat_pair {style : UnionStyle} (hu : u.isUnion = false) (hn : u.isNoneType = false) :
    (union style [u, noneType]).IsFlat := by
  refine ⟨?_, by simpa using not_same_noneType hn⟩
  intro member hmember
  rcases List.mem_cons.mp hmember with rfl | hmember
  · exact hu
  · rw [List.mem_singleton.mp hmember]
    rfl

theorem isFlat_normalize (h : t.IsFlat) : t.normalize.IsFlat := by
  cases unwraps h with
  | plain _ _ hnormal =>
      rw [hnormal]
      exact h
  | option hsingle hpresent _ _ hnormal =>
      rw [hnormal]
      exact isFlat_pair hsingle hpresent

theorem unwrapOptional_normalize (h : t.IsFlat) : t.normalize.unwrapOptional = t.unwrapOptional := by
  cases unwraps h with
  | plain _ _ hnormal => rw [hnormal]
  | option _ hpresent _ _ hnormal => rw [hnormal, unwrapOptional_pair hpresent]

theorem normalize_normalize (h : t.IsFlat) : t.normalize.normalize = t.normalize := by
  cases unwraps h with
  | plain _ _ hnormal => rw [hnormal, hnormal]
  | option hsingle hpresent _ _ hnormal =>
      rw [hnormal]
      cases unwraps (isFlat_pair hsingle hpresent) with
      | plain _ _ hsame => exact hsame
      | option _ _ _ _ hagain =>
          rw [hagain, unwrapOptional_pair hpresent]

end Memberwise.TypeExpr
