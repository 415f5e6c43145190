import Memberwise.Converter
import Memberwise.Proofs.Plan.Direct

/-! # What a rule changes

A rule is found under the keys of its types and under no others.  So a pair of members is resolved
without regard to it, unless their keys are those of the rule and they are not copied directly.
-/

namespace Memberwise

open TypeExpr

namespace RuleKey

variable {a b c : RuleKey}

theorem same_iff : a.same b = true ↔ Same a.source b.source ∧ Same a.target b.target := by
  simp [same]

theorem same_symm (h : a.same b = true) : b.same a = true := by
  obtain ⟨hsource, htarget⟩ := same_iff.mp h
  exact same_iff.mpr ⟨TypeExpr.same_symm hsource, TypeExpr.same_symm htarget⟩

theorem same_trans (h : a.same b = true) (h' : b.same c = true) : a.same c = true := by
  obtain ⟨hsource, htarget⟩ := same_iff.mp h
  obtain ⟨hsource', htarget'⟩ := same_iff.mp h'
  exact same_iff.mpr ⟨TypeExpr.same_trans hsource hsource', TypeExpr.same_trans htarget htarget'⟩

end RuleKey

/-! ## Rules under other keys -/

namespace Registry

variable {Converter : Type} {rules : List (RuleKey × Converter)} {k k' : RuleKey}

/-- The rules with another function for the keys that are the same as a given one. -/
def replaced (k : RuleKey) (f : Converter) (rules : List (RuleKey × Converter)) :
    List (RuleKey × Converter) :=
  rules.map fun rule => if rule.1.same k then (rule.1, f) else rule

theorem find?_replaced_of_same (f : Converter) (h : k.same k' = true)
    (hany : (rules.any fun rule => rule.1.same k) = true) :
    ((replaced k f rules).find? fun rule => rule.1.same k').map (·.2) = some f := by
  induction rules with
  | nil => cases hany
  | cons rule rest ih =>
      unfold replaced at ih ⊢
      rw [List.map_cons, List.find?_cons]
      cases hrule : rule.1.same k with
      | true =>
          have hfound : rule.1.same k' = true := RuleKey.same_trans hrule h
          simp [hfound]
      | false =>
          have hpassed : rule.1.same k' = false := by
            refine Bool.eq_false_iff.mpr fun hsame => ?_
            rw [RuleKey.same_trans hsame (RuleKey.same_symm h)] at hrule
            cases hrule
          have hrest : (rest.any fun rule => rule.1.same k) = true := by
            simpa [hrule] using hany
          simpa [hpassed] using ih hrest

theorem find?_replaced_of_not_same (f : Converter) (h : k.same k' = false) :
    ((replaced k f rules).find? fun rule => rule.1.same k').map (·.2) =
      (rules.find? fun rule => rule.1.same k').map (·.2) := by
  induction rules with
  | nil => rfl
  | cons rule rest ih =>
      unfold replaced at ih ⊢
      rw [List.map_cons, List.find?_cons, List.find?_cons]
      cases hrule : rule.1.same k with
      | true =>
          have hpassed : rule.1.same k' = false := by
            refine Bool.eq_false_iff.mpr fun hsame => ?_
            rw [RuleKey.same_trans (RuleKey.same_symm hrule) hsame] at h
            cases h
          simpa [hpassed] using ih
      | false =>
          cases hfound : rule.1.same k' with
          | true => simp [hfound]
          | false => simpa [hfound] using ih

/-- A rule is found under every key that is the same as its own, and hides nothing else. -/
theorem find?_insert (r : Registry Converter) (k k' : RuleKey) (f : Converter) :
    (r.insert k f).find? k' = if k.same k' = true then some f else r.find? k' := by
  unfold insert find?
  cases hany : r.rules.any fun rule => rule.1.same k with
  | true =>
      rw [if_pos rfl]
      split
      · rename_i h
        exact find?_replaced_of_same f h hany
      · rename_i h
        exact find?_replaced_of_not_same f (Bool.eq_false_iff.mpr h)
  | false =>
      rw [if_neg Bool.false_ne_true, List.find?_append]
      split
      · rename_i h
        have hnone : (r.rules.find? fun rule => rule.1.same k') = none := by
          refine List.find?_eq_none.mpr fun rule hrule hsame => ?_
          have hother := List.any_eq_false.mp hany rule hrule
          exact hother (RuleKey.same_trans hsame (RuleKey.same_symm h))
        simp [hnone, h]
      · rename_i h
        simp [h]

theorem registerConverter_eq_ok {classes : Classes} {r r' : Registry Memberwise.Converter}
    {A B : TypeExpr} {f : Memberwise.Converter}
    (h : r.registerConverter classes A B f = .ok r') : r' = r.insert (.of classes A B) f := by
  unfold registerConverter at h
  split at h
  · cases h
  · split at h
    · cases h
    · cases h
      rfl

theorem registerConverter_of_usable {classes : Classes} {r : Registry Memberwise.Converter}
    {A B : TypeExpr} {f : Memberwise.Converter} (hcall : f.isCallable classes = true)
    (husable : (RuleKey.of classes A B).isUsable classes = true) :
    r.registerConverter classes A B f = .ok (r.register classes A B f) := by
  simp [registerConverter, hcall, husable]

end Registry

namespace Resolver

variable {Converter : Type} {classes : Classes} {r r' : Registry Converter} {m n : Member}
  {s t : TypeExpr}

/-! ## Keys of members -/

/-- The keys of two members are looked up as they are. -/
theorem of_keyType (hm : Member.Describes classes s m) (hs : s.IsFlat)
    (hn : Member.Describes classes t n) (ht : t.IsFlat) :
    RuleKey.of classes (m.keyType classes) (n.keyType classes) =
      ⟨m.keyType classes, n.keyType classes⟩ := by
  rw [RuleKey.of, keyType_of_describes hm hs, keyType_of_describes hn ht,
    Classes.keyType_keyType classes hs, Classes.keyType_keyType classes ht]

/-- The pair of the keys of two members. -/
abbrev pairKey (classes : Classes) (m n : Member) : RuleKey :=
  ⟨m.keyType classes, n.keyType classes⟩

/-- What is resolved depends on the rule under the key of the pair alone. -/
theorem resolve_congr
    (h : isDirect classes m n = false →
      r'.find? (.of classes (m.keyType classes) (n.keyType classes)) =
        r.find? (.of classes (m.keyType classes) (n.keyType classes))) :
    resolve classes r' m n = resolve classes r m n := by
  cases hdirect : isDirect classes m n with
  | true =>
      unfold isDirect at hdirect
      unfold resolve resolveMismatch
      by_cases hk : m.isValueKind = true
      · by_cases hn : m.isNullable = n.isNullable
        · simp only [hk, hn, bne_self_eq_false, Bool.and_false, Bool.false_eq_true,
            if_false] at hdirect
          simp [hk, hn, hdirect]
        · have hne : (m.isNullable != n.isNullable) = true := bne_iff_ne.mpr hn
          simp only [hk, hne, Bool.and_self, if_true] at hdirect
          simp [hk, hn, hdirect]
      · simp only [hk, Bool.false_and, Bool.false_eq_true, if_false] at hdirect
        simp [hk, hdirect]
  | false =>
      have hconverts : ∀ strategy, resolveConversion classes r' m n strategy =
          resolveConversion classes r m n strategy := by
        intro strategy
        unfold resolveConversion
        dsimp only
        rw [h hdirect]
      unfold resolve resolveMismatch
      simp only [hconverts]

/-- A pair that is not copied directly is given the rule of its key, if it can be looked up. -/
theorem resolve_of_rule {f : Converter} (hdirect : isDirect classes m n = false)
    (husable : (RuleKey.of classes (m.keyType classes) (n.keyType classes)).isUsable classes = true)
    (hrule : r.find? (.of classes (m.keyType classes) (n.keyType classes)) = some f) :
    ∃ strategy, resolve classes r m n = decide m n strategy (.custom f) := by
  obtain ⟨strategy, hresolve⟩ := resolve_of_not_direct r hdirect
  refine ⟨strategy, ?_⟩
  rw [hresolve]
  simp only [resolveConversion, husable, Bool.not_true, Bool.false_eq_true, if_false, hrule]

theorem resolve_eq_of_unusable (r : Registry Converter) (h : Unusable classes m n) :
    resolve classes r m n = ⟨.error .typeMismatch, []⟩ := by
  obtain ⟨strategy, hresolve⟩ := resolve_of_not_direct r h.1
  rw [hresolve]
  simp only [resolveConversion, h.2, Bool.not_false, if_true]

/-! ## One rule more -/

section Registration

variable {r r' : Registry Memberwise.Converter} {A B : TypeExpr} {f : Memberwise.Converter}

theorem resolve_of_other_key (hr : r.registerConverter classes A B f = .ok r')
    (hm : Member.Describes classes s m) (hs : s.IsFlat) (hn : Member.Describes classes t n)
    (ht : t.IsFlat)
    (h : isDirect classes m n = false → (pairKey classes m n).same (.of classes A B) = false) :
    resolve classes r' m n = resolve classes r m n := by
  apply resolve_congr
  intro hdirect
  rw [of_keyType hm hs hn ht, Registry.registerConverter_eq_ok hr, Registry.find?_insert]
  refine if_neg fun hsame => ?_
  rw [RuleKey.same_symm hsame] at h
  cases h hdirect

/-- A rule changes nothing but what is made of pairs that have its key and are not copied directly.
Such a pair is given the function of the rule, whatever came of it before, unless its types cannot
be looked up at all. -/
theorem resolve_register (hr : r.registerConverter classes A B f = .ok r')
    (hm : Member.Describes classes s m) (hs : s.IsFlat) (hn : Member.Describes classes t n)
    (ht : t.IsFlat) :
    (((pairKey classes m n).same (.of classes A B) && !isDirect classes m n) = false →
      resolve classes r' m n = resolve classes r m n) ∧
    (((pairKey classes m n).same (.of classes A B) && !isDirect classes m n) = true →
      if (pairKey classes m n).isUsable classes = true then
        ∃ strategy, resolve classes r' m n = decide m n strategy (.custom f)
      else (resolve classes r' m n).outcome = .error .typeMismatch ∧
        resolve classes r' m n = resolve classes r m n) ∧
    ((pairKey classes m n).same (.of classes B A) = true →
      resolve classes r' m n = resolve classes r m n) ∧
    ∀ c d, c ≠ d →
      (classes.keyType A = .cls c ∧ m.keyType classes = .cls d ∨
        classes.keyType B = .cls c ∧ n.keyType classes = .cls d) →
      resolve classes r' m n = resolve classes r m n := by
  have hother := resolve_of_other_key hr hm hs hn ht
  refine ⟨?_, ?_, ?_, ?_⟩
  · intro h
    apply hother
    intro hdirect
    simpa [hdirect] using h
  · intro h
    simp only [Bool.and_eq_true, Bool.not_eq_true'] at h
    obtain ⟨hsame, hdirect⟩ := h
    split
    · rename_i husable
      apply resolve_of_rule hdirect
      · rw [of_keyType hm hs hn ht]
        exact husable
      · rw [of_keyType hm hs hn ht, Registry.registerConverter_eq_ok hr, Registry.find?_insert,
          if_pos (RuleKey.same_symm hsame)]
    · rename_i husable
      have hunusable : Unusable classes m n := by
        refine ⟨hdirect, ?_⟩
        rw [of_keyType hm hs hn ht]
        exact Bool.eq_false_iff.mpr husable
      rw [resolve_eq_of_unusable r' hunusable, resolve_eq_of_unusable r hunusable]
      exact ⟨rfl, rfl⟩
  · intro h
    apply hother
    intro hdirect
    refine Bool.eq_false_iff.mpr fun hsame => ?_
    -- A pair that has the key and the reversed key has one type on both sides.
    obtain ⟨hmB, hnA⟩ := RuleKey.same_iff.mp h
    obtain ⟨hmA, hnB⟩ := RuleKey.same_iff.mp hsame
    have hkeys : Same (m.keyType classes) (n.keyType classes) :=
      TypeExpr.same_trans hmA (TypeExpr.same_symm hnA)
    rw [isDirect_of_same hm hs hn ht hkeys] at hdirect
    cases hdirect
  · intro c d hne hcls
    apply hother
    intro _
    refine Bool.eq_false_iff.mpr fun hsame => ?_
    obtain ⟨hsource, htarget⟩ := RuleKey.same_iff.mp hsame
    rcases hcls with ⟨hA, hd⟩ | ⟨hB, hd⟩
    · have hsource : Same (.cls d) (.cls c) := by
        rw [← hA, ← hd]
        exact hsource
      have heq := (same_plain_iff rfl).mp hsource
      exact hne (TypeExpr.cls.inj heq)
    · have htarget : Same (.cls d) (.cls c) := by
        rw [← hB, ← hd]
        exact htarget
      have heq := (same_plain_iff rfl).mp htarget
      exact hne (TypeExpr.cls.inj heq)

/-- Items of any kind, or none. -/
def items : Member := .describe [] "items" (.union .named [.builtin .list, .noneType]) true true

def labels : Member :=
  .describe [] "labels" (.applied (.builtin .list) [.builtin .str]) true true

/-- Items are passed over where labels are to be made of them, until there is a rule. -/
theorem resolve_register_items : ∃ r' : Registry Memberwise.Converter,
    Registry.empty.registerConverter [] (.builtin .list)
      (.applied (.builtin .list) [.builtin .str]) (.function .identity .unstated) = .ok r' ∧
    (resolve [] (.empty : Registry Memberwise.Converter) items labels).outcome = .ok none ∧
    (∃ strategy, resolve [] r' items labels =
      decide items labels strategy (.custom (.function .identity .unstated))) ∧
    resolve [] r' labels items = resolve [] .empty labels items := by
  have hr : Registry.empty.registerConverter [] (.builtin .list)
      (.applied (.builtin .list) [.builtin .str]) (.function .identity .unstated) =
      .ok (Registry.empty.register [] (.builtin .list)
        (.applied (.builtin .list) [.builtin .str]) (.function .identity .unstated)) :=
    Registry.registerConverter_of_usable rfl (by decide +kernel)
  have hitems : (union .named [.builtin .list, .noneType]).IsFlat := isFlat_pair rfl rfl
  have hgiven := (resolve_register (m := items) (n := labels) hr ⟨_, _, _, rfl⟩ hitems
    ⟨_, _, _, rfl⟩ trivial).2.1 (by decide +kernel)
  have hreversed := (resolve_register (m := labels) (n := items) hr ⟨_, _, _, rfl⟩ trivial
    ⟨_, _, _, rfl⟩ hitems).2.2.1 (by decide +kernel)
  rw [if_pos (by decide +kernel)] at hgiven
  have hpassed : ((resolve [] (.empty : Registry Memberwise.Converter) items
      labels).outcome.toOption.map Option.isNone) = some true := by decide +kernel
  obtain ⟨assignment, houtcome, hnone⟩ := Option.map_eq_some_iff.mp hpassed
  rw [Option.isNone_iff_eq_none.mp hnone] at houtcome
  exact ⟨_, hr, toOption_eq_some.mp houtcome, hgiven, hreversed⟩

/-- A member whose type is the set of one number, as it may stand in an annotation. -/
def singleton : Member :=
  .describe [] "label" (.value (.seq none .set [.atom (.int 1)])) true true

def label : Member := .describe [] "label" (.builtin .str) true true

/-- A set is equal to a frozen set, so a pair can have the key of a rule and not be looked up. -/
theorem resolve_register_unhashable : ∃ r' : Registry Memberwise.Converter,
    Registry.empty.registerConverter [] (.value (.seq none .frozenset [.atom (.int 1)]))
      (.builtin .str) (.function .identity .unstated) = .ok r' ∧
    (pairKey [] singleton label).same
      (.of [] (.value (.seq none .frozenset [.atom (.int 1)])) (.builtin .str)) = true ∧
    isDirect [] singleton label = false ∧
    ∀ strategy, resolve [] r' singleton label ≠
      decide singleton label strategy (.custom (.function .identity .unstated)) := by
  refine ⟨_, Registry.registerConverter_of_usable rfl (by decide +kernel), by decide +kernel,
    by decide +kernel, ?_⟩
  intro strategy h
  have hunusable : Unusable [] singleton label := ⟨by decide +kernel, by decide +kernel⟩
  rw [resolve_eq_of_unusable _ hunusable] at h
  cases h

end Registration

end Resolver

end Memberwise
