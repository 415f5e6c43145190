import Memberwise.Proofs.Plan.Interference

/-! # What comes before the rules

Whether a value is copied, or an option taken off it, is decided by the types of the two members
alone.  Only where the types differ without their options does the outcome depend on what has been
registered, and there some rule would change it, unless a type cannot be looked up.
-/

namespace Memberwise.Resolver

open TypeExpr

variable {classes : Classes} {m n : Member} {s t : TypeExpr}
  {r r' : Registry Memberwise.Converter}

/-- Whether the one member may be absent where the other one may not. -/
def LosesOption (m n : Member) : Prop := m.isNullable = true ∧ n.isNullable = false

theorem isValueKind_of_isNullable (hm : Member.Describes classes s m) (h : m.isNullable = true) :
    m.isValueKind = true := by
  obtain ⟨name, readable, writable, rfl⟩ := hm
  exact (Bool.and_eq_true_iff.mp h).1

theorem directOperation_of_losesOption (hm : Member.Describes classes s m) (h : LosesOption m n) :
    (directOperation classes m n : Operation Memberwise.Converter) =
      .unwrapOr (classes.defaultValue n.declared) := by
  unfold directOperation
  rw [isValueKind_of_isNullable hm h.1, h.1, h.2]
  rfl

theorem directOperation_of_not_losesOption (h : ¬ LosesOption m n) :
    (directOperation classes m n : Operation Memberwise.Converter) = .assign := by
  unfold directOperation
  split
  · rename_i hall
    simp only [Bool.and_eq_true, Bool.not_eq_true'] at hall
    exact absurd ⟨hall.1.2, hall.2⟩ h
  · rfl

/-! ## Operations of direct pairs -/

section Operations

variable (hm : Member.Describes classes s m) (hs : s.IsFlat) (hn : Member.Describes classes t n)
  (ht : t.IsFlat)

include hm hs hn ht

/-- A copy, with or without a default for the absent value, is chosen for direct pairs only. -/
theorem same_of_directOperation {a : Assignment Memberwise.Converter}
    (h : (resolve classes r m n).outcome = .ok (some a))
    (ha : a.operation = .assign ∨ ∃ default, a.operation = .unwrapOr default) :
    Same m.underlying n.underlying ∧ a.operation = directOperation classes m n := by
  obtain ⟨-, -, hchooses⟩ := chooses_of_resolve h
  generalize a.operation = operation at hchooses ha
  cases hchooses with
  | direct hdirect => exact ⟨(isDirect_iff hm hs hn ht).mp hdirect, rfl⟩
  | custom | copy | convert =>
      rcases ha with ha | ⟨default, ha⟩ <;> cases ha

theorem resolve_of_same (h : Same m.underlying n.underlying) : ∃ strategy,
    (resolve classes r m n).outcome =
      .ok (some ⟨m, n, strategy, directOperation classes m n⟩) := by
  obtain ⟨strategy, hresolve⟩ := resolve_eq_of_direct r ((isDirect_iff hm hs hn ht).mpr h)
  exact ⟨strategy, by rw [hresolve, Resolver.decide]⟩

theorem resolve_assign_iff :
    (∃ strategy, (resolve classes r m n).outcome = .ok (some ⟨m, n, strategy, .assign⟩)) ↔
      Same m.underlying n.underlying ∧ ¬ LosesOption m n := by
  constructor
  · rintro ⟨strategy, hresolve⟩
    obtain ⟨hsame, hoperation⟩ := same_of_directOperation hm hs hn ht hresolve (.inl rfl)
    refine ⟨hsame, fun hloses => ?_⟩
    rw [directOperation_of_losesOption hm hloses] at hoperation
    cases hoperation
  · rintro ⟨hsame, hkeeps⟩
    rw [← directOperation_of_not_losesOption hkeeps]
    exact resolve_of_same hm hs hn ht hsame

theorem resolve_unwrapOr_iff :
    (∃ strategy default, (resolve classes r m n).outcome =
        .ok (some ⟨m, n, strategy, .unwrapOr default⟩)) ↔
      Same m.underlying n.underlying ∧ LosesOption m n := by
  constructor
  · rintro ⟨strategy, default, hresolve⟩
    obtain ⟨hsame, hoperation⟩ := same_of_directOperation hm hs hn ht hresolve (.inr ⟨default, rfl⟩)
    refine ⟨hsame, ?_⟩
    by_contra hkeeps
    rw [directOperation_of_not_losesOption hkeeps] at hoperation
    cases hoperation
  · rintro ⟨hsame, hloses⟩
    obtain ⟨strategy, hresolve⟩ := resolve_of_same (r := r) hm hs hn ht hsame
    rw [directOperation_of_losesOption hm hloses] at hresolve
    exact ⟨strategy, _, hresolve⟩

/-! ## Pairs that depend on rules -/

theorem resolve_of_registered {f : Memberwise.Converter} (hdiffers : ¬ Same m.underlying n.underlying)
    (husable : (pairKey classes m n).isUsable classes = true)
    (hr : r.registerConverter classes (m.keyType classes) (n.keyType classes) f = .ok r') :
    ∃ strategy, (resolve classes r' m n).outcome = .ok (some ⟨m, n, strategy, .custom f⟩) := by
  have hdirect : isDirect classes m n = false :=
    Bool.eq_false_iff.mpr fun hdirect => hdiffers ((isDirect_iff hm hs hn ht).mp hdirect)
  have hkey := of_keyType hm hs hn ht
  have hfound : r'.find? (.of classes (m.keyType classes) (n.keyType classes)) = some f := by
    rw [Registry.registerConverter_eq_ok hr, Registry.find?_insert, if_pos]
    rw [hkey]
    exact RuleKey.same_iff.mpr ⟨same_refl _, same_refl _⟩
  obtain ⟨strategy, hresolve⟩ := resolve_of_rule hdirect (hkey ▸ husable) hfound
  exact ⟨strategy, by rw [hresolve, Resolver.decide]⟩

/-- A pair that is not direct has another outcome under some further rule, just if its types can be
looked up. -/
theorem exists_rule_iff :
    (∃ A B f r', r.registerConverter classes A B f = .ok r' ∧
        (resolve classes r' m n).outcome ≠ (resolve classes r m n).outcome) ↔
      ¬ Same m.underlying n.underlying ∧ (pairKey classes m n).isUsable classes = true := by
  have hkey := of_keyType hm hs hn ht
  constructor
  · rintro ⟨A, B, f, r', -, hchanges⟩
    constructor
    · intro hsame
      refine hchanges (congrArg Resolution.outcome (resolve_congr fun hdirect => ?_))
      rw [(isDirect_iff hm hs hn ht).mpr hsame] at hdirect
      cases hdirect
    · by_contra husable
      refine hchanges (congrArg Resolution.outcome ?_)
      cases hdirect : isDirect classes m n with
      | true =>
          refine resolve_congr fun hconverts => ?_
          rw [hdirect] at hconverts
          cases hconverts
      | false =>
          have hunusable : Unusable classes m n :=
            ⟨hdirect, by rw [hkey]; exact Bool.eq_false_iff.mpr husable⟩
          rw [resolve_eq_of_unusable r' hunusable, resolve_eq_of_unusable r hunusable]
  · rintro ⟨hdiffers, husable⟩
    have hregisters : ∀ f : Function, ∃ r', r.registerConverter classes (m.keyType classes)
        (n.keyType classes) (.function f .unstated) = .ok r' := fun f =>
      ⟨_, Registry.registerConverter_of_usable rfl (hkey ▸ husable)⟩
    obtain ⟨r₁, hr₁⟩ := hregisters .identity
    obtain ⟨r₂, hr₂⟩ := hregisters .text
    obtain ⟨strategy₁, hresolve₁⟩ := resolve_of_registered hm hs hn ht hdiffers husable hr₁
    obtain ⟨strategy₂, hresolve₂⟩ := resolve_of_registered hm hs hn ht hdiffers husable hr₂
    -- Two different functions cannot both be what the pair has been given before.
    by_cases hbefore : (resolve classes r₁ m n).outcome = (resolve classes r m n).outcome
    · refine ⟨_, _, _, r₂, hr₂, fun hagain => ?_⟩
      rw [← hbefore, hresolve₁, hresolve₂] at hagain
      cases hagain
    · exact ⟨_, _, _, r₁, hr₁, hbefore⟩

/-- A value is copied just if the types are the same without their options and none is lost, and an
option is taken off just if the types are the same but for it.  In all other cases, and in no
others, the outcome depends on the rules: some further rule changes it, and a rule for the pair is
followed.  If the types of the pair cannot be looked up, though, it fails under all rules alike. -/
theorem resolve_precedence :
    (∀ r : Registry Memberwise.Converter,
      ((∃ strategy, (resolve classes r m n).outcome = .ok (some ⟨m, n, strategy, .assign⟩)) ↔
        Same m.underlying n.underlying ∧ ¬ LosesOption m n) ∧
      ((∃ strategy default, (resolve classes r m n).outcome =
          .ok (some ⟨m, n, strategy, .unwrapOr default⟩)) ↔
        Same m.underlying n.underlying ∧ LosesOption m n) ∧
      ((∃ A B f r', r.registerConverter classes A B f = .ok r' ∧
          (resolve classes r' m n).outcome ≠ (resolve classes r m n).outcome) ↔
        ¬ Same m.underlying n.underlying ∧ (pairKey classes m n).isUsable classes = true)) ∧
    (¬ Same m.underlying n.underlying → (pairKey classes m n).isUsable classes = true →
      ∀ r r' f, Registry.registerConverter r classes (m.keyType classes) (n.keyType classes) f =
        .ok r' → ∃ strategy, (resolve classes r' m n).outcome =
          .ok (some ⟨m, n, strategy, .custom f⟩)) ∧
    (¬ Same m.underlying n.underlying → (pairKey classes m n).isUsable classes = false →
      ∀ r : Registry Memberwise.Converter, (resolve classes r m n).outcome = .error .typeMismatch) := by
  refine ⟨fun r => ⟨resolve_assign_iff hm hs hn ht, resolve_unwrapOr_iff hm hs hn ht,
    exists_rule_iff hm hs hn ht⟩, ?_, ?_⟩
  · intro hdiffers husable r r' f hr
    exact resolve_of_registered hm hs hn ht hdiffers husable hr
  · intro hdiffers husable r
    apply resolve_of_unusable
    constructor
    · exact Bool.eq_false_iff.mpr fun hdirect => hdiffers ((isDirect_iff hm hs hn ht).mp hdirect)
    · rw [of_keyType hm hs hn ht]
      exact husable

end Operations

/-- An age that may be left open. -/
def estimate : Member :=
  .describe [] "age" (.union .named [.builtin .int, .noneType]) true true

def age : Member := .describe [] "age" (.builtin .int) true true

/-- The option is taken off an age whatever has been registered, even for this very pair; what
becomes of items depends on the rules. -/
theorem resolve_precedence_age :
    (union .named [.builtin .int, .noneType]).IsFlat ∧
    (∀ r : Registry Memberwise.Converter, (∃ strategy default,
      (resolve [] r estimate age).outcome = .ok (some ⟨estimate, age, strategy, .unwrapOr default⟩)) ∧
      ¬ ∃ A B f r', r.registerConverter [] A B f = .ok r' ∧
        (resolve [] r' estimate age).outcome ≠ (resolve [] r estimate age).outcome) ∧
    ∀ r : Registry Memberwise.Converter, ∃ A B f r', r.registerConverter [] A B f = .ok r' ∧
      (resolve [] r' items labels).outcome ≠ (resolve [] r items labels).outcome := by
  have hestimate : (union .named [.builtin .int, .noneType]).IsFlat := isFlat_pair rfl rfl
  have hitems : (union .named [.builtin .list, .noneType]).IsFlat := isFlat_pair rfl rfl
  have hsame : Same estimate.underlying age.underlying := by decide +kernel
  have hdiffers : ¬ Same items.underlying labels.underlying := by decide +kernel
  have hage := (resolve_precedence (m := estimate) (n := age) ⟨_, _, _, rfl⟩ hestimate
    ⟨_, _, _, rfl⟩ trivial).1
  refine ⟨hestimate, fun r => ⟨?_, ?_⟩, fun r => ?_⟩
  · exact (hage r).2.1.mpr ⟨hsame, rfl, rfl⟩
  · intro hrule
    exact ((hage r).2.2.mp hrule).1 hsame
  · exact ((resolve_precedence (m := items) (n := labels) ⟨_, _, _, rfl⟩ hitems
      ⟨_, _, _, rfl⟩ trivial).1 r).2.2.mpr ⟨hdiffers, by decide +kernel⟩

/-- The set of one number is no text, and still no rule decides what becomes of it: a rule can be
registered for the frozen set that is equal to it, but the pair fails with that rule and without. -/
theorem resolve_independent_of_rules : ¬ Same singleton.underlying label.underlying ∧
    (∃ r' : Registry Memberwise.Converter, Registry.empty.registerConverter []
        (.value (.seq none .frozenset [.atom (.int 1)])) (.builtin .str)
        (.function .identity .unstated) = .ok r') ∧
    (pairKey [] singleton label).same
      (.of [] (.value (.seq none .frozenset [.atom (.int 1)])) (.builtin .str)) = true ∧
    ∀ r r' : Registry Memberwise.Converter,
      (resolve [] r' singleton label).outcome = (resolve [] r singleton label).outcome := by
  have hunusable : Unusable [] singleton label := ⟨by decide +kernel, by decide +kernel⟩
  refine ⟨by decide +kernel, ⟨_, Registry.registerConverter_of_usable rfl (by decide +kernel)⟩,
    by decide +kernel, fun r r' => ?_⟩
  rw [resolve_eq_of_unusable r' hunusable, resolve_eq_of_unusable r hunusable]

end Memberwise.Resolver
