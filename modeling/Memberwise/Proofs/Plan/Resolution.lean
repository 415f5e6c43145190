import Memberwise.Plan.Resolver
import Memberwise.Proofs.Fallible

/-! # Outcomes of resolution

Four things can come of a pair of members.  A pair that needs a conversion fails where its types
cannot be looked up, or where it is one of collections that cannot be copied; it is passed over
where an element type is not known; any other pair gets an assignment of its own.
-/

namespace Memberwise.Resolver

variable {Converter : Type} {classes : Classes} {registry : Registry Converter}
  {source target : Member}

/-! ## The four outcomes -/

/-- Whether a member goes to another one as it is, but for an option that is added or taken
away: the keys agree, or the types without their options where only one value kind is
nullable. -/
def isDirect (classes : Classes) (source target : Member) : Bool :=
  if source.isValueKind && source.isNullable != target.isNullable then
    source.underlying.same target.underlying
  else (source.keyType classes).same (target.keyType classes)

/-- A pair that needs a conversion, but has a type that cannot be looked up. -/
def Unusable (classes : Classes) (source target : Member) : Prop :=
  isDirect classes source target = false ∧
    (RuleKey.of classes (source.keyType classes) (target.keyType classes)).isUsable classes = false

/-- A pair of collections that needs a conversion for which there is no rule. -/
structure Copied (classes : Classes) (registry : Registry Converter) (source target : Member) :
    Prop where
  converts : isDirect classes source target = false
  unruled : registry.lookup classes (source.keyType classes) (target.keyType classes) = none
  source_collection : source.isCollection = true
  target_collection : target.isCollection = true

/-- A pair of collections that cannot be copied: a side has several type arguments, or the
target is not of a kind that can be built. -/
def Unbuildable (classes : Classes) (registry : Registry Converter) (source target : Member) :
    Prop :=
  Copied classes registry source target ∧
    (1 < source.typeArgs.length ∨ 1 < target.typeArgs.length ∨
      source.typeArgs.length = 1 ∧ target.typeArgs.length = 1 ∧
        ∃ fault, Builder.ofMember classes target = .error fault)

/-- A pair of collections of which some side does not tell its element type. -/
def Skipped (classes : Classes) (registry : Registry Converter) (source target : Member) : Prop :=
  Copied classes registry source target ∧
    source.typeArgs.length ≤ 1 ∧ target.typeArgs.length ≤ 1 ∧
      (source.typeArgs = [] ∨ target.typeArgs = [])

/-! ## Which pairs have which outcome -/

/-- The operation of a direct pair: a default is only needed where an option is taken away. -/
def directOperation (classes : Classes) (source target : Member) : Operation Converter :=
  if source.isValueKind && source.isNullable && !target.isNullable then
    .unwrapOr (classes.defaultValue target.declared)
  else .assign

theorem resolve_eq_of_direct (registry : Registry Converter)
    (h : isDirect classes source target = true) :
    ∃ strategy, resolve classes registry source target =
      decide source target strategy (directOperation classes source target) := by
  unfold isDirect at h
  unfold resolve directOperation
  by_cases hk : source.isValueKind = true
  · by_cases hn : source.isNullable = target.isNullable
    · simp only [hk, hn, bne_self_eq_false, Bool.and_false, Bool.false_eq_true, if_false] at h
      simp only [hk, hn, h, Bool.not_true, Bool.false_eq_true, if_false, beq_self_eq_true, if_true,
        Bool.true_and, Bool.and_not_self]
      exact ⟨_, rfl⟩
    · have hne : (source.isNullable != target.isNullable) = true := bne_iff_ne.mpr hn
      have heq : (source.isNullable == target.isNullable) = false := beq_eq_false_iff_ne.mpr hn
      simp only [hk, hne, Bool.and_self, if_true] at h
      simp only [hk, heq, Bool.not_true, Bool.false_eq_true, if_false, resolveMismatch, h,
        Bool.true_and]
      cases hs : source.isNullable with
      | true =>
          have ht : target.isNullable = false := by simpa [hs] using Ne.symm hn
          simp only [ht, Bool.not_false, Bool.and_self, if_true]
          exact ⟨_, rfl⟩
      | false =>
          simp only [Bool.false_and, Bool.false_eq_true, if_false]
          exact ⟨_, rfl⟩
  · simp only [hk, Bool.false_and, Bool.false_eq_true, if_false] at h
    simp only [hk, h, Bool.not_false, if_true, Bool.false_and, Bool.false_eq_true, if_false]
    exact ⟨_, rfl⟩

/-- A pair that is not direct goes through conversion, whatever the branch that leads there. -/
theorem resolve_of_not_direct (registry : Registry Converter)
    (h : isDirect classes source target = false) :
    ∃ strategy, resolve classes registry source target =
      resolveConversion classes registry source target strategy := by
  unfold isDirect at h
  unfold resolve
  by_cases hk : source.isValueKind = true
  · by_cases hn : source.isNullable = target.isNullable
    · simp only [hk, hn, bne_self_eq_false, Bool.and_false, Bool.false_eq_true, if_false] at h
      simp only [hk, hn, h, Bool.not_true, Bool.false_eq_true, if_false, beq_self_eq_true, if_true]
      exact ⟨_, rfl⟩
    · have hne : (source.isNullable != target.isNullable) = true := bne_iff_ne.mpr hn
      have heq : (source.isNullable == target.isNullable) = false := beq_eq_false_iff_ne.mpr hn
      simp only [hk, hne, Bool.and_self, if_true] at h
      simp only [hk, heq, Bool.not_true, Bool.false_eq_true, if_false, resolveMismatch, h,
        Bool.not_false, if_true]
      exact ⟨_, rfl⟩
  · simp only [hk, Bool.false_and, Bool.false_eq_true, if_false] at h
    simp only [hk, h, Bool.not_false, if_true, Bool.false_eq_true, if_false]
    exact ⟨_, rfl⟩

theorem resolve_of_unusable (h : Unusable classes source target) :
    (resolve classes registry source target).outcome = .error .typeMismatch := by
  obtain ⟨strategy, hs⟩ := resolve_of_not_direct registry h.1
  rw [hs]
  simp only [resolveConversion, h.2, Bool.not_false, if_true]

theorem isUsable_of_not_unusable (hd : isDirect classes source target = false)
    (hu : ¬ Unusable classes source target) :
    (RuleKey.of classes (source.keyType classes) (target.keyType classes)).isUsable classes =
      true := by
  cases hk : (RuleKey.of classes (source.keyType classes) (target.keyType classes)).isUsable
      classes with
  | true => rfl
  | false => exact absurd ⟨hd, hk⟩ hu

/-- Collections without a rule are left to the copying of elements. -/
theorem resolve_of_copied (hc : Copied classes registry source target)
    (hu : ¬ Unusable classes source target) :
    resolve classes registry source target = resolveCollection classes source target := by
  obtain ⟨strategy, hs⟩ := resolve_of_not_direct registry hc.converts
  have husable := isUsable_of_not_unusable hc.converts hu
  have hrule := hc.unruled
  unfold Registry.lookup at hrule
  rw [hs]
  simp only [resolveConversion, husable, Bool.not_true, Bool.false_eq_true, if_false, hrule,
    hc.source_collection, hc.target_collection, Bool.and_self, if_true]

theorem resolve_of_unbuildable (h : Unbuildable classes registry source target)
    (hu : ¬ Unusable classes source target) :
    ∃ fault, (resolve classes registry source target).outcome = .error (.configuration fault) := by
  rw [resolve_of_copied h.1 hu]
  unfold resolveCollection
  by_cases hmany : 1 < source.typeArgs.length ∨ 1 < target.typeArgs.length
  · rw [if_pos hmany]
    exact ⟨_, rfl⟩
  · rw [if_neg hmany]
    obtain hm | hm | ⟨hs, ht, fault, hb⟩ := h.2
    · exact absurd (.inl hm) hmany
    · exact absurd (.inr hm) hmany
    · obtain ⟨a, ha⟩ := List.length_eq_one_iff.mp hs
      obtain ⟨b, hb'⟩ := List.length_eq_one_iff.mp ht
      refine ⟨fault, ?_⟩
      simp only [ha, hb', hb]
      rfl

theorem resolve_of_skipped (h : Skipped classes registry source target)
    (hu : ¬ Unusable classes source target) :
    (resolve classes registry source target).outcome = .ok none := by
  rw [resolve_of_copied h.1 hu]
  obtain ⟨-, hs, ht, hnone⟩ := h
  have hmany : ¬ (1 < source.typeArgs.length ∨ 1 < target.typeArgs.length) := by omega
  unfold resolveCollection
  rw [if_neg hmany]
  rcases hnone with hnone | hnone
  · simp [hnone]
  · cases hsource : source.typeArgs <;> simp [hnone]

/-! ## Operations -/

/-- Which operation a pair is given: a direct pair is copied, with a default where an option is
taken away; any other pair is converted, by a rule if there is one. -/
inductive Chooses (classes : Classes) (registry : Registry Converter) (source target : Member) :
    Operation Converter → Prop
  | direct (direct : isDirect classes source target = true) :
      Chooses classes registry source target (directOperation classes source target)
  | custom {f : Converter} (converts : isDirect classes source target = false)
      (rule : registry.lookup classes (source.keyType classes) (target.keyType classes) = some f) :
      Chooses classes registry source target (.custom f)
  | copy {elementType : TypeExpr} {builder : Builder} {copies : Bool}
      (copied : Copied classes registry source target) :
      Chooses classes registry source target (.copyCollection elementType builder copies)
  | convert (converts : isDirect classes source target = false)
      (unruled : registry.lookup classes (source.keyType classes) (target.keyType classes) = none)
      (single : (source.isCollection && target.isCollection) = false) :
      Chooses classes registry source target (.convert (classes.defaultValue target.declared))

theorem Chooses.not_foreign {operation : Operation Converter}
    (h : Chooses classes registry source target operation) (v : Value) :
    operation ≠ .foreign v := by
  cases h with
  | direct =>
      unfold directOperation
      split <;> exact nofun
  | custom | copy | convert => exact nofun

/-- A pair that is not copied is decided by its operation alone. -/
theorem resolve_of_not_copied (hu : ¬ Unusable classes source target)
    (hc : ¬ Copied classes registry source target) :
    ∃ strategy operation, Chooses classes registry source target operation ∧
      resolve classes registry source target = decide source target strategy operation := by
  by_cases hd : isDirect classes source target = true
  · obtain ⟨strategy, hs⟩ := resolve_eq_of_direct registry hd
    exact ⟨strategy, _, .direct hd, hs⟩
  replace hd : isDirect classes source target = false := by simpa using hd
  obtain ⟨strategy, hs⟩ := resolve_of_not_direct registry hd
  have husable := isUsable_of_not_unusable hd hu
  rw [hs]
  simp only [resolveConversion, husable, Bool.not_true, Bool.false_eq_true, if_false]
  cases hrule : registry.find? (RuleKey.of classes (source.keyType classes)
      (target.keyType classes)) with
  | some f => exact ⟨strategy, _, .custom hd hrule, rfl⟩
  | none =>
      have hsingle : (source.isCollection && target.isCollection) = false := by
        refine Bool.eq_false_iff.mpr fun hboth => ?_
        obtain ⟨hsource, htarget⟩ := Bool.and_eq_true_iff.mp hboth
        exact hc ⟨hd, hrule, hsource, htarget⟩
      simp only [hsingle, Bool.false_eq_true, if_false]
      exact ⟨strategy, _, .convert hd hrule hsingle, rfl⟩

/-- All other pairs get an assignment from the one member to the other. -/
theorem resolve_of_assigned (hu : ¬ Unusable classes source target)
    (hb : ¬ Unbuildable classes registry source target)
    (hs : ¬ Skipped classes registry source target) :
    ∃ strategy operation, (resolve classes registry source target).outcome =
      .ok (some ⟨source, target, strategy, operation⟩) := by
  by_cases hc : Copied classes registry source target
  · rw [resolve_of_copied hc hu]
    have hmany : ¬ (1 < source.typeArgs.length ∨ 1 < target.typeArgs.length) := by
      rintro (hm | hm)
      · exact hb ⟨hc, .inl hm⟩
      · exact hb ⟨hc, .inr (.inl hm)⟩
    have hsome : source.typeArgs ≠ [] ∧ target.typeArgs ≠ [] := by
      refine ⟨fun hn => hs ⟨hc, ?_, ?_, .inl hn⟩, fun hn => hs ⟨hc, ?_, ?_, .inr hn⟩⟩ <;> omega
    obtain ⟨a, as, ha⟩ := List.exists_cons_of_ne_nil hsome.1
    obtain ⟨b, bs, hb'⟩ := List.exists_cons_of_ne_nil hsome.2
    have hone : source.typeArgs.length = 1 ∧ target.typeArgs.length = 1 := by
      simp only [ha, hb', List.length_cons] at hmany ⊢
      omega
    cases hbuilder : Builder.ofMember classes target with
    | error fault => exact absurd ⟨hc, .inr (.inr ⟨hone.1, hone.2, fault, hbuilder⟩)⟩ hb
    | ok builder =>
        unfold resolveCollection
        rw [if_neg hmany]
        simp only [ha, hb', hbuilder]
        exact ⟨_, _, rfl⟩
  · obtain ⟨strategy, operation, -, hr⟩ := resolve_of_not_copied hu hc
    rw [hr]
    exact ⟨strategy, operation, rfl⟩

/-- Whether two collections are copied element by element: each has one element type, and the
elements of the source are left behind if they are of a value kind. -/
structure Collects (classes : Classes) (source target : Member) (elementType : TypeExpr)
    (builder : Builder) (copies : Bool) : Prop where
  source_element : ∃ t, source.typeArgs = [t] ∧ copies = !classes.isValueKind t
  target_element : target.typeArgs = [elementType]
  builds : Builder.ofMember classes target = .ok builder

theorem resolveCollection_eq_ok {a : Assignment Converter}
    (h : (resolveCollection classes source target).outcome = .ok (some a)) :
    a.source = source ∧ a.target = target ∧
      ∃ elementType builder copies, a.operation = .copyCollection elementType builder copies ∧
        Collects classes source target elementType builder copies := by
  unfold resolveCollection at h
  split at h
  · cases h
  rename_i hmany
  have hone : ∀ {t : TypeExpr} {rest : List TypeExpr}, ¬ 1 < (t :: rest).length → rest = [] :=
    fun hle => List.length_eq_zero_iff.mp (by simpa using hle)
  split at h
  · rename_i sourceElement others targetElement rest hsource htarget
    obtain ⟨builder, hbuilder, hbuilt⟩ := map_eq_ok.mp h
    cases hbuilt
    rw [hsource, htarget, not_or] at hmany
    obtain rfl := hone hmany.1
    obtain rfl := hone hmany.2
    refine ⟨rfl, rfl, _, _, _, rfl, ⟨_, hsource, rfl⟩, htarget, ?_⟩
    cases hmember : Builder.ofMember classes target with
    | ok found =>
        rw [hmember] at hbuilder
        exact congrArg _ (Except.ok.inj hbuilder)
    | error fault =>
        rw [hmember] at hbuilder
        cases hbuilder
  · cases h

/-- An assignment goes between the members of its pair, with the operation that is chosen for
them. -/
theorem chooses_of_resolve {a : Assignment Converter}
    (h : (resolve classes registry source target).outcome = .ok (some a)) :
    a.source = source ∧ a.target = target ∧ Chooses classes registry source target a.operation := by
  by_cases hu : Unusable classes source target
  · rw [resolve_of_unusable hu] at h
    cases h
  by_cases hc : Copied classes registry source target
  · rw [resolve_of_copied hc hu] at h
    obtain ⟨hsource, htarget, elementType, builder, copies, hoperation, -⟩ :=
      resolveCollection_eq_ok h
    exact ⟨hsource, htarget, hoperation ▸ .copy hc⟩
  · obtain ⟨strategy, operation, hchooses, hr⟩ := resolve_of_not_copied hu hc
    rw [hr] at h
    cases h
    exact ⟨rfl, rfl, hchooses⟩

end Memberwise.Resolver
