import Memberwise.Converter
import Memberwise.Proofs.Member.Respelling
import Memberwise.Proofs.Plan.Planning

/-! # Plans of classes whose annotations are respelled

A plan is made from the names of members, from their keys, and from what unwrapping leaves of their
types.  All of these are the same in every spelling, and so is what a rule is found under; only the
texts of faults and notes tell spellings apart.
-/

namespace Memberwise

open TypeExpr

variable {classes classes' : Classes}

/-! ## Rules -/

/-- Whether two types are one type, or spellings of one kind. -/
def TypeExpr.SpelledAlike (classes : Classes) (t t' : TypeExpr) : Prop :=
  t' = t ∨ SameKind classes t t'

theorem keyType_respelled {t t' : TypeExpr} (h : t.SpelledAlike classes t') :
    classes.keyType t' = classes.keyType t := by
  rcases h with rfl | h
  · rfl
  · exact h.interchangeable.keyType

/-- A converter with the pair of types that it is registered for. -/
structure Rule where
  source : TypeExpr
  target : TypeExpr
  converter : Converter

structure Rule.Respelled (classes : Classes) (rule rule' : Rule) : Prop where
  source : rule.source.SpelledAlike classes rule'.source
  target : rule.target.SpelledAlike classes rule'.target
  converter : rule'.converter = rule.converter

namespace Registry

/-- The registry once rules have been registered in order.  A rule that is refused leaves it as it
is. -/
def withRules (classes : Classes) (r : Registry Converter) (rules : List Rule) :
    Registry Converter :=
  rules.foldl (fun r rule =>
    (r.registerConverter classes rule.source rule.target rule.converter).toOption.getD r) r

theorem isCallable_congr (h : classes.Alike classes') (f : Converter) :
    f.isCallable classes' = f.isCallable classes := by
  have hfound : ∀ c name, (classes'.binding? c name).isSome = (classes.binding? c name).isSome := by
    intro c name
    have hbinding := congrArg Option.isSome (h.binding? c name)
    rwa [Option.isSome_map, Option.isSome_map] at hbinding
  unfold Converter.isCallable
  split
  · rfl
  · rfl
  · rfl
  · exact hfound ..

theorem isUsable_congr (h : classes.Alike classes') (k : RuleKey) :
    k.isUsable classes' = k.isUsable classes := by
  simp only [RuleKey.isUsable, isHashable_congr h]

theorem registerConverter_respelled (h : classes.Alike classes') (r : Registry Converter)
    {rule rule' : Rule} (hrule : rule.Respelled classes rule') :
    (r.registerConverter classes' rule'.source rule'.target rule'.converter).toOption =
      (r.registerConverter classes rule.source rule.target rule.converter).toOption := by
  have hkey : RuleKey.of classes' rule'.source rule'.target =
      .of classes rule.source rule.target := by
    unfold RuleKey.of
    rw [h.keyType, h.keyType, keyType_respelled hrule.source, keyType_respelled hrule.target]
  unfold registerConverter register
  rw [hrule.converter, isCallable_congr h, hkey, isUsable_congr h]
  split
  · rfl
  · split <;> rfl

/-- Rules whose types are respelled make the same registry. -/
theorem withRules_respelled (h : classes.Alike classes') (r : Registry Converter)
    {rules rules' : List Rule} (hrules : List.Forall₂ (Rule.Respelled classes) rules rules') :
    r.withRules classes' rules' = r.withRules classes rules := by
  unfold withRules
  induction hrules generalizing r with
  | nil => rfl
  | cons hrule _ ih => rw [List.foldl_cons, List.foldl_cons, registerConverter_respelled h r hrule, ih]

end Registry

/-! ## Resolution -/

variable {Converter : Type} {m m' n n' : Member}

/-- Whether assignments are the same but for the spelling of the types of their members. -/
structure Assignment.Respelled (classes : Classes) (a a' : Assignment Converter) : Prop where
  source : a.source.Respelled classes a'.source
  target : a.target.Respelled classes a'.target
  strategy : a'.strategy = a.strategy
  operation : a'.operation = a.operation

/-- Whether two resolutions both fail, or give both no assignment or assignments that are the same
but for the spelling of types. -/
abbrev Resolution.Respelled (classes : Classes) (x x' : Resolution Converter) : Prop :=
  Option.Rel (Option.Rel (Assignment.Respelled classes)) x.outcome.toOption x'.outcome.toOption

theorem Member.Respelled.keyType (h : classes.Alike classes') (hm : m.Respelled classes m') :
    m'.keyType classes' = m.keyType classes := by
  unfold Member.keyType
  rw [h.keyType, hm.declared.keyType]

theorem Member.Respelled.default (h : classes.Alike classes') (hm : m.Respelled classes m') :
    classes'.defaultValue m'.declared = classes.defaultValue m.declared := by
  rw [h.defaultValue, hm.declared.defaultValue]

theorem Builder.ofMember_respelled (h : classes.Alike classes') (hm : m.Respelled classes m') :
    (ofMember classes' m').toOption = (ofMember classes m).toOption := by
  have horigin : ofOrigin? classes' = ofOrigin? classes := by
    funext origin
    simp only [ofOrigin?, h.isAbstract, h.hasMember]
  unfold ofMember
  rw [hm.underlying, horigin]
  split <;> rfl

namespace Resolver

section Resolution

variable (h : classes.Alike classes') (hm : m.Respelled classes m') (hn : n.Respelled classes n')

include hm hn

theorem decide_respelled (strategy : Strategy) (operation : Operation Converter) :
    Resolution.Respelled classes (decide m n strategy operation)
      (decide m' n' strategy operation) :=
  .some (.some ⟨hm, hn, rfl, rfl⟩)

include h

theorem resolveCollection_respelled :
    Resolution.Respelled classes (resolveCollection classes m n : Resolution Converter)
      (resolveCollection classes' m' n') := by
  have hbuilder := Builder.ofMember_respelled h hn
  unfold resolveCollection Resolution.Respelled
  rw [hm.typeArgs, hn.typeArgs]
  split
  · exact .none
  · split
    · dsimp only
      rw [h.isValueKind]
      revert hbuilder
      generalize Builder.ofMember classes n = made
      generalize Builder.ofMember classes' n' = made'
      intro hbuilder
      cases made with
      | error fault =>
          cases made' with
          | error fault' => exact .none
          | ok builder => cases hbuilder
      | ok builder =>
          cases made' with
          | error fault => cases hbuilder
          | ok builder' =>
              cases hbuilder
              exact .some (.some ⟨hm, hn, rfl, rfl⟩)
    · exact .some .none

variable (registry : Registry Converter)

theorem resolveConversion_respelled (strategy : Strategy) :
    Resolution.Respelled classes (resolveConversion classes registry m n strategy)
      (resolveConversion classes' registry m' n' strategy) := by
  have hkey : RuleKey.of classes' (m'.keyType classes') (n'.keyType classes') =
      .of classes (m.keyType classes) (n.keyType classes) := by
    unfold RuleKey.of
    rw [hm.keyType h, hn.keyType h, h.keyType, h.keyType]
  unfold resolveConversion
  dsimp only
  rw [hkey, Registry.isUsable_congr h, hm.isCollection, hn.isCollection, hn.default h]
  split
  · exact .none
  · split
    · exact decide_respelled hm hn ..
    · split
      · exact resolveCollection_respelled h hm hn
      · exact decide_respelled hm hn ..

/-- Members whose types are respelled are resolved alike. -/
theorem resolve_respelled :
    Resolution.Respelled classes (resolve classes registry m n)
      (resolve classes' registry m' n') := by
  have hconverts := resolveConversion_respelled h hm hn registry
  unfold resolve resolveMismatch
  dsimp only
  rw [hm.keyType h, hn.keyType h, hm.isValueKind, hm.isNullable, hn.isNullable, hm.underlying,
    hn.underlying, hn.default h]
  split
  · split
    · exact decide_respelled hm hn ..
    · exact hconverts _
  · split
    · split
      · exact decide_respelled hm hn ..
      · exact hconverts _
    · split
      · exact hconverts _
      · split
        · exact decide_respelled hm hn ..
        · exact decide_respelled hm hn ..

end Resolution

end Resolver

/-! ## Planning -/

namespace Plan

/-- Whether pairs of members are the same but for the spelling of types. -/
structure PairRespelled (classes : Classes) (pair pair' : Member × Member) : Prop where
  source : pair.1.Respelled classes pair'.1
  target : pair.2.Respelled classes pair'.2

theorem matchFor?_respelled (hm : m.Respelled classes m') {targets targets' : List Member}
    (htargets : List.Forall₂ (Member.Respelled classes) targets targets') :
    Option.Rel (Member.Respelled classes) (matchFor? m targets) (matchFor? m' targets') := by
  unfold matchFor?
  rw [hm.readable, hm.name]
  split
  · apply find?_of_forall₂ _ htargets
    intro n n' hn
    rw [hn.name, hn.writable]
  · exact .none

theorem matchMembers_respelled {sources sources' targets targets' : List Member}
    (hsources : List.Forall₂ (Member.Respelled classes) sources sources')
    (htargets : List.Forall₂ (Member.Respelled classes) targets targets') :
    List.Forall₂ (PairRespelled classes) (matchMembers sources targets)
      (matchMembers sources' targets') := by
  apply List.rel_filterMap _ hsources
  intro m m' hm
  have hfound := matchFor?_respelled hm htargets
  dsimp only
  revert hfound
  generalize matchFor? m targets = found
  generalize matchFor? m' targets' = found'
  intro hfound
  cases hfound with
  | none => exact .none
  | some hn => exact .some ⟨hm, hn⟩

section Planning

variable (registry : Registry Converter) {S T : ClassRef}

theorem pairs_respelled (h : classes.Respelled classes') (hS : classes.isModel S = false)
    (hT : classes.isModel T = false) :
    Agree (List.Forall₂ (PairRespelled classes)) (pairs classes S T) (pairs classes' S T) := by
  unfold pairs
  apply (h.properties S).bind
  intro sourceProperties sourceProperties' hsourceProperties
  apply (h.properties T).bind
  intro targetProperties targetProperties' htargetProperties
  apply (h.fields hS).bind
  intro sourceFields sourceFields' hsourceFields
  apply (h.fields hT).bind
  intro targetFields targetFields' htargetFields
  exact .ok (List.rel_append (matchMembers_respelled hsourceProperties htargetProperties)
    (matchMembers_respelled hsourceFields htargetFields))

section Pair

variable (h : classes.Alike classes') {pair pair' : Member × Member}
  (hpair : PairRespelled classes pair pair')

include h hpair

theorem assignment?_respelled : Option.Rel (Assignment.Respelled classes)
    (assignment? classes registry pair) (assignment? classes' registry pair') := by
  have hresolved := Resolver.resolve_respelled h hpair.source hpair.target registry
  unfold assignment?
  unfold Resolution.Respelled at hresolved
  revert hresolved
  generalize (Resolver.resolve classes registry pair.1 pair.2).outcome = x
  generalize (Resolver.resolve classes' registry pair'.1 pair'.2).outcome = x'
  intro hresolved
  cases x with
  | error fault =>
      cases x' with
      | error fault' => exact .none
      | ok a' => cases hresolved
  | ok a =>
      cases x' with
      | error fault' => cases hresolved
      | ok a' =>
          cases hresolved with
          | some ha => exact ha

theorem resolves_respelled :
    Resolves classes' registry pair' ↔ Resolves classes registry pair := by
  have hresolved := Resolver.resolve_respelled h hpair.source hpair.target registry
  have hsome := isSome_of_optionRel hresolved
  have hisSome : ∀ x : Except Fault (Option (Assignment Converter)),
      x.toOption.isSome = true ↔ ∃ a, x = .ok a := by
    intro x
    simp only [Option.isSome_iff_exists, toOption_eq_some]
  unfold Resolves
  rw [← hisSome, ← hisSome, hsome]

end Pair

/-- When a plan comes of two classes. -/
theorem exists_build_iff {registry : Registry Converter} {creates : Bool} :
    (∃ p, (build classes registry (.cls S) (.cls T) creates).outcome = .ok p) ↔
      (creates = true → classes.requiredArguments T = []) ∧ ∃ matched,
        pairs classes S T = .ok matched ∧ (matched.map (·.2.name)).Nodup ∧
          ∀ pair ∈ matched, Resolves classes registry pair := by
  constructor
  · rintro ⟨p, hp⟩
    obtain ⟨matched, hmatched, hdistinct, hresolves, -⟩ := build_eq_ok hp
    exact ⟨required_of_build_eq_ok hp, matched, hmatched, hdistinct, hresolves⟩
  · rintro ⟨hr, matched, hmatched, hdistinct, hresolves⟩
    obtain ⟨p, hp, -⟩ := build_isOk registry hr hmatched hdistinct hresolves
    exact ⟨p, hp⟩

theorem resolvesAll_respelled (h : classes.Alike classes') {matched matched' : List (Member × Member)}
    (hmatched : List.Forall₂ (PairRespelled classes) matched matched') :
    (∀ pair ∈ matched', Resolves classes' registry pair) ↔
      ∀ pair ∈ matched, Resolves classes registry pair := by
  induction hmatched with
  | nil => simp
  | cons hpair _ ih =>
      rw [List.forall_mem_cons, List.forall_mem_cons, ih, resolves_respelled registry h hpair]

/-- Two classes have a plan in both spellings of their annotations or in neither, and its
assignments are the same but for the spelling of types. -/
theorem build_agree (h : classes.Respelled classes') (hS : classes.isModel S = false)
    (hT : classes.isModel T = false) (creates : Bool) :
    Option.Rel (fun p p' => List.Forall₂ (Assignment.Respelled classes) p.assignments p'.assignments)
      (build classes registry (.cls S) (.cls T) creates).outcome.toOption
      (build classes' registry (.cls S) (.cls T) creates).outcome.toOption := by
  have hpairs := pairs_respelled h hS hT
  have hiff : (∃ p', (build classes' registry (.cls S) (.cls T) creates).outcome = .ok p') ↔
      ∃ p, (build classes registry (.cls S) (.cls T) creates).outcome = .ok p := by
    rw [exists_build_iff, exists_build_iff, h.requiredArguments hT]
    refine and_congr_right fun _ => ?_
    revert hpairs
    generalize pairs classes S T = found
    generalize pairs classes' S T = found'
    intro hpairs
    cases hpairs with
    | error fault => simp
    | @ok matched matched' hmatched =>
        have hnames : matched'.map (·.2.name) = matched.map (·.2.name) :=
          map_eq_of_forall₂ (fun _ _ hpair => hpair.target.name) hmatched
        simp only [Except.ok.injEq, exists_eq_left', hnames,
          resolvesAll_respelled registry h.alike hmatched]
  cases hp : (build classes registry (.cls S) (.cls T) creates).outcome with
  | error fault =>
      cases hp' : (build classes' registry (.cls S) (.cls T) creates).outcome with
      | error fault' => exact .none
      | ok p' =>
          obtain ⟨p, hok⟩ := hiff.mp ⟨p', hp'⟩
          rw [hp] at hok
          cases hok
  | ok p =>
      obtain ⟨p', hp'⟩ := hiff.mpr ⟨p, hp⟩
      rw [hp']
      obtain ⟨matched, hmatched, -, -, hassignments⟩ := build_eq_ok hp
      obtain ⟨matched', hmatched', -, -, hassignments'⟩ := build_eq_ok hp'
      rw [hmatched, hmatched'] at hpairs
      cases hpairs with
      | ok hall =>
          apply Option.Rel.some
          rw [hassignments, hassignments']
          apply List.rel_filterMap _ hall
          intro pair pair' hpair
          exact assignment?_respelled registry h.alike hpair

end Planning

end Plan

end Memberwise
