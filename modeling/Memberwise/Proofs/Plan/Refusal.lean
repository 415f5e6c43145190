import Memberwise.Proofs.Member.Describable
import Memberwise.Proofs.Plan.Conformance

/-! # Why planning fails

A plan is refused where two members contend for one target, where a pair of collections cannot be
copied, and where the target cannot be created without arguments.  The one other obstacle is a
pair of types that cannot be looked up.
-/

namespace Memberwise.Plan

variable {Converter : Type} {classes : Classes} {registry : Registry Converter}
  {source target : ClassRef}

/-! ## Matched and contending members -/

/-- Whether planning matches a member of one class with a member of another. -/
def Matched (classes : Classes) (source target : ClassRef) (m t : Member) : Prop :=
  ∃ g sources targets, classes.members source g = .ok sources ∧
    classes.members target g = .ok targets ∧
    m ∈ sources ∧ m.readable = true ∧ IsFirstWritable targets m.name t

/-- Whether two readable members of a group have one name, and a target for it. -/
def Contended (classes : Classes) (source target : ClassRef) : Prop :=
  ∃ g sources targets, classes.members source g = .ok sources ∧
    classes.members target g = .ok targets ∧
    ∃ m ∈ sources, ∃ m' ∈ sources, m ≠ m' ∧ m.readable = true ∧ m'.readable = true ∧
      Text.fold m.name = Text.fold m'.name ∧
      ∃ u ∈ targets, u.writable = true ∧ Text.fold u.name = Text.fold m.name

/-- The members of a class in a group, or none if they cannot be told. -/
def listedMembers (classes : Classes) (c : ClassRef) (g : MemberGroup) : List Member :=
  (classes.members c g).toOption.getD []

theorem members_of_describable {c : ClassRef} (h : classes.Describable c) (g : MemberGroup) :
    classes.members c g = .ok (listedMembers classes c g) := by
  have hok : ∃ members, classes.members c g = .ok members := by
    cases g
    · exact Classes.properties_isOk h
    · exact Classes.fields_isOk h
  obtain ⟨members, hm⟩ := hok
  simp only [listedMembers, hm, Except.toOption, Option.getD_some]

section Members

variable {sources targets : MemberGroup → List Member}

theorem matched_iff (hs : ∀ g, classes.members source g = .ok (sources g))
    (ht : ∀ g, classes.members target g = .ok (targets g)) {m t : Member} :
    Matched classes source target m t ↔ (m, t) ∈ matchGroups sources targets := by
  simp only [mem_matchGroups, matchFor?_eq_some_iff]
  constructor
  · rintro ⟨g, ms, ts, hms, hts, hm, hr, hfirst⟩
    rw [hs g] at hms
    rw [ht g] at hts
    cases hms
    cases hts
    exact ⟨g, hm, hr, hfirst⟩
  · rintro ⟨g, hm, hr, hfirst⟩
    exact ⟨g, sources g, targets g, hs g, ht g, hm, hr, hfirst⟩

/-- Members that contend for a target are matched with the same one. -/
theorem not_nodup_of_contended (hs : ∀ g, classes.members source g = .ok (sources g))
    (ht : ∀ g, classes.members target g = .ok (targets g)) (h : Contended classes source target) :
    ¬ ((matchGroups sources targets).map (·.2.name)).Nodup := by
  obtain ⟨g, ms, ts, hms, hts, m, hm, m', hm', hne, hr, hr', hname, u, hu, hw, huname⟩ := h
  rw [hs g] at hms
  rw [ht g] at hts
  cases hms
  cases hts
  obtain ⟨t, hmatch⟩ := exists_matchFor? hr hu hw huname
  have hmatch' : matchFor? m' (targets g) = some t := by
    rw [← matchFor?_congr hr hr' hname]
    exact hmatch
  have hpair : (m, t) ∈ matchGroups sources targets := mem_matchGroups.mpr ⟨g, hm, hmatch⟩
  have hpair' : (m', t) ∈ matchGroups sources targets := mem_matchGroups.mpr ⟨g, hm', hmatch'⟩
  intro hdistinct
  have heq := List.inj_on_of_nodup_map hdistinct hpair hpair' rfl
  exact hne (congrArg Prod.fst heq)

/-- Two pairs of one target are of one group, so their sources contend for it. -/
theorem contended_of_not_nodup (hs : ∀ g, classes.members source g = .ok (sources g))
    (ht : ∀ g, classes.members target g = .ok (targets g))
    (h : ¬ ((matchGroups sources targets).map (·.2.name)).Nodup) :
    Contended classes source target := by
  have hpairs : (matchGroups sources targets).Nodup := (nodup_matchGroups hs).of_map _
  rw [List.nodup_map_iff_inj_on hpairs] at h
  push Not at h
  obtain ⟨⟨m, t⟩, hpair, ⟨m', t'⟩, hpair', hname, hne⟩ := h
  obtain ⟨g, hm, hmatch⟩ := mem_matchGroups.mp hpair
  obtain ⟨g', hm', hmatch'⟩ := mem_matchGroups.mp hpair'
  obtain ⟨hr, hfirst⟩ := matchFor?_eq_some_iff.mp hmatch
  obtain ⟨hr', hfirst'⟩ := matchFor?_eq_some_iff.mp hmatch'
  obtain ⟨rfl, rfl⟩ := Classes.member_unique ht hfirst.mem hfirst'.mem hname
  obtain ⟨-, -, -, hw, hfold, -⟩ := id hfirst
  obtain ⟨-, -, -, -, hfold', -⟩ := id hfirst'
  refine ⟨g, sources g, targets g, hs g, ht g, m, hm, m', hm', ?_, hr, hr',
    hfold.symm.trans hfold', t, hfirst.mem, hw, hfold⟩
  rintro rfl
  exact hne rfl

end Members

/-! ## Failing resolutions -/

theorem resolve_eq_error {m t : Member} {fault : Fault}
    (h : (Resolver.resolve classes registry m t).outcome = .error fault) :
    fault = .typeMismatch ∧ Resolver.Unusable classes m t ∨
      (∃ cause, fault = .configuration cause) ∧ Resolver.Unbuildable classes registry m t := by
  by_cases hu : Resolver.Unusable classes m t
  · rw [Resolver.resolve_of_unusable hu] at h
    cases h
    exact .inl ⟨rfl, hu⟩
  by_cases hb : Resolver.Unbuildable classes registry m t
  · obtain ⟨cause, hc⟩ := Resolver.resolve_of_unbuildable hb hu
    rw [hc] at h
    cases h
    exact .inr ⟨⟨cause, rfl⟩, hb⟩
  by_cases hk : Resolver.Skipped classes registry m t
  · rw [Resolver.resolve_of_skipped hk hu] at h
    cases h
  · obtain ⟨strategy, operation, ha⟩ := Resolver.resolve_of_assigned hu hb hk
    rw [ha] at h
    cases h

/-! ## Refused plans -/

/-- Whether there is a reason to refuse a plan. -/
def Refused (classes : Classes) (registry : Registry Converter) (source target : ClassRef)
    (creates : Bool) : Prop :=
  Contended classes source target ∨
    (∃ m t, Matched classes source target m t ∧ Resolver.Unbuildable classes registry m t) ∨
    (creates = true ∧ classes.requiredArguments target ≠ [])

/-- There is no reason to refuse where no member of the source can be told. -/
theorem not_refused_of_listedMembers (h : ∀ g, listedMembers classes source g = []) :
    ¬ Refused classes registry source target false := by
  have hempty : ∀ {g sources}, classes.members source g = .ok sources → sources = [] := by
    intro g sources hsources
    have hnone := h g
    rwa [listedMembers, hsources] at hnone
  rintro (⟨g, sources, -, hsources, -, m, hm, -⟩ | ⟨m, -, ⟨g, sources, -, hsources, -, hm, -⟩, -⟩ |
    ⟨hcreates, -⟩)
  · rw [hempty hsources] at hm
    cases hm
  · rw [hempty hsources] at hm
    cases hm
  · cases hcreates

/-- Whether some matched pair has a type that cannot be looked up. -/
def Obstructed (classes : Classes) (source target : ClassRef) : Prop :=
  ∃ m t, Matched classes source target m t ∧ Resolver.Unusable classes m t

/-- Where there is a reason to refuse a plan, or an obstacle, none is made. -/
theorem build_not_ok {creates : Bool}
    (h : Refused classes registry source target creates ∨ Obstructed classes source target)
    (p : Plan Converter) :
    (build classes registry (.cls source) (.cls target) creates).outcome ≠ .ok p := by
  intro hok
  have hr := required_of_build_eq_ok hok
  obtain ⟨matched, hpairs, hdistinct, hresolves, -⟩ := build_eq_ok hok
  obtain ⟨sources, targets, hs, ht, rfl⟩ := pairs_eq_ok hpairs
  rcases h with (hcontended | ⟨m, t, hmatched, hbad⟩ | ⟨hcreates, hrequired⟩) |
    ⟨m, t, hmatched, hbad⟩
  · exact not_nodup_of_contended hs ht hcontended hdistinct
  · exact not_unbuildable_of_resolves (hresolves _ ((matched_iff hs ht).mp hmatched)) hbad
  · exact hrequired (hr hcreates)
  · exact not_unusable_of_resolves (hresolves _ ((matched_iff hs ht).mp hmatched)) hbad

/-- Every failure of planning has one of the two causes, and tells which. -/
theorem build_error_cause (hsource : classes.Describable source)
    (htarget : classes.Describable target) {creates : Bool} {fault : Fault}
    (h : (build classes registry (.cls source) (.cls target) creates).outcome = .error fault) :
    (∃ cause, fault = .configuration cause) ∧ Refused classes registry source target creates ∨
      fault = .typeMismatch ∧ Obstructed classes source target := by
  by_cases hr : creates = true → classes.requiredArguments target = []
  · have hs := members_of_describable hsource
    have ht := members_of_describable htarget
    obtain ⟨hclash, hcause⟩ | ⟨⟨m, t⟩, hpair, hfault⟩ :=
      build_eq_error hr (pairs_of_members hs ht) h
    · exact .inl ⟨hcause, .inl (contended_of_not_nodup hs ht hclash)⟩
    · have hmatched := (matched_iff hs ht).mpr hpair
      obtain ⟨hmismatch, hunusable⟩ | ⟨hcause, hunbuildable⟩ := resolve_eq_error hfault
      · exact .inr ⟨hmismatch, m, t, hmatched, hunusable⟩
      · exact .inl ⟨hcause, .inr (.inl ⟨m, t, hmatched, hunbuildable⟩)⟩
  · obtain ⟨rfl, hrequired⟩ := Classical.not_imp.mp hr
    obtain ⟨cause, hcause⟩ := build_of_required registry source hrequired
    rw [hcause] at h
    cases h
    exact .inl ⟨⟨cause, rfl⟩, .inr (.inr ⟨rfl, hrequired⟩)⟩

/-- A plan is refused for a reason, and made if there is none; only a type that cannot be looked
up gets in the way. -/
theorem build_refusal (hsource : classes.Describable source) (htarget : classes.Describable target)
    (registry : Registry Converter) (creates : Bool) :
    (¬ Obstructed classes source target →
      ((∃ cause, (build classes registry (.cls source) (.cls target) creates).outcome =
          .error (.configuration cause)) ↔ Refused classes registry source target creates) ∧
      (¬ Refused classes registry source target creates →
        ∃ p, (build classes registry (.cls source) (.cls target) creates).outcome = .ok p)) ∧
    (Obstructed classes source target →
      (build classes registry (.cls source) (.cls target) creates).outcome = .error .typeMismatch ∨
      Refused classes registry source target creates ∧
        ∃ cause, (build classes registry (.cls source) (.cls target) creates).outcome =
          .error (.configuration cause)) := by
  cases houtcome : (build classes registry (.cls source) (.cls target) creates).outcome with
  | ok p =>
      have hnone : ¬ Refused classes registry source target creates :=
        fun h => build_not_ok (.inl h) p houtcome
      refine ⟨fun _ => ⟨⟨?_, fun h => absurd h hnone⟩, fun _ => ⟨p, rfl⟩⟩, fun h => ?_⟩
      · rintro ⟨cause, hcause⟩
        cases hcause
      · exact absurd houtcome (build_not_ok (.inr h) p)
  | error fault =>
      obtain ⟨⟨cause, rfl⟩, hrefused⟩ | ⟨rfl, hobstructed⟩ :=
        build_error_cause hsource htarget houtcome
      · exact ⟨fun _ => ⟨⟨fun _ => hrefused, fun _ => ⟨cause, rfl⟩⟩, fun h => absurd hrefused h⟩,
          fun _ => .inr ⟨hrefused, cause, rfl⟩⟩
      · exact ⟨fun h => absurd hobstructed h, fun _ => .inl rfl⟩

/-- Entries whose two names are one to the lines that they are to be mapped to, and drafts that
are annotated with a value.  The getter of memos is no function, and the field of blanks an option that
has no normal spelling. -/
def ledger : Classes := [
  annotatedClass "Entry" [("name", .builtin .str), ("Name", .builtin .str)],
  annotatedClass "Line" [("NAME", .builtin .str)],
  annotatedClass "Draft" [("name", .value (.list [.atom (.int 1)]))],
  ⟨⟨"Memo", .plain, [], none, [.property "name" (some ⟨none, .attribute "text", false⟩) none], none⟩,
    [.declared "Memo", .builtin .object]⟩,
  annotatedClass "Blank" [("name", .union .bar [.builtin .generic, .builtin .noneType])]]

theorem build_refusal_entry :
    ∃ cause, (build ledger (Registry.empty : Registry Unit) (.cls (.declared "Entry"))
      (.cls (.declared "Line")) false).outcome = .error (.configuration cause) := by
  have hsource : ledger.Describable (.declared "Entry") := by decide +kernel
  have htarget : ledger.Describable (.declared "Line") := by decide +kernel
  have hs := members_of_describable hsource
  have ht := members_of_describable htarget
  have hclear : ¬ Obstructed ledger (.declared "Entry") (.declared "Line") := by
    rintro ⟨m, t, hmatched, hdirect, -⟩
    have hall : ∀ pair ∈ matchGroups (listedMembers ledger (.declared "Entry"))
        (listedMembers ledger (.declared "Line")),
        Resolver.isDirect ledger pair.1 pair.2 = true := by decide +kernel
    simp [hall _ ((matched_iff hs ht).mp hmatched)] at hdirect
  have hclash : Contended ledger (.declared "Entry") (.declared "Line") :=
    contended_of_not_nodup hs ht (by decide +kernel)
  exact ((build_refusal hsource htarget .empty false).1 hclear).1.mpr (.inl hclash)

/-- Without a reason to refuse a plan there may still be none: a list in the place of a type cannot
be looked up, hints cannot be asked for, or a type cannot be spelled. -/
theorem build_draft_not_ok :
    ledger.Describable (.declared "Draft") ∧ ledger.Describable (.declared "Line") ∧
    ∀ name ∈ ["Draft", "Memo", "Blank"],
      ¬ Refused ledger (Registry.empty : Registry Unit) (.declared name) (.declared "Line") false ∧
      ∀ p, (build ledger (Registry.empty : Registry Unit) (.cls (.declared name))
        (.cls (.declared "Line")) false).outcome ≠ .ok p := by
  have hsource : ledger.Describable (.declared "Draft") := by decide +kernel
  have htarget : ledger.Describable (.declared "Line") := by decide +kernel
  have hs := members_of_describable hsource
  have ht := members_of_describable htarget
  have hfails : ∀ name ∈ ["Draft", "Memo", "Blank"],
      (build ledger (Registry.empty : Registry Unit) (.cls (.declared name))
        (.cls (.declared "Line")) false).outcome.isOk = false := by decide +kernel
  have huntold : ∀ name ∈ ["Memo", "Blank"], ∀ g ∈ [MemberGroup.properties, .fields],
      (listedMembers ledger (.declared name) g).isEmpty = true := by decide +kernel
  have hdraft : ¬ Refused ledger (Registry.empty : Registry Unit) (.declared "Draft")
      (.declared "Line") false := by
    rintro (hcontended | ⟨m, t, hmatched, hbad⟩ | ⟨hcreates, -⟩)
    · exact not_nodup_of_contended hs ht hcontended (by decide +kernel)
    · have hall : ∀ pair ∈ matchGroups (listedMembers ledger (.declared "Draft"))
          (listedMembers ledger (.declared "Line")), pair.1.isCollection = false := by
        decide +kernel
      have hnone := hall _ ((matched_iff hs ht).mp hmatched)
      rw [hbad.1.source_collection] at hnone
      cases hnone
    · cases hcreates
  refine ⟨hsource, htarget, fun name hname => ⟨?_, fun p h => ?_⟩⟩
  · rcases List.mem_cons.mp hname with rfl | hname
    · exact hdraft
    · exact not_refused_of_listedMembers fun g =>
        List.isEmpty_iff.mp (huntold name hname g (by cases g <;> decide))
  · have hnone := hfails name hname
    rw [h] at hnone
    cases hnone

end Memberwise.Plan
