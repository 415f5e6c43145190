import Memberwise.Proofs.Member.Described
import Memberwise.Proofs.Plan.Planning

/-! # What a plan promises

A plan holds one assignment for every member that has a target, in the order of the members, and
none that could meet another one at its target.  Only a pair of collections whose element types
are not known is left out.
-/

namespace Memberwise

namespace Plan

variable {Converter : Type} {classes : Classes} {registry : Registry Converter}

/-! ## Assignments of pairs -/

theorem assignment?_of_skipped {pair : Member × Member} (h : Resolves classes registry pair)
    (hs : Resolver.Skipped classes registry pair.1 pair.2) :
    assignment? classes registry pair = none := by
  simp only [assignment?, Resolver.resolve_of_skipped hs (not_unusable_of_resolves h)]

theorem assignment?_of_not_skipped {pair : Member × Member} (h : Resolves classes registry pair)
    (hs : ¬ Resolver.Skipped classes registry pair.1 pair.2) :
    ∃ strategy operation,
      assignment? classes registry pair = some ⟨pair.1, pair.2, strategy, operation⟩ := by
  obtain ⟨strategy, operation, hr⟩ := Resolver.resolve_of_assigned (not_unusable_of_resolves h)
    (not_unbuildable_of_resolves h) hs
  exact ⟨strategy, operation, by simp only [assignment?, hr]⟩

/-- An assignment goes between the members of its pair. -/
theorem assignment?_members {pair : Member × Member} {a : Assignment Converter}
    (ha : assignment? classes registry pair = some a) :
    a.source = pair.1 ∧ a.target = pair.2 := by
  obtain ⟨hsource, htarget, -⟩ := Resolver.chooses_of_resolve (assignment?_eq_some_iff.mp ha)
  exact ⟨hsource, htarget⟩

theorem assignments_sources_sublist (pairs : List (Member × Member)) :
    ((pairs.filterMap (assignment? classes registry)).map (·.source)).Sublist
      (pairs.map (·.1)) :=
  map_filterMap_sublist (fun _ _ h => (assignment?_members h).1) pairs

theorem nodup_assignments_sources {pairs : List (Member × Member)}
    (h : (pairs.map (·.1.name)).Nodup) :
    ((pairs.filterMap (assignment? classes registry)).map (·.source.name)).Nodup := by
  refine h.sublist (map_filterMap_sublist ?_ pairs)
  intro pair a ha
  rw [(assignment?_members ha).1]

theorem nodup_assignments_targets {pairs : List (Member × Member)}
    (h : (pairs.map (·.2.name)).Nodup) :
    ((pairs.filterMap (assignment? classes registry)).map (·.target.name)).Nodup := by
  refine h.sublist (map_filterMap_sublist ?_ pairs)
  intro pair a ha
  rw [(assignment?_members ha).2]

/-! ## The promise -/

/-- The promise that a plan keeps to the members of its classes. -/
structure Conforms (classes : Classes) (registry : Registry Converter)
    (sources targets : MemberGroup → List Member) (p : Plan Converter) : Prop where
  /-- Properties come before fields, both in the order of the source, and each assignment writes
  the first writable member that has the name of what it reads. -/
  ordered : ∃ parts : MemberGroup → List (Assignment Converter),
    p.assignments = parts .properties ++ parts .fields ∧
    ∀ g, ((parts g).map (·.source)).Sublist (sources g) ∧
      ∀ a ∈ parts g, a.source.readable = true ∧
        IsFirstWritable (targets g) a.source.name a.target
  targets_distinct : (p.assignments.map (·.target.name)).Nodup
  /-- A readable member that has a target is read once, unless its pair is skipped. -/
  complete : ∀ g, ∀ m ∈ sources g, m.readable = true →
    (∃ u ∈ targets g, u.writable = true ∧ Text.fold u.name = Text.fold m.name) →
    ∃ t, IsFirstWritable (targets g) m.name t ∧
      (Resolver.Skipped classes registry m t ∧
          p.assignments.filter (·.source.name == m.name) = [] ∨
        ¬ Resolver.Skipped classes registry m t ∧ ∃ strategy operation,
          p.assignments.filter (·.source.name == m.name) = [⟨m, t, strategy, operation⟩])

variable {source target : ClassRef} {sources targets : MemberGroup → List Member}
  {p : Plan Converter}

theorem ordered_of_matchGroups
    (hp : p.assignments = (matchGroups sources targets).filterMap (assignment? classes registry)) :
    ∃ parts : MemberGroup → List (Assignment Converter),
      p.assignments = parts .properties ++ parts .fields ∧
      ∀ g, ((parts g).map (·.source)).Sublist (sources g) ∧
        ∀ a ∈ parts g, a.source.readable = true ∧
          IsFirstWritable (targets g) a.source.name a.target := by
  refine ⟨fun g => (matchMembers (sources g) (targets g)).filterMap (assignment? classes registry),
    ?_, fun g => ⟨?_, fun a ha => ?_⟩⟩
  · rw [hp, matchGroups, List.filterMap_append]
  · exact (assignments_sources_sublist _).trans (matchMembers_sources_sublist _ _)
  · obtain ⟨pair, hpair, hassigned⟩ := List.mem_filterMap.mp ha
    obtain ⟨hsource, htarget⟩ := assignment?_members hassigned
    obtain ⟨-, hmatch⟩ := mem_matchMembers.mp hpair
    rw [hsource, htarget]
    exact matchFor?_eq_some_iff.mp hmatch

/-- A member whose pair is skipped is not read at all: names are distinct, so no other pair
reads it. -/
theorem filter_assignments_of_skipped
    (hs : ∀ g, classes.members source g = .ok (sources g))
    (hresolves : ∀ pair ∈ matchGroups sources targets, Resolves classes registry pair)
    (hp : p.assignments = (matchGroups sources targets).filterMap (assignment? classes registry))
    {m t : Member} (hpair : (m, t) ∈ matchGroups sources targets)
    (hskip : Resolver.Skipped classes registry m t) :
    p.assignments.filter (·.source.name == m.name) = [] := by
  rw [hp]
  refine List.filter_eq_nil_iff.mpr fun a ha hname => ?_
  obtain ⟨other, hother, hassigned⟩ := List.mem_filterMap.mp ha
  have hsource := (assignment?_members hassigned).1
  have hsame : other = (m, t) := by
    apply List.inj_on_of_nodup_map (nodup_matchGroups hs) hother hpair
    rw [← hsource]
    exact eq_of_beq hname
  have hnone := assignment?_of_skipped (hresolves _ hpair) hskip
  rw [hsame, hnone] at hassigned
  cases hassigned

theorem filter_assignments_of_not_skipped
    (hs : ∀ g, classes.members source g = .ok (sources g))
    (hresolves : ∀ pair ∈ matchGroups sources targets, Resolves classes registry pair)
    (hp : p.assignments = (matchGroups sources targets).filterMap (assignment? classes registry))
    {m t : Member} (hpair : (m, t) ∈ matchGroups sources targets)
    (hskip : ¬ Resolver.Skipped classes registry m t) :
    ∃ strategy operation,
      p.assignments.filter (·.source.name == m.name) = [⟨m, t, strategy, operation⟩] := by
  obtain ⟨strategy, operation, ha⟩ := assignment?_of_not_skipped (hresolves _ hpair) hskip
  refine ⟨strategy, operation, ?_⟩
  have hmem : (⟨m, t, strategy, operation⟩ : Assignment Converter) ∈
      (matchGroups sources targets).filterMap (assignment? classes registry) :=
    List.mem_filterMap.mpr ⟨(m, t), hpair, ha⟩
  rw [hp]
  exact filter_key_eq_singleton (·.source.name)
    (nodup_assignments_sources (nodup_matchGroups hs)) hmem

/-- Every plan keeps its promise to the members of its classes. -/
theorem build_conforms {creates : Bool}
    (h : (build classes registry (.cls source) (.cls target) creates).outcome = .ok p) :
    ∃ sources targets, (∀ g, classes.members source g = .ok (sources g)) ∧
      (∀ g, classes.members target g = .ok (targets g)) ∧
      Conforms classes registry sources targets p := by
  obtain ⟨matched, hpairs, hdistinct, hresolves, hp⟩ := build_eq_ok h
  obtain ⟨sources, targets, hs, ht, rfl⟩ := pairs_eq_ok hpairs
  refine ⟨sources, targets, hs, ht, ordered_of_matchGroups hp, ?_, ?_⟩
  · rw [hp]
    exact nodup_assignments_targets hdistinct
  · rintro g m hm hr ⟨u, hu, hw, hname⟩
    obtain ⟨t, hmatch⟩ := exists_matchFor? hr hu hw hname
    have hpair : (m, t) ∈ matchGroups sources targets := mem_matchGroups.mpr ⟨g, hm, hmatch⟩
    refine ⟨t, (matchFor?_eq_some_iff.mp hmatch).2, ?_⟩
    by_cases hskip : Resolver.Skipped classes registry m t
    · exact .inl ⟨hskip, filter_assignments_of_skipped hs hresolves hp hpair hskip⟩
    · exact .inr ⟨hskip, filter_assignments_of_not_skipped hs hresolves hp hpair hskip⟩

theorem describes_of_mem_members {c : ClassRef} {g : MemberGroup} {members : List Member}
    (h : classes.members c g = .ok members) {m : Member} (hm : m ∈ members) :
    ∃ t, Member.Describes classes t m := by
  cases g with
  | properties =>
      obtain ⟨name, p, t, -, hm⟩ := Classes.mem_properties h hm
      exact ⟨t, name, _, _, hm⟩
  | fields =>
      obtain ⟨name, t, writable, hm, -⟩ := Classes.mem_fields h hm
      exact ⟨t, name, true, writable, hm⟩

/-- Every assignment of a plan is chosen for two members of the classes. -/
theorem build_chooses {creates : Bool}
    (h : (build classes registry (.cls source) (.cls target) creates).outcome = .ok p)
    {a : Assignment Converter} (ha : a ∈ p.assignments) :
    (∃ s, Member.Describes classes s a.source) ∧ (∃ t, Member.Describes classes t a.target) ∧
      Resolver.Chooses classes registry a.source a.target a.operation := by
  obtain ⟨matched, hpairs, -, -, hp⟩ := build_eq_ok h
  obtain ⟨sources, targets, hs, ht, rfl⟩ := pairs_eq_ok hpairs
  rw [hp] at ha
  obtain ⟨⟨m, t⟩, hpair, ha⟩ := List.mem_filterMap.mp ha
  obtain ⟨g, hm, hmatch⟩ := mem_matchGroups.mp hpair
  obtain ⟨-, hfirst⟩ := matchFor?_eq_some_iff.mp hmatch
  obtain ⟨rfl, rfl, hchooses⟩ := Resolver.chooses_of_resolve (assignment?_eq_some_iff.mp ha)
  exact ⟨describes_of_mem_members (hs g) hm, describes_of_mem_members (ht g) hfirst.mem, hchooses⟩

/-- A class whose fields are only annotated. -/
def annotatedClass (name : String) (fields : List (String × TypeExpr)) : Class :=
  ⟨⟨name, .plain, [], none, fields.map fun (field, type) =>
      .field ⟨field, type, .missing, false, none, true, none⟩, none⟩,
    [.declared name, .builtin .object]⟩

/-- Orders and invoices, whose items are matched but of no known type in orders. -/
def invoicing : Classes := [
  annotatedClass "Order" [("number", .builtin .int), ("items", .builtin .list)],
  annotatedClass "Invoice" [("Number", .builtin .str),
    ("items", .applied (.builtin .list) [.builtin .int])]]

theorem build_conforms_invoice : ∃ p : Plan Unit,
    (build invoicing .empty (.cls (.declared "Order")) (.cls (.declared "Invoice")) false).outcome =
      .ok p ∧
    p.assignments.map Assignment.text = ["number -> Number [matching_nullability/convert]"] ∧
    ∃ sources targets, (∀ g, invoicing.members (.declared "Order") g = .ok (sources g)) ∧
      (∀ g, invoicing.members (.declared "Invoice") g = .ok (targets g)) ∧
      Conforms invoicing .empty sources targets p := by
  have htexts : ((build invoicing (Registry.empty : Registry Unit) (.cls (.declared "Order"))
      (.cls (.declared "Invoice")) false).outcome.toOption.map
        fun p => p.assignments.map Assignment.text) =
      some ["number -> Number [matching_nullability/convert]"] := by decide +kernel
  cases hp : (build invoicing (Registry.empty : Registry Unit) (.cls (.declared "Order"))
      (.cls (.declared "Invoice")) false).outcome with
  | error fault =>
      rw [hp] at htexts
      cases htexts
  | ok p =>
      rw [hp] at htexts
      exact ⟨p, rfl, Option.some.inj htexts, build_conforms hp⟩

end Plan

end Memberwise
