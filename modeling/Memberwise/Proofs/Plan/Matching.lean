import Memberwise.Plan.Build
import Memberwise.Proofs.Member.Names

/-! # Matching of members

Which pairs of members a plan is made from.  In each of the two groups a readable member of the
source goes to the first writable member of the target that has its name, whatever its case.
-/

namespace Memberwise

/-- The groups in which members are matched. -/
inductive MemberGroup where
  | properties
  | fields
deriving DecidableEq, Repr

/-- The members of a class in a group. -/
def Classes.members (classes : Classes) (c : ClassRef) : MemberGroup → Except Fault (List Member)
  | .properties => classes.properties c
  | .fields => classes.fields c

/-- A name tells the members of both groups apart. -/
theorem Classes.nodup_members {classes : Classes} {c : ClassRef}
    {members : MemberGroup → List Member} (h : ∀ g, classes.members c g = .ok (members g)) :
    ((members .properties ++ members .fields).map (·.name)).Nodup := by
  have hp := classes.nodup_properties c (h .properties)
  have hf := classes.nodup_fields c (h .fields)
  have hpf := classes.properties_disjoint_fields c (h .properties) (h .fields)
  rw [List.map_append]
  exact hp.append hf hpf

/-- Members of one name are one member, and of one group. -/
theorem Classes.member_unique {classes : Classes} {c : ClassRef}
    {members : MemberGroup → List Member} (h : ∀ g, classes.members c g = .ok (members g))
    {g g' : MemberGroup} {m m' : Member} (hm : m ∈ members g) (hm' : m' ∈ members g')
    (hname : m.name = m'.name) : g = g' ∧ m = m' := by
  have hp := classes.nodup_properties c (h .properties)
  have hf := classes.nodup_fields c (h .fields)
  have hpf := classes.properties_disjoint_fields c (h .properties) (h .fields)
  cases g <;> cases g'
  · exact ⟨rfl, List.inj_on_of_nodup_map hp hm hm' hname⟩
  · exact absurd (hname ▸ List.mem_map_of_mem hm') (hpf (List.mem_map_of_mem hm))
  · exact absurd (hname ▸ List.mem_map_of_mem hm) (hpf (List.mem_map_of_mem hm'))
  · exact ⟨rfl, List.inj_on_of_nodup_map hf hm hm' hname⟩

namespace Plan

variable {classes : Classes}

/-! ## The target of a member -/

/-- The first writable member that has a name, whatever its case. -/
def IsFirstWritable (targets : List Member) (name : String) (target : Member) : Prop :=
  ∃ before after, targets = before ++ target :: after ∧ target.writable = true ∧
    Text.fold target.name = Text.fold name ∧
      ∀ t ∈ before, t.writable = true → Text.fold t.name ≠ Text.fold name

theorem IsFirstWritable.mem {targets : List Member} {name : String} {target : Member}
    (h : IsFirstWritable targets name target) : target ∈ targets := by
  obtain ⟨before, after, rfl, -⟩ := h
  simp

theorem IsFirstWritable.writable {targets : List Member} {name : String} {target : Member}
    (h : IsFirstWritable targets name target) : target.writable = true := by
  obtain ⟨-, -, -, hw, -⟩ := h
  exact hw

theorem matchFor?_eq_some_iff {source target : Member} {targets : List Member} :
    matchFor? source targets = some target ↔
      source.readable = true ∧ IsFirstWritable targets source.name target := by
  unfold matchFor? IsFirstWritable
  by_cases hr : source.readable = true
  · simp only [hr, if_true, true_and, List.find?_eq_some_iff_append, Bool.and_eq_true, beq_iff_eq,
      Bool.not_eq_true', Bool.and_eq_false_iff, beq_eq_false_iff_ne]
    constructor
    · rintro ⟨⟨hname, hw⟩, before, after, rfl, hbefore⟩
      refine ⟨before, after, rfl, hw, hname.symm, fun t ht htw heq => ?_⟩
      obtain hn | hn := hbefore t ht
      · exact hn heq.symm
      · rw [htw] at hn
        cases hn
    · rintro ⟨before, after, rfl, hw, hname, hbefore⟩
      refine ⟨⟨hname.symm, hw⟩, before, after, rfl, fun t ht => ?_⟩
      cases htw : t.writable with
      | false => exact .inr rfl
      | true => exact .inl fun heq => hbefore t ht htw heq.symm
  · simp [hr]

/-- A readable member has a target as soon as some writable member has its name. -/
theorem exists_matchFor? {source : Member} {targets : List Member}
    (hr : source.readable = true) {u : Member} (hu : u ∈ targets) (hw : u.writable = true)
    (hname : Text.fold u.name = Text.fold source.name) :
    ∃ target, matchFor? source targets = some target := by
  unfold matchFor?
  rw [if_pos hr]
  refine Option.isSome_iff_exists.mp (List.find?_isSome.mpr ⟨u, hu, ?_⟩)
  simp [hw, hname]

/-- Readable members of one name have one target. -/
theorem matchFor?_congr {source other : Member} {targets : List Member}
    (hr : source.readable = true) (ho : other.readable = true)
    (hname : Text.fold source.name = Text.fold other.name) :
    matchFor? source targets = matchFor? other targets := by
  simp only [matchFor?, hr, ho, if_true, hname]

/-! ## Matching pairs -/

theorem mem_matchMembers {sources targets : List Member} {source target : Member} :
    (source, target) ∈ matchMembers sources targets ↔
      source ∈ sources ∧ matchFor? source targets = some target := by
  simp only [matchMembers, List.mem_filterMap, Option.map_eq_some_iff, Prod.mk.injEq]
  constructor
  · rintro ⟨s, hs, t, ht, rfl, rfl⟩
    exact ⟨hs, ht⟩
  · rintro ⟨hs, ht⟩
    exact ⟨source, hs, target, ht, rfl, rfl⟩

theorem matchMembers_sources_sublist (sources targets : List Member) :
    ((matchMembers sources targets).map (·.1)).Sublist sources := by
  have h : ((matchMembers sources targets).map (·.1)).Sublist (sources.map id) := by
    refine map_filterMap_sublist ?_ sources
    intro source pair hpair
    obtain ⟨target, _, rfl⟩ := Option.map_eq_some_iff.mp hpair
    rfl
  rwa [List.map_id] at h

/-- The members of a class that has fields only. -/
def fieldsOnly (members : List Member) : MemberGroup → List Member
  | .properties => []
  | .fields => members

/-- The pairs of both groups. -/
def matchGroups (sources targets : MemberGroup → List Member) : List (Member × Member) :=
  matchMembers (sources .properties) (targets .properties) ++
    matchMembers (sources .fields) (targets .fields)

theorem mem_matchGroups {sources targets : MemberGroup → List Member} {source target : Member} :
    (source, target) ∈ matchGroups sources targets ↔
      ∃ g, source ∈ sources g ∧ matchFor? source (targets g) = some target := by
  simp only [matchGroups, List.mem_append, mem_matchMembers]
  constructor
  · rintro (h | h)
    · exact ⟨.properties, h⟩
    · exact ⟨.fields, h⟩
  · rintro ⟨_ | _, h⟩
    · exact .inl h
    · exact .inr h

/-- A member stands in one pair at most. -/
theorem nodup_matchGroups {source : ClassRef} {sources targets : MemberGroup → List Member}
    (h : ∀ g, classes.members source g = .ok (sources g)) :
    ((matchGroups sources targets).map (·.1.name)).Nodup := by
  refine (Classes.nodup_members h).sublist ?_
  have hsources := (matchMembers_sources_sublist (sources .properties) (targets .properties)).append
    (matchMembers_sources_sublist (sources .fields) (targets .fields))
  have hnames := hsources.map (·.name)
  simpa only [matchGroups, List.map_append, List.map_map, Function.comp_def] using hnames

theorem pairs_of_members {source target : ClassRef} {sources targets : MemberGroup → List Member}
    (hs : ∀ g, classes.members source g = .ok (sources g))
    (ht : ∀ g, classes.members target g = .ok (targets g)) :
    pairs classes source target = .ok (matchGroups sources targets) := by
  have hsp : classes.properties source = .ok (sources .properties) := hs .properties
  have htp : classes.properties target = .ok (targets .properties) := ht .properties
  have hsf : classes.fields source = .ok (sources .fields) := hs .fields
  have htf : classes.fields target = .ok (targets .fields) := ht .fields
  simp only [pairs, hsp, htp, hsf, htf, bind, Except.bind]
  rfl

theorem pairs_eq_ok {source target : ClassRef} {matched : List (Member × Member)}
    (h : pairs classes source target = .ok matched) :
    ∃ sources targets : MemberGroup → List Member,
      (∀ g, classes.members source g = .ok (sources g)) ∧
      (∀ g, classes.members target g = .ok (targets g)) ∧
      matched = matchGroups sources targets := by
  obtain ⟨sourceProperties, hsp, h⟩ := bind_eq_ok.mp h
  obtain ⟨targetProperties, htp, h⟩ := bind_eq_ok.mp h
  obtain ⟨sourceFields, hsf, h⟩ := bind_eq_ok.mp h
  obtain ⟨targetFields, htf, h⟩ := bind_eq_ok.mp h
  cases h
  refine ⟨fun | .properties => sourceProperties | .fields => sourceFields,
    fun | .properties => targetProperties | .fields => targetFields, ?_, ?_, rfl⟩
  · rintro (_ | _)
    · exact hsp
    · exact hsf
  · rintro (_ | _)
    · exact htp
    · exact htf

end Plan

end Memberwise
