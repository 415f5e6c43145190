import Memberwise.Proofs.Mapper.Identity
import Memberwise.Proofs.Member.Stated
import Memberwise.Proofs.Plan.Interference

/-! # There and back

Two classes whose fields have the same names, whatever their case, and the same types but for
options that one of the classes adds, pass the values of their fields on to each other.  So an
object that is mapped to the other class and back comes back with the values that it had.
-/

namespace Memberwise

open TypeExpr

/-! ## Members that differ in an option -/

/-- Whether a member is declared with the type of another one, which is no union, or with that type
made optional. -/
structure Member.Widens (m n : Member) : Prop where
  single : m.declared.isUnion = false
  declared : Same m.declared n.declared ∨ Same m.declared.optional n.declared

section Widening

variable {classes : Classes} {m n : Member} {s t : TypeExpr}

/-- A type whose normal spelling is no union is spelled so itself. -/
theorem unwraps_of_single (hs : s.IsFlat) (h : s.normalize.isUnion = false) :
    s.unwrapOptional = s ∧ s.normalize = s := by
  cases unwraps hs with
  | plain hsame _ hnormal => exact ⟨hsame, hnormal⟩
  | option _ _ _ _ hnormal =>
      rw [hnormal] at h
      cases h

theorem isUnion_of_same (h : Same s t) (hs : s.isUnion = false) : t.isUnion = false := by
  cases t with
  | union style members =>
      obtain ⟨_, _, rfl, -⟩ := same_union_iff.mp (same_symm h)
      cases hs
  | _ => rfl

/-- A type with an option has the type that it makes optional. -/
theorem same_unwrapOptional_of_optional (hs : s.isUnion = false) (ht : t.IsFlat)
    (h : Same s.optional t.normalize) : Same s t.unwrapOptional := by
  cases hnone : s.isNoneType with
  | true =>
      obtain rfl := eq_noneType_of_isNoneType hnone
      have hnever : noneType.optional = noneType := by
        simp [TypeExpr.optional, unionOf, dedup, unionMembers, TypeExpr.same]
      have hsame : Same noneType t.normalize := by rwa [hnever] at h
      rw [(unwraps_of_single ht (isUnion_of_same hsame rfl)).1]
      rwa [(unwraps_of_single ht (isUnion_of_same hsame rfl)).2] at hsame
  | false =>
      rw [optional_of_not_isUnion hs hnone] at h
      have hwrapped := isWrapped_of_same_pair (isFlat_normalize ht) hnone h
      cases unwraps ht with
      | plain _ hplain hnormal =>
          rw [hnormal, hplain] at hwrapped
          cases hwrapped
      | option _ _ _ _ hnormal =>
          rw [hnormal] at h
          exact same_of_same_pair hnone h

theorem Member.Widens.underlying (h : m.Widens n) (hm : Member.Describes classes s m)
    (hs : s.IsFlat) (hn : Member.Describes classes t n) (ht : t.IsFlat) :
    Same s.unwrapOptional t.unwrapOptional ∧ m.isNullable = false := by
  obtain ⟨hsingle, hdeclared⟩ := h
  obtain ⟨_, _, _, rfl⟩ := hm
  obtain ⟨_, _, _, rfl⟩ := hn
  obtain ⟨hunwrap, hnormal⟩ := unwraps_of_single hs hsingle
  simp only [Member.describe, hnormal] at hdeclared hsingle
  constructor
  · rw [hunwrap]
    rcases hdeclared with hsame | hsame
    · have hplain := unwraps_of_single ht (isUnion_of_same hsame hsingle)
      rw [hplain.1]
      rwa [hplain.2] at hsame
    · exact same_unwrapOptional_of_optional hsingle ht hsame
  · have hoptional : s.isOptional = false := by
      cases s with
      | union => cases hsingle
      | _ => rfl
    simp [Member.describe, hoptional]

end Widening

/-! ## Classes that are made without arguments -/

namespace World

variable {w w' : World} {p : Place}

theorem not_required_of_distribute {params : List Parameter} {call : Call}
    (h : Arguments.none.distribute params = .ok call) : ∀ q ∈ params, q.isRequired = false := by
  have hbound : (params.any fun q => q.isRequired) = false := by
    refine Bool.eq_false_iff.mpr fun hrequired => ?_
    simp [Arguments.distribute, Arguments.none, hrequired] at h
  exact fun q hq => Bool.eq_false_iff.mpr (List.any_eq_false.mp hbound q hq)

/-- What is run to initialize an object without arguments asks for none. -/
def AsksNothing (classes : Classes) : Classes.InitSource → Prop
  | .declared _ init => ∀ q ∈ init.parameters, q.isRequired = false
  | .generated owner => ∀ f ∈ classes.recordArguments (.declared owner),
      (f.inInit && !f.default.isPresent) = false
  | .bag _ => True
  | .builtin b => b.requiredArguments = []

theorem asksNothing_of_initializeBuiltin {b : Builtin}
    (h : w.initializeBuiltin b .none = .ok w') : AsksNothing w.classes (.builtin b) := by
  obtain ⟨-, hneeds, -⟩ := initializeBuiltin_eq_ok.mp h
  cases b <;> first | rfl | cases hneeds

theorem asksNothing_of_initializeRecord {owner : String} {options : RecordOptions}
    (h : w.initializeRecord p owner options .none = .ok w') :
    AsksNothing w.classes (.generated owner) := by
  unfold initializeRecord at h
  dsimp only at h
  split at h
  · cases h
  · rename_i call hcall
    intro f hf
    cases hin : f.inInit with
    | false => rfl
    | true =>
        have hparameter : f.parameter ∈
            ((w.classes.recordArguments (.declared owner)).filter (·.inInit)).map
              Field.parameter :=
          List.mem_map_of_mem (List.mem_filter.mpr ⟨hf, hin⟩)
        have hrequired := not_required_of_distribute hcall _ hparameter
        rwa [isRequired_parameter] at hrequired

theorem asksNothing_of_runInitializer {lineage : List ClassRef}
    (h : w.runInitializer p lineage .none = .ok w') :
    AsksNothing w.classes (w.classes.initSourceIn lineage) := by
  induction lineage with
  | nil => exact asksNothing_of_initializeBuiltin h
  | cons c rest ih =>
      cases c with
      | builtin b =>
          rw [runInitializer_builtin] at h
          unfold Classes.initSourceIn
          split at h
          · rename_i hinitializes
            rw [if_pos hinitializes]
            exact asksNothing_of_initializeBuiltin h
          · rename_i hinitializes
            rw [if_neg hinitializes]
            exact ih h
      | declared name =>
          unfold runInitializer at h
          unfold Classes.initSourceIn
          cases hfound : w.classes.find? name with
          | none =>
              simp only [Classes.declOf?, hfound, Option.map_none] at h ⊢
              exact ih h
          | some found =>
              simp only [Classes.declOf?, hfound, Option.map_some] at h ⊢
              cases hinit : found.decl.init with
              | some init =>
                  rw [hinit] at h
                  dsimp only at h ⊢
                  split at h
                  · cases h
                  · rename_i call hcall
                    exact not_required_of_distribute hcall
              | none =>
                  rw [hinit] at h
                  cases hkind : found.decl.kind with
                  | record options =>
                      rw [hkind] at h
                      dsimp only at h ⊢
                      split at h
                      · rename_i hgenerates
                        rw [if_pos hgenerates]
                        exact asksNothing_of_initializeRecord h
                      · rename_i hgenerates
                        rw [if_neg hgenerates]
                        exact ih h
                  | bag => trivial
                  | plain | model | enumeration =>
                      rw [hkind] at h
                      exact ih h

/-- A class of which an object can be made without arguments requires none. -/
theorem requiredArguments_of_create {name : String} (hc : w.classes.IsOrdinary name)
    {made : World × Slot} (h : w.create (.declared name) [] = .ok made) :
    w.classes.requiredArguments (.declared name) = [] := by
  obtain ⟨core, w₁, hrun, -⟩ := create_of_isOrdinary hc h
  rw [show (⟨[], []⟩ : Arguments) = .none from rfl, initialArguments_none] at hrun
  have hasks : AsksNothing w.classes (w.classes.initSource (.declared name)) :=
    asksNothing_of_runInitializer (w := (w.alloc (.object name core [])).1) hrun
  unfold Classes.requiredArguments
  rw [if_neg (by simp [hc.noModel])]
  have hnone : ∀ {α : Type} {f : α → Option String} {l : List α},
      (∀ x ∈ l, f x = none) → Classes.sortNames (l.filterMap f) = [] := by
    intro α f l hall
    exact Classes.sortNames_eq_nil.mpr (List.filterMap_eq_nil_iff.mpr hall)
  cases hsource : w.classes.initSource (.declared name) with
  | declared owner init =>
      rw [hsource] at hasks
      exact hnone fun q hq => if_neg (by simp [hasks q hq])
  | generated owner =>
      rw [hsource] at hasks
      exact hnone fun f hf => if_neg (by rw [hasks f hf]; exact Bool.false_ne_true)
  | bag => exact Classes.sortNames_eq_nil.mpr rfl
  | builtin b =>
      rw [hsource] at hasks
      exact Classes.sortNames_eq_nil.mpr hasks

end World

/-! ## Plans that pass values on -/

namespace Plan

variable {classes : Classes} {source target : ClassRef} {sources targets : List Member}

theorem compileFactory_isOk {p : Plan Converter} (hcreates : p.createsTarget = true)
    (hsteps : p.steps = p.assignments.map .assignment)
    (h : ∀ a ∈ p.assignments, ∀ v, a.operation ≠ .foreign v) :
    ∃ f, p.compileFactory classes = .ok f ∧ f.creates = some p.target ∧
      f.steps = p.assignments := by
  have hall : p.steps.mapM (supportedStep classes) = .ok p.assignments := by
    rw [hsteps, mapM_eq_ok_iff, List.forall₂_map_left_iff, List.forall₂_same]
    exact fun a ha => supportedStep_of_assignment (h a ha)
  refine ⟨⟨p.functionName "create", p.absenceMessage, some p.target, p.assignments⟩, ?_, rfl, rfl⟩
  unfold compileFactory
  rw [hall, hcreates]
  rfl

theorem members_of_no_properties {c : ClassRef} {members : List Member}
    (hnone : classes.publicProperties c = []) (h : classes.fields c = .ok members)
    (g : MemberGroup) : classes.members c g = .ok (fieldsOnly members g) := by
  cases g with
  | properties =>
      show classes.properties c = _
      unfold Classes.properties
      rw [hnone]
      rfl
  | fields => exact h

theorem mem_of_matched_fields {pair : Member × Member}
    (h : pair ∈ matchGroups (fieldsOnly sources) (fieldsOnly targets)) :
    pair.1 ∈ sources ∧ pair.2 ∈ targets ∧ Text.fold pair.2.name = Text.fold pair.1.name := by
  obtain ⟨g, hm, hmatch⟩ := mem_matchGroups.mp h
  obtain ⟨-, hfirst⟩ := matchFor?_eq_some_iff.mp hmatch
  cases g with
  | properties => cases hm
  | fields =>
      obtain ⟨-, -, -, -, hname, -⟩ := id hfirst
      exact ⟨hm, hfirst.mem, hname⟩

/-- Fields whose names differ by more than case go to different fields. -/
theorem nodup_matched_fields
    (hsources : ∀ g, classes.members source g = .ok (fieldsOnly sources g))
    (htargets : ∀ g, classes.members target g = .ok (fieldsOnly targets g))
    (hnames : DistinctNames sources) :
    ((matchGroups (fieldsOnly sources) (fieldsOnly targets)).map (·.2.name)).Nodup := by
  by_contra hclash
  obtain ⟨g, ms, ts, hms, -, m, hm, m', hm', hne, -, -, hname, -⟩ :=
    contended_of_not_nodup hsources htargets hclash
  rw [hsources g] at hms
  cases hms
  cases g with
  | properties => cases hm
  | fields => exact hne (List.inj_on_of_nodup_map hnames hm hm' hname)

/-- Where each field has a field of its name to go to, and goes there as it is, the factory of two
classes without properties has one step for each field. -/
theorem build_direct (registry : Registry Converter) (source target : ClassRef)
    (hrequired : classes.requiredArguments target = [])
    (hsources : ∀ g, classes.members source g = .ok (fieldsOnly sources g))
    (htargets : ∀ g, classes.members target g = .ok (fieldsOnly targets g))
    (hnames : DistinctNames sources)
    (hpartner : ∀ m ∈ sources, m.readable = true ∧
      ∃ n ∈ targets, n.writable = true ∧ Text.fold n.name = Text.fold m.name)
    (hdirect : ∀ m ∈ sources, ∀ n ∈ targets, Text.fold n.name = Text.fold m.name →
      Resolver.isDirect classes m n = true) :
    ∃ p f, (build classes registry (.cls source) (.cls target) true).outcome = .ok p ∧
      p.compileFactory classes = .ok f ∧ f.creates = some target ∧
      (f.steps.map (·.target.name)).Nodup ∧
      (∀ a ∈ f.steps, a.source ∈ sources ∧ a.target ∈ targets ∧
        Text.fold a.target.name = Text.fold a.source.name ∧
        a.operation = Resolver.directOperation classes a.source a.target) ∧
      ∀ m ∈ sources, ∃ a ∈ f.steps, a.source = m := by
  have hdistinct := nodup_matched_fields hsources htargets hnames
  have hdecided : ∀ pair ∈ matchGroups (fieldsOnly sources) (fieldsOnly targets),
      ∃ strategy, Resolver.resolve classes registry pair.1 pair.2 =
        Resolver.decide pair.1 pair.2 strategy
          (Resolver.directOperation classes pair.1 pair.2) := by
    intro pair hpair
    obtain ⟨hm, hn, hname⟩ := mem_of_matched_fields hpair
    exact Resolver.resolve_eq_of_direct registry (hdirect _ hm _ hn hname)
  obtain ⟨p, hp, hassignments⟩ := build_isOk registry
    (fun _ : true = true => hrequired) (pairs_of_members hsources htargets) hdistinct
    fun pair hpair => by
      obtain ⟨strategy, hdecides⟩ := hdecided pair hpair
      exact ⟨_, by rw [hdecides]; rfl⟩
  obtain ⟨-, htarget, hcreates, hsteps⟩ := steps_of_build_eq_ok hp
  have hassigned : ∀ a ∈ p.assignments, a.source ∈ sources ∧ a.target ∈ targets ∧
      Text.fold a.target.name = Text.fold a.source.name ∧
      a.operation = Resolver.directOperation classes a.source a.target := by
    intro a ha
    rw [hassignments] at ha
    obtain ⟨pair, hpair, hresolves⟩ := List.mem_filterMap.mp ha
    obtain ⟨strategy, hdecides⟩ := hdecided pair hpair
    rw [assignment?_eq_some_iff, hdecides] at hresolves
    cases hresolves
    obtain ⟨hm, hn, hname⟩ := mem_of_matched_fields hpair
    exact ⟨hm, hn, hname, rfl⟩
  have hsupported : ∀ a ∈ p.assignments, ∀ v, a.operation ≠ .foreign v := by
    intro a ha v
    rw [(hassigned a ha).2.2.2, Resolver.directOperation]
    split <;> intro hforeign <;> cases hforeign
  obtain ⟨f, hf, hmakes, hsame⟩ := compileFactory_isOk hcreates hsteps hsupported
  refine ⟨p, f, hp, hf, by rw [hmakes, htarget], ?_, by rwa [hsame], ?_⟩
  · rw [hsame, hassignments]
    exact nodup_assignments_targets hdistinct
  · intro m hm
    obtain ⟨hreadable, n, hn, hw, hname⟩ := hpartner m hm
    obtain ⟨t, ht⟩ := exists_matchFor? hreadable hn hw hname
    have hpair : (m, t) ∈ matchGroups (fieldsOnly sources) (fieldsOnly targets) :=
      mem_matchGroups.mpr ⟨.fields, hm, ht⟩
    obtain ⟨strategy, hdecides⟩ := hdecided _ hpair
    refine ⟨⟨m, t, strategy, Resolver.directOperation classes m t⟩, ?_, rfl⟩
    rw [hsame, hassignments]
    refine List.mem_filterMap.mpr ⟨(m, t), hpair, assignment?_eq_some_iff.mpr ?_⟩
    rw [hdecides]
    rfl

end Plan

/-! ## Two mappings -/

/-- A plain class or record class without properties that is made without arguments, and whose
instances take every attribute. -/
structure Classes.IsBlank (classes : Classes) (name : String) : Prop where
  ordinary : classes.IsOrdinary name
  accepts : classes.IsOpen name
  noProperties : classes.publicProperties (.declared name) = []
  makes : ∀ w : World, w.classes = classes → ∃ made, w.create (.declared name) [] = .ok made

/-- Whether the fields of one class are those of another, but for the case of their names and the
options that the other class adds to their types. -/
structure Corresponds (sources targets : List Member) : Prop where
  sourceNames : DistinctNames sources
  targetNames : DistinctNames targets
  covered : ∀ m ∈ sources, ∃ n ∈ targets, Text.fold n.name = Text.fold m.name
  onto : ∀ n ∈ targets, ∃ m ∈ sources, Text.fold m.name = Text.fold n.name
  widens : ∀ m ∈ sources, ∀ n ∈ targets, Text.fold n.name = Text.fold m.name → m.Widens n

section Fields

variable {classes : Classes} {A B : String} {sources targets : List Member} {m n : Member}

/-- The fields of a blank class can be read and written, and a flat type is stated for them. -/
theorem Classes.IsBlank.describes (hA : classes.IsBlank A)
    (hsources : classes.fields (.declared A) = .ok sources) (hm : m ∈ sources) :
    m.readable = true ∧ m.writable = true ∧ ∃ t, t.IsFlat ∧ Member.Describes classes t m := by
  obtain ⟨t, ht, hdescribe⟩ :=
    Classes.exists_isFlat_of_mem_fields hA.ordinary.noModel hsources hm
  rw [Classes.isFrozenRecord_of_open hA.accepts] at hdescribe
  refine ⟨?_, ?_, t, ht, _, _, _, hdescribe⟩
  · rw [hdescribe]
    rfl
  · rw [hdescribe]
    rfl

/-- Fields that correspond go to each other as they are, and the field of the first class is the
one without an option. -/
theorem Corresponds.direct (h : Corresponds sources targets) (hA : classes.IsBlank A)
    (hB : classes.IsBlank B) (hsources : classes.fields (.declared A) = .ok sources)
    (htargets : classes.fields (.declared B) = .ok targets) (hm : m ∈ sources) (hn : n ∈ targets)
    (hname : Text.fold n.name = Text.fold m.name) :
    Resolver.isDirect classes m n = true ∧ Resolver.isDirect classes n m = true ∧
      m.isNullable = false ∧ (n.isValueKind = true → m.isValueKind = true) := by
  obtain ⟨-, -, s, hs, hms⟩ := hA.describes hsources hm
  obtain ⟨-, -, t, ht, hnt⟩ := hB.describes htargets hn
  obtain ⟨hsame, hnever⟩ := (h.widens m hm n hn hname).underlying hms hs hnt ht
  refine ⟨Resolver.isDirect_of_underlying hms hs hnt ht hsame,
    Resolver.isDirect_of_underlying hnt ht hms hs (same_symm hsame), hnever, fun hkind => ?_⟩
  obtain ⟨_, _, _, rfl⟩ := hms
  obtain ⟨_, _, _, rfl⟩ := hnt
  simp only [Member.describe, Classes.isValueKind_unwrapOptional classes hs,
    Classes.isValueKind_unwrapOptional classes ht] at hkind ⊢
  exact (Resolver.isValueKind_of_underlying hkind (same_symm hsame)).2

end Fields

/-- Two classes whose fields correspond have factories in both directions, whatever the rules.  An
object that has the fields of the first class, none of them absent that is a value kind, is mapped
by them to an instance of the second class, and that to an instance of the first class with the
values that the object had. -/
theorem Plan.round_trip {classes : Classes} {A B : String} {sources targets : List Member}
    (hA : classes.IsBlank A) (hB : classes.IsBlank B)
    (hsources : classes.fields (.declared A) = .ok sources)
    (htargets : classes.fields (.declared B) = .ok targets)
    (h : Corresponds sources targets) (registry : Registry Converter) :
    ∃ p q f g,
      (build classes registry (.cls (.declared A)) (.cls (.declared B)) true).outcome = .ok p ∧
      (build classes registry (.cls (.declared B)) (.cls (.declared A)) true).outcome = .ok q ∧
      p.compileFactory classes = .ok f ∧ q.compileFactory classes = .ok g ∧
      ∀ (w : World) (a : Place) (value : String → Slot), w.classes = classes →
        (∀ m ∈ sources, w.getAttribute (.ref a) m.name = .ok (w, value m.name) ∧
          (m.isValueKind = true → (value m.name).isNone = false)) →
        ∃ w₁ b w₂ a', w.produce f (.ref a) = (w₁, .ok (.ref b)) ∧ w₁.IsInstance b B ∧
          w₁.produce g (.ref b) = (w₂, .ok (.ref a')) ∧ w₂.IsInstance a' A ∧
          ∀ m ∈ sources, w₂.getAttribute (.ref a') m.name = .ok (w₂, value m.name) := by
  have hfields := members_of_no_properties hA.noProperties hsources
  have hothers := members_of_no_properties hB.noProperties htargets
  have hdirect := fun m hm n hn => h.direct (m := m) (n := n) hA hB hsources htargets hm hn
  obtain ⟨p, f, hp, hf, hmakesB, hnamesB, hstepsB, hallB⟩ := build_direct registry
    (.declared A) (.declared B)
    (by
      obtain ⟨made, hmade⟩ := hB.makes ⟨classes, .empty, [], .empty⟩ rfl
      exact World.requiredArguments_of_create hB.ordinary hmade)
    hfields hothers h.sourceNames
    (fun m hm => by
      obtain ⟨n, hn, hname⟩ := h.covered m hm
      exact ⟨(hA.describes hsources hm).1, n, hn, (hB.describes htargets hn).2.1, hname⟩)
    (fun m hm n hn hname => (hdirect m hm n hn hname).1)
  obtain ⟨q, g, hq, hg, hmakesA, hnamesA, hstepsA, hallA⟩ := build_direct registry
    (.declared B) (.declared A)
    (by
      obtain ⟨made, hmade⟩ := hA.makes ⟨classes, .empty, [], .empty⟩ rfl
      exact World.requiredArguments_of_create hA.ordinary hmade)
    hothers hfields h.targetNames
    (fun n hn => by
      obtain ⟨m, hm, hname⟩ := h.onto n hn
      exact ⟨(hB.describes htargets hn).1, m, hm, (hA.describes hsources hm).2.1, hname⟩)
    (fun n hn m hm hname => (hdirect m hm n hn hname.symm).2.1)
  refine ⟨p, q, f, g, hp, hq, hf, hg, ?_⟩
  rintro w a value rfl hreads
  obtain ⟨w₁, b, hrun, hclasses, hb, hheld⟩ := World.produce_passes (w := w) (f := f) (x := a)
    value hB.ordinary hB.accepts (hB.makes w rfl) hmakesB
    (fun s hs => hB.ordinary.isPlain htargets (hstepsB s hs).2.1) hnamesB
    (fun s hs => (hreads s.source (hstepsB s hs).1).1) (fun s hs => by
      obtain ⟨hm, hn, hname, hoperation⟩ := hstepsB s hs
      refine .inl ?_
      rw [hoperation, Resolver.directOperation, (hdirect _ hm _ hn hname).2.2.1]
      simp)
  -- What the new object holds under the name of a field is what the old one holds under its own.
  obtain ⟨held, hheldB⟩ : ∃ held : String → Slot, ∀ m ∈ sources, ∀ n ∈ targets,
      Text.fold n.name = Text.fold m.name →
        w₁.getAttribute (.ref b) n.name = .ok (w₁, held n.name) ∧ held n.name = value m.name := by
    refine ⟨fun name => ((w₁.getAttribute (.ref b) name).toOption.map (·.2)).getD .none, ?_⟩
    intro m hm n hn hname
    obtain ⟨s, hs, rfl⟩ := hallB m hm
    obtain ⟨-, ht, hnames, -⟩ := hstepsB s hs
    obtain rfl : s.target = n :=
      List.inj_on_of_nodup_map h.targetNames ht hn (hnames.trans hname.symm)
    dsimp only
    rw [hheld s hs]
    exact ⟨rfl, rfl⟩
  obtain ⟨w₂, a', hrun', -, ha', hheld'⟩ := World.produce_passes (w := w₁) (f := g) (x := b)
    held (hclasses ▸ hA.ordinary) (hclasses ▸ hA.accepts) (hA.makes w₁ hclasses) hmakesA
    (fun s hs => hclasses ▸ hA.ordinary.isPlain hsources (hstepsA s hs).2.1) hnamesA
    (fun s hs => by
      obtain ⟨hn, hm, hname, -⟩ := hstepsA s hs
      exact (hheldB _ hm _ hn hname.symm).1)
    (fun s hs => by
      obtain ⟨hn, hm, hname, hoperation⟩ := hstepsA s hs
      obtain ⟨-, -, -, hkinds⟩ := hdirect _ hm _ hn hname.symm
      rw [hoperation, Resolver.directOperation]
      split
      · rename_i hunwraps
        refine .inr ⟨⟨_, rfl⟩, ?_⟩
        simp only [Bool.and_eq_true] at hunwraps
        rw [(hheldB _ hm _ hn hname.symm).2]
        exact (hreads _ hm).2 (hkinds hunwraps.1.1)
      · exact .inl rfl)
  refine ⟨w₁, b, w₂, a', hrun, hb, hrun', ha', fun m hm => ?_⟩
  obtain ⟨n, hn, hname⟩ := h.covered m hm
  obtain ⟨s, hs, rfl⟩ := hallA n hn
  obtain ⟨-, hm', hnames, -⟩ := hstepsA s hs
  obtain rfl : s.target = m :=
    List.inj_on_of_nodup_map h.sourceNames hm' hm (hnames.trans hname)
  rw [hheld' s hs, (hheldB _ hm _ hn hname).2]

/-- Members of a club and the cards that stand for them, on which the age may be left out. -/
def club : Classes := [
  Plan.annotatedClass "Member" [("name", .builtin .str), ("age", .builtin .int)],
  Plan.annotatedClass "Card" [("AGE", .union .named [.builtin .int, .noneType]),
    ("Name", .builtin .str)]]

/-- One member, whose name is empty and whose age is zero. -/
def clubhouse : World where
  classes := club
  store := ⟨#[.object "Member" none [("name", .atom (.str "")), ("age", .atom (.int 0))]]⟩
  constants := []
  schemas := .empty

theorem makes_club {w : World} (h : w.classes = club) {name : String}
    (hname : name = "Member" ∨ name = "Card") :
    ∃ made, w.create (.declared name) [] = .ok made := by
  obtain ⟨classes, store, constants, schemas⟩ := w
  subst h
  rcases hname with rfl | rfl
  · exact ⟨_, rfl⟩
  · exact ⟨_, rfl⟩

theorem isBlank_club {name : String} (hname : name = "Member" ∨ name = "Card") :
    club.IsBlank name := by
  have hdecls : club.declsOf (.declared "Member") = [(club[0]).decl] ∧
      club.declsOf (.declared "Card") = [(club[1]).decl] := ⟨rfl, rfl⟩
  refine ⟨?_, ?_, ?_, fun w hw => makes_club hw hname⟩
  · rcases hname with rfl | rfl
    · exact ⟨by decide +kernel, by decide +kernel, by decide +kernel⟩
    · exact ⟨by decide +kernel, by decide +kernel, by decide +kernel⟩
  · rcases hname with rfl | rfl
    · constructor
      · rw [hdecls.1]
        intro decl hdecl options hkind
        rw [List.mem_singleton.mp hdecl] at hkind
        cases hkind
      · rw [hdecls.1]
        exact ⟨_, List.mem_singleton_self _, rfl⟩
    · constructor
      · rw [hdecls.2]
        intro decl hdecl options hkind
        rw [List.mem_singleton.mp hdecl] at hkind
        cases hkind
      · rw [hdecls.2]
        exact ⟨_, List.mem_singleton_self _, rfl⟩
  · rcases hname with rfl | rfl
    · exact List.isEmpty_iff.mp (by decide +kernel)
    · exact List.isEmpty_iff.mp (by decide +kernel)

theorem corresponds_club : Corresponds (Plan.listedMembers club (.declared "Member") .fields)
    (Plan.listedMembers club (.declared "Card") .fields) := by
  refine ⟨?_, ?_, by decide +kernel, by decide +kernel, ?_⟩
  · unfold DistinctNames
    decide +kernel
  · unfold DistinctNames
    decide +kernel
  · have hwidens : ∀ m ∈ Plan.listedMembers club (.declared "Member") .fields,
        ∀ n ∈ Plan.listedMembers club (.declared "Card") .fields,
        Text.fold n.name = Text.fold m.name → m.declared.isUnion = false ∧
          (m.declared.same n.declared = true ∨ m.declared.optional.same n.declared = true) := by
      decide +kernel
    exact fun m hm n hn hname => ⟨(hwidens m hm n hn hname).1, (hwidens m hm n hn hname).2⟩

theorem Plan.round_trip_club : ∃ (p q : Plan Converter) (f g : MapFunction) (w₁ w₂ : World)
    (b a : Place),
    (build club .empty (.cls (.declared "Member")) (.cls (.declared "Card")) true).outcome =
      .ok p ∧
    (build club .empty (.cls (.declared "Card")) (.cls (.declared "Member")) true).outcome =
      .ok q ∧
    p.compileFactory club = .ok f ∧ q.compileFactory club = .ok g ∧
    clubhouse.produce f (.ref 0) = (w₁, .ok (.ref b)) ∧ w₁.produce g (.ref b) = (w₂, .ok (.ref a)) ∧
    w₂.IsInstance a "Member" ∧
    ∀ m ∈ listedMembers club (.declared "Member") .fields,
      (w₂.getAttribute (.ref a) m.name).toOption.map (·.2) =
        (clubhouse.getAttribute (.ref 0) m.name).toOption.map (·.2) := by
  have hmember : club.members (.declared "Member") .fields =
      .ok (listedMembers club (.declared "Member") .fields) :=
    members_of_describable (by decide +kernel) .fields
  have hcard : club.members (.declared "Card") .fields =
      .ok (listedMembers club (.declared "Card") .fields) :=
    members_of_describable (by decide +kernel) .fields
  obtain ⟨p, q, f, g, hp, hq, hf, hg, hmaps⟩ := round_trip (isBlank_club (.inl rfl))
    (isBlank_club (.inr rfl)) hmember hcard corresponds_club .empty
  have hreads : ∀ m ∈ listedMembers club (.declared "Member") .fields,
      m.name = "name" ∧ m.isValueKind = false ∨ m.name = "age" := by decide +kernel
  obtain ⟨w₁, b, w₂, a, hthere, -, hback, ha, hheld⟩ := hmaps clubhouse 0
    (fun name => if name = "name" then .atom (.str "") else .atom (.int 0)) rfl fun m hm => by
      rcases hreads m hm with ⟨hname, hkind⟩ | hname
      · rw [hname]
        exact ⟨rfl, fun h => absurd h (by simp [hkind])⟩
      · rw [hname]
        exact ⟨rfl, fun _ => rfl⟩
  refine ⟨p, q, f, g, w₁, w₂, b, a, hp, hq, hf, hg, hthere, hback, ha, fun m hm => ?_⟩
  rw [hheld m hm]
  rcases hreads m hm with ⟨hname, -⟩ | hname
  · rw [hname]
    rfl
  · rw [hname]
    rfl

end Memberwise
