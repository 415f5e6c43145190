import Memberwise.Proofs.Class.Lineage
import Memberwise.Proofs.Mapper.Transfer
import Memberwise.Proofs.Member.Described
import Memberwise.Proofs.Plan.Conformance

/-! # Frozen targets

An instance of a frozen class refuses every store under a public name.  A plan writes none of its
fields, but it does write its properties that have a setter; then the mapping fails at the first
value that it has for one.
-/

namespace Memberwise

/-- How a class is frozen: a model by its settings, a record class by its own declaration. -/
inductive Classes.Frozen (classes : Classes) (c : ClassRef) : Prop
  | model (isModel : classes.isModel c = true) (frozen : classes.isFrozenModel c = true)
  | record {decl : ClassDecl} {options : RecordOptions} (noModel : classes.isModel c = false)
      (declared : classes.declOf? c = some decl) (kind : decl.kind = .record options)
      (frozen : options.frozen = true)

namespace Classes

variable {classes : Classes} {target : String} {members : List Member} {m : Member}

theorem declsOf_of_declOf? (hd : classes.Declared) {decl : ClassDecl}
    (h : classes.declOf? (.declared target) = some decl) :
    ∃ rest, classes.declsOf (.declared target) = decl :: rest := by
  obtain ⟨rest, hlineage⟩ := lineageOf_declared hd target
  exact ⟨_, by rw [declsOf, hlineage, List.filterMap_cons_some h]⟩

theorem name_of_declOf? {decl : ClassDecl} (h : classes.declOf? (.declared target) = some decl) :
    decl.name = target := by
  obtain ⟨found, hfound, rfl⟩ := Option.map_eq_some_iff.mp h
  exact eq_of_beq (List.find?_some (p := fun c : Class => c.decl.name == target) hfound)

/-- No field of a frozen class is writable. -/
theorem writable_of_frozen (hd : classes.Declared) (hf : classes.Frozen (.declared target))
    (h : classes.fields (.declared target) = .ok members) (hm : m ∈ members) :
    m.writable = false := by
  obtain ⟨name, t, writable, rfl, hwritable⟩ := mem_fields h hm
  refine Bool.eq_false_iff.mpr fun hw => ?_
  have hopen := hwritable hw
  cases hf with
  | model isModel frozen => simp [isModel, frozen] at hopen
  | record noModel declared kind frozen =>
      obtain ⟨rest, hdecls⟩ := declsOf_of_declOf? hd declared
      simp [noModel, isFrozenRecord, hdecls, kind, frozen] at hopen

end Classes

/-! ## Targets of a plan -/

namespace Plan

variable {Converter : Type} {classes : Classes} {registry : Registry Converter}
  {source : ClassRef} {target : String} {creates : Bool} {p : Plan Converter}

/-- No field of a frozen class is the target of anything. -/
theorem not_isFirstWritable_of_frozen (hd : classes.Declared)
    (hf : classes.Frozen (.declared target)) {members : List Member}
    (ht : classes.fields (.declared target) = .ok members) {name : String} {t : Member} :
    ¬ IsFirstWritable members name t := by
  intro hfirst
  have hclosed := Classes.writable_of_frozen hd hf ht hfirst.mem
  rw [hfirst.writable] at hclosed
  cases hclosed

/-- What a plan writes of a frozen class are properties with a setter. -/
theorem target_of_frozen (hd : classes.Declared) (hf : classes.Frozen (.declared target))
    (h : (build classes registry (.cls source) (.cls (.declared target)) creates).outcome = .ok p)
    {a : Assignment Converter} (ha : a ∈ p.assignments) :
    ∃ property, (a.target.name, property) ∈ classes.publicProperties (.declared target) ∧
      property.setter.isSome = true := by
  obtain ⟨sources, targets, -, ht, hconforms⟩ := build_conforms h
  obtain ⟨parts, hparts, hordered⟩ := hconforms.ordered
  rw [hparts] at ha
  rcases List.mem_append.mp ha with ha | ha
  · have hfirst := ((hordered .properties).2 a ha).2
    obtain ⟨name, property, t, hentry, hdescribed⟩ :=
      Classes.mem_properties (ht .properties) hfirst.mem
    have hw := hfirst.writable
    rw [hdescribed] at hw ⊢
    exact ⟨property, hentry, hw⟩
  · have hfirst := ((hordered .fields).2 a ha).2
    exact absurd hfirst (not_isFirstWritable_of_frozen hd hf (ht .fields))

/-- A plan for a frozen class is empty as long as no property of the source has a property with a
setter to go to, or only one that it cannot be copied to. -/
theorem assignments_of_frozen (hd : classes.Declared) (hf : classes.Frozen (.declared target))
    (h : (build classes registry (.cls source) (.cls (.declared target)) creates).outcome =
      .ok p) :
    ∃ sources targets, classes.properties source = .ok sources ∧
      classes.properties (.declared target) = .ok targets ∧
      (p.assignments = [] ↔ ∀ m ∈ sources, m.readable = true →
        ∀ t, IsFirstWritable targets m.name t → Resolver.Skipped classes registry m t) := by
  obtain ⟨matched, hpairs, -, hresolves, hp⟩ := build_eq_ok h
  obtain ⟨sources, targets, hs, ht, rfl⟩ := pairs_eq_ok hpairs
  refine ⟨sources .properties, targets .properties, hs .properties, ht .properties, ?_⟩
  rw [hp, List.filterMap_eq_nil_iff]
  constructor
  · intro hnone m hm hr t hfirst
    have hpair : (m, t) ∈ matchGroups sources targets :=
      mem_matchGroups.mpr ⟨.properties, hm, matchFor?_eq_some_iff.mpr ⟨hr, hfirst⟩⟩
    by_contra hskip
    obtain ⟨strategy, operation, hsome⟩ := assignment?_of_not_skipped (hresolves _ hpair) hskip
    rw [hnone _ hpair] at hsome
    cases hsome
  · rintro hall ⟨m, t⟩ hpair
    obtain ⟨g, hm, hmatch⟩ := mem_matchGroups.mp hpair
    obtain ⟨hr, hfirst⟩ := matchFor?_eq_some_iff.mp hmatch
    cases g with
    | properties => exact assignment?_of_skipped (hresolves _ hpair) (hall m hm hr t hfirst)
    | fields => exact absurd hfirst (not_isFirstWritable_of_frozen hd hf (ht .fields))

end Plan

/-! ## Stores on frozen instances -/

namespace World

variable {w : World} {t : Place} {target : String} {core : Option Atom}
  {attributes : List (String × Slot)}

/-- Whether a fault tells that an instance is frozen.  A model reports it as a fault of its
validation. -/
def TellsFrozen (fault : Fault) : Prop := fault = .frozen ∨ fault = .validation

theorem setAttribute_of_frozen (hd : w.classes.Declared) (hf : w.classes.Frozen (.declared target))
    (hcell : w.store.get? t = some (.object target core attributes)) {name : String}
    (hpublic : isHiddenName name = false) (v : Slot) :
    ∃ fault, TellsFrozen fault ∧ w.setAttribute (.ref t) name v = .error fault := by
  have hclass : w.classOf (.ref t) = .declared target := by
    show ((w.store.get? t).map Cell.classOf).getD _ = _
    rw [hcell]
    rfl
  have hstore : w.setAttribute (.ref t) name v = w.setWithin t false v (w.chainLength - 1 + 1) name :=
    rfl
  rw [hstore, setWithin_succ, hcell, hclass]
  dsimp only
  by_cases hguarded : w.isGuarded (.declared target) name = true
  · exact ⟨.frozen, .inl rfl, by simp [hguarded]⟩
  · cases hf with
    | model isModel frozen =>
        refine ⟨.validation, .inr rfl, ?_⟩
        simp [hguarded, targetOf, isModel, modelTarget, hpublic, frozen, bind, Except.bind]
    | record noModel declared kind frozen =>
        obtain ⟨rest, hdecls⟩ := Classes.declsOf_of_declOf? hd declared
        simp [isGuarded, hdecls, kind, frozen, Classes.name_of_declOf? declared] at hguarded

/-- A frozen instance refuses the value of any step that writes a property. -/
theorem transferMember_of_frozen (hd : w.classes.Declared)
    (hf : w.classes.Frozen (.declared target))
    (hcell : w.store.get? t = some (.object target core attributes)) {a : Assignment Converter}
    (hpublic : isHiddenName a.target.name = false) {source v : Slot} {w₁ : World}
    (hvalue : w.transferred a source = (w₁, .ok v)) :
    ∃ fault, TellsFrozen fault ∧ w.transferMember a source (.ref t) = (w₁, some fault) := by
  have hspends := transferred_spends w a source
  rw [hvalue] at hspends
  have hclasses : w₁.classes = w.classes := hspends.classes
  have ht : t < w.store.size := by
    obtain ⟨hlt, -⟩ := Array.getElem?_eq_some_iff.mp hcell
    exact hlt
  have hcell₁ : w₁.store.get? t = some (.object target core attributes) :=
    (hspends.get?_eq ht not_false (not_isIterator_of_object hcell)).trans hcell
  rw [← hclasses] at hd hf
  obtain ⟨fault, htells, hstore⟩ := setAttribute_of_frozen hd hf hcell₁ hpublic v
  refine ⟨fault, htells, ?_⟩
  rw [transferMember, hvalue]
  dsimp only
  rw [hstore]

end World

/-- No field of a frozen class is written by a plan, only properties with a setter.  The plan is
empty as long as no property of the source goes to one of them, and then its function leaves an
instance alone; otherwise it fails as soon as the value of its first step is there. -/
theorem Plan.build_frozen {classes : Classes} {registry : Registry Converter} {source : ClassRef}
    {target : String} {creates : Bool} {p : Plan Converter} (hd : classes.Declared)
    (hf : classes.Frozen (.declared target))
    (h : (build classes registry (.cls source) (.cls (.declared target)) creates).outcome =
      .ok p) :
    (∀ a ∈ p.assignments, ∃ property,
      (a.target.name, property) ∈ classes.publicProperties (.declared target) ∧
        property.setter.isSome = true) ∧
    (∃ sources targets, classes.properties source = .ok sources ∧
      classes.properties (.declared target) = .ok targets ∧
      (p.assignments = [] ↔ ∀ m ∈ sources, m.readable = true →
        ∀ t, IsFirstWritable targets m.name t → Resolver.Skipped classes registry m t)) ∧
    ∀ (w : World) (f : MapFunction) (s : Slot) (t : Place) (core : Option Atom)
      (attributes : List (String × Slot)), w.classes = classes →
      p.compileMutator w.classes = .ok f → s.isNone = false →
      w.store.get? t = some (.object target core attributes) →
      (p.assignments = [] → w.mutate f s (.ref t) = (w, none)) ∧
      ∀ a rest w₁ v, p.assignments = a :: rest → w.transferred a s = (w₁, .ok v) →
        ∃ fault, World.TellsFrozen fault ∧ w.mutate f s (.ref t) = (w₁, some fault) := by
  have htargets := fun a => target_of_frozen hd hf h (a := a)
  refine ⟨htargets, assignments_of_frozen hd hf h, ?_⟩
  rintro w f s t core attributes rfl hcompiled hs hcell
  obtain ⟨-, hcreates, hsteps⟩ := compileMutator_eq_ok hcompiled
  have hrun : w.mutate f s (.ref t) = w.transferMembers s (.ref t) p.assignments := by
    unfold World.mutate
    rw [hcreates, hs, hsteps]
    rfl
  refine ⟨fun hnone => ?_, fun a rest w₁ v hfirst hvalue => ?_⟩
  · rw [hrun, hnone]
    rfl
  · obtain ⟨property, hentry, -⟩ := htargets a (by simp [hfirst])
    have hpublic := Classes.isHiddenName_of_mem_publicProperties hentry
    obtain ⟨fault, htells, hfails⟩ := World.transferMember_of_frozen hd hf hcell hpublic hvalue
    refine ⟨fault, htells, ?_⟩
    rw [hrun, hfirst, World.transferMembers, hfails]

/-- A record class, frozen or not, without bases. -/
def recordDecl (name : String) (frozen : Bool) (body : List Entry) : ClassDecl :=
  ⟨name, .record ⟨true, true, true, frozen, false, false, false, false⟩, [], none, body, none⟩

/-- Notes and seals have a label as a field, drafts and stamps as a property; seals and stamps are
frozen. -/
def stationeryDecls : List ClassDecl :=
  let field : Entry := .field ⟨"label", .builtin .str, .missing, false, none, true, none⟩
  let getter (body : GetterBody) : Option Getter := some ⟨some (.builtin .str), body, true⟩
  [recordDecl "Note" false [field], recordDecl "Seal" true [field],
    recordDecl "Draft" false [.property "label" (getter (.constant (.atom (.str "new")))) none],
    recordDecl "Stamp" true [.property "label" (getter (.attribute "_label"))
      (some ⟨some (.builtin .str), none, .attribute "_label", true⟩)]]

def stationery : Classes :=
  stationeryDecls.map fun decl => ⟨decl, [.declared decl.name, .builtin .object]⟩

theorem declared_stationery : stationery.Declared := by
  have hbases : ∀ decl ∈ stationeryDecls, decl.effectiveBases = [.builtin .object] := by
    intro decl hdecl
    simp only [stationeryDecls, List.mem_cons, List.not_mem_nil, or_false] at hdecl
    rcases hdecl with rfl | rfl | rfl | rfl <;> rfl
  have hknown : ∀ {classes : Classes}, ∀ decl ∈ stationeryDecls, ∀ base ∈ decl.effectiveBases,
      classes.Knows base := by
    intro classes decl hdecl base hbase
    rw [hbases decl hdecl] at hbase
    rw [List.mem_singleton.mp hbase]
    trivial
  have hnote : Classes.Declared (stationery.take 1) :=
    .declare stationeryDecls[0] .nil rfl (hknown _ (by simp)) rfl
  have hseal : Classes.Declared (stationery.take 2) :=
    .declare stationeryDecls[1] hnote rfl (hknown _ (by simp)) rfl
  have hdraft : Classes.Declared (stationery.take 3) :=
    .declare stationeryDecls[2] hseal rfl (hknown _ (by simp)) rfl
  exact .declare stationeryDecls[3] hdraft rfl (hknown _ (by simp)) rfl

/-- A note, a seal, a draft and a stamp. -/
def desk : World where
  classes := stationery
  store := ⟨#[
    .object "Note" none [("label", .atom (.str "first"))],
    .object "Seal" none [("label", .atom (.str "red"))],
    .object "Draft" none [],
    .object "Stamp" none [("_label", .atom (.str "old"))]]⟩
  constants := [(.getter "Draft" "label", .atom (.str "new"))]
  schemas := .empty

/-- A note is mapped to a seal without a fault, since nothing is written. -/
theorem Plan.build_frozen_seal : ∃ (p : Plan Converter) (f : MapFunction),
    stationery.Declared ∧ stationery.Frozen (.declared "Seal") ∧
    (build stationery .empty (.cls (.declared "Note")) (.cls (.declared "Seal")) false).outcome =
      .ok p ∧
    p.compileMutator desk.classes = .ok f ∧ p.assignments = [] ∧
    desk.mutate f (.ref 0) (.ref 1) = (desk, none) := by
  have hf : stationery.Frozen (.declared "Seal") := .record (by decide +kernel) rfl rfl rfl
  have hcompiles : ((build stationery .empty (.cls (.declared "Note")) (.cls (.declared "Seal"))
      false).outcome.toOption.bind fun p => (p.compileMutator desk.classes).toOption).isSome =
        true := by decide +kernel
  obtain ⟨f, hcompiles⟩ := Option.isSome_iff_exists.mp hcompiles
  obtain ⟨p, hp, hcompiled⟩ := Option.bind_eq_some_iff.mp hcompiles
  rw [toOption_eq_some] at hp hcompiled
  obtain ⟨-, ⟨sources, targets, hsources, -, hempty⟩, hmutates⟩ :=
    build_frozen declared_stationery hf hp
  have hnone : p.assignments = [] := by
    refine hempty.mpr fun m hm => ?_
    have hnote : stationery.properties (.declared "Note") = .ok [] := rfl
    rw [hnote] at hsources
    cases hsources
    cases hm
  have hrun := hmutates desk f (.ref 0) 1 none _ rfl hcompiled rfl rfl
  exact ⟨p, f, declared_stationery, hf, hp, hcompiled, hnone, hrun.1 hnone⟩

/-- A stamp has a setter for its label: the plan writes it, and the mapping fails on the instance
that is frozen. -/
theorem Plan.build_stamp_writes : ∃ (p : Plan Converter) (f : MapFunction),
    stationery.Declared ∧ stationery.Frozen (.declared "Stamp") ∧
    (build stationery .empty (.cls (.declared "Draft")) (.cls (.declared "Stamp")) false).outcome =
      .ok p ∧
    p.assignments.map Assignment.text = ["label -> label [reference_identity/assign]"] ∧
    p.compileMutator desk.classes = .ok f ∧
    (desk.mutate f (.ref 2) (.ref 3)).2 = some .frozen := by
  have hf : stationery.Frozen (.declared "Stamp") := .record (by decide +kernel) rfl rfl rfl
  have hruns : ((build stationery .empty (.cls (.declared "Draft")) (.cls (.declared "Stamp"))
      false).outcome.toOption.bind fun p => (p.compileMutator desk.classes).toOption.map fun f =>
        (p.assignments.map Assignment.text, (desk.mutate f (.ref 2) (.ref 3)).2)) =
      some (["label -> label [reference_identity/assign]"], some .frozen) := by decide +kernel
  obtain ⟨p, hp, hruns⟩ := Option.bind_eq_some_iff.mp hruns
  obtain ⟨f, hcompiled, hruns⟩ := Option.map_eq_some_iff.mp hruns
  rw [toOption_eq_some] at hp hcompiled
  obtain ⟨htexts, hfails⟩ := Prod.mk.inj hruns
  exact ⟨p, f, declared_stationery, hf, hp, htexts, hcompiled, hfails⟩

end Memberwise
