import Memberwise.Proofs.Mapper.Pool
import Memberwise.Proofs.Mapper.Transfer
import Memberwise.Proofs.Plan.Conformance
import Memberwise.Proofs.World.Instances

/-! # Ways to map an object

A factory, a mutator on a fresh target, and a mapper that is given a class or an instance of it do
one and the same: they carry out the same assignments on a target that the class makes of itself.
-/

namespace Memberwise

/-! ## Plans with and without a creation -/

namespace Plan

variable {classes : Classes} {registry : Registry Converter} {source target : ClassRef}
  {p : Plan Converter}

/-- A plan that creates its target is a plan for targets that are given, but for the creation. -/
theorem build_without_creation
    (h : (build classes registry (.cls source) (.cls target) true).outcome = .ok p) :
    p.source = source ∧ p.target = target ∧ p.createsTarget = true ∧
      (build classes registry (.cls source) (.cls target) false).outcome =
        .ok { p with createsTarget := false } := by
  have hgiven : false = true → classes.requiredArguments target = [] := by
    intro hcreates
    cases hcreates
  rw [build_outcome (required_of_build_eq_ok h)] at h
  rw [build_outcome hgiven]
  obtain ⟨matched, hmatched, h⟩ := bind_eq_ok.mp h
  obtain ⟨final, hfinal, rfl⟩ := map_eq_ok.mp h
  rw [hmatched]
  refine ⟨rfl, rfl, rfl, ?_⟩
  show Except.map _ _ = _
  rw [hfinal]
  rfl

/-- A factory has the assignments of its plan for steps, and creates the target of the plan. -/
theorem compileFactory_eq_ok {f : MapFunction} (h : p.compileFactory classes = .ok f) :
    p.createsTarget = true ∧ f.creates = some p.target ∧
      p.steps.mapM (supportedStep classes) = .ok f.steps := by
  obtain ⟨steps, hsteps, h⟩ := bind_eq_ok.mp h
  split at h
  · rename_i hcreates
    cases h
    exact ⟨hcreates, rfl, hsteps⟩
  · cases h

theorem compileMutator_of_steps {steps : List (Assignment Converter)}
    (hcreates : p.createsTarget = false) (h : p.steps.mapM (supportedStep classes) = .ok steps) :
    p.compileMutator classes =
      .ok ⟨p.functionName "map", p.absenceMessage, none, steps⟩ := by
  unfold compileMutator
  rw [h, hcreates]
  rfl

end Plan

namespace World

variable {w w' : World} {source target : Slot} {f : MapFunction}

/-! ## Runs of a transfer -/

/-- The objects of a world keep their classes while members are transferred. -/
theorem keepsInstances_transferRelation (target : Slot) : TransferRelation target KeepsInstances :=
  ⟨.trans, .of_spends, setAttribute_keepsInstances⟩

theorem mutate_of_present (hcreates : f.creates = none) (hs : source.isNone = false)
    (ht : target.isNone = false) :
    w.mutate f source target = w.transferMembers source target f.steps := by
  unfold mutate
  rw [hcreates, hs, ht]
  rfl

/-- What comes of making an instance of a class by its own means and running a function on it. -/
def mutateFresh (w : World) (f : MapFunction) (source : Slot) (c : ClassRef) :
    World × Except Fault Slot :=
  match w.create c [] with
  | .error fault => (w, .error fault)
  | .ok (w, target) => w.mapBy f source target

theorem mutateFresh_of_created {c : ClassRef} (hmade : w.create c [] = .ok (w', target)) :
    w.mutateFresh f source c = w'.mapBy f source target := by
  unfold mutateFresh
  rw [hmade]

theorem mapBy_of_noClass (h : ∀ c, target ≠ .atom (.classRef c)) :
    w.mapBy f source target =
      match w.mutate f source target with
      | (w', some fault) => (w', .error fault)
      | (w', none) => (w', .ok target) :=
  mapBy_of_object w f source fun c hc => h c hc

/-- A factory makes its target and does to it what a mutator with its steps does. -/
theorem produce_eq_mutateFresh {g : MapFunction} {c : ClassRef} (hcreates : g.creates = some c)
    (hmutates : f.creates = none) (hsteps : f.steps = g.steps) (hs : source.isNone = false)
    (hc : c ≠ .builtin .noneType) : w.produce g source = w.mutateFresh f source c := by
  unfold produce
  rw [hcreates]
  dsimp only
  rw [hs, if_neg Bool.false_ne_true]
  cases hmade : w.create c [] with
  | error fault =>
      unfold mutateFresh
      rw [hmade]
  | ok made =>
      obtain ⟨w₁, target⟩ := made
      have hcreated : Created w₁ c target := create_created hmade
      have hmutate : w₁.mutate f source target = w₁.transferMembers source target g.steps := by
        rw [mutate_of_present hmutates hs (hcreated.isNone hc), hsteps]
      rw [mutateFresh_of_created hmade, mapBy_of_noClass hcreated.noClass]
      cases hrun : w₁.transferMembers source target g.steps with
      | mk w' failure =>
          rw [hrun] at hmutate
          cases failure with
          | none => simp only [hrun, hmutate]
          | some fault => simp only [hrun, hmutate]

/-- A run on a fresh instance that comes to an end gives the instance, which is of its class. -/
theorem mutateFresh_eq_ok {c : ClassRef} (h : w.mutateFresh f source c = (w', .ok target)) :
    ∃ w₁, w.create c [] = .ok (w₁, target) ∧ w₁.mutate f source target = (w', none) ∧
      w'.classOf target = w₁.classOf target ∧
      ∀ name, c = .declared name → w'.classOf target = c := by
  unfold mutateFresh at h
  split at h
  · cases h
  · rename_i w₁ made hmade
    have hcreated : Created w₁ c made := create_created hmade
    rw [mapBy_of_noClass hcreated.noClass] at h
    have hkept := (keepsInstances_transferRelation made).mutate w₁ f source
    split at h
    · cases h
    · rename_i heq
      cases h
      rw [heq] at hkept
      have hclass : w'.classOf target = w₁.classOf target := hkept.classOf _ hcreated.has
      refine ⟨w₁, hmade, heq, hclass, ?_⟩
      intro name hname
      exact hclass.trans (hcreated.classOf name hname)

end World

/-! ## Mappers -/

namespace MapperPool

open World

variable {p : MapperPool} {w : World} {m : Mapper} {S T : ClassRef}

/-- What mapping an object does apart from what the mapper keeps. -/
def effect (p : MapperPool) (w : World) (name : String) (m : Mapper) (source target : Slot) :
    World × Except Fault Slot :=
  ((p.map w name m source target).world, (p.map w name m source target).result)

/-- A mapper that has not kept a function maps by the one that its registry gives. -/
theorem effect_eq_mapBy {source target : Slot} {key : CacheKey} {f : MapFunction}
    (hkey : w.mapKey? source target = some key) (hkept : m.functions.lookup key = none)
    (hf : (p.registryOf m).functionFor w.classes key = .ok f) (name : String) :
    p.effect w name m source target = w.mapBy f source target := by
  unfold effect
  rw [map_of_not_kept hkey hkept, Registry.mapped, hf]

theorem mapKey?_of_class {source : Slot} (hs : source.isNone = false) (c : ClassRef) :
    w.mapKey? source (.atom (.classRef c)) = some ⟨w.classOf source, c, true⟩ := by
  unfold mapKey?
  rw [hs]
  rfl

theorem mapKey?_of_object {source target : Slot} (hs : source.isNone = false)
    (ht : target.isNone = false) (h : ∀ c, target ≠ .atom (.classRef c)) :
    w.mapKey? source target = some ⟨w.classOf source, w.classOf target, false⟩ := by
  unfold mapKey?
  rw [hs, ht]
  cases target with
  | ref q => rfl
  | atom a =>
      cases a with
      | classRef c => exact absurd rfl (h c)
      | _ => rfl

/-- The plans of the two kinds have the same assignments, and a factory has the steps of the
mutator. -/
theorem createMutator_of_createFactory {g : MapFunction}
    (h : p.createFactory w.classes m (.cls S) (.cls T) = .ok g) :
    ∃ plan f, p.plan w.classes m (.cls S) (.cls T) true = .ok plan ∧
      p.plan w.classes m (.cls S) (.cls T) false = .ok { plan with createsTarget := false } ∧
      p.createMutator w.classes m (.cls S) (.cls T) = .ok f ∧
      g.creates = some T ∧ f.creates = none ∧ f.steps = g.steps := by
  obtain ⟨plan, hplan, hcompile⟩ := bind_eq_ok.mp h
  obtain ⟨-, htarget, -, hwithout⟩ := Plan.build_without_creation hplan
  obtain ⟨-, hcreates, hsteps⟩ := Plan.compileFactory_eq_ok hcompile
  have hmutator := Plan.compileMutator_of_steps
    (p := { plan with createsTarget := false }) rfl hsteps
  refine ⟨plan, _, hplan, hwithout, bind_eq_ok.mpr ⟨_, hwithout, hmutator⟩, ?_, rfl, rfl⟩
  rw [hcreates, htarget]

/-- All ways to map an object to a class that can be mapped to come to the same, be it a fault or a
target: the factory, the mutator on a fresh instance, the mapper with the class, and the mapper
with a fresh instance.  A target is absent for the class of the absent value only. -/
theorem entry_points_agree {g : MapFunction}
    (hfactory : p.createFactory w.classes m (.cls S) (.cls T) = .ok g)
    (hT : T ≠ .builtin .noneType) :
    ∃ plan plan' f,
      p.plan w.classes m (.cls S) (.cls T) true = .ok plan ∧
      p.plan w.classes m (.cls S) (.cls T) false = .ok plan' ∧
      plan'.assignments = plan.assignments ∧
      p.createMutator w.classes m (.cls S) (.cls T) = .ok f ∧
      ∀ s, w.Has s → s.isNone = false →
        w.produce g s = w.mutateFresh f s T ∧
        (w.classOf s = S → m.functions.lookup ⟨S, T, true⟩ = none → ∀ name,
          p.effect w name m s (.atom (.classRef T)) = w.mutateFresh f s T) ∧
        (∀ w₁ t, w.create T [] = .ok (w₁, t) → w.classOf s = S → w₁.classOf t = T →
          m.functions.lookup ⟨S, T, false⟩ = none → ∀ name,
          p.effect w₁ name m s t = w.mutateFresh f s T) ∧
        ∀ w' t, w.mutateFresh f s T = (w', .ok t) →
          ∃ w₁, w.create T [] = .ok (w₁, t) ∧ w₁.mutate f s t = (w', none) ∧
            w'.classOf t = w₁.classOf t ∧ ∀ name, T = .declared name → w'.classOf t = T := by
  obtain ⟨plan, f, hplan, hwithout, hmutator, hcreates, hmutates, hsteps⟩ :=
    createMutator_of_createFactory hfactory
  refine ⟨plan, _, f, hplan, hwithout, rfl, hmutator, fun s hs hpresent => ?_⟩
  have hproduce : w.produce g s = w.mutateFresh f s T :=
    produce_eq_mutateFresh hcreates hmutates hsteps hpresent hT
  refine ⟨hproduce, ?_, ?_, fun w' t => mutateFresh_eq_ok⟩
  · rintro rfl hkept name
    rw [effect_eq_mapBy (mapKey?_of_class hpresent T) hkept hfactory, ← hproduce]
    rfl
  · rintro w₁ t hmade rfl hclass hkept name
    have hcreated : Created w₁ T t := create_created hmade
    have hextends : Extends w w₁ := (create_extends hmade).1
    have hkey : w₁.mapKey? s t = some ⟨w.classOf s, T, false⟩ := by
      rw [mapKey?_of_object hpresent (hcreated.isNone hT) hcreated.noClass, hclass,
        (KeepsInstances.of_extends hextends).classOf s hs]
    rw [← hextends.classes] at hmutator
    rw [effect_eq_mapBy hkey hkept hmutator, mutateFresh_of_created hmade]

/-- Notes and cards, whose titles are texts, and one note. -/
def filing : World where
  classes := [Plan.annotatedClass "Note" [("title", .builtin .str)],
    Plan.annotatedClass "Card" [("Title", .builtin .str)]]
  store := ⟨#[.object "Note" none [("title", .atom (.str "draft"))]]⟩
  constants := []
  schemas := .empty

theorem entry_points_agree_filing : ∃ g f w₁ w₂,
    (single "files").createFactory filing.classes ⟨0, []⟩ (.cls (.declared "Note"))
      (.cls (.declared "Card")) = .ok g ∧
    (single "files").createMutator filing.classes ⟨0, []⟩ (.cls (.declared "Note"))
      (.cls (.declared "Card")) = .ok f ∧
    filing.create (.declared "Card") [] = .ok (w₁, .ref 1) ∧
    w₁.mutate f (.ref 0) (.ref 1) = (w₂, none) ∧
    w₂.held? 1 "Title" = some (.atom (.str "draft")) ∧
    filing.produce g (.ref 0) = (w₂, .ok (.ref 1)) ∧
    (single "files").effect filing "files" ⟨0, []⟩ (.ref 0)
      (.atom (.classRef (.declared "Card"))) = (w₂, .ok (.ref 1)) ∧
    (single "files").effect w₁ "files" ⟨0, []⟩ (.ref 0) (.ref 1) = (w₂, .ok (.ref 1)) := by
  have hproduced : ((single "files").createFactory filing.classes ⟨0, []⟩
      (.cls (.declared "Note")) (.cls (.declared "Card"))).toOption.map (fun g =>
        ((filing.produce g (.ref 0)).1.held? 1 "Title",
          (filing.produce g (.ref 0)).2.toOption)) =
      some (some (.atom (.str "draft")), some (.ref 1)) := by decide +kernel
  obtain ⟨g, hg, hrun⟩ := Option.map_eq_some_iff.mp hproduced
  obtain ⟨hheld, hresult⟩ := Prod.mk.inj hrun
  have hfactory := toOption_eq_some.mp hg
  obtain ⟨-, -, f, -, -, -, hmutator, hagree⟩ :=
    entry_points_agree (w := filing) hfactory (by decide)
  obtain ⟨hproduce, hclass, hobject, hfresh⟩ :=
    hagree (.ref 0) (has_ref.mpr (by decide)) rfl
  have hend : filing.mutateFresh f (.ref 0) (.declared "Card") =
      ((filing.produce g (.ref 0)).1, .ok (.ref 1)) := by
    rw [← hproduce, ← toOption_eq_some.mp hresult]
  obtain ⟨w₁, hmade, hmutated, -, hcard⟩ := hfresh _ _ hend
  have hw₁ : w₁.classOf (.ref 1) = .declared "Card" := (create_created hmade).classOf _ rfl
  refine ⟨g, f, w₁, _, hfactory, hmutator, hmade, hmutated, hheld, ?_, ?_, ?_⟩
  · rw [hproduce, hend]
  · rw [hclass rfl rfl "files", hend]
  · rw [hobject w₁ (.ref 1) hmade rfl hw₁ rfl "files", hend]

/-- The absent value is what its class makes, but no mutator and no mapper takes it for a target;
and a source that is absent is refused in the words of the function that it is given to. -/
theorem entry_points_differ_on_absence : ∃ g f,
    (single "files").createFactory filing.classes ⟨0, []⟩ (.cls (.declared "Note"))
      (.cls (.builtin .noneType)) = .ok g ∧
    (single "files").createMutator filing.classes ⟨0, []⟩ (.cls (.declared "Note"))
      (.cls (.builtin .noneType)) = .ok f ∧
    filing.create (.builtin .noneType) [] = .ok (filing, .none) ∧
    filing.produce g (.ref 0) = (filing, .ok .none) ∧
    filing.mutate f (.ref 0) .none = (filing, some (.absent f.absence)) ∧
    filing.produce g .none = (filing, .error (.absent g.absence)) ∧
    g.absence ≠ f.absence := by
  have hfactory : ((single "files").createFactory filing.classes ⟨0, []⟩
      (.cls (.declared "Note")) (.cls (.builtin .noneType))).toOption.map
        (fun g => (g.creates, g.steps.isEmpty, g.absence)) =
      some (some (.builtin .noneType), true, "The source (m.Note) instance cannot be None.") := by
    decide +kernel
  have hmutator : ((single "files").createMutator filing.classes ⟨0, []⟩
      (.cls (.declared "Note")) (.cls (.builtin .noneType))).toOption.map
        (fun f => (f.creates, f.absence)) =
      some (none, "The source (m.Note) and target (builtins.NoneType) instances cannot be None.") :=
    by decide +kernel
  obtain ⟨g, hg, hmade⟩ := Option.map_eq_some_iff.mp hfactory
  obtain ⟨f, hf, hgiven⟩ := Option.map_eq_some_iff.mp hmutator
  simp only [Prod.mk.injEq, List.isEmpty_iff] at hmade hgiven
  obtain ⟨hcreates, hsteps, hgabsence⟩ := hmade
  obtain ⟨hmutates, hfabsence⟩ := hgiven
  refine ⟨g, f, toOption_eq_some.mp hg, toOption_eq_some.mp hf, rfl, ?_, ?_, ?_, ?_⟩
  · unfold produce
    rw [hcreates, hsteps]
    rfl
  · unfold mutate
    rw [hmutates]
    rfl
  · unfold produce
    rw [hcreates]
    rfl
  · rw [hgabsence, hfabsence]
    decide

end MapperPool

end Memberwise
