import Memberwise.Proofs.Mapper.Attempts
import Memberwise.Proofs.Mapper.Identity
import Memberwise.Proofs.Parallel.Matching
import Memberwise.Proofs.Plan.Conformance
import Memberwise.Proofs.Plan.Order
import Memberwise.Proofs.Whole.Plan

/-! # The order in which members are transferred

The steps of a plan read a source that none of them changes, so each makes the same of it whenever
it is tried.  Run in two orders, on sources whose attributes match, they come to an end both times
or fail both times, and leave matching values in the attributes in which one step stores.
-/

namespace Memberwise

namespace World

variable {w u u' w₁ w₂ : World} {s s' t t' : Place} {names : List String} {className key : String}
  {v v' : Slot} {a : Assignment Converter} {steps steps' : List (Assignment Converter)}

/-! ## Sources and targets -/

/-- Whether sources hold matching values under given names, for targets of one class that neither
the sources nor what classes keep lead to.  They do not lead to iterators either, which would yield
their elements to the first step that asks for them. -/
structure Twins (w : World) (names : List String) (className : String) (s s' t t' : Place) :
    Prop where
  whole : w.IsWhole
  source : s < w.store.size
  source' : s' < w.store.size
  target : w.IsInstance t className
  target' : w.IsInstance t' className
  apart : ∀ q, w.Sees (.ref s) q ∨ w.Sees (.ref s') q → q ≠ t ∧ q ≠ t'
  lasting : ∀ q, w.Sees (.ref s) q ∨ w.Sees (.ref s') q → ¬ w.IsIterator q
  alike : ∀ name ∈ names, Agree (fun x x' => w.Matches x.2 x'.2) (w.getAttribute (.ref s) name)
    (w.getAttribute (.ref s') name)

/-- What two runs leave of their targets: matching values under the names that they write, and what
was there under all others.  Whatever matches before does so afterwards, unless it leads to a
target. -/
structure LeftAlike (w w₂ : World) (names : List String) (t t' : Place) : Prop where
  written : ∀ name ∈ names, ∃ v v', w₂.held? t name = some v ∧ w₂.held? t' name = some v' ∧
    w₂.Matches v v'
  kept : ∀ name ∉ names, w₂.held? t name = w.held? t name ∧ w₂.held? t' name = w.held? t' name
  matching : ∀ v v', w.Matches v v' → (∀ q, w.Sees v q ∨ w.Sees v' q → q ≠ t ∧ q ≠ t') →
    w₂.Matches v v'

theorem Twins.keepsIterators (h : w.Twins names className s s' t t')
    (steps : List (Assignment Converter)) :
    w.KeepsIterators (fun q => q = t ∨ q = t') (.ref s) steps ∧
      w.KeepsIterators (fun q => q = t ∨ q = t') (.ref s') steps := by
  have hkeeps : ∀ p, p < w.store.size → (∀ q, w.Sees (.ref p) q →
      w.Sees (.ref s) q ∨ w.Sees (.ref s') q) →
      w.KeepsIterators (fun q => q = t ∨ q = t') (.ref p) steps := by
    intro p hp hsees
    apply (exchanges_seen h.whole (has_ref.mpr hp)).keepsIterators
    · exact Slot.within_ref.mpr (w.sees_self p)
    · intro q hq
      exact ⟨not_or.mpr (h.apart q (hsees q hq)), h.lasting q (hsees q hq)⟩
  exact ⟨hkeeps s h.source fun _ => .inl, hkeeps s' h.source' fun _ => .inr⟩

/-- Where sources hold matching values, the objects that are seen from them can be exchanged, and
no target is one of them. -/
theorem Twins.exchange (h : w.Twins names className s s' t t') {name : String}
    (hname : name ∈ names) : ∃ σ K, Exchanges σ K w w ∧
    (∀ q, K q → (q ≠ t ∧ q ≠ t') ∧ σ q ≠ t ∧ σ q ≠ t') ∧
    Agree (fun x x' => x.2.Within K ∧ x'.2 = x.2.rename σ) (w.getAttribute (.ref s) name)
      (w.getAttribute (.ref s') name) := by
  have halike := h.alike name hname
  cases hread : w.getAttribute (.ref s) name with
  | ok x =>
      rw [hread] at halike
      cases hread' : w.getAttribute (.ref s') name with
      | error fault =>
          rw [hread'] at halike
          cases halike
      | ok x' =>
          rw [hread'] at halike
          cases halike with
          | ok hmatches =>
              obtain ⟨σ, hσ, hwithin, hsame, hsees⟩ := hmatches.exchange
              refine ⟨σ, _, hσ, fun q hq => ⟨?_, ?_⟩, .ok ⟨hwithin, hsame⟩⟩
              · exact h.apart q (.inl (sees_of_getAttribute hread hq))
              · exact h.apart _ (.inr (sees_of_getAttribute hread' (hsees q hq)))
  | error fault =>
      rw [hread] at halike
      have hnone := (Matches.refl h.whole (has_atom w .none)).exchange
      obtain ⟨σ, hσ, -, -, hsees⟩ := hnone
      have hkept : ∀ q, w.Sees .none q → w.Sees (.ref s) q := by
        rintro q (hq | hq)
        · cases hq
        · exact .inr hq
      refine ⟨σ, _, hσ, fun q hq => ⟨h.apart q (.inl (hkept q hq)), ?_⟩, ?_⟩
      · exact h.apart _ (.inl (hkept _ (hsees q hq)))
      · generalize w.getAttribute (.ref s') name = read at halike
        cases halike with
        | error => exact .error fault

/-- A step makes the same of both sources, once a run has changed the one target, and another run
after it the other one. -/
theorem Twins.transferred (h : w.Twins names className s s' t t') (ha : a.source.name ∈ names)
    (hplaces : a.operation.places = []) (hu : ChangesOnly (· = t) w u)
    (hu' : ChangesOnly (fun q => q = t ∨ q = t') w u') (hsize : u.store.size ≤ u'.store.size)
    (hforeseen : Foreseen (some u'.schemas) (u.transferred a (.ref s)).1) :
    ∃ r : Correspondence, (∀ q, r.covers q → (q ≠ t ∧ q ≠ t') ∧ r.place q ≠ t') ∧
      Aside (Parallel r (some u'.schemas)) (Agree r.Pairs) (u.transferred a (.ref s))
        (u'.transferred a (.ref s')) := by
  obtain ⟨σ, K, hσ, hK, hread⟩ := h.exchange ha
  have hstill : Exchanges σ K u u' := by
    refine hσ.later hu hu' fun q hq => ⟨(hK q hq).1.1, ?_⟩
    rintro (hsame | hsame)
    · exact (hK q hq).2.1 hsame
    · exact (hK q hq).2.2 hsame
  have hclasses : u'.classes = u.classes := hu'.classes.trans hu.classes.symm
  have hconstants : u'.constants = u.constants := hu'.constants.trans hu.constants.symm
  refine ⟨exchanged hstill.injective K hsize, ?_, ?_⟩
  · -- The targets are older than anything that is made on the way.
    have ht := Nat.lt_of_lt_of_le h.target.lt hu.size
    have ht' := Nat.lt_of_lt_of_le h.target'.lt hu.size
    rintro q (hq | hq)
    · refine ⟨(hK q hq).1, ?_⟩
      show beyond _ _ (σ q) ≠ t'
      rw [hstill.place hq]
      exact (hK q hq).2.2
    · refine ⟨⟨(Nat.lt_of_lt_of_le ht hq).ne', (Nat.lt_of_lt_of_le ht' hq).ne'⟩, ?_⟩
      show beyond _ _ (σ q) ≠ t'
      rw [hstill.fresh q hq, beyond_of_le hq]
      exact (Nat.lt_of_lt_of_le (Nat.lt_of_lt_of_le ht' hsize) (Nat.le_add_right _ _)).ne'
  · apply (hstill.parallel hclasses hconstants hsize).transferred (.refl a) _ _ hforeseen
    · refine ⟨fun _ _ _ _ _ _ _ => trivial, fun p hp => ?_⟩
      rw [hplaces] at hp
      cases hp
    · intro v₁ v₁' hv hv' hworld
      have hne : s ≠ t := (h.apart s (.inl (w.sees_self s))).1
      have hne' := h.apart s' (.inr (w.sees_self s'))
      have hlater := Spends.of_changesOnly (hu.trans (.of_extends hv))
      have hlater' := Spends.of_changesOnly (hu'.trans (.of_extends hv'))
      rw [hlater.getAttribute h.source hne, hlater'.getAttribute h.source' (not_or.mpr hne')]
      apply hread.map
      rintro x x' ⟨hwithin, hsame⟩
      refine ⟨hworld, ?_⟩
      rw [hsame]
      exact hstill.pairs hsize hwithin

/-- A step that is tried in the course of two runs, one after the other, makes matching values of
the sources or fails both times. -/
theorem Twins.attempts (h : w.Twins names className s s' t t') (ha : a.source.name ∈ names)
    (hplaces : a.operation.places = []) (hsteady : ∀ size, a.operation.IsSteady size)
    (hfirst : Tries (.ref s) t w a u w₁) (hsecond : Tries (.ref s') t' w₁ a u' w₂) :
    Agree w₂.Matches (u.transferred a (.ref s)).2 (u'.transferred a (.ref s')).2 := by
  have hmiddle : ChangesOnly (fun q => q = t ∨ q = t') w u' :=
    (hfirst.frame.mono fun _ _ => .inl).trans (hsecond.before.mono fun _ _ => .inr)
  have hforeseen : Foreseen (some u'.schemas) (u.transferred a (.ref s)).1 := by
    rintro later ⟨⟩
    exact (hfirst.learned.trans hsecond.learns).schemas
  obtain ⟨r, hapart, hworlds, hresults⟩ := h.transferred ha hplaces hfirst.before hmiddle
    (Nat.le_trans hfirst.size hsecond.before.size) hforeseen
  have hsource : u.Has (.ref s) := has_ref.mpr (Nat.lt_of_lt_of_le h.source hfirst.before.size)
  have hyields := yields_transferred hfirst.whole (hsteady _) hsource
  have hconstants : (u'.transferred a (.ref s')).1.constants =
      (u.transferred a (.ref s)).1.constants := by
    rw [hfirst.made.constants, hsecond.made.constants, hmiddle.constants, hfirst.before.constants]
  have hend : ChangesOnly (fun q => q = t ∨ q = t') (u.transferred a (.ref s)).1 w₂ :=
    (hfirst.after.mono fun _ _ => .inl).trans (hsecond.frame.mono fun _ _ => .inr)
  apply (hresults.with (P := (u.transferred a (.ref s)).1.Has) (Q := fun _ => True)
    hyields.there fun _ _ => trivial).mono
  rintro v v' ⟨hpairs, hhas, -⟩
  refine hworlds.matches hconstants hyields.sound.whole hpairs hhas hend hsecond.after fun q hq => ?_
  exact ⟨not_or.mpr (hapart q hq).1, (hapart q hq).2⟩

/-- Values that do not lead to what changes match as long as nothing else does. -/
theorem Matches.later {P : Place → Prop} (h : w.Matches v v') (hw : ChangesOnly P w w₂)
    (hapart : ∀ q, w.Sees v q ∨ w.Sees v' q → ¬ P q) : w₂.Matches v v' := by
  obtain ⟨σ, hσ, hwithin, hsame, hsees⟩ := h.exchange
  have hlater : Exchanges σ (w.Sees v) w₂ w₂ :=
    hσ.later hw hw fun q hq => ⟨hapart q (.inl hq), hapart _ (.inr (hsees q hq))⟩
  exact ⟨σ, _, hlater.toMirrors, hwithin, hsame⟩

/-! ## Runs -/

/-- What is needed of steps: they read what sources hold alike, they can be carried out, and each
has a plain attribute of its own to write. -/
structure Feasible (classes : Classes) (names : List String) (className : String)
    (steps : List (Assignment Converter)) : Prop where
  reads : ∀ a ∈ steps, a.source.name ∈ names
  places : ∀ a ∈ steps, a.operation.places = []
  steady : ∀ a ∈ steps, ∀ size, a.operation.IsSteady size
  plain : ∀ a ∈ steps, classes.IsPlain (.declared className) a.target.name
  targets : (steps.map (·.target.name)).Nodup

theorem Feasible.perm {classes : Classes} (h : Feasible classes names className steps)
    (hperm : steps.Perm steps') : Feasible classes names className steps' where
  reads a ha := h.reads a (hperm.mem_iff.mpr ha)
  places a ha := h.places a (hperm.mem_iff.mpr ha)
  steady a ha := h.steady a (hperm.mem_iff.mpr ha)
  plain a ha := h.plain a (hperm.mem_iff.mpr ha)
  targets := (hperm.map _).nodup_iff.mp h.targets

/-- A step that is tried in the course of two runs comes to an end in both or fails in both. -/
theorem Twins.attempts_fail_iff (h : w.Twins names className s s' t t')
    (hc : w.classes.IsOrdinary className) (hsteps : Feasible w.classes names className steps)
    (ha : a ∈ steps)
    (hfirst : Tries (.ref s) t w a u w₁) (hsecond : Tries (.ref s') t' w₁ a u' w₂)
    (hu : u.IsInstance t className) (hu' : u'.IsInstance t' className) :
    (u.transferMember a (.ref s) (.ref t)).2 = none ↔
      (u'.transferMember a (.ref s') (.ref t')).2 = none := by
  have hclasses : u'.classes = u.classes := by
    rw [hsecond.before.classes, hfirst.frame.classes, hfirst.before.classes]
  have hmodel : u.classes.isModel (.declared className) = false := by
    rw [hfirst.before.classes]
    exact hc.noModel
  have hplain := hu.storesPlainly hmodel
  have hplain' := hu'.storesPlainly (hclasses ▸ hmodel)
  have hagree := h.attempts (hsteps.reads a ha) (hsteps.places a ha) (hsteps.steady a ha) hfirst hsecond
  rw [transferMember_eq_none_iff hplain hu.lt hu.not_isIterator,
    transferMember_eq_none_iff hplain' hu'.lt hu'.not_isIterator, hu.destination_eq hu' hclasses]
  apply and_congr_left
  intro _
  revert hagree
  generalize (u.transferred a (.ref s)).2 = result
  generalize (u'.transferred a (.ref s')).2 = result'
  intro hagree
  cases hagree with
  | error fault => simp
  | ok hmatches => simp

/-- A step that comes to an end is the only one that writes its target, so its value is there in
the end. -/
theorem Feasible.held {source : Slot} {ws : List (String × Slot)}
    (hsteps : Feasible w.classes names className steps) (hc : w.classes.IsOrdinary className)
    (hwhole : w.IsWhole) (hsource : w.Has source) (ht : w.IsInstance t className)
    (hkeeps : w.KeepsIterators (· = t) source steps) (hrun : Performs source t w steps ws w₁)
    (ha : a ∈ steps) :
    ∃ u v, Tries source t w a u w₁ ∧ (u.transferred a source).2 = .ok v ∧
      w₁.held? t a.target.name = some v := by
  obtain ⟨u, key, v, htries, -, hv, hends, hheld⟩ :=
    hrun.leaves hwhole hsteps.steady hsource ht hkeeps hsteps.targets ha
  obtain rfl := eq_of_destination ht hc.noModel (hsteps.plain a ha) hends
  refine ⟨u, v, htries, hv, hheld fun b hb hbkey => ?_⟩
  have hname := eq_of_destination ht hc.noModel (hsteps.plain b hb) hbkey
  exact List.inj_on_of_nodup_map hsteps.targets hb ha hname.symm

/-- Runs that come to an end leave matching values under the names that they write, and nothing new
under any other. -/
theorem Twins.leave (h : w.Twins names className s s' t t') (hc : w.classes.IsOrdinary className)
    (hsteps : Feasible w.classes names className steps) (hperm : steps.Perm steps')
    (hwhole₁ : w₁.IsWhole) (hwhole₂ : w₂.IsWhole) {ws ws' : List (String × Slot)}
    (hkeeps : w.KeepsIterators (· = t) (.ref s) steps)
    (hkeeps' : w₁.KeepsIterators (· = t') (.ref s') steps')
    (hrun : Performs (.ref s) t w steps ws w₁) (hrun' : Performs (.ref s') t' w₁ steps' ws' w₂) :
    LeftAlike w w₂ (steps.map (·.target.name)) t t' := by
  have hsource : w.Has (.ref s) := has_ref.mpr h.source
  have hobject := h.target.not_isIterator
  have hwritten := hrun.written h.target.lt hobject
  have hclasses := hwritten.frame.classes
  have hsource' : w₁.Has (.ref s') := has_ref.mpr (Nat.lt_of_lt_of_le h.source' hwritten.frame.size)
  have ht' := hwritten.isInstance h.target'
  have hobject' := ht'.not_isIterator
  have hwritten' := hrun'.written ht'.lt hobject'
  have hsteps' : Feasible w₁.classes names className steps' := by
    rw [hclasses]
    exact hsteps.perm hperm
  have hc' : w₁.classes.IsOrdinary className := hclasses ▸ hc
  refine ⟨List.forall_mem_map.mpr fun a ha => ?_, fun name hname => ?_, fun v v' hmatches hapart => ?_⟩
  · obtain ⟨u, v, htries, hv, hheld⟩ := hsteps.held hc h.whole hsource h.target hkeeps hrun ha
    obtain ⟨u', v', htries', hv', hheld'⟩ :=
      hsteps'.held hc' hwhole₁ hsource' ht' hkeeps' hrun' (hperm.mem_iff.mp ha)
    by_cases hsame : t = t'
    · -- One target holds in the end what the second run has stored.
      subst hsame
      exact ⟨v', v', hheld', hheld', .refl hwhole₂ (hwhole₂.has_of_held hheld')⟩
    · refine ⟨v, v', ?_, hheld', ?_⟩
      · rw [hwritten'.frame.held (hwritten.isInstance h.target).lt hsame, hheld]
      · have hagree := h.attempts (hsteps.reads a ha) (hsteps.places a ha) (hsteps.steady a ha)
          htries htries'
        rw [hv, hv'] at hagree
        cases hagree with
        | ok hmatches => exact hmatches
  · have hfree : ∀ a ∈ steps, w.destination t a.target.name ≠ .ok name := by
      intro a ha hends
      rw [eq_of_destination h.target hc.noModel (hsteps.plain a ha) hends] at hname
      exact hname (List.mem_map_of_mem ha)
    have hfree' : ∀ a ∈ steps', w₁.destination t' a.target.name ≠ .ok name := by
      intro a ha
      rw [h.target.destination_eq ht' hclasses]
      exact hfree a (hperm.mem_iff.mpr ha)
    have hkept : ∀ p, p < w.store.size → w₂.held? p name = w.held? p name := fun p hp =>
      (hrun'.keeps ht'.lt hobject' hfree' (Nat.lt_of_lt_of_le hp hwritten.frame.size)).trans
        (hrun.keeps h.target.lt hobject hfree hp)
    exact ⟨hkept t h.target.lt, hkept t' h.target'.lt⟩
  · have hend : ChangesOnly (fun q => q = t ∨ q = t') w w₂ :=
      ((hrun.changesOnly hkeeps).mono fun _ _ => .inl).trans
        ((hrun'.changesOnly hkeeps').mono fun _ _ => .inr)
    exact hmatches.later hend fun q hq => not_or.mpr (hapart q hq)

/-- Steps that are carried out in two orders, on sources whose attributes match, come to an end
both times or fail both times, and leave targets alike. -/
theorem Twins.transferMembers (h : w.Twins names className s s' t t')
    (hc : w.classes.IsOrdinary className) (hsteps : Feasible w.classes names className steps)
    (hperm : steps.Perm steps') {o o' : Option Fault}
    (hrun : w.transferMembers (.ref s) (.ref t) steps = (w₁, o))
    (hrun' : w₁.transferMembers (.ref s') (.ref t') steps' = (w₂, o')) :
    o.isSome = o'.isSome ∧ (o = none → LeftAlike w w₂ (steps.map (·.target.name)) t t') := by
  have hsteps' := hsteps.perm hperm
  have hsource : w.Has (.ref s) := has_ref.mpr h.source
  have hsound := sound_transferMembers h.whole (fun a ha => hsteps.steady a ha _) hsource (.ref t)
  rw [hrun] at hsound
  have hkeeps := (h.keepsIterators steps).1.mono (Q := (· = t)) fun _ => .inl
  obtain ⟨⟨us, hwritten⟩, hchanged, hend⟩ := transferMembers_attempts h.whole hsteps.steady hsource
    h.target (h.target.storesPlainly hc.noModel) hkeeps hrun
  have hsource' : w₁.Has (.ref s') := hsound.has (has_ref.mpr h.source')
  have ht' := hwritten.isInstance h.target'
  have hkeeps' := ((h.keepsIterators steps').2.later (hchanged.mono fun _ _ => .inl)).mono
    (Q := (· = t')) fun _ => .inr
  have hmodel : w₁.classes.isModel (.declared className) = false := by
    rw [hwritten.frame.classes]
    exact hc.noModel
  have hsound' := sound_transferMembers hsound.whole (fun a ha => hsteps'.steady a ha _) hsource'
    (.ref t')
  rw [hrun'] at hsound'
  obtain ⟨-, -, hend'⟩ := transferMembers_attempts hsound.whole hsteps'.steady hsource' ht'
    (ht'.storesPlainly hmodel) hkeeps' hrun'
  rcases hend with ⟨rfl, ws, hperforms⟩ | ⟨hfails, a, ha, u, htries, hu, hstep⟩
  · rcases hend' with ⟨rfl, ws', hperforms'⟩ | ⟨-, a, ha, u', htries', hu', hstep'⟩
    · exact ⟨rfl, fun _ => h.leave hc hsteps hperm hsound.whole hsound'.whole hkeeps hkeeps'
        hperforms hperforms'⟩
    · have ha := hperm.mem_iff.mpr ha
      obtain ⟨u, htries, hu, hstep⟩ := hperforms.passes hc h.whole hsteps.steady hsource h.target
        hkeeps hsteps.targets ha
      exact absurd ((h.attempts_fail_iff hc hsteps ha htries htries' hu hu').mp hstep) hstep'
  · rcases hend' with ⟨rfl, ws', hperforms'⟩ | ⟨hfails', -⟩
    · obtain ⟨u', htries', hu', hstep'⟩ := hperforms'.passes (hwritten.frame.classes ▸ hc) hsound.whole
        hsteps'.steady hsource' ht' hkeeps' hsteps'.targets (hperm.mem_iff.mp ha)
      exact absurd ((h.attempts_fail_iff hc hsteps ha htries htries' hu hu').mpr hstep') hstep
    · refine ⟨hfails.trans hfails'.symm, fun hnone => ?_⟩
      rw [hnone] at hfails
      cases hfails

end World

/-! ## Plans -/

namespace Plan

variable {classes : Classes} {registry : Registry Converter} {S S' T : ClassRef}
  {className : String} {p : Plan Converter}

/-- What is planned can be compiled. -/
theorem compileMutator_of_build
    (h : (build classes registry (.cls S) (.cls T) false).outcome = .ok p) :
    ∃ f, p.compileMutator classes = .ok f ∧ f.creates = none ∧ f.steps = p.assignments := by
  obtain ⟨-, -, hcreates, hsteps⟩ := steps_of_build_eq_ok h
  apply compileMutator_isOk hcreates hsteps
  intro a ha v
  obtain ⟨matched, -, -, -, hassignments⟩ := build_eq_ok h
  rw [hassignments] at ha
  obtain ⟨pair, -, hpair⟩ := List.mem_filterMap.mp ha
  exact (Resolver.chooses_of_resolve (assignment?_eq_some_iff.mp hpair)).2.2.not_foreign v

/-- What is planned for a source without properties can be carried out, and writes fields. -/
theorem feasible_of_build (hS : classes.properties S = .ok []) (hc : classes.IsOrdinary className)
    (h : (build classes registry (.cls S) (.cls (.declared className)) false).outcome = .ok p) :
    World.Feasible classes (p.assignments.map (·.source.name)) className p.assignments := by
  obtain ⟨matched, hmatched, hdistinct, -, hassignments⟩ := build_eq_ok h
  refine ⟨fun a ha => List.mem_map_of_mem ha, fun a ha => (isSteady_of_build h ha 0).1,
    fun a ha size => (isSteady_of_build h ha size).2, fun a ha => ?_, ?_⟩
  · obtain ⟨fields, hfields, hmem⟩ := mem_fields_of_pairs hS hmatched
    rw [hassignments] at ha
    obtain ⟨pair, hpair, hplanned⟩ := List.mem_filterMap.mp ha
    rw [(assignment?_members hplanned).2]
    exact hc.isPlain hfields (hmem pair hpair)
  · rw [hassignments]
    exact nodup_assignments_targets hdistinct

/-- Whether the members of a source are planned for in one order or in another makes no difference:
there is a plan for both or for none, with the same assignments in some order; and mutators that
are run one after the other, on sources whose attributes match, both come to an end or both fail,
and leave their targets alike.  What is read must not lead to the targets, nor to iterators. -/
theorem build_reordered (h : classes.Reordered S S') (hc : classes.IsOrdinary className)
    (registry : Registry Converter) :
    (∀ creates,
      ((∃ p, (build classes registry (.cls S) (.cls (.declared className)) creates).outcome = .ok p) ↔
        ∃ p', (build classes registry (.cls S') (.cls (.declared className)) creates).outcome =
          .ok p') ∧
      ∀ p p', (build classes registry (.cls S) (.cls (.declared className)) creates).outcome = .ok p →
        (build classes registry (.cls S') (.cls (.declared className)) creates).outcome = .ok p' →
        p.assignments.Perm p'.assignments) ∧
    ∀ p p', (build classes registry (.cls S) (.cls (.declared className)) false).outcome = .ok p →
      (build classes registry (.cls S') (.cls (.declared className)) false).outcome = .ok p' →
      ∃ f f', p.compileMutator classes = .ok f ∧ p'.compileMutator classes = .ok f' ∧
        ∀ (w w₁ w₂ : World) (s s' t t' : Place) (o o' : Option Fault), w.classes = classes →
          w.Twins (p.assignments.map (·.source.name)) className s s' t t' →
          w.mutate f (.ref s) (.ref t) = (w₁, o) → w₁.mutate f' (.ref s') (.ref t') = (w₂, o') →
          o.isSome = o'.isSome ∧
            (o = none → World.LeftAlike w w₂ (p.assignments.map (·.target.name)) t t') := by
  refine ⟨fun creates => ⟨build_isOk_reordered h, fun p p' => assignments_perm h⟩, ?_⟩
  intro p p' hp hp'
  obtain ⟨f, hf, hcreates, hsteps⟩ := compileMutator_of_build hp
  obtain ⟨f', hf', hcreates', hsteps'⟩ := compileMutator_of_build hp'
  refine ⟨f, f', hf, hf', ?_⟩
  rintro w w₁ w₂ s s' t t' o o' rfl htwins hrun hrun'
  rw [World.mutate_of_present hcreates rfl rfl, hsteps] at hrun
  rw [World.mutate_of_present hcreates' rfl rfl, hsteps'] at hrun'
  exact htwins.transferMembers hc (feasible_of_build h.properties hc hp) (assignments_perm h hp hp')
    hrun hrun'

end Plan

/-- Pages with a cover and a number, and sheets and leaves, which have a page for a cover and list
their fields in different order. -/
def printing : Classes :=
  let cover (c : ClassRef) : Entry := .field ⟨"cover", .cls c, .missing, false, none, true, none⟩
  let number : Entry := .field ⟨"number", .builtin .int, .missing, false, none, true, none⟩
  let page : ClassRef := .declared "Page"
  [⟨recordDecl "Page" false [cover (.builtin .str), number], [page, .builtin .object]⟩,
    ⟨recordDecl "Sheet" false [cover page, number], [.declared "Sheet", .builtin .object]⟩,
    ⟨recordDecl "Leaf" false [number, cover page], [.declared "Leaf", .builtin .object]⟩]

/-- A sheet and a leaf, with pages that are alike for covers, and two blank pages. -/
def press : World where
  classes := printing
  store :=
    let page (cover : String) (number : Int) : Cell :=
      .object "Page" none [("cover", .atom (.str cover)), ("number", .atom (.int number))]
    ⟨#[page "old" 1, page "old" 1,
      .object "Sheet" none [("cover", .ref 0), ("number", .atom (.int 2))],
      .object "Leaf" none [("number", .atom (.int 2)), ("cover", .ref 1)],
      page "blank" 0, page "blank" 0]⟩
  constants := []
  schemas := .empty

/-- The rule by which a page is printed where a text is wanted. -/
def printed : Registry Converter :=
  Registry.empty.register printing (.cls (.declared "Page")) (.builtin .str)
    (.function .text .unstated)

theorem reordered_printing : printing.Reordered (.declared "Sheet") (.declared "Leaf") := by
  have h : printing.fieldClasses? (.declared "Sheet") =
      some [("cover", .declared "Page"), ("number", .builtin .int)] := by decide +kernel
  have h' : printing.fieldClasses? (.declared "Leaf") =
      some [("number", .builtin .int), ("cover", .declared "Page")] := by decide +kernel
  exact Classes.reordered_of_classes (by decide +kernel) (by decide +kernel)
    (List.isEmpty_iff.mp (by decide +kernel)) (List.isEmpty_iff.mp (by decide +kernel))
    (by decide +kernel) h h' (.swap _ _ [])

theorem isOrdinary_page : printing.IsOrdinary "Page" :=
  ⟨by decide +kernel, by decide +kernel, by decide +kernel⟩

namespace World

/-- What the objects hold are covers at most. -/
theorem parts_press {p : Place} {cell : Cell} (hcell : press.store.get? p = some cell) :
    ∀ slot ∈ cell.slots, slot.Within (· < 2) := by
  have hatom : ∀ a, Slot.Within (· < 2) (.atom a) := Slot.within_atom
  match p with
  | 0 | 1 | 4 | 5 =>
      cases hcell
      exact List.forall_mem_cons.mpr ⟨hatom _, List.forall_mem_singleton.mpr (hatom _)⟩
  | 2 =>
      cases hcell
      exact List.forall_mem_cons.mpr
        ⟨Slot.within_ref.mpr (by decide), List.forall_mem_singleton.mpr (hatom _)⟩
  | 3 =>
      cases hcell
      exact List.forall_mem_cons.mpr
        ⟨hatom _, List.forall_mem_singleton.mpr (Slot.within_ref.mpr (by decide))⟩
  | n + 6 => cases hcell

theorem not_isIterator_press (q : Place) : ¬ press.IsIterator q := by
  rintro ⟨yielded, items, hcell⟩
  match q with
  | 0 | 1 | 2 | 3 | 4 | 5 | n + 6 => cases hcell

theorem constants_press (key : ConstantKey) : press.constants.lookup key = none := rfl

theorem isWhole_press : press.IsWhole := by
  refine ⟨fun p cell hcell slot hslot q hq => ?_, fun key slot hkept => ?_⟩
  · exact Nat.lt_of_lt_of_le (parts_press hcell slot hslot q hq) (by decide)
  · rw [constants_press] at hkept
    cases hkept

/-- Neither the sheet nor the leaf leads to a blank page. -/
theorem sees_press {p q : Place} (hp : p < 4) (h : press.Sees (.ref p) q) : q < 4 := by
  have hid := mirrors_id isWhole_press
  have hmirrors : Mirrors id (· < 4) press press := by
    refine ⟨hid.injective, fun q hq => ?_, fun q hq => ?_, fun q cell _ hcell slot hslot part hpart => ?_,
      fun key slot hkept => ?_⟩
    · exact Nat.lt_of_lt_of_le hq (by decide)
    · exact hid.cells q (Nat.lt_of_lt_of_le hq (by decide))
    · exact Nat.lt_of_lt_of_le (parts_press hcell slot hslot part hpart) (by decide)
    · rw [constants_press] at hkept
      cases hkept
  exact (hmirrors.sees (Slot.within_ref.mpr hp) h).1

/-- The covers match. -/
theorem matches_press : press.Matches (.ref 0) (.ref 1) := by
  refine ⟨Equiv.swap 0 1, (· < 2), ⟨(Equiv.swap 0 1).injective, fun q hq => ?_, fun q hq => ?_,
    fun q cell _ => parts_press, fun key slot hkept => ?_⟩, Slot.within_ref.mpr (by decide), rfl⟩
  · exact Nat.lt_of_lt_of_le hq (by decide)
  · match q with
    | 0 | 1 => rfl
  · rw [constants_press] at hkept
    cases hkept

/-- The sheet and the leaf hold the same under the names that they share. -/
theorem alike_press : ∀ name ∈ ["cover", "number"], Agree (fun x x' => press.Matches x.2 x'.2)
    (press.getAttribute (.ref 2) name) (press.getAttribute (.ref 3) name) := by
  have hreads : ∀ p ∈ [2, 3], ∀ name ∈ ["cover", "number"], ∀ v, press.held? p name = some v →
      press.getAttribute (.ref p) name = .ok (press, v) := by
    have hplain : ∀ p ∈ [2, 3], ∀ name ∈ ["cover", "number"],
        press.classes.IsPlain (press.classOf (.ref p)) name := by decide +kernel
    exact fun p hp name hname v => getAttribute_of_held (hplain p hp name hname)
  refine List.forall_mem_cons.mpr ⟨?_, List.forall_mem_singleton.mpr ?_⟩
  · rw [hreads 2 (by decide) "cover" (by decide) (.ref 0) rfl,
      hreads 3 (by decide) "cover" (by decide) (.ref 1) rfl]
    exact .ok matches_press
  · rw [hreads 2 (by decide) "number" (by decide) (.atom (.int 2)) rfl,
      hreads 3 (by decide) "number" (by decide) (.atom (.int 2)) rfl]
    exact .ok (.refl isWhole_press (has_atom _ _))

end World

namespace Plan

/-- The mutators print the covers onto blank pages as well as onto the covers themselves. -/
theorem build_printing : ∃ p p' f f',
    (build printing printed (.cls (.declared "Sheet")) (.cls (.declared "Page")) false).outcome =
      .ok p ∧
    (build printing printed (.cls (.declared "Leaf")) (.cls (.declared "Page")) false).outcome =
      .ok p' ∧
    p.compileMutator printing = .ok f ∧ p'.compileMutator printing = .ok f' ∧
    p.assignments.map (·.source.name) = ["cover", "number"] ∧
    p.assignments.map (·.target.name) = ["cover", "number"] ∧
    (∃ w₁ w₂, press.mutate f (.ref 2) (.ref 4) = (w₁, none) ∧
      w₁.mutate f' (.ref 3) (.ref 5) = (w₂, none)) ∧
    ∃ w₁ w₂, press.mutate f (.ref 2) (.ref 0) = (w₁, none) ∧
      w₁.mutate f' (.ref 3) (.ref 1) = (w₂, none) ∧
      w₂.held? 0 "cover" = some (.atom (.str "Page(cover='old', number=1)")) ∧
      w₂.held? 1 "cover" = some (.atom (.str "Page(cover='old', number=2)")) := by
  have hruns : ((build printing printed (.cls (.declared "Sheet")) (.cls (.declared "Page"))
      false).outcome.toOption.bind fun p =>
      (build printing printed (.cls (.declared "Leaf")) (.cls (.declared "Page"))
        false).outcome.toOption.bind fun p' =>
      (p.compileMutator printing).toOption.bind fun f =>
      (p'.compileMutator printing).toOption.map fun f' =>
        let blank := press.mutate f (.ref 2) (.ref 4)
        let used := press.mutate f (.ref 2) (.ref 0)
        let end_ := used.1.mutate f' (.ref 3) (.ref 1)
        ([p.assignments.map (·.source.name), p.assignments.map (·.target.name)],
          [blank.2, (blank.1.mutate f' (.ref 3) (.ref 5)).2, used.2, end_.2],
          [end_.1.held? 0 "cover", end_.1.held? 1 "cover"])) =
      some ([["cover", "number"], ["cover", "number"]], [none, none, none, none],
        [some (.atom (.str "Page(cover='old', number=1)")),
          some (.atom (.str "Page(cover='old', number=2)"))]) := by decide +kernel
  obtain ⟨p, hp, hruns⟩ := Option.bind_eq_some_iff.mp hruns
  obtain ⟨p', hp', hruns⟩ := Option.bind_eq_some_iff.mp hruns
  obtain ⟨f, hf, hruns⟩ := Option.bind_eq_some_iff.mp hruns
  obtain ⟨f', hf', hruns⟩ := Option.map_eq_some_iff.mp hruns
  rw [toOption_eq_some] at hp hp' hf hf'
  simp only [Prod.mk.injEq, List.cons.injEq, and_true] at hruns
  obtain ⟨⟨hsources, htargets⟩, ⟨hblank, hblank', hused, hused'⟩, hheld, hheld'⟩ := hruns
  exact ⟨p, p', f, f', hp, hp', hf, hf', hsources, htargets,
    ⟨_, _, Prod.ext rfl hblank, Prod.ext rfl hblank'⟩,
    _, _, Prod.ext rfl hused, Prod.ext rfl hused', hheld, hheld'⟩

theorem build_reordered_sheet : ∃ (p p' : Plan Converter) (f f' : MapFunction) (w₁ w₂ : World),
    (build printing printed (.cls (.declared "Sheet")) (.cls (.declared "Page")) false).outcome =
      .ok p ∧
    (build printing printed (.cls (.declared "Leaf")) (.cls (.declared "Page")) false).outcome =
      .ok p' ∧
    p.assignments.Perm p'.assignments ∧
    p.compileMutator printing = .ok f ∧ p'.compileMutator printing = .ok f' ∧
    press.mutate f (.ref 2) (.ref 4) = (w₁, none) ∧ w₁.mutate f' (.ref 3) (.ref 5) = (w₂, none) ∧
    World.LeftAlike press w₂ ["cover", "number"] 4 5 := by
  obtain ⟨p, p', f, f', hp, hp', hf, hf', hsources, htargets, ⟨w₁, w₂, hrun, hrun'⟩, -⟩ :=
    build_printing
  obtain ⟨hplans, hmutators⟩ := build_reordered reordered_printing isOrdinary_page printed
  obtain ⟨g, g', hg, hg', hmutates⟩ := hmutators p p' hp hp'
  obtain rfl : f = g := Except.ok.inj (hf.symm.trans hg)
  obtain rfl : f' = g' := Except.ok.inj (hf'.symm.trans hg')
  rw [hsources, htargets] at hmutates
  have htwins : press.Twins ["cover", "number"] "Page" 2 3 4 5 := by
    refine ⟨World.isWhole_press, by decide, by decide, ⟨_, _, rfl⟩, ⟨_, _, rfl⟩, fun q hq => ?_,
      fun q _ => World.not_isIterator_press q, World.alike_press⟩
    have hlt : q < 4 := hq.elim (World.sees_press (by decide)) (World.sees_press (by decide))
    exact ⟨Nat.ne_of_lt hlt, Nat.ne_of_lt (Nat.lt_succ_of_lt hlt)⟩
  exact ⟨p, p', f, f', w₁, w₂, hp, hp', (hplans false).2 p p' hp hp', hf, hf', hrun, hrun',
    (hmutates press w₁ w₂ 2 3 4 5 none none rfl htwins hrun hrun').2 rfl⟩

end Plan

/-- Folders and binders, which list their papers in different order, and shelves for texts. -/
def filing : Classes :=
  let papers : TypeExpr := .applied (.builtin .iterable) [.builtin .object]
  let texts : TypeExpr := .applied (.builtin .list) [.builtin .str]
  [Plan.annotatedClass "Folder" [("drafts", papers), ("notes", papers)],
    Plan.annotatedClass "Binder" [("notes", papers), ("drafts", papers)],
    Plan.annotatedClass "Shelf" [("drafts", texts), ("notes", texts)]]

/-- A folder and a binder, each with one iterator for all of its papers, and two empty shelves. -/
def archive : World where
  classes := filing
  store := ⟨#[
    .object "Folder" none [("drafts", .ref 2), ("notes", .ref 2)],
    .object "Binder" none [("notes", .ref 3), ("drafts", .ref 3)],
    .seq (.iterator 0) [.atom (.str "a")], .seq (.iterator 0) [.atom (.str "a")],
    .object "Shelf" none [], .object "Shelf" none []]⟩
  constants := []
  schemas := .empty

theorem reordered_filing : filing.Reordered (.declared "Folder") (.declared "Binder") := by
  have h : filing.fields (.declared "Folder") = .ok (["drafts", "notes"].map fun name =>
      Member.describe filing name (.applied (.builtin .iterable) [.builtin .object]) true true) := by
    with_unfolding_all rfl
  have h' : filing.fields (.declared "Binder") = .ok (["notes", "drafts"].map fun name =>
      Member.describe filing name (.applied (.builtin .iterable) [.builtin .object]) true true) := by
    with_unfolding_all rfl
  refine ⟨by with_unfolding_all rfl, by with_unfolding_all rfl, ?_⟩
  rw [h, h']
  exact .ok ((List.Perm.swap _ _ []).map _)

namespace Plan

/-- The step that comes first in the order of the fields gets the papers, the other one nothing. -/
theorem build_filing : ∃ p p' f f' w₁ w₂,
    (build filing (Registry.empty : Registry Converter) (.cls (.declared "Folder"))
      (.cls (.declared "Shelf")) false).outcome = .ok p ∧
    (build filing (Registry.empty : Registry Converter) (.cls (.declared "Binder"))
      (.cls (.declared "Shelf")) false).outcome = .ok p' ∧
    p.compileMutator filing = .ok f ∧ p'.compileMutator filing = .ok f' ∧
    archive.mutate f (.ref 0) (.ref 4) = (w₁, none) ∧ w₁.mutate f' (.ref 1) (.ref 5) = (w₂, none) ∧
    w₂.held? 4 "drafts" = some (.ref 6) ∧ w₂.held? 5 "drafts" = some (.ref 9) ∧
    w₂.store.get? 6 = some (.seq .list [.atom (.str "a")]) ∧
    w₂.store.get? 9 = some (.seq .list []) := by
  have hruns : ((build filing (Registry.empty : Registry Converter) (.cls (.declared "Folder"))
      (.cls (.declared "Shelf")) false).outcome.toOption.bind fun p =>
      (build filing (Registry.empty : Registry Converter) (.cls (.declared "Binder"))
        (.cls (.declared "Shelf")) false).outcome.toOption.bind fun p' =>
      (p.compileMutator filing).toOption.bind fun f =>
      (p'.compileMutator filing).toOption.map fun f' =>
        let first := archive.mutate f (.ref 0) (.ref 4)
        let second := first.1.mutate f' (.ref 1) (.ref 5)
        ([first.2, second.2], [second.1.held? 4 "drafts", second.1.held? 5 "drafts"],
          [second.1.store.get? 6, second.1.store.get? 9])) =
      some ([none, none], [some (.ref 6), some (.ref 9)],
        [some (.seq .list [.atom (.str "a")]), some (.seq .list [])]) := by decide +kernel
  obtain ⟨p, hp, hruns⟩ := Option.bind_eq_some_iff.mp hruns
  obtain ⟨p', hp', hruns⟩ := Option.bind_eq_some_iff.mp hruns
  obtain ⟨f, hf, hruns⟩ := Option.bind_eq_some_iff.mp hruns
  obtain ⟨f', hf', hruns⟩ := Option.map_eq_some_iff.mp hruns
  rw [toOption_eq_some] at hp hp' hf hf'
  simp only [Prod.mk.injEq, List.cons.injEq, and_true] at hruns
  obtain ⟨⟨hfirst, hsecond⟩, ⟨hheld, hheld'⟩, hcopy, hcopy'⟩ := hruns
  exact ⟨p, p', f, f', _, _, hp, hp', hf, hf', Prod.ext rfl hfirst, Prod.ext rfl hsecond, hheld,
    hheld', hcopy, hcopy'⟩

/-- A page that is the cover of the sheet that it is made from is printed as it is at that moment,
before its number is written or after it.  And papers behind one iterator go to the field that is
read first. -/
theorem build_reordered_differs :
    (∃ (p p' : Plan Converter) (f f' : MapFunction) (w₁ w₂ : World),
      printing.Reordered (.declared "Sheet") (.declared "Leaf") ∧ printing.IsOrdinary "Page" ∧
      (build printing printed (.cls (.declared "Sheet")) (.cls (.declared "Page")) false).outcome =
        .ok p ∧
      (build printing printed (.cls (.declared "Leaf")) (.cls (.declared "Page")) false).outcome =
        .ok p' ∧
      p.compileMutator printing = .ok f ∧ p'.compileMutator printing = .ok f' ∧
      (∀ name ∈ ["cover", "number"], Agree (fun x x' => press.Matches x.2 x'.2)
        (press.getAttribute (.ref 2) name) (press.getAttribute (.ref 3) name)) ∧
      press.store.get? 0 = press.store.get? 1 ∧
      press.mutate f (.ref 2) (.ref 0) = (w₁, none) ∧ w₁.mutate f' (.ref 3) (.ref 1) = (w₂, none) ∧
      w₂.held? 0 "cover" = some (.atom (.str "Page(cover='old', number=1)")) ∧
      w₂.held? 1 "cover" = some (.atom (.str "Page(cover='old', number=2)"))) ∧
    ∃ (p p' : Plan Converter) (f f' : MapFunction) (w₁ w₂ : World),
      filing.Reordered (.declared "Folder") (.declared "Binder") ∧ filing.IsOrdinary "Shelf" ∧
      (build filing .empty (.cls (.declared "Folder")) (.cls (.declared "Shelf")) false).outcome =
        .ok p ∧
      (build filing .empty (.cls (.declared "Binder")) (.cls (.declared "Shelf")) false).outcome =
        .ok p' ∧
      p.compileMutator filing = .ok f ∧ p'.compileMutator filing = .ok f' ∧
      (∀ name ∈ ["drafts", "notes"],
        archive.held? 0 name = some (.ref 2) ∧ archive.held? 1 name = some (.ref 3)) ∧
      archive.store.get? 2 = archive.store.get? 3 ∧
      archive.store.get? 4 = archive.store.get? 5 ∧
      archive.mutate f (.ref 0) (.ref 4) = (w₁, none) ∧
      w₁.mutate f' (.ref 1) (.ref 5) = (w₂, none) ∧
      w₂.held? 4 "drafts" = some (.ref 6) ∧ w₂.held? 5 "drafts" = some (.ref 9) ∧
      w₂.store.get? 6 = some (.seq .list [.atom (.str "a")]) ∧
      w₂.store.get? 9 = some (.seq .list []) := by
  constructor
  · obtain ⟨p, p', f, f', hp, hp', hf, hf', -, -, -, w₁, w₂, hrun, hrun', hheld, hheld'⟩ :=
      build_printing
    exact ⟨p, p', f, f', w₁, w₂, reordered_printing, isOrdinary_page, hp, hp', hf, hf',
      World.alike_press, rfl, hrun, hrun', hheld, hheld'⟩
  · obtain ⟨p, p', f, f', w₁, w₂, hp, hp', hf, hf', hends⟩ := build_filing
    exact ⟨p, p', f, f', w₁, w₂, reordered_filing,
      ⟨by decide +kernel, by decide +kernel, by decide +kernel⟩, hp, hp', hf, hf',
      by decide +kernel, rfl, rfl, hends⟩

end Plan

end Memberwise
