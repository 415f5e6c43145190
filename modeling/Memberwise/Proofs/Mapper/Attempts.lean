import Memberwise.Proofs.Mapper.Learning
import Memberwise.Proofs.Mapper.Transfer
import Memberwise.Proofs.Whole.Transfer
import Memberwise.Proofs.World.Plain

/-! # Steps in the course of a run

Each step of a run is tried in a world in which nothing has changed but the target, and nothing but
the target changes after it, if no iterator is spent.  What it stores stays there, if no other step stores in the same
attribute.
-/

namespace Memberwise.World

variable {w u w' w'' : World} {source : Slot} {t p : Place} {className key : String} {v : Slot}
  {a : Assignment Converter} {steps : List (Assignment Converter)} {ws : List (String × Slot)}

/-! ## Targets -/

theorem IsInstance.storesPlainly (h : w.IsInstance t className)
    (hmodel : w.classes.isModel (.declared className) = false) : w.StoresPlainly t := by
  unfold StoresPlainly
  rw [h.classOf, hmodel]
  rfl

theorem IsInstance.not_isIterator (h : w.IsInstance p className) : ¬ w.IsIterator p := by
  obtain ⟨core, attributes, hcell⟩ := h
  exact not_isIterator_of_object hcell

theorem Spends.held {P : Place → Prop} (h : Spends P w w') (hp : p < w.store.size)
    (hP : ¬ P p) (name : String) : w'.held? p name = w.held? p name := by
  unfold held?
  rcases h.cells p hp hP with hsame | ⟨⟨yielded, items, hcell⟩, ⟨yielded', hcell'⟩⟩
  · rw [hsame]
  · rw [hcell, hcell']

/-- Writes to an object leave all objects instances of their classes. -/
theorem Written.isInstance (h : Written t ws w w') (hp : w.IsInstance p className) :
    w'.IsInstance p className := by
  by_cases hsame : p = t
  · subst hsame
    exact hp.of_written h
  · obtain ⟨core, attributes, hcell⟩ := id hp
    exact ⟨core, attributes, (h.frame.get?_eq hp.lt hsame hp.not_isIterator).trans hcell⟩

/-- Where a store ends depends on the class of the object only. -/
theorem IsInstance.destination_eq {q : Place} (hp : w.IsInstance p className)
    (hq : w'.IsInstance q className) (hclasses : w'.classes = w.classes) (name : String) :
    w'.destination q name = w.destination p name := by
  have hchain : w'.chainLength = w.chainLength := by
    unfold chainLength
    rw [hclasses]
  unfold World.destination
  rw [hchain]
  generalize w.chainLength = fuel
  have hclass := hp.classOf
  have hclass' := hq.classOf
  obtain ⟨core, attributes, hcell⟩ := hp
  obtain ⟨core', attributes', hcell'⟩ := hq
  induction fuel generalizing name with
  | zero => rfl
  | succ fuel ih =>
      unfold destinationWithin
      rw [hcell, hcell', hclass, hclass', isGuarded_congr hclasses, targetOf_congr hclasses]
      simp only [ih]

/-! ## What steps leave -/

theorem storeOn_learns (w : World) (p : Place) (name : String) (v : Slot) :
    Learns w (w.storeOn p name v) := by
  refine learns_of_same (storeOn_changesOnly w p name v).classes ?_
  unfold storeOn
  split <;> rfl

theorem Performs.learns (h : Performs source t w steps ws w') : Learns w w' := by
  induction h with
  | done w => exact .refl w
  | @step w w₁ w' a rest key v ws value place further ih =>
      have hvalue := transferred_learns w a source
      rw [value] at hvalue
      exact (hvalue.trans (storeOn_learns w₁ t key v)).trans ih

/-- Steps that come to an end leave a whole world. -/
theorem Performs.sound (h : Performs source t w steps ws w') (hwhole : w.IsWhole)
    (hsteps : ∀ a ∈ steps, ∀ size, a.operation.IsSteady size) (hsource : w.Has source) :
    Sound w w' := by
  induction h with
  | done w => exact .refl hwhole
  | @step w w₁ w' a rest key v ws value place further ih =>
      rw [List.forall_mem_cons] at hsteps
      have hvalue := yields_transferred hwhole (hsteps.1 _) hsource
      rw [value] at hvalue
      have hstored := hvalue.sound.trans
        (sound_storeOn hvalue.sound.whole t key (hvalue.there v rfl))
      exact hstored.trans (ih hstored.whole hsteps.2 (hstored.has hsource))

/-- Steps that spend no iterator change their target only. -/
theorem Performs.changesOnly (h : Performs source t w steps ws w')
    (hkeeps : w.KeepsIterators (· = t) source steps) : ChangesOnly (· = t) w w' := by
  induction h with
  | done w => exact .refl _ w
  | @step w w₁ w' a rest key v ws value place further ih =>
      have hvalue := hkeeps w (.refl _ w) a List.mem_cons_self
      rw [value] at hvalue
      have hstored := (ChangesOnly.of_extends hvalue).trans (storeOn_changesOnly w₁ t key v)
      exact hstored.trans (ih (hkeeps.later hstored).tail)

/-- The writes of steps are those in which their stores end. -/
theorem Performs.ends (h : Performs source t w steps ws w') (ht : t < w.store.size)
    (hobject : ¬ w.IsIterator t) (hkey : key ∈ ws.map (·.1)) :
    ∃ a ∈ steps, w.destination t a.target.name = .ok key := by
  induction h with
  | done w => cases hkey
  | @step w w₁ w' a rest key' v ws value place further ih =>
      have hspends := transferred_spends w a source
      rw [value] at hspends
      have hfirst := Written.of_spends ht hobject hspends
      have ht₁ : t < w₁.store.size := Nat.lt_of_lt_of_le ht hspends.size
      have hstored := hfirst.trans (Written.storeOn ht₁ key' v)
      rw [List.map_cons, List.mem_cons] at hkey
      rcases hkey with rfl | hkey
      · exact ⟨a, List.mem_cons_self, (hfirst.destination _).symm.trans place⟩
      · obtain ⟨b, hb, hends⟩ := ih (Nat.lt_of_lt_of_le ht hstored.frame.size)
          (hstored.not_isIterator hobject) hkey
        exact ⟨b, List.mem_cons_of_mem _ hb, (hstored.destination _).symm.trans hends⟩

/-- No object gets another value under a name in whose attribute no store ends. -/
theorem Performs.keeps (h : Performs source t w steps ws w') (ht : t < w.store.size)
    (hobject : ¬ w.IsIterator t) (hkey : ∀ a ∈ steps, w.destination t a.target.name ≠ .ok key)
    (hp : p < w.store.size) :
    w'.held? p key = w.held? p key := by
  have hwritten := h.written ht hobject
  by_cases hsame : p = t
  · subst hsame
    refine hwritten.held fun hwrite => ?_
    obtain ⟨a, ha, hends⟩ := h.ends ht hobject hwrite
    exact hkey a ha hends
  · exact hwritten.frame.held hp hsame key

/-! ## Attempts -/

/-- Whether a step is tried in a world on the way from one to another, while nothing but the target
changes. -/
structure Tries (source : Slot) (t : Place) (w : World) (a : Assignment Converter)
    (u w' : World) : Prop where
  whole : u.IsWhole
  before : ChangesOnly (· = t) w u
  learns : Learns w u
  made : Extends u (u.transferred a source).1
  after : ChangesOnly (· = t) (u.transferred a source).1 w'
  learned : Learns (u.transferred a source).1 w'

theorem Tries.frame (h : Tries source t w a u w') : ChangesOnly (· = t) w w' :=
  (h.before.trans (.of_extends h.made)).trans h.after

theorem Tries.size (h : Tries source t w a u w') : u.store.size ≤ w'.store.size :=
  Nat.le_trans h.made.size h.after.size

/-- An attempt at a step is one on the way to the end of the run. -/
theorem tries_first (hwhole : w.IsWhole) (hmade : Extends w (w.transferred a source).1)
    (t : Place) : Tries source t w a w (w.transferMember a source (.ref t)).1 := by
  refine ⟨hwhole, .refl _ w, .refl w, hmade, ?_, ?_⟩
  · rw [transferMember_eq]
    cases (w.transferred a source).2 with
    | error fault => exact .refl _ _
    | ok v =>
        show ChangesOnly _ _ (goOn _ _ (setAttribute _ (.ref t) a.target.name v)).1
        cases hset : setAttribute _ (.ref t) a.target.name v with
        | error fault => exact .refl _ _
        | ok w₁ =>
            exact (setAttribute_changesOnly hset).mono fun q _ hq => (Slot.ref.inj hq).symm
  · rw [transferMember_eq]
    exact storeResult_learns _ _ _ _

theorem Tries.earlier (h : Tries source t w a u w') {w₀ : World}
    (hframe : ChangesOnly (· = t) w₀ w) (hlearns : Learns w₀ w) : Tries source t w₀ a u w' :=
  { h with before := hframe.trans h.before, learns := hlearns.trans h.learns }

/-- A step comes to an end if it makes something of its source and there is an attribute in which
to store it. -/
theorem transferMember_eq_none_iff (hplain : w.StoresPlainly t) (ht : t < w.store.size)
    (hobject : ¬ w.IsIterator t) :
    (w.transferMember a source (.ref t)).2 = none ↔
      (∃ v, (w.transferred a source).2 = .ok v) ∧ ∃ key, w.destination t a.target.name = .ok key := by
  have hvalue := Written.of_spends ht hobject (transferred_spends w a source)
  rw [transferMember_eq, ← hvalue.destination a.target.name]
  cases (w.transferred a source).2 with
  | error fault => simp [storeResult]
  | ok v =>
      show (goOn _ _ (setAttribute _ (.ref t) a.target.name v)).2 = none ↔ _
      rw [setAttribute_of_plain (hvalue.plain hplain)]
      cases destination (w.transferred a source).1 t a.target.name with
      | error fault => simp [goOn, Except.map]
      | ok key => simp [goOn, Except.map]

/-- What a step stores in the course of a run is held in the end, unless another step stores in the
same attribute. -/
theorem Performs.leaves (h : Performs source t w steps ws w') (hwhole : w.IsWhole)
    (hsteps : ∀ a ∈ steps, ∀ size, a.operation.IsSteady size) (hsource : w.Has source)
    (ht : w.IsInstance t className) (hkeeps : w.KeepsIterators (· = t) source steps)
    (hnames : (steps.map (·.target.name)).Nodup) (ha : a ∈ steps) : ∃ u key v, Tries source t w a u w' ∧ u.IsInstance t className ∧
      (u.transferred a source).2 = .ok v ∧ w.destination t a.target.name = .ok key ∧
      ((∀ b ∈ steps, w.destination t b.target.name = .ok key → b = a) →
        w'.held? t key = some v) := by
  induction h with
  | done w => cases ha
  | @step w w₁ w' first rest key v ws value place further ih =>
      rw [List.forall_mem_cons] at hsteps
      rw [List.map_cons, List.nodup_cons] at hnames
      have hstep : Performs source t w [first] [(key, v)] (w₁.storeOn t key v) :=
        .step value place (.done _)
      have hsound := hstep.sound hwhole (List.forall_mem_singleton.mpr hsteps.1) hsource
      have hwritten := hstep.written ht.lt ht.not_isIterator
      have hvalue := hkeeps w (.refl _ w) first List.mem_cons_self
      have hmade := hvalue
      rw [value] at hmade
      have hends : w.destination t first.target.name = .ok key :=
        ((Written.of_spends ht.lt ht.not_isIterator (.of_extends hmade)).destination _).symm.trans
          place
      have hchanged := (ChangesOnly.of_extends hmade).trans (storeOn_changesOnly w₁ t key v)
      have hkeeps' := (hkeeps.later hchanged).tail
      have ht' := hwritten.isInstance ht
      rcases List.mem_cons.mp ha with rfl | ha
      · have hlater := further.written ht'.lt ht'.not_isIterator
        refine ⟨w, key, v, ⟨hwhole, .refl _ w, .refl w, hvalue, ?_, ?_⟩, ht, by rw [value], hends,
          fun honly => ?_⟩
        · rw [value]
          exact (storeOn_changesOnly w₁ t key v).trans (further.changesOnly hkeeps')
        · rw [value]
          exact (storeOn_learns w₁ t key v).trans further.learns
        · -- No later write is to the attribute in which the step ends.
          have hfree : key ∉ ws.map (·.1) := by
            intro hkey
            obtain ⟨b, hb, hbkey⟩ := further.ends ht'.lt ht'.not_isIterator hkey
            rw [hwritten.destination] at hbkey
            obtain rfl := honly b (List.mem_cons_of_mem _ hb) hbkey
            exact hnames.1 (List.mem_map_of_mem hb)
          rw [hlater.held hfree]
          exact hwritten.held_of_mem ht (g := fun _ => v) List.mem_cons_self
            (List.forall_mem_singleton.mpr rfl)
      · obtain ⟨u, key', v', htries, hu, hvalue, hends', hheld⟩ :=
          ih hsound.whole hsteps.2 (hsound.has hsource) ht' hkeeps' hnames.2 ha
        rw [hwritten.destination] at hends'
        refine ⟨u, key', v', htries.earlier hchanged hstep.learns, hu, hvalue, hends',
          fun honly => ?_⟩
        apply hheld
        intro b hb hbkey
        rw [hwritten.destination] at hbkey
        exact honly b (List.mem_cons_of_mem _ hb) hbkey

/-- Each step of a run that comes to an end comes to an end where it is tried. -/
theorem Performs.passes (h : Performs source t w steps ws w') (hc : w.classes.IsOrdinary className)
    (hwhole : w.IsWhole) (hsteps : ∀ a ∈ steps, ∀ size, a.operation.IsSteady size)
    (hsource : w.Has source) (ht : w.IsInstance t className)
    (hkeeps : w.KeepsIterators (· = t) source steps)
    (hnames : (steps.map (·.target.name)).Nodup) (ha : a ∈ steps) :
    ∃ u, Tries source t w a u w' ∧ u.IsInstance t className ∧
      (u.transferMember a source (.ref t)).2 = none := by
  obtain ⟨u, key, v, htries, hu, hv, hkey, -⟩ := h.leaves hwhole hsteps hsource ht hkeeps hnames ha
  have hclasses := htries.before.classes
  have hplain := hu.storesPlainly (hclasses ▸ hc.noModel)
  refine ⟨u, htries, hu, (transferMember_eq_none_iff hplain hu.lt
    hu.not_isIterator).mpr ⟨⟨v, hv⟩, key, ?_⟩⟩
  rw [ht.destination_eq hu hclasses, hkey]

/-- A run of steps comes to an end after all of them, or with a step that fails where it is
tried. -/
theorem transferMembers_attempts (hwhole : w.IsWhole)
    (hsteps : ∀ a ∈ steps, ∀ size, a.operation.IsSteady size) (hsource : w.Has source)
    (ht : w.IsInstance t className) (hplain : w.StoresPlainly t)
    (hkeeps : w.KeepsIterators (· = t) source steps) {outcome : Option Fault}
    (hrun : w.transferMembers source (.ref t) steps = (w', outcome)) :
    (∃ ws, Written t ws w w') ∧ ChangesOnly (· = t) w w' ∧
      (outcome = none ∧ (∃ ws, Performs source t w steps ws w') ∨
        outcome.isSome = true ∧ ∃ a ∈ steps, ∃ u, Tries source t w a u w' ∧ u.IsInstance t className ∧
          (u.transferMember a source (.ref t)).2 ≠ none) := by
  obtain ⟨done, ws, w₁, hperforms, hend⟩ := transferMembers_performs source hplain ht.lt
    ht.not_isIterator steps
  have hwritten := hperforms.written ht.lt ht.not_isIterator
  rcases hend with ⟨rfl, hend⟩ | ⟨a, rest, w₂, fault, rfl, hfails, hend⟩
  · rw [hrun] at hend
    cases hend
    exact ⟨⟨ws, hwritten⟩, hperforms.changesOnly hkeeps, .inl ⟨rfl, ws, hperforms⟩⟩
  · rw [hrun] at hend
    cases hend
    have hsound := hperforms.sound hwhole (fun b hb => hsteps b (List.mem_append_left _ hb)) hsource
    have ht₁ := hwritten.isInstance ht
    have hlast := Written.of_spends ht₁.lt ht₁.not_isIterator (transferMember_eq_some hfails)
    have hmem : a ∈ done ++ a :: rest := List.mem_append_right _ List.mem_cons_self
    have hchanged := hperforms.changesOnly fun u hu b hb =>
      hkeeps u hu b (List.mem_append_left _ hb)
    have htries := tries_first hsound.whole (hkeeps w₁ hchanged a hmem) t
    rw [hfails] at htries
    have hrun := htries.earlier hchanged hperforms.learns
    refine ⟨⟨_, hwritten.trans hlast⟩, hrun.frame, .inr ⟨rfl, a, hmem, w₁, hrun, ht₁, ?_⟩⟩
    rw [hfails]
    exact Option.some_ne_none fault

end Memberwise.World
