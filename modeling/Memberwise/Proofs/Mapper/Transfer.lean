import Memberwise.Proofs.Mapper.Frame
import Memberwise.Proofs.World.Writes

/-! # Writes of a transfer

A transfer is a run of steps, each of which writes one attribute of the target or fails and writes
nothing.  So what it leaves behind are the writes of the steps before the first one that fails.
-/

namespace Memberwise

/-! ## Compiled steps -/

theorem Plan.supportedStep_eq_ok {classes : Classes} {step : Step Converter}
    {a : Assignment Converter} (h : supportedStep classes step = .ok a) : step = .assignment a := by
  cases step with
  | foreign v => cases h
  | assignment b =>
      unfold supportedStep at h
      dsimp only at h
      split at h
      · cases h
      · cases h
        rfl

theorem Plan.supportedSteps_eq_ok {classes : Classes} {p : Plan Converter}
    {steps : List (Assignment Converter)}
    (h : p.steps.mapM (supportedStep classes) = .ok steps) : steps = p.assignments := by
  have hall := mapM_eq_ok_iff.mp h
  clear h
  unfold assignments
  generalize p.steps = l at hall
  induction hall with
  | nil => rfl
  | cons hstep _ ih =>
      rw [supportedStep_eq_ok hstep, List.filterMap_cons]
      exact congrArg (_ :: ·) ih

/-- A mutator has the assignments of its plan for steps, and creates nothing. -/
theorem Plan.compileMutator_eq_ok {classes : Classes} {p : Plan Converter} {f : MapFunction}
    (h : p.compileMutator classes = .ok f) :
    p.createsTarget = false ∧ f.creates = none ∧ f.steps = p.assignments := by
  obtain ⟨steps, hsteps, h⟩ := bind_eq_ok.mp h
  split at h
  · cases h
  · rename_i hcreates
    cases h
    exact ⟨by simpa using hcreates, rfl, supportedSteps_eq_ok hsteps⟩

namespace World

variable {w w' w'' : World} {source : Slot} {t : Place} {ws us : List (String × Slot)}

/-! ## Worlds with writes to an object -/

/-- Whether a world is left by writes to an object, and otherwise unchanged but for iterators that
are spent. -/
structure Written (t : Place) (ws : List (String × Slot)) (w w' : World) : Prop where
  frame : Spends (· = t) w w'
  target : w'.store.get? t = (w.store.get? t).map (Cell.writeAll ws)

theorem Written.refl (t : Place) (w : World) : Written t [] w w := by
  refine ⟨.refl _ w, ?_⟩
  cases w.store.get? t with
  | none => rfl
  | some cell => exact congrArg some (Cell.writeAll_nil cell).symm

theorem Written.of_spends (ht : t < w.store.size) (hobject : ¬ w.IsIterator t)
    (h : Spends (fun _ => False) w w') : Written t [] w w' := by
  refine ⟨h.of_spends, ?_⟩
  rw [h.get?_eq ht not_false hobject]
  exact (Written.refl t w).target

theorem Written.trans (h : Written t ws w w') (h' : Written t us w' w'') :
    Written t (ws ++ us) w w'' := by
  refine ⟨h.frame.trans h'.frame, ?_⟩
  rw [h'.target, h.target, Option.map_map]
  congr 1
  funext cell
  exact (Cell.writeAll_append ws us cell).symm

theorem Written.storeOn (ht : t < w.store.size) (key : String) (v : Slot) :
    Written t [(key, v)] w (w.storeOn t key v) :=
  ⟨.of_changesOnly (storeOn_changesOnly w t key v), get?_storeOn ht key v⟩

theorem Written.classOf (h : Written t ws w w') : w'.classOf (.ref t) = w.classOf (.ref t) := by
  show ((w'.store.get? t).map Cell.classOf).getD _ = ((w.store.get? t).map Cell.classOf).getD _
  rw [h.target, Option.map_map]
  congr 2
  funext cell
  exact Cell.classOf_writeAll ws cell

theorem Written.not_isIterator (h : Written t ws w w') (hobject : ¬ w.IsIterator t) :
    ¬ w'.IsIterator t := by
  rintro ⟨yielded, items, hcell⟩
  rw [h.target] at hcell
  obtain ⟨cell, hcell, hwritten⟩ := Option.map_eq_some_iff.mp hcell
  cases cell with
  | seq kind held =>
      cases hwritten
      exact hobject ⟨yielded, items, hcell⟩
  | dict | object => cases hwritten

/-- Whether an object stores plainly is told by its class. -/
theorem Spends.plain {P : Place → Prop} (h : Spends P w w') (ht : t < w.store.size) (hP : ¬ P t)
    (hplain : w.StoresPlainly t) : w'.StoresPlainly t := by
  unfold StoresPlainly
  rw [h.classOf_eq ht hP, h.classes]
  exact hplain

theorem Written.plain (h : Written t ws w w') (hplain : w.StoresPlainly t) :
    w'.StoresPlainly t := by
  unfold StoresPlainly
  rw [h.classOf, h.frame.classes]
  exact hplain

/-- What an object itself holds under a name. -/
def held? (w : World) (p : Place) (name : String) : Option Slot :=
  match w.store.get? p with
  | some (.object _ _ attributes) => attributes.lookup name
  | _ => none

/-- An attribute that is not written keeps its value. -/
theorem Written.held (h : Written t ws w w') {name : String} (hname : name ∉ ws.map (·.1)) :
    w'.held? t name = w.held? t name := by
  unfold held?
  rw [h.target]
  cases w.store.get? t with
  | none => rfl
  | some cell =>
      cases cell with
      | seq | dict => rfl
      | object className core attributes => exact lookup_writeAll hname

/-! ## Steps -/

/-- Steps that come to an end one after another, with the write of each. -/
inductive Performs (source : Slot) (t : Place) :
    World → List (Assignment Converter) → List (String × Slot) → World → Prop
  | done (w : World) : Performs source t w [] [] w
  | step {w w₁ w' : World} {a : Assignment Converter} {rest : List (Assignment Converter)}
      {key : String} {v : Slot} {ws : List (String × Slot)}
      (value : w.transferred a source = (w₁, .ok v))
      (place : w₁.destination t a.target.name = .ok key)
      (further : Performs source t (w₁.storeOn t key v) rest ws w') :
      Performs source t w (a :: rest) ((key, v) :: ws) w'

/-- A step that succeeds stores the value that it transfers. -/
theorem setAttribute_of_transferMember {a : Assignment Converter} {target : Slot}
    (h : w.transferMember a source target = (w', none)) :
    ∃ w₁ v, w.transferred a source = (w₁, .ok v) ∧
      w₁.setAttribute target a.target.name v = .ok w' := by
  unfold transferMember at h
  split at h
  · cases h
  · rename_i w₁ v heq
    split at h
    · cases h
    · rename_i hstored
      cases h
      exact ⟨w₁, v, heq, hstored⟩

theorem transferMember_eq_none {a : Assignment Converter} (hplain : w.StoresPlainly t)
    (ht : t < w.store.size) (h : w.transferMember a source (.ref t) = (w', none)) :
    ∃ w₁ key v, w.transferred a source = (w₁, .ok v) ∧
      w₁.destination t a.target.name = .ok key ∧ w' = w₁.storeOn t key v := by
  obtain ⟨w₁, v, heq, hstored⟩ := setAttribute_of_transferMember h
  have hspends := transferred_spends w a source
  rw [heq] at hspends
  rw [setAttribute_of_plain (hspends.plain ht not_false hplain)] at hstored
  obtain ⟨key, hkey, rfl⟩ := map_eq_ok.mp hstored
  exact ⟨w₁, key, v, heq, hkey, rfl⟩

/-- A step that fails writes nothing. -/
theorem transferMember_eq_some {a : Assignment Converter} {fault : Fault}
    (h : w.transferMember a source (.ref t) = (w', some fault)) :
    Spends (fun _ => False) w w' := by
  have hspends := transferred_spends w a source
  unfold transferMember at h
  split at h
  · rename_i heq
    rw [heq] at hspends
    cases h
    exact hspends
  · rename_i heq
    rw [heq] at hspends
    split at h
    · cases h
      exact hspends
    · cases h

/-- Steps that come to an end leave their writes behind, and nothing else. -/
theorem Performs.written {steps : List (Assignment Converter)}
    (h : Performs source t w steps ws w') (ht : t < w.store.size) (hobject : ¬ w.IsIterator t) :
    Written t ws w w' := by
  induction h with
  | done w => exact .of_spends ht hobject (.refl _ w)
  | @step w w₁ w' a rest key v ws value place further ih =>
      have hspends := transferred_spends w a source
      rw [value] at hspends
      have ht₁ : t < w₁.store.size := Nat.lt_of_lt_of_le ht hspends.size
      have hstored := (Written.of_spends ht hobject hspends).trans (Written.storeOn ht₁ key v)
      exact hstored.trans (ih (Nat.lt_of_lt_of_le ht hstored.frame.size)
        (hstored.not_isIterator hobject))

/-- A run of steps performs them all, or those before the first one that fails. -/
theorem transferMembers_performs (source : Slot) (hplain : w.StoresPlainly t)
    (ht : t < w.store.size) (hobject : ¬ w.IsIterator t) (steps : List (Assignment Converter)) :
    ∃ done ws w₁, Performs source t w done ws w₁ ∧
      (done = steps ∧ w.transferMembers source (.ref t) steps = (w₁, none) ∨
        ∃ a rest w₂ fault, steps = done ++ a :: rest ∧
          w₁.transferMember a source (.ref t) = (w₂, some fault) ∧
          w.transferMembers source (.ref t) steps = (w₂, some fault)) := by
  -- Every step starts in the world that the one before left, where the target still stores plainly.
  induction steps generalizing w with
  | nil => exact ⟨[], [], w, .done w, .inl ⟨rfl, rfl⟩⟩
  | cons a rest ih =>
      cases hstep : w.transferMember a source (.ref t) with
      | mk w₁ failure =>
          cases failure with
          | some fault =>
              refine ⟨[], [], w, .done w, .inr ⟨a, rest, w₁, fault, rfl, hstep, ?_⟩⟩
              rw [transferMembers, hstep]
          | none =>
              obtain ⟨w₂, key, v, hvalue, hplace, rfl⟩ := transferMember_eq_none hplain ht hstep
              have hfirst : Performs source t w [a] [(key, v)] (w₂.storeOn t key v) :=
                .step hvalue hplace (.done _)
              have hwritten := hfirst.written ht hobject
              obtain ⟨done, ws, w₃, hperforms, hend⟩ := ih (hwritten.plain hplain)
                (Nat.lt_of_lt_of_le ht hwritten.frame.size) (hwritten.not_isIterator hobject)
              refine ⟨a :: done, (key, v) :: ws, w₃, .step hvalue hplace hperforms, ?_⟩
              rw [transferMembers, hstep]
              rcases hend with ⟨rfl, hrun⟩ | ⟨b, further, w₄, fault, rfl, hfails, hrun⟩
              · exact .inl ⟨rfl, hrun⟩
              · exact .inr ⟨b, further, w₄, fault, rfl, hfails, hrun⟩

/-! ## Reading the source -/

/-- What an object says of itself depends on the object and its class alone. -/
theorem getWithin_congr {p : Place} (hclasses : w'.classes = w.classes)
    (hconstants : w'.constants = w.constants) (hcell : w'.store.get? p = w.store.get? p)
    (fuel : Nat) (name : String) :
    w'.getWithin (.ref p) fuel name =
      (w.getWithin (.ref p) fuel name).map fun result => (w', result.2) := by
  induction fuel generalizing name with
  | zero => rfl
  | succ fuel ih =>
      unfold getWithin
      dsimp only
      rw [hcell, hclasses]
      split
      · split
        · rfl
        · split
          · exact ih _
          · simp only [World.constant, hconstants, Except.map]
          · rfl
        · rfl
        · simp only [World.constant, hconstants, Except.map]
        · rfl
      · rfl

/-- An object that is not changed says of itself what it said before, and an iterator says nothing
of itself at any time. -/
theorem Spends.getAttribute {P : Place → Prop} {s : Place} (h : Spends P w w')
    (hs : s < w.store.size) (hP : ¬ P s) (name : String) :
    w'.getAttribute (.ref s) name =
      (w.getAttribute (.ref s) name).map fun result => (w', result.2) := by
  have hchain : w'.chainLength = w.chainLength := by
    unfold chainLength
    rw [h.classes]
  unfold World.getAttribute
  rw [hchain]
  rcases h.cells s hs hP with hsame | ⟨⟨yielded, items, hcell⟩, ⟨yielded', hcell'⟩⟩
  · exact getWithin_congr h.classes h.constants hsame _ name
  · unfold chainLength getWithin
    simp only [hcell, hcell']
    rfl

/-- A transfer reads its source as it was at first: the source is another object than the
target. -/
theorem Written.getAttribute {s : Place} (h : Written t ws w w') (hs : s < w.store.size)
    (hne : s ≠ t) (name : String) :
    w'.getAttribute (.ref s) name =
      (w.getAttribute (.ref s) name).map fun result => (w', result.2) :=
  h.frame.getAttribute hs hne name

theorem Written.destination (h : Written t ws w w') (name : String) :
    w'.destination t name = w.destination t name := by
  have hchain : w'.chainLength = w.chainLength := by
    unfold chainLength
    rw [h.frame.classes]
  unfold World.destination
  rw [hchain]
  exact destinationWithin_congr h.frame.classes h.target _ name

/-! ## Mutators -/

/-- Whether an operation makes something of any value. -/
def takesAnything : Operation Converter → Bool
  | .assign | .unwrapOr _ | .convert _ => true
  | .custom _ | .copyCollection .. | .foreign _ => false

theorem transferred_of_takesAnything {a : Assignment Converter} {v : Slot}
    (h : takesAnything a.operation = true)
    (hread : w.getAttribute source a.source.name = .ok (w', v)) :
    ∃ w'' u, w.transferred a source = (w'', .ok u) := by
  unfold transferred
  cases hoperation : a.operation with
  | assign =>
      simp only [hread, transferValue, hoperation]
      exact ⟨_, _, rfl⟩
  | unwrapOr default =>
      simp only [hread, transferValue, hoperation]
      split <;> exact ⟨_, _, rfl⟩
  | convert default =>
      simp only [hread, transferValue, hoperation]
      exact ⟨_, _, rfl⟩
  | custom | copyCollection | foreign =>
      rw [hoperation] at h
      cases h

/-- A mutator does the writes of the steps before the first one that fails, or of all steps, and
changes nothing else, except that it may spend iterators.  What it reads of the source is not changed
by any of its steps. -/
theorem mutate_prefix {p : Plan Converter} {f : MapFunction}
    (hf : p.compileMutator w.classes = .ok f) (hsource : source.isNone = false)
    (hs : ∀ s, source = .ref s → s < w.store.size) (ht : t < w.store.size)
    (hobject : ¬ w.IsIterator t) (hreach : ¬ w.store.Reaches source t)
    (hplain : w.StoresPlainly t) :
    (∃ done ws w₁, Performs source t w done ws w₁ ∧
      (done = p.assignments ∧ w.mutate f source (.ref t) = (w₁, none) ∨
        ∃ a rest w₂ fault, p.assignments = done ++ a :: rest ∧
          w₁.transferMember a source (.ref t) = (w₂, some fault) ∧
          w.mutate f source (.ref t) = (w₂, some fault)) ∧
      Written t ws w (w.mutate f source (.ref t)).1 ∧
      ∀ name, name ∉ ws.map (·.1) →
        (w.mutate f source (.ref t)).1.held? t name = w.held? t name) ∧
    (∀ done ws w₁, Performs source t w done ws w₁ →
      (∀ name, w₁.destination t name = w.destination t name) ∧
      (∀ s name, source = .ref s → w₁.getAttribute (.ref s) name =
        (w.getAttribute (.ref s) name).map fun result => (w₁, result.2)) ∧
      ∀ q, w.store.Reaches source q → q < w.store.size →
        w₁.store.get? q = w.store.get? q ∨ w.IsIterator q ∧ w₁.IsSpent q) ∧
    ∀ (w₁ w₂ : World) (a : Assignment Converter) (v : Slot), takesAnything a.operation = true →
      w₁.getAttribute source a.source.name = .ok (w₂, v) →
      ∃ w₃ u, w₁.transferred a source = (w₃, .ok u) := by
  obtain ⟨-, hcreates, hsteps⟩ := Plan.compileMutator_eq_ok hf
  have hrun : w.mutate f source (.ref t) = w.transferMembers source (.ref t) p.assignments := by
    unfold mutate
    rw [hcreates, hsource, hsteps]
    rfl
  refine ⟨?_, fun done ws w₁ hperforms => ?_, ?_⟩
  · obtain ⟨done, ws, w₁, hperforms, hend⟩ :=
      transferMembers_performs source hplain ht hobject p.assignments
    have hwritten : Written t ws w (w.transferMembers source (.ref t) p.assignments).1 := by
      rcases hend with ⟨-, hend⟩ | ⟨a, rest, w₂, fault, -, hfails, hend⟩
      · rw [hend]
        exact hperforms.written ht hobject
      · rw [hend]
        have hbefore := hperforms.written ht hobject
        have hlast := Written.of_spends (Nat.lt_of_lt_of_le ht hbefore.frame.size)
          (hbefore.not_isIterator hobject) (transferMember_eq_some hfails)
        rw [← List.append_nil ws]
        exact hbefore.trans hlast
    rw [hrun]
    exact ⟨done, ws, w₁, hperforms, hend, hwritten, fun name => hwritten.held⟩
  · have hwritten := hperforms.written ht hobject
    refine ⟨hwritten.destination, ?_, ?_⟩
    · rintro s name rfl
      exact hwritten.getAttribute (hs s rfl) (fun heq => hreach (heq ▸ .self s)) name
    · intro q hq hsize
      exact hwritten.frame.cells q hsize fun heq => hreach (heq ▸ hq)
  · intro w₁ w₂ a v
    exact transferred_of_takesAnything

/-- An order and an invoice, both of classes that take any attribute. -/
def billing : World where
  classes := ["Order", "Invoice"].map fun name =>
    ⟨⟨name, .plain, [], none, [], none⟩, [.declared name, .builtin .object]⟩
  store := ⟨#[
    .object "Order" none [("number", .atom (.int 7)), ("total", .atom (.int 12))],
    .object "Invoice" none [("number", .atom (.int 0)), ("paid", .atom (.bool true))]]⟩
  constants := []
  schemas := .empty

/-- A plan that copies the number of an order and then fails at its total. -/
def billingPlan : Plan Converter where
  source := .declared "Order"
  target := .declared "Invoice"
  createsTarget := false
  steps :=
    let member (name : String) := Member.describe billing.classes name (.builtin .int) true true
    [.assignment ⟨member "number", member "number", .matchingNullability, .assign⟩,
      .assignment ⟨member "total", member "total", .matchingNullability,
        .custom (.function .failing .unstated)⟩]

theorem mutate_prefix_invoice : ∃ f ws,
    billingPlan.compileMutator billing.classes = .ok f ∧
    (billing.mutate f (.ref 0) (.ref 1)).2 = some (.value "custom failure") ∧
    Written 1 ws billing (billing.mutate f (.ref 0) (.ref 1)).1 := by
  have hcompiles : ∃ f, billingPlan.compileMutator billing.classes = .ok f ∧
      (billing.mutate f (.ref 0) (.ref 1)).2 = some (.value "custom failure") := ⟨_, rfl, rfl⟩
  obtain ⟨f, hf, hfails⟩ := hcompiles
  have hsource : ∀ s, Slot.ref 0 = .ref s → s < billing.store.size := by
    rintro s ⟨⟩
    decide
  have hreach : ¬ billing.store.Reaches (.ref 0) 1 := by
    intro h
    cases h with
    | @part _ _ cell slot hfound hholds hfurther =>
        cases hfound
        have hatoms : slot ∈ [.atom (.int 7), .atom (.int 12)] := hholds
        simp only [List.mem_cons, List.not_mem_nil, or_false] at hatoms
        rcases hatoms with rfl | rfl <;> cases hfurther
  obtain ⟨⟨done, ws, w₁, -, -, hwritten, -⟩, -⟩ :=
    mutate_prefix hf rfl hsource (by decide) (not_isIterator_of_object rfl) hreach rfl
  exact ⟨f, ws, hf, hfails, hwritten⟩

/-- A box with an iterator over a text and an empty tray, both of classes that take any
attribute. -/
def unpacking : World where
  classes := ["Box", "Tray"].map fun name =>
    ⟨⟨name, .plain, [], none, [], none⟩, [.declared name, .builtin .object]⟩
  store := ⟨#[
    .object "Box" none [("items", .ref 2)],
    .object "Tray" none [],
    .seq (.iterator 0) [.atom (.str "a")]]⟩
  constants := []
  schemas := .empty

/-- A plan that copies the items of a box to a tray. -/
def unpackingPlan : Plan Converter where
  source := .declared "Box"
  target := .declared "Tray"
  createsTarget := false
  steps :=
    let member (name : String) := Member.describe unpacking.classes name (.builtin .list) true true
    [.assignment ⟨member "items", member "items", .matchingNullability,
      .copyCollection (.builtin .str) .list true⟩]

/-- Another object than the target is changed, one that the source holds: the iterator has nothing
left. -/
theorem mutate_prefix_unpacking : ∃ f w₁,
    unpackingPlan.compileMutator unpacking.classes = .ok f ∧
    unpacking.StoresPlainly 1 ∧ ¬ unpacking.store.Reaches (.ref 0) 1 ∧
    unpacking.mutate f (.ref 0) (.ref 1) = (w₁, none) ∧
    unpacking.store.Reaches (.ref 0) 2 ∧
    unpacking.store.get? 2 = some (.seq (.iterator 0) [.atom (.str "a")]) ∧
    w₁.store.get? 2 = some (.seq (.iterator 1) []) := by
  have hruns : (unpackingPlan.compileMutator unpacking.classes).toOption.map (fun f =>
      ((unpacking.mutate f (.ref 0) (.ref 1)).2,
        (unpacking.mutate f (.ref 0) (.ref 1)).1.store.get? 2)) =
      some (none, some (.seq (.iterator 1) [])) := by decide +kernel
  obtain ⟨f, hf, hruns⟩ := Option.map_eq_some_iff.mp hruns
  rw [toOption_eq_some] at hf
  obtain ⟨hrun, hspent⟩ := Prod.mk.inj hruns
  have hholds : ∀ p cell, unpacking.store.get? p = some cell → ∀ slot ∈ cell.slots,
      slot.Within (· = 2) := by
    intro p cell hcell
    match p with
    | 0 =>
        cases hcell
        exact List.forall_mem_singleton.mpr (Slot.within_ref.mpr rfl)
    | 1 =>
        cases hcell
        exact List.forall_mem_nil _
    | 2 =>
        cases hcell
        exact List.forall_mem_singleton.mpr (Slot.within_atom _)
    | n + 3 => cases hcell
  have hapart : ∀ slot q, unpacking.store.Reaches slot q → slot ≠ .ref 1 → q ≠ 1 := by
    intro slot q h
    induction h with
    | self p => exact fun hne heq => hne (congrArg Slot.ref heq)
    | part hfound hslot _ ih =>
        refine fun _ => ih ?_
        rintro rfl
        cases hholds _ _ hfound _ hslot 1 rfl
  exact ⟨f, _, hf, rfl, fun h => hapart _ _ h nofun rfl, Prod.ext rfl hrun,
    .part rfl List.mem_cons_self (.self 2), rfl, hspent⟩

end World

end Memberwise
