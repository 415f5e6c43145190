import Memberwise.Proofs.Member.Names
import Memberwise.Proofs.Parallel.Create

/-! # Arguments that a class cannot go without

An object is created by the initializers of its lineage: the nearest one is called, and may forward
some of what it is given to the next one.  Somewhere on this way a call may leave out an argument
that is required.  Which parameters the nearest initializer has does not tell: a further initializer
may be given too little, a predefined class may ask for more than its parameters say, and there are
classes whose instances are not made by initializers at all.
-/

namespace Memberwise

/-! ## Calls with arguments given by position -/

section Calls

variable {params : List Parameter} {n : Nat}

/-- The names of the parameters that take one argument by position, in order. -/
def ordinaryNames (params : List Parameter) : List String :=
  (params.filter (·.kind == .ordinary)).map (·.name)

/-- Whether there are not more arguments given by position than parameters take. -/
def Holds (params : List Parameter) (n : Nat) : Prop :=
  n ≤ (ordinaryNames params).length ∨ ∃ p ∈ params, p.kind = .restByPosition

/-- Whether arguments given by position leave a required parameter without one. -/
def LeavesOut (params : List Parameter) (n : Nat) : Prop :=
  ∃ p ∈ params, p.isRequired = true ∧ p.name ∉ (ordinaryNames params).take n

theorem holds_iff (slots : List Slot) :
    Holds params slots.length ↔
      (!(slots.drop (ordinaryNames params).length).isEmpty &&
        !params.any (·.kind == .restByPosition)) = false := by
  simp [Holds, or_iff_not_imp_left]

theorem mem_zip_names {names : List String} {slots : List Slot} {name : String} :
    (names.zip slots).any (·.1 == name) = true ↔ name ∈ names.take slots.length := by
  induction names generalizing slots with
  | nil => simp
  | cons first rest ih =>
      cases slots with
      | nil => simp
      | cons slot slots =>
          rw [List.zip_cons_cons, List.any_cons, Bool.or_eq_true, ih, beq_iff_eq,
            List.length_cons, List.take_succ_cons, List.mem_cons, eq_comm]

theorem leavesOut_iff (slots : List Slot) :
    LeavesOut params slots.length ↔
      (params.any fun p => p.isRequired &&
        !((ordinaryNames params).zip slots).any (·.1 == p.name)) = true := by
  simp only [LeavesOut, ← mem_zip_names, Bool.not_eq_true]
  rw [List.any_eq_true]
  simp only [Bool.and_eq_true, Bool.not_eq_true']

/-- What becomes of arguments that are given by position only. -/
theorem distribute_positional (params : List Parameter) (slots : List Slot) :
    (⟨slots, []⟩ : Arguments).distribute params =
      if (!(slots.drop (ordinaryNames params).length).isEmpty &&
        !params.any (·.kind == .restByPosition)) then .error .typeMismatch
      else if params.any fun p => p.isRequired &&
        !((ordinaryNames params).zip slots).any (·.1 == p.name) then .error .missingArgument
      else .ok ⟨(ordinaryNames params).zip slots, slots.drop (ordinaryNames params).length, []⟩ := by
  unfold Arguments.distribute
  dsimp only
  rw [List.partition_eq_filter_filter]
  simp only [List.filter_nil, List.append_nil, List.isEmpty_nil, List.any_nil, Bool.not_true,
    Bool.false_and, Bool.false_eq_true, if_false]
  rfl

theorem distribute_missing_iff {slots : List Slot} :
    (⟨slots, []⟩ : Arguments).distribute params = .error .missingArgument ↔
      Holds params slots.length ∧ LeavesOut params slots.length := by
  rw [distribute_positional, holds_iff, leavesOut_iff]
  split
  · simp_all
  · split <;> simp_all

theorem given_of_distribute {slots : List Slot} {call : Call}
    (h : (⟨slots, []⟩ : Arguments).distribute params = .ok call) :
    call.given = (ordinaryNames params).zip slots := by
  rw [distribute_positional] at h
  split at h
  · cases h
  · split at h
    · cases h
    · cases h
      rfl

theorem distribute_isOk_iff {slots : List Slot} :
    (∃ call, (⟨slots, []⟩ : Arguments).distribute params = .ok call) ↔
      Holds params slots.length ∧ ¬ LeavesOut params slots.length := by
  rw [distribute_positional, holds_iff, leavesOut_iff]
  split
  · simp_all
  · split <;> simp_all

end Calls

namespace Classes

/-! ## Initializers of a lineage -/

/-- The initializer that a class has itself, if any. -/
def ownSource? (classes : Classes) : ClassRef → Option InitSource
  | .builtin b => if b.initializes then some (.builtin b) else none
  | .declared name =>
    match classes.declOf? (.declared name) with
    | none => none
    | some decl =>
      match decl.init, decl.kind with
      | some init, _ => some (.declared name init)
      | none, .record options => if options.generatesInit then some (.generated name) else none
      | none, .bag .. => some (.bag name)
      | none, _ => none

/-- The parameters of the initializer that is generated for a record class. -/
def recordParameters (classes : Classes) (owner : String) : List Parameter :=
  ((classes.recordArguments (.declared owner)).filter (·.inInit)).map Field.parameter

/-- Whether a predefined initializer is given no argument that it can do with: identifiers take
absent values for arguments that are not given. -/
def LacksAll (b : Builtin) (absent : List Bool) : Prop :=
  match b with
  | .uuid => absent.length ≤ 6 ∧ (absent.take 5).all id = true
  | b => absent = [] ∧ b.needsArguments = true

/-- Whether an initializer is not given an argument that it requires, by a call with arguments given
by position, some of them absent values. -/
def InitSource.Lacks (classes : Classes) (absent : List Bool) : InitSource → Prop
  | .declared _ init =>
    Holds init.parameters absent.length ∧ LeavesOut init.parameters absent.length
  | .generated owner =>
    Holds (classes.recordParameters owner) absent.length ∧
      LeavesOut (classes.recordParameters owner) absent.length
  | .bag _ => False
  | .builtin b => LacksAll b absent

/-- Whether an initializer, called with a number of arguments given by position, calls the next one
in line, and with how many. -/
structure Forwards (init : Initializer) (n : Nat) (names : List String) : Prop where
  forwards : init.forwards = some names
  holds : Holds init.parameters n
  complete : ¬ LeavesOut init.parameters n
  bound : ∀ name ∈ names, name ∈ init.parameters.map (·.name)
  visible : init.parameters.any (·.name == "super") = false

/-- Which parameters hold absent values, in a call with arguments given by position. -/
def absences (isAbsentDefault : String → Bool) (params : List Parameter) (absent : List Bool) :
    List (String × Bool) :=
  params.map fun p =>
    (p.name, p.isSingle &&
      (((ordinaryNames params).zip absent).lookup p.name).getD (isAbsentDefault p.name))

/-- Which of the values of names are absent. -/
def absentAmong (bound : List (String × Bool)) (names : List String) : List Bool :=
  names.map fun name => (bound.lookup name).getD false

/-- Whether the initializers of a lineage, called with arguments given by position, come to one that
is not given an argument that it requires.  Defaults may be absent values. -/
inductive LacksArgument (classes : Classes) (isAbsentDefault : String → String → Bool) :
    List ClassRef → List Bool → Prop
  | inherited {c : ClassRef} {rest : List ClassRef} {absent : List Bool}
      (hown : classes.ownSource? c = none) (h : LacksArgument classes isAbsentDefault rest absent) :
      LacksArgument classes isAbsentDefault (c :: rest) absent
  | own {c : ClassRef} {rest : List ClassRef} {absent : List Bool} {source : InitSource}
      (hown : classes.ownSource? c = some source) (h : source.Lacks classes absent) :
      LacksArgument classes isAbsentDefault (c :: rest) absent
  | forwarded {c : ClassRef} {rest : List ClassRef} {absent : List Bool} {owner : String}
      {init : Initializer} {names : List String}
      (hown : classes.ownSource? c = some (.declared owner init))
      (hforwards : Forwards init absent.length names)
      (h : LacksArgument classes isAbsentDefault rest
        (absentAmong (absences (isAbsentDefault owner) init.parameters absent) names)) :
      LacksArgument classes isAbsentDefault (c :: rest) absent

/-- Whether the nearest initializer of a lineage can be called without arguments, but forwards too
little to the initializers after it. -/
inductive ForwardsTooLittle (classes : Classes) (isAbsentDefault : String → String → Bool) :
    List ClassRef → Prop
  | inherited {c : ClassRef} {rest : List ClassRef} (hown : classes.ownSource? c = none)
      (h : ForwardsTooLittle classes isAbsentDefault rest) :
      ForwardsTooLittle classes isAbsentDefault (c :: rest)
  | nearest {c : ClassRef} {rest : List ClassRef} {owner : String} {init : Initializer}
      {names : List String} (hown : classes.ownSource? c = some (.declared owner init))
      (hforwards : Forwards init 0 names)
      (h : classes.LacksArgument isAbsentDefault rest
        (absentAmong (absences (isAbsentDefault owner) init.parameters []) names)) :
      ForwardsTooLittle classes isAbsentDefault (c :: rest)

variable {classes : Classes} {isAbsentDefault : String → String → Bool} {c : ClassRef}
  {rest : List ClassRef} {absent : List Bool}

theorem lacksArgument_of_none (hown : classes.ownSource? c = none) :
    classes.LacksArgument isAbsentDefault (c :: rest) absent ↔
      classes.LacksArgument isAbsentDefault rest absent := by
  constructor
  · intro h
    cases h with
    | inherited _ h => exact h
    | own hother _ => cases hown.symm.trans hother
    | forwarded hother _ _ => cases hown.symm.trans hother
  · exact .inherited hown

theorem lacksArgument_of_some {source : InitSource} (hown : classes.ownSource? c = some source) :
    classes.LacksArgument isAbsentDefault (c :: rest) absent ↔
      source.Lacks classes absent ∨ ∃ owner init names, source = .declared owner init ∧
        Forwards init absent.length names ∧ classes.LacksArgument isAbsentDefault rest
          (absentAmong (absences (isAbsentDefault owner) init.parameters absent) names) := by
  constructor
  · intro h
    cases h with
    | inherited hother _ => cases hown.symm.trans hother
    | own hother h =>
        cases hown.symm.trans hother
        exact .inl h
    | forwarded hother hforwards h =>
        cases hown.symm.trans hother
        exact .inr ⟨_, _, _, rfl, hforwards, h⟩
  · rintro (h | ⟨owner, init, names, rfl, hforwards, h⟩)
    · exact .own hown h
    · exact .forwarded hown hforwards h

theorem initSourceIn_cons : classes.initSourceIn (c :: rest) =
    (classes.ownSource? c).getD (classes.initSourceIn rest) := by
  cases c with
  | builtin b =>
      rw [initSourceIn, ownSource?]
      split <;> rfl
  | declared name =>
      rw [initSourceIn, ownSource?, declOf?]
      cases classes.find? name with
      | none => rfl
      | some found =>
          obtain ⟨⟨_, kind, _, _, _, init⟩, _⟩ := found
          cases init with
          | some init => rfl
          | none =>
              cases kind with
              | record options =>
                  dsimp only [Option.map_some]
                  split <;> rfl
              | _ => rfl

/-- Called without arguments, a lineage lacks one in its nearest initializer or after it. -/
theorem lacksArgument_nil_iff {lineage : List ClassRef} :
    classes.LacksArgument isAbsentDefault lineage [] ↔
      (classes.initSourceIn lineage).Lacks classes [] ∨
        classes.ForwardsTooLittle isAbsentDefault lineage := by
  induction lineage with
  | nil =>
      refine iff_of_false nofun ?_
      rintro (⟨-, h⟩ | h)
      · cases h
      · cases h
  | cons c rest ih =>
      rw [initSourceIn_cons]
      cases hown : classes.ownSource? c with
      | none =>
          rw [lacksArgument_of_none hown, ih, Option.getD_none]
          refine or_congr_right ⟨.inherited hown, fun h => ?_⟩
          cases h with
          | inherited _ h => exact h
          | nearest hother _ _ => cases hown.symm.trans hother
      | some source =>
          rw [lacksArgument_of_some hown, Option.getD_some]
          refine or_congr_right ⟨?_, fun h => ?_⟩
          · rintro ⟨owner, init, names, rfl, hforwards, h⟩
            exact .nearest hown hforwards h
          · cases h with
            | inherited hother _ => cases hown.symm.trans hother
            | nearest hother hforwards h =>
                cases hown.symm.trans hother
                exact ⟨_, _, _, rfl, hforwards, h⟩

/-! ## Classes that require no argument -/

/-- If no parameter of the nearest initializer is required, only a predefined initializer can lack
an argument when it is called without any. -/
theorem lacks_nil_iff (hmodel : classes.isModel c = false)
    (hrequired : classes.requiredArguments c = []) :
    (classes.initSource c).Lacks classes [] ↔
      classes.initSource c = .builtin .uuid ∨ classes.initSource c = .builtin .type := by
  unfold requiredArguments at hrequired
  rw [sortNames_eq_nil, hmodel, if_neg Bool.false_ne_true] at hrequired
  cases hsource : classes.initSource c with
  | declared owner init =>
      rw [hsource] at hrequired
      refine iff_of_false ?_ (by simp)
      rintro ⟨-, q, hq, hneeded, -⟩
      have hnone := List.filterMap_eq_nil_iff.mp hrequired q hq
      rw [if_pos hneeded] at hnone
      cases hnone
  | generated owner =>
      rw [hsource] at hrequired
      refine iff_of_false ?_ (by simp)
      rintro ⟨-, q, hq, hneeded, -⟩
      obtain ⟨f, hf, rfl⟩ := List.mem_map.mp hq
      obtain ⟨hf, hin⟩ := List.mem_filter.mp hf
      have hnone := List.filterMap_eq_nil_iff.mp hrequired f hf
      rw [World.isRequired_parameter] at hneeded
      rw [if_pos (by rw [hin, hneeded]; rfl)] at hnone
      cases hnone
  | bag owner => exact iff_of_false id (by simp)
  | builtin b =>
      rw [hsource] at hrequired
      dsimp only at hrequired
      cases b <;> simp_all [InitSource.Lacks, LacksAll, Builtin.needsArguments,
        Builtin.requiredArguments]

end Classes

namespace World

open Classes

variable {w : World} {p : Place}

/-! ## What storing is refused for -/

/-- Whether a computation is not refused for an argument that a call does not give. -/
def Complete {α : Type} (x : Except Fault α) : Prop := x ≠ .error .missingArgument

@[simp] theorem complete_ok {α : Type} (a : α) : Complete (.ok a) := nofun

@[simp] theorem complete_error {α : Type} {fault : Fault} :
    Complete (.error fault : Except Fault α) ↔ fault ≠ .missingArgument := by
  simp [Complete]

theorem Complete.bind {α β : Type} {x : Except Fault α} {f : α → Except Fault β} (h : Complete x)
    (hf : ∀ a, x = .ok a → Complete (f a)) : Complete (x >>= f) := by
  intro hmissing
  rcases bind_eq_error.mp hmissing with hx | ⟨a, ha, hmissing⟩
  · exact h hx
  · exact hf a ha hmissing

theorem Complete.map {α β : Type} {x : Except Fault α} {f : α → β} (h : Complete x) :
    Complete (x.map f) := fun hmissing => h (map_eq_error.mp hmissing)

theorem Complete.foldlM {α σ : Type} {step : σ → α → Except Fault σ}
    (h : ∀ s a, Complete (step s a)) (l : List α) (s : σ) : Complete (l.foldlM step s) := by
  intro hmissing
  obtain ⟨s', a, -, hfails⟩ := exists_of_foldlM_eq_error hmissing
  exact h s' a hfails

theorem complete_plainTarget (w : World) (c : ClassRef) (name : String) :
    Complete (w.plainTarget c name) := by
  unfold plainTarget
  repeat' split
  all_goals simp

theorem complete_modelTarget (w : World) (c : ClassRef) (name : String) :
    Complete (w.modelTarget c name) := by
  unfold modelTarget
  dsimp only
  split
  · simp
  · split
    · simp
    · repeat' split
      all_goals simp

theorem complete_validated (w : World) (c : ClassRef) (name : String) (v : Slot) :
    Complete (w.validated c name v) := by
  unfold validated
  dsimp only
  repeat' split
  all_goals simp

theorem complete_targetOf (w : World) (direct : Bool) (c : ClassRef) (name : String) :
    Complete (w.targetOf direct c name) := by
  unfold targetOf
  split
  · exact complete_modelTarget w c name
  · exact complete_plainTarget w c name

theorem complete_setWithin (w : World) (p : Place) (direct : Bool) (v : Slot) (fuel : Nat)
    (name : String) : Complete (w.setWithin p direct v fuel name) := by
  induction fuel generalizing direct name with
  | zero => simp [setWithin]
  | succ fuel ih =>
      rw [setWithin_succ]
      split
      · split
        · simp
        · refine (complete_targetOf w _ _ _).bind fun target _ => ?_
          cases target with
          | property setter =>
              unfold storeAt
              split
              · simp
              · split
                · exact ih false _
                · simp
              · contradiction
          | place =>
              rw [storeAt_place]
              refine .map ?_
              split
              · simp
              · exact complete_validated w _ name v
      · simp

theorem complete_setAttribute (w : World) (slot : Slot) (name : String) (v : Slot) :
    Complete (w.setAttribute slot name v) := by
  unfold setAttribute
  split
  · exact complete_setWithin w _ _ _ _ _
  · split <;> nofun
  · nofun

theorem complete_setDirectly (w : World) (slot : Slot) (name : String) (v : Slot) :
    Complete (w.setDirectly slot name v) := by
  unfold setDirectly
  split
  · exact complete_setWithin w _ _ _ _ _
  · nofun

theorem complete_storeAll {store : World → String → Slot → Except Fault World}
    (h : ∀ w name v, Complete (store w name v)) (bound : List (String × Slot)) (w : World)
    (pairs : List (String × String)) : Complete (storeAll store bound w pairs) := by
  refine .foldlM ?_ pairs w
  rintro w ⟨target, name⟩
  dsimp only
  split
  · exact h _ _ _
  · nofun

theorem complete_storeParameters (p : Place) (init : Initializer) (bound : List (String × Slot))
    (w : World) : Complete (storeParameters p init bound w) := by
  refine .bind (complete_storeAll (fun w => w.complete_setAttribute _) bound w _) fun _ _ => ?_
  split
  · nofun
  · exact complete_storeAll (fun w => w.complete_setDirectly _) bound _ _

theorem complete_initializeField (p : Place) (owner : String) (options : RecordOptions)
    (call : Call) (w : World) (f : Field) : Complete (initializeField p owner options call w f) := by
  unfold initializeField
  split
  · nofun
  · split
    · exact complete_setDirectly _ _ _ _
    · exact complete_setAttribute _ _ _ _

/-! ## What initializers are refused for -/

/-- Whether the default of a parameter is an absent value. -/
def isAbsentDefault (w : World) (owner name : String) : Bool :=
  (w.constant (.parameter owner name)).isNone

theorem isNone_parameterValue (w : World) (owner : String) (call : Call) (p : Parameter) :
    (w.parameterValue owner call p).2.isNone =
      (p.isSingle && ((call.given.lookup p.name).map Slot.isNone).getD
        (w.isAbsentDefault owner p.name)) := by
  unfold parameterValue Parameter.isSingle isAbsentDefault
  cases p.kind with
  | restByPosition | restByName => rfl
  | ordinary | keywordOnly => cases call.given.lookup p.name <;> rfl

theorem isAbsentDefault_congr {w' : World} (h : w'.constants = w.constants) :
    w'.isAbsentDefault = w.isAbsentDefault := by
  unfold isAbsentDefault constant
  rw [h]

theorem parameterValues_absences (w : World) (owner : String) (params : List Parameter)
    (slots : List Slot) {call : Call} (hgiven : call.given = (ordinaryNames params).zip slots) :
    (w.parameterValues owner params call).2.map (fun entry => (entry.1, entry.2.isNone)) =
      absences (w.isAbsentDefault owner) params (slots.map Slot.isNone) := by
  have hlookup : ∀ name, ((ordinaryNames params).zip (slots.map Slot.isNone)).lookup name =
      (call.given.lookup name).map Slot.isNone := by
    intro name
    rw [hgiven, List.zip_map_right, ← lookup_map]
    rfl
  -- Values that are new do not change what defaults are.
  have hfold : ∀ (w₁ : World) (bound : List (String × Slot)), w₁.constants = w.constants →
      (params.foldl (fun (state : World × List (String × Slot)) p =>
          ((state.1.parameterValue owner call p).1,
            state.2 ++ [(p.name, (state.1.parameterValue owner call p).2)])) (w₁, bound)).2.map
          (fun entry => (entry.1, entry.2.isNone)) =
        bound.map (fun entry => (entry.1, entry.2.isNone)) ++ params.map fun p =>
          (p.name, p.isSingle &&
            ((call.given.lookup p.name).map Slot.isNone).getD (w.isAbsentDefault owner p.name)) := by
    clear hlookup hgiven
    induction params with
    | nil => simp
    | cons p rest ih =>
        intro w₁ bound hconstants
        have hextends := parameterValue_extends w₁ owner call p
        rw [List.foldl_cons, ih _ _ (hextends.constants.trans hconstants), List.map_append,
          List.map_cons, isNone_parameterValue, isAbsentDefault_congr hconstants]
        simp
  unfold absences
  simp only [hlookup]
  exact hfold w [] rfl

theorem parameterValues_names (w : World) (owner : String) (params : List Parameter) (call : Call) :
    (w.parameterValues owner params call).2.map (·.1) = params.map (·.name) := by
  unfold parameterValues
  rw [foldl_concat (f := fun state : World × List (String × Slot) => state.2.map (·.1))
    (g := (·.name))]
  · rfl
  · rintro ⟨w, bound⟩ q
    simp

theorem complete_valuesOf (bound : List (String × Slot)) (names : List String) :
    Complete (valuesOf bound names) := by
  intro hmissing
  obtain ⟨name, -, hfails⟩ := exists_of_mapM_eq_error hmissing
  split at hfails <;> cases hfails

theorem valuesOf_isOk_iff {bound : List (String × Slot)} {names : List String} :
    (∃ values, valuesOf bound names = .ok values) ↔ ∀ name ∈ names, name ∈ bound.map (·.1) := by
  constructor
  · rintro ⟨values, hvalues⟩ name hname
    obtain ⟨v, hv⟩ := isOk_of_mem_mapM hvalues hname
    split at hv
    · rename_i hfound
      exact List.mem_map_of_mem (mem_of_lookup hfound)
    · cases hv
  · intro hnames
    refine mapM_isOk fun name hname => ?_
    cases hfound : bound.lookup name with
    | none => exact absurd (hnames name hname) (lookup_eq_none.mp hfound)
    | some v => exact ⟨v, rfl⟩

theorem absent_valuesOf {bound : List (String × Slot)} {names : List String} {values : List Slot}
    (h : valuesOf bound names = .ok values) :
    values.map Slot.isNone =
      absentAmong (bound.map fun entry => (entry.1, entry.2.isNone)) names := by
  have hvalues := mapM_eq_ok_iff.mp h
  clear h
  induction hvalues with
  | nil => rfl
  | @cons name v names values hfound _ ih =>
      split at hfound
      · rename_i slot hslot
        cases hfound
        rw [List.map_cons, ih, absentAmong, absentAmong, List.map_cons, lookup_map, hslot]
        rfl
      · cases hfound

/-- A declared initializer lacks an argument itself, or the next one does that it forwards to. -/
theorem runDeclared_missing_iff {further : World → Arguments → Except Fault World}
    {Q : List Bool → Prop} (hfurther : ∀ w₁ slots, w₁.classes = w.classes →
      w₁.constants = w.constants →
      (further w₁ ⟨slots, []⟩ = .error .missingArgument ↔ Q (slots.map Slot.isNone)))
    (owner : String) (init : Initializer) (slots : List Slot) :
    runDeclared p further owner init w ⟨slots, []⟩ = .error .missingArgument ↔
      (Holds init.parameters slots.length ∧ LeavesOut init.parameters slots.length) ∨
        ∃ names, Forwards init slots.length names ∧
          Q (absentAmong (absences (w.isAbsentDefault owner) init.parameters
            (slots.map Slot.isNone)) names) := by
  unfold runDeclared
  cases hcall : (⟨slots, []⟩ : Arguments).distribute init.parameters with
  | error fault =>
      rw [← distribute_missing_iff, hcall, Except.error.injEq, Except.error.injEq]
      refine (or_iff_left ?_).symm
      rintro ⟨names, hforwards, -⟩
      obtain ⟨call, hok⟩ := distribute_isOk_iff.mpr ⟨hforwards.holds, hforwards.complete⟩
      rw [hcall] at hok
      cases hok
  | ok call =>
      obtain ⟨hholds, hcomplete⟩ := distribute_isOk_iff.mp ⟨call, hcall⟩
      rw [or_iff_right fun h => hcomplete h.2]
      have hextends := parameterValues_extends w owner init.parameters call
      have hnames := parameterValues_names w owner init.parameters call
      have habsent := parameterValues_absences w owner init.parameters slots
        (given_of_distribute hcall)
      dsimp only
      cases hforwards : init.forwards with
      | none =>
          refine iff_of_false (complete_storeParameters p init _ _) ?_
          rintro ⟨names, h, -⟩
          cases hforwards.symm.trans h.forwards
      | some names =>
          dsimp only
          cases hsuper : init.parameters.any (·.name == "super") with
          | true =>
              refine iff_of_false nofun ?_
              rintro ⟨names, h, -⟩
              cases hsuper.symm.trans h.visible
          | false =>
              rw [if_neg Bool.false_ne_true, ← habsent]
              constructor
              · intro hmissing
                rcases bind_eq_error.mp hmissing with hvalues | ⟨values, hvalues, hmissing⟩
                · exact absurd hvalues (complete_valuesOf _ names)
                rcases bind_eq_error.mp hmissing with hnext | ⟨w₂, -, hstore⟩
                · refine ⟨names, ⟨hforwards, hholds, hcomplete, ?_, hsuper⟩, ?_⟩
                  · rw [← hnames]
                    exact valuesOf_isOk_iff.mp ⟨values, hvalues⟩
                  · rw [← absent_valuesOf hvalues]
                    exact (hfurther _ values hextends.classes hextends.constants).mp hnext
                · exact absurd hstore (complete_storeParameters p init _ w₂)
              · rintro ⟨names', h, hnext⟩
                obtain rfl : names = names' := Option.some.inj (hforwards.symm.trans h.forwards)
                have hbound := h.bound
                rw [← hnames] at hbound
                obtain ⟨values, hvalues⟩ := valuesOf_isOk_iff.mpr hbound
                rw [← absent_valuesOf hvalues] at hnext
                refine bind_eq_error.mpr (.inr ⟨values, hvalues, bind_eq_error.mpr (.inl ?_)⟩)
                exact (hfurther _ values hextends.classes hextends.constants).mpr hnext

theorem initializeRecord_missing_iff {owner : String} {options : RecordOptions}
    {slots : List Slot} :
    w.initializeRecord p owner options ⟨slots, []⟩ = .error .missingArgument ↔
      Holds (w.classes.recordParameters owner) slots.length ∧
        LeavesOut (w.classes.recordParameters owner) slots.length := by
  rw [initializeRecord_eq, ← distribute_missing_iff, recordParameters]
  cases hcall : (⟨slots, []⟩ : Arguments).distribute _ with
  | error fault => rw [Except.error.injEq, Except.error.injEq]
  | ok call =>
      have hfields : Complete ((w.classes.recordArguments (.declared owner)).foldlM
          (initializeField p owner options call) w) :=
        .foldlM (fun w f => complete_initializeField p owner options call w f) _ w
      exact iff_of_false hfields nofun

theorem initializeBuiltin_missing_iff {b : Builtin} {slots : List Slot} :
    w.initializeBuiltin b ⟨slots, []⟩ = .error .missingArgument ↔
      LacksAll b (slots.map Slot.isNone) := by
  have hlacks : lacksArguments b ⟨slots, []⟩ = true ↔ LacksAll b (slots.map Slot.isNone) := by
    unfold lacksArguments LacksAll Arguments.isEmpty
    cases b <;> simp [List.all_map, ← List.map_take]
  rw [← hlacks]
  unfold initializeBuiltin
  cases lacksArguments b ⟨slots, []⟩ <;> cases (⟨slots, []⟩ : Arguments).isEmpty <;> simp

/-- How the first class of a lineage takes part in the initialization of an object. -/
theorem runInitializer_cons (w : World) (p : Place) (c : ClassRef) (rest : List ClassRef)
    (args : Arguments) :
    match w.classes.ownSource? c with
    | none => w.runInitializer p (c :: rest) args = w.runInitializer p rest args
    | some (.declared owner init) => w.runInitializer p (c :: rest) args =
        runDeclared p (fun w => w.runInitializer p rest) owner init w args
    | some (.generated owner) => ∃ options,
        w.runInitializer p (c :: rest) args = w.initializeRecord p owner options args
    | some (.bag _) => w.runInitializer p (c :: rest) args =
        if args.isEmpty then
          (w.alloc (.seq .list [])).1.setAttribute (.ref p) "items" (w.alloc (.seq .list [])).2
        else .error .typeMismatch
    | some (.builtin b) => w.runInitializer p (c :: rest) args = w.initializeBuiltin b args := by
  cases c with
  | builtin b =>
      rw [runInitializer_builtin, ownSource?]
      cases b.initializes <;> rfl
  | declared name =>
      rw [runInitializer_declared, ownSource?]
      cases w.classes.declOf? (.declared name) with
      | none => rfl
      | some decl =>
          obtain ⟨_, kind, _, _, _, init⟩ := decl
          cases init with
          | some init => rfl
          | none =>
              cases kind with
              | record options =>
                  cases hgenerates : options.generatesInit with
                  | true =>
                      simp only [hgenerates, if_true]
                      exact ⟨options, rfl⟩
                  | false => simp [hgenerates]
              | _ => rfl

/-- Creation by initializers lacks an argument in the cases that are told by the signatures of the
lineage, and in no others: what initializers store is never refused for this. -/
theorem runInitializer_missing_iff {lineage : List ClassRef} {slots : List Slot} :
    w.runInitializer p lineage ⟨slots, []⟩ = .error .missingArgument ↔
      w.classes.LacksArgument w.isAbsentDefault lineage (slots.map Slot.isNone) := by
  induction lineage generalizing w slots with
  | nil =>
      refine iff_of_false ?_ nofun
      intro hmissing
      cases (initializeBuiltin_missing_iff.mp hmissing).2
  | cons c rest ih =>
      have hcases := runInitializer_cons w p c rest ⟨slots, []⟩
      revert hcases
      cases hown : w.classes.ownSource? c with
      | none =>
          intro hrun
          rw [hrun, ih, lacksArgument_of_none hown]
      | some source =>
          rw [lacksArgument_of_some hown]
          simp only [InitSource.Lacks, List.length_map]
          cases source with
          | declared owner init =>
              intro hrun
              rw [hrun, runDeclared_missing_iff (Q := w.classes.LacksArgument w.isAbsentDefault rest)]
              · refine or_congr_right ⟨?_, ?_⟩
                · rintro ⟨names, hforwards, h⟩
                  exact ⟨owner, init, names, rfl, hforwards, h⟩
                · rintro ⟨_, _, names, hsource, hforwards, h⟩
                  cases hsource
                  exact ⟨names, hforwards, h⟩
              · intro w₁ slots' hclasses hconstants
                rw [← hclasses, ← isAbsentDefault_congr hconstants]
                exact ih
          | generated owner =>
              rintro ⟨options, hrun⟩
              rw [hrun, initializeRecord_missing_iff]
              exact (or_iff_left (by rintro ⟨_, _, _, hsource, -⟩; cases hsource)).symm
          | bag owner =>
              intro hrun
              rw [hrun]
              refine iff_of_false ?_ ?_
              · split
                · exact complete_setAttribute _ _ _ _
                · nofun
              · rintro (h | ⟨_, _, _, hsource, -⟩)
                · exact h
                · cases hsource
          | builtin b =>
              intro hrun
              rw [hrun, initializeBuiltin_missing_iff]
              exact (or_iff_left (by rintro ⟨_, _, _, hsource, -⟩; cases hsource)).symm

end World

end Memberwise
