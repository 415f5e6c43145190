import Mathlib.Data.List.TakeWhile
import Memberwise.Proofs.Mapper.Pool
import Memberwise.Proofs.Session.Frame

/-! # Histories of sessions

What happened in a session, told command by command.  A mapper is reset when it is added and when
a rule is registered through it, and a function is made for a key when the mapper is asked for it
and its registry gives one.
-/

namespace Memberwise.Session

/-- A command with the session that it found. -/
structure Event where
  session : Session
  command : Command

/-- The commands of a run as events. -/
def history (s : Session) : List Command → List Event
  | [] => []
  | c :: rest => ⟨s, c⟩ :: (s.step c).1.history rest

theorem run_concat (s : Session) (cs : List Command) (c : Command) :
    (s.run (cs ++ [c])).1 = ((s.run cs).1.step c).1 := by
  induction cs generalizing s with
  | nil => rfl
  | cons d rest ih => exact ih (s.step d).1

theorem history_concat (s : Session) (cs : List Command) (c : Command) :
    s.history (cs ++ [c]) = s.history cs ++ [⟨(s.run cs).1, c⟩] := by
  induction cs generalizing s with
  | nil => rfl
  | cons d rest ih => exact congrArg (_ :: ·) (ih (s.step d).1)

namespace Event

/-- Whether a command was carried out. -/
def succeeds (e : Event) : Bool := (e.session.carryOut e.command).isOk

/-- Whether a command makes a mapper forget its functions: it adds the mapper, or registers a rule
through it. -/
def resets (name : String) (e : Event) : Bool :=
  e.succeeds &&
    match e.command with
    | .addMapper added _ => added == name
    | .register mapper _ _ _ pastMapper => mapper == name && !pastMapper
    | _ => false

/-- Whether a command registers a rule in a registry, whichever way. -/
def registersIn (registry : Nat) (e : Event) : Bool :=
  e.succeeds &&
    match e.command with
    | .register mapper .. => (e.session.pool.mapper? mapper).any (·.registry == registry)
    | _ => false

/-- Whether a command registers a rule through a mapper. -/
def registersThrough (name : String) (e : Event) : Bool :=
  match e.command with
  | .register mapper _ _ _ pastMapper => mapper == name && !pastMapper
  | _ => false

/-- The objects that a command has a mapper map, with the world that they are in. -/
def asked? (name : String) (e : Event) : Option (World × Slot × Slot) :=
  match e.command with
  | .map mapper source target _ =>
    if mapper == name then
      let evaluated : Except Fault (World × Slot × Slot) := do
        let (s, source) ← e.session.evaluate source
        let (s, target) ← s.evaluate target
        .ok (s.world, source, target)
      evaluated.toOption
    else none
  | _ => none

/-- The registry from which a command has a function for a key, if the registry gives one. -/
def builtFrom? (name : String) (key : CacheKey) (e : Event) : Option (Registry Converter) :=
  match e.asked? name, e.session.pool.mapper? name with
  | some (w, source, target), some m =>
    if w.mapKey? source target = some key ∧
        ((e.session.pool.registryOf m).functionFor w.classes key).isOk then
      some (e.session.pool.registryOf m)
    else none
  | _, _ => none

/-- Whether a command binds a function that the registry of a mapper gives at that time. -/
def makes (x : String) (f : MapFunction) (e : Event) : Prop :=
  match e.command with
  | .createFunction mapper source target creates name =>
    name = x ∧ ∃ m, e.session.pool.mapper? mapper = some m ∧
      (e.session.pool.registryOf m).compile e.session.world.classes source target creates = .ok f
  | _ => False

end Event

/-- What happened since a mapper was last reset. -/
def sinceReset (name : String) (past : List Event) : List Event :=
  (past.reverse.takeWhile fun e => !e.resets name).reverse

/-- The registry from which the first function was made for a key since a mapper was last
reset. -/
def firstBuild? (name : String) (key : CacheKey) (past : List Event) :
    Option (Registry Converter) :=
  (sinceReset name past).findSome? (Event.builtFrom? name key)

/-- What happened since the first function was made for a key, the making included. -/
def sinceBuild (name : String) (key : CacheKey) (past : List Event) : List Event :=
  (sinceReset name past).dropWhile fun e => (e.builtFrom? name key).isNone

/-! ## One more event -/

section Concat

variable {name : String} {key : CacheKey} {past : List Event} {e : Event}

theorem sinceReset_of_reset (h : e.resets name = true) : sinceReset name (past ++ [e]) = [] := by
  simp [sinceReset, h]

theorem sinceReset_concat (h : e.resets name = false) :
    sinceReset name (past ++ [e]) = sinceReset name past ++ [e] := by
  simp [sinceReset, h]

theorem firstBuild?_of_reset (h : e.resets name = true) :
    firstBuild? name key (past ++ [e]) = none := by
  simp [firstBuild?, sinceReset_of_reset h]

theorem firstBuild?_concat (h : e.resets name = false) :
    firstBuild? name key (past ++ [e]) =
      (firstBuild? name key past).or (e.builtFrom? name key) := by
  rw [firstBuild?, sinceReset_concat h, List.findSome?_append]
  simp [firstBuild?]

theorem mem_sinceBuild_concat (h : e.resets name = false) {other : Event}
    (hmem : other ∈ sinceBuild name key past) : other ∈ sinceBuild name key (past ++ [e]) := by
  rw [sinceBuild, sinceReset_concat h, List.dropWhile_append]
  split
  · rename_i hempty
    rw [sinceBuild, List.isEmpty_iff.mp hempty] at hmem
    cases hmem
  · exact List.mem_append_left _ hmem

theorem mem_sinceBuild_self (h : e.resets name = false)
    (hbuilt : (firstBuild? name key past).isSome = true) :
    e ∈ sinceBuild name key (past ++ [e]) := by
  rw [sinceBuild, sinceReset_concat h, List.dropWhile_append]
  split
  · rename_i hempty
    have hnone := List.dropWhile_eq_nil_iff.mp (List.isEmpty_iff.mp hempty)
    obtain ⟨other, hother, hsome⟩ := List.findSome?_isSome_iff.mp hbuilt
    have hother := hnone other hother
    rw [Option.isNone_iff_eq_none] at hother
    rw [hother] at hsome
    cases hsome
  · exact List.mem_append_right _ (List.mem_singleton_self e)

theorem mem_sinceReset_of_sinceBuild {other : Event}
    (h : other ∈ sinceBuild name key past) : other ∈ sinceReset name past :=
  (List.dropWhile_sublist _).subset h

theorem resets_of_mem_sinceReset {other : Event} (h : other ∈ sinceReset name past) :
    other.resets name = false := by
  have hall := List.all_takeWhile (p := fun e : Event => !e.resets name) (l := past.reverse)
  have hmem := List.all_eq_true.mp hall other (List.mem_reverse.mp h)
  simpa using hmem

end Concat

/-! ## Commands that a mapper takes part in -/

variable {s s' : Session} {name : String} {report : Report}

theorem mapper_eq_ok {m : Mapper} : s.mapper name = .ok m ↔ s.pool.mapper? name = some m := by
  unfold mapper
  cases s.pool.mapper? name <;> simp

theorem carryOut_addMapper {share : Option String}
    (h : s.carryOut (.addMapper name share) = .ok (s', report)) :
    ∃ shared, s' = { s with pool := s.pool.addMapper name shared } := by
  obtain ⟨shared, _, h⟩ := bind_eq_ok.mp h
  cases h
  exact ⟨shared, rfl⟩

/-- A rule is registered in the registry of the mapper; through the mapper, its functions are
forgotten as well. -/
theorem carryOut_register {source target : TypeExpr} {f : Converter} {pastMapper : Bool}
    (h : s.carryOut (.register name source target f pastMapper) = .ok (s', report)) :
    ∃ m p, s.pool.mapper? name = some m ∧
      s.pool.registerInRegistry s.world.classes m source target f = .ok p ∧
      s' = { s with
        pool := if pastMapper then p else p.putMapper name { m with functions := [] } } := by
  obtain ⟨m, hm, h⟩ := bind_eq_ok.mp h
  dsimp only at h
  cases pastMapper with
  | true =>
      rw [if_pos rfl] at h
      obtain ⟨p, hp, h⟩ := bind_eq_ok.mp h
      cases h
      exact ⟨m, p, mapper_eq_ok.mp hm, hp, rfl⟩
  | false =>
      rw [if_neg (by simp)] at h
      obtain ⟨p', hp, h⟩ := bind_eq_ok.mp h
      obtain ⟨p, hregistered, hput⟩ := bind_eq_ok.mp hp
      cases hput
      cases h
      exact ⟨m, p, mapper_eq_ok.mp hm, hregistered, rfl⟩

theorem asked?_map {source target : Expr} {result : Option String} {w : World} {a b : Slot} :
    Event.asked? name ⟨s, .map name source target result⟩ = some (w, a, b) ↔
      ∃ s₁ s₂, s.evaluate source = .ok (s₁, a) ∧ s₁.evaluate target = .ok (s₂, b) ∧
        s₂.world = w := by
  simp only [Event.asked?, beq_self_eq_true, if_true, toOption_eq_some]
  constructor
  · intro h
    obtain ⟨⟨s₁, a'⟩, ha, h⟩ := bind_eq_ok.mp h
    obtain ⟨⟨s₂, b'⟩, hb, h⟩ := bind_eq_ok.mp h
    cases h
    exact ⟨s₁, s₂, ha, hb, rfl⟩
  · rintro ⟨s₁, s₂, ha, hb, rfl⟩
    exact bind_eq_ok.mpr ⟨_, ha, bind_eq_ok.mpr ⟨_, hb, rfl⟩⟩

/-- What a mapper is asked for is carried out by the mapper, in a world of the same classes. -/
theorem carryOut_map {source target : Expr} {result : Option String}
    (h : s.carryOut (.map name source target result) = .ok (s', report)) :
    ∃ w a b m, Event.asked? name ⟨s, .map name source target result⟩ = some (w, a, b) ∧
      w.classes = s.world.classes ∧ s.pool.mapper? name = some m ∧
      s'.pool = (s.pool.map w name m a b).pool ∧
      s'.world = (s.pool.map w name m a b).world ∧
      (∀ {x f}, s'.function x = .ok f → s.function x = .ok f) ∧
      ∀ {x}, result ≠ some x → s'.function x = s.function x := by
  obtain ⟨⟨s₁, a⟩, ha, h⟩ := bind_eq_ok.mp h
  obtain ⟨⟨s₂, b⟩, hb, h⟩ := bind_eq_ok.mp h
  obtain ⟨m, hm, h⟩ := bind_eq_ok.mp h
  have hkeeps := (evaluate_keeps ha).trans (evaluate_keeps hb)
  refine ⟨s₂.world, a, b, m, asked?_map.mpr ⟨s₁, s₂, ha, hb, rfl⟩, hkeeps.classes, ?_, ?_⟩
  · rw [← hkeeps.pool]
    exact mapper_eq_ok.mp hm
  · rw [← hkeeps.pool]
    dsimp only at h
    split at h
    · cases h
      exact ⟨rfl, rfl, hkeeps.functions, fun _ => hkeeps.others nofun⟩
    · cases h
      have hbound := bindName?_keeps
        { s₂ with
          pool := (s₂.pool.map s₂.world name m a b).pool,
          world := (s₂.pool.map s₂.world name m a b).world } result
      exact ⟨(hbound _).pool, bindName?_world _ _ _,
        fun hf => hkeeps.functions ((hbound _).functions hf),
        fun hx => ((hbound _).others hx).trans (hkeeps.others nofun)⟩

theorem carryOut_createFunction {source target : TypeExpr} {creates : Bool} {x : String}
    (h : s.carryOut (.createFunction name source target creates x) = .ok (s', report)) :
    ∃ m f, s.pool.mapper? name = some m ∧
      (s.pool.registryOf m).compile s.world.classes source target creates = .ok f ∧
      s' = s.bindName x (.function f) := by
  obtain ⟨m, hm, h⟩ := bind_eq_ok.mp h
  dsimp only at h
  cases creates with
  | true =>
      rw [if_pos rfl] at h
      obtain ⟨f, hf, h⟩ := bind_eq_ok.mp h
      cases h
      exact ⟨m, f, mapper_eq_ok.mp hm, hf, rfl⟩
  | false =>
      rw [if_neg (by simp)] at h
      obtain ⟨f, hf, h⟩ := bind_eq_ok.mp h
      cases h
      exact ⟨m, f, mapper_eq_ok.mp hm, hf, rfl⟩

theorem carryOut_createFunction_of_made {m : Mapper} {source target : TypeExpr} {creates : Bool}
    {x : String} {f : MapFunction} (hm : s.pool.mapper? name = some m)
    (hmade : (s.pool.registryOf m).compile s.world.classes source target creates = .ok f) :
    s.carryOut (.createFunction name source target creates x) =
      .ok (s.bindName x (.function f), .ok (.name f.name)) := by
  have hmapper := mapper_eq_ok.mpr hm
  cases creates with
  | true =>
      rw [← MapperPool.createFactory_eq] at hmade
      simp only [carryOut, hmapper, hmade, if_true, bind, Except.bind]
  | false =>
      rw [← MapperPool.createMutator_eq] at hmade
      simp only [carryOut, hmapper, hmade, bind, Except.bind, Bool.false_eq_true, if_false]

/-- A mapper that can be asked answers. -/
theorem carryOut_map_isOk {source target : Expr} {result : Option String} {w : World} {a b : Slot}
    {m : Mapper} (hasked : Event.asked? name ⟨s, .map name source target result⟩ = some (w, a, b))
    (hm : s.pool.mapper? name = some m) :
    ∃ outcome, s.carryOut (.map name source target result) = .ok outcome := by
  obtain ⟨s₁, s₂, ha, hb, -⟩ := asked?_map.mp hasked
  have hkeeps := (evaluate_keeps ha).trans (evaluate_keeps hb)
  have hm₂ : s₂.mapper name = .ok m := by
    rw [mapper_eq_ok, hkeeps.pool]
    exact hm
  simp only [carryOut, runMap, ha, hb, hm₂, bind, Except.bind]
  split <;> exact ⟨_, rfl⟩

end Memberwise.Session
