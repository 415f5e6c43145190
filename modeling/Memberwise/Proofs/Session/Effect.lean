import Memberwise.Proofs.Session.History

/-! # Effects of commands on mappers

A command resets a mapper, or leaves it the functions that it keeps and adds those that it has the
mapper make.  Only a registration changes the rules of a registry.
-/

namespace Memberwise

namespace Session

variable {s s' : Session} {c : Command} {name : String} {key : CacheKey} {report : Report}

theorem step_of_ok (h : s.carryOut c = .ok (s', report)) : s.step c = (s', report) := by
  rw [step, h]

theorem step_of_error {fault : Fault} (h : s.carryOut c = .error fault) :
    s.step c = (s, .error fault) := by
  rw [step, h]

/-! ## What every command keeps -/

/-- Whether a session has the classes of another one and the functions that the other one has or
that the command makes, and whether only one variable may stand for something else. -/
structure KeepsFunctions (c : Command) (s s' : Session) : Prop where
  classes : s'.world.classes = s.world.classes
  functions : ∀ {x f}, s'.function x = .ok f → s.function x = .ok f ∨ Event.makes x f ⟨s, c⟩
  others : ∀ {x}, c.binds? ≠ some x → s'.function x = s.function x

theorem KeepsFunctions.of_same (hclasses : s'.world.classes = s.world.classes)
    (h : s'.bindings = s.bindings) : KeepsFunctions c s s' := by
  have hfunction (x : String) : s'.function x = s.function x := by
    rw [function, h]
    rfl
  exact ⟨hclasses, fun hf => .inl (hfunction _ ▸ hf), fun _ => hfunction _⟩

theorem createFunction_keepsFunctions {source target : TypeExpr} {creates : Bool} {x : String}
    (h : s.carryOut (.createFunction name source target creates x) = .ok (s', report)) :
    KeepsFunctions (.createFunction name source target creates x) s s' := by
  obtain ⟨m, made, hm, hmade, rfl⟩ := carryOut_createFunction h
  refine ⟨rfl, fun {y f} hf => ?_, fun {y} hy => ?_⟩
  · by_cases hx : y = x
    · subst hx
      rw [function_bindName_self] at hf
      cases hf
      exact .inr ⟨rfl, m, hm, hmade⟩
    · rw [function_bindName_of_ne s _ hx] at hf
      exact .inl hf
  · exact function_bindName_of_ne s _ fun hx => hy (hx ▸ rfl)

theorem step_keepsFunctions (s : Session) (c : Command) : KeepsFunctions c s (s.step c).1 := by
  cases h : s.carryOut c with
  | error fault =>
      rw [step_of_error h]
      exact .of_same rfl rfl
  | ok result =>
      obtain ⟨s', report⟩ := result
      rw [step_of_ok h]
      cases hc : c.usesMappers with
      | false =>
          have hkeeps := carryOut_keeps hc h
          exact ⟨hkeeps.classes, fun hf => .inl (hkeeps.functions hf), hkeeps.others⟩
      | true =>
          cases c with
          | addMapper =>
              obtain ⟨shared, rfl⟩ := carryOut_addMapper h
              exact .of_same rfl rfl
          | register =>
              obtain ⟨m, p, _, _, rfl⟩ := carryOut_register h
              exact .of_same rfl rfl
          | map =>
              obtain ⟨w, a, b, m, _, hclasses, _, _, hworld, hfunctions, hothers⟩ :=
                carryOut_map h
              refine ⟨?_, fun hf => .inl (hfunctions hf), hothers⟩
              rw [hworld, MapperPool.map_classes, hclasses]
          | createFunction => exact createFunction_keepsFunctions h
          | _ => cases hc

theorem step_classes (s : Session) (c : Command) :
    (s.step c).1.world.classes = s.world.classes := (step_keepsFunctions s c).classes

/-! ## Functions that a command has a mapper make -/

/-- The function that a registry gives for a key, if there is one. -/
def functionOf? (classes : Classes) (key : CacheKey) (made? : Option (Registry Converter)) :
    Option MapFunction :=
  made?.bind fun registry => (registry.functionFor classes key).toOption

theorem functionOf?_or {classes : Classes} {first next : Option (Registry Converter)}
    (h : ∀ registry ∈ first, ∃ f, registry.functionFor classes key = .ok f) :
    functionOf? classes key (first.or next) =
      (functionOf? classes key first).or (functionOf? classes key next) := by
  cases first with
  | none => rfl
  | some registry =>
      obtain ⟨f, hf⟩ := h registry rfl
      rw [Option.some_or, functionOf?, Option.bind_some, hf]
      rfl

namespace Event

variable {e : Event} {w : World} {a b : Slot} {m : Mapper} {registry : Registry Converter}

theorem asked?_classes (h : e.asked? name = some (w, a, b)) :
    w.classes = e.session.world.classes := by
  obtain ⟨s, c⟩ := e
  cases c with
  | map mapper source target result =>
      by_cases hname : mapper = name
      · subst hname
        obtain ⟨s₁, s₂, ha, hb, rfl⟩ := asked?_map.mp h
        exact ((evaluate_keeps ha).trans (evaluate_keeps hb)).classes
      · simp [asked?, hname] at h
  | _ => cases h

theorem registersIn_of_asked (n : Nat) (h : e.asked? name = some (w, a, b)) :
    e.registersIn n = false := by
  obtain ⟨s, c⟩ := e
  cases c with
  | map => exact Bool.and_false _
  | _ => cases h

theorem builtFrom?_of_asked_none (h : e.asked? name = none) : e.builtFrom? name key = none := by
  rw [builtFrom?, h]

theorem builtFrom?_eq_some (h : e.builtFrom? name key = some registry) :
    ∃ w a b m, e.asked? name = some (w, a, b) ∧ e.session.pool.mapper? name = some m ∧
      registry = e.session.pool.registryOf m ∧
      ∃ f, registry.functionFor e.session.world.classes key = .ok f := by
  unfold builtFrom? at h
  split at h
  · rename_i w a b m hasked hm
    split at h
    · rename_i hbuilt
      cases h
      refine ⟨w, a, b, m, hasked, hm, rfl, ?_⟩
      rw [← asked?_classes hasked]
      cases hmade : (e.session.pool.registryOf m).functionFor w.classes key with
      | error fault => simp [hmade, Except.isOk, Except.toBool] at hbuilt
      | ok f => exact ⟨f, rfl⟩
    · cases h
  · cases h

theorem functionOf?_builtFrom? (hasked : e.asked? name = some (w, a, b))
    (hm : e.session.pool.mapper? name = some m) :
    functionOf? w.classes key (e.builtFrom? name key) =
      if w.mapKey? a b = some key then
        ((e.session.pool.registryOf m).functionFor w.classes key).toOption
      else none := by
  simp only [builtFrom?, hasked, hm]
  by_cases hkey : w.mapKey? a b = some key
  · rw [if_pos hkey]
    cases hmade : (e.session.pool.registryOf m).functionFor w.classes key with
    | error fault =>
        rw [if_neg (by simp [Except.isOk, Except.toBool])]
        rfl
    | ok f =>
        rw [if_pos ⟨hkey, rfl⟩, functionOf?, Option.bind_some, hmade]
  · rw [if_neg hkey, if_neg fun h => hkey h.1]
    rfl

/-- A command that fails has no mapper make anything. -/
theorem builtFrom?_of_error {fault : Fault}
    (h : e.session.carryOut e.command = .error fault) : e.builtFrom? name key = none := by
  cases hbuilt : e.builtFrom? name key with
  | none => rfl
  | some registry =>
      obtain ⟨w, a, b, m, hasked, hm, _⟩ := builtFrom?_eq_some hbuilt
      obtain ⟨s, c⟩ := e
      cases c with
      | map mapper source target result =>
          by_cases hname : mapper = name
          · subst hname
            obtain ⟨outcome, hok⟩ := carryOut_map_isOk hasked hm
            rw [hok] at h
            cases h
          · simp [asked?, hname] at hasked
      | _ => cases hasked

theorem succeeds_of_ok (h : e.session.carryOut e.command = .ok (s', report)) :
    e.succeeds = true := by
  rw [succeeds, h]
  rfl

theorem succeeds_of_error {fault : Fault}
    (h : e.session.carryOut e.command = .error fault) : e.succeeds = false := by
  rw [succeeds, h]
  rfl

end Event

/-! ## What a command does to a mapper -/

/-- What a command that does not reset a mapper leaves of it and of its registry. -/
structure Leaves (name : String) (e : Event) (m m' : Mapper) (p : MapperPool) : Prop where
  registry : m'.registry = m.registry
  functions : ∀ key, m'.functions.lookup key =
    (m.functions.lookup key).or
      (functionOf? e.session.world.classes key (e.builtFrom? name key))
  rules : e.registersIn m.registry = false → p.registryOf m = e.session.pool.registryOf m

theorem leaves_of_same {e : Event} {m : Mapper} {p : MapperPool}
    (hbuilt : ∀ key, e.builtFrom? name key = none)
    (hrules : e.registersIn m.registry = false → p.registryOf m = e.session.pool.registryOf m) :
    Leaves name e m m p :=
  ⟨rfl, fun key => by rw [hbuilt key]; exact (Option.or_none).symm, hrules⟩

/-- What comes of the mapper of a name: it forgets its functions, or it keeps them with those that
the command has it make. -/
def Follows (name : String) (e : Event) (p : MapperPool) : Prop :=
  ∀ m', p.mapper? name = some m' →
    e.resets name = true ∧ m'.functions = [] ∨
      e.resets name = false ∧
        ∃ m, e.session.pool.mapper? name = some m ∧ Leaves name e m m' p

theorem follows_of_idle {e : Event} {p : MapperPool} (hresets : e.resets name = false)
    (hbuilt : ∀ key, e.builtFrom? name key = none)
    (hmapper : p.mapper? name = e.session.pool.mapper? name)
    (hrules : ∀ m, e.registersIn m.registry = false →
      p.registryOf m = e.session.pool.registryOf m) : Follows name e p := by
  intro m hm
  rw [hmapper] at hm
  exact .inr ⟨hresets, m, hm, leaves_of_same hbuilt (hrules m)⟩

theorem addMapper_follows {added : String} {share : Option String}
    (h : s.carryOut (.addMapper added share) = .ok (s', report)) :
    Follows name ⟨s, .addMapper added share⟩ s'.pool := by
  have hsucceeds := Event.succeeds_of_ok (e := ⟨s, .addMapper added share⟩) h
  obtain ⟨shared, rfl⟩ := carryOut_addMapper h
  by_cases hname : name = added
  · subst hname
    intro m hm
    obtain ⟨n, hadded⟩ := s.pool.mapper?_addMapper_self name shared
    rw [hadded] at hm
    cases hm
    exact .inl ⟨by simp [Event.resets, hsucceeds], rfl⟩
  · refine follows_of_idle ?_ (fun _ => rfl) ?_ fun m _ => ?_
    · simp [Event.resets, Ne.symm hname]
    · exact MapperPool.mapper?_addMapper_of_ne shared hname
    · exact MapperPool.registryOf_addMapper s.pool added shared m

/-- A rule registered in another registry does not come into this one. -/
theorem register_follows {mapper : String} {source target : TypeExpr} {f : Converter}
    {pastMapper : Bool}
    (h : s.carryOut (.register mapper source target f pastMapper) = .ok (s', report)) :
    Follows name ⟨s, .register mapper source target f pastMapper⟩ s'.pool := by
  have hsucceeds := Event.succeeds_of_ok (e := ⟨s, .register mapper source target f pastMapper⟩) h
  obtain ⟨m₀, p, hm₀, hregistered, rfl⟩ := carryOut_register h
  obtain ⟨hmappers, hothers⟩ := MapperPool.registerInRegistry_eq_ok hregistered
  have hrules (m : Mapper)
      (hidle : Event.registersIn m.registry
        ⟨s, .register mapper source target f pastMapper⟩ = false) :
      p.registryOf m = s.pool.registryOf m := by
    refine hothers m fun hsame => ?_
    simp [Event.registersIn, hsucceeds, hm₀, hsame] at hidle
  have hmapper (x : String) : p.mapper? x = s.pool.mapper? x := by
    rw [MapperPool.mapper?, hmappers]
    rfl
  cases pastMapper with
  | true =>
      refine follows_of_idle ?_ (fun _ => rfl) (hmapper name) hrules
      simp [Event.resets]
  | false =>
      by_cases hname : name = mapper
      · subst hname
        intro m hm
        rw [if_neg (by simp), MapperPool.mapper?_putMapper_self] at hm
        cases hm
        exact .inl ⟨by simp [Event.resets, hsucceeds], rfl⟩
      · refine follows_of_idle ?_ (fun _ => rfl) ?_ hrules
        · simp [Event.resets, Ne.symm hname]
        · exact (MapperPool.mapper?_putMapper_of_ne hname).trans (hmapper name)

theorem map_follows {mapper : String} {source target : Expr} {result : Option String}
    (h : s.carryOut (.map mapper source target result) = .ok (s', report)) :
    Follows name ⟨s, .map mapper source target result⟩ s'.pool := by
  obtain ⟨w, a, b, m, hasked, hclasses, hm, hpool, _⟩ := carryOut_map h
  have hresets : Event.resets name ⟨s, .map mapper source target result⟩ = false :=
    Bool.and_false _
  rw [hpool]
  by_cases hname : name = mapper
  · subst hname
    intro m' hm'
    obtain ⟨m'', hm'', hregistry, hfunctions⟩ :=
      MapperPool.mapper?_map_self w a b hm
    rw [hm''] at hm'
    cases hm'
    refine .inr ⟨hresets, m, hm, hregistry, fun key => ?_, fun _ => ?_⟩
    · rw [hfunctions key, ← hclasses, Event.functionOf?_builtFrom? hasked hm]
    · exact MapperPool.registryOf_map m
  · refine follows_of_idle hresets (fun key => Event.builtFrom?_of_asked_none ?_) ?_ fun m' _ => ?_
    · simp [Event.asked?, Ne.symm hname]
    · exact MapperPool.mapper?_map_of_ne hname
    · exact MapperPool.registryOf_map m'

theorem step_follows (s : Session) (c : Command) (name : String) :
    Follows name ⟨s, c⟩ (s.step c).1.pool := by
  cases h : s.carryOut c with
  | error fault =>
      have hfails := Event.succeeds_of_error (e := ⟨s, c⟩) h
      rw [step_of_error h]
      refine follows_of_idle ?_ (fun key => Event.builtFrom?_of_error h) rfl fun _ _ => rfl
      rw [Event.resets, hfails, Bool.false_and]
  | ok result =>
      obtain ⟨s', report⟩ := result
      rw [step_of_ok h]
      cases hc : c.usesMappers with
      | false =>
          have hpool := (carryOut_keeps hc h).pool
          dsimp only
          rw [hpool]
          cases c with
          | addMapper | register | map | createFunction => cases hc
          | _ => exact follows_of_idle (Bool.and_false _) (fun _ => rfl) rfl fun _ _ => rfl
      | true =>
          cases c with
          | addMapper => exact addMapper_follows h
          | register => exact register_follows h
          | map => exact map_follows h
          | createFunction =>
              obtain ⟨m, f, _, _, rfl⟩ := carryOut_createFunction h
              exact follows_of_idle (Bool.and_false _) (fun _ => rfl) rfl fun _ _ => rfl
          | _ => cases hc

end Session

end Memberwise
