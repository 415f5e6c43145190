import Memberwise.Mapper
import Memberwise.Proofs.KeyedList
import Memberwise.Proofs.Mapper.Frame

/-! # Mappers in a pool

A mapper is told from others by its name, and its registry by its number.  What a mapper does for
one object is the work of one function: the one that it keeps for the classes at hand, or else the
one that its registry gives.
-/

namespace Memberwise

/-! ## Functions of a registry -/

/-- The function that the rules of a registry give for a pair of types. -/
def Registry.compile (registry : Registry Converter) (classes : Classes) (source target : TypeExpr)
    (creates : Bool) : Except Fault MapFunction := do
  let p ← (Plan.build classes registry source target creates).outcome
  if creates then p.compileFactory classes else p.compileMutator classes

/-- The function that the rules of a registry give for a key. -/
def Registry.functionFor (registry : Registry Converter) (classes : Classes) (key : CacheKey) :
    Except Fault MapFunction :=
  registry.compile classes (.cls key.source) (.cls key.target) key.creates

namespace World

/-- What a mapper keeps the function under that maps one object to another, if both are there. -/
def mapKey? (w : World) (source target : Slot) : Option CacheKey :=
  if source.isNone || target.isNone then none
  else
    match target with
    | .atom (.classRef c) => some ⟨w.classOf source, c, true⟩
    | target => some ⟨w.classOf source, w.classOf target, false⟩

/-- Maps an object by a function: to a new object of a class, or to an object that is there. -/
def mapBy (w : World) (f : MapFunction) (source target : Slot) : World × Except Fault Slot :=
  match target with
  | .atom (.classRef _) => w.produce f source
  | target =>
    match w.mutate f source target with
    | (w, some fault) => (w, .error fault)
    | (w, none) => (w, .ok target)

theorem mapBy_of_object (w : World) (f : MapFunction) (source : Slot) {target : Slot}
    (h : ∀ c, target = .atom (.classRef c) → False) :
    w.mapBy f source target =
      match w.mutate f source target with
      | (w, some fault) => (w, .error fault)
      | (w, none) => (w, .ok target) := by
  cases target with
  | ref place => rfl
  | atom a =>
      cases a with
      | classRef c => exact absurd rfl (h c)
      | _ => rfl

theorem mapBy_classes (w : World) (f : MapFunction) (source target : Slot) :
    (w.mapBy f source target).1.classes = w.classes := by
  unfold mapBy
  split
  · exact (produce_spends w f source).classes
  · have hclasses := (mutate_spends w f source target).classes
    cases hmutate : w.mutate f source target with
    | mk w' failure =>
        rw [hmutate] at hclasses
        cases failure <;> exact hclasses

end World

/-- What comes of mapping an object by the function that a registry gives for its key. -/
def Registry.mapped (registry : Registry Converter) (w : World) (key : CacheKey)
    (source target : Slot) : World × Except Fault Slot :=
  match registry.functionFor w.classes key with
  | .error fault => (w, .error fault)
  | .ok f => w.mapBy f source target

namespace MapperPool

variable {p : MapperPool} {classes : Classes} {name other : String} {m : Mapper} {key : CacheKey}

/-! ## Mappers by name -/

@[simp]
theorem mapper?_putMapper_self (p : MapperPool) (name : String) (m : Mapper) :
    (p.putMapper name m).mapper? name = some m := by
  simp [mapper?, putMapper]

theorem mapper?_putMapper_of_ne (h : other ≠ name) :
    (p.putMapper name m).mapper? other = p.mapper? other := by
  have hother : (other == name) = false := beq_eq_false_iff_ne.mpr h
  simp only [mapper?, putMapper, List.lookup_cons, hother, lookup_filter_of_ne h]

@[simp]
theorem registryOf_putMapper (p : MapperPool) (name : String) (m m' : Mapper) :
    (p.putMapper name m).registryOf m' = p.registryOf m' := rfl

theorem registryOf_congr (p : MapperPool) {m m' : Mapper} (h : m'.registry = m.registry) :
    p.registryOf m' = p.registryOf m := by
  rw [registryOf, h]
  rfl

/-- A new mapper keeps no functions. -/
theorem mapper?_addMapper_self (p : MapperPool) (name : String) (share : Option Mapper) :
    ∃ n, (p.addMapper name share).mapper? name = some ⟨n, []⟩ := by
  cases share with
  | none => exact ⟨_, mapper?_putMapper_self _ _ _⟩
  | some m => exact ⟨_, mapper?_putMapper_self _ _ _⟩

theorem mapper?_addMapper_of_ne (share : Option Mapper) (h : other ≠ name) :
    (p.addMapper name share).mapper? other = p.mapper? other := by
  cases share with
  | none => exact mapper?_putMapper_of_ne h
  | some m => exact mapper?_putMapper_of_ne h

theorem registryOf_addMapper (p : MapperPool) (name : String) (share : Option Mapper)
    (m : Mapper) : (p.addMapper name share).registryOf m = p.registryOf m := by
  cases share with
  | some m' => rfl
  | none =>
      show ((p.registries ++ [.empty])[m.registry]?).getD .empty = _
      rw [List.getElem?_append]
      split
      · rfl
      · rename_i hlt
        rw [registryOf, List.getElem?_eq_none (Nat.le_of_not_lt hlt)]
        cases m.registry - p.registries.length <;> rfl

/-! ## Registration -/

/-- A registration into one registry leaves the mappers and the other registries as they are. -/
theorem registerInRegistry_eq_ok {source target : TypeExpr} {f : Converter} {p' : MapperPool}
    (h : p.registerInRegistry classes m source target f = .ok p') :
    p'.mappers = p.mappers ∧
      ∀ m', m'.registry ≠ m.registry → p'.registryOf m' = p.registryOf m' := by
  obtain ⟨registry, _, h⟩ := bind_eq_ok.mp h
  cases h
  refine ⟨rfl, fun m' hne => ?_⟩
  simp only [registryOf, List.getElem?_set_ne (Ne.symm hne)]

/-! ## Functions that are kept -/

theorem createMutator_eq (p : MapperPool) (classes : Classes) (m : Mapper)
    (source target : TypeExpr) :
    p.createMutator classes m source target =
      (p.registryOf m).compile classes source target false := rfl

theorem createFactory_eq (p : MapperPool) (classes : Classes) (m : Mapper)
    (source target : TypeExpr) :
    p.createFactory classes m source target =
      (p.registryOf m).compile classes source target true := rfl

theorem functionFor_of_kept {f : MapFunction} (h : m.functions.lookup key = some f) :
    p.functionFor classes name m key = .ok (p, f) := by
  simp only [functionFor, h]

/-- A function that is not kept is made anew, and kept from then on. -/
theorem functionFor_of_not_kept (h : m.functions.lookup key = none) :
    p.functionFor classes name m key =
      ((p.registryOf m).functionFor classes key).map fun f =>
        (p.putMapper name { m with functions := m.functions ++ [(key, f)] }, f) := by
  unfold functionFor Registry.functionFor
  rw [h]
  dsimp only
  cases hcreates : key.creates with
  | true =>
      simp only [createFactory_eq, if_true]
      cases (p.registryOf m).compile classes (.cls key.source) (.cls key.target) true <;> rfl
  | false =>
      simp only [createMutator_eq, Bool.false_eq_true, if_false]
      cases (p.registryOf m).compile classes (.cls key.source) (.cls key.target) false <;> rfl

/-! ## Mapping one object -/

variable {w : World} {source target : Slot}

theorem map_of_no_key (h : w.mapKey? source target = none) :
    p.map w name m source target = ⟨p, w, .error (absenceFault w source target)⟩ := by
  unfold World.mapKey? at h
  unfold MapperPool.map
  split at h
  · rename_i habsent
    rw [if_pos habsent]
  · split at h <;> cases h

theorem map_of_object (hpresent : ¬ (source.isNone || target.isNone) = true)
    (h : ∀ c, target = .atom (.classRef c) → False) :
    p.map w name m source target =
      match p.functionFor w.classes name m ⟨w.classOf source, w.classOf target, false⟩ with
      | .error fault => ⟨p, w, .error fault⟩
      | .ok (p', f) =>
        match w.mutate f source target with
        | (w', some fault) => ⟨p', w', .error fault⟩
        | (w', none) => ⟨p', w', .ok target⟩ := by
  unfold MapperPool.map
  rw [if_neg hpresent]
  cases target with
  | ref place => rfl
  | atom a =>
      cases a with
      | classRef c => exact absurd rfl (h c)
      | _ => rfl

/-- An object is mapped by the function that the mapper has for its key. -/
theorem map_of_key (h : w.mapKey? source target = some key) :
    p.map w name m source target =
      match p.functionFor w.classes name m key with
      | .error fault => ⟨p, w, .error fault⟩
      | .ok (p', f) => ⟨p', (w.mapBy f source target).1, (w.mapBy f source target).2⟩ := by
  unfold World.mapKey? at h
  split at h
  · cases h
  · rename_i hpresent
    split at h
    · cases h
      unfold MapperPool.map
      rw [if_neg hpresent]
      rfl
    · cases h
      rename_i hobject
      rw [map_of_object hpresent hobject]
      cases p.functionFor w.classes name m ⟨w.classOf source, w.classOf target, false⟩ with
      | error fault => rfl
      | ok made =>
          obtain ⟨p', f⟩ := made
          dsimp only
          rw [w.mapBy_of_object f source hobject]
          cases w.mutate f source target with
          | mk w' failure => cases failure <;> rfl

theorem map_of_kept {f : MapFunction} (hkey : w.mapKey? source target = some key)
    (h : m.functions.lookup key = some f) :
    p.map w name m source target =
      ⟨p, (w.mapBy f source target).1, (w.mapBy f source target).2⟩ := by
  rw [map_of_key hkey, functionFor_of_kept h]

theorem map_of_not_kept (hkey : w.mapKey? source target = some key)
    (h : m.functions.lookup key = none) :
    p.map w name m source target =
      ⟨match (p.registryOf m).functionFor w.classes key with
        | .error _ => p
        | .ok f => p.putMapper name { m with functions := m.functions ++ [(key, f)] },
        ((p.registryOf m).mapped w key source target).1,
        ((p.registryOf m).mapped w key source target).2⟩ := by
  rw [map_of_key hkey, functionFor_of_not_kept h, Registry.mapped]
  cases (p.registryOf m).functionFor w.classes key <;> rfl

/-- Mapping may add to what the mapper keeps, and does nothing else to a pool. -/
theorem map_pool (p : MapperPool) (w : World) (name : String) (m : Mapper)
    (source target : Slot) :
    (p.map w name m source target).pool = p ∨
      ∃ functions, (p.map w name m source target).pool =
        p.putMapper name { m with functions } := by
  cases hkey : w.mapKey? source target with
  | none =>
      rw [map_of_no_key hkey]
      exact .inl rfl
  | some key =>
      cases hkept : m.functions.lookup key with
      | some f =>
          rw [map_of_kept hkey hkept]
          exact .inl rfl
      | none =>
          rw [map_of_not_kept hkey hkept]
          cases (p.registryOf m).functionFor w.classes key with
          | error fault => exact .inl rfl
          | ok f => exact .inr ⟨_, rfl⟩

theorem mapper?_map_of_ne (h : other ≠ name) :
    (p.map w name m source target).pool.mapper? other = p.mapper? other := by
  obtain hpool | ⟨functions, hpool⟩ := map_pool p w name m source target
  · rw [hpool]
  · rw [hpool, mapper?_putMapper_of_ne h]

theorem registryOf_map (m' : Mapper) :
    (p.map w name m source target).pool.registryOf m' = p.registryOf m' := by
  obtain hpool | ⟨functions, hpool⟩ := map_pool p w name m source target
  · rw [hpool]
  · rw [hpool, registryOf_putMapper]

/-- What is kept already stays, and the function that the registry has for the key of the object
is kept if there was none. -/
theorem mapper?_map_self (w : World) (source target : Slot) (h : p.mapper? name = some m) :
    ∃ m', (p.map w name m source target).pool.mapper? name = some m' ∧
      m'.registry = m.registry ∧
      ∀ key, m'.functions.lookup key =
        (m.functions.lookup key).or
          (if w.mapKey? source target = some key then
            ((p.registryOf m).functionFor w.classes key).toOption
          else none) := by
  cases hkey : w.mapKey? source target with
  | none =>
      rw [map_of_no_key hkey]
      exact ⟨m, h, rfl, fun key => by simp⟩
  | some asked =>
      cases hkept : m.functions.lookup asked with
      | some f =>
          rw [map_of_kept hkey hkept]
          refine ⟨m, h, rfl, fun key => ?_⟩
          by_cases hasked : asked = key
          · rw [← hasked, hkept, Option.some_or]
          · simp [hasked]
      | none =>
          rw [map_of_not_kept hkey hkept]
          cases hmade : (p.registryOf m).functionFor w.classes asked with
          | error fault =>
              refine ⟨m, h, rfl, fun key => ?_⟩
              by_cases hasked : asked = key
              · rw [← hasked, if_pos rfl, hmade, hkept]
                rfl
              · simp [hasked]
          | ok f =>
              refine ⟨_, mapper?_putMapper_self _ _ _, rfl, fun key => ?_⟩
              rw [List.lookup_append]
              by_cases hasked : asked = key
              · rw [← hasked, if_pos rfl, hmade, hkept, List.lookup_cons, beq_self_eq_true]
                rfl
              · have hother : (key == asked) = false :=
                  beq_eq_false_iff_ne.mpr (Ne.symm hasked)
                rw [List.lookup_cons, hother]
                simp [hasked]

theorem map_classes : (p.map w name m source target).world.classes = w.classes := by
  cases hkey : w.mapKey? source target with
  | none => rw [map_of_no_key hkey]
  | some key =>
      rw [map_of_key hkey]
      cases p.functionFor w.classes name m key with
      | error fault => rfl
      | ok made => exact w.mapBy_classes made.2 source target

end MapperPool

end Memberwise
