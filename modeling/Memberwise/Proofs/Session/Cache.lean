import Mathlib.Data.List.Induction
import Memberwise.Proofs.Session.Effect

/-! # What mappers keep

A mapper keeps the function that its registry gave for a key when it was first asked, until it is
reset.  Rules that come into the registry past the mapper do not change what it keeps, and nothing
changes a function that was made for a caller.
-/

namespace Memberwise

namespace Session

variable {s s' : Session} {c : Command} {name : String} {key : CacheKey}

/-! ## Runs -/

/-- Whether what a mapper keeps under a key is what the past of the session makes of it. -/
structure Tracks (name : String) (key : CacheKey) (past : List Event) (s : Session)
    (m : Mapper) : Prop where
  kept : m.functions.lookup key = functionOf? s.world.classes key (firstBuild? name key past)
  built : ∀ registry ∈ firstBuild? name key past,
    ∃ f, registry.functionFor s.world.classes key = .ok f
  rules : ∀ registry ∈ firstBuild? name key past,
    (∀ e ∈ sinceBuild name key past, e.registersIn m.registry = false) →
      s.pool.registryOf m = registry

theorem tracks_of_reset {past : List Event} {m : Mapper} (hnone : firstBuild? name key past = none)
    (h : m.functions = []) : Tracks name key past s m := by
  refine ⟨?_, fun _ hfirst => ?_, fun _ hfirst => ?_⟩
  · rw [hnone, h]
    rfl
  all_goals
    rw [hnone] at hfirst
    cases hfirst

theorem Tracks.step {past : List Event} {m m' : Mapper} (h : Tracks name key past s m)
    (hresets : Event.resets name ⟨s, c⟩ = false) (hm : s.pool.mapper? name = some m)
    (hleaves : Leaves name ⟨s, c⟩ m m' (s.step c).1.pool) :
    Tracks name key (past ++ [⟨s, c⟩]) (s.step c).1 m' := by
  have hfirst : firstBuild? name key (past ++ [⟨s, c⟩]) = _ := firstBuild?_concat hresets
  have hrules := (s.step c).1.pool.registryOf_congr hleaves.registry
  refine ⟨?_, fun registry hregistry => ?_, fun registry hregistry hsince => ?_⟩
  · rw [hfirst, step_classes, functionOf?_or h.built, ← h.kept, hleaves.functions key]
  · rw [hfirst] at hregistry
    rw [step_classes]
    rcases Option.or_eq_some_iff.mp hregistry with hpast | ⟨-, hnow⟩
    · exact h.built registry hpast
    · obtain ⟨w, a, b, asked, _, _, _, hmade⟩ := Event.builtFrom?_eq_some hnow
      exact hmade
  · rw [hfirst] at hregistry
    rw [hleaves.registry] at hsince
    rw [hrules]
    rcases Option.or_eq_some_iff.mp hregistry with hpast | ⟨-, hnow⟩
    · have hbuilt : (firstBuild? name key past).isSome = true := by rw [hpast]; rfl
      rw [hleaves.rules (hsince _ (mem_sinceBuild_self hresets hbuilt))]
      exact h.rules registry hpast fun e he => hsince e (mem_sinceBuild_concat hresets he)
    -- The command that makes the function registers nothing, so the rules are still the same.
    · obtain ⟨w, a, b, asked, hasked, hmapper, hregistry, _⟩ := Event.builtFrom?_eq_some hnow
      rw [hm] at hmapper
      cases hmapper
      rw [hleaves.rules (Event.registersIn_of_asked _ hasked), hregistry]

theorem run_tracks (world : World) (mapper : String) (cs : List Command) {m : Mapper}
    (h : ((start world mapper).run cs).1.pool.mapper? name = some m) :
    Tracks name key ((start world mapper).history cs) ((start world mapper).run cs).1 m := by
  induction cs using List.reverseRecOn generalizing m with
  | nil =>
      refine tracks_of_reset rfl ?_
      have hm : (MapperPool.single mapper).mapper? name = some m := h
      simp only [MapperPool.single, MapperPool.mapper?, List.lookup_cons] at hm
      split at hm <;> cases hm
      rfl
  | append_singleton cs c ih =>
      rw [run_concat, history_concat]
      rw [run_concat] at h
      rcases step_follows _ c name m h with ⟨hresets, hempty⟩ | ⟨hresets, m₀, hm₀, hleaves⟩
      · exact tracks_of_reset (firstBuild?_of_reset hresets) hempty
      · exact (ih hm₀).step hresets hm₀ hleaves

/-! ## Functions made for a caller -/

theorem step_function_of_makes {x : String} {f : MapFunction} (h : Event.makes x f ⟨s, c⟩) :
    (s.step c).1.function x = .ok f := by
  cases c with
  | createFunction mapper source target creates bound =>
      obtain ⟨rfl, m, hm, hmade⟩ := h
      rw [step_of_ok (carryOut_createFunction_of_made hm hmade)]
      exact function_bindName_self s bound f
  | _ => cases h

/-- A function that a variable stands for was made by a command, and was there ever since. -/
theorem run_functions (world : World) (mapper : String) (cs : List Command) {x : String}
    {f : MapFunction} (h : ((start world mapper).run cs).1.function x = .ok f) :
    ∃ before e after, (start world mapper).history cs = before ++ e :: after ∧ e.makes x f ∧
      ∀ later ∈ after, later.session.function x = .ok f := by
  induction cs using List.reverseRecOn with
  | nil => cases h
  | append_singleton cs c ih =>
      rw [run_concat] at h
      rw [history_concat]
      rcases (step_keepsFunctions _ c).functions h with hbefore | hmakes
      · obtain ⟨before, e, after, hpast, hmakes, hsince⟩ := ih hbefore
        refine ⟨before, e, after ++ [⟨((start world mapper).run cs).1, c⟩], ?_, hmakes,
          fun later hlater => ?_⟩
        · rw [hpast, List.append_assoc, List.cons_append]
        · rcases List.mem_append.mp hlater with hlater | hlater
          · exact hsince later hlater
          · rw [List.mem_singleton.mp hlater]
            exact hbefore
      · exact ⟨_, ⟨_, c⟩, [], rfl, hmakes, fun _ hlater => absurd hlater (List.not_mem_nil)⟩

/-- A function stays what a variable stands for until the variable is bound again. -/
theorem run_function_of_makes (world : World) (mapper : String) (cs : List Command)
    {before after : List Event} {e : Event} {x : String} {f : MapFunction}
    (hpast : (start world mapper).history cs = before ++ e :: after) (hmakes : e.makes x f)
    (hafter : ∀ later ∈ after, later.command.binds? ≠ some x) :
    ((start world mapper).run cs).1.function x = .ok f := by
  induction cs using List.reverseRecOn generalizing after with
  | nil => cases before <;> cases hpast
  | append_singleton cs c ih =>
      rw [history_concat] at hpast
      rw [run_concat]
      rcases List.eq_nil_or_concat' after with rfl | ⟨rest, last, rfl⟩
      · obtain ⟨-, hlast⟩ := List.append_inj' hpast rfl
        cases hlast
        exact step_function_of_makes hmakes
      · rw [← List.cons_append, ← List.append_assoc] at hpast
        obtain ⟨hbefore, hlast⟩ := List.append_inj' hpast rfl
        cases hlast
        have hc := hafter ⟨_, c⟩ (List.mem_append_right _ (List.mem_singleton_self _))
        rw [(step_keepsFunctions _ c).others hc]
        exact ih hbefore fun later hlater => hafter later (List.mem_append_left _ hlater)

/-! ## What a session recalls -/

/-- What the past of a session says of its mappers and of the functions that it holds. -/
structure Recalls (past : List Event) (s : Session) : Prop where
  /-- An object is mapped by the function of the registry as it was when the first function was
  made for its key since the mapper was last reset, or as it is now if none was made. -/
  mapped : ∀ {name m}, s.pool.mapper? name = some m → ∀ {w}, w.classes = s.world.classes →
    ∀ {source target key}, w.mapKey? source target = some key →
      ((s.pool.map w name m source target).world, (s.pool.map w name m source target).result) =
        ((firstBuild? name key past).getD (s.pool.registryOf m)).mapped w key source target
  /-- Where no function can be made, nothing is kept. -/
  unmade : ∀ {name m}, s.pool.mapper? name = some m → ∀ {w}, w.classes = s.world.classes →
    ∀ {source target key}, w.mapKey? source target = some key →
      ∀ {fault}, ((firstBuild? name key past).getD (s.pool.registryOf m)).functionFor
          w.classes key = .error fault →
        s.pool.map w name m source target = ⟨s.pool, w, .error fault⟩
  /-- Where rules came into the registry through the mapper only, an object is mapped as by a new
  mapper. -/
  current : ∀ {name m}, s.pool.mapper? name = some m → ∀ {w}, w.classes = s.world.classes →
    ∀ {source target key}, w.mapKey? source target = some key →
      (∀ e ∈ sinceBuild name key past,
        e.registersIn m.registry = true → e.registersThrough name = true) →
      ((s.pool.map w name m source target).world, (s.pool.map w name m source target).result) =
        (s.pool.registryOf m).mapped w key source target
  /-- A rule that is rejected changes neither rules nor what is kept. -/
  rejected : ∀ {mapper source target f pastMapper fault},
    s.carryOut (.register mapper source target f pastMapper) = .error fault →
      (s.step (.register mapper source target f pastMapper)).1 = s
  /-- A function made for a caller is the one that the registry gave when it was made. -/
  functions : ∀ {x f}, s.function x = .ok f →
    ∃ before e after, past = before ++ e :: after ∧ e.makes x f ∧
      ∀ later ∈ after, later.session.function x = .ok f
  /-- It stays as it was made until its variable is bound again. -/
  held : ∀ {before e after x f}, past = before ++ e :: after → e.makes x f →
    (∀ later ∈ after, later.command.binds? ≠ some x) → s.function x = .ok f

section Tracks

variable {past : List Event} {m : Mapper} {w : World} {source target : Slot}

theorem Tracks.map (h : Tracks name key past s m) (hw : w.classes = s.world.classes)
    (hkey : w.mapKey? source target = some key) :
    ((s.pool.map w name m source target).world, (s.pool.map w name m source target).result) =
      ((firstBuild? name key past).getD (s.pool.registryOf m)).mapped w key source target := by
  have hkept := h.kept
  cases hfirst : firstBuild? name key past with
  | none =>
      rw [hfirst] at hkept
      rw [MapperPool.map_of_not_kept hkey hkept, Option.getD_none]
  | some registry =>
      obtain ⟨f, hf⟩ := h.built registry hfirst
      rw [hfirst, functionOf?, Option.bind_some, hf] at hkept
      rw [MapperPool.map_of_kept hkey hkept, Option.getD_some, Registry.mapped, hw, hf]

theorem Tracks.map_of_fault (h : Tracks name key past s m) (hw : w.classes = s.world.classes)
    (hkey : w.mapKey? source target = some key) {fault : Fault}
    (hfault : ((firstBuild? name key past).getD (s.pool.registryOf m)).functionFor
      w.classes key = .error fault) :
    s.pool.map w name m source target = ⟨s.pool, w, .error fault⟩ := by
  have hkept := h.kept
  cases hfirst : firstBuild? name key past with
  | none =>
      rw [hfirst] at hkept
      rw [hfirst, Option.getD_none] at hfault
      rw [MapperPool.map_of_not_kept hkey hkept, Registry.mapped, hfault]
  | some registry =>
      obtain ⟨f, hf⟩ := h.built registry hfirst
      rw [hfirst, Option.getD_some, hw, hf] at hfault
      cases hfault

theorem Tracks.registry_eq (h : Tracks name key past s m)
    (hthrough : ∀ e ∈ sinceBuild name key past,
      e.registersIn m.registry = true → e.registersThrough name = true) :
    (firstBuild? name key past).getD (s.pool.registryOf m) = s.pool.registryOf m := by
  cases hfirst : firstBuild? name key past with
  | none => rfl
  | some registry =>
      -- A rule that came in through the mapper would have reset it, so there is none at all.
      refine (h.rules registry hfirst fun e he => ?_).symm
      have hresets := resets_of_mem_sinceReset (mem_sinceReset_of_sinceBuild he)
      cases hregisters : e.registersIn m.registry with
      | false => rfl
      | true =>
          have hnamed := hthrough e he hregisters
          obtain ⟨s₁, c⟩ := e
          cases c with
          | register mapper source target f pastMapper =>
              have hsucceeds := (Bool.and_eq_true _ _ ▸ hregisters).1
              simp only [Event.registersThrough] at hnamed
              simp [Event.resets, hsucceeds, hnamed] at hresets
          | _ => cases hnamed

end Tracks

theorem run_recalls (world : World) (mapper : String) (cs : List Command) :
    Recalls ((start world mapper).history cs) ((start world mapper).run cs).1 where
  mapped hm _ hw _ _ _ hkey := (run_tracks world mapper cs hm).map hw hkey
  unmade hm _ hw _ _ _ hkey _ hfault := (run_tracks world mapper cs hm).map_of_fault hw hkey hfault
  current hm w hw source target key hkey hthrough := by
    have htracks : Tracks _ key _ _ _ := run_tracks world mapper cs hm
    rw [htracks.map hw hkey, htracks.registry_eq hthrough]
  rejected h := by rw [step_of_error h]
  functions h := run_functions world mapper cs h
  held hpast hmakes hafter := run_function_of_makes world mapper cs hpast hmakes hafter

/-- Drafts with a text and posts with a number for their length. -/
def publishing : World where
  classes := [("Draft", Builtin.str), ("Post", Builtin.int)].map fun (name, length) =>
    ⟨⟨name, .plain, [], none,
      [.field ⟨"length", .builtin length, .missing, false, none, true, none⟩], none⟩,
      [.declared name, .builtin .object]⟩
  store := ⟨#[]⟩
  constants := []
  schemas := .empty

/-- What a draft is mapped to a post by. -/
def draftToPost : CacheKey := ⟨.declared "Draft", .declared "Post", true⟩

/-- A rule comes in through another mapper when a draft was mapped already. -/
def lateRule : List Command := [
  .addMapper "review" (some "posts"),
  .bind "draft" (.object (.declared "Draft") []),
  .set (.variable "draft") "length" (.atom (.str "7")),
  .map "posts" (.variable "draft") (.atom (.classRef (.declared "Post"))) none,
  .register "review" (.builtin .str) (.builtin .int) (.function .number .unstated) false]

theorem run_recalls_lateRule : ∃ m first,
    ((start publishing "posts").run lateRule).1.pool.mapper? "posts" = some m ∧
    firstBuild? "posts" draftToPost ((start publishing "posts").history lateRule) = some first ∧
    first.size = 0 ∧
    (((start publishing "posts").run lateRule).1.pool.registryOf m).size = 1 ∧
    let s := ((start publishing "posts").run lateRule).1
    let outcome := s.pool.map s.world "posts" m (.ref 0) (.atom (.classRef (.declared "Post")))
    (outcome.world, outcome.result) = first.mapped s.world draftToPost (.ref 0)
      (.atom (.classRef (.declared "Post"))) := by
  have hsize : (((start publishing "posts").run lateRule).1.pool.mapper? "posts").map
      (fun m => (((start publishing "posts").run lateRule).1.pool.registryOf m).size) =
        some 1 := by decide +kernel
  have hempty : (firstBuild? "posts" draftToPost
      ((start publishing "posts").history lateRule)).map Registry.size = some 0 := by
    decide +kernel
  have hkey : ((start publishing "posts").run lateRule).1.world.mapKey? (.ref 0)
      (.atom (.classRef (.declared "Post"))) = some draftToPost := by decide +kernel
  obtain ⟨m, hm, hsize⟩ := Option.map_eq_some_iff.mp hsize
  obtain ⟨first, hfirst, hempty⟩ := Option.map_eq_some_iff.mp hempty
  have hmapped := (run_recalls publishing "posts" lateRule).mapped hm rfl hkey
  rw [hfirst, Option.getD_some] at hmapped
  exact ⟨m, first, hm, hfirst, hempty, hsize, hmapped⟩

end Session

end Memberwise
