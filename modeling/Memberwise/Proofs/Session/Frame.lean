import Memberwise.Proofs.Mapper.Frame
import Memberwise.Session

/-! # What a session keeps

Commands make and change objects; the classes of a session stay what they are.  Mappers are
changed by the commands that add one, register through one or map by one, and functions are bound
by the command that makes them; other commands do neither.
-/

namespace Memberwise

open World (Extends)

/-! ## Expressions -/

namespace Expr

variable {slotOf? : String → Option Slot}

mutual

/-- What an expression denotes is there already or is made anew. -/
theorem evaluate_extends {w w' : World} {slot : Slot} :
    (e : Expr) → e.evaluate slotOf? w = .ok (w', slot) → Extends w w'
  | .atom a, h => by
    cases h
    exact .refl _ w
  | .member owner name, h => by
    cases h
    exact .refl _ w
  | .variable name, h => by
    unfold evaluate at h
    split at h
    · cases h
      exact .refl _ w
    · cases h
  | .seq kind items, h => by
    unfold evaluate at h
    obtain ⟨⟨w₁, slots⟩, hitems, h⟩ := bind_eq_ok.mp h
    have hall := evaluateAll_extends items hitems
    dsimp only at h
    split at h
    · obtain ⟨kept, _, h⟩ := bind_eq_ok.mp h
      exact hall.trans (World.alloc_isNew (Except.ok.inj h)).1
    · obtain ⟨kept, _, h⟩ := bind_eq_ok.mp h
      exact hall.trans (World.alloc_isNew (Except.ok.inj h)).1
    · exact hall.trans (World.alloc_isNew (Except.ok.inj h)).1
  | .dict entries, h => by
    unfold evaluate at h
    obtain ⟨⟨w₁, slots⟩, hentries, h⟩ := bind_eq_ok.mp h
    obtain ⟨kept, _, h⟩ := bind_eq_ok.mp h
    exact (evaluateEntries_extends entries hentries).trans
      (World.alloc_isNew (Except.ok.inj h)).1
  | .wrapped name core, h => by
    unfold evaluate at h
    obtain ⟨⟨w₁, slot₁⟩, hcore, h⟩ := bind_eq_ok.mp h
    dsimp only at h
    split at h
    · exact (evaluate_extends core hcore).trans (World.alloc_isNew (Except.ok.inj h)).1
    · cases h
  | .object c arguments, h => by
    unfold evaluate at h
    obtain ⟨⟨w₁, named⟩, hnamed, h⟩ := bind_eq_ok.mp h
    exact (evaluateArguments_extends arguments hnamed).trans (World.create_extends h).1

theorem evaluateAll_extends {w w' : World} {slots : List Slot} :
    (l : List Expr) → evaluateAll slotOf? w l = .ok (w', slots) → Extends w w'
  | [], h => by
    cases h
    exact .refl _ w
  | e :: rest, h => by
    unfold evaluateAll at h
    obtain ⟨⟨w₁, slot⟩, he, h⟩ := bind_eq_ok.mp h
    obtain ⟨⟨w₂, further⟩, hrest, h⟩ := bind_eq_ok.mp h
    cases h
    exact (evaluate_extends e he).trans (evaluateAll_extends rest hrest)

theorem evaluateEntries_extends {w w' : World} {slots : List (Slot × Slot)} :
    (l : List (Expr × Expr)) → evaluateEntries slotOf? w l = .ok (w', slots) → Extends w w'
  | [], h => by
    cases h
    exact .refl _ w
  | (k, v) :: rest, h => by
    unfold evaluateEntries at h
    obtain ⟨⟨w₁, key⟩, hk, h⟩ := bind_eq_ok.mp h
    obtain ⟨⟨w₂, slot⟩, hv, h⟩ := bind_eq_ok.mp h
    obtain ⟨⟨w₃, further⟩, hrest, h⟩ := bind_eq_ok.mp h
    cases h
    exact ((evaluate_extends k hk).trans (evaluate_extends v hv)).trans
      (evaluateEntries_extends rest hrest)

theorem evaluateArguments_extends {w w' : World} {slots : List (String × Slot)} :
    (l : List (String × Expr)) → evaluateArguments slotOf? w l = .ok (w', slots) → Extends w w'
  | [], h => by
    cases h
    exact .refl _ w
  | (name, e) :: rest, h => by
    unfold evaluateArguments at h
    obtain ⟨⟨w₁, slot⟩, he, h⟩ := bind_eq_ok.mp h
    obtain ⟨⟨w₂, further⟩, hrest, h⟩ := bind_eq_ok.mp h
    cases h
    exact (evaluate_extends e he).trans (evaluateArguments_extends rest hrest)

end

end Expr

/-- Whether a command may change mappers, or have one of them make a function. -/
def Command.usesMappers : Command → Bool
  | .addMapper .. | .register .. | .map .. | .createFunction .. => true
  | _ => false

/-- The variable that a command may bind. -/
def Command.binds? : Command → Option String
  | .bind name _ | .createFunction _ _ _ _ name => some name
  | .create _ _ name | .map _ _ _ name => name
  | _ => none

namespace Session

variable {s s' : Session}

/-! ## Commands that leave mappers alone -/

/-- Whether a session has the classes, the mappers and the functions of another one, but for what
a variable stands for, which is no function now if it was none before. -/
structure Keeps (bound : Option String) (s s' : Session) : Prop where
  classes : s'.world.classes = s.world.classes
  pool : s'.pool = s.pool
  functions : ∀ {x f}, s'.function x = .ok f → s.function x = .ok f
  others : ∀ {x}, bound ≠ some x → s'.function x = s.function x

theorem Keeps.refl (bound : Option String) (s : Session) : Keeps bound s s :=
  ⟨rfl, rfl, id, fun _ => rfl⟩

theorem Keeps.trans {bound : Option String} {s'' : Session} (h : Keeps none s s')
    (h' : Keeps bound s' s'') : Keeps bound s s'' :=
  ⟨h'.classes.trans h.classes, h'.pool.trans h.pool, fun hf => h.functions (h'.functions hf),
    fun hx => (h'.others hx).trans (h.others nofun)⟩

theorem Keeps.weaken (bound : Option String) (h : Keeps none s s') : Keeps bound s s' :=
  h.trans (.refl bound s')

theorem keeps_of_world {w : World} (h : w.classes = s.world.classes) :
    Keeps none s { s with world := w } := ⟨h, rfl, id, fun _ => rfl⟩

theorem function_bindName_self (s : Session) (name : String) (f : MapFunction) :
    (s.bindName name (.function f)).function name = .ok f := by
  simp [function, bindName]

theorem function_bindName_of_ne {x name : String} (s : Session) (b : Bound) (h : x ≠ name) :
    (s.bindName name b).function x = s.function x := by
  have hx : (x == name) = false := beq_eq_false_iff_ne.mpr h
  simp only [function, bindName, List.lookup_cons, hx, lookup_filter_of_ne h]

theorem bindName_keeps (s : Session) (name : String) (slot : Slot) :
    Keeps (some name) s (s.bindName name (.slot slot)) := by
  have hother {x : String} (hx : x ≠ name) := function_bindName_of_ne s (.slot slot) hx
  refine ⟨rfl, rfl, fun {x f} hf => ?_, fun {x} hx => hother fun h => hx (h ▸ rfl)⟩
  by_cases hx : x = name
  · simp [function, bindName, hx] at hf
  · rwa [hother hx] at hf

theorem bindName?_world (s : Session) (name : Option String) (b : Bound) :
    (s.bindName? name b).world = s.world := by
  cases name <;> rfl

theorem bindName?_keeps (s : Session) (name : Option String) (slot : Slot) :
    Keeps name s (s.bindName? name (.slot slot)) := by
  cases name with
  | none => exact .refl none s
  | some name => exact bindName_keeps s name slot

theorem evaluate_keeps {e : Expr} {slot : Slot} (h : s.evaluate e = .ok (s', slot)) :
    Keeps none s s' := by
  obtain ⟨⟨w, slot'⟩, hw, h⟩ := bind_eq_ok.mp h
  cases h
  exact keeps_of_world (Expr.evaluate_extends e hw).classes

theorem runMutate_keeps {function : String} {source target : Expr} {report : Report}
    (h : s.runMutate function source target = .ok (s', report)) : Keeps none s s' := by
  obtain ⟨f, _, h⟩ := bind_eq_ok.mp h
  obtain ⟨⟨s₁, a⟩, ha, h⟩ := bind_eq_ok.mp h
  obtain ⟨⟨s₂, b⟩, hb, h⟩ := bind_eq_ok.mp h
  cases h
  exact ((evaluate_keeps ha).trans (evaluate_keeps hb)).trans
    (keeps_of_world (World.mutate_spends s₂.world f a b).classes)

theorem runCreate_keeps {function : String} {source : Expr} {name : Option String}
    {report : Report} (h : s.runCreate function source name = .ok (s', report)) :
    Keeps name s s' := by
  obtain ⟨f, _, h⟩ := bind_eq_ok.mp h
  obtain ⟨⟨s₁, a⟩, ha, h⟩ := bind_eq_ok.mp h
  have hproduced := (evaluate_keeps ha).trans
    (keeps_of_world (World.produce_spends s₁.world f a).classes)
  dsimp only at h
  split at h
  · cases h
    exact hproduced.weaken name
  · cases h
    exact hproduced.trans (bindName?_keeps _ name _)

theorem carryOut_keeps {c : Command} (hc : c.usesMappers = false) {report : Report}
    (h : s.carryOut c = .ok (s', report)) : Keeps c.binds? s s' := by
  unfold carryOut at h
  cases c with
  | addMapper | register | map | createFunction => cases hc
  | bind name value =>
      obtain ⟨⟨s₁, slot⟩, hvalue, h⟩ := bind_eq_ok.mp h
      cases h
      exact (evaluate_keeps hvalue).trans (bindName_keeps s₁ name slot)
  | set owner name value =>
      obtain ⟨⟨s₁, o⟩, howner, h⟩ := bind_eq_ok.mp h
      obtain ⟨⟨s₂, v⟩, hvalue, h⟩ := bind_eq_ok.mp h
      obtain ⟨w, hset, h⟩ := bind_eq_ok.mp h
      cases h
      exact ((evaluate_keeps howner).trans (evaluate_keeps hvalue)).trans
        (keeps_of_world (World.setAttribute_changesOnly hset).classes)
  | delete owner name =>
      obtain ⟨⟨s₁, o⟩, howner, h⟩ := bind_eq_ok.mp h
      obtain ⟨w, hdelete, h⟩ := bind_eq_ok.mp h
      cases h
      exact (evaluate_keeps howner).trans
        (keeps_of_world (World.deleteAttribute_changesOnly hdelete).classes)
  | get owner name =>
      obtain ⟨⟨s₁, o⟩, howner, h⟩ := bind_eq_ok.mp h
      obtain ⟨⟨w, v⟩, hget, h⟩ := bind_eq_ok.mp h
      cases h
      exact (evaluate_keeps howner).trans (keeps_of_world (World.getAttribute_extends hget).classes)
  | dump owner =>
      obtain ⟨⟨s₁, o⟩, howner, h⟩ := bind_eq_ok.mp h
      cases h
      exact evaluate_keeps howner
  | append owner name value =>
      obtain ⟨⟨s₁, o⟩, howner, h⟩ := bind_eq_ok.mp h
      obtain ⟨⟨s₂, v⟩, hvalue, h⟩ := bind_eq_ok.mp h
      obtain ⟨⟨w, collection⟩, hget, h⟩ := bind_eq_ok.mp h
      dsimp only at h
      split at h
      · obtain ⟨w', hadd, h⟩ := bind_eq_ok.mp h
        cases h
        exact ((evaluate_keeps howner).trans (evaluate_keeps hvalue)).trans
          (keeps_of_world ((World.addElement_changesOnly hadd).classes.trans
            (World.getAttribute_extends hget).classes))
      · cases h
  | same a b name =>
      obtain ⟨⟨s₁, o⟩, ha, h⟩ := bind_eq_ok.mp h
      obtain ⟨⟨s₂, o'⟩, hb, h⟩ := bind_eq_ok.mp h
      obtain ⟨⟨w, v⟩, hget, h⟩ := bind_eq_ok.mp h
      obtain ⟨⟨w', v'⟩, hget', h⟩ := bind_eq_ok.mp h
      cases h
      exact ((evaluate_keeps ha).trans (evaluate_keeps hb)).trans
        (keeps_of_world ((World.getAttribute_extends hget).trans
          (World.getAttribute_extends hget')).classes)
  | plan mapper source target creates =>
      obtain ⟨m, _, h⟩ := bind_eq_ok.mp h
      obtain ⟨p, _, h⟩ := bind_eq_ok.mp h
      cases h
      exact .refl none s
  | mutate function source target => exact runMutate_keeps h
  | create function source name => exact runCreate_keeps h

end Session

end Memberwise
