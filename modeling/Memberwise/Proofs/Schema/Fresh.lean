import Memberwise.Proofs.Schema.Renaming

/-! # Readings that are new

A schema gives back the very value that it reads, or makes a new one.  It never gives back an object
that is only a part of the value.
-/

namespace Memberwise

/-- The place at which an object is, if it knows one. -/
def Value.place? : Value → Option Place
  | .atom _ => Option.none
  | .seq place _ _ | .dict place _ | .object place _ _ _ => place

namespace Schema

variable {classes : Classes} {v : Value}

theorem place?_of_placeless {u : Value} (h : ∀ ρ : Place → Place, u.rename ρ = u) :
    u.place? = none := by
  have hplace : (u.rename (· + 1)).place? = u.place?.map (· + 1) := by
    cases u <;> rfl
  rw [h] at hplace
  cases hfound : u.place? with
  | none => rfl
  | some p =>
      rw [hfound] at hplace
      exact absurd (Option.some.inj hplace) (Nat.succ_ne_self p).symm

/-- Whether what is read of a value, if anything is, is the value itself or new. -/
def IsFresh {ε : Type} (v : Value) (reading : Option (Value × ε)) : Prop :=
  ∀ u e, reading = some (u, e) → u = v ∨ u.place? = none

section IsFresh

variable {ε α : Type} {e : ε}

theorem isFresh_none : IsFresh v (none : Option (Value × ε)) := nofun

theorem isFresh_self : IsFresh v (some (v, e)) := by
  rintro u f ⟨⟩
  exact .inl rfl

theorem isFresh_new {u : Value} (hu : u.place? = none) : IsFresh v (some (u, e)) := by
  rintro u' f ⟨⟩
  exact .inr hu

theorem isFresh_bind {o : Option α} {f : α → Option (Value × ε)} (h : ∀ a, IsFresh v (f a)) :
    IsFresh v (o.bind f) := by
  cases o with
  | none => exact isFresh_none
  | some a => exact h a

theorem isFresh_map {o : Option α} {f : α → Value × ε} (h : ∀ a, (f a).1.place? = none) :
    IsFresh v (o.map f) := by
  cases o with
  | none => exact isFresh_none
  | some a => exact isFresh_new (h a)

theorem isFresh_of_placeless {reading : Option (Value × ε)} (h : IsPlaceless reading) :
    IsFresh v reading := fun u e hreading => .inr (place?_of_placeless (h u e hreading))

end IsFresh

theorem ofGraded_isFresh {g : Graded} (h : IsFresh v g) : IsFresh v (ofGraded g) := by
  cases g with
  | none => exact isFresh_none
  | some reading =>
      rintro u e ⟨⟩
      exact h reading.1 reading.2 rfl

theorem readMember_isFresh (enumeration : String) :
    IsFresh v (readMember classes enumeration v) := by
  unfold readMember
  split
  · exact isFresh_self
  · exact isFresh_map fun _ => rfl

theorem betterOf_isFresh {best : Reading} {new : Value × Grade} (hbest : IsFresh v best)
    (hnew : IsFresh v (some new)) : IsFresh v (betterOf best new) := by
  unfold betterOf
  split
  · exact hnew
  · split
    · exact hnew
    · exact hbest

/-- A record is an object of its class as it is, or is made of a mapping. -/
theorem readRecordWith_isFresh (read : Schema → Value → Reading) (name : String) :
    IsFresh v (readRecordWith classes read name v) := by
  unfold readRecordWith
  dsimp only
  split
  · exact isFresh_self
  · split
    · split
      · refine isFresh_bind fun fields => ?_
        split
        · exact isFresh_new rfl
        · exact isFresh_new rfl
        · split
          · exact isFresh_new rfl
          · exact isFresh_none
      · exact isFresh_bind fun fields => isFresh_new rfl
    · exact isFresh_none

theorem readSequence_isFresh (read : Value → Reading) : IsFresh v (readSequence read v) := by
  unfold readSequence
  split
  · split
    · exact isFresh_bind fun items => isFresh_new rfl
    · exact isFresh_bind fun items => isFresh_new rfl
    · exact isFresh_bind fun items => isFresh_new rfl
    · exact isFresh_none
  · exact isFresh_none
  · exact isFresh_none
  · exact isFresh_none

mutual

theorem readWith_isFresh {readRecord : String → Value → Reading}
    (hrecord : ∀ name, IsFresh v (readRecord name v)) :
    (schema : Schema) → IsFresh v (readWith classes readRecord schema v)
  | .any => isFresh_self
  | .absent => by
    unfold readWith
    split
    · exact isFresh_self
    · exact isFresh_none
  | .scalar type => ofGraded_isFresh (isFresh_of_placeless (readScalar_isPlaceless type v))
  | .enumeration name => ofGraded_isFresh (readMember_isFresh name)
  | .literal values => ofGraded_isFresh (isFresh_bind fun _ => isFresh_map fun _ => rfl)
  | .nullable inner => by
    unfold readWith
    split
    · exact isFresh_self
    · exact readWith_isFresh hrecord inner
  | .union members => readBest_isFresh hrecord isFresh_none members
  | .list _ | .deque _ | .tupleOf _ => isFresh_bind fun _ => isFresh_new rfl
  | .set _ | .frozenset _ => isFresh_bind fun _ => isFresh_bind fun _ => isFresh_new rfl
  | .tuple _ | .iterable _ => isFresh_bind fun _ => isFresh_bind fun _ => isFresh_new rfl
  | .dict _ _ => by
    unfold readWith
    split
    · exact isFresh_bind fun _ => isFresh_new rfl
    · exact isFresh_none
  | .sequence _ => readSequence_isFresh _
  | .record name | .model name => hrecord name
  | .instanceOf c => by
    unfold readWith
    split
    · exact isFresh_self
    · exact isFresh_none

theorem readBest_isFresh {readRecord : String → Value → Reading}
    (hrecord : ∀ name, IsFresh v (readRecord name v)) {best : Reading} (hbest : IsFresh v best) :
    (schemas : List Schema) → IsFresh v (readBest classes readRecord best schemas v)
  | [] => hbest
  | schema :: rest => by
    have hfirst := readWith_isFresh hrecord schema
    unfold readBest
    split
    · exact readBest_isFresh hrecord hbest rest
    · rename_i heq
      rw [heq] at hfirst
      split
      · exact hfirst
      · exact readBest_isFresh hrecord (betterOf_isFresh hbest hfirst) rest

end

/-- What a schema reads of a value is the value itself or new. -/
theorem read?_fresh {schema : Schema} {u : Value} (h : read? classes schema v = some u) :
    u = v ∨ u.place? = none := by
  obtain ⟨⟨_, grade⟩, hreading, rfl⟩ := Option.map_eq_some_iff.mp h
  exact readWith_isFresh (readRecordWith_isFresh _) schema _ grade hreading

end Schema

end Memberwise
