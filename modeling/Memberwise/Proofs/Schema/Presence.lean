import Memberwise.Proofs.Member.ValueKind
import Memberwise.Schema.Reading

/-! # Readings that are present

No schema reads the absent value from a value that does not stand for it, as long as integers are
read as integers.  For a member of an enumeration the reading of an integer is the value of the
member, whatever that is.
-/

namespace Memberwise.Schema

/-- Whether the schema of a class makes an instance of the class of a value, if it reads it. -/
def ReadsInstance (classes : Classes) (c : ClassRef) (v : Value) : Prop :=
  ∀ schema result, describe? classes (.cls c) = some schema →
    read? classes schema v = some result → classes.isInstance result c = true

/-- Whether a value stands for the absent value: it is that value, wraps it, or is a member of an
enumeration of scalars with that value. -/
def StandsForNone (classes : Classes) (v : Value) : Prop := classes.scalarOf? v = some .none

variable {classes : Classes} {v : Value}

theorem isNone_of_not_standsForNone (h : ¬ StandsForNone classes v) : v.isNone = false := by
  refine Bool.eq_false_iff.mpr fun hnone => h ?_
  rw [Value.eq_none_of_isNone hnone]
  rfl

/-- Whether what is read, if anything is, is present. -/
def IsPresent {ε : Type} (reading : Option (Value × ε)) : Prop :=
  ∀ v e, reading = some (v, e) → v.isNone = false

section IsPresent

variable {ε α : Type} {e : ε}

@[simp]
theorem isPresent_none : IsPresent (none : Option (Value × ε)) := nofun

@[simp]
theorem isPresent_some : IsPresent (some (v, e)) ↔ v.isNone = false := by
  simp [IsPresent]

theorem isPresent_bind {o : Option α} {f : α → Option (Value × ε)} (h : ∀ a, IsPresent (f a)) :
    IsPresent (o.bind f) := by
  cases o with
  | none => exact isPresent_none
  | some a => exact h a

end IsPresent

/-! ## Scalars -/

section Graded

variable {e : Exactness}

theorem isNone_atom {a : Atom} : (Value.atom a).isNone = false ↔ a ≠ .none := by
  cases a <;> simp [Value.isNone]

@[simp]
theorem isPresent_graded {a : Atom} : IsPresent (graded e a) ↔ a ≠ .none :=
  isPresent_some.trans isNone_atom

@[simp]
theorem isPresent_map {α : Type} {o : Option α} {f : α → Atom} :
    IsPresent (o.map fun x => (.atom (f x), e)) ↔ o.map f ≠ some .none := by
  cases o <;> simp [isNone_atom]

@[simp]
theorem isPresent_lax {o : Option Atom} : IsPresent (lax o) ↔ o ≠ some .none := by
  cases o <;> simp [lax, isNone_atom]

end Graded

@[simp]
theorem finiteDecimal?_ne_none (d : Decimal) : finiteDecimal? d ≠ some .none := by
  cases d <;> simp [finiteDecimal?]

/-- The schema of the class of integers reads an integer. -/
theorem describe?_int : describe? classes (.builtin .int) = some (.scalar .int) := by
  rfl

/-- The readings of a scalar are scalars of its type, but for those of integers. -/
theorem readScalar_isPresent (hint : ReadsInstance classes (.builtin .int) v) (type : ScalarType) :
    IsPresent (readScalar classes type v) := by
  cases type with
  | int =>
      intro result e hreading
      have hresult : read? classes (.scalar .int) v = some result := by
        simp only [read?, readWithin, readWith, ofGraded, hreading]
        rfl
      exact Classes.isNone_of_isInstance rfl (hint _ _ describe?_int hresult)
  | bool =>
      simp only [readScalar, readAsBool]
      repeat' split
      all_goals simp [Option.bind_eq_some_iff]
  | float =>
      simp only [readScalar, readAsFloat]
      repeat' split
      all_goals simp
  | complex =>
      simp only [readScalar, readAsComplex]
      repeat' split
      all_goals simp
  | str =>
      simp only [readScalar, readAsStr]
      repeat' split
      all_goals simp [Option.bind_eq_some_iff]
  | bytes =>
      simp only [readScalar, readAsBytes]
      repeat' split
      all_goals simp
  | decimal =>
      simp only [readScalar, readAsDecimal]
      repeat' split
      all_goals simp [Option.bind_eq_some_iff]
  | date =>
      simp only [readScalar, readAsDate]
      repeat' split
      all_goals simp
  | datetime =>
      simp only [readScalar, readAsMoment]
      repeat' split
      all_goals simp [Option.bind_eq_some_iff]
  | time =>
      simp only [readScalar, readAsTime]
      repeat' split
      all_goals simp [Option.bind_eq_some_iff]
  | timedelta =>
      simp only [readScalar, readAsDuration]
      repeat' split
      all_goals simp [Option.bind_eq_some_iff]
  | uuid =>
      simp only [readScalar, readAsUuid]
      repeat' split
      all_goals simp

/-! ## Listed values -/

theorem eq_none_of_token {a : Atom} (h : a.token = .none) : a = .none := by
  cases a with
  | none => rfl
  | datetime m =>
      simp only [Atom.token] at h
      split at h <;> cases h
  | time t =>
      simp only [Atom.token] at h
      split at h <;> cases h
  | _ => cases h

/-- Only what stands for the absent value is equal to it. -/
theorem standsForNone_of_keyOf? (h : classes.keyOf? v = some [.none]) : StandsForNone classes v := by
  cases v with
  | atom a =>
      rw [StandsForNone]
      unfold Classes.keyOf? at h
      split at h
      · cases h
      · rename_i b hscalar
        obtain rfl := eq_none_of_token (by simpa using h)
        exact hscalar
      · rename_i hscalar
        obtain rfl := eq_none_of_token (by simpa using h)
        cases hscalar
  | seq place kind items =>
      cases kind with
      | list | set | deque | bytearray => cases h
      | bag | iterator => cases h
      | tuple | frozenset =>
          obtain ⟨keys, -, hkeys⟩ := Option.map_eq_some_iff.mp h
          cases hkeys
  | dict place entries => cases h
  | object place className core attributes =>
      cases core with
      | some core =>
          unfold Classes.keyOf? at h
          split at h
          · cases h
          · obtain rfl := eq_none_of_token (by simpa using h)
            rfl
      | none =>
          unfold Classes.keyOf? at h
          split at h
          · cases h
          · cases h
          · obtain ⟨keys, -, hkeys⟩ := Option.map_eq_some_iff.mp h
            cases hkeys

theorem readLiteral_isPresent (hv : ¬ StandsForNone classes v) (values : List Atom) :
    IsPresent (readLiteral classes values v) := by
  intro result e hreading
  obtain ⟨key, hkey, hread⟩ := Option.bind_eq_some_iff.mp hreading
  obtain ⟨a, ha, hresult⟩ := Option.map_eq_some_iff.mp hread
  cases hresult
  have hmem : a ∈ (values.filter fun a => (classes.keyOf? (.atom a)).any (sameKey key)).reverse := by
    rcases Option.or_eq_some_iff.mp ha with hfound | ⟨-, hhead⟩
    · exact List.mem_of_find?_eq_some hfound
    · exact List.mem_of_mem_head? hhead
  have hequal : (classes.keyOf? (.atom a)).any (sameKey key) = true :=
    (List.mem_filter.mp (List.mem_reverse.mp hmem)).2
  refine isNone_atom.mpr ?_
  rintro rfl
  have hnone : classes.keyOf? .none = some [.none] := rfl
  rw [hnone, Option.any_some, sameKey, Bool.and_eq_true, beq_iff_eq] at hequal
  rw [hequal.1] at hkey
  exact hv (standsForNone_of_keyOf? hkey)

theorem readMember_isPresent (hv : v.isNone = false) (enumeration : String) :
    IsPresent (readMember classes enumeration v) := by
  unfold readMember
  split
  · exact isPresent_some.mpr hv
  · simp

/-! ## Schemas -/

theorem ofGraded_isPresent {g : Graded} (h : IsPresent g) : IsPresent (ofGraded g) := by
  cases g with
  | none => exact isPresent_none
  | some reading => exact isPresent_some.mpr (h reading.1 reading.2 rfl)

theorem betterOf_isPresent {best : Reading} {new : Value × Grade} (hbest : IsPresent best)
    (hnew : new.1.isNone = false) : IsPresent (betterOf best new) := by
  unfold betterOf
  split
  · exact isPresent_some.mpr hnew
  · split
    · exact isPresent_some.mpr hnew
    · exact hbest

/-- A record is read from a value of its class or from a mapping, which becomes an object. -/
theorem readRecordWith_isPresent (hv : v.isNone = false) (read : Schema → Value → Reading)
    (name : String) : IsPresent (readRecordWith classes read name v) := by
  unfold readRecordWith
  dsimp only
  split
  · exact isPresent_some.mpr hv
  · split
    · split
      · refine isPresent_bind fun fields => ?_
        split
        · exact isPresent_some.mpr rfl
        · exact isPresent_some.mpr rfl
        · split
          · exact isPresent_some.mpr rfl
          · exact isPresent_none
      · exact isPresent_bind fun fields => isPresent_some.mpr rfl
    · exact isPresent_none

theorem readSequence_isPresent (read : Value → Reading) : IsPresent (readSequence read v) := by
  unfold readSequence
  split
  · split
    · exact isPresent_bind fun items => isPresent_some.mpr rfl
    · exact isPresent_bind fun items => isPresent_some.mpr rfl
    · exact isPresent_bind fun items => isPresent_some.mpr rfl
    · exact isPresent_none
  · exact isPresent_none
  · exact isPresent_none
  · exact isPresent_none

mutual

theorem readWith_isPresent (hv : ¬ StandsForNone classes v)
    (hint : ReadsInstance classes (.builtin .int) v) {readRecord : String → Value → Reading}
    (hrecord : ∀ name, IsPresent (readRecord name v)) :
    (schema : Schema) → IsPresent (readWith classes readRecord schema v)
  | .any => isPresent_some.mpr (isNone_of_not_standsForNone hv)
  | .absent => by
    unfold readWith
    rw [isNone_of_not_standsForNone hv]
    exact isPresent_none
  | .scalar type => ofGraded_isPresent (readScalar_isPresent hint type)
  | .enumeration name =>
    ofGraded_isPresent (readMember_isPresent (isNone_of_not_standsForNone hv) name)
  | .literal values => ofGraded_isPresent (readLiteral_isPresent hv values)
  | .nullable inner => by
    unfold readWith
    rw [isNone_of_not_standsForNone hv]
    exact readWith_isPresent hv hint hrecord inner
  | .union members => readBest_isPresent hv hint hrecord isPresent_none members
  | .list _ | .deque _ | .tupleOf _ => isPresent_bind fun _ => isPresent_some.mpr rfl
  | .set _ | .frozenset _ => isPresent_bind fun _ => isPresent_bind fun _ => isPresent_some.mpr rfl
  | .tuple _ | .iterable _ => isPresent_bind fun _ => isPresent_bind fun _ => isPresent_some.mpr rfl
  | .dict _ _ => by
    unfold readWith
    split
    · exact isPresent_bind fun _ => isPresent_some.mpr rfl
    · exact isPresent_none
  | .sequence _ => readSequence_isPresent _
  | .record name | .model name => hrecord name
  | .instanceOf c => by
    unfold readWith
    split
    · exact isPresent_some.mpr (isNone_of_not_standsForNone hv)
    · exact isPresent_none

/-- The best of readings that are present is present. -/
theorem readBest_isPresent (hv : ¬ StandsForNone classes v)
    (hint : ReadsInstance classes (.builtin .int) v) {readRecord : String → Value → Reading}
    (hrecord : ∀ name, IsPresent (readRecord name v)) {best : Reading} (hbest : IsPresent best) :
    (schemas : List Schema) → IsPresent (readBest classes readRecord best schemas v)
  | [] => hbest
  | schema :: rest => by
    have hfirst := readWith_isPresent hv hint hrecord schema
    unfold readBest
    split
    · exact readBest_isPresent hv hint hrecord hbest rest
    · rename_i heq
      have hnew := hfirst _ _ heq
      split
      · exact isPresent_some.mpr hnew
      · exact readBest_isPresent hv hint hrecord (betterOf_isPresent hbest hnew) rest

end

/-- What is read from a value that does not stand for the absent value is present. -/
theorem read?_isNone (hv : ¬ StandsForNone classes v)
    (hint : ReadsInstance classes (.builtin .int) v) {schema : Schema} {result : Value}
    (h : read? classes schema v = some result) : result.isNone = false := by
  obtain ⟨⟨_, grade⟩, hreading, rfl⟩ := Option.map_eq_some_iff.mp h
  have hrecord : ∀ name,
      IsPresent (readRecordWith classes (readWithin classes v.depth) name v) := fun name =>
    readRecordWith_isPresent (isNone_of_not_standsForNone hv) _ name
  exact readWith_isPresent hv hint hrecord schema _ grade hreading

end Memberwise.Schema
