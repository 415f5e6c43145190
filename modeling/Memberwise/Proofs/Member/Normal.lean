import Memberwise.Proofs.Member.ValueKind
import Memberwise.Proofs.Plan.Direct
import Memberwise.Proofs.TypeExpr.Written

/-! # Reading a stated type

A member is described by a type in its normal spelling and by the type without its option, and it is
found by its key.  To read any of these once more changes nothing, types that are the same are read
alike, and the key of a value kind tells its class and its option, and nothing else.
-/

namespace Memberwise

open TypeExpr

namespace TypeExpr

variable {s t : TypeExpr}

/-! ## What the same types have in common -/

theorem isOptional_of_same (h : Same s t) : t.isOptional = s.isOptional := by
  have hsome : ∀ {a b : TypeExpr}, Same a b → a.isOptional = true → b.isOptional = true := by
    intro a b hab hoptional
    cases a with
    | union style members =>
        obtain ⟨style', others, rfl, hmatch⟩ := same_union_iff.mp hab
        obtain ⟨absent, habsent, hnone⟩ := List.any_eq_true.mp hoptional
        obtain ⟨other, hother, hsame⟩ := hmatch.left absent habsent
        exact List.any_eq_true.mpr ⟨other, hother, (isNoneType_of_same hsame).trans hnone⟩
    | _ => cases hoptional
  exact Bool.eq_iff_iff.mpr ⟨hsome (same_symm h), hsome h⟩

theorem originClass?_of_same (h : Same s t) : t.originClass? = s.originClass? := by
  cases s with
  | cls | special | generic | forward | ellipsis => rw [(same_plain_iff rfl).mp h]
  | applied head args =>
      obtain ⟨others, rfl, -⟩ := same_applied_iff.mp h
      cases head <;> rfl
  | union style members =>
      obtain ⟨style', others, rfl, -⟩ := same_union_iff.mp h
      rfl
  | literal values =>
      obtain ⟨others, rfl, -⟩ := same_literal_iff.mp h
      rfl
  | annotated inner =>
      obtain ⟨other, rfl, -⟩ := same_annotated_iff.mp h
      rfl
  | initOnly mark inner =>
      obtain ⟨other, rfl⟩ := same_initOnly_iff.mp h
      rfl
  | value v =>
      obtain ⟨other, rfl, -⟩ := same_value_iff.mp h
      rfl

theorem plainClass?_of_same (h : Same s t) : t.plainClass? = s.plainClass? := by
  have hclass : ∀ {a b : TypeExpr} {c : ClassRef}, Same a b → a.plainClass? = some c →
      b.plainClass? = some c := by
    intro a b c hab ha
    obtain rfl := plainClass?_eq_some ha
    rwa [(same_plain_iff rfl).mp hab]
  cases hs : s.plainClass? with
  | some c => exact hclass h hs
  | none =>
      cases ht : t.plainClass? with
      | none => rfl
      | some c =>
          rw [hclass (same_symm h) ht] at hs
          cases hs

/-- The mark for tuples of any length is the same as itself only. -/
theorem eq_marked_of_forall₂ {a : TypeExpr} {types : List TypeExpr}
    (h : List.Forall₂ Same [a, ellipsis] types) : ∃ b, types = [b, ellipsis] ∧ Same a b := by
  cases h with
  | @cons _ b _ _ hab hrest =>
      cases hrest with
      | cons hmark hnil =>
          cases hnil
          rw [(same_plain_iff rfl).mp hmark]
          exact ⟨b, rfl, hab⟩

theorem same_of_same_normalize (hs : s.IsFlat) (ht : t.IsFlat) (h : Same s t) :
    Same s.normalize t.normalize :=
  same_trans (same_normalize hs) (same_trans h (same_symm (same_normalize ht)))

end TypeExpr

namespace Classes

variable {classes : Classes} {s t : TypeExpr}

theorem isCollectionType_of_same (h : Same s t) :
    classes.isCollectionType t = classes.isCollectionType s := by
  unfold isCollectionType
  rw [originClass?_of_same h]

theorem collectionArgs_of_not_isCollectionType (h : classes.isCollectionType t = false) :
    classes.collectionArgs t = [] := by
  rw [collectionArgs, if_neg (Bool.eq_false_iff.mp h)]

/-- Arguments that are the same are read alike, the mark for tuples of any length being in both
lists or in neither. -/
theorem collectionArgs_applied (head : Head) {args others : List TypeExpr}
    (hargs : List.Forall₂ Same args others) :
    List.Forall₂ Same (classes.collectionArgs (.applied head args))
      (classes.collectionArgs (.applied head others)) := by
  have hsame : ∀ types : List TypeExpr,
      (applied head types).originClass? = (applied head args).originClass? := by
    intro types
    cases head <;> rfl
  unfold collectionArgs isCollectionType
  rw [hsame others]
  split_ifs
  · split
    · rename_i a htuple hmarked
      have hargs' : args = [a, ellipsis] := hmarked
      obtain ⟨b, rfl, hab⟩ := eq_marked_of_forall₂ (hargs' ▸ hargs)
      rw [htuple]
      exact .cons hab .nil
    · rename_i hunmarked
      split
      · rename_i b htuple hmarked
        have hothers : others = [b, ellipsis] := hmarked
        obtain ⟨a, rfl, -⟩ :=
          eq_marked_of_forall₂ (hothers ▸ hargs.flip.imp fun _ _ => same_symm)
        exact absurd rfl (hunmarked a htuple)
      · exact hargs
  · exact .nil

/-- The arguments of collections that are the same type agree place by place. -/
theorem collectionArgs_of_same (h : Same s t) :
    List.Forall₂ Same (classes.collectionArgs s) (classes.collectionArgs t) := by
  have hnone : s.originClass? = none →
      List.Forall₂ Same (classes.collectionArgs s) (classes.collectionArgs t) := by
    intro horigin
    have hs : classes.isCollectionType s = false := by rw [isCollectionType, horigin]
    rw [collectionArgs_of_not_isCollectionType hs,
      collectionArgs_of_not_isCollectionType ((isCollectionType_of_same h).trans hs)]
    exact .nil
  cases s with
  | cls | generic =>
      rw [(same_plain_iff rfl).mp h]
      exact List.forall₂_same.mpr fun u _ => same_refl u
  | applied head args =>
      obtain ⟨others, rfl, hargs⟩ := same_applied_iff.mp h
      exact collectionArgs_applied head hargs
  | _ => exact hnone rfl

theorem isValueKind_of_same (hs : s.IsFlat) (ht : t.IsFlat) (h : Same s t) :
    classes.isValueKind t = classes.isValueKind s := by
  unfold isValueKind
  rw [plainClass?_of_same (same_unwrapOptional hs ht h)]

/-- Whether a type is a value kind is the same under its option. -/
theorem isValueKind_unwrapOptional_of_same (hs : s.IsFlat) (ht : t.IsFlat) (h : Same s t) :
    classes.isValueKind t.unwrapOptional = classes.isValueKind s.unwrapOptional := by
  rw [isValueKind_unwrapOptional classes hs, isValueKind_unwrapOptional classes ht,
    isValueKind_of_same hs ht h]

theorem keyType_of_same (hs : s.IsFlat) (ht : t.IsFlat) (h : Same s t) :
    Same (classes.keyType s) (classes.keyType t) := by
  unfold keyType
  rw [isValueKind_of_same hs ht h]
  split
  · exact same_of_same_normalize hs ht h
  · exact same_unwrapOptional hs ht h

/-- The key of a value kind tells the class and the option of every type that has it. -/
theorem same_keyType_iff (hs : s.IsFlat) (ht : t.IsFlat) (hkind : classes.isValueKind s = true) :
    Same (classes.keyType s) (classes.keyType t) ↔
      Same s.unwrapOptional t.unwrapOptional ∧ s.isOptional = t.isOptional := by
  constructor
  · intro h
    have hunderlying := Resolver.same_underlying_of_keyType hs ht h
    have hother := (Resolver.isValueKind_of_underlying hkind hunderlying).2
    have hnormal : Same s.normalize t.normalize := by
      rwa [keyType, keyType, if_pos hkind, if_pos hother] at h
    refine ⟨hunderlying, ?_⟩
    rw [← isOptional_normalize hs, ← isOptional_normalize ht, isOptional_of_same hnormal]
  · rintro ⟨hunderlying, hoptional⟩
    obtain ⟨hsame, hother⟩ := Resolver.isValueKind_of_underlying hkind hunderlying
    rw [Resolver.keyType_of_isValueKind hs hkind, Resolver.keyType_of_isValueKind ht hother, hsame,
      hoptional]
    exact same_refl _

end Classes

namespace Member

/-- Whether two members differ in the spelling of their types at most. -/
structure Resembles (m n : Member) : Prop where
  name : n.name = m.name
  declared : TypeExpr.Same m.declared n.declared
  underlying : TypeExpr.Same m.underlying n.underlying
  isValueKind : n.isValueKind = m.isValueKind
  isNullable : n.isNullable = m.isNullable
  isCollection : n.isCollection = m.isCollection
  typeArgs : List.Forall₂ TypeExpr.Same m.typeArgs n.typeArgs
  readable : n.readable = m.readable
  writable : n.writable = m.writable

variable {classes : Classes} {s t : TypeExpr}

/-- A member is described by its declared type as it is by the type that was stated for it. -/
theorem describe_declared (h : t.IsFlat) (name : String) (readable writable : Bool) :
    describe classes name (describe classes name t readable writable).declared readable writable =
      describe classes name t readable writable := by
  have hdeclared : (describe classes name t readable writable).declared = t.normalize := rfl
  rw [hdeclared]
  unfold describe
  rw [unwrapOptional_normalize h, normalize_normalize h, isOptional_normalize h]

theorem describe_resembles (hs : s.IsFlat) (ht : t.IsFlat) (h : TypeExpr.Same s t) (name : String)
    (readable writable : Bool) :
    Resembles (describe classes name s readable writable)
      (describe classes name t readable writable) where
  name := rfl
  declared := same_of_same_normalize hs ht h
  underlying := same_unwrapOptional hs ht h
  isValueKind := Classes.isValueKind_unwrapOptional_of_same hs ht h
  isNullable :=
    congrArg₂ and (Classes.isValueKind_unwrapOptional_of_same hs ht h) (isOptional_of_same h)
  isCollection := Classes.isCollectionType_of_same (same_unwrapOptional hs ht h)
  typeArgs := Classes.collectionArgs_of_same (same_unwrapOptional hs ht h)
  readable := rfl
  writable := rfl

end Member

/-! ## Types without a normal spelling -/

namespace TypeExpr

variable {s t u : TypeExpr}

theorem normalize?_eq_some_iff :
    t.normalize? = some u ↔ t.IsNormalizable ∧ t.normalize = u := by
  unfold IsNormalizable normalize?
  split
  · exact iff_of_false nofun fun h => Bool.false_ne_true h.1
  · rw [Option.some_inj]
    exact (and_iff_right rfl).symm

/-- Only an option of the bare base of the generic classes has no normal spelling. -/
theorem isNormalizable_iff (h : t.IsFlat) :
    t.IsNormalizable ↔ ¬ (t.isOptional = true ∧ t.unwrapOptional = .builtin .generic) := by
  have hbase : t.unwrapOptional.isGenericBase = true ↔ t.unwrapOptional = .builtin .generic := by
    unfold isGenericBase
    split
    · rename_i heq
      exact iff_of_true rfl heq
    · rename_i hne
      exact iff_of_false Bool.false_ne_true hne
  have hoption : t.isWrapped = true ∧ t.unwrapOptional = .builtin .generic ↔
      t.isOptional = true ∧ t.unwrapOptional = .builtin .generic := by
    refine and_congr_left fun hgeneric => ?_
    cases unwraps h with
    | plain hsame hwrapped =>
        rw [hwrapped, ← hsame, hgeneric]
        rfl
    | option _ _ hoptional hwrapped => rw [hwrapped, hoptional]
  rw [IsNormalizable, isSome_normalize?, Bool.not_eq_true', ← Bool.not_eq_true, Bool.and_eq_true,
    hbase, hoption]

theorem isNormalizable_normalize (h : t.IsFlat) (hnormal : t.IsNormalizable) :
    t.normalize.IsNormalizable :=
  (isSome_normalize?_normalize h).trans hnormal

/-- Of types that are the same both have a normal spelling, the same one, or neither has. -/
theorem normalize?_of_same (hs : s.IsFlat) (ht : t.IsFlat) (h : Same s t) :
    Option.Rel Same s.normalize? t.normalize? := by
  have hboth : s.IsNormalizable ↔ t.IsNormalizable := by
    rw [isNormalizable_iff hs, isNormalizable_iff ht, isOptional_of_same h]
    refine not_congr (and_congr_right fun _ => ?_)
    have hunwrapped := same_unwrapOptional hs ht h
    exact ⟨fun hgeneric => (same_plain_iff rfl).mp (hgeneric ▸ hunwrapped),
      fun hgeneric => (same_plain_iff rfl).mp (same_symm (hgeneric ▸ hunwrapped))⟩
  by_cases hnormal : s.IsNormalizable
  · rw [normalize?_eq_some_iff.mpr ⟨hnormal, rfl⟩,
      normalize?_eq_some_iff.mpr ⟨hboth.mp hnormal, rfl⟩]
    exact .some (same_of_same_normalize hs ht h)
  · rw [Option.not_isSome_iff_eq_none.mp hnormal,
      Option.not_isSome_iff_eq_none.mp (hnormal ∘ hboth.mpr)]
    exact .none

end TypeExpr

/-! ## Laws of reading -/

/-- Whether a type that was read can be read once more without a change.  All but options of the bare
base of the generic classes have a normal spelling and describe members. -/
structure Settled (classes : Classes) (t : TypeExpr) : Prop where
  unwrapOptional : t.unwrapOptional.unwrapOptional = t.unwrapOptional
  keyType : classes.keyType (classes.keyType t) = classes.keyType t
  isNormalizable :
    t.IsNormalizable ↔ ¬ (t.isOptional = true ∧ t.unwrapOptional = .builtin .generic)
  normalize {u : TypeExpr} (h : t.normalize? = some u) : u.normalize? = some u
  unwrapOptional_normalize {u : TypeExpr} (h : t.normalize? = some u) :
    u.unwrapOptional = t.unwrapOptional
  keyType_normalize {u : TypeExpr} (h : t.normalize? = some u) :
    classes.keyType u = classes.keyType t
  isSome_describe (name : String) (readable writable : Bool) :
    (Member.describe? classes name t readable writable).isSome = true ↔ t.IsNormalizable
  describe_declared (name : String) (readable writable : Bool) {m : Member}
    (h : Member.describe? classes name t readable writable = some m) :
    Member.describe? classes name m.declared readable writable = some m

/-- Whether the same is read of two types, spellings apart. -/
structure ReadAlike (classes : Classes) (s t : TypeExpr) : Prop where
  unwrapOptional : Same s.unwrapOptional t.unwrapOptional
  normalize : Option.Rel Same s.normalize? t.normalize?
  keyType : Same (classes.keyType s) (classes.keyType t)
  describe (name : String) (readable writable : Bool) :
    Option.Rel Member.Resembles (Member.describe? classes name s readable writable)
      (Member.describe? classes name t readable writable)

namespace Classes

variable {classes : Classes} {s t : TypeExpr}

theorem settled (h : t.IsFlat) : Settled classes t where
  unwrapOptional := unwrapOptional_unwrapOptional h
  keyType := keyType_keyType classes h
  isNormalizable := isNormalizable_iff h
  normalize hu := by
    obtain ⟨hnormal, rfl⟩ := normalize?_eq_some_iff.mp hu
    exact normalize?_eq_some_iff.mpr ⟨isNormalizable_normalize h hnormal, normalize_normalize h⟩
  unwrapOptional_normalize hu := by
    obtain ⟨-, rfl⟩ := normalize?_eq_some_iff.mp hu
    exact TypeExpr.unwrapOptional_normalize h
  keyType_normalize hu := by
    obtain ⟨-, rfl⟩ := normalize?_eq_some_iff.mp hu
    exact Classes.keyType_normalize classes h
  isSome_describe _ _ _ := by
    unfold Member.describe? IsNormalizable
    rw [Option.isSome_map]
  describe_declared name readable writable m hm := by
    obtain ⟨hnormal, rfl⟩ := Member.describe?_eq_some hm
    have hagain : (Member.describe classes name t readable writable).declared.IsNormalizable :=
      isNormalizable_normalize h hnormal
    rw [Member.describe?_eq hagain, Member.describe_declared h]

theorem readAlike (hs : s.IsFlat) (ht : t.IsFlat) (h : Same s t) : ReadAlike classes s t where
  unwrapOptional := same_unwrapOptional hs ht h
  normalize := normalize?_of_same hs ht h
  keyType := keyType_of_same hs ht h
  describe name readable writable := by
    have hmembers : Member.Resembles (Member.describe classes name s readable writable)
        (Member.describe classes name t readable writable) :=
      Member.describe_resembles hs ht h name readable writable
    have hspelled := normalize?_of_same hs ht h
    unfold Member.describe?
    generalize s.normalize? = normal at hspelled ⊢
    generalize t.normalize? = normal' at hspelled ⊢
    cases hspelled with
    | none => exact .none
    | some _ => exact .some hmembers

/-- Whatever annotations are written, a type that was read is read once more without a change, types
that are the same are read alike, and the key of a value kind tells its class and its option. -/
theorem reading_laws (hs : Written classes s) (ht : Written classes t) :
    Settled classes s ∧ (Same s t → ReadAlike classes s t) ∧
      (classes.isValueKind s = true → (Same (classes.keyType s) (classes.keyType t) ↔
        Same s.unwrapOptional t.unwrapOptional ∧ s.isOptional = t.isOptional)) :=
  ⟨settled hs.isFlat, readAlike hs.isFlat ht.isFlat, same_keyType_iff hs.isFlat ht.isFlat⟩

/-- A whole number or nothing, and nothing or a whole number. -/
theorem reading_laws_optional_int :
    Written [] (.union .bar [.builtin .int, .noneType]) ∧
      Written [] (.union .bar [.noneType, .builtin .int]) ∧
      Settled [] (.union .bar [.builtin .int, .noneType]) ∧
      ReadAlike [] (.union .bar [.builtin .int, .noneType])
        (.union .bar [.noneType, .builtin .int]) ∧
      Same (keyType [] (.union .bar [.builtin .int, .noneType]))
        (keyType [] (.union .bar [.noneType, .builtin .int])) := by
  have hint : Written [] (.builtin .int) := .cls _
  have hfirst : barUnion? [.builtin .int, .value .none] =
      some (.union .bar [.builtin .int, .noneType]) := by cbv
  have hlast : barUnion? [.value .none, .builtin .int] =
      some (.union .bar [.noneType, .builtin .int]) := by cbv
  have hs : Written [] (.union .bar [.builtin .int, .noneType]) :=
    .bars (List.forall_mem_cons.mpr ⟨hint, List.forall_mem_singleton.mpr (.value .none)⟩) hfirst
  have ht : Written [] (.union .bar [.noneType, .builtin .int]) :=
    .bars (List.forall_mem_cons.mpr ⟨.value .none, List.forall_mem_singleton.mpr hint⟩) hlast
  have hsame : Same (.union .bar [.builtin .int, .noneType])
      (.union .bar [.noneType, .builtin .int]) := by cbv
  obtain ⟨hsettled, hread, hkey⟩ := reading_laws hs ht
  exact ⟨hs, ht, hsettled, hread hsame, (hkey (by cbv)).mpr ⟨by cbv, by cbv⟩⟩

end Classes

end Memberwise
