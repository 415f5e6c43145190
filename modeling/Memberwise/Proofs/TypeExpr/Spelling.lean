import Memberwise.Member
import Memberwise.Proofs.Class.Outline
import Memberwise.Proofs.TypeExpr.Flat

/-! # Spellings of a type

A reference may be absent, so it is the same kind with an option and without; an option of a value
kind is a kind of its own.  Either option can be written in words or with a bar.
-/

namespace Memberwise

open TypeExpr

/-! ## Keys of types -/

namespace Classes

variable {t : TypeExpr}

theorem isValueKind_normalize (classes : Classes) (h : t.IsFlat) :
    classes.isValueKind t.normalize = classes.isValueKind t := by
  unfold isValueKind
  rw [unwrapOptional_normalize h]

theorem isValueKind_unwrapOptional (classes : Classes) (h : t.IsFlat) :
    classes.isValueKind t.unwrapOptional = classes.isValueKind t := by
  unfold isValueKind
  rw [unwrapOptional_unwrapOptional h]

/-- A member has the key of the type that was stated for it. -/
theorem keyType_normalize (classes : Classes) (h : t.IsFlat) :
    classes.keyType t.normalize = classes.keyType t := by
  unfold keyType
  rw [isValueKind_normalize classes h, normalize_normalize h, unwrapOptional_normalize h]

/-- A key is its own key. -/
theorem keyType_keyType (classes : Classes) (h : t.IsFlat) :
    classes.keyType (classes.keyType t) = classes.keyType t := by
  cases hkind : classes.isValueKind t with
  | true =>
      have hkey : classes.keyType t = t.normalize := by simp [keyType, hkind]
      rw [hkey, keyType_normalize classes h, hkey]
  | false =>
      have hkey : classes.keyType t = t.unwrapOptional := by simp [keyType, hkind]
      have hsame : t.unwrapOptional.unwrapOptional = t.unwrapOptional := by
        cases unwraps h with
        | plain hsame => rw [hsame, hsame]
        | option hsingle => exact unwrapOptional_of_not_isUnion hsingle
      rw [hkey, keyType, isValueKind_unwrapOptional classes h, hkind]
      exact hsame

end Classes

namespace TypeExpr

variable {classes : Classes} {t t' u x : TypeExpr}

/-! ## Options -/

/-- The spellings of a kind: a reference as it stands, and the option of either kind, in words or
with a bar. -/
inductive Spells (classes : Classes) (u : TypeExpr) : TypeExpr → Prop
  | bare (reference : classes.isValueKind u = false) : Spells classes u u
  | words : Spells classes u (optional u)
  | bar : Spells classes u (bar u .noneType)

/-- Whether two types are spellings of one kind, which is no union, no form for the attributes of a
class and not the bare base of the generic classes. -/
def SameKind (classes : Classes) (t t' : TypeExpr) : Prop :=
  ∃ u, u.isUnion = false ∧ u.outline = .any ∧ u.isGenericBase = false ∧ Spells classes u t ∧
    Spells classes u t'

/-- A spelling is the kind itself, a reference, or the union of the kind with the absent value. -/
theorem Spells.shape (h : Spells classes u t) (hu : u.isUnion = false) :
    (t = u ∧ classes.isValueKind u = false) ∨
      u.isNoneType = false ∧ ∃ style, t = .union style [u, noneType] := by
  have hoption : ∀ style, (unionOf style [u, noneType] = u ∧ classes.isValueKind u = false) ∨
      u.isNoneType = false ∧ ∃ style', unionOf style [u, noneType] = .union style' [u, noneType] := by
    intro style
    cases hn : u.isNoneType with
    | true =>
        obtain rfl := eq_noneType_of_isNoneType hn
        have hsame : same noneType noneType = true := same_refl _
        exact .inl ⟨by simp [unionOf, unionMembers, dedup, hsame], rfl⟩
    | false => exact .inr ⟨rfl, style, unionOf_pair style hu hn⟩
  cases h with
  | bare reference => exact .inl ⟨rfl, reference⟩
  | words => exact hoption .named
  | bar => exact hoption _

theorem isOptional_pair (style : UnionStyle) : (union style [u, noneType]).isOptional = true := by
  have hnone : noneType.isNoneType = true := rfl
  simp [isOptional, hnone]

/-- Every spelling unwraps to its kind. -/
theorem Spells.unwrapOptional (h : Spells classes u t) (hu : u.isUnion = false) :
    t.unwrapOptional = u := by
  rcases h.shape hu with ⟨rfl, -⟩ | ⟨hn, style, rfl⟩
  · exact unwrapOptional_of_not_isUnion hu
  · exact unwrapOptional_pair hn

theorem Spells.isFlat (h : Spells classes u t) (hu : u.isUnion = false) : t.IsFlat := by
  rcases h.shape hu with ⟨rfl, -⟩ | ⟨hn, style, rfl⟩
  · exact isFlat_of_not_isUnion hu
  · exact isFlat_pair hu hn

/-- A value kind is spelled with an option only. -/
theorem Spells.isOptional (h : Spells classes u t) (hu : u.isUnion = false)
    (hkind : classes.isValueKind u = true) : t.isOptional = true := by
  rcases h.shape hu with ⟨-, hreference⟩ | ⟨-, style, rfl⟩
  · rw [hkind] at hreference
    cases hreference
  · exact isOptional_pair style

theorem Spells.outline (h : Spells classes u t) (hu : u.isUnion = false) (ho : u.outline = .any) :
    t.outline = .any := by
  rcases h.shape hu with ⟨rfl, -⟩ | ⟨-, style, rfl⟩
  · exact ho
  · rfl

/-! ## Interchangeable types -/

/-- Whether types are the same but for an option, and the same in this too if they are value
kinds. -/
structure Interchangeable (classes : Classes) (t t' : TypeExpr) : Prop where
  unwrapped : t'.unwrapOptional = t.unwrapOptional
  optional : classes.isValueKind t = true → t'.isOptional = t.isOptional
  spelled : t'.normalize?.isSome = t.normalize?.isSome
  flat : t.IsFlat
  flat' : t'.IsFlat

theorem Interchangeable.refl (h : t.IsFlat) : Interchangeable classes t t :=
  ⟨rfl, fun _ => rfl, rfl, h, h⟩

/-- A type has a normal spelling, unless it is the option of the bare base of the generic
classes. -/
theorem isSome_normalize? (t : TypeExpr) :
    t.normalize?.isSome = !(t.isWrapped && t.unwrapOptional.isGenericBase) := by
  unfold normalize?
  cases t.isWrapped && t.unwrapOptional.isGenericBase <;> rfl

theorem isWrapped_normalize (h : t.IsFlat) : t.normalize.isWrapped = t.isWrapped := by
  cases unwraps h with
  | plain _ _ hnormal => rw [hnormal]
  | option _ hpresent _ hwrapped hnormal =>
      have hnone : noneType.isNoneType = true := rfl
      rw [hnormal, hwrapped]
      simp [isWrapped, hpresent, hnone]

theorem isSome_normalize?_normalize (h : t.IsFlat) :
    t.normalize.normalize?.isSome = t.normalize?.isSome := by
  rw [isSome_normalize?, isSome_normalize?, isWrapped_normalize h, unwrapOptional_normalize h]

theorem isOptional_of_not_isUnion (h : t.isUnion = false) : t.isOptional = false := by
  cases t with
  | union => cases h
  | _ => rfl

/-- The normal spelling of a type is an option just if the type is. -/
theorem isOptional_normalize (h : t.IsFlat) : t.normalize.isOptional = t.isOptional := by
  cases unwraps h with
  | plain _ _ hnormal => rw [hnormal]
  | option _ _ hoptional _ hnormal => rw [hnormal, hoptional, isOptional_pair]

/-- A reference falls back on none, in every spelling. -/
theorem defaultValue_of_reference (h : classes.isValueKind t = false) :
    classes.defaultValue t = .none := by
  unfold Classes.defaultValue
  split
  · rfl
  · rename_i hoptional
    unfold Classes.isValueKind at h
    rw [unwrapOptional_of_not_isOptional (Bool.eq_false_iff.mpr hoptional)] at h
    split
    · rename_i c hclass
      rw [hclass] at h
      have hvalue : classes.isValueClass c = false := h
      rw [hvalue]
      rfl
    · rfl

namespace Interchangeable

variable (h : Interchangeable classes t t')

include h

theorem isValueKind : classes.isValueKind t' = classes.isValueKind t := by
  unfold Classes.isValueKind
  rw [h.unwrapped]

theorem normalize_eq (hkind : classes.isValueKind t = true) : t'.normalize = t.normalize := by
  have hoptional := h.optional hkind
  have hunwrapped := h.unwrapped
  cases unwraps h.flat with
  | plain hsame _ hnormal =>
      cases unwraps h.flat' with
      | plain hsame' _ hnormal' => rw [hnormal, hnormal', ← hsame', hunwrapped, hsame]
      | option hsingle _ hoption =>
          rw [hunwrapped, hsame] at hsingle
          rw [hoption, isOptional_of_not_isUnion hsingle] at hoptional
          cases hoptional
  | option hsingle _ hoption _ hnormal =>
      cases unwraps h.flat' with
      | plain hsame' =>
          rw [← hunwrapped, hsame'] at hsingle
          rw [hoption, isOptional_of_not_isUnion hsingle] at hoptional
          cases hoptional
      | option _ _ _ _ hnormal' => rw [hnormal, hnormal', hunwrapped]

theorem keyType : classes.keyType t' = classes.keyType t := by
  unfold Classes.keyType
  rw [h.isValueKind, h.unwrapped]
  split
  · rename_i hkind
    exact h.normalize_eq hkind
  · rfl

theorem defaultValue : classes.defaultValue t' = classes.defaultValue t := by
  cases hkind : classes.isValueKind t with
  | false => rw [defaultValue_of_reference hkind, defaultValue_of_reference (h.isValueKind.trans hkind)]
  | true =>
      have hoptional := h.optional hkind
      unfold Classes.defaultValue
      rw [hoptional]
      split
      · rfl
      · rename_i hplain
        have hplain : t.isOptional = false := Bool.eq_false_iff.mpr hplain
        have hsame : t' = t := by
          rw [← unwrapOptional_of_not_isOptional (hoptional.trans hplain), h.unwrapped,
            unwrapOptional_of_not_isOptional hplain]
        rw [hsame]

theorem normalize : Interchangeable classes t.normalize t'.normalize where
  unwrapped := by
    rw [unwrapOptional_normalize h.flat, unwrapOptional_normalize h.flat', h.unwrapped]
  optional := by
    rw [isOptional_normalize h.flat, isOptional_normalize h.flat',
      classes.isValueKind_normalize h.flat]
    exact h.optional
  spelled := by
    rw [isSome_normalize?_normalize h.flat, isSome_normalize?_normalize h.flat', h.spelled]
  flat := isFlat_normalize h.flat
  flat' := isFlat_normalize h.flat'

end Interchangeable

theorem SameKind.interchangeable (h : SameKind classes t t') : Interchangeable classes t t' := by
  obtain ⟨u, hu, -, hbase, ht, ht'⟩ := h
  refine ⟨?_, fun hkind => ?_, ?_, ht.isFlat hu, ht'.isFlat hu⟩
  · rw [ht.unwrapOptional hu, ht'.unwrapOptional hu]
  · have hvalue : classes.isValueKind u = true := by
      unfold Classes.isValueKind at hkind ⊢
      rwa [unwrapOptional_of_not_isUnion hu, ← ht.unwrapOptional hu]
    rw [ht.isOptional hu hvalue, ht'.isOptional hu hvalue]
  · rw [isSome_normalize?, isSome_normalize?, ht.unwrapOptional hu, ht'.unwrapOptional hu, hbase,
      Bool.and_false, Bool.and_false]

/-! ## Annotations -/

/-- Whether two annotations are spellings of one kind once the texts in them are read, with the
notes that they carry and without, or fail in the same way. -/
inductive Respelled (classes : Classes) : TypeExpr → TypeExpr → Prop
  | same (t : TypeExpr) : Respelled classes t t
  | kind {t t' x x' : TypeExpr} (hint : t.resolveTop classes = .ok x)
      (hint' : t'.resolveTop classes = .ok x') (noted : SameKind classes x x')
      (alike : SameKind classes x.stripNotes x'.stripNotes) : Respelled classes t t'
  | unknown {t t' : TypeExpr} {fault : TextFault} (outline : t'.outline = t.outline)
      (missing : t.resolveTop classes = .error fault)
      (missing' : t'.resolveTop classes = .error fault) : Respelled classes t t'

theorem resolve_of_resolveTop (h : t.resolveTop classes = .ok x) :
    t.resolve classes = .ok x.stripNotes := by
  unfold resolve
  rw [h]
  rfl

theorem resolve_of_missing {fault : TextFault} (h : t.resolveTop classes = .error fault) :
    t.resolve classes = .error fault := by
  unfold resolve
  rw [h]
  rfl

/-- The option of a class is found again once its name is looked up, in words or with a bar. -/
theorem spells_unionIn (c : ClassRef) (style : UnionStyle) :
    Spells classes (.cls c) (unionIn style [.cls c, noneType]) := by
  cases style with
  | named => exact .words
  | bar => exact .bar

/-- All spellings of a class are spellings of each other. -/
theorem Respelled.of_spells {c : ClassRef} (hbase : (cls c).isGenericBase = false)
    (h : Spells classes (.cls c) t) (h' : Spells classes (.cls c) t') :
    Respelled classes t t' := by
  have hresolves : ∀ {t}, Spells classes (.cls c) t → ∃ x, t.resolveTop classes = .ok x ∧
      Spells classes (.cls c) x ∧ Spells classes (.cls c) x.stripNotes := by
    intro t h
    have hstripped : ∀ {x}, Spells classes (.cls c) x → Spells classes (.cls c) x.stripNotes := by
      intro x hx
      rcases hx.shape rfl with ⟨rfl, hreference⟩ | ⟨-, style, rfl⟩
      · exact .bare hreference
      · exact spells_unionIn c style
    rcases h.shape rfl with ⟨rfl, hreference⟩ | ⟨-, style, rfl⟩
    · exact ⟨_, rfl, .bare hreference, .bare hreference⟩
    · exact ⟨_, rfl, spells_unionIn c style, hstripped (spells_unionIn c style)⟩
  obtain ⟨x, hx, hspells, hstripped⟩ := hresolves h
  obtain ⟨x', hx', hspells', hstripped'⟩ := hresolves h'
  exact .kind hx hx' ⟨.cls c, rfl, rfl, hbase, hspells, hspells'⟩
    ⟨.cls c, rfl, rfl, hbase, hstripped, hstripped'⟩

/-- What is no form for the attributes of a class once names are looked up was none before. -/
theorem outline_of_resolve (h : t.resolve classes = .ok x) (hx : x.outline = .any) :
    t.outline = .any := by
  cases t with
  | special f =>
      obtain rfl : special f = x := Except.ok.inj h
      exact hx
  | initOnly mark inner =>
      obtain rfl : initOnly mark inner = x := Except.ok.inj h
      exact hx
  | applied head args =>
      cases head with
      | form f =>
          obtain ⟨resolved, hresolved, rfl⟩ := map_eq_ok.mp h
          obtain ⟨others, -, hothers⟩ := bind_eq_ok.mp hresolved
          obtain rfl : applied (.form f) others = resolved := Except.ok.inj hothers
          cases f <;> first | rfl | cases hx
      | _ => rfl
  | _ => rfl

theorem SameKind.outline (h : SameKind classes t t') : t.outline = .any ∧ t'.outline = .any := by
  obtain ⟨u, hu, ho, -, ht, ht'⟩ := h
  exact ⟨ht.outline hu ho, ht'.outline hu ho⟩

/-- An annotation says the same besides the type in every spelling. -/
theorem Respelled.outline (h : Respelled classes t t') : t'.outline = t.outline := by
  cases h with
  | same => rfl
  | kind hint hint' _ alike =>
      obtain ⟨hx, hx'⟩ := alike.outline
      rw [outline_of_resolve (resolve_of_resolveTop hint) hx,
        outline_of_resolve (resolve_of_resolveTop hint') hx']
  | unknown outline => exact outline

theorem Respelled.isClassVariable (h : Respelled classes t t') :
    t'.isClassVariable = t.isClassVariable := by
  rw [← isClassVariable_outline, h.outline, isClassVariable_outline]

/-- Whether two hints are interchangeable, and class variables both or neither. -/
structure SameHint (classes : Classes) (t t' : TypeExpr) : Prop
    extends Interchangeable classes t t' where
  marked : t' = t ∨ t.isClassVariable = false ∧ t'.isClassVariable = false

theorem isClassVariable_of_outline (h : t.outline = .any) : t.isClassVariable = false := by
  rw [← isClassVariable_outline, h]
  rfl

/-- The hints of two spellings are interchangeable. -/
theorem Respelled.hints (h : Respelled classes t t') :
    Agree (SameHint classes) (t.resolve classes) (t'.resolve classes) := by
  cases h with
  | same =>
      cases hint : t.resolve classes with
      | ok x => exact .ok ⟨.refl (isFlat_resolve hint), .inl rfl⟩
      | error fault => exact .error fault
  | kind hint hint' _ alike =>
      obtain ⟨hx, hx'⟩ := alike.outline
      rw [resolve_of_resolveTop hint, resolve_of_resolveTop hint']
      exact .ok ⟨alike.interchangeable,
        .inr ⟨isClassVariable_of_outline hx, isClassVariable_of_outline hx'⟩⟩
  | unknown _ missing missing' =>
      rw [resolve_of_missing missing, resolve_of_missing missing']
      exact .error _

end TypeExpr

end Memberwise
