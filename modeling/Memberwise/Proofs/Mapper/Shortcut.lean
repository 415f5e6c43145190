import Memberwise.Proofs.Conversion.Instance
import Memberwise.Proofs.Mapper.Collections
import Memberwise.Proofs.Mapper.Presence
import Memberwise.Proofs.Plan.Precedence

/-! # Copies that spare a conversion

Between members of one value kind nothing is converted: a value is copied as it is, and the absent
value gives way to a default.  A conversion into the type of the target would have come to the
same.
-/

namespace Memberwise

variable {classes : Classes} {c : ClassRef} {type : TypeExpr} {known : SchemaCache} {v : Value}

namespace Conversion

/-! ## Instances of value classes -/

/-- An instance of a value class is of the class already, unless it is a truth value and the class
that of integers. -/
theorem isConverted_or_bool (hc : classes.isValueClass c = true)
    (hv : classes.isInstance v c = true) :
    isConverted classes v (.cls c) = true ∨ ∃ b, v = .atom (.bool b) ∧ c = .builtin .int := by
  unfold isConverted
  rw [Classes.plainClass?_of_isValueClass hc]
  dsimp only
  split
  · exact .inr ⟨_, rfl, rfl⟩
  · exact .inl hv

theorem convertPresent_of_isConverted (htype : type.unwrapOptional = .cls c)
    (h : isConverted classes v (.cls c) = true) :
    convertPresent classes known v type = .ok v := by
  have hmeans : meansFor classes v (.cls c) = .none := by
    rw [meansFor, h, Bool.or_true, if_pos rfl]
  simp only [convertPresent, htype, hmeans]

theorem convertPresent_bool (htype : type.unwrapOptional = .builtin .int) (b : Bool) :
    convertPresent classes known (.atom (.bool b)) type =
      .ok (.atom (.int (if b then 1 else 0))) := by
  have hint : classes.scalarKind? (.builtin .int) = some .int := rfl
  have hscalar : classes.scalarIn? (.atom (.bool b)) = some (.bool b) := rfl
  have hmeans : meansFor classes (.atom (.bool b)) (.builtin .int) = .scalar .int (.bool b) := by
    rw [meansFor_cls hint, hscalar]
    rfl
  simp only [convertPresent, htype, hmeans, convertScalar, toInt]

end Conversion

namespace Classes

theorem zeroOf_eq_atom (classes : Classes) (c : ClassRef) : ∃ a, classes.zeroOf c = .atom a := by
  unfold zeroOf
  split
  · split
    · exact ⟨_, rfl⟩
    · exact ⟨.none, rfl⟩
  · split
    · exact ⟨_, rfl⟩
    · exact ⟨.none, rfl⟩

/-- No default is an object, so that a default which is stored is the default itself. -/
theorem defaultValue_eq_atom (classes : Classes) (t : TypeExpr) :
    ∃ a, classes.defaultValue t = .atom a := by
  unfold defaultValue
  split
  · exact ⟨.none, rfl⟩
  · split
    · split
      · exact zeroOf_eq_atom classes _
      · exact ⟨.none, rfl⟩
    · exact ⟨.none, rfl⟩

end Classes

/-! ## Members of value kinds -/

namespace Member.Describes

variable {m : Member}

theorem unwrapOptional_declared (hm : Describes classes type m) (htype : type.IsFlat) :
    m.declared.unwrapOptional = m.underlying := by
  obtain ⟨name, readable, writable, rfl⟩ := hm
  exact TypeExpr.unwrapOptional_normalize htype

/-- A member of a value kind is one of a value class, but for its option. -/
theorem underlying_of_isValueKind (hm : Describes classes type m) (htype : type.IsFlat)
    (hkind : m.isValueKind = true) :
    ∃ c, m.underlying = .cls c ∧ classes.isValueClass c = true := by
  obtain ⟨name, readable, writable, rfl⟩ := hm
  have hvalue : classes.isValueKind type = true := by
    rw [← Classes.isValueKind_unwrapOptional classes htype]
    exact hkind
  obtain ⟨c, hc⟩ := Resolver.plain_of_isValueKind hvalue
  refine ⟨c, hc, ?_⟩
  unfold Classes.isValueKind at hvalue
  rw [hc] at hvalue
  cases hplain : (TypeExpr.cls c).plainClass? with
  | none =>
      rw [hplain] at hvalue
      cases hvalue
  | some c' =>
      rw [hplain] at hvalue
      cases TypeExpr.plainClass?_eq_some hplain
      exact hvalue

/-- What may be absent defaults to the absent value. -/
theorem defaultValue_of_isNullable (hm : Describes classes type m) (htype : type.IsFlat)
    (h : m.isNullable = true) : classes.defaultValue m.declared = .none := by
  obtain ⟨name, readable, writable, rfl⟩ := hm
  have hoptional : type.normalize.isOptional = true :=
    (TypeExpr.isOptional_normalize htype).trans (Bool.and_eq_true_iff.mp h).2
  exact if_pos hoptional

end Member.Describes

namespace World

variable {w w₁ : World} {m n : Member} {s t : TypeExpr} {registry : Registry Converter}
  {a : Assignment Converter} {source v : Slot} {p : Place}

/-! ## Values that are in a world already -/

theorem load_atom (w : World) (a : Atom) : w.load (.atom a) = .atom a := by
  show w.store.loadWithin w.store.size [] (.atom a) = .atom a
  cases w.store.size with
  | zero | succ => rfl

/-- An instance of a value class that is read is the very object that is there. -/
theorem intern_load_of_isInstance (hc : w.classes.isValueClass c = true)
    (hv : w.classes.isInstance (w.load v) c = true) : w.intern (w.load v) = (w, v) := by
  cases v with
  | atom a =>
      rw [load_atom]
      rfl
  | ref p =>
      cases hcell : w.store.get? p with
      | some cell => exact intern_of_place? (place?_load hcell)
      | none =>
          have hnone : w.load (.ref p) = .none := by
            show w.store.loadWithin w.store.size [] (.ref p) = .none
            cases w.store.size with
            | zero | succ =>
                unfold Store.loadWithin
                rw [hcell]
                rfl
          have hpresent := Classes.isNone_of_isInstance hc hv
          rw [hnone] at hpresent
          cases hpresent

theorem equal_bool (w : World) (b : Bool) :
    w.Equal (.atom (.bool b)) (.atom (.int (if b then 1 else 0))) := by
  unfold Equal
  rw [load_atom, load_atom]
  refine ⟨_, rfl, ?_⟩
  cases b <;> rfl

/-! ## Copies and conversions -/

/-- What a copy stores in place of an instance of a value class is what a conversion into the class
gives, or equal to it. -/
theorem convertOrWith_of_isInstance {default : Value} (hc : w.classes.isValueClass c = true)
    (hv : w.classes.isInstance (w.load v) c = true) (htype : type.unwrapOptional = .cls c)
    (known : SchemaCache) :
    ∃ u, w.intern (Conversion.convertOrWith w.classes known (w.load v) type default) = (w, u) ∧
      (v = u ∨ w.Equal v u) := by
  have hpresent : (w.load v).isNone = false := Classes.isNone_of_isInstance hc hv
  unfold Conversion.convertOrWith
  rw [hpresent, if_neg Bool.false_ne_true]
  rcases Conversion.isConverted_or_bool hc hv with hconverted | ⟨b, hbool, rfl⟩
  · rw [Conversion.convertPresent_of_isConverted htype hconverted]
    exact ⟨v, intern_load_of_isInstance hc hv, .inl rfl⟩
  · have hatom : v = .atom (.bool b) := by
      have hintern := intern_load_of_isInstance hc hv
      rw [hbool] at hintern
      exact (congrArg Prod.snd hintern).symm
    rw [hbool, Conversion.convertPresent_bool htype, hatom]
    exact ⟨_, rfl, .inr (equal_bool w b)⟩

/-- An absent value is replaced where the option is taken off, and stored where it is kept. -/
theorem transferValue_of_absent (hm : Member.Describes w.classes s m)
    (hn : Member.Describes w.classes t n) (ht : t.IsFlat) (hnullable : m.isNullable = true)
    (hop : a.operation = Resolver.directOperation w.classes m n) :
    ∃ x, w.classes.defaultValue n.declared = .atom x ∧
      w.transferValue a .none = (w, .ok (.atom x)) := by
  by_cases hloses : Resolver.LosesOption m n
  · obtain ⟨x, hx⟩ := w.classes.defaultValue_eq_atom n.declared
    rw [Resolver.directOperation_of_losesOption hm hloses, hx] at hop
    refine ⟨x, hx, ?_⟩
    simp only [transferValue, hop]
    rfl
  · have hkept : n.isNullable = true := by
      by_contra hnot
      exact hloses ⟨hnullable, Bool.eq_false_iff.mpr hnot⟩
    rw [Resolver.directOperation_of_not_losesOption hloses] at hop
    exact ⟨.none, hn.defaultValue_of_isNullable ht hkept, transferValue_assign hop w .none⟩

theorem transferValue_of_present (hop : a.operation = Resolver.directOperation w.classes m n)
    (hv : v.isNone = false) : w.transferValue a v = (w, .ok v) := by
  unfold Resolver.directOperation at hop
  split at hop
  · simp [transferValue, hop, hv]
  · exact transferValue_assign hop w v

theorem transferMember_of_transferred (h : w.transferred a source = (w₁, .ok v)) (target : Slot) :
    w.transferMember a source target = w₁.storeResult target a.target.name (.ok v) := by
  rw [transferMember_eq, h]

/-- A step between members of one value kind stores a value that conversion into the type of the
target, with the default of that type, would give too, or one that is equal to it: it may store a
truth value where a conversion gives an integer.  It does so for each instance of the kind, and for
the absent value of a member that allows it, whatever has been converted before. -/
theorem transferMember_eq_convert (hm : Member.Describes w.classes s m) (hs : s.IsFlat)
    (hn : Member.Describes w.classes t n) (ht : t.IsFlat) (hkind : m.isValueKind = true)
    (ha : (Resolver.resolve w.classes registry m n).outcome = .ok (some a))
    (hop : a.operation = .assign ∨ ∃ default, a.operation = .unwrapOr default)
    (hread : w.getAttribute source m.name = .ok (w₁, v))
    (hv : (∃ c, m.underlying = .cls c ∧ w.classes.isInstance (w₁.load v) c = true) ∨
      m.isNullable = true ∧ v.isNone = true) (known : SchemaCache) :
    ∃ stored converted,
      (∀ target, w.transferMember a source target =
        w₁.storeResult target n.name (.ok stored)) ∧
      w₁.intern (Conversion.convertOrWith w.classes known (w₁.load v) n.declared
        (w.classes.defaultValue n.declared)) = (w₁, converted) ∧
      (stored = converted ∨ w₁.Equal stored converted) := by
  obtain ⟨hsame, hdirect⟩ := Resolver.same_of_directOperation hm hs hn ht ha hop
  obtain ⟨c, hc, hclass⟩ := hm.underlying_of_isValueKind hs hkind
  have hdeclared : n.declared.unwrapOptional = .cls c := by
    rw [hc] at hsame
    exact (hn.unwrapOptional_declared ht).trans ((TypeExpr.same_plain_iff rfl).mp hsame)
  obtain ⟨rfl, rfl, -⟩ := Resolver.chooses_of_resolve ha
  have htakes : takesAnything a.operation = true := by
    rcases hop with hop | ⟨default, hop⟩
    · rw [hop]
      rfl
    · rw [hop]
      rfl
  have htransferred := transferred_eq_transferValue htakes hread
  rw [← (getAttribute_extends hread).classes] at hm hn hdirect hclass hv ⊢
  cases hpresent : v.isNone with
  | false =>
      have hinstance : w₁.classes.isInstance (w₁.load v) c = true := by
        rcases hv with ⟨c', hc', hinstance⟩ | ⟨-, hnone⟩
        · cases hc.symm.trans hc'
          exact hinstance
        · rw [hpresent] at hnone
          cases hnone
      obtain ⟨converted, hconverted, hequal⟩ :=
        convertOrWith_of_isInstance hclass hinstance hdeclared known
      have hvalue := htransferred.trans (transferValue_of_present hdirect hpresent)
      exact ⟨v, converted, transferMember_of_transferred hvalue, hconverted, hequal⟩
  | true =>
      obtain rfl : v = .none := by
        unfold Slot.isNone at hpresent
        split at hpresent
        · rfl
        · cases hpresent
      have hload : w₁.load .none = .none := load_atom w₁ .none
      have hnullable : a.source.isNullable = true := by
        rcases hv with ⟨c', hc', hinstance⟩ | ⟨hnullable, -⟩
        · cases hc.symm.trans hc'
          have hfalse := Classes.isNone_of_isInstance hclass hinstance
          rw [hload] at hfalse
          cases hfalse
        · exact hnullable
      obtain ⟨x, hx, hvalue⟩ := transferValue_of_absent hm hn ht hnullable hdirect
      refine ⟨.atom x, .atom x, transferMember_of_transferred (htransferred.trans hvalue), ?_,
        .inl rfl⟩
      rw [hload, hx]
      rfl

/-- A survey whose age is a truth value, and the person that it goes to. -/
def surveying : World where
  classes := [Plan.annotatedClass "Survey" [("age", .union .named [.builtin .int, .noneType])],
    Plan.annotatedClass "Person" [("Age", .builtin .int)]]
  store := ⟨#[.object "Survey" none [("age", .atom (.bool true))],
    .object "Person" none [("Age", .atom (.int 5))]]⟩
  constants := []
  schemas := .empty

def surveyedAge : Member :=
  .describe surveying.classes "age" (.union .named [.builtin .int, .noneType]) true true

def personAge : Member := .describe surveying.classes "Age" (.builtin .int) true true

/-- The person gets an age that is equal to the integer that a conversion of the truth value
gives. -/
theorem transferMember_eq_convert_age : ∃ (a : Assignment Converter) (stored : Slot),
    (Resolver.resolve surveying.classes .empty surveyedAge personAge).outcome = .ok (some a) ∧
    (∃ default, a.operation = .unwrapOr default) ∧
    (∀ target, surveying.transferMember a (.ref 0) target =
      surveying.storeResult target "Age" (.ok stored)) ∧
    (stored = .atom (.int 1) ∨ surveying.Equal stored (.atom (.int 1))) := by
  have hflat : (TypeExpr.union .named [.builtin .int, .noneType]).IsFlat :=
    TypeExpr.isFlat_pair rfl rfl
  have hsurvey : Member.Describes surveying.classes _ surveyedAge := ⟨_, _, _, rfl⟩
  have hperson : Member.Describes surveying.classes _ personAge := ⟨_, _, _, rfl⟩
  obtain ⟨strategy, default, hresolve⟩ := (Resolver.resolve_unwrapOr_iff (r := .empty) hsurvey
    hflat hperson trivial).mpr ⟨by decide +kernel, by decide +kernel, by decide +kernel⟩
  have hread : surveying.getAttribute (.ref 0) surveyedAge.name =
      .ok (surveying, .atom (.bool true)) := rfl
  obtain ⟨stored, converted, hstep, hconverted, hequal⟩ := transferMember_eq_convert hsurvey hflat
    hperson trivial (by decide +kernel) hresolve (.inr ⟨_, rfl⟩) hread
    (.inl ⟨.builtin .int, rfl, by decide +kernel⟩) .empty
  have hgives : Conversion.convertOrWith surveying.classes .empty
      (surveying.load (.atom (.bool true))) personAge.declared
      (surveying.classes.defaultValue personAge.declared) = .atom (.int 1) := by
    have hint : personAge.declared.unwrapOptional = .builtin .int := rfl
    rw [load_atom, Conversion.convertOrWith, Conversion.convertPresent_bool hint]
    rfl
  rw [hgives] at hconverted
  cases hconverted
  exact ⟨_, stored, hresolve, ⟨_, rfl⟩, hstep, hequal⟩

/-- It is the truth value itself. -/
example : let a : Assignment Converter := ⟨surveyedAge, personAge, .mismatchedNullability,
      .unwrapOr (.atom (.int 0))⟩
    (surveying.transferMember a (.ref 0) (.ref 1)).1.held? 1 "Age" = some (.atom (.bool true)) := by
  decide +kernel

end World

end Memberwise
