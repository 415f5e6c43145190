import Memberwise.Proofs.Conversion.Renaming

/-! # How a conversion ends

A conversion gives a value, or fails with a fault of its own that shows the value and names its
class and the type.  Other faults escape: the schema of a type is asked for under a key that cannot
be hashed, the plain form fails (at bytes that are no text, at a value inside itself or too many
others, at a key of too many digits, at an attribute that cannot be read), or the value cannot even
be shown.
-/

namespace Memberwise

def Fault.isConversion : Fault → Bool
  | .conversion _ => true
  | _ => false

theorem RenderFault.isConversion_fault (fault : RenderFault) :
    fault.fault.isConversion = false := by
  cases fault <;> rfl

theorem Schema.PlainFault.isConversion_escape {plainFault : Schema.PlainFault} {fault : Fault}
    (h : plainFault.escape? = some fault) : fault.isConversion = false := by
  cases plainFault with
  | unread unreadFault =>
      cases h
      exact unreadFault.isConversion_fault
  | _ => cases h <;> rfl

namespace Conversion

variable {classes : Classes} {known : SchemaCache} {v : Value} {type target : TypeExpr}
  {fault : Fault} {reason : ConversionReason}

/-- The fault of writing a value that describes itself in its plain form. -/
def unwritten? (classes : Classes) (v : Value) : Option Fault :=
  match ownSchema? classes v, Schema.plain classes v with
  | some _, .error fault => fault.escape?
  | _, _ => none

/-- The fault of asking the schema of a type for a value, before it could reject the value. -/
def unasked? (classes : Classes) (v : Value) (target : TypeExpr) : Option Fault :=
  if !target.isHashable classes then some .typeMismatch else unwritten? classes v

/-- The fault of showing a value. -/
def unshown? (classes : Classes) (v : Value) : Option Fault :=
  match classes.shown v with
  | .ok _ => none
  | .error fault => some fault

/-- The fault that escapes in place of that of a failed conversion. -/
def escape? (classes : Classes) (v : Value) (type : TypeExpr) : Option Fault :=
  (if asksSchema classes v type.unwrapOptional then unasked? classes v type.unwrapOptional
    else none).or (unshown? classes v)

/-- The type that the fault of a conversion names. -/
def namedTarget (v : Value) (type : TypeExpr) : TypeExpr :=
  if v.isNone then type else type.unwrapOptional

theorem isConversion_of_unasked (h : unasked? classes v target = some fault) :
    fault.isConversion = false := by
  unfold unasked? unwritten? at h
  split at h
  · cases h
    rfl
  · split at h
    · exact Schema.PlainFault.isConversion_escape h
    · cases h

theorem isConversion_of_unshown (h : unshown? classes v = some fault) :
    fault.isConversion = false := by
  unfold unshown? Classes.shown at h
  split at h
  · cases h
  · rename_i heq
    split at heq
    · cases heq
    · cases heq
      cases h
      exact RenderFault.isConversion_fault _

/-- What escapes is never the fault of a conversion. -/
theorem isConversion_of_escape (h : escape? classes v type = some fault) :
    fault.isConversion = false := by
  rcases Option.or_eq_some_iff.mp h with h | ⟨-, h⟩
  · split at h
    · exact isConversion_of_unasked h
    · cases h
  · exact isConversion_of_unshown h

/-- The fault of a conversion shows the value, or is the one of showing it. -/
theorem conversionFault_eq (classes : Classes) (v : Value) (target : TypeExpr)
    (reason : ConversionReason) :
    (∃ shown, classes.shown v = .ok shown ∧ unshown? classes v = none ∧
        classes.conversionFault v target reason =
          .conversion ⟨shown, classes.typeName v, classes.targetName target, reason⟩) ∨
      unshown? classes v = some (classes.conversionFault v target reason) := by
  unfold unshown? Classes.conversionFault
  cases classes.shown v with
  | ok shown => exact .inl ⟨shown, rfl, rfl, rfl⟩
  | error fault => exact .inr rfl

theorem convertBySchema_eq_error (h : convertBySchema classes known v target = .error fault) :
    fault = (unasked? classes v target).getD (classes.conversionFault v target .rejected) := by
  unfold convertBySchema at h
  unfold unasked?
  by_cases hhashable : target.isHashable classes = true
  · simp only [hhashable, Bool.not_true, Bool.false_eq_true, if_false] at h ⊢
    unfold unwritten?
    split at h
    · cases h
    · split at h
      · rename_i hown
        cases h
        simp [hown]
      · rename_i own hown
        rw [hown]
        split at h
        · rename_i plainFault hplain
          cases h
          simp [hplain]
        · rename_i plain hplain
          split at h
          · cases h
          · split at h
            · cases h
            · cases h
              simp [hplain]
  · simp only [hhashable, Bool.not_false, if_true] at h ⊢
    cases h
    rfl

/-- A conversion fails before its schema could reject the value, or else with a fault of its
own. -/
theorem convertWith_eq_error (h : convertWith classes known v type = .error fault) :
    ∃ reason, fault =
      (if asksSchema classes v type.unwrapOptional then unasked? classes v type.unwrapOptional
        else none).getD (classes.conversionFault v (namedTarget v type) reason) := by
  unfold convertWith at h
  unfold asksSchema namedTarget
  cases hnone : v.isNone with
  | true =>
      rw [hnone] at h
      cases h
      refine ⟨.stated "value must not be None", ?_⟩
      cases meansFor classes v type.unwrapOptional <;> rfl
  | false =>
      rw [hnone] at h
      simp only [Bool.false_eq_true, if_false, convertPresent] at h ⊢
      cases hmeans : meansFor classes v type.unwrapOptional with
      | none => simp [hmeans] at h
      | scalar kind a =>
          simp only [hmeans] at h
          split at h
          · cases h
          · cases h
            exact ⟨_, rfl⟩
      | schema =>
          simp only [hmeans] at h
          exact ⟨_, convertBySchema_eq_error h⟩

/-- Whether an atom can be written and read as text: an integer of few digits, or bytes that are
text.  What a member of an enumeration stands for may be neither. -/
def IsPlainAtom : Atom → Prop
  | .int n => digitCount n.natAbs ≤ digitLimit
  | .bytes content => (Text.decodeUtf8? content).isSome = true
  | .member .. => False
  | _ => True

/-- Whether a value inside others, at the given places, is built from atoms with a property by
sequences and mappings, none of them inside itself or too many others. -/
inductive IsBuiltFrom (P : Atom → Prop) : List (Option Place) → Value → Prop where
  | atom {around : List (Option Place)} {a : Atom} (henter : Schema.enter around none = .ok ())
      (h : P a) : IsBuiltFrom P around (.atom a)
  | seq {around : List (Option Place)} {place : Option Place} {kind : SeqKind} {items : List Value}
      (henter : Schema.enter around place = .ok ()) (hkind : kind ≠ .bytearray)
      (h : ∀ v ∈ items, IsBuiltFrom P (place :: around) v) :
      IsBuiltFrom P around (.seq place kind items)
  | dict {around : List (Option Place)} {place : Option Place} {entries : List (Value × Value)}
      (henter : Schema.enter around place = .ok ())
      (hkeys : ∀ entry ∈ entries, IsBuiltFrom P (place :: around) entry.1)
      (h : ∀ entry ∈ entries, IsBuiltFrom P (place :: around) entry.2) :
      IsBuiltFrom P around (.dict place entries)

variable {around : List (Option Place)}

theorem renderAtom_isOk {a : Atom} (h : IsPlainAtom a) : ∃ text, classes.renderAtom a = .ok text := by
  cases a with
  | int n =>
      have hdigits : digitCount n.natAbs ≤ digitLimit := h
      exact ⟨integerText n, by simp [Classes.renderAtom, renderInt, integerText?, hdigits]⟩
  | _ => exact ⟨_, rfl⟩

section Trees

variable {constantText : Value → Except RenderFault (List Char)}

theorem renderTrees_isOk {items : List Value}
    (h : ∀ v ∈ items, ∃ text, classes.renderTree constantText v = .ok text) :
    ∃ texts, classes.renderTrees constantText items = .ok texts := by
  induction items with
  | nil => exact ⟨[], rfl⟩
  | cons v rest ih =>
      rw [List.forall_mem_cons] at h
      obtain ⟨text, htext⟩ := h.1
      obtain ⟨texts, htexts⟩ := ih h.2
      exact ⟨text :: texts, by simp [Classes.renderTrees, htext, htexts, bind, Except.bind]⟩

theorem renderEntries_isOk {entries : List (Value × Value)}
    (hkeys : ∀ entry ∈ entries, ∃ text, classes.renderTree constantText entry.1 = .ok text)
    (h : ∀ entry ∈ entries, ∃ text, classes.renderTree constantText entry.2 = .ok text) :
    ∃ texts, classes.renderEntries constantText entries = .ok texts := by
  induction entries with
  | nil => exact ⟨[], rfl⟩
  | cons entry rest ih =>
      rw [List.forall_mem_cons] at hkeys h
      obtain ⟨key, hkey⟩ := hkeys.1
      obtain ⟨text, htext⟩ := h.1
      obtain ⟨texts, htexts⟩ := ih hkeys.2 h.2
      exact ⟨(key ++ ':' :: ' ' :: text) :: texts, by
        simp [Classes.renderEntries, hkey, htext, htexts, bind, Except.bind]⟩

theorem renderTree_isOk (hv : IsBuiltFrom IsPlainAtom around v) :
    ∃ text, classes.renderTree constantText v = .ok text := by
  induction hv with
  | @atom around a _ h =>
      obtain ⟨text, htext⟩ : ∃ text, classes.renderAtom a = .ok text := renderAtom_isOk h
      refine ⟨text, ?_⟩
      cases a with
      | member => cases h
      | _ => exact htext
  | @seq around place kind items _ hkind _ ih =>
      obtain ⟨texts, htexts⟩ := renderTrees_isOk ih
      cases kind with
      | bytearray => exact absurd rfl hkind
      | bag name => exact ⟨_, rfl⟩
      | _ => simp [Classes.renderTree, htexts, Except.map]
  | dict _ _ _ ihkeys ih =>
      obtain ⟨texts, htexts⟩ := renderEntries_isOk ihkeys ih
      simp [Classes.renderTree, htexts, Except.map]

end Trees

/-- A value built from atoms that can be written is shown. -/
theorem unshown?_eq_none (hv : IsBuiltFrom IsPlainAtom [] v) : unshown? classes v = none := by
  obtain ⟨text, htext⟩ : ∃ text, classes.render v = .ok text := renderTree_isOk hv
  simp [unshown?, Classes.shown, htext]

/-- An integer of too many digits is not. -/
theorem unshown?_of_digits {n : Int} (h : digitLimit < digitCount n.natAbs) :
    unshown? classes (.atom (.int n)) = some (.value tooLongToWrite) := by
  have hrender : classes.render (.atom (.int n)) = .error .tooManyDigits := by
    have hint : renderInt n = .error .tooManyDigits := by
      simp [renderInt, integerText?, Nat.not_le.mpr h]
    exact hint
  simp [unshown?, Classes.shown, hrender, RenderFault.fault]

/-! ## Values that are text in the end -/

/-- Whether a computation of plain forms fails at most for lack of a description. -/
def IsWritten {α : Type} (x : Except Schema.PlainFault α) : Prop :=
  ∀ fault, x = .error fault → fault = .undescribed

theorem IsWritten.ok {α : Type} (a : α) : IsWritten (.ok a) := fun _ => nofun

theorem IsWritten.undescribed {α : Type} :
    IsWritten (.error .undescribed : Except Schema.PlainFault α) := by
  rintro fault ⟨⟩
  rfl

theorem IsWritten.bind {α β : Type} {x : Except Schema.PlainFault α}
    {f : α → Except Schema.PlainFault β} (hx : IsWritten x) (hf : ∀ a, IsWritten (f a)) :
    IsWritten (x >>= f) := by
  intro fault h
  rcases bind_eq_error.mp h with hx' | ⟨a, -, hfails⟩
  · exact hx fault hx'
  · exact hf a fault hfails

theorem IsWritten.map {α β : Type} {x : Except Schema.PlainFault α} (hx : IsWritten x)
    (f : α → β) : IsWritten (x.map f) :=
  fun fault h => hx fault (map_eq_error.mp h)

theorem isWritten_plainAtom {a : Atom} (h : IsPlainAtom a) : IsWritten (Schema.plainAtom a) := by
  cases a with
  | bytes content =>
      obtain ⟨s, hs⟩ := Option.isSome_iff_exists.mp h
      simpa only [Schema.plainAtom, Schema.plainBytes, hs] using .ok _
  | member | classRef => exact .undescribed
  | _ => exact .ok _

theorem isWritten_keyText {a : Atom} (h : IsPlainAtom a) : IsWritten (Schema.keyText a) := by
  unfold Schema.keyText
  split
  · exact .ok _
  · exact .ok _
  · rename_i n
    have hdigits : digitCount n.natAbs ≤ digitLimit := h
    simpa only [integerText?, hdigits, if_true] using .ok _
  · exact .ok _
  · exact .ok _
  · split
    · exact .ok _
    · exact .undescribed
    · rename_i heq
      intro fault hfault
      cases hfault
      exact isWritten_plainAtom h _ heq

/-- The scalars in a value built from atoms with a property have it. -/
theorem IsBuiltFrom.of_core? {P : Atom → Prop} {a : Atom} (hv : IsBuiltFrom P around v)
    (ha : v.core? = some a) : P a := by
  cases hv with
  | atom _ h =>
      cases ha
      exact h
  | seq | dict => cases ha

theorem scalarOf?_eq_core? (hv : IsBuiltFrom IsPlainAtom around v) :
    classes.scalarOf? v = v.core? := by
  cases hv with
  | @atom around a _ h =>
      cases a with
      | member => cases h
      | _ => rfl
  | seq | dict => rfl

/-- The text of a scalar key, if the key is one. -/
theorem isWritten_keyText_core? (hv : IsBuiltFrom IsPlainAtom around v) :
    IsWritten (match v.core? with
      | some a => Schema.keyText a
      | none => .error .undescribed) := by
  cases hcore : v.core? with
  | none => exact .undescribed
  | some a => exact isWritten_keyText (hv.of_core? hcore)

theorem isWritten_plainKey (hv : IsBuiltFrom IsPlainAtom around v) :
    IsWritten (Schema.plainKey classes v) := by
  unfold Schema.plainKey
  split
  · cases hv with
    | atom _ h => cases h
  · cases hv with
    | seq _ _ h =>
        refine IsWritten.map (fun fault hfault => ?_) _
        obtain ⟨item, hitem, hfails⟩ := exists_of_mapM_eq_error hfault
        rw [scalarOf?_eq_core? (h item hitem)] at hfails
        exact isWritten_keyText_core? (h item hitem) fault hfails
  · exact isWritten_keyText_core? hv

section Trees

variable {ofConstant : List (Option Place) → Value → Except Schema.PlainFault Value}

theorem isWritten_plainTrees {items : List Value}
    (h : ∀ v ∈ items, IsWritten (Schema.plainTree classes ofConstant around v)) :
    IsWritten (Schema.plainTrees classes ofConstant around items) := by
  induction items with
  | nil => exact .ok _
  | cons v rest ih =>
      rw [List.forall_mem_cons] at h
      exact h.1.bind fun item => (ih h.2).bind fun items => .ok _

theorem isWritten_plainEntries {entries : List (Value × Value)}
    (hkeys : ∀ entry ∈ entries, IsWritten (Schema.plainKey classes entry.1))
    (h : ∀ entry ∈ entries, IsWritten (Schema.plainTree classes ofConstant around entry.2)) :
    IsWritten (Schema.plainEntries classes ofConstant around entries) := by
  induction entries with
  | nil => exact .ok _
  | cons entry rest ih =>
      rw [List.forall_mem_cons] at hkeys h
      exact hkeys.1.bind fun key => h.1.bind fun value => (ih hkeys.2 h.2).bind fun entries => .ok _

theorem isWritten_plainTree (hv : IsBuiltFrom IsPlainAtom around v) :
    IsWritten (Schema.plainTree classes ofConstant around v) := by
  induction hv with
  | @atom around a henter h =>
      unfold Schema.plainTree
      rw [henter]
      cases a with
      | member => cases h
      | _ => exact isWritten_plainAtom h
  | @seq around place kind items henter hkind _ ih =>
      unfold Schema.plainTree
      rw [henter]
      have hitems := (isWritten_plainTrees ih).map Value.list
      cases kind with
      | bytearray => exact absurd rfl hkind
      | bag name => exact .undescribed
      | _ => exact hitems
  | dict henter hkeys _ _ ih =>
      unfold Schema.plainTree
      rw [henter]
      exact (isWritten_plainEntries
        (fun entry hentry => isWritten_plainKey (hkeys entry hentry)) ih).map _

end Trees

theorem isWritten_plain (hv : IsBuiltFrom IsPlainAtom [] v) :
    IsWritten (Schema.plain classes v) :=
  isWritten_plainTree hv

/-- Nothing escapes from the conversion of a value built from atoms that can be written and are
text, not too deep and never inside itself, into a type that can be hashed. -/
theorem escape?_eq_none (hv : IsBuiltFrom IsPlainAtom [] v)
    (htype : type.unwrapOptional.isHashable classes = true) : escape? classes v type = none := by
  have hwritten : unwritten? classes v = none := by
    unfold unwritten?
    split
    · rename_i fault _ hplain
      rw [isWritten_plain hv fault hplain]
      rfl
    · rfl
  simp [escape?, unasked?, htype, hwritten, unshown?_eq_none hv]

end Conversion

end Memberwise
