import Memberwise.Proofs.Conversion.Presence
import Memberwise.Proofs.Mapper.Transfer
import Memberwise.Proofs.Plan.Conformance

/-! # Members that are never absent

A member of a value kind that is not optional never gets the absent value from a copy or from a
conversion: it is copied from a member that is never absent itself, and everything else that may
be absent is replaced by the zero of the kind.
-/

namespace Memberwise

variable {classes : Classes} {source target : Member}

/-- What goes to a member that is never absent as it is comes from a member that is never
absent. -/
theorem Resolver.required_of_assign {Converter : Type} {s t : TypeExpr}
    (hs : Member.Describes classes s source) (ht : Member.Describes classes t target)
    (htarget : target.IsRequired) (hdirect : isDirect classes source target = true)
    (h : (directOperation classes source target : Operation Converter) = .assign) :
    source.IsRequired := by
  obtain ⟨c, -, hdeclared, hc⟩ := ht.declared_of_required htarget
  by_cases hkind : source.isValueKind = true
  · refine ⟨hkind, Bool.eq_false_iff.mpr fun hnullable => ?_⟩
    simp [directOperation, hkind, hnullable, htarget.2] at h
  · have hkey : target.keyType classes = .cls c := by
      rw [Member.keyType, hdeclared, Classes.keyType, if_pos (Classes.isValueKind_cls hc)]
      exact TypeExpr.normalize_of_not_isOptional rfl
    simp only [isDirect, hkind, Bool.false_and, Bool.false_eq_true, if_false, hkey] at hdirect
    have hsource := (TypeExpr.same_plain_iff rfl).mp (TypeExpr.same_symm hdirect)
    exact hs.required_of_keyType hc hsource

namespace World

variable {w w' : World} {v : Slot} {p : Place} {c : ClassRef} {a : Assignment Converter}

/-! ## Values of steps -/

theorem isNone_intern (w : World) (v : Value) : (w.intern v).2.isNone = v.isNone := by
  cases v with
  | atom a => cases a <;> rfl
  | seq place | dict place | object place => cases place <;> rfl

theorem transferValue_assign (h : a.operation = .assign) (w : World) (v : Slot) :
    w.transferValue a v = (w, .ok v) := by
  simp only [transferValue, h]

/-- With a default that is present, what an absent value is replaced by always is. -/
theorem transferValue_unwrapOr {default : Value} (h : a.operation = .unwrapOr default)
    (hdefault : default.isNone = false) (w : World) (v : Slot) :
    ∃ w' u, w.transferValue a v = (w', .ok u) ∧ u.isNone = false := by
  simp only [transferValue, h]
  split
  · exact ⟨_, _, rfl, (isNone_intern w default).trans hdefault⟩
  · rename_i hpresent
    exact ⟨w, v, rfl, by simpa using hpresent⟩

theorem transferValue_convert {default : Value} (h : a.operation = .convert default)
    (hdefault : default.isNone = false) (hdeclared : a.target.declared = .cls c)
    (hc : w.classes.isValueClass c = true)
    (hadapter : ∀ u, u = w.load v ∨ Schema.plain w.classes (w.load v) = .ok u →
      Schema.ReadsInstance w.classes c u) :
    ∃ w' u, w.transferValue a v = (w', .ok u) ∧ u.isNone = false := by
  have hpresent : (Conversion.convertOrWith w.classes w.schemas (w.load v) (.cls c)
      default).isNone = false :=
    Conversion.convertOrWith_isNone hc (hadapter _ (.inl rfl))
      (fun plain hplain => hadapter plain (.inr hplain)) hdefault
  simp only [transferValue, h, hdeclared]
  exact ⟨_, _, rfl, (isNone_intern _ _).trans hpresent⟩

theorem transferred_eq_transferValue (h : takesAnything a.operation = true) {source : Slot}
    (hread : w.getAttribute source a.source.name = .ok (w', v)) :
    w.transferred a source = w'.transferValue a v := by
  unfold transferred
  cases hoperation : a.operation with
  | assign | unwrapOr | convert => simp only [hread]
  | custom | copyCollection | foreign =>
      rw [hoperation] at h
      cases h

/-- The value of a step whose target is never absent is present, whatever its operation: a direct
copy of a member that may be absent has a zero to fall back on, and so has a conversion. -/
theorem transferValue_isNone {registry : Registry Converter} {s t : TypeExpr}
    (hs : Member.Describes w.classes s a.source) (ht : Member.Describes w.classes t a.target)
    (hchooses : Resolver.Chooses w.classes registry a.source a.target a.operation)
    (htarget : a.target.IsRequired)
    (hinhabited : ∀ c, a.target.declared = .cls c → w.classes.IsInhabited c)
    (hoperation : takesAnything a.operation = true)
    (hconforms : a.source.IsRequired → v.isNone = false)
    (hadapter : ∀ c, a.target.declared = .cls c →
      ∀ u, u = w.load v ∨ Schema.plain w.classes (w.load v) = .ok u →
        Schema.ReadsInstance w.classes c u) :
    ∃ w' u, w.transferValue a v = (w', .ok u) ∧ u.isNone = false := by
  obtain ⟨c, -, hdeclared, hc⟩ := ht.declared_of_required htarget
  have hzero : (w.classes.defaultValue a.target.declared).isNone = false := by
    rw [hdeclared, Classes.defaultValue_of_isValueClass hc]
    exact Classes.zeroOf_isNone hc (hinhabited c hdeclared)
  generalize hop : a.operation = operation at hchooses hoperation
  cases hchooses with
  | direct direct =>
      unfold Resolver.directOperation at hop
      split at hop
      · exact transferValue_unwrapOr hop hzero w v
      · rename_i hkeeps
        have hassign : (Resolver.directOperation w.classes a.source a.target :
            Operation Converter) = .assign := if_neg hkeeps
        have hrequired := Resolver.required_of_assign hs ht htarget direct hassign
        exact ⟨w, v, transferValue_assign hop w v, hconforms hrequired⟩
  | convert converts unruled single =>
      exact transferValue_convert hop hzero hdeclared hc (hadapter c hdeclared)
  | custom | copy => cases hoperation

/-! ## What is stored -/

/-- What an object holds after a store: what its class makes of the value, under the attribute in
which the store ends. -/
theorem held?_setAttribute {name : String} (h : w.setAttribute (.ref p) name v = .ok w') :
    ∃ key w₁ stored, w.destination p name = .ok key ∧
      w.validated (w.classOf (.ref p)) key v = .ok (w₁, stored) ∧
      w'.held? p key = some stored := by
  rw [setAttribute_eq] at h
  obtain ⟨key, hkey, h⟩ := bind_eq_ok.mp h
  obtain ⟨⟨w₁, stored⟩, hvalid, rfl⟩ := map_eq_ok.mp h
  refine ⟨key, w₁, stored, hkey, hvalid, ?_⟩
  obtain ⟨className, core, attributes, hcell⟩ := object_of_destination hkey
  have hp : p < w.store.size := (Array.getElem?_eq_some_iff.mp hcell).1
  have hextends := validated_extends hvalid
  have hcell₁ := (hextends.cells p hp not_false).trans hcell
  have hstored := get?_storeOn (Nat.lt_of_lt_of_le hp hextends.size) key stored
  rw [hcell₁] at hstored
  unfold held?
  rw [hstored]
  exact lookup_putAttribute_self attributes key stored

/-- A value that is present stays so if the schemas of fields read only what is present from
it. -/
theorem validated_isNone {name : String} {w₁ : World} {stored : Slot}
    (h : w.validated c name v = .ok (w₁, stored)) (hv : v.isNone = false)
    (hreads : ∀ f ∈ w.classes.modelFields c, f.name = name → ∀ schema result,
      Schema.describe? w.classes (f.type.resolveField w.classes) = some schema →
        Schema.read? w.classes schema (w.load v) = some result → result.isNone = false) :
    stored.isNone = false := by
  unfold validated at h
  split at h
  · split at h
    · cases h
      exact hv
    · rename_i f hfound
      have hname : f.name = name := eq_of_beq (by simpa using List.find?_some hfound)
      dsimp only at h
      split at h
      · rename_i result hresult
        cases h
        obtain ⟨schema, hschema, hread⟩ := Option.bind_eq_some_iff.mp hresult
        have hpresent :=
          hreads f (List.mem_of_find?_eq_some hfound) hname schema result hschema hread
        exact (isNone_intern w result).trans hpresent
      · cases h
  · cases h
    exact hv

end World

/-- The step of a member that is never absent gives a value that is present, if the value of the
source is absent only where the type of the source allows it and the schema of the target makes
instances of what it reads.  A target that stores plainly holds that value; one that validates it
holds another one, which is present too: the schema of the member makes an instance of the value,
and no schema at all makes the absent value of it, if that of integers makes integers. -/
theorem Plan.build_present {registry : Registry Converter} {source target : ClassRef}
    {creates : Bool} {p : Plan Converter}
    (h : (build classes registry (.cls source) (.cls target) creates).outcome = .ok p)
    {a : Assignment Converter} (ha : a ∈ p.assignments) (htarget : a.target.IsRequired)
    (hinhabited : ∀ c, a.target.declared = .cls c → classes.IsInhabited c)
    (hoperation : World.takesAnything a.operation = true) {w w₁ : World}
    (hclasses : w.classes = classes) {s v : Slot}
    (hread : w.getAttribute s a.source.name = .ok (w₁, v))
    (hconforms : a.source.IsRequired → v.isNone = false)
    (hadapter : ∀ c, a.target.declared = .cls c →
      ∀ u, u = w₁.load v ∨ Schema.plain classes (w₁.load v) = .ok u →
        Schema.ReadsInstance classes c u) :
    ∃ w₂ u, w.transferred a s = (w₂, .ok u) ∧ u.isNone = false ∧
      ∀ t w₃, w.transferMember a s (.ref t) = (w₃, none) →
        ∃ key stored, w₂.destination t a.target.name = .ok key ∧
          w₃.held? t key = some stored ∧ (w₂.StoresPlainly t → stored = u) ∧
          ((∀ f ∈ classes.modelFields (w₂.classOf (.ref t)), f.name = key →
              f.type.resolveField classes = a.target.declared) →
            (∀ c, a.target.declared = .cls c → Schema.ReadsInstance classes c (w₂.load u)) →
            stored.isNone = false) ∧
          (¬ Schema.StandsForNone classes (w₂.load u) →
            Schema.ReadsInstance classes (.builtin .int) (w₂.load u) → stored.isNone = false) := by
  obtain ⟨⟨sourceType, hs⟩, ⟨targetType, ht⟩, hchooses⟩ := build_chooses h ha
  obtain ⟨c, -, hdeclared, hc⟩ := ht.declared_of_required htarget
  have hclasses₁ : w₁.classes = classes := (World.getAttribute_extends hread).classes.trans hclasses
  have hpresent : ∃ w₂ u, w₁.transferValue a v = (w₂, .ok u) ∧ u.isNone = false := by
    rw [← hclasses₁] at hs ht hchooses hinhabited hadapter
    exact World.transferValue_isNone hs ht hchooses htarget hinhabited hoperation hconforms hadapter
  obtain ⟨w₂, u, hvalue, hu⟩ := hpresent
  rw [← World.transferred_eq_transferValue hoperation hread] at hvalue
  refine ⟨w₂, u, hvalue, hu, fun t w₃ hstep => ?_⟩
  have hclasses₂ : w₂.classes = classes := by
    have hspends := World.transferred_spends w a s
    rw [hvalue] at hspends
    exact hspends.classes.trans hclasses
  obtain ⟨w₂', u', hvalue', hstore⟩ := World.setAttribute_of_transferMember hstep
  rw [hvalue] at hvalue'
  cases hvalue'
  obtain ⟨key, w', stored, hkey, hvalid, hheld⟩ := World.held?_setAttribute hstore
  refine ⟨key, stored, hkey, hheld, fun hplain => ?_, fun hfields hreads => ?_,
    fun hstands hint => ?_⟩
  · rw [World.validated_of_plain hplain] at hvalid
    cases hvalid
    rfl
  · refine World.validated_isNone hvalid hu fun f hf hname schema result hschema hresult => ?_
    rw [hclasses₂] at hf hschema hresult
    rw [hfields f hf hname, hdeclared] at hschema
    exact Classes.isNone_of_isInstance hc (hreads c hdeclared schema result hschema hresult)
  · refine World.validated_isNone hvalid hu fun _ _ _ schema result _ hresult => ?_
    rw [hclasses₂] at hresult
    exact Schema.read?_isNone hstands hint hresult

/-- An offer whose price is no number, and the quote that it goes to. -/
def offering : World where
  classes := [Plan.annotatedClass "Offer" [("price", .builtin .str)],
    Plan.annotatedClass "Quote" [("Price", .builtin .float)]]
  store := ⟨#[.object "Offer" none [("price", .atom (.str "on request"))],
    .object "Quote" none [("Price", .atom (.float (.ofInt 5)))]]⟩
  constants := []
  schemas := .empty

theorem readsInstance_offering :
    Schema.ReadsInstance offering.classes (.builtin .float) (.atom (.str "on request")) := by
  intro schema result hschema hresult
  have hfloat : Schema.describe? offering.classes (.builtin .float) = some (.scalar .float) := rfl
  rw [hfloat] at hschema
  cases hschema
  have hnone : (Schema.read? offering.classes (.scalar .float)
      (.atom (.str "on request"))).isNone = true := by decide +kernel
  rw [hresult] at hnone
  cases hnone

/-- The price of a quote is the zero of its kind after the price of an offer could not be
converted. -/
theorem Plan.build_present_offer : ∃ (p : Plan Converter) (a : Assignment Converter)
    (w₂ w₃ : World) (u : Slot) (key : String),
    (build offering.classes .empty (.cls (.declared "Offer")) (.cls (.declared "Quote"))
      false).outcome = .ok p ∧
    a ∈ p.assignments ∧ a.target.IsRequired ∧ World.takesAnything a.operation = true ∧
    offering.transferred a (.ref 0) = (w₂, .ok u) ∧ u.isNone = false ∧
    offering.transferMember a (.ref 0) (.ref 1) = (w₃, none) ∧ w₃.held? 1 key = some u := by
  have hfacts : (build offering.classes (Registry.empty : Registry Converter)
      (.cls (.declared "Offer")) (.cls (.declared "Quote")) false).outcome.toOption.map
        (fun p => p.assignments.map fun a => ((a.source.name, World.takesAnything a.operation,
          (offering.transferMember a (.ref 0) (.ref 1)).2),
          (a.target.isValueKind, a.target.isNullable, a.target.declared.same (.builtin .float)))) =
      some [(("price", true, none), (true, false, true))] := by decide +kernel
  obtain ⟨p, hp, hfacts⟩ := Option.map_eq_some_iff.mp hfacts
  rw [toOption_eq_some] at hp
  obtain ⟨a, hassignments, ha⟩ := List.map_eq_singleton_iff.mp hfacts
  simp only [Prod.mk.injEq] at ha
  obtain ⟨⟨hname, hoperation, hsucceeds⟩, hkind, hnullable, hsame⟩ := ha
  have hmem : a ∈ p.assignments := by simp [hassignments]
  have hdeclared : a.target.declared = .builtin .float :=
    (TypeExpr.same_plain_iff rfl).mp (TypeExpr.same_symm hsame)
  have hread : offering.getAttribute (.ref 0) a.source.name =
      .ok (offering, .atom (.str "on request")) := by
    rw [hname]
    rfl
  have hinhabited : ∀ c, a.target.declared = .cls c → offering.classes.IsInhabited c := by
    intro c hc henumeration
    rw [hdeclared] at hc
    cases hc
    cases henumeration
  have hadapter : ∀ c, a.target.declared = .cls c → ∀ u,
      u = offering.load (.atom (.str "on request")) ∨
        Schema.plain offering.classes (offering.load (.atom (.str "on request"))) = .ok u →
      Schema.ReadsInstance offering.classes c u := by
    intro c hc u hu
    rw [hdeclared] at hc
    cases hc
    rcases hu with rfl | hu
    · exact readsInstance_offering
    · cases hu
      exact readsInstance_offering
  obtain ⟨w₂, u, hvalue, hu, hstores⟩ := build_present hp hmem ⟨hkind, hnullable⟩ hinhabited
    hoperation rfl hread (fun _ => rfl) hadapter
  have hstep : offering.transferMember a (.ref 0) (.ref 1) =
      ((offering.transferMember a (.ref 0) (.ref 1)).1, none) := Prod.ext rfl hsucceeds
  obtain ⟨key, stored, -, hheld, hunchanged, -⟩ := hstores 1 _ hstep
  have hplain : w₂.StoresPlainly 1 := by
    have hspends := World.transferred_spends offering a (.ref 0)
    rw [hvalue] at hspends
    exact hspends.plain (by decide) not_false rfl
  rw [hunchanged hplain] at hheld
  exact ⟨p, a, w₂, _, u, key, hp, hmem, ⟨hkind, hnullable⟩, hoperation, hvalue, hu, hstep, hheld⟩

end Memberwise
