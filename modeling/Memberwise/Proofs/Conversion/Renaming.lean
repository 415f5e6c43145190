import Memberwise.Proofs.Schema.Plain
import Memberwise.Proofs.Schema.Records

/-! # Conversions at other places

A conversion of the renamed value gives the renamed result, and fails where that of the value
fails, with the same fault.
-/

namespace Memberwise.Conversion

open Classes (Alike)
open Schema (ReadsAlike)

variable {classes classes' : Classes} {ρ : Place → Place} {settled : String → Prop}
  {known known' : SchemaCache}

theorem isConverted_rename (h : Alike classes classes') (v : Value) (target : TypeExpr) :
    isConverted classes' (v.rename ρ) target = isConverted classes v target := by
  unfold isConverted
  cases target.plainClass? with
  | none => rfl
  | some c =>
      have hinstance := h.isInstance_rename (ρ := ρ) v c
      cases v with
      | atom a => simp only [Value.rename_atom, Classes.isInstance, h.isSubclass]
      | seq place kind items => simpa only [Value.rename_seq] using hinstance
      | dict place entries => simpa only [Value.rename_dict] using hinstance
      | object place name core attributes => simpa only [Value.rename_object] using hinstance

theorem ownSchema?_rename (h : ReadsAlike settled classes classes') (v : Value) :
    ownSchema? classes' (v.rename ρ) = ownSchema? classes v := by
  have htype := h.alike.typeName_rename (ρ := ρ) v
  cases v with
  | atom a => cases a <;> simp only [Value.rename_atom] at htype ⊢ <;>
      simp only [ownSchema?, htype, h.describes]
  | seq place kind items =>
      rw [Value.rename_seq]
      exact h.describes _
  | dict place entries =>
      rw [Value.rename_dict]
      exact h.describes _
  | object place name core attributes =>
      rw [Value.rename_object]
      exact h.describes _

theorem scalarKind?_congr (h : Alike classes classes') :
    classes'.scalarKind? = classes.scalarKind? := by
  funext c
  simp only [Classes.scalarKind?, h.isEnumeration, Classes.descendsFrom, h.lineageOf]

/-- Whether the classes behind the schema that a type is read by are among given ones. -/
def IsSettled (settled : String → Prop) (classes : Classes) (known : SchemaCache)
    (target : TypeExpr) : Prop :=
  ∀ schema, known.schema? classes target = some schema →
    ∀ name ∈ schema.references, settled name

theorem convertBySchema_rename (h : ReadsAlike settled classes classes') (hρ : ρ.Injective)
    {target : TypeExpr} (hsettled : IsSettled settled classes known target)
    (hknown : target.isHashable classes = true →
      known'.schema? classes' target = known.schema? classes target) (v : Value) :
    convertBySchema classes' known' (v.rename ρ) target =
      (convertBySchema classes known v target).map (Value.rename ρ) := by
  have hread : ∀ u : Value, target.isHashable classes = true →
      (known'.schema? classes' target).bind (Schema.read? classes' · (u.rename ρ)) =
        ((known.schema? classes target).bind (Schema.read? classes · u)).map (Value.rename ρ) := by
    intro u hhashable
    rw [hknown hhashable]
    cases hschema : known.schema? classes target with
    | none => rfl
    | some schema => exact Schema.read?_rename h hρ schema (hsettled schema hschema) u
  unfold convertBySchema
  dsimp only
  rw [TypeExpr.isHashable_congr h.alike]
  cases hhashable : target.isHashable classes with
  | false => rfl
  | true =>
      simp only [Bool.not_true, Bool.false_eq_true, if_false]
      rw [hread v hhashable, ownSchema?_rename h, Schema.plain_rename h.alike hρ]
      cases (known.schema? classes target).bind (Schema.read? classes · v) with
      | some result => rfl
      | none =>
          simp only [Option.map_none, h.alike.conversionFault_rename]
          cases ownSchema? classes v with
          | none => rfl
          | some own =>
              cases hplain : Schema.plain classes v with
              | error fault => rfl
              | ok plain =>
                  -- The plain form is new, so that the renaming does nothing to it.
                  have hnew : plain.rename ρ = plain :=
                    (Schema.isPlain_of_plain hplain).rename ρ
                  have hconverted := isConverted_rename (ρ := ρ) h.alike plain target
                  have hplainRead := hread plain hhashable
                  rw [hnew] at hconverted hplainRead
                  simp only [hconverted, hplainRead]
                  split
                  · exact congrArg Except.ok hnew.symm
                  · cases (known.schema? classes target).bind (Schema.read? classes · plain) <;> rfl

theorem meansFor_rename (h : Alike classes classes') (v : Value) (target : TypeExpr) :
    meansFor classes' (v.rename ρ) target = meansFor classes v target := by
  simp only [meansFor, isConverted_rename h, Value.classOf_rename, Value.core?_rename,
    scalarKind?_congr h]

/-- A renaming changes neither whether a value is converted nor to what. -/
theorem convertPresent_rename (h : ReadsAlike settled classes classes') (hρ : ρ.Injective)
    {type type' : TypeExpr} (htype : type'.unwrapOptional = type.unwrapOptional)
    (hsettled : IsSettled settled classes known type.unwrapOptional) (v : Value)
    (hknown : meansFor classes v type.unwrapOptional = .schema →
      type.unwrapOptional.isHashable classes = true →
      known'.schema? classes' type.unwrapOptional = known.schema? classes type.unwrapOptional) :
    convertPresent classes' known' (v.rename ρ) type' =
      (convertPresent classes known v type).map (Value.rename ρ) := by
  unfold convertPresent
  dsimp only
  rw [htype, meansFor_rename h.alike]
  cases hmeans : meansFor classes v type.unwrapOptional with
  | none => rfl
  | scalar kind a =>
      simp only [h.alike.typeName_rename, h.alike.conversionFault_rename]
      split <;> rfl
  | schema => exact convertBySchema_rename h hρ hsettled (hknown hmeans) v

/-- A conversion makes no places of its own. -/
theorem within_of_convertPresent {C : Place → Prop} {v result : Value} {type : TypeExpr}
    (hv : v.Within C) (h : convertPresent classes known v type = .ok result) :
    result.Within C := by
  apply hv.of_commutes (f := fun v => (convertPresent classes known v type).toOption) _
    (toOption_eq_some.mpr h)
  intro ρ hρ
  rw [convertPresent_rename (.refl classes) hρ rfl (fun _ _ _ _ => trivial) v fun _ _ => rfl]
  cases convertPresent classes known v type <;> rfl

/-- Whether the schema of a type is asked for when a value is converted into it. -/
def asksSchema (classes : Classes) (v : Value) (target : TypeExpr) : Bool :=
  match meansFor classes v target with
  | .schema => !v.isNone
  | _ => false

theorem knownAfter_eq (classes : Classes) (known : SchemaCache) (v : Value) (type : TypeExpr) :
    knownAfter classes known v type =
      if asksSchema classes v type.unwrapOptional then known.remember classes type.unwrapOptional
      else known := by
  unfold knownAfter asksSchema
  dsimp only
  cases v.isNone <;> cases meansFor classes v type.unwrapOptional <;> rfl

theorem asksSchema_rename (h : Alike classes classes') (v : Value) (target : TypeExpr) :
    asksSchema classes' (v.rename ρ) target = asksSchema classes v target := by
  unfold asksSchema
  rw [meansFor_rename h, Value.isNone_rename]

end Memberwise.Conversion
