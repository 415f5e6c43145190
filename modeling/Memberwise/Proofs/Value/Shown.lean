import Memberwise.Conversion
import Memberwise.Proofs.TypeExpr.Same
import Memberwise.Proofs.Value.Renaming

/-! # Values as text at other places

Messages name no places and no annotations, so a value is shown alike wherever its objects are and
whatever its classes say of types.
-/

namespace Memberwise.Classes

variable {classes classes' : Classes} {ρ : Place → Place}

/-! ## Attributes -/

section Attributes

variable {ε α : Type} {ofConstant : Value → Except ε α} {c : ClassRef}
  {own : List (String × Except ε α)} {name : String}

theorem storedOf_outline (classes : Classes) (missing : ε) :
    classes.outline.storedOf missing ofConstant c own name =
      classes.storedOf missing ofConstant c own name := by
  unfold storedOf
  rw [binding?_outline]
  cases own.lookup name with
  | some found => rfl
  | none =>
      cases classes.binding? c name with
      | none => rfl
      | some b => cases b <;> rfl

theorem attributeOf_outline (classes : Classes) (unread : RenderFault → ε) :
    classes.outline.attributeOf unread ofConstant c own name =
      classes.attributeOf unread ofConstant c own name := by
  unfold attributeOf
  simp only [binding?_outline, storedOf_outline]
  cases classes.binding? c name with
  | none => rfl
  | some b =>
      cases b with
      | constant | method | iteration | slot => rfl
      | property getter setter =>
          cases getter with
          | none => rfl
          | some getter => rfl

theorem storedOf_eq_ok {missing : ε} {result : α}
    (h : classes.storedOf missing ofConstant c own name = .ok result) :
    (∃ entry ∈ own, entry.2 = .ok result) ∨ ∃ v, ofConstant v = .ok result := by
  unfold storedOf at h
  split at h
  · exact .inl ⟨_, mem_of_lookup ‹_›, h⟩
  · split at h
    · exact .inr ⟨_, h⟩
    · cases h

/-- What is made of an attribute is made of one of the object or of what its class keeps. -/
theorem attributeOf_eq_ok {unread : RenderFault → ε} {result : α}
    (h : classes.attributeOf unread ofConstant c own name = .ok result) :
    (∃ entry ∈ own, entry.2 = .ok result) ∨ ∃ v, ofConstant v = .ok result := by
  unfold attributeOf at h
  split at h
  · split at h
    · exact storedOf_eq_ok h
    · exact .inr ⟨_, h⟩
    · cases h
  · cases h
  · exact storedOf_eq_ok h

end Attributes

theorem fieldTexts_outline (classes : Classes)
    (constantText : Value → Except RenderFault (List Char)) (c : ClassRef)
    (shown : List (String × Except RenderFault (List Char))) :
    classes.outline.fieldTexts constantText c shown = classes.fieldTexts constantText c shown := by
  unfold fieldTexts
  simp only [isModel_outline, showingClass?_outline, recordFields_outline, attributeOf_outline,
    List.mapM_map]
  rfl

theorem Alike.fieldTexts (h : Alike classes classes')
    (constantText : Value → Except RenderFault (List Char)) (c : ClassRef)
    (shown : List (String × Except RenderFault (List Char))) :
    classes'.fieldTexts constantText c shown = classes.fieldTexts constantText c shown :=
  h.congr (q := (·.fieldTexts constantText c shown)) (fieldTexts_outline · constantText c shown)

/-! ## Values -/

theorem Alike.renderClass (h : Alike classes classes') (c : ClassRef) :
    classes'.renderClass c = classes.renderClass c := by
  simp only [Classes.renderClass, h.isEnumeration]

theorem Alike.renderAtom (h : Alike classes classes') (a : Atom) :
    classes'.renderAtom a = classes.renderAtom a := by
  cases a <;> simp only [Classes.renderAtom, h.renderClass]

section Trees

variable {constantText : Value → Except RenderFault (List Char)}

theorem renderTrees_rename {items : List Value}
    (ih : ∀ v ∈ items,
      classes'.renderTree constantText (v.rename ρ) = classes.renderTree constantText v) :
    classes'.renderTrees constantText (items.map (Value.rename ρ)) =
      classes.renderTrees constantText items := by
  induction items with
  | nil => rfl
  | cons v rest ihrest =>
      rw [List.forall_mem_cons] at ih
      simp only [List.map_cons, renderTrees, ih.1, ihrest ih.2]

theorem renderEntries_rename {entries : List (Value × Value)}
    (ih : ∀ entry ∈ entries,
      classes'.renderTree constantText (entry.1.rename ρ) = classes.renderTree constantText entry.1 ∧
      classes'.renderTree constantText (entry.2.rename ρ) =
        classes.renderTree constantText entry.2) :
    classes'.renderEntries constantText
        (entries.map fun entry => (entry.1.rename ρ, entry.2.rename ρ)) =
      classes.renderEntries constantText entries := by
  induction entries with
  | nil => rfl
  | cons entry rest ihrest =>
      rw [List.forall_mem_cons] at ih
      simp only [List.map_cons, renderEntries, ih.1.1, ih.1.2, ihrest ih.2]

theorem renderAttributes_rename {attributes : List (String × Value)}
    (ih : ∀ entry ∈ attributes,
      classes'.renderTree constantText (entry.2.rename ρ) =
        classes.renderTree constantText entry.2) :
    classes'.renderAttributes constantText
        (attributes.map fun entry => (entry.1, entry.2.rename ρ)) =
      classes.renderAttributes constantText attributes := by
  induction attributes with
  | nil => rfl
  | cons entry rest ihrest =>
      rw [List.forall_mem_cons] at ih
      simp only [List.map_cons, renderAttributes, ih.1, ihrest ih.2]

theorem Alike.renderTree_rename (h : Alike classes classes') (v : Value) :
    classes'.renderTree constantText (v.rename ρ) = classes.renderTree constantText v := by
  induction v using Value.parts with
  | atom a => cases a <;> simp only [Value.rename_atom, renderTree, h.memberValue, h.renderAtom]
  | seq place kind items ih =>
      rw [Value.rename_seq]
      cases kind with
      | bytearray =>
          simp only [renderTree, List.filterMap_map]
          congr 5
          funext v
          cases v <;> rfl
      | bag name => rfl
      | _ => simp only [renderTree, renderTrees_rename ih]
  | dict place entries ih =>
      rw [Value.rename_dict]
      simp only [renderTree, renderEntries_rename ih]
  | object place name core attributes ih =>
      rw [Value.rename_object]
      cases core with
      | some core => simp only [renderTree, h.renderAtom]
      | none =>
          simp only [renderTree, h.isModel, h.showingClass?, h.fieldTexts,
            renderAttributes_rename ih]

end Trees

theorem Alike.renderWithin (h : Alike classes classes') (depth : Nat) :
    classes'.renderWithin depth = classes.renderWithin depth := by
  have hid : ∀ constantText : Value → Except RenderFault (List Char),
      classes'.renderTree constantText = classes.renderTree constantText := by
    intro constantText
    funext v
    have hv : classes'.renderTree constantText (v.rename id) = classes.renderTree constantText v :=
      h.renderTree_rename v
    rwa [Value.rename_id] at hv
  induction depth with
  | zero => exact hid _
  | succ depth ih =>
      show classes'.renderTree (classes'.renderWithin depth) = _
      rw [ih]
      exact hid _

theorem Alike.render_rename (h : Alike classes classes') (v : Value) :
    classes'.render (v.rename ρ) = classes.render v := by
  show classes'.renderTree (classes'.renderWithin classes'.length) (v.rename ρ) = _
  rw [h.length, h.renderWithin]
  exact h.renderTree_rename v

theorem Alike.render (h : Alike classes classes') : classes'.render = classes.render := by
  funext v
  have hv := h.render_rename (ρ := id) v
  rwa [Value.rename_id] at hv

theorem Alike.plainText_rename (h : Alike classes classes') (v : Value) :
    classes'.plainText (v.rename ρ) = classes.plainText v := by
  have hrender := h.render_rename (ρ := ρ)
  cases v with
  | atom a => cases a <;> simp only [Value.rename_atom, plainText, h.render]
  | seq place kind items =>
      have hseq := hrender (.seq place kind items)
      rw [Value.rename_seq] at hseq ⊢
      exact hseq
  | dict place entries =>
      have hdict := hrender (.dict place entries)
      rw [Value.rename_dict] at hdict ⊢
      exact hdict
  | object place name core attributes =>
      have hobject := hrender (.object place name core attributes)
      rw [Value.rename_object] at hobject ⊢
      cases core with
      | some core =>
          simp only [plainText, Value.core?, hobject]
      | none =>
          have hfields : attributes.map (fun entry => (entry.1, classes.render (entry.2.rename ρ))) =
              attributes.map fun entry => (entry.1, classes.render entry.2) :=
            List.map_congr_left fun entry _ =>
              Prod.ext rfl (render_rename (rfl : Alike classes classes) entry.2)
          simp only [plainText, h.isModel, hobject, h.fieldTexts, h.render, List.map_map,
            Function.comp_def, hfields]

theorem Alike.typeName_rename (h : Alike classes classes') (v : Value) :
    classes'.typeName (v.rename ρ) = classes.typeName v := by
  cases v with
  | atom a =>
      cases a <;> simp only [Value.rename_atom, Classes.typeName, h.isEnumeration, h.isModel,
        h.isAbstract]
  | _ => rfl

theorem Alike.shown_rename (h : Alike classes classes') (v : Value) :
    classes'.shown (v.rename ρ) = classes.shown v := by
  simp only [Classes.shown, h.render_rename]

/-! ## Types -/

theorem Alike.valueText (h : Alike classes classes') (v : Value) :
    classes'.valueText v = classes.valueText v := by
  simp only [Classes.valueText, h.render]

theorem innerTexts_congr {types : List TypeExpr}
    (ih : ∀ t ∈ types, classes'.innerText t = classes.innerText t) :
    classes'.innerTexts types = classes.innerTexts types := by
  induction types with
  | nil => simp only [innerTexts]
  | cons t rest ihrest =>
      rw [List.forall_mem_cons] at ih
      simp only [innerTexts, ih.1, ihrest ih.2]

theorem Alike.innerText (h : Alike classes classes') (t : TypeExpr) :
    classes'.innerText t = classes.innerText t := by
  -- Notes within notes are written side by side, so both texts of a type go together.
  suffices hboth : classes'.innerText t = classes.innerText t ∧
      classes'.annotatedTexts t = classes.annotatedTexts t from hboth.1
  induction t using TypeExpr.parts with
  | cls | special | generic | forward | ellipsis =>
      simp only [Classes.innerText, annotatedTexts, and_self]
  | applied head args ih =>
      simp only [Classes.innerText, annotatedTexts, innerTexts_congr fun t ht => (ih t ht).1, and_self]
  | union style members ih =>
      simp only [Classes.innerText, annotatedTexts, innerTexts_congr fun t ht => (ih t ht).1, and_self]
  | literal | value => simp only [Classes.innerText, annotatedTexts, h.valueText, and_self]
  | annotated t ih => simp only [Classes.innerText, annotatedTexts, ih.2, and_self]
  | initOnly mark t ih =>
      have htext : classes'.innerText (.initOnly mark t) = classes.innerText (.initOnly mark t) := by
        cases t <;> simp only [Classes.innerText, ih.1]
      exact ⟨htext, by simp only [annotatedTexts, htext]⟩

theorem Alike.renderType (h : Alike classes classes') (t : TypeExpr) :
    classes'.renderType t = classes.renderType t := by
  cases t <;> simp only [Classes.renderType, h.renderClass, h.innerText]

theorem Alike.targetName (h : Alike classes classes') (t : TypeExpr) :
    classes'.targetName t = classes.targetName t := by
  cases t with
  | applied head args => cases head <;> rfl
  | union style members => cases style <;> simp only [Classes.targetName, h.renderType]
  | cls | special | generic | literal | annotated => rfl
  | initOnly | forward | ellipsis | value => simp only [Classes.targetName, h.renderType]

theorem Alike.conversionFault_rename (h : Alike classes classes') (v : Value) (target : TypeExpr)
    (reason : ConversionReason) :
    classes'.conversionFault (v.rename ρ) target reason =
      classes.conversionFault v target reason := by
  simp only [conversionFault, h.shown_rename, h.typeName_rename, h.targetName]

end Memberwise.Classes
