import Memberwise.Proofs.TypeExpr.Spelling

/-! # Classes whose annotations are respelled

A class is respelled if some of its annotations are written in another spelling and all else is
left as it is.  What it binds and which fields it has stay the same, up to the spelling of types.
-/

namespace Memberwise

/-! ## Declarations -/

section Declarations

variable (classes : Classes)

/-- Whether annotations that may be missing are respelled. -/
abbrev RespelledIfAny : Option TypeExpr → Option TypeExpr → Prop :=
  Option.Rel (TypeExpr.Respelled classes)

structure Field.Respelled (f f' : Field) : Prop where
  outline : f'.outline = f.outline
  type : f.type.Respelled classes f'.type

structure Getter.Respelled (g g' : Getter) : Prop where
  body : g'.body = g.body
  isFunction : g'.isFunction = g.isFunction
  type : RespelledIfAny classes g.type g'.type

structure Setter.Respelled (s s' : Setter) : Prop where
  body : s'.body = s.body
  isFunction : s'.isFunction = s.isFunction
  type : RespelledIfAny classes s.type s'.type
  returns : RespelledIfAny classes s.returns s'.returns

structure Parameter.Respelled (p p' : Parameter) : Prop where
  outline : p'.outline = p.outline
  type : RespelledIfAny classes p.type p'.type

structure Initializer.Respelled (i i' : Initializer) : Prop where
  outline : i'.outline = i.outline
  parameters : List.Forall₂ (Parameter.Respelled classes) i.parameters i'.parameters

structure Maker.Respelled (m m' : Maker) : Prop where
  outline : m'.outline = m.outline
  parameters : List.Forall₂ (Parameter.Respelled classes) m.parameters m'.parameters

inductive Entry.Respelled : Entry → Entry → Prop
  | field {f f' : Field} (h : f.Respelled classes f') : Respelled (.field f) (.field f')
  | attribute (name : String) (v : Value) : Respelled (.attribute name v) (.attribute name v)
  | method (name : String) : Respelled (.method name) (.method name)
  | iteration (source : String) : Respelled (.iteration source) (.iteration source)
  | hidden (name : String) (v : Value) : Respelled (.hidden name v) (.hidden name v)
  | property (name : String) {g g' : Option Getter} {s s' : Option Setter}
      (getter : Option.Rel (Getter.Respelled classes) g g')
      (setter : Option.Rel (Setter.Respelled classes) s s') :
      Respelled (.property name g s) (.property name g' s')
  | maker {m m' : Maker} (h : m.Respelled classes m') : Respelled (.maker m) (.maker m')

structure ClassDecl.Respelled (c c' : ClassDecl) : Prop where
  name : c'.name = c.name
  kind : c'.kind = c.kind
  bases : c'.bases = c.bases
  slots : c'.slots = c.slots
  body : List.Forall₂ (Entry.Respelled classes) c.body c'.body
  init : Option.Rel (Initializer.Respelled classes) c.init c'.init

structure Class.Respelled (c c' : Class) : Prop where
  decl : c.decl.Respelled classes c'.decl
  lineage : c'.lineage = c.lineage

/-- Whether the classes of a program are respelled one by one. -/
def Classes.Respelled (classes' : Classes) : Prop :=
  List.Forall₂ (Class.Respelled classes) classes classes'

end Declarations

variable {classes classes' : Classes}

/-! ## Outlines -/

theorem Getter.Respelled.outline {g g' : Getter} (h : g.Respelled classes g') :
    g'.outline = g.outline := by
  unfold Getter.outline
  rw [h.body, h.isFunction]

theorem Setter.Respelled.outline {s s' : Setter} (h : s.Respelled classes s') :
    s'.outline = s.outline := by
  unfold Setter.outline
  rw [h.body, h.isFunction]

theorem Entry.Respelled.outline {e e' : Entry} (h : Entry.Respelled classes e e') :
    e'.outline = e.outline := by
  cases h with
  | field h => exact congrArg Entry.field h.outline
  | @property name g g' s s' getter setter =>
      have hgetter : g'.map Getter.outline = g.map Getter.outline :=
        map_eq_of_optionRel (fun _ _ h => h.outline) getter
      have hsetter : s'.map Setter.outline = s.map Setter.outline :=
        map_eq_of_optionRel (fun _ _ h => h.outline) setter
      simp only [Entry.outline, hgetter, hsetter]
  | maker h => exact congrArg Entry.maker h.outline
  | _ => rfl

theorem ClassDecl.Respelled.outline {c c' : ClassDecl} (h : c.Respelled classes c') :
    c'.outline = c.outline := by
  have hbody : c'.body.map Entry.outline = c.body.map Entry.outline :=
    map_eq_of_forall₂ (fun _ _ h => h.outline) h.body
  have hinit : c'.init.map Initializer.outline = c.init.map Initializer.outline :=
    map_eq_of_optionRel (fun _ _ h => h.outline) h.init
  unfold ClassDecl.outline
  rw [hbody, hinit, h.name, h.kind, h.bases, h.slots]

/-- Classes that are respelled differ in their annotations at most. -/
theorem Classes.Respelled.alike (h : classes.Respelled classes') : classes.Alike classes' := by
  refine map_eq_of_forall₂ (fun c c' hc => ?_) h
  unfold Class.outline
  rw [hc.decl.outline, hc.lineage]

/-! ## Entries -/

namespace Field.Respelled

variable {f f' : Field} (h : f.Respelled classes f')

include h

theorem name : f'.name = f.name := by
  show f'.outline.name = f.outline.name
  rw [h.outline]

theorem default : f'.default = f.default := by
  show f'.outline.default = f.outline.default
  rw [h.outline]

theorem inInit : f'.inInit = f.inInit := by
  show f'.outline.inInit = f.outline.inInit
  rw [h.outline]

theorem keywordOnly : f'.keywordOnly = f.keywordOnly := by
  show f'.outline.keywordOnly = f.outline.keywordOnly
  rw [h.outline]

theorem isInitOnly : f'.type.isInitOnly = f.type.isInitOnly := by
  rw [← TypeExpr.isInitOnly_outline, h.type.outline, TypeExpr.isInitOnly_outline]

end Field.Respelled

inductive Binding.Respelled (classes : Classes) : Binding → Binding → Prop
  | constant (v : Value) : Respelled classes (.constant v) (.constant v)
  | method : Respelled classes .method .method
  | iteration (source : String) : Respelled classes (.iteration source) (.iteration source)
  | slot : Respelled classes .slot .slot
  | property {g g' : Option Getter} {s s' : Option Setter}
      (getter : Option.Rel (Getter.Respelled classes) g g')
      (setter : Option.Rel (Setter.Respelled classes) s s') :
      Respelled classes (.property g s) (.property g' s')

namespace ClassDecl.Respelled

variable {c c' : ClassDecl} (h : c.Respelled classes c')

include h

theorem fields : List.Forall₂ (Field.Respelled classes) c.fields c'.fields := by
  apply List.rel_filterMap _ h.body
  intro e e' he
  cases he with
  | field hf => exact .some hf
  | _ => exact .none

theorem annotations : List.Forall₂ (Named (TypeExpr.Respelled classes)) c.annotations
    c'.annotations := by
  apply List.rel_foldl _ .nil h.fields
  intro known known' hknown f f' hf
  dsimp only
  have hany : known'.any (·.1 == f'.name) = known.any (·.1 == f.name) := by
    apply any_of_forall₂ _ hknown
    intro a b hab
    rw [hab.1, hf.name]
  rw [hany]
  split
  · apply List.rel_map _ hknown
    intro a b hab
    dsimp only
    rw [hab.1, hf.name]
    split
    · exact ⟨rfl, hf.type⟩
    · exact ⟨rfl, hab.2⟩
  · exact List.rel_append hknown (.cons ⟨hf.name, hf.type⟩ .nil)

theorem isModel : c'.isModel = c.isModel := by
  unfold ClassDecl.isModel
  rw [h.kind]

theorem isRecord : c'.isRecord = c.isRecord := by
  unfold ClassDecl.isRecord
  rw [h.kind]

theorem bodyBindings : List.Forall₂ (Named (Binding.Respelled classes)) c.bodyBindings
    c'.bodyBindings := by
  apply List.rel_foldl _ .nil h.body
  intro known known' hknown e e' he
  cases he with
  | field hf =>
      dsimp only
      rw [hf.default, hf.name, h.isModel]
      split
      · split
        · exact hknown
        · exact forall₂_enter hknown _ (.constant _)
      · exact hknown
  | «attribute» name v => exact forall₂_enter hknown name (.constant v)
  | method name => exact forall₂_enter hknown name .method
  | iteration source => exact forall₂_enter hknown "__iter__" (.iteration source)
  | hidden => exact hknown
  | @property name g g' s s' getter setter =>
      dsimp only
      rw [isSome_of_optionRel getter, isSome_of_optionRel setter]
      have hgetter := forall₂_ite g.isSome (forall₂_enter hknown ("_get_" ++ name) .method) hknown
      have hsetter := forall₂_ite s.isSome (forall₂_enter hgetter ("_set_" ++ name) .method) hgetter
      exact forall₂_enter hsetter name (.property getter setter)
  | maker => exact forall₂_enter hknown "__new__" .method

theorem slotNames : c'.slotNames = c.slotNames := by
  rw [← ClassDecl.slotNames_outline, h.outline, ClassDecl.slotNames_outline]

theorem bindings : List.Forall₂ (Named (Binding.Respelled classes)) c.bindings c'.bindings := by
  have hmethod : ∀ name, List.Forall₂ (Named (Binding.Respelled classes)) [(name, .method)]
      [(name, .method)] := fun name => .cons ⟨rfl, .method⟩ .nil
  have hkind : List.Forall₂ (Named (Binding.Respelled classes)) c.kindBindings c'.kindBindings := by
    unfold ClassDecl.kindBindings
    rw [h.kind]
    split
    · exact List.rel_append (List.rel_append (hmethod _) (forall₂_ite _ (hmethod _) .nil))
        (forall₂_ite _ (hmethod _) .nil)
    · exact .nil
  have hbody := List.rel_append
    (List.rel_append h.bodyBindings (forall₂_ite c.init.isSome (hmethod "__init__") .nil)) hkind
  unfold ClassDecl.bindings
  dsimp only
  rw [h.slotNames, isSome_of_optionRel h.init]
  split
  · exact hbody
  · rename_i names _
    apply List.rel_append (forall₂_filter_name hbody fun name => !names.contains name)
    apply List.rel_map _ (List.forall₂_same.mpr fun name _ => (rfl : name = name))
    rintro name _ rfl
    exact ⟨rfl, .slot⟩

end ClassDecl.Respelled

namespace Classes.Respelled

variable (h : classes.Respelled classes')

include h

/-! ## Look-ups -/

theorem find? (name : String) :
    Option.Rel (Class.Respelled classes) (classes.find? name) (classes'.find? name) :=
  find?_of_forall₂ (fun c c' hc => by rw [hc.decl.name]) h

theorem declOf? (c : ClassRef) :
    Option.Rel (ClassDecl.Respelled classes) (classes.declOf? c) (classes'.declOf? c) := by
  cases c with
  | builtin b => exact .none
  | declared name =>
      have hfound := h.find? name
      show Option.Rel _ ((classes.find? name).map Class.decl) ((classes'.find? name).map Class.decl)
      revert hfound
      generalize classes.find? name = found
      generalize classes'.find? name = found'
      intro hfound
      cases hfound with
      | none => exact .none
      | some hclass => exact .some hclass.decl

theorem declsOf (c : ClassRef) :
    List.Forall₂ (ClassDecl.Respelled classes) (classes.declsOf c) (classes'.declsOf c) := by
  unfold Classes.declsOf
  rw [h.alike.lineageOf]
  exact forall₂_filterMap h.declOf? _

/-! ## Fields -/

/-- Whether two fields have one name and a type in two spellings. -/
def SameField (classes : Classes) (f f' : Field) : Prop :=
  f'.name = f.name ∧ f.type.Respelled classes f'.type

omit h in
theorem mergeField_sameField {known known' : List Field}
    (hknown : List.Forall₂ (SameField classes) known known') {f f' : Field}
    (hf : SameField classes f f') :
    List.Forall₂ (SameField classes) (mergeField known f) (mergeField known' f') :=
  forall₂_upsert Field.name Field.name (fun _ _ hfield => hfield.1) hknown hf

omit h in
theorem ownEntries {c c' : ClassDecl} (hc : c.Respelled classes c') :
    List.Forall₂ (SameField classes) (classes.ownEntries c) (classes'.ownEntries c') := by
  unfold Classes.ownEntries
  apply List.rel_map _ hc.fields
  intro f f' hf
  exact ⟨hf.name, hf.type⟩

omit h in
/-- Class variables are class variables in every spelling. -/
theorem filter_not_isClassVariable {fields fields' : List Field}
    (hfields : List.Forall₂ (SameField classes) fields fields') :
    List.Forall₂ (SameField classes) (fields.filter fun f => !f.type.isClassVariable)
      (fields'.filter fun f => !f.type.isClassVariable) := by
  apply List.rel_filter _ hfields
  intro f f' hf
  dsimp only
  rw [hf.2.isClassVariable]

/-- The fields of a record class have their types in two spellings. -/
theorem recordArguments (c : ClassRef) : List.Forall₂ (SameField classes)
    (classes.recordArguments c) (classes'.recordArguments c) := by
  have hdecls : List.Forall₂ (ClassDecl.Respelled classes) (classes.recordDecls c)
      (classes'.recordDecls c) := by
    apply List.rel_reverse
    apply List.rel_filter _ (h.declsOf c)
    intro decl decl' hdecl
    dsimp only
    rw [hdecl.isRecord]
  apply filter_not_isClassVariable
  apply List.rel_foldl _ .nil hdecls
  intro known known' hknown decl decl' hdecl
  apply List.rel_foldl _ hknown (ownEntries hdecl)
  intro known known' hknown f f' hf
  exact mergeField_sameField hknown hf

/-- The fields of a record class differ in their types at most. -/
theorem respelledArguments (c : ClassRef) : List.Forall₂ (Field.Respelled classes)
    (classes.recordArguments c) (classes'.recordArguments c) := by
  have houtlines : List.Forall₂ (fun f f' : Field => f'.outline = f.outline)
      (classes.recordArguments c) (classes'.recordArguments c) := by
    have hsame := (h.alike.recordArguments c).symm
    rw [← List.forall₂_eq_eq_eq, List.forall₂_map_left_iff, List.forall₂_map_right_iff] at hsame
    exact hsame.imp fun f f' hf => hf.symm
  exact List.Forall₂.mp (fun f f' hf houtline => ⟨houtline, hf.2⟩) (h.recordArguments c) houtlines

/-- The fields of a model have their types in two spellings. -/
theorem modelFields (c : ClassRef) : List.Forall₂ (SameField classes)
    (classes.modelFields c) (classes'.modelFields c) := by
  apply filter_not_isClassVariable
  apply List.rel_foldl _ .nil (List.rel_reverse (h.declsOf c))
  intro known known' hknown decl decl' hdecl
  have hkept : List.Forall₂ (Field.Respelled classes)
      (decl.fields.filter fun f => !f.name.startsWith "_")
      (decl'.fields.filter fun f => !f.name.startsWith "_") := by
    apply List.rel_filter _ hdecl.fields
    intro f f' hf
    dsimp only
    rw [hf.name]
  apply List.rel_foldl _ hknown hkept
  intro known known' hknown f f' hf
  exact mergeField_sameField hknown ⟨Field.Respelled.name hf, hf.type⟩

end Classes.Respelled

end Memberwise
