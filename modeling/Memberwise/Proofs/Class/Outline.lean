import Memberwise.Proofs.KeyedList
import Memberwise.Member.Discovery

/-! # Classes without their annotations

What a program does with its objects is decided by what its classes bind and by how they are
made, not by what they say of types.  The outline of a class keeps all but its annotations; of an
annotation it keeps whether it makes a field, a class variable or an argument.
-/

namespace Memberwise

/-! ## Outlines -/

/-- What an annotation says besides the type. -/
def TypeExpr.outline (t : TypeExpr) : TypeExpr :=
  if t.isClassVariable then .special .classVar
  else if t.isInitOnly then .initOnly 0 .any
  else .any

def Field.outline (f : Field) : Field := { f with type := f.type.outline }

def Getter.outline (g : Getter) : Getter := { g with type := none }

def Setter.outline (s : Setter) : Setter := { s with type := none, returns := none }

theorem Setter.body_outline (s : Setter) : s.outline.body = s.body := rfl

def Parameter.outline (p : Parameter) : Parameter := { p with type := none }

def Maker.outline (m : Maker) : Maker := { m with parameters := m.parameters.map Parameter.outline }

def Entry.outline : Entry → Entry
  | .field f => .field f.outline
  | .property name getter setter =>
    .property name (getter.map Getter.outline) (setter.map Setter.outline)
  | .maker m => .maker m.outline
  | entry => entry

def Initializer.outline (i : Initializer) : Initializer :=
  { i with parameters := i.parameters.map Parameter.outline }

def ClassDecl.outline (c : ClassDecl) : ClassDecl :=
  { c with body := c.body.map Entry.outline, init := c.init.map Initializer.outline }

def Class.outline (c : Class) : Class := { c with decl := c.decl.outline }

def Classes.outline (classes : Classes) : Classes := classes.map Class.outline

def Binding.outline : Binding → Binding
  | .property getter setter => .property (getter.map Getter.outline) (setter.map Setter.outline)
  | b => b

@[simp]
theorem TypeExpr.isClassVariable_outline (t : TypeExpr) :
    t.outline.isClassVariable = t.isClassVariable := by
  unfold outline
  split
  · rename_i h
    rw [h]
    rfl
  · rename_i h
    rw [Bool.not_eq_true] at h
    split <;> rw [h] <;> rfl

@[simp]
theorem TypeExpr.isInitOnly_outline (t : TypeExpr) : t.outline.isInitOnly = t.isInitOnly := by
  cases t <;> try rfl
  all_goals
    unfold outline
    split <;> rfl

/-! ## Declarations -/

namespace ClassDecl

variable (c : ClassDecl)

@[simp] theorem name_outline : c.outline.name = c.name := rfl

@[simp] theorem kind_outline : c.outline.kind = c.kind := rfl

@[simp] theorem isRecord_outline : c.outline.isRecord = c.isRecord := rfl

@[simp] theorem isModel_outline : c.outline.isModel = c.isModel := rfl

@[simp] theorem slots_outline : c.outline.slots = c.slots := rfl

@[simp]
theorem fields_outline : c.outline.fields = c.fields.map Field.outline := by
  simp only [fields, outline]
  rw [List.filterMap_map, List.map_filterMap]
  congr 1
  funext entry
  cases entry <;> rfl

/-- A fold over mapped elements, in states that are mapped likewise. -/
theorem foldl_map_hom {α β σ τ : Type} {f : σ → τ} {g : α → β} {step : σ → α → σ}
    {step' : τ → β → τ} (h : ∀ s a, step' (f s) (g a) = f (step s a)) (s : σ) (l : List α) :
    (l.map g).foldl step' (f s) = f (l.foldl step s) := by
  rw [List.foldl_map]
  exact List.foldl_hom f (fun s a => h s a)

/-- The annotations of an outline have the names of those of the class. -/
theorem annotations_outline :
    c.outline.annotations = c.annotations.map fun entry => (entry.1, entry.2.outline) := by
  unfold annotations
  rw [fields_outline]
  let mark (known : List (String × TypeExpr)) := known.map fun entry => (entry.1, entry.2.outline)
  refine foldl_map_hom (f := mark) (fun known f => ?_) [] c.fields
  have hany : (mark known).any (·.1 == f.outline.name) = known.any (·.1 == f.name) := by
    rw [List.any_map]
    rfl
  rw [hany]
  by_cases hknown : known.any (·.1 == f.name) = true
  · rw [if_pos hknown, if_pos hknown]
    simp only [mark, List.map_map]
    refine List.map_congr_left fun entry _ => ?_
    show (if (entry.1 == f.name) = true then _ else _) = _
    simp only [Function.comp_apply]
    split <;> rfl
  · rw [if_neg hknown, if_neg hknown]
    simp only [mark, List.map_append]
    rfl

@[simp]
theorem slotNames_outline : c.outline.slotNames = c.slotNames := by
  unfold slotNames
  rw [annotations_outline]
  simp only [kind_outline, slots_outline, List.filter_map, List.map_map, Function.comp_def,
    TypeExpr.isClassVariable_outline, TypeExpr.isInitOnly_outline]

/-- Bindings without the annotations of properties. -/
def outlines (bindings : List (String × Binding)) : List (String × Binding) :=
  bindings.map fun entry => (entry.1, entry.2.outline)

theorem bodyBindings_outline : c.outline.bodyBindings = outlines c.bodyBindings := by
  unfold bodyBindings
  rw [show c.outline.body = c.body.map Entry.outline from rfl]
  refine foldl_map_hom (f := outlines) (fun known entry => ?_) [] c.body
  have hinsert : ∀ (known : List (String × Binding)) (name : String) (b : Binding),
      (if (outlines known).any (·.1 == name) then
        (outlines known).map fun entry => if entry.1 == name then (name, b.outline) else entry
      else outlines known ++ [(name, b.outline)]) =
      outlines (if known.any (·.1 == name) then
        known.map fun entry => if entry.1 == name then (name, b) else entry
      else known ++ [(name, b)]) := by
    intro known name b
    exact (map_upsert (f := fun entry : String × Binding => (entry.1, entry.2.outline))
      Prod.fst Prod.fst (fun _ => rfl) (name, b) known).symm
  cases entry with
  | field f =>
      cases hdefault : f.default <;> simp only [Entry.outline, Field.outline, hdefault]
      rw [isModel_outline]
      split
      · rfl
      · exact hinsert known f.name (.constant _)
  | «attribute» name v => exact hinsert known name (.constant v)
  | method name => exact hinsert known name .method
  | iteration source => exact hinsert known "__iter__" (.iteration source)
  | hidden name v => rfl
  | property name getter setter =>
      simp only [Entry.outline, Option.isSome_map]
      have hproperty (known : List (String × Binding)) := hinsert known name (.property getter setter)
      have hmethod (known : List (String × Binding)) (name : String) := hinsert known name .method
      simp only [Binding.outline] at hproperty hmethod
      split <;> split <;> simp only [hmethod, hproperty]
  | maker m => exact hinsert known "__new__" .method

theorem maker?_outline : c.outline.maker? = c.maker?.map Maker.outline := by
  unfold maker?
  rw [show c.outline.body = c.body.map Entry.outline from rfl, List.filterMap_map,
    ← List.getLast?_map, List.map_filterMap]
  congr 2
  funext entry
  cases entry <;> rfl

theorem kindBindings_outline : outlines c.kindBindings = c.kindBindings := by
  unfold kindBindings
  split
  · rename_i append add _ _
    cases append <;> cases add <;> rfl
  · rfl

theorem outlines_append (bs bs' : List (String × Binding)) :
    outlines (bs ++ bs') = outlines bs ++ outlines bs' := List.map_append

theorem outlines_filter (names : List String) (bs : List (String × Binding)) :
    (outlines bs).filter (fun entry => !names.contains entry.1) =
      outlines (bs.filter fun entry => !names.contains entry.1) := List.filter_map

theorem bindings_outline : c.outline.bindings = outlines c.bindings := by
  have hinit : (if c.outline.init.isSome then [("__init__", .method)] else []) =
      outlines (if c.init.isSome then [("__init__", .method)] else []) := by
    rw [show c.outline.init.isSome = c.init.isSome from Option.isSome_map]
    split <;> rfl
  have hkind : c.outline.kindBindings = outlines c.kindBindings := (kindBindings_outline c).symm
  unfold bindings
  dsimp only
  rw [bodyBindings_outline, hinit, hkind, slotNames_outline, ← outlines_append, ← outlines_append]
  split
  · rfl
  · rename_i names _
    have hslots : outlines (names.map fun name => (name, .slot)) =
        names.map fun name => (name, .slot) := List.map_map
    rw [outlines_filter, outlines_append, hslots]

theorem lookup_outlines (name : String) (bs : List (String × Binding)) :
    (outlines bs).lookup name = (bs.lookup name).map Binding.outline :=
  lookup_map Binding.outline bs name

end ClassDecl

/-! ## Look-ups along a lineage -/

namespace Classes

variable (classes : Classes)

theorem find?_outline (name : String) :
    classes.outline.find? name = (classes.find? name).map Class.outline := by
  unfold outline find?
  rw [List.find?_map]
  rfl

theorem declOf?_outline (c : ClassRef) :
    classes.outline.declOf? c = (classes.declOf? c).map ClassDecl.outline := by
  cases c with
  | builtin b => rfl
  | declared name =>
      simp only [declOf?, find?_outline, Option.map_map]
      rfl

@[simp]
theorem kindOf?_outline (name : String) : classes.outline.kindOf? name = classes.kindOf? name := by
  simp only [kindOf?, find?_outline, Option.map_map]
  rfl

@[simp]
theorem lineageOf_outline (c : ClassRef) : classes.outline.lineageOf c = classes.lineageOf c := by
  cases c with
  | builtin b => rfl
  | declared name =>
      simp only [lineageOf, find?_outline]
      cases classes.find? name <;> rfl

theorem declsOf_outline (c : ClassRef) :
    classes.outline.declsOf c = (classes.declsOf c).map ClassDecl.outline := by
  unfold declsOf
  rw [lineageOf_outline, List.map_filterMap]
  simp only [declOf?_outline]

theorem bindingsOf_outline (c : ClassRef) :
    classes.outline.bindingsOf c = ClassDecl.outlines (classes.bindingsOf c) := by
  cases c with
  | builtin b =>
      simp only [bindingsOf, ClassDecl.outlines, List.map_map]
      rfl
  | declared name =>
      simp only [bindingsOf, find?_outline]
      cases classes.find? name with
      | none => rfl
      | some found => exact found.decl.bindings_outline

theorem ownedBinding?_outline (c : ClassRef) (name : String) :
    classes.outline.ownedBinding? c name =
      (classes.ownedBinding? c name).map fun found => (found.1, found.2.outline) := by
  unfold ownedBinding?
  rw [lineageOf_outline, List.map_findSome?]
  congr 1
  funext parent
  simp only [Function.comp_apply, bindingsOf_outline, ClassDecl.lookup_outlines, Option.map_map]
  rfl

theorem binding?_outline (c : ClassRef) (name : String) :
    classes.outline.binding? c name = (classes.binding? c name).map Binding.outline := by
  unfold binding?
  rw [ownedBinding?_outline, Option.map_map, Option.map_map]
  rfl

@[simp]
theorem isIterable_outline (c : ClassRef) : classes.outline.isIterable c = classes.isIterable c := by
  unfold isIterable
  rw [binding?_outline, lineageOf_outline]
  cases classes.binding? c "__iter__" with
  | none => rfl
  | some b =>
      cases b with
      | constant v => rfl
      | _ => rfl

theorem iterationOf_outline (c : ClassRef) :
    classes.outline.iterationOf c = classes.iterationOf c := by
  unfold iterationOf
  rw [binding?_outline]
  cases classes.binding? c "__iter__" with
  | none => rfl
  | some binding => cases binding <;> rfl

@[simp]
theorem isSubclass_outline (c parent : ClassRef) :
    classes.outline.isSubclass c parent = classes.isSubclass c parent := by
  simp only [isSubclass, lineageOf_outline, isIterable_outline]

@[simp]
theorem hasMember_outline (c : ClassRef) (name : String) :
    classes.outline.hasMember c name = classes.hasMember c name := by
  simp only [hasMember, binding?_outline, lineageOf_outline, Option.isSome_map]

theorem adding?_outline (c : ClassRef) : classes.outline.adding? c = classes.adding? c := by
  simp only [adding?, hasMember_outline]

@[simp]
theorem isAbstract_outline (c : ClassRef) : classes.outline.isAbstract c = classes.isAbstract c := by
  cases c with
  | builtin b => rfl
  | declared name =>
      simp only [isAbstract, declsOf_outline, List.any_map]
      rfl

@[simp]
theorem isEnumeration_outline (c : ClassRef) :
    classes.outline.isEnumeration c = classes.isEnumeration c := by
  simp only [isEnumeration, descendsFrom, lineageOf_outline]

@[simp]
theorem isModel_outline (c : ClassRef) : classes.outline.isModel c = classes.isModel c := by
  simp only [isModel, descendsFrom, lineageOf_outline]

@[simp]
theorem membersOf_outline (name : String) :
    classes.outline.membersOf name = classes.membersOf name := by
  simp only [membersOf, kindOf?_outline]

@[simp]
theorem mixinOf?_outline (name : String) : classes.outline.mixinOf? name = classes.mixinOf? name := by
  simp only [mixinOf?, kindOf?_outline]

@[simp]
theorem memberValue_outline (owner name : String) :
    classes.outline.memberValue owner name = classes.memberValue owner name := by
  simp only [memberValue, membersOf_outline]

@[simp]
theorem scalarOf?_outline (v : Value) : classes.outline.scalarOf? v = classes.scalarOf? v := by
  cases v with
  | atom a => cases a <;> simp only [scalarOf?, mixinOf?_outline, memberValue_outline]
  | _ => rfl

/-! ## Settings -/

@[simp]
theorem modelOption?_outline {α : Type} (c : ClassRef) (option : ModelOptions → Option α) :
    classes.outline.modelOption? c option = classes.modelOption? c option := by
  simp only [modelOption?, declsOf_outline, List.findSome?_map]
  rfl

@[simp]
theorem isFrozenModel_outline (c : ClassRef) :
    classes.outline.isFrozenModel c = classes.isFrozenModel c := by
  simp only [isFrozenModel, modelOption?_outline]

@[simp]
theorem identityOf_outline (c : ClassRef) : classes.outline.identityOf c = classes.identityOf c := by
  simp only [identityOf, isModel_outline, isFrozenModel_outline, declsOf_outline,
    List.findSome?_map]
  rfl

@[simp]
theorem isRecord_outline (c : ClassRef) : classes.outline.isRecord c = classes.isRecord c := by
  simp only [isRecord, declsOf_outline, List.any_map]
  rfl

@[simp]
theorem showingClass?_outline (c : ClassRef) :
    classes.outline.showingClass? c = classes.showingClass? c := by
  simp only [showingClass?, declsOf_outline, List.find?_map, Option.map_map]
  rfl

@[simp]
theorem slotsOf_outline (c : ClassRef) : classes.outline.slotsOf c = classes.slotsOf c := by
  unfold slotsOf
  rw [lineageOf_outline]
  congr 1
  funext parent
  cases parent with
  | builtin b => rfl
  | declared name =>
      simp only [declOf?_outline, Option.bind_map, Function.comp_def, ClassDecl.slotNames_outline]

/-! ## Fields -/

theorem bodyBindings_lookup_outline (decl : ClassDecl) (name : String) :
    decl.outline.bodyBindings.lookup name = (decl.bodyBindings.lookup name).map Binding.outline := by
  rw [ClassDecl.bodyBindings_outline, ClassDecl.lookup_outlines]

theorem rebound?_outline (decl : ClassDecl) (f : Field) :
    rebound? decl.outline f.outline = rebound? decl f := by
  unfold rebound?
  rw [show f.outline.name = f.name from rfl, show f.outline.default = f.default from rfl,
    bodyBindings_lookup_outline]
  cases decl.bodyBindings.lookup f.name with
  | none => rfl
  | some b => cases b <;> cases f.default <;> rfl

theorem inheritedBinding_outline (lineage : List ClassRef) (name : String) :
    (lineage.findSome? fun c => (classes.outline.declOf? c).bind fun parent =>
      parent.bindings.lookup name) =
    (lineage.findSome? fun c => (classes.declOf? c).bind fun parent =>
      parent.bindings.lookup name).map Binding.outline := by
  rw [List.map_findSome?]
  congr 1
  funext c
  simp only [Function.comp_apply, declOf?_outline]
  cases classes.declOf? c with
  | none => rfl
  | some parent =>
      show parent.outline.bindings.lookup name = (parent.bindings.lookup name).map Binding.outline
      rw [ClassDecl.bindings_outline, ClassDecl.lookup_outlines]

theorem recordDefault_outline (decl : ClassDecl) (f : Field) :
    classes.outline.recordDefault decl.outline f.outline = classes.recordDefault decl f := by
  unfold recordDefault
  rw [rebound?_outline, show f.outline.default = f.default from rfl,
    show f.outline.name = f.name from rfl, ClassDecl.name_outline, lineageOf_outline,
    inheritedBinding_outline]
  cases rebound? decl f with
  | some d => rfl
  | none =>
      cases f.default with
      | value | factory => rfl
      | missing =>
          dsimp only
          cases List.findSome? _ _ with
          | none => rfl
          | some b => cases b <;> rfl

theorem ownEntries_outline (decl : ClassDecl) :
    classes.outline.ownEntries decl.outline = (classes.ownEntries decl).map Field.outline := by
  unfold ownEntries
  simp only [ClassDecl.fields_outline, List.map_map, ClassDecl.kind_outline]
  refine List.map_congr_left fun f _ => ?_
  simp only [Function.comp_apply, recordDefault_outline]
  rfl

theorem mergeField_outline (known : List Field) (f : Field) :
    mergeField (known.map Field.outline) f.outline = (mergeField known f).map Field.outline :=
  (map_upsert (f := Field.outline) Field.name Field.name (fun _ => rfl) f known).symm

theorem mergeFields_outline (known fields : List Field) :
    (fields.map Field.outline).foldl mergeField (known.map Field.outline) =
      (fields.foldl mergeField known).map Field.outline :=
  ClassDecl.foldl_map_hom (f := List.map Field.outline) mergeField_outline known fields

/-- An outline shows which fields are class variables. -/
theorem filter_not_isClassVariable_outline (fields : List Field) :
    (fields.map Field.outline).filter (fun f => !f.type.isClassVariable) =
      (fields.filter fun f => !f.type.isClassVariable).map Field.outline := by
  rw [List.filter_map]
  congr 2
  funext f
  exact congrArg not (TypeExpr.isClassVariable_outline f.type)

theorem recordEntries_outline (c : ClassRef) :
    classes.outline.recordEntries c = (classes.recordEntries c).map Field.outline := by
  have hdecls : classes.outline.recordDecls c = (classes.recordDecls c).map ClassDecl.outline := by
    simp only [recordDecls, declsOf_outline, List.filter_map, List.map_reverse]
    rfl
  unfold recordEntries
  rw [hdecls]
  refine ClassDecl.foldl_map_hom (f := List.map Field.outline) (fun known decl => ?_) [] _
  rw [ownEntries_outline, mergeFields_outline]

theorem recordArguments_outline (c : ClassRef) :
    classes.outline.recordArguments c = (classes.recordArguments c).map Field.outline := by
  unfold recordArguments
  rw [recordEntries_outline, filter_not_isClassVariable_outline]

theorem recordFields_outline (c : ClassRef) :
    classes.outline.recordFields c = (classes.recordFields c).map Field.outline := by
  unfold recordFields
  rw [recordArguments_outline, List.filter_map]
  congr 2
  funext f
  exact congrArg not (TypeExpr.isInitOnly_outline f.type)

theorem modelEntries_outline (c : ClassRef) :
    classes.outline.modelEntries c = (classes.modelEntries c).map Field.outline := by
  unfold modelEntries
  rw [declsOf_outline, ← List.map_reverse]
  refine ClassDecl.foldl_map_hom (f := List.map Field.outline) (fun known decl => ?_) [] _
  rw [ClassDecl.fields_outline, List.filter_map, ← mergeFields_outline]
  rfl

theorem modelFields_outline (c : ClassRef) :
    classes.outline.modelFields c = (classes.modelFields c).map Field.outline := by
  unfold modelFields
  rw [modelEntries_outline, filter_not_isClassVariable_outline]

@[simp]
theorem hiddenAttributes_outline (c : ClassRef) :
    classes.outline.hiddenAttributes c = classes.hiddenAttributes c := by
  unfold hiddenAttributes
  rw [declsOf_outline, ← List.map_reverse, List.flatMap_map]
  congr 1
  funext decl
  rw [show decl.outline.body = decl.body.map Entry.outline from rfl, List.filterMap_map]
  congr 1
  funext entry
  cases entry <;> rfl

/-! ## Initializers -/

def InitSource.outline : InitSource → InitSource
  | .declared owner init => .declared owner init.outline
  | source => source

theorem initSourceIn_outline (lineage : List ClassRef) :
    classes.outline.initSourceIn lineage = (classes.initSourceIn lineage).outline := by
  induction lineage with
  | nil => rfl
  | cons c rest ih =>
      cases c with
      | builtin b =>
          rw [initSourceIn, initSourceIn, ih]
          split <;> rfl
      | declared name =>
          rw [initSourceIn, initSourceIn, find?_outline, ih]
          cases classes.find? name with
          | none => rfl
          | some found =>
              obtain ⟨⟨_, kind, _, _, _, init⟩, _⟩ := found
              cases init with
              | some init => rfl
              | none =>
                  cases kind with
                  | record options =>
                      simp only [Option.map_some, Class.outline, ClassDecl.outline, Option.map_none]
                      split <;> rfl
                  | _ => rfl

theorem initSource_outline (c : ClassRef) :
    classes.outline.initSource c = (classes.initSource c).outline := by
  unfold initSource
  rw [lineageOf_outline, initSourceIn_outline]

/-! ## Texts of types -/

@[simp]
theorem typeHeldBy_outline (name : String) (t : TypeExpr) :
    classes.outline.typeHeldBy name t = classes.typeHeldBy name t := by
  cases t with
  | cls c =>
      have hmember : classes.outline.memberHeldBy? name c = classes.memberHeldBy? name c := by
        cases c with
        | builtin b => rfl
        | declared owner =>
            simp only [memberHeldBy?, canonicalMember, membersOf_outline, memberValue_outline]
      simp only [typeHeldBy, hmember, binding?_outline]
      cases classes.memberHeldBy? name c with
      | some held => rfl
      | none =>
          cases classes.binding? c name with
          | none => rfl
          | some b =>
              cases b with
              | constant v => rfl
              | _ => rfl
  | _ => rfl

@[simp]
theorem typeOfName_outline (name : String) :
    classes.outline.typeOfName name = classes.typeOfName name := by
  simp only [typeOfName, find?_outline, Option.isSome_map]

theorem applyTo?_outline (head : TypeExpr) (args : List TypeExpr) :
    TypeExpr.applyTo? classes.outline head args = TypeExpr.applyTo? classes head args := by
  cases head with
  | cls c => cases c <;> simp only [TypeExpr.applyTo?, kindOf?_outline]
  | _ => rfl

mutual

theorem eval_outline (source : Source) : source.eval classes.outline = source.eval classes := by
  match source with
  | .named name => simp only [Source.eval, typeOfName_outline]
  | .number n => rfl
  | .ellipsis => rfl
  | .attribute owner name => simp only [Source.eval, eval_outline owner, typeHeldBy_outline]
  | .subscript head args =>
      simp only [Source.eval, eval_outline head, evalAll_outline args, applyTo?_outline]
  | .bars left right => simp only [Source.eval, eval_outline left, eval_outline right]

theorem evalAll_outline (sources : List Source) :
    Source.evalAll classes.outline sources = Source.evalAll classes sources := by
  match sources with
  | [] => rfl
  | source :: rest => simp only [Source.evalAll, eval_outline source, evalAll_outline rest]

end

theorem typeOfText_outline (text : String) :
    classes.outline.typeOfText text = classes.typeOfText text := by
  simp only [typeOfText, eval_outline]

/-! ## Classes that differ in their annotations at most -/

abbrev Alike (classes classes' : Classes) : Prop := classes'.outline = classes.outline

namespace Alike

variable {classes classes' : Classes} (h : Alike classes classes')

include h

/-- What can be told from outlines is the same of both. -/
theorem congr {α : Type} {q : Classes → α} (hq : ∀ classes : Classes, q classes.outline = q classes) :
    q classes' = q classes := by
  rw [← hq classes', h, hq]

theorem lineageOf (c : ClassRef) : classes'.lineageOf c = classes.lineageOf c :=
  h.congr (q := (·.lineageOf c)) (lineageOf_outline · c)

theorem kindOf? (name : String) : classes'.kindOf? name = classes.kindOf? name :=
  h.congr (q := (·.kindOf? name)) (kindOf?_outline · name)

theorem typeOfText (text : String) : classes'.typeOfText text = classes.typeOfText text :=
  h.congr (q := (·.typeOfText text)) (typeOfText_outline · text)

theorem isSubclass (c parent : ClassRef) : classes'.isSubclass c parent = classes.isSubclass c parent :=
  h.congr (q := (·.isSubclass c parent)) (isSubclass_outline · c parent)

theorem isIterable (c : ClassRef) : classes'.isIterable c = classes.isIterable c :=
  h.congr (q := (·.isIterable c)) (isIterable_outline · c)

theorem isModel (c : ClassRef) : classes'.isModel c = classes.isModel c :=
  h.congr (q := (·.isModel c)) (isModel_outline · c)

theorem isRecord (c : ClassRef) : classes'.isRecord c = classes.isRecord c :=
  h.congr (q := (·.isRecord c)) (isRecord_outline · c)

theorem isEnumeration (c : ClassRef) : classes'.isEnumeration c = classes.isEnumeration c :=
  h.congr (q := (·.isEnumeration c)) (isEnumeration_outline · c)

theorem isAbstract (c : ClassRef) : classes'.isAbstract c = classes.isAbstract c :=
  h.congr (q := (·.isAbstract c)) (isAbstract_outline · c)

theorem membersOf (name : String) : classes'.membersOf name = classes.membersOf name :=
  h.congr (q := (·.membersOf name)) (membersOf_outline · name)

theorem properMembers (name : String) :
    classes'.properMembers name = classes.properMembers name := by
  simp only [Classes.properMembers, canonicalMember, Classes.memberValue, h.membersOf]

theorem mixinOf? (name : String) : classes'.mixinOf? name = classes.mixinOf? name :=
  h.congr (q := (·.mixinOf? name)) (mixinOf?_outline · name)

theorem memberValue (owner name : String) :
    classes'.memberValue owner name = classes.memberValue owner name :=
  h.congr (q := (·.memberValue owner name)) (memberValue_outline · owner name)

theorem scalarOf? (v : Value) : classes'.scalarOf? v = classes.scalarOf? v :=
  h.congr (q := (·.scalarOf? v)) (scalarOf?_outline · v)

theorem identityOf (c : ClassRef) : classes'.identityOf c = classes.identityOf c :=
  h.congr (q := (·.identityOf c)) (identityOf_outline · c)

theorem modelOption? {α : Type} (c : ClassRef) (option : ModelOptions → Option α) :
    classes'.modelOption? c option = classes.modelOption? c option :=
  h.congr (q := (·.modelOption? c option)) (modelOption?_outline · c option)

theorem hiddenAttributes (c : ClassRef) :
    classes'.hiddenAttributes c = classes.hiddenAttributes c :=
  h.congr (q := (·.hiddenAttributes c)) (hiddenAttributes_outline · c)

theorem declOf? (c : ClassRef) :
    (classes'.declOf? c).map ClassDecl.outline = (classes.declOf? c).map ClassDecl.outline := by
  rw [← declOf?_outline, ← declOf?_outline, h]

theorem recordArguments (c : ClassRef) :
    (classes'.recordArguments c).map Field.outline =
      (classes.recordArguments c).map Field.outline := by
  rw [← recordArguments_outline, ← recordArguments_outline, h]

theorem modelFields (c : ClassRef) :
    (classes'.modelFields c).map Field.outline = (classes.modelFields c).map Field.outline := by
  rw [← modelFields_outline, ← modelFields_outline, h]

theorem ownedBinding? (c : ClassRef) (name : String) :
    (classes'.ownedBinding? c name).map (fun found => (found.1, found.2.outline)) =
      (classes.ownedBinding? c name).map fun found => (found.1, found.2.outline) := by
  rw [← ownedBinding?_outline, ← ownedBinding?_outline, h]

theorem binding? (c : ClassRef) (name : String) :
    (classes'.binding? c name).map Binding.outline =
      (classes.binding? c name).map Binding.outline := by
  rw [← binding?_outline, ← binding?_outline, h]

theorem hasMember (c : ClassRef) (name : String) :
    classes'.hasMember c name = classes.hasMember c name :=
  h.congr (q := (·.hasMember c name)) (hasMember_outline · c name)

theorem iterationOf (c : ClassRef) : classes'.iterationOf c = classes.iterationOf c :=
  h.congr (q := (·.iterationOf c)) (iterationOf_outline · c)

theorem adding? (c : ClassRef) : classes'.adding? c = classes.adding? c :=
  h.congr (q := (·.adding? c)) (adding?_outline · c)

theorem showingClass? (c : ClassRef) : classes'.showingClass? c = classes.showingClass? c :=
  h.congr (q := (·.showingClass? c)) (showingClass?_outline · c)

theorem length : classes'.length = classes.length :=
  h.congr fun _ => List.length_map _

end Alike

end Classes

end Memberwise
