import Memberwise.Proofs.Class.Respelling
import Memberwise.Proofs.Member.Ordinary
import Memberwise.Proofs.Schema.Alike

/-! # Members of classes whose annotations are respelled

The hints of a class are looked up in the same order and fail at the same names in every spelling.
So its members are the same up to the spelling of their types, and what else is asked of it to make
a plan is the same.
-/

namespace Memberwise

open TypeExpr

variable {classes classes' : Classes}

/-! ## Members in classes that are alike -/

namespace Classes.Alike

variable (h : classes.Alike classes')

include h

theorem descendsFrom (c : ClassRef) : classes'.descendsFrom c = classes.descendsFrom c := by
  funext b
  simp only [Classes.descendsFrom, h.lineageOf]

theorem isValueClass : classes'.isValueClass = classes.isValueClass := by
  funext c
  simp only [Classes.isValueClass, h.descendsFrom]

theorem isValueKind (t : TypeExpr) : classes'.isValueKind t = classes.isValueKind t := by
  simp only [Classes.isValueKind, h.isValueClass]

theorem keyType (t : TypeExpr) : classes'.keyType t = classes.keyType t := by
  simp only [Classes.keyType, h.isValueKind]

theorem isCollectionType (t : TypeExpr) :
    classes'.isCollectionType t = classes.isCollectionType t := by
  simp only [Classes.isCollectionType, h.descendsFrom, h.isSubclass]

theorem collectionArgs (t : TypeExpr) : classes'.collectionArgs t = classes.collectionArgs t := by
  simp only [Classes.collectionArgs, h.isCollectionType]

theorem zeroOf (c : ClassRef) : classes'.zeroOf c = classes.zeroOf c := by
  simp only [Classes.zeroOf, h.isEnumeration, h.properMembers, h.descendsFrom]

theorem defaultValue (t : TypeExpr) : classes'.defaultValue t = classes.defaultValue t := by
  simp only [Classes.defaultValue, h.isValueClass, h.zeroOf]

theorem describe (name : String) (t : TypeExpr) (readable writable : Bool) :
    Member.describe classes' name t readable writable =
      Member.describe classes name t readable writable := by
  simp only [Member.describe, h.isValueKind, h.isCollectionType, h.collectionArgs]

theorem isFrozenRecord (c : ClassRef) : classes'.isFrozenRecord c = classes.isFrozenRecord c := by
  refine h.congr (q := (·.isFrozenRecord c)) fun classes => ?_
  simp only [Classes.isFrozenRecord, declsOf_outline, List.findSome?_map]
  rfl

theorem slotsOf (c : ClassRef) : classes'.slotsOf c = classes.slotsOf c :=
  h.congr (q := (·.slotsOf c)) (slotsOf_outline · c)

end Classes.Alike

/-! ## Members -/

/-- Whether members are the same but for the spelling of their type. -/
structure Member.Respelled (classes : Classes) (m m' : Member) : Prop where
  name : m'.name = m.name
  declared : Interchangeable classes m.declared m'.declared
  underlying : m'.underlying = m.underlying
  isValueKind : m'.isValueKind = m.isValueKind
  isNullable : m'.isNullable = m.isNullable
  isCollection : m'.isCollection = m.isCollection
  typeArgs : m'.typeArgs = m.typeArgs
  readable : m'.readable = m.readable
  writable : m'.writable = m.writable

/-- Interchangeable types describe the same member but for the spelling of the type. -/
theorem Member.describe_respelled (h : classes.Alike classes') {t t' : TypeExpr}
    (ht : Interchangeable classes t t') (name : String) (readable writable : Bool) :
    Member.Respelled classes (describe classes name t readable writable)
      (describe classes' name t' readable writable) := by
  rw [h.describe]
  exact {
    name := rfl
    declared := ht.normalize
    underlying := ht.unwrapped
    isValueKind := congrArg classes.isValueKind ht.unwrapped
    isNullable := by
      show (classes.isValueKind t'.unwrapOptional && t'.isOptional) =
        (classes.isValueKind t.unwrapOptional && t.isOptional)
      rw [ht.unwrapped]
      cases hkind : classes.isValueKind t.unwrapOptional with
      | false => rfl
      | true =>
          rw [classes.isValueKind_unwrapOptional ht.flat] at hkind
          rw [ht.optional hkind]
    isCollection := congrArg classes.isCollectionType ht.unwrapped
    typeArgs := congrArg classes.collectionArgs ht.unwrapped
    readable := rfl
    writable := rfl }

/-- A member of one of two interchangeable types can be described just if one of the other can. -/
theorem Member.described_respelled (h : classes.Alike classes') {t t' : TypeExpr}
    (ht : Interchangeable classes t t') (name : String) (readable writable : Bool) :
    Agree (Member.Respelled classes)
      (Classes.described (describe? classes name t readable writable))
      (Classes.described (describe? classes' name t' readable writable)) := by
  have hspelled := ht.spelled
  have hmembers := describe_respelled h ht name readable writable
  unfold describe?
  cases hnormal : t.normalize? with
  | none =>
      rw [hnormal] at hspelled
      rw [Option.not_isSome_iff_eq_none.mp (Bool.eq_false_iff.mp hspelled)]
      exact .error _
  | some normal =>
      rw [hnormal] at hspelled
      obtain ⟨normal', hnormal'⟩ := Option.isSome_iff_exists.mp hspelled
      rw [hnormal']
      exact .ok hmembers

/-! ## Hints -/

section Hints

variable (h : classes.Alike classes') (owner : String)

include h

theorem hintOf_respelled {t t' : TypeExpr} (ht : Respelled classes t t') :
    Agree (SameHint classes) (classes.hintOf owner t) (classes'.hintOf owner t') := by
  have hints := ht.hints
  unfold Classes.hintOf
  rw [resolve_congr h]
  revert hints
  generalize t.resolve classes = hint
  generalize t'.resolve classes = hint'
  intro hints
  cases hints with
  | ok hx => exact .ok hx
  | error fault => cases fault <;> exact .error _

theorem hintOf?_respelled {t t' : Option TypeExpr} (ht : RespelledIfAny classes t t') :
    Agree (Option.Rel (SameHint classes)) (classes.hintOf? owner t) (classes'.hintOf? owner t') := by
  cases ht with
  | none => exact .ok .none
  | some ht => exact (hintOf_respelled h owner ht).map fun _ _ hx => .some hx

end Hints

/-- A hint that is missing counts as one for any type. -/
theorem interchangeable_getD {x x' : Option TypeExpr} (hx : Option.Rel (SameHint classes) x x') :
    Interchangeable classes (x.getD .any) (x'.getD .any) := by
  cases hx with
  | none => exact .refl trivial
  | some hx => exact hx.toInterchangeable

/-! ## Properties -/

structure Property.Respelled (classes : Classes) (p p' : Property) : Prop where
  owner : p'.owner = p.owner
  getter : Option.Rel (Getter.Respelled classes) p.getter p'.getter
  setter : Option.Rel (Setter.Respelled classes) p.setter p'.setter

theorem Property.Respelled.refl (p : Property) : Property.Respelled classes p p where
  owner := rfl
  getter := optionRel_refl (fun _ => ⟨rfl, rfl, optionRel_refl .same _⟩) _
  setter := optionRel_refl (fun _ => ⟨rfl, rfl, optionRel_refl .same _, optionRel_refl .same _⟩) _

theorem Property.Respelled.statesHints {p p' : Property} (h : p.Respelled classes p') :
    p'.statesHints = p.statesHints := by
  obtain ⟨owner, getter, setter⟩ := p
  obtain ⟨owner', getter', setter'⟩ := p'
  obtain ⟨-, hgetter, hsetter⟩ := h
  have hgetter : Option.Rel (Getter.Respelled classes) getter getter' := hgetter
  have hsetter : Option.Rel (Setter.Respelled classes) setter setter' := hsetter
  cases hgetter with
  | some hget => exact hget.isFunction
  | none =>
      cases hsetter with
      | none => rfl
      | some hset => exact hset.isFunction

inductive Classes.InitSource.Respelled (classes : Classes) : InitSource → InitSource → Prop
  | declared (owner : String) {init init' : Initializer} (h : init.Respelled classes init') :
      Respelled classes (.declared owner init) (.declared owner init')
  | generated (owner : String) : Respelled classes (.generated owner) (.generated owner)
  | bag (owner : String) : Respelled classes (.bag owner) (.bag owner)
  | builtin (b : Builtin) : Respelled classes (.builtin b) (.builtin b)

namespace Classes.Respelled

theorem propertyOf?_respelled {b b' : Binding} (hb : Binding.Respelled classes b b')
    (owner : String) :
    Option.Rel (Property.Respelled classes) (propertyOf? owner b) (propertyOf? owner b') := by
  cases hb with
  | property getter setter => exact .some ⟨rfl, getter, setter⟩
  | _ => exact .none

variable (h : classes.Respelled classes')

include h

theorem namespaceOf (c : ClassRef) :
    List.Forall₂ (Named (Option.Rel (Property.Respelled classes))) (classes.namespaceOf c)
      (classes'.namespaceOf c) := by
  cases c with
  | builtin b =>
      have hsame : classes'.namespaceOf (.builtin b) = classes.namespaceOf (.builtin b) := by
        cases b <;> rfl
      rw [hsame, List.forall₂_same]
      exact fun entry _ => ⟨rfl, optionRel_refl .refl entry.2⟩
  | declared name =>
      have hfound := h.find? name
      generalize hc : classes.find? name = found at hfound
      generalize hc' : classes'.find? name = found' at hfound
      cases hfound with
      | none =>
          unfold Classes.namespaceOf
          simp only [hc, hc']
          exact .nil
      | @some c c' hclass =>
          rw [namespaceOf_of_find? hc, namespaceOf_of_find? hc']
          apply List.rel_map _ hclass.decl.bindings
          intro b b' hb
          exact ⟨hb.1, propertyOf?_respelled hb.2 name⟩

omit h in
theorem enterBindings {known known' : List (String × Property)}
    (hknown : List.Forall₂ (Named (Property.Respelled classes)) known known')
    {bindings bindings' : List (String × Option Property)}
    (hb : List.Forall₂ (Named (Option.Rel (Property.Respelled classes))) bindings bindings') :
    List.Forall₂ (Named (Property.Respelled classes)) (Classes.enterBindings known bindings)
      (Classes.enterBindings known' bindings') := by
  apply List.rel_foldl _ hknown hb
  rintro known known' hknown ⟨name, p⟩ ⟨name', p'⟩ ⟨hname, hp⟩
  obtain rfl : name' = name := hname
  have hp : Option.Rel (Property.Respelled classes) p p' := hp
  cases hp with
  | none => exact forall₂_filter_name hknown fun other => other != name'
  | some hproperty =>
      dsimp only
      split
      · exact forall₂_filter_name hknown fun other => other != name'
      · exact forall₂_enter hknown name' hproperty

theorem publicProperties (c : ClassRef) :
    List.Forall₂ (Named (Property.Respelled classes)) (classes.publicProperties c)
      (classes'.publicProperties c) := by
  unfold Classes.publicProperties
  rw [h.alike.lineageOf]
  apply List.rel_foldl (R := Eq) _ .nil (List.forall₂_same.mpr fun _ _ => rfl)
  rintro known known' hknown parent _ rfl
  exact enterBindings hknown (h.namespaceOf parent)

theorem propertyType (name : String) {p p' : Property} (hp : p.Respelled classes p') :
    Agree (Interchangeable classes) (classes.propertyType name p)
      (classes'.propertyType name p') := by
  unfold Classes.propertyType
  rw [hp.statesHints]
  split
  · exact .error _
  obtain ⟨owner, getter, setter⟩ := p
  obtain ⟨owner', getter', setter'⟩ := p'
  obtain ⟨howner, hgetter, hsetter⟩ := hp
  obtain rfl : owner' = owner := howner
  have hgetter : Option.Rel (Getter.Respelled classes) getter getter' := hgetter
  have hsetter : Option.Rel (Setter.Respelled classes) setter setter' := hsetter
  cases hgetter with
  | some hget =>
      apply (hintOf?_respelled h.alike _ hget.type).bind
      intro x x' hx
      exact .ok (interchangeable_getD hx)
  | none =>
      cases hsetter with
      | none => exact .ok (.refl trivial)
      | some hset =>
          apply (hintOf?_respelled h.alike _ hset.type).bind
          intro x x' hx
          apply (hintOf?_respelled h.alike _ hset.returns).bind
          intro _ _ _
          exact .ok (interchangeable_getD hx)

/-- The properties of a class are respelled one by one, or fail at the same name. -/
theorem properties (c : ClassRef) :
    Agree (List.Forall₂ (Member.Respelled classes)) (classes.properties c)
      (classes'.properties c) := by
  apply Agree.mapM _ (h.publicProperties c)
  rintro ⟨name, p⟩ ⟨name', p'⟩ ⟨hname, hp⟩
  obtain rfl : name' = name := hname
  have hp : p.Respelled classes p' := hp
  dsimp only
  rw [isSome_of_optionRel hp.getter, isSome_of_optionRel hp.setter]
  apply (h.propertyType name' hp).bind
  intro t t' ht
  exact Member.described_respelled h.alike ht ..

/-! ## Fields -/

theorem classHints (c : ClassRef) :
    Agree (List.Forall₂ (Named (SameHint classes))) (classes.classHints c)
      (classes'.classHints c) := by
  have hannotations : List.Forall₂ (Named (TypeExpr.Respelled classes))
      ((classes.declsOf c).reverse.flatMap ClassDecl.annotations)
      ((classes'.declsOf c).reverse.flatMap ClassDecl.annotations) := by
    apply List.rel_flatMap (List.rel_reverse (h.declsOf c))
    intro decl decl' hdecl
    exact hdecl.annotations
  apply Agree.foldlM_forall₂ _ hannotations .nil
  rintro known known' hknown ⟨name, t⟩ ⟨name', t'⟩ ⟨hname, ht⟩
  obtain rfl : name' = name := hname
  apply (hintOf_respelled h.alike c.name ht).bind
  intro x x' hx
  exact .ok (forall₂_enter hknown name' hx)

theorem initSourceIn (lineage : List ClassRef) :
    InitSource.Respelled classes (classes.initSourceIn lineage) (classes'.initSourceIn lineage) := by
  induction lineage with
  | nil => exact .builtin _
  | cons c rest ih =>
      cases c with
      | builtin b =>
          unfold Classes.initSourceIn
          split
          · exact .builtin b
          · exact ih
      | declared name =>
          have hfound := h.find? name
          unfold Classes.initSourceIn
          revert hfound
          generalize classes.find? name = found
          generalize classes'.find? name = found'
          intro hfound
          cases hfound with
          | none => exact ih
          | @some c c' hclass =>
              have hinit := hclass.decl.init
              dsimp only
              rw [hclass.decl.kind]
              revert hinit
              generalize c.decl.init = init
              generalize c'.decl.init = init'
              intro hinit
              cases hinit with
              | some hi => exact .declared name hi
              | none =>
                  cases c.decl.kind with
                  | record options =>
                      dsimp only
                      split
                      · exact .generated name
                      · exact ih
                  | bag => exact .bag name
                  | _ => exact ih

theorem initSource (c : ClassRef) :
    InitSource.Respelled classes (classes.initSource c) (classes'.initSource c) := by
  unfold Classes.initSource
  rw [h.alike.lineageOf]
  exact h.initSourceIn _

omit h in
theorem usedNames {init init' : Initializer} (hi : init.Respelled classes init') :
    usedNames init' = Classes.usedNames init := by
  have houtline : ∀ i : Initializer, Classes.usedNames i.outline = Classes.usedNames i := by
    intro i
    unfold Classes.usedNames Initializer.outline
    simp only [List.any_map]
    rfl
  rw [← houtline init', hi.outline, houtline]

/-- The arguments of a generated initializer that count as fields have hints that are
interchangeable. -/
theorem generatedParameters (c : ClassRef) (owner : String) :
    List.Forall₂ (Named (SameHint classes)) (classes.generatedParameters c owner)
      (classes'.generatedParameters c owner) := by
  have hfields := h.respelledArguments (.declared owner)
  have hinit := List.rel_filter (p := Field.inInit) (q := Field.inInit)
    (fun f f' hf => by dsimp only; rw [hf.inInit]) hfields
  have hbyName : ∀ {f f' : Field}, f.Respelled classes f' →
      (f'.keywordOnly == some true) = (f.keywordOnly == some true) := fun hf => by
    rw [hf.keywordOnly]
  have harguments : List.Forall₂ (Field.Respelled classes) (classes.generatedArguments owner)
      (classes'.generatedArguments owner) := by
    apply List.rel_append
    · exact List.rel_filter (fun f f' hf => by dsimp only; rw [hbyName hf]) hinit
    · exact List.rel_filter (fun f f' hf => by dsimp only; rw [hbyName hf]) hinit
  apply List.rel_filterMap _ harguments
  intro f f' hf
  have hstores : classes'.storesArgument c owner f' = classes.storesArgument c owner f := by
    unfold Classes.storesArgument
    rw [h.alike.isFrozenRecord, h.alike.slotsOf, hf.name, hf.isInitOnly]
  dsimp only
  rw [hstores, hf.name, TypeExpr.resolve_congr h.alike]
  split
  · have hhints := hf.type.hints
    revert hhints
    generalize f.type.resolve classes = hint
    generalize f'.type.resolve classes = hint'
    intro hhints
    cases hhints with
    | ok hhint => exact .some ⟨rfl, hhint⟩
    | error name => exact .none
  · exact .none

theorem storedParameters (c : ClassRef) :
    Agree (List.Forall₂ (Named (SameHint classes))) (classes.storedParameters c)
      (classes'.storedParameters c) := by
  have hsource := h.initSource c
  unfold Classes.storedParameters
  revert hsource
  generalize classes.initSource c = source
  generalize classes'.initSource c = source'
  intro hsource
  cases hsource with
  | @declared owner init init' hi =>
      have hstored : Classes.usedNames init' ++ classes'.slotsOf c =
          Classes.usedNames init ++ classes.slotsOf c := by
        rw [usedNames hi, h.alike.slotsOf]
      dsimp only
      rw [hstored]
      have hhints : Agree (List.Forall₂ fun entry entry' : Parameter × Option TypeExpr =>
          entry'.1.outline = entry.1.outline ∧ Option.Rel (SameHint classes) entry.2 entry'.2)
          (init.parameters.mapM fun p => do
            .ok (p, ← classes.hintOf? (owner ++ ".__init__") p.type))
          (init'.parameters.mapM fun p => do
            .ok (p, ← classes'.hintOf? (owner ++ ".__init__") p.type)) := by
        apply Agree.mapM _ hi.parameters
        intro p p' hp
        apply (hintOf?_respelled h.alike _ hp.type).bind
        intro x x' hx
        exact .ok ⟨hp.outline, hx⟩
      apply hhints.bind
      intro hints hints' hhints
      apply Agree.ok
      apply List.rel_filterMap _ hhints
      rintro ⟨p, x⟩ ⟨p', x'⟩ ⟨houtline, hx⟩
      have houtline : p'.outline = p.outline := houtline
      have hname : p'.outline.name = p.outline.name := by rw [houtline]
      have hsingle : p'.outline.isSingle = p.outline.isSingle := by rw [houtline]
      have hx : Option.Rel (SameHint classes) x x' := hx
      change p'.name = p.name at hname
      change p'.isSingle = p.isSingle at hsingle
      dsimp only
      rw [hname, hsingle]
      split
      · cases hx with
        | none => exact .none
        | some hhint => exact .some ⟨rfl, hhint⟩
      · exact .none
  | generated owner => exact .ok (h.generatedParameters c owner)
  | _ => exact .ok .nil

theorem fieldAnnotations (c : ClassRef) :
    Agree (List.Forall₂ (Named (SameHint classes))) (classes.fieldAnnotations c)
      (classes'.fieldAnnotations c) := by
  unfold Classes.fieldAnnotations
  apply (h.classHints c).bind
  intro hints hints' hhints
  apply (h.storedParameters c).bind
  intro parameters parameters' hparameters
  apply Agree.ok
  apply List.rel_foldl _ _ hparameters
  · rintro known known' hknown ⟨name, x⟩ ⟨name', x'⟩ ⟨hname, hx⟩
    obtain rfl : name' = name := hname
    have hany : known'.any (·.1 == name') = known.any (·.1 == name') := by
      apply any_of_forall₂ _ hknown
      intro a b hab
      rw [hab.1]
    dsimp only
    rw [hany]
    split
    · exact hknown
    · exact List.rel_append hknown (.cons ⟨rfl, hx⟩ .nil)
  · apply List.rel_filter _ hhints
    rintro ⟨name, x⟩ ⟨name', x'⟩ ⟨hname, hx⟩
    have hx : SameHint classes x x' := hx
    rcases hx.marked with rfl | ⟨hplain, hplain'⟩
    · exact Iff.rfl
    · apply iff_of_true
      · dsimp only
        split
        · cases hplain
        · rfl
      · dsimp only
        split
        · cases hplain'
        · rfl

/-- The fields of a class that is no model are respelled one by one, or fail at the same name. -/
theorem fields {c : ClassRef} (hmodel : classes.isModel c = false) :
    Agree (List.Forall₂ (Member.Respelled classes)) (classes.fields c) (classes'.fields c) := by
  have hnames : ∀ name, isFieldName (classes'.publicProperties c) name =
      isFieldName (classes.publicProperties c) name := by
    intro name
    unfold isFieldName
    rw [any_of_forall₂ _ (h.publicProperties c)]
    intro a b hab
    rw [hab.1]
  have hstated : Agree (List.Forall₂ (Named fun stated stated' : TypeExpr × Bool =>
      SameHint classes stated.1 stated'.1 ∧ stated'.2 = stated.2))
      (classes.statedFields c) (classes'.statedFields c) := by
    unfold Classes.statedFields
    dsimp only
    rw [h.alike.isModel, hmodel, h.alike.isFrozenRecord]
    apply (h.fieldAnnotations c).bind
    intro annotations annotations' hannotations
    apply Agree.ok
    apply List.rel_filterMap _ hannotations
    rintro ⟨name, x⟩ ⟨name', x'⟩ ⟨hname, hx⟩
    obtain rfl : name' = name := hname
    dsimp only
    rw [hnames]
    split
    · exact .some ⟨rfl, hx, rfl⟩
    · exact .none
  apply hstated.bind
  intro stated stated' hstated
  apply Agree.mapM _ hstated
  rintro ⟨name, x, writable⟩ ⟨name', x', writable'⟩ ⟨hname, hx, hwritable⟩
  obtain rfl : name' = name := hname
  obtain rfl : writable' = writable := hwritable
  exact Member.described_respelled h.alike hx.toInterchangeable ..

/-! ## Arguments -/

/-- The arguments without which a class cannot be created have no annotations. -/
theorem requiredArguments {c : ClassRef} (hmodel : classes.isModel c = false) :
    classes'.requiredArguments c = classes.requiredArguments c := by
  have hsource := h.initSource c
  unfold Classes.requiredArguments
  rw [h.alike.isModel, hmodel]
  revert hsource
  generalize classes.initSource c = source
  generalize classes'.initSource c = source'
  intro hsource
  cases hsource with
  | declared owner hi =>
      refine congrArg sortNames (filterMap_eq_of_forall₂ ?_ hi.parameters)
      intro p p' hp
      have hrequired : p'.outline.isRequired = p.outline.isRequired := by rw [hp.outline]
      have hname : p'.outline.name = p.outline.name := by rw [hp.outline]
      change p'.isRequired = p.isRequired at hrequired
      change p'.name = p.name at hname
      rw [hrequired, hname]
  | generated owner =>
      have hfactor : ∀ fields : List Field, (fields.filterMap fun f =>
          if f.inInit && !f.default.isPresent then some f.name else none) =
          (fields.map Field.outline).filterMap fun f =>
            if f.inInit && !f.default.isPresent then some f.name else none := by
        intro fields
        rw [List.filterMap_map]
        rfl
      dsimp only
      rw [hfactor, h.alike.recordArguments, ← hfactor]
      rfl
  | _ => rfl

end Classes.Respelled

end Memberwise
