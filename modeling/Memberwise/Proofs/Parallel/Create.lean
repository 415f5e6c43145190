import Memberwise.Proofs.Parallel.Attribute

/-! # Creation in worlds that correspond

The same class with arguments that correspond makes objects that correspond, or refuses in both
worlds.  An initializer runs on an object and its counterpart side by side.
-/

namespace Memberwise

/-! ## Arguments -/

namespace World

variable {r : Correspondence}

structure PairsArguments (r : Correspondence) (args args' : Arguments) : Prop where
  positional : PairsAll r args.positional args'.positional
  named : PairsNamed r args.named args'.named

structure PairsCall (r : Correspondence) (call call' : Call) : Prop where
  given : PairsNamed r call.given call'.given
  rest : PairsAll r call.rest call'.rest
  restNamed : PairsNamed r call.restNamed call'.restNamed

theorem pairsAll_drop {slots slots' : List Slot} (h : PairsAll r slots slots') (n : Nat) :
    PairsAll r (slots.drop n) (slots'.drop n) := by
  refine ⟨fun slot hslot => h.1 slot (List.mem_of_mem_drop hslot), ?_⟩
  rw [h.2, List.map_drop]

theorem pairsAll_isEmpty {slots slots' : List Slot} (h : PairsAll r slots slots') :
    slots'.isEmpty = slots.isEmpty := by
  rw [h.2, List.isEmpty_map]

theorem pairsNamed_isEmpty {named named' : List (String × Slot)} (h : PairsNamed r named named') :
    named'.isEmpty = named.isEmpty := by
  rw [h.2, renameNamed, List.isEmpty_map]

theorem pairsNamed_zip (names : List String) {slots slots' : List Slot} (h : PairsAll r slots slots') :
    PairsNamed r (names.zip slots) (names.zip slots') := by
  constructor
  · intro entry hentry
    exact h.1 entry.2 (List.of_mem_zip hentry).2
  · rw [h.2, List.zip_map_right]
    rfl

theorem PairsArguments.isEmpty {args args' : Arguments} (h : PairsArguments r args args') :
    args'.isEmpty = args.isEmpty := by
  unfold Arguments.isEmpty
  rw [pairsAll_isEmpty h.positional, pairsNamed_isEmpty h.named]

/-- Names that are chosen by a test, and the others. -/
theorem pairsNamed_partition {named named' : List (String × Slot)} (h : PairsNamed r named named')
    (p : String → Bool) :
    PairsNamed r (named.partition fun entry => p entry.1).1
        (named'.partition fun entry => p entry.1).1 ∧
      PairsNamed r (named.partition fun entry => p entry.1).2
        (named'.partition fun entry => p entry.1).2 := by
  rw [List.partition_eq_filter_filter, List.partition_eq_filter_filter]
  exact ⟨pairsNamed_filter h p, pairsNamed_filter h fun name => !p name⟩

/-- Arguments are distributed by their names and their number alone. -/
theorem PairsArguments.distribute {args args' : Arguments} (h : PairsArguments r args args')
    (params : List Parameter) :
    Agree (PairsCall r) (args.distribute params) (args'.distribute params) := by
  unfold Arguments.distribute
  dsimp only
  generalize (params.filter (·.kind == .ordinary)).map (·.name) = ordinary
  have hposition := pairsNamed_zip ordinary h.positional
  have hrest := pairsAll_drop h.positional ordinary.length
  obtain ⟨hname, hrestNamed⟩ := pairsNamed_partition h.named fun name =>
    params.any fun p => p.isSingle && p.name == name
  revert hposition hrest hname hrestNamed
  generalize ordinary.zip args.positional = byPosition
  generalize ordinary.zip args'.positional = byPosition'
  generalize args.positional.drop ordinary.length = rest
  generalize args'.positional.drop ordinary.length = rest'
  generalize (args.named.partition fun entry =>
    params.any fun p => p.isSingle && p.name == entry.1) = byName
  generalize (args'.named.partition fun entry =>
    params.any fun p => p.isSingle && p.name == entry.1) = byName'
  intro hposition hrest hname hrestNamed
  have hgiven := pairsNamed_append hposition hname
  have hisGiven := fun name => any_named hgiven (· == name)
  have htwice := any_named hname fun name => byPosition.any (·.1 == name)
  have hbyPosition := fun name => any_named hposition (· == name)
  simp only [pairsAll_isEmpty hrest, pairsNamed_isEmpty hrestNamed, hisGiven, hbyPosition, htwice]
  repeat' split
  all_goals first
    | exact .error _
    | exact .ok ⟨hgiven, hrest, hrestNamed⟩

theorem isSingle_outline (p : Parameter) : p.outline.isSingle = p.isSingle := rfl

theorem isRequired_outline (p : Parameter) : p.outline.isRequired = p.isRequired := rfl

/-- The annotations of parameters do not matter to which arguments they get. -/
theorem distribute_outline (args : Arguments) (params : List Parameter) :
    args.distribute (params.map Parameter.outline) = args.distribute params := by
  simp only [Arguments.distribute, List.filter_map, List.map_map, List.any_map, Function.comp_def,
    isSingle_outline, isRequired_outline]
  rfl

/-! ## Making objects -/

theorem pairsArguments_none : PairsArguments r .none .none := ⟨pairsAll_nil, pairsNamed_nil⟩

theorem hasMaker_outline (classes : Classes) (c : ClassRef) :
    classes.outline.hasMaker c = classes.hasMaker c := by
  unfold Classes.hasMaker
  rw [Classes.declsOf_outline, List.any_map]
  congr 1
  funext decl
  rw [Function.comp_apply, ClassDecl.maker?_outline, Option.isSome_map]

theorem initialArguments_outline (classes : Classes) (c : ClassRef) (args : Arguments) :
    classes.outline.initialArguments c args = classes.initialArguments c args := by
  unfold Classes.initialArguments
  rw [Classes.initSource_outline, hasMaker_outline]
  cases classes.initSource c with
  | builtin b => rfl
  | _ => rfl

theorem PairsArguments.making {args args' : Arguments} (h : PairsArguments r args args')
    (classes : Classes) (c : ClassRef) :
    PairsArguments r (classes.makingArguments c args) (classes.makingArguments c args') := by
  unfold Classes.makingArguments
  rw [pairsAll_isEmpty h.positional]
  split
  · exact pairsArguments_none
  · exact h

theorem PairsArguments.initial {args args' : Arguments} (h : PairsArguments r args args')
    (classes : Classes) (c : ClassRef) :
    PairsArguments r (classes.initialArguments c args) (classes.initialArguments c args') := by
  unfold Classes.initialArguments
  split
  · split
    · exact pairsArguments_none
    · exact h
  · exact h

theorem PairsArguments.lacksArguments {args args' : Arguments} (h : PairsArguments r args args')
    (b : Builtin) : lacksArguments b args' = lacksArguments b args := by
  have hlength : args'.positional.length = args.positional.length := by
    rw [h.positional.2, List.length_map]
  have hnone : (args'.positional.take 5).all Slot.isNone =
      (args.positional.take 5).all Slot.isNone := by
    rw [h.positional.2, ← List.map_take, List.all_map]
    exact congrArg _ (funext fun slot => slot.isNone_rename)
  unfold World.lacksArguments
  rw [h.isEmpty, pairsNamed_isEmpty h.named, hlength, hnone]

/-! ## Initializers -/

variable {known known' : SchemaCache} {w w' : World} {v v' : Slot}

theorem pairs_getD {o o' : Option Slot} (h : Option.Rel r.Pairs o o') (hv : r.Pairs v v') :
    r.Pairs (o.getD v) (o'.getD v') := by
  cases h with
  | none => exact hv
  | some h => exact h

/-- A mapping from texts, as it takes arguments given by name. -/
theorem Similar.alloc_texts (h : Similar r known known' w w') {named named' : List (String × Slot)}
    (hnamed : PairsNamed r named named') :
    Both r known known' r.Pairs
      (w.alloc (.dict (named.map fun entry => (.atom (.str entry.1), entry.2))))
      (w'.alloc (.dict (named'.map fun entry => (.atom (.str entry.1), entry.2)))) := by
  apply h.alloc
  · exact Cell.forall_slots_dict (List.forall_mem_map.mpr fun entry hentry =>
      ⟨Slot.within_atom _, hnamed.1 entry hentry⟩)
  · rw [hnamed.2, renameNamed, Cell.rename, List.map_map, List.map_map]
    rfl

theorem Similar.parameterValue (h : Similar r known known' w w') (owner : String) {call call' : Call}
    (hcall : PairsCall r call call') (p : Parameter) :
    Both r known known' r.Pairs (w.parameterValue owner call p) (w'.parameterValue owner call' p) := by
  unfold World.parameterValue
  cases p.kind with
  | restByPosition => exact h.alloc_seq .tuple hcall.rest
  | restByName => exact h.alloc_texts hcall.restNamed
  | ordinary | keywordOnly =>
      exact ⟨h, pairs_getD (pairsNamed_lookup hcall.given p.name) (h.constant _)⟩

theorem Similar.parameterValues (h : Similar r known known' w w') (owner : String)
    (params : List Parameter) {call call' : Call} (hcall : PairsCall r call call') :
    Both r known known' (PairsNamed r) (w.parameterValues owner params call)
      (w'.parameterValues owner params call') := by
  refine List.rel_foldl (P := Both r known known' (PairsNamed r)) (R := Eq) ?_
    (⟨h, pairsNamed_nil⟩ : Both r known known' (PairsNamed r) (w, []) (w', []))
    (List.forall₂_refl params)
  rintro ⟨w₁, bound⟩ ⟨w₁', bound'⟩ hboth p q rfl
  have hvalue := hboth.world.parameterValue owner hcall p
  exact ⟨hvalue.world, pairsNamed_append hboth.result (pairsNamed_singleton _ hvalue.result)⟩

theorem parameterValues_outline (w : World) (owner : String) (params : List Parameter)
    (call : Call) :
    w.parameterValues owner (params.map Parameter.outline) call =
      w.parameterValues owner params call := List.foldl_map

/-! ## Generated initializers -/

/-- The classes that may keep the default of a field that a record class of a lineage declares,
nearest first. -/
def keepersOf? (classes : Classes) (owner name : String) : Option (List String) :=
  ((classes.declsOf (.declared owner)).find? fun decl =>
    decl.isRecord && decl.fields.any (·.name == name)).map fun decl =>
      (classes.declsOf (.declared decl.name)).map (·.name)

theorem fieldDefault_eq (w : World) (owner name : String) :
    w.fieldDefault owner name = ((keepersOf? w.classes owner name).bind fun keepers =>
      keepers.findSome? fun keeper => List.lookup (.attribute keeper name) w.constants).getD .none := by
  unfold fieldDefault keepersOf?
  dsimp only
  cases List.find? _ (w.classes.declsOf (.declared owner)) with
  | none => rfl
  | some decl => rfl

theorem keepersOf?_outline (classes : Classes) (owner name : String) :
    keepersOf? classes.outline owner name = keepersOf? classes owner name := by
  unfold keepersOf?
  simp only [Classes.declsOf_outline, List.find?_map, Option.map_map, Function.comp_def,
    List.map_map, ClassDecl.fields_outline, List.any_map, ClassDecl.name_outline]
  rfl

/-- What is kept under the first of several keys. -/
theorem Similar.findConstant (h : Similar r known known' w w') {α : Type} (key : α → ConstantKey)
    (l : List α) :
    Option.Rel r.Pairs (l.findSome? fun a => List.lookup (key a) w.constants)
      (l.findSome? fun a => List.lookup (key a) w'.constants) := by
  induction l with
  | nil => exact .none
  | cons a rest ih =>
      rw [List.findSome?_cons, List.findSome?_cons, h.constants]
      cases hkept : List.lookup (key a) w.constants with
      | none => exact ih
      | some slot => exact .some ⟨h.kept _ slot hkept, rfl⟩

theorem Similar.fieldDefault (h : Similar r known known' w w') (owner name : String) :
    r.Pairs (w.fieldDefault owner name) (w'.fieldDefault owner name) := by
  have hkeepers := h.alike.congr (q := fun classes => keepersOf? classes owner name)
    fun classes => keepersOf?_outline classes owner name
  rw [fieldDefault_eq, fieldDefault_eq, hkeepers]
  cases keepersOf? w.classes owner name with
  | none => exact pairs_atom _
  | some keepers => exact pairs_getD (h.findConstant (.attribute · name) keepers) (pairs_atom _)

theorem internCopy_both (h : Similar r known known' w w') (u : Value) :
    Both r known known' r.Pairs (w.internCopy u) (w'.internCopy u) :=
  intern_placeless h fun _ => Value.rename_detach u

theorem Similar.initialFieldValue (h : Similar r known known' w w') (owner : String)
    (usesSlots : Bool) {call call' : Call} (hcall : PairsCall r call call') (f : Field) :
    Both r known known' (Option.Rel r.Pairs) (w.initialFieldValue owner usesSlots call f)
      (w'.initialFieldValue owner usesSlots call' f) := by
  unfold World.initialFieldValue
  cases f.type.isInitOnly with
  | true => exact ⟨h, .none⟩
  | false =>
      have hgiven : Option.Rel r.Pairs (if f.inInit then call.given.lookup f.name else none)
          (if f.inInit then call'.given.lookup f.name else none) := by
        cases f.inInit with
        | true => exact pairsNamed_lookup hcall.given f.name
        | false => exact .none
      simp only [Bool.false_eq_true, if_false]
      revert hgiven
      generalize (if f.inInit then call.given.lookup f.name else none) = given
      generalize (if f.inInit then call'.given.lookup f.name else none) = given'
      intro hgiven
      cases hgiven with
      | some hv => exact ⟨h, .some hv⟩
      | none =>
          cases f.default with
          | missing => exact ⟨h, .none⟩
          | factory u =>
              have hnew := internCopy_both h u
              exact ⟨hnew.world, .some hnew.result⟩
          | value u =>
              dsimp only
              split
              · exact ⟨h, .some (h.fieldDefault owner f.name)⟩
              · exact ⟨h, .none⟩

theorem initialFieldValue_outline (w : World) (owner : String) (usesSlots : Bool) (call : Call)
    (f : Field) :
    w.initialFieldValue owner usesSlots call f.outline =
      w.initialFieldValue owner usesSlots call f := by
  unfold World.initialFieldValue
  rw [show f.outline.type = f.type.outline from rfl, TypeExpr.isInitOnly_outline]
  rfl

variable {p : Place} {cell cell' : Cell}

/-- Stores what is given for a field of a record, or its default. -/
def initializeField (p : Place) (owner : String) (options : RecordOptions) (call : Call) (w : World)
    (f : Field) : Except Fault World :=
  match w.initialFieldValue owner options.usesSlots call f with
  | (w, none) => .ok w
  | (w, some v) =>
    if options.frozen then w.setDirectly (.ref p) f.name v else w.setAttribute (.ref p) f.name v

theorem initializeRecord_eq (w : World) (p : Place) (owner : String) (options : RecordOptions)
    (args : Arguments) : w.initializeRecord p owner options args =
      match args.distribute (((w.classes.recordArguments (.declared owner)).filter (·.inInit)).map
        Field.parameter) with
      | .error fault => .error fault
      | .ok call => (w.classes.recordArguments (.declared owner)).foldlM
          (initializeField p owner options call) w := rfl

/-- The annotations of fields do not matter to how a record is made. -/
theorem initializeRecord_outline (w : World) (p : Place) (owner : String) (options : RecordOptions)
    (args : Arguments) : w.initializeRecord p owner options args =
      match args.distribute ((((w.classes.recordArguments (.declared owner)).map Field.outline).filter
        (·.inInit)).map Field.parameter) with
      | .error fault => .error fault
      | .ok call => ((w.classes.recordArguments (.declared owner)).map Field.outline).foldlM
          (initializeField p owner options call) w := by
  have hfield : ∀ call : Call, (fun w f => initializeField p owner options call w f.outline) =
      initializeField p owner options call := by
    intro call
    funext w f
    unfold initializeField
    rw [initialFieldValue_outline]
    rfl
  rw [initializeRecord_eq, List.filter_map, List.map_map]
  simp only [List.foldlM_map, hfield]
  rfl

variable {p : Place} {cell cell' : Cell}

theorem Writing.initializeField (h : Writing r known known' p cell cell' w w') (owner : String)
    (options : RecordOptions) {call call' : Call} (hcall : PairsCall r call call') (f : Field) :
    Agree (Writing r known known' p cell cell') (World.initializeField p owner options call w f)
      (World.initializeField (r.place p) owner options call' w' f) := by
  have hvalue := h.similar.initialFieldValue owner options.usesSlots hcall f
  have hw := initialFieldValue_extends w owner options.usesSlots call f
  have hw' := initialFieldValue_extends w' owner options.usesSlots call' f
  unfold World.initializeField
  revert hvalue hw hw'
  generalize w.initialFieldValue owner options.usesSlots call f = made
  generalize w'.initialFieldValue owner options.usesSlots call' f = made'
  obtain ⟨w₁, v⟩ := made
  obtain ⟨w₁', v'⟩ := made'
  intro hvalue hw hw'
  have hnext := h.grows hw hw' hvalue.world
  obtain ⟨-, hv⟩ := hvalue
  cases hv with
  | none => exact .ok hnext
  | some hv =>
      dsimp only
      split
      · exact hnext.setDirectly hv f.name
      · exact hnext.setAttribute hv f.name

theorem Writing.initializeRecord (h : Writing r known known' p cell cell' w w') (owner : String)
    (options : RecordOptions) {args args' : Arguments} (hargs : PairsArguments r args args') :
    Agree (Writing r known known' p cell cell') (w.initializeRecord p owner options args)
      (w'.initializeRecord (r.place p) owner options args') := by
  rw [initializeRecord_outline, initializeRecord_outline, h.similar.alike.recordArguments]
  generalize (w.classes.recordArguments (.declared owner)).map Field.outline = fields
  have hcall := hargs.distribute ((fields.filter (·.inInit)).map Field.parameter)
  revert hcall
  generalize args.distribute ((fields.filter (·.inInit)).map Field.parameter) = call
  generalize args'.distribute ((fields.filter (·.inInit)).map Field.parameter) = call'
  intro hcall
  cases hcall with
  | error fault => exact .error fault
  | ok hcall =>
      refine Agree.foldlM ?_ fields h
      intro w₁ w₁' hnext f
      exact hnext.initializeField owner options hcall f

/-! ## Declared initializers -/

theorem valuesOf_agree {bound bound' : List (String × Slot)} (h : PairsNamed r bound bound')
    (names : List String) : Agree (PairsAll r) (valuesOf bound names) (valuesOf bound' names) := by
  unfold valuesOf
  induction names with
  | nil => exact .ok pairsAll_nil
  | cons name rest ih =>
      rw [List.mapM_cons, List.mapM_cons]
      apply Agree.bind (R := r.Pairs)
      · have hfound := pairsNamed_lookup h name
        revert hfound
        generalize bound.lookup name = found
        generalize bound'.lookup name = found'
        intro hfound
        cases hfound with
        | none => exact .error _
        | some hv => exact .ok hv
      · intro v v' hv
        apply ih.bind
        intro values values' hvalues
        exact .ok (pairsAll_cons hv hvalues)

theorem storeAll_agree {T : World → World → Prop}
    {store store' : World → String → Slot → Except Fault World}
    (hstore : ∀ w w', T w w' → ∀ name v v', r.Pairs v v' →
      Agree T (store w name v) (store' w' name v'))
    {bound bound' : List (String × Slot)} (hbound : PairsNamed r bound bound') (h : T w w')
    (pairs : List (String × String)) :
    Agree T (storeAll store bound w pairs) (storeAll store' bound' w' pairs) := by
  unfold storeAll
  refine Agree.foldlM ?_ pairs h
  rintro w₁ w₁' hnext ⟨target, name⟩
  dsimp only
  have hfound := pairsNamed_lookup hbound name
  revert hfound
  generalize bound.lookup name = found
  generalize bound'.lookup name = found'
  intro hfound
  cases hfound with
  | none => exact .error _
  | some hv => exact hstore w₁ w₁' hnext target _ _ hv

/-- Stores the parameters of a declared initializer, some of them past the guards of the class. -/
def storeParameters (p : Place) (init : Initializer) (bound : List (String × Slot)) (w : World) :
    Except Fault World := do
  let w ← storeAll (fun w name v => w.setAttribute (.ref p) name v) bound w init.stores
  if !init.directStores.isEmpty && init.parameters.any (·.name == "object") then
    .error .missingAttribute
  else storeAll (fun w name v => w.setDirectly (.ref p) name v) bound w init.directStores

/-- Runs a declared initializer, given how the next one in line is run. -/
def runDeclared (p : Place) (further : World → Arguments → Except Fault World) (owner : String)
    (init : Initializer) (w : World) (args : Arguments) : Except Fault World :=
  match args.distribute init.parameters with
  | .error fault => .error fault
  | .ok call =>
    let (w, bound) := w.parameterValues owner init.parameters call
    match init.forwards with
    | none => storeParameters p init bound w
    | some names =>
      if init.parameters.any (·.name == "super") then .error .typeMismatch
      else do
        let values ← valuesOf bound names
        let w ← further w ⟨values, []⟩
        storeParameters p init bound w

theorem runInitializer_declared (w : World) (p : Place) (name : String) (rest : List ClassRef)
    (args : Arguments) : w.runInitializer p (.declared name :: rest) args =
      match w.classes.declOf? (.declared name) with
      | none => w.runInitializer p rest args
      | some decl =>
        match decl.init, decl.kind with
        | some init, _ => runDeclared p (fun w => w.runInitializer p rest) name init w args
        | none, .record options =>
          if options.generatesInit then w.initializeRecord p name options args
          else w.runInitializer p rest args
        | none, .bag .. =>
          if args.isEmpty then
            (w.alloc (.seq .list [])).1.setAttribute (.ref p) "items" (w.alloc (.seq .list [])).2
          else .error .typeMismatch
        | none, _ => w.runInitializer p rest args := by
  rw [World.runInitializer]
  cases w.classes.declOf? (.declared name) with
  | none => rfl
  | some decl =>
      cases hinit : decl.init with
      | none => rfl
      | some init =>
          simp only [hinit, runDeclared]
          cases args.distribute init.parameters with
          | error fault => rfl
          | ok call =>
              cases init.forwards with
              | none => rfl
              | some names =>
                  dsimp only
                  split <;> rfl

theorem runDeclared_outline (p : Place) (further : World → Arguments → Except Fault World)
    (owner : String) (init : Initializer) (w : World) (args : Arguments) :
    runDeclared p further owner init.outline w args = runDeclared p further owner init w args := by
  have hany : ∀ name : String, ((init.parameters.map Parameter.outline).any (·.name == name)) =
      init.parameters.any (·.name == name) := fun name => List.any_map
  unfold runDeclared storeParameters
  simp only [Initializer.outline, distribute_outline, parameterValues_outline, hany]

theorem Writing.storeParameters (h : Writing r known known' p cell cell' w w') (init : Initializer)
    {bound bound' : List (String × Slot)} (hbound : PairsNamed r bound bound') :
    Agree (Writing r known known' p cell cell') (World.storeParameters p init bound w)
      (World.storeParameters (r.place p) init bound' w') := by
  apply Agree.bind (R := Writing r known known' p cell cell')
  · apply storeAll_agree _ hbound h
    intro w₁ w₁' hstored name v v' hv
    exact hstored.setAttribute hv name
  · intro w₁ w₁' hstored
    split
    · exact .error _
    · apply storeAll_agree _ hbound hstored
      intro w₂ w₂' hstored name v v' hv
      exact hstored.setDirectly hv name

theorem Writing.runDeclared (h : Writing r known known' p cell cell' w w')
    {further further' : World → Arguments → Except Fault World}
    (hfurther : ∀ w w', Writing r known known' p cell cell' w w' → ∀ args args',
      PairsArguments r args args' →
        Agree (Writing r known known' p cell cell') (further w args) (further' w' args'))
    (owner : String) (init : Initializer) {args args' : Arguments}
    (hargs : PairsArguments r args args') :
    Agree (Writing r known known' p cell cell') (World.runDeclared p further owner init w args)
      (World.runDeclared (r.place p) further' owner init w' args') := by
  unfold World.runDeclared
  have hcall := hargs.distribute init.parameters
  revert hcall
  generalize args.distribute init.parameters = call
  generalize args'.distribute init.parameters = call'
  intro hcall
  cases hcall with
  | error fault => exact .error fault
  | @ok call call' hcall =>
      have hvalues := h.similar.parameterValues owner init.parameters hcall
      have hbound : PairsNamed r _ _ := hvalues.result
      have hnext := h.grows (parameterValues_extends w owner init.parameters call)
        (parameterValues_extends w' owner init.parameters call') hvalues.world
      dsimp only
      cases init.forwards with
      | none => exact hnext.storeParameters init hbound
      | some names =>
          dsimp only
          split
          · exact .error _
          · apply (valuesOf_agree hbound names).bind
            intro values values' hpairs
            apply (hfurther _ _ hnext _ _ ⟨hpairs, pairsNamed_nil⟩).bind
            intro w₁ w₁' hforwarded
            exact hforwarded.storeParameters init hbound

theorem Writing.initializeBuiltin (h : Writing r known known' p cell cell' w w') (b : Builtin)
    {args args' : Arguments} (hargs : PairsArguments r args args') :
    Agree (Writing r known known' p cell cell') (w.initializeBuiltin b args)
      (w'.initializeBuiltin b args') := by
  unfold World.initializeBuiltin
  rw [hargs.isEmpty, hargs.lacksArguments]
  repeat' split
  · exact .error _
  · exact .error _
  · exact .ok h

/-- Initializers that run on an object and its counterpart agree. -/
theorem Writing.runInitializer (h : Writing r known known' p cell cell' w w')
    (lineage : List ClassRef) {args args' : Arguments} (hargs : PairsArguments r args args') :
    Agree (Writing r known known' p cell cell') (w.runInitializer p lineage args)
      (w'.runInitializer (r.place p) lineage args') := by
  induction lineage generalizing w w' args args' with
  | nil => exact h.initializeBuiltin .object hargs
  | cons c rest ih =>
      cases c with
      | builtin b =>
          rw [runInitializer_builtin, runInitializer_builtin]
          split
          · exact h.initializeBuiltin b hargs
          · exact ih h hargs
      | declared name =>
          have hdecl := h.similar.alike.declOf? (.declared name)
          rw [runInitializer_declared, runInitializer_declared]
          cases hfound : w.classes.declOf? (.declared name) with
          | none =>
              rw [hfound] at hdecl
              rw [Option.map_eq_none_iff.mp hdecl]
              exact ih h hargs
          | some decl =>
              rw [hfound] at hdecl
              obtain ⟨decl', hfound', houtline⟩ := Option.map_eq_some_iff.mp hdecl
              have hkind : decl'.kind = decl.kind := by
                rw [← ClassDecl.kind_outline decl', houtline, ClassDecl.kind_outline]
              have hinit : decl'.init.map Initializer.outline =
                  decl.init.map Initializer.outline := by
                show decl'.outline.init = decl.outline.init
                rw [houtline]
              rw [hfound']
              dsimp only
              rw [hkind]
              cases hdeclared : decl.init with
              | some init =>
                  rw [hdeclared] at hinit
                  obtain ⟨init', hdeclared', hsame⟩ := Option.map_eq_some_iff.mp hinit
                  rw [hdeclared']
                  dsimp only
                  rw [← runDeclared_outline p, ← runDeclared_outline (r.place p), hsame]
                  exact h.runDeclared (fun _ _ hnext _ _ => ih hnext) name init.outline hargs
              | none =>
                  rw [hdeclared] at hinit
                  rw [Option.map_eq_none_iff.mp hinit]
                  cases decl.kind with
                  | record options =>
                      dsimp only
                      split
                      · exact h.initializeRecord name options hargs
                      · exact ih h hargs
                  | bag append add isAbstract =>
                      dsimp only
                      rw [hargs.isEmpty]
                      split
                      · have hnew := h.similar.alloc_seq .list (pairsAll_nil (r := r))
                        exact (h.grows (alloc_extends w _) (alloc_extends w' _)
                          hnew.world).setAttribute hnew.result "items"
                      · exact .error _
                  | plain | model | enumeration => exact ih h hargs

/-! ## Creation -/

theorem Similar.createBuiltin (h : Similar r known known' w w') (b : Builtin) :
    Agree (Both r known known' r.Pairs) (w.createBuiltin b) (w'.createBuiltin b) := by
  have hseq := fun kind => h.alloc_seq kind (pairsAll_nil (r := r))
  have hobject := h.alloc_object b.name none (pairsNamed_nil (r := r))
  have hdict := h.alloc_texts (pairsNamed_nil (r := r))
  cases b with
  | noneType | bool | int | float | complex | str | bytes | decimal | time | timedelta =>
      exact .ok ⟨h, pairs_atom _⟩
  | bytearray | list | tuple | set | frozenset | deque => exact .ok (hseq _)
  | dict | counter | defaultdict | orderedDict => exact .ok hdict
  | object | baseModel | generic => exact .ok hobject
  | _ => exact .error _

theorem Similar.wrappedZero (h : Similar r known known' w w') (b : Builtin) :
    w'.wrappedZero b = w.wrappedZero b := by
  unfold World.wrappedZero
  have hzero := h.createBuiltin b
  revert hzero
  generalize w.createBuiltin b = made
  generalize w'.createBuiltin b = made'
  intro hzero
  cases hzero with
  | error fault => rfl
  | @ok made made' hmade =>
      obtain ⟨w₁, v⟩ := made
      obtain ⟨w₁', v'⟩ := made'
      obtain rfl : v' = v.rename r.place := hmade.result.2
      cases v <;> rfl

/-- What makes an object is given arguments that correspond, of which only the number and the names
matter. -/
theorem Similar.makeObject (h : Similar r known known' w w') (lineage : List ClassRef)
    {args args' : Arguments} (hargs : PairsArguments r args args') :
    w'.makeObject lineage args' = w.makeObject lineage args := by
  induction lineage generalizing args args' with
  | nil => rfl
  | cons c rest ih =>
      cases c with
      | builtin b =>
          rw [World.makeObject, World.makeObject, h.wrappedZero, ih hargs]
      | declared name =>
          have hmaker : ((w'.classes.declOf? (.declared name)).bind ClassDecl.maker?).map
              Maker.outline =
              ((w.classes.declOf? (.declared name)).bind ClassDecl.maker?).map Maker.outline := by
            have hdecl := congrArg (·.bind ClassDecl.maker?) (h.alike.declOf? (.declared name))
            simpa only [Option.bind_map, Option.map_bind, Function.comp_def,
              ClassDecl.maker?_outline] using hdecl
          rw [World.makeObject, World.makeObject]
          revert hmaker
          generalize (w.classes.declOf? (.declared name)).bind ClassDecl.maker? = maker
          generalize (w'.classes.declOf? (.declared name)).bind ClassDecl.maker? = maker'
          intro hmaker
          cases maker with
          | none =>
              rw [Option.map_eq_none_iff.mp hmaker]
              exact ih hargs
          | some maker =>
              obtain ⟨maker', rfl, houtline⟩ := Option.map_eq_some_iff.mp hmaker
              have hparameters : maker'.parameters.map Parameter.outline =
                  maker.parameters.map Parameter.outline := congrArg Maker.parameters houtline
              have hwraps : maker'.outline.wraps = maker.outline.wraps :=
                congrArg Maker.wraps houtline
              have hcall := hargs.distribute (maker.parameters.map Parameter.outline)
              rw [distribute_outline, ← hparameters, distribute_outline] at hcall
              dsimp only [Maker.outline] at hwraps ⊢
              rw [hwraps, ih pairsArguments_none]
              revert hcall
              generalize args.distribute maker.parameters = call
              generalize args'.distribute maker'.parameters = call'
              intro hcall
              cases hcall with
              | ok => cases maker.wraps <;> rfl
              | error => rfl

theorem Similar.modelDefault (h : Similar r known known' w w') (c : ClassRef) (f : Field) :
    Both r known known' (Option.Rel r.Pairs) (w.modelDefault c f) (w'.modelDefault c f) := by
  have hnames : (w'.classes.declsOf c).map (·.name) = (w.classes.declsOf c).map (·.name) :=
    h.alike.congr (q := fun classes => (classes.declsOf c).map (·.name)) fun classes => by
      rw [Classes.declsOf_outline, List.map_map]
      rfl
  unfold World.modelDefault
  cases f.default with
  | missing => exact ⟨h, .none⟩
  | factory u =>
      have hnew := internCopy_both h u
      exact ⟨hnew.world, .some hnew.result⟩
  | value u =>
      have hkept := h.findConstant (.attribute · f.name) ((w.classes.declsOf c).map (·.name))
      rw [List.findSome?_map] at hkept
      rw [← hnames, List.findSome?_map] at hkept
      dsimp only [Function.comp_def] at hkept ⊢
      revert hkept
      generalize (w.classes.declsOf c).findSome? _ = kept
      generalize (w'.classes.declsOf c).findSome? _ = kept'
      intro hkept
      cases hkept with
      | none =>
          have hnew := internCopy_both h u
          exact ⟨hnew.world, .some hnew.result⟩
      | @some slot slot' hslot =>
          have hcopy : w'.internCopy (w'.load slot') = w'.internCopy (w.load slot) := by
            unfold internCopy
            rw [h.load hslot, Value.detach_rename]
          have hnew := internCopy_both h (w.load slot)
          simp only [Option.map_some, Option.getD_some, hcopy]
          exact ⟨hnew.world, .some hnew.result⟩

/-- Names that are not used yet, and attributes that have been made. -/
abbrev PairsBoth (r : Correspondence) (state state' : List (String × Slot) × List (String × Slot)) :
    Prop := PairsNamed r state.1 state'.1 ∧ PairsNamed r state.2 state'.2

/-- Adds a default that has been made, if there is one. -/
def withDefault (left attributes : List (String × Slot)) (name : String) :
    World × Option Slot → World × List (String × Slot) × List (String × Slot)
  | (w, some v) => (w, left, attributes ++ [(name, v)])
  | (w, none) => (w, left, attributes)

/-- Adds the attribute of a field, from what is given for it or from its default. -/
def constructField (c : ClassRef)
    (state : World × List (String × Slot) × List (String × Slot)) (f : Field) :
    World × List (String × Slot) × List (String × Slot) :=
  let (w, left, attributes) := state
  let key := (f.otherName.toList ++ [f.name]).find? fun key => left.any (·.1 == key)
  match key.bind fun key => (left.lookup key).map fun v => (key, v) with
  | some (key, v) => (w, left.filter (·.1 != key), attributes ++ [(f.name, v)])
  | none => withDefault left attributes f.name (w.modelDefault c f)

/-- Adds a hidden attribute, from what is given for it or from its first value. -/
def constructHidden (left : List (String × Slot)) (state : World × List (String × Slot))
    (entry : String × Value) : World × List (String × Slot) :=
  let (w, known) := state
  match left.lookup entry.1 with
  | some v => (w, putAttribute known entry.1 v)
  | none =>
    let (w, slot) := w.internCopy entry.2
    (w, putAttribute known entry.1 slot)

/-- What a model keeps of names that are no fields. -/
def extraAttributes (classes : Classes) (c : ClassRef) (left : List (String × Slot)) :
    List (String × Slot) :=
  if (classes.modelOption? c (·.extra)).getD .ignore == .allow then
    left.filter fun entry => !isHiddenName entry.1
  else []

theorem construct_eq (w : World) (c : ClassRef) (given : List (String × Slot)) :
    w.construct c given =
      let (w, left, attributes) := (w.classes.modelFields c).foldl (constructField c) (w, given, [])
      let (w', hidden) := (w.classes.hiddenAttributes c).foldl (constructHidden left) (w, [])
      w'.alloc (.object c.name none (attributes ++ extraAttributes w.classes c left ++ hidden)) :=
  rfl

theorem Both.withDefault {made made' : World × Option Slot}
    (h : Both r known known' (Option.Rel r.Pairs) made made')
    {left left' attributes attributes' : List (String × Slot)} (hleft : PairsNamed r left left')
    (hattributes : PairsNamed r attributes attributes') (name : String) :
    Both r known known' (PairsBoth r) (World.withDefault left attributes name made)
      (World.withDefault left' attributes' name made') := by
  obtain ⟨w, v⟩ := made
  obtain ⟨w', v'⟩ := made'
  obtain ⟨hw, hv⟩ := h
  cases hv with
  | none => exact ⟨hw, hleft, hattributes⟩
  | some hv => exact ⟨hw, hleft, pairsNamed_append hattributes (pairsNamed_singleton name hv)⟩

theorem Both.constructField (c : ClassRef) (f : Field)
    {state state' : World × List (String × Slot) × List (String × Slot)}
    (h : Both r known known' (PairsBoth r) state state') :
    Both r known known' (PairsBoth r) (World.constructField c state f)
      (World.constructField c state' f) := by
  obtain ⟨w, left, attributes⟩ := state
  obtain ⟨w', left', attributes'⟩ := state'
  obtain ⟨hw, hleft, hattributes⟩ := h
  have hisLeft := fun key => any_named hleft (· == key)
  unfold World.constructField
  simp only [hisLeft]
  generalize (f.otherName.toList ++ [f.name]).find? (fun key => left.any (·.1 == key)) = key
  have hdefault := (hw.modelDefault c f).withDefault hleft hattributes f.name
  cases key with
  | none => exact hdefault
  | some key =>
      have hfound := pairsNamed_lookup hleft key
      simp only [Option.bind_some]
      revert hfound
      generalize left.lookup key = found
      generalize left'.lookup key = found'
      intro hfound
      cases hfound with
      | none => exact hdefault
      | some hv =>
          exact ⟨hw, pairsNamed_filter hleft (· != key),
            pairsNamed_append hattributes (pairsNamed_singleton f.name hv)⟩

theorem Both.constructHidden {left left' : List (String × Slot)} (hleft : PairsNamed r left left')
    (entry : String × Value) {state state' : World × List (String × Slot)}
    (h : Both r known known' (PairsNamed r) state state') :
    Both r known known' (PairsNamed r) (World.constructHidden left state entry)
      (World.constructHidden left' state' entry) := by
  obtain ⟨w, attributes⟩ := state
  obtain ⟨w', attributes'⟩ := state'
  obtain ⟨hw, hattributes⟩ := h
  have hfound := pairsNamed_lookup hleft entry.1
  unfold World.constructHidden
  dsimp only
  revert hfound
  generalize left.lookup entry.1 = found
  generalize left'.lookup entry.1 = found'
  intro hfound
  cases hfound with
  | none =>
      have hnew := internCopy_both hw entry.2
      exact ⟨hnew.world, pairsNamed_putAttribute hattributes entry.1 hnew.result⟩
  | some hv => exact ⟨hw, pairsNamed_putAttribute hattributes entry.1 hv⟩

theorem Similar.extraAttributes (h : Similar r known known' w w') (c : ClassRef)
    {left left' : List (String × Slot)} (hleft : PairsNamed r left left') :
    PairsNamed r (World.extraAttributes w.classes c left)
      (World.extraAttributes w'.classes c left') := by
  unfold World.extraAttributes
  rw [h.alike.modelOption?]
  split
  · exact pairsNamed_filter hleft fun name => !isHiddenName name
  · exact pairsNamed_nil

/-- Models that are created of corresponding values correspond. -/
theorem Similar.construct (h : Similar r known known' w w') (c : ClassRef)
    {given given' : List (String × Slot)} (hgiven : PairsNamed r given given') :
    Both r known known' r.Pairs (w.construct c given) (w'.construct c given') := by
  have hfields : Both r known known' (PairsBoth r)
      ((w.classes.modelFields c).foldl (World.constructField c) (w, given, []))
      ((w'.classes.modelFields c).foldl (World.constructField c) (w', given', [])) := by
    have houtline : ∀ (w : World) (given : List (String × Slot)),
        (w.classes.modelFields c).foldl (World.constructField c) (w, given, []) =
          ((w.classes.modelFields c).map Field.outline).foldl (World.constructField c)
            (w, given, []) := by
      intro w given
      rw [List.foldl_map]
      rfl
    rw [houtline, houtline, h.alike.modelFields]
    generalize (w.classes.modelFields c).map Field.outline = fields
    have hstart : Both r known known' (PairsBoth r) (w, given, []) (w', given', []) :=
      ⟨h, hgiven, pairsNamed_nil⟩
    refine List.rel_foldl (R := Eq) ?_ hstart (List.forall₂_refl fields)
    rintro state state' hstate f g rfl
    exact hstate.constructField c f
  rw [construct_eq, construct_eq]
  revert hfields
  generalize (w.classes.modelFields c).foldl (World.constructField c) (w, given, []) = fields
  generalize (w'.classes.modelFields c).foldl (World.constructField c) (w', given', []) = fields'
  intro hfields
  obtain ⟨w₁, left, attributes⟩ := fields
  obtain ⟨w₁', left', attributes'⟩ := fields'
  obtain ⟨hw, hleft, hattributes⟩ := hfields
  have hhidden : Both r known known' (PairsNamed r)
      ((w₁.classes.hiddenAttributes c).foldl (World.constructHidden left) (w₁, []))
      ((w₁'.classes.hiddenAttributes c).foldl (World.constructHidden left') (w₁', [])) := by
    rw [hw.alike.hiddenAttributes]
    have hstart : Both r known known' (PairsNamed r) (w₁, []) (w₁', []) := ⟨hw, pairsNamed_nil⟩
    refine List.rel_foldl (R := Eq) ?_ hstart
      (List.forall₂_refl (w₁.classes.hiddenAttributes c))
    rintro state state' hstate entry other rfl
    exact hstate.constructHidden hleft entry
  exact hhidden.world.alloc_object c.name none (pairsNamed_append
    (pairsNamed_append hattributes (hw.extraAttributes c hleft)) hhidden.result)

/-- A new object that corresponds to a new one. -/
theorem Similar.writing (h : Similar r known known' w w') {name : String} {core : Option Atom}
    (hmodel : w.classes.isModel (.declared name) = false) :
    Writing r known known' w.store.size (.object name core []) (.object name core [])
      (w.alloc (.object name core [])).1 (w'.alloc (.object name core [])).1 := by
  have hnew := h.alloc_object name core (pairsNamed_nil (r := r))
  refine ⟨hnew.world, rfl, ?_, [], fun _ hwrite => (nomatch hwrite), ?_, ?_⟩
  · intro owner howner hisModel
    cases howner
    have hplain : w.classes.isModel (.declared name) = true := hisModel
    rw [hmodel] at hplain
    cases hplain
  · exact Store.get?_alloc_self _ _
  · have hplace : r.place w.store.size = w'.store.size := h.store.fresh 0
    rw [hplace]
    exact Store.get?_alloc_self _ _

theorem Similar.createDeclared (h : Similar r known known' w w') (name : String)
    {args args' : Arguments} (hargs : PairsArguments r args args') (core : Option Atom) :
    Agree (Both r known known' r.Pairs) (w.createDeclared name args core)
      (w'.createDeclared name args' core) := by
  have hsame : w'.classes.initialArguments (.declared name) args' =
      w.classes.initialArguments (.declared name) args' :=
    h.alike.congr (q := (·.initialArguments _ args')) (initialArguments_outline · _ args')
  unfold World.createDeclared
  dsimp only
  rw [h.alike.isAbstract, h.alike.isModel, h.alike.kindOf?, pairsAll_isEmpty hargs.positional,
    hargs.isEmpty, hsame]
  split
  · exact .error _
  · cases hmodel : w.classes.isModel (.declared name) with
    | true =>
        simp only [if_true]
        split
        · exact .ok (h.construct _ hargs.named)
        · exact .error _
    | false =>
        simp only [Bool.false_eq_true, if_false]
        split
        · split
          · exact .ok (h.alloc_seq _ pairsAll_nil)
          · exact .error _
        · have hinitial := hargs.initial w.classes (.declared name)
          have hnew := h.alloc_object name core (pairsNamed_nil (r := r))
          have hwriting : Writing r known known' w.store.size (.object name core [])
              (.object name core []) _ _ := h.writing hmodel
          have hplace : r.place w.store.size = w'.store.size := h.store.fresh 0
          show Agree _
            (((w.alloc (.object name core [])).1.runInitializer w.store.size
              (w.classes.lineageOf (.declared name)) _).map
                fun made => (made, (w.alloc (.object name core [])).2))
            (((w'.alloc (.object name core [])).1.runInitializer w'.store.size
              (w'.classes.lineageOf (.declared name)) _).map
                fun made => (made, (w'.alloc (.object name core [])).2))
          rw [h.alike.lineageOf, ← hplace]
          apply (hwriting.runInitializer (w.classes.lineageOf (.declared name)) hinitial).map
          intro made made' hmade
          exact ⟨hmade.similar, hnew.result⟩

/-- What is created in worlds that correspond corresponds. -/
theorem Similar.createWith (h : Similar r known known' w w') (c : ClassRef) {args args' : Arguments}
    (hargs : PairsArguments r args args') :
    Agree (Both r known known' r.Pairs) (w.createWith c args) (w'.createWith c args') := by
  unfold World.createWith
  cases c with
  | builtin b =>
      dsimp only
      rw [hargs.isEmpty]
      split
      · exact h.createBuiltin b
      · exact .error _
  | declared name =>
      have hmaking : w'.classes.makingArguments (.declared name) args' =
          w.classes.makingArguments (.declared name) args' := by
        unfold Classes.makingArguments
        rw [h.alike.isModel]
      dsimp only
      rw [h.alike.isEnumeration, hargs.isEmpty, hmaking, h.alike.lineageOf,
        h.makeObject _ (hargs.making w.classes (.declared name))]
      split
      · exact .error _
      · cases w.makeObject _ _ with
        | error fault => exact .error _
        | ok core => exact h.createDeclared name hargs core

theorem Similar.create (h : Similar r known known' w w') (c : ClassRef)
    {named named' : List (String × Slot)} (hnamed : PairsNamed r named named') :
    Agree (Both r known known' r.Pairs) (w.create c named) (w'.create c named') :=
  h.createWith c ⟨pairsAll_nil, hnamed⟩

end World

end Memberwise
