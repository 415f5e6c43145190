import Memberwise.Proofs.Class.Lineage
import Memberwise.Proofs.Member.Describable
import Memberwise.Proofs.Member.Names
import Memberwise.World.Create

/-! # Inherited fields

The annotations of an ancestor are annotations of its heirs, so a field that they make is only
lost to a property or a class variable of the same name.  Of the initializers of a lineage the
nearest one counts alone: a field that an ancestor stores in its own is lost to an heir that has
another, even one that forwards to it.
-/

namespace Memberwise.Classes

/-! ## Where the name of a field comes from -/

/-- Whether a class has a field of a name. -/
def Reports (classes : Classes) (c : ClassRef) (name : String) : Prop :=
  ∃ members, classes.fields c = .ok members ∧ name ∈ members.map (·.name)

theorem reports_iff {classes : Classes} {c : ClassRef} {name : String} {members : List Member}
    (h : classes.fields c = .ok members) :
    classes.Reports c name ↔ name ∈ members.map (·.name) := by
  constructor
  · rintro ⟨found, hfound, hname⟩
    rw [h] at hfound
    cases hfound
    exact hname
  · exact fun hname => ⟨members, h, hname⟩

/-- Whether some class of the lineage annotates a name. -/
def Annotates (classes : Classes) (c : ClassRef) (name : String) : Prop :=
  ∃ decl ∈ classes.declsOf c, name ∈ decl.annotations.map (·.1)

/-- Whether the initializer of a class stores an annotated parameter under its own name, as far as
the names in its code and the places of the instances tell. -/
def Stores (classes : Classes) (c : ClassRef) (name : String) : Prop :=
  ∃ owner init, classes.initSource c = .declared owner init ∧
    name ∈ usedNames init ++ classes.slotsOf c ∧
    ∃ p ∈ init.parameters, p.name = name ∧ p.isSingle = true ∧ p.type.isSome = true

/-- Whether the initializer that is generated for a class stores an argument under its own name, as
far as the names in its code and the places of the instances tell. -/
def StoresArgument (classes : Classes) (c : ClassRef) (name : String) : Prop :=
  ∃ owner, classes.initSource c = .generated owner ∧
    name ∈ (classes.generatedParameters c owner).map (·.1)

/-- Whether a hint marks a class variable. -/
def MarksClassVariable (t : TypeExpr) : Prop := ∃ args, t = .applied (.form .classVar) args

/-- Whether the lineage of a class makes a name a property or a class variable. -/
def Reassigns (classes : Classes) (c : ClassRef) (name : String) : Prop :=
  name ∈ (classes.publicProperties c).map (·.1) ∨
    ∃ hints t, classes.classHints c = .ok hints ∧ (name, t) ∈ hints ∧ MarksClassVariable t

theorem keeps_iff {t : TypeExpr} :
    (match t with
      | .applied (.form .classVar) _ => false
      | _ => true) = true ↔ ¬ MarksClassVariable t := by
  unfold MarksClassVariable
  split <;> simp_all

variable {classes : Classes} {c : ClassRef} {name : String}

theorem mem_putHint_names {known : List (String × TypeExpr)} {entry : String} {t : TypeExpr} :
    name ∈ (putHint known entry t).map (·.1) ↔ name = entry ∨ name ∈ known.map (·.1) := by
  have hkeys : (putHint known entry t).map (·.1) =
      if entry ∈ known.map (·.1) then known.map (·.1) else known.map (·.1) ++ [entry] :=
    map_key_upsert (·.1) (entry, t) known
  rw [hkeys]
  by_cases hentry : entry ∈ known.map (·.1)
  · rw [if_pos hentry]
    constructor
    · exact .inr
    · rintro (rfl | h)
      · exact hentry
      · exact h
  · rw [if_neg hentry, List.mem_append, List.mem_singleton]
    exact or_comm

/-- The names of hints: those that there were, and those of the annotations. -/
theorem mem_foldlM_hints_names {owner : String} {annotations known hints : List (String × TypeExpr)}
    (h : annotations.foldlM (fun known (entry, t) => do
      .ok (putHint known entry (← classes.hintOf owner t))) known = .ok hints) :
    name ∈ hints.map (·.1) ↔ name ∈ known.map (·.1) ∨ name ∈ annotations.map (·.1) := by
  induction annotations generalizing known with
  | nil =>
      cases h
      simp
  | cons entry rest ih =>
      rw [List.foldlM_cons] at h
      obtain ⟨next, hnext, h⟩ := bind_eq_ok.mp h
      obtain ⟨t, -, hnext⟩ := bind_eq_ok.mp hnext
      cases hnext
      rw [ih h, mem_putHint_names, List.map_cons, List.mem_cons]
      tauto

theorem classHints_names {hints : List (String × TypeExpr)} (h : classes.classHints c = .ok hints) :
    name ∈ hints.map (·.1) ↔ classes.Annotates c name := by
  rw [mem_foldlM_hints_names h, List.map_flatMap]
  simp only [List.map_nil, List.not_mem_nil, false_or, List.mem_flatMap, List.mem_reverse]
  rfl

theorem hintOf?_isSome {owner : String} {t u : Option TypeExpr}
    (h : classes.hintOf? owner t = .ok u) : u.isSome = t.isSome := by
  cases t with
  | none =>
      cases h
      rfl
  | some t =>
      obtain ⟨v, -, rfl⟩ := map_eq_ok.mp h
      rfl

/-- The parameters that are kept are the annotated single ones with a stored name. -/
theorem mem_stored_names {owner : String} {stored : List String} {ps : List Parameter}
    {hints : List (Parameter × Option TypeExpr)}
    (h : List.Forall₂ (fun (p : Parameter) entry => (do
      .ok (p, ← classes.hintOf? owner p.type)) = (.ok entry : Except Fault _)) ps hints) :
    name ∈ (hints.filterMap fun (p, hint) =>
        if p.isSingle && stored.contains p.name then hint.map fun t => (p.name, t)
        else none).map (·.1) ↔
      name ∈ stored ∧
        ∃ p ∈ ps, p.name = name ∧ p.isSingle = true ∧ p.type.isSome = true := by
  induction h with
  | nil => simp
  | @cons p entry rest others hentry _ ih =>
      obtain ⟨hint, hhint, hentry⟩ := bind_eq_ok.mp hentry
      cases hentry
      have hsome := hintOf?_isSome hhint
      rw [List.exists_mem_cons_iff, and_or_left, ← ih]
      cases hint with
      | none => simp [← hsome]
      | some t =>
          by_cases hkept : (p.isSingle && stored.contains p.name) = true
          · obtain ⟨hsingle, hcontains⟩ := Bool.and_eq_true_iff.mp hkept
            have hmem : p.name ∈ stored := by simpa using hcontains
            by_cases hname : p.name = name
            · subst hname
              simp [hsingle, hmem, ← hsome]
            · simp [hsingle, hmem, hname, Ne.symm hname]
          · have hother : ¬ (name ∈ stored ∧ p.name = name ∧ p.isSingle = true ∧
                p.type.isSome = true) := by
              rintro ⟨hmem, rfl, hsingle, -⟩
              simp [hsingle, hmem] at hkept
            simp only [List.filterMap_cons, if_neg hkept, hother, false_or]

theorem storedParameters_names {parameters : List (String × TypeExpr)}
    (h : classes.storedParameters c = .ok parameters) :
    name ∈ parameters.map (·.1) ↔ classes.Stores c name ∨ classes.StoresArgument c name := by
  unfold storedParameters at h
  split at h
  · rename_i owner init hinit
    obtain ⟨hints, hhints, hparameters⟩ := bind_eq_ok.mp h
    cases hparameters
    rw [mem_stored_names (mapM_eq_ok_iff.mp hhints)]
    constructor
    · exact fun hname => .inl ⟨owner, init, hinit, hname⟩
    · rintro (⟨owner, init, hsource, hname⟩ | ⟨owner, hsource, -⟩)
      · rw [hinit] at hsource
        cases hsource
        exact hname
      · rw [hinit] at hsource
        cases hsource
  · rename_i owner hinit
    cases h
    constructor
    · exact fun hname => .inr ⟨owner, hinit, hname⟩
    · rintro (⟨owner, init, hsource, -⟩ | ⟨owner, hsource, hname⟩)
      · rw [hinit] at hsource
        cases hsource
      · rw [hinit] at hsource
        cases hsource
        exact hname
  · rename_i hdeclared hgenerated
    cases h
    simp only [List.map_nil, List.not_mem_nil, false_iff, not_or]
    constructor
    · rintro ⟨owner, init, hsource, -⟩
      exact hdeclared owner init hsource
    · rintro ⟨owner, hsource, -⟩
      exact hgenerated owner hsource

/-- Entering what is not there yet leads to the names of both lists. -/
theorem mem_foldl_append_names {entries known : List (String × TypeExpr)} :
    name ∈ (entries.foldl (fun known (entry, t) =>
      if known.any (·.1 == entry) then known else known ++ [(entry, t)]) known).map (·.1) ↔
    name ∈ known.map (·.1) ∨ name ∈ entries.map (·.1) := by
  induction entries generalizing known with
  | nil => simp
  | cons entry rest ih =>
      rw [List.foldl_cons, ih, List.map_cons, List.mem_cons]
      dsimp only
      by_cases hany : known.any (·.1 == entry.1) = true
      · rw [if_pos hany]
        have hmem : entry.1 ∈ known.map (·.1) := by
          obtain ⟨found, hfound, hkey⟩ := List.any_eq_true.mp hany
          exact List.mem_map.mpr ⟨found, hfound, eq_of_beq hkey⟩
        constructor
        · tauto
        · rintro (hname | rfl | hname)
          · exact .inl hname
          · exact .inl hmem
          · exact .inr hname
      · rw [if_neg hany, List.map_append, List.mem_append, List.map_singleton, List.mem_singleton]
        tauto

theorem fieldAnnotations_names (name : String) {annotations : List (String × TypeExpr)}
    (h : classes.fieldAnnotations c = .ok annotations) :
    ∃ hints, classes.classHints c = .ok hints ∧
      (name ∈ annotations.map (·.1) ↔
        (∃ t, (name, t) ∈ hints ∧ ¬ MarksClassVariable t) ∨
          classes.Stores c name ∨ classes.StoresArgument c name) := by
  unfold fieldAnnotations at h
  obtain ⟨hints, hhints, h⟩ := bind_eq_ok.mp h
  obtain ⟨parameters, hparameters, h⟩ := bind_eq_ok.mp h
  cases h
  refine ⟨hints, hhints, ?_⟩
  rw [mem_foldl_append_names, storedParameters_names hparameters]
  refine or_congr_left ?_
  constructor
  · intro hname
    obtain ⟨⟨_, t⟩, hentry, rfl⟩ := List.mem_map.mp hname
    obtain ⟨hentry, hkept⟩ := List.mem_filter.mp hentry
    exact ⟨t, hentry, keeps_iff.mp hkept⟩
  · rintro ⟨t, hentry, hkept⟩
    exact List.mem_map.mpr ⟨(name, t), List.mem_filter.mpr ⟨hentry, keeps_iff.mpr hkept⟩, rfl⟩

/-! ## Fields of a class and of its ancestors -/

/-- The fields of a class that is no model: the public names that are no properties and are
annotated, not as class variables, or stored by its initializer. -/
theorem fields_names (name : String) (hmodel : classes.isModel c = false)
    {members : List Member} (h : classes.fields c = .ok members) :
    ∃ hints, classes.classHints c = .ok hints ∧
      (name ∈ members.map (·.name) ↔
        isFieldName (classes.publicProperties c) name = true ∧
          ((∃ t, (name, t) ∈ hints ∧ ¬ MarksClassVariable t) ∨
            classes.Stores c name ∨ classes.StoresArgument c name)) := by
  obtain ⟨annotations, hannotations, hmembers⟩ := mem_fields_iff hmodel h
  obtain ⟨hints, hhints, hnames⟩ := fieldAnnotations_names name hannotations
  refine ⟨hints, hhints, ?_⟩
  rw [← hnames]
  constructor
  · intro hname
    obtain ⟨m, hm, rfl⟩ := List.mem_map.mp hname
    obtain ⟨name, t, hannotation, hpublic, rfl⟩ := (hmembers m).mp hm
    exact ⟨hpublic, List.mem_map.mpr ⟨(name, t), hannotation, rfl⟩⟩
  · rintro ⟨hpublic, hname⟩
    obtain ⟨⟨name, t⟩, hannotation, rfl⟩ := List.mem_map.mp hname
    exact List.mem_map.mpr ⟨_, (hmembers _).mpr ⟨name, t, hannotation, hpublic, rfl⟩, rfl⟩

variable {d b : ClassRef}

theorem declsOf_subset (h : classes.Declared) (hb : b ∈ classes.lineageOf d) :
    classes.declsOf b ⊆ classes.declsOf d :=
  List.filterMap_subset _ (lineageOf_trans h hb)

theorem mem_initSourceIn {owner : String} {lineage : List ClassRef}
    (h : classes.initSourceIn lineage = .generated owner) : .declared owner ∈ lineage := by
  fun_induction initSourceIn classes lineage with
  | case1 => cases h
  | case2 => cases h
  | case3 _ _ _ ih => exact List.mem_cons_of_mem _ (ih h)
  | case4 _ _ _ ih => exact List.mem_cons_of_mem _ (ih h)
  | case5 => cases h
  | case6 =>
      cases h
      exact List.mem_cons_self
  | case7 _ _ _ _ _ _ _ _ ih => exact List.mem_cons_of_mem _ (ih h)
  | case8 => cases h
  | case9 _ _ _ _ _ _ _ ih => exact List.mem_cons_of_mem _ (ih h)

theorem mem_mergeField {known : List Field} {f g : Field} (h : g ∈ mergeField known f) :
    g = f ∨ g ∈ known := by
  unfold mergeField at h
  split at h
  · obtain ⟨old, hold, rfl⟩ := List.mem_map.mp h
    split
    · exact .inl rfl
    · exact .inr hold
  · exact (List.mem_append.mp h).symm.imp_left List.mem_singleton.mp

theorem mem_recordEntries {f : Field} (h : f ∈ classes.recordEntries c) :
    ∃ decl ∈ classes.declsOf c, f ∈ classes.ownEntries decl := by
  have hinvariant : ∀ f ∈ classes.recordEntries c,
      ∃ decl ∈ classes.declsOf c, f ∈ classes.ownEntries decl := by
    refine foldl_invariant_of_mem (fun known : List Field => ∀ f ∈ known,
      ∃ decl ∈ classes.declsOf c, f ∈ classes.ownEntries decl) ?_ fun _ hnone =>
        absurd hnone List.not_mem_nil
    intro known decl hdecl hknown
    have hdecl : decl ∈ classes.declsOf c := (List.mem_filter.mp (List.mem_reverse.mp hdecl)).1
    refine foldl_invariant_of_mem (fun known : List Field => ∀ f ∈ known,
      ∃ decl ∈ classes.declsOf c, f ∈ classes.ownEntries decl) ?_ hknown
    intro known f hf hknown g hg
    rcases mem_mergeField hg with rfl | hg
    · exact ⟨decl, hdecl, hf⟩
    · exact hknown g hg
  exact hinvariant f h

/-- The annotations of a body are entered one after another like hints. -/
theorem annotations_eq_foldl_putHint (decl : ClassDecl) :
    decl.annotations = decl.fields.foldl (fun known f => putHint known f.name f.type) [] := by
  unfold ClassDecl.annotations
  congr 1
  funext known f
  unfold putHint
  refine congrArg (ite _ · _) (List.map_congr_left fun entry _ => ?_)
  by_cases hname : entry.1 = f.name <;> simp [hname]

theorem annotations_names {decl : ClassDecl} {name : String} :
    name ∈ decl.annotations.map (·.1) ↔ name ∈ decl.fields.map Field.name := by
  have hfold : ∀ (fields : List Field) (known : List (String × TypeExpr)),
      name ∈ (fields.foldl (fun known f => putHint known f.name f.type) known).map (·.1) ↔
        name ∈ known.map (·.1) ∨ name ∈ fields.map Field.name := by
    intro fields
    induction fields with
    | nil => simp
    | cons f rest ih =>
        intro known
        rw [List.foldl_cons, ih, mem_putHint_names, List.map_cons, List.mem_cons]
        tauto
  rw [annotations_eq_foldl_putHint, hfold]
  simp

/-- The arguments of a generated initializer are annotated. -/
theorem annotates_of_storesArgument (h : classes.Declared) (hname : classes.StoresArgument c name) :
    classes.Annotates c name := by
  obtain ⟨owner, hsource, hname⟩ := hname
  obtain ⟨⟨_, t⟩, hparameter, rfl⟩ := List.mem_map.mp hname
  obtain ⟨f, hf, -, rfl, -⟩ := (classes.mem_generatedParameters c).mp hparameter
  obtain ⟨decl, hdecl, hf⟩ := mem_recordEntries (List.mem_filter.mp hf).1
  obtain ⟨own, hown, rfl⟩ := List.mem_map.mp hf
  refine ⟨decl, declsOf_subset h (mem_initSourceIn hsource) hdecl, ?_⟩
  exact annotations_names.mpr (List.mem_map.mpr ⟨own, hown, rfl⟩)

/-- What an ancestor annotates is annotated. -/
theorem annotates_of_ancestor (h : classes.Declared) (hb : b ∈ classes.lineageOf d)
    (hname : classes.Annotates b name) : classes.Annotates d name := by
  obtain ⟨decl, hdecl, hname⟩ := hname
  exact ⟨decl, declsOf_subset h hb hdecl, hname⟩

/-- An initializer stores for an heir that has no other one what it stores for an ancestor. -/
theorem stores_of_ancestor (h : classes.Declared) (hb : b ∈ classes.lineageOf d)
    (hsource : classes.initSource d = classes.initSource b) (hname : classes.Stores b name) :
    classes.Stores d name := by
  obtain ⟨owner, init, hinit, hstored, hp⟩ := hname
  refine ⟨owner, init, hsource.trans hinit, ?_, hp⟩
  rcases List.mem_append.mp hstored with hused | hslot
  · exact List.mem_append_left _ hused
  · obtain ⟨parent, hparent, hslot⟩ := List.mem_flatMap.mp hslot
    exact List.mem_append_right _
      (List.mem_flatMap.mpr ⟨parent, lineageOf_trans h hb hparent, hslot⟩)

theorem isModel_of_ancestor (h : classes.Declared) (hb : b ∈ classes.lineageOf d)
    (hmodel : classes.isModel d = false) : classes.isModel b = false := by
  simp only [isModel, descendsFrom, List.contains_eq_mem, decide_eq_false_iff_not] at hmodel ⊢
  exact fun hbase => hmodel (lineageOf_trans h hb hbase)

/-- Where neither a property nor a class variable is in the way, the fields of a class are the
public names that its lineage annotates or its initializer stores. -/
theorem reports_iff_of_not_reassigns (h : classes.Declared) (hc : classes.Describable c)
    (hmodel : classes.isModel c = false) (hpublic : isHiddenName name = false)
    (hfree : ¬ classes.Reassigns c name) :
    classes.Reports c name ↔ classes.Annotates c name ∨ classes.Stores c name := by
  obtain ⟨members, hmembers⟩ := fields_isOk hc
  obtain ⟨hints, hhints, hfields⟩ := fields_names name hmodel hmembers
  have hfield : isFieldName (classes.publicProperties c) name = true := by
    have hproperty : (classes.publicProperties c).any (·.1 == name) = false := by
      refine List.any_eq_false.mpr fun entry hentry hkey => hfree (.inl ?_)
      exact List.mem_map.mpr ⟨entry, hentry, eq_of_beq hkey⟩
    simp [isFieldName, hpublic, hproperty]
  have hannotated : (∃ t, (name, t) ∈ hints ∧ ¬ MarksClassVariable t) ↔
      classes.Annotates c name := by
    rw [← classHints_names hhints]
    constructor
    · rintro ⟨t, hentry, -⟩
      exact List.mem_map.mpr ⟨(name, t), hentry, rfl⟩
    · intro hmem
      obtain ⟨⟨_, t⟩, hentry, rfl⟩ := List.mem_map.mp hmem
      exact ⟨t, hentry, fun hmark => hfree (.inr ⟨hints, t, hhints, hentry, hmark⟩)⟩
  rw [← hannotated]
  constructor
  · rintro ⟨found, hfound, hmem⟩
    rw [hmembers] at hfound
    cases hfound
    rcases (hfields.mp hmem).2 with horigin | hstores | hstores
    · exact .inl horigin
    · exact .inr hstores
    · exact .inl (hannotated.mpr (annotates_of_storesArgument h hstores))
  · intro horigin
    exact ⟨members, hmembers, hfields.mpr ⟨hfield, horigin.imp_right .inl⟩⟩

/-- The name of a field is public, and annotated in the lineage or stored by the initializer. -/
theorem origin_of_reports (h : classes.Declared) (hmodel : classes.isModel c = false)
    (hname : classes.Reports c name) :
    isHiddenName name = false ∧ (classes.Annotates c name ∨ classes.Stores c name) := by
  obtain ⟨members, hmembers, hname⟩ := hname
  obtain ⟨hints, hhints, hfields⟩ := fields_names name hmodel hmembers
  obtain ⟨hfield, horigin⟩ := hfields.mp hname
  refine ⟨?_, ?_⟩
  · simp only [isFieldName, Bool.and_eq_true, Bool.not_eq_true'] at hfield
    exact hfield.1
  · rcases horigin with ⟨t, hentry, -⟩ | hstores | hstores
    · exact .inl ((classHints_names hhints).mp (List.mem_map.mpr ⟨(name, t), hentry, rfl⟩))
    · exact .inr hstores
    · exact .inl (annotates_of_storesArgument h hstores)

/-- A field of an ancestor whose name the heir makes neither a property nor a class variable is a
field of the heir if it is annotated in the lineage of the heir or stored by its initializer, and
only then.  So it is kept if the ancestor annotates it, or if both have one initializer. -/
theorem reports_of_ancestor (h : classes.Declared) (hd : classes.Describable d)
    (hmodel : classes.isModel d = false) (hb : b ∈ classes.lineageOf d)
    (hname : classes.Reports b name) (hfree : ¬ classes.Reassigns d name) :
    (classes.Reports d name ↔ classes.Annotates d name ∨ classes.Stores d name) ∧
    (classes.Annotates b name → classes.Reports d name) ∧
    (classes.initSource d = classes.initSource b → classes.Reports d name) := by
  obtain ⟨hpublic, horigin⟩ := origin_of_reports h (isModel_of_ancestor h hb hmodel) hname
  have hreports := reports_iff_of_not_reassigns h hd hmodel hpublic hfree
  have hkept : classes.Annotates b name → classes.Reports d name := fun hannotates =>
    hreports.mpr (.inl (annotates_of_ancestor h hb hannotates))
  refine ⟨hreports, hkept, fun hsource => ?_⟩
  rcases horigin with hannotates | hstores
  · exact hkept hannotates
  · exact hreports.mpr (.inr (stores_of_ancestor h hb hsource hstores))

/-- A class of people with an initializer that takes a name, or with none. -/
def peopleDecl (name : String) (bases : List ClassRef)
    (init : Option (Option (List String) × List (String × String))) : ClassDecl :=
  ⟨name, .plain, bases, none, [], init.map fun (forwards, stores) =>
    ⟨[⟨"name", some (.builtin .str), none, .ordinary⟩], forwards, stores, [], []⟩⟩

/-- Persons store their name; residents are persons as they are; guests hand the name on from an
initializer of their own. -/
def household : Classes :=
  let person : List ClassRef := [.declared "Person", .builtin .object]
  [⟨peopleDecl "Person" [] (some (none, [("name", "name")])), person⟩,
    ⟨peopleDecl "Resident" [.declared "Person"] none, .declared "Resident" :: person⟩,
    ⟨peopleDecl "Guest" [.declared "Person"] (some (some ["name"], [])),
      .declared "Guest" :: person⟩]

theorem declared_household : household.Declared := by
  have hperson : Declared (household.take 1) :=
    .declare (peopleDecl "Person" [] (some (none, [("name", "name")]))) .nil rfl
      (by simp [ClassDecl.effectiveBases, peopleDecl, Knows]) rfl
  have hresident : Declared (household.take 2) :=
    .declare (peopleDecl "Resident" [.declared "Person"] none) hperson rfl
      (by simp [ClassDecl.effectiveBases, peopleDecl, Knows]; rfl) rfl
  exact .declare (peopleDecl "Guest" [.declared "Person"] (some (some ["name"], []))) hresident rfl
    (by simp [ClassDecl.effectiveBases, peopleDecl, Knows]; rfl) rfl

theorem reports_of_names {names : List String}
    (h : (classes.fields c).toOption.map (·.map (·.name)) = some names) :
    classes.Reports c name ↔ name ∈ names := by
  obtain ⟨members, hmembers, rfl⟩ := Option.map_eq_some_iff.mp h
  exact reports_iff (toOption_eq_some.mp hmembers)

theorem person_reports_name : household.Reports (.declared "Person") "name" := by
  have hnames : (household.fields (.declared "Person")).toOption.map (·.map (·.name)) =
      some ["name"] := by decide +kernel
  exact (reports_of_names hnames).mpr List.mem_cons_self

theorem not_reassigns_household {heir : String} (h : heir = "Resident" ∨ heir = "Guest") :
    ¬ household.Reassigns (.declared heir) "name" := by
  have hclear : household.publicProperties (.declared heir) = [] ∧
      household.classHints (.declared heir) = .ok [] := by
    rcases h with rfl | rfl <;> exact ⟨rfl, rfl⟩
  rintro (hproperty | ⟨hints, t, hhints, hentry, -⟩)
  · rw [hclear.1] at hproperty
    cases hproperty
  · rw [hclear.2] at hhints
    cases hhints
    cases hentry

theorem reports_of_ancestor_resident :
    household.Declared ∧ household.Describable (.declared "Resident") ∧
    household.isModel (.declared "Resident") = false ∧
    .declared "Person" ∈ household.lineageOf (.declared "Resident") ∧
    household.Reports (.declared "Person") "name" ∧
    ¬ household.Reassigns (.declared "Resident") "name" ∧
    household.Reports (.declared "Resident") "name" := by
  have hd : household.Describable (.declared "Resident") := by decide +kernel
  have hmodel : household.isModel (.declared "Resident") = false := by decide +kernel
  have hb : .declared "Person" ∈ household.lineageOf (.declared "Resident") := by decide +kernel
  have hfree := not_reassigns_household (.inl (Eq.refl "Resident"))
  have hheir := reports_of_ancestor declared_household hd hmodel hb person_reports_name hfree
  exact ⟨declared_household, hd, hmodel, hb, person_reports_name, hfree, hheir.2.2 rfl⟩

/-- A guest is created with its name, which persons have as a field, but guests do not. -/
theorem guest_loses_name :
    household.Declared ∧ household.Describable (.declared "Guest") ∧
    household.isModel (.declared "Guest") = false ∧
    .declared "Person" ∈ household.lineageOf (.declared "Guest") ∧
    household.Reports (.declared "Person") "name" ∧
    ¬ household.Reassigns (.declared "Guest") "name" ∧
    (∃ w p, World.create ⟨household, .empty, [], .empty⟩ (.declared "Guest")
        [("name", .atom (.str "Ann"))] = .ok (w, .ref p) ∧
      w.store.get? p = some (.object "Guest" none [("name", .atom (.str "Ann"))])) ∧
    ¬ household.Reports (.declared "Guest") "name" := by
  refine ⟨declared_household, by decide +kernel, by decide +kernel, by decide +kernel,
    person_reports_name, not_reassigns_household (.inr rfl), ⟨_, 0, rfl, rfl⟩, ?_⟩
  have hnames : (household.fields (.declared "Guest")).toOption.map (·.map (·.name)) = some [] := by
    decide +kernel
  rw [reports_of_names hnames]
  exact List.not_mem_nil

end Memberwise.Classes
