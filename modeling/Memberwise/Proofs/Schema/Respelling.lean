import Mathlib.Logic.Relation
import Memberwise.Proofs.Class.Respelling
import Memberwise.Proofs.Conversion.Renaming
import Memberwise.Proofs.Schema.Same

/-! # Schemas of classes whose annotations are respelled

An option may be absent, which a schema tells apart from the kind itself.  Both refer to the same
classes, though, so the same types are described however fields are spelled, and what is read by a
schema is the same as far as the fields of the classes behind it have the same schemas.
-/

namespace Memberwise

open TypeExpr (SameKind Spells)

namespace Schema

variable {classes classes' : Classes} {t t' u x x' : TypeExpr}

/-! ## Names that are missing -/

/-- The name that a text is, if it is one. -/
def name? : Source → Option String
  | .named name => some name
  | _ => none

theorem parse?_of_name? {text name : String}
    (h : (Source.parse? text).bind name? = some name) :
    Source.parse? text = some (.named name) := by
  obtain ⟨source, hsource, hname⟩ := Option.bind_eq_some_iff.mp h
  cases source with
  | named other =>
      cases hname
      exact hsource
  | _ => cases hname

/-- A name that is known everywhere is a text by itself, and the class that it stands for may stand
where a type may. -/
theorem typeOfText_of_ofGlobalName? (classes : Classes) {name : String} {b : Builtin}
    (h : Builtin.ofGlobalName? name = some b) : ∃ t, classes.typeOfText name = .ok t := by
  have hnames : ∀ b ∈ Builtin.all, b.module = "builtins" → b.name ≠ "NoneType" →
      (Source.parse? b.name).bind name? = some b.name ∧ b ≠ .generic ∧
        Source.truthOf? b.name = none := by
    decide +kernel
  have hglobal := h
  obtain ⟨hfound, hknown⟩ := Option.filter_eq_some_iff.mp h
  obtain ⟨hmodule, hname⟩ := Bool.and_eq_true_iff.mp hknown
  unfold Builtin.ofName? at hfound
  split at hfound
  · rename_i hnone
    have hnamed : (Source.parse? "None").bind name? = some "None" := by decide +kernel
    refine ⟨.noneType, ?_⟩
    rw [hnone, Classes.typeOfText, parse?_of_name? hnamed]
    rfl
  · obtain rfl : b.name = name := by
      have hsame := List.find?_some hfound
      simp only [Bool.and_eq_true, beq_iff_eq] at hsame
      exact hsame.2
    obtain ⟨hparsed, hbase, hplain⟩ := hnames b b.mem_all (by simpa using hmodule)
      (by simpa using hname)
    rw [Classes.typeOfText, parse?_of_name? hparsed]
    have htype : ∃ c, c ≠ .builtin .generic ∧ classes.typeOfName b.name = .ok (.cls c) := by
      unfold Classes.typeOfName
      split
      · exact ⟨.declared b.name, by rintro ⟨⟩, rfl⟩
      · rw [hglobal]
        exact ⟨.builtin b, fun hc => hbase (ClassRef.builtin.inj hc), rfl⟩
    obtain ⟨c, hc, htype⟩ := htype
    refine ⟨.cls c, ?_⟩
    have hannotatable : (TypeExpr.cls c).isAnnotatable = true := by
      unfold TypeExpr.isAnnotatable
      split <;> simp_all
    have heval : (Source.named b.name).eval classes = .ok (.cls c) := by
      simp only [Source.eval, hplain, htype]
    dsimp only
    rw [heval]
    exact if_pos hannotatable

theorem ofName?_of_missing {name : String} {fault : TextFault}
    (h : classes.typeOfText name = .error fault) : ofName? name = none := by
  unfold ofName?
  cases hname : Builtin.ofGlobalName? name with
  | none => rfl
  | some b =>
      obtain ⟨t, ht⟩ := typeOfText_of_ofGlobalName? classes hname
      rw [h] at ht
      cases ht

theorem exists_of_resolveInners_eq_error {types : List TypeExpr} {fault : TextFault}
    (h : TypeExpr.resolveInners classes types = .error fault) :
    ∃ t ∈ types, t.resolveInner classes = .error fault := by
  induction types with
  | nil => cases h
  | cons t rest ih =>
      rw [TypeExpr.resolveInners] at h
      rcases bind_eq_error.mp h with hfirst | ⟨resolved, -, h⟩
      · exact ⟨t, List.mem_cons_self, hfirst⟩
      · rcases bind_eq_error.mp h with hrest | ⟨others, -, h⟩
        · obtain ⟨u, hu, herror⟩ := ih hrest
          exact ⟨u, List.mem_cons_of_mem t hu, herror⟩
        · cases h

theorem ofTypes?_eq_none {types : List TypeExpr} (ht : t ∈ types)
    (h : ofType? classes t = none) : ofTypes? classes types = none := by
  induction types with
  | nil => cases ht
  | cons first rest ih =>
      unfold ofTypes?
      rcases List.mem_cons.mp ht with rfl | hrest
      · rw [h]
        rfl
      · rw [ih hrest]
        cases ofType? classes first <;> rfl

/-- A generic type is described by all its arguments.  The dots of a tuple are not one. -/
theorem ofType?_builtin_eq_none {b : Builtin} {args : List TypeExpr} (ht : t ∈ args)
    (hdots : t ≠ .ellipsis) (h : ofType? classes t = none) :
    ofType? classes (.applied (.builtin b) args) = none := by
  have hargs := ofTypes?_eq_none ht h
  by_cases hb : b = .tuple
  · subst hb
    unfold ofType?
    -- A tuple of one type and dots is described by the type alone, which is then the one meant.
    split
    · rename_i first
      have hfirst : t = first := by simpa [hdots] using ht
      rw [← hfirst, h]
      rfl
    · rw [hargs]
      rfl
  · rw [ofType?_builtin hb, hargs]
    rfl

/-- Among the arguments of a class a bare text is a name, and may be the one that is missing. -/
theorem exists_of_resolveArgs_eq_error {args : List TypeExpr} {fault : TextFault}
    (ih : ∀ t ∈ args, ∀ fault, t.resolveInner classes = .error fault → ofType? classes t = none)
    (h : TypeExpr.resolveArgs classes args = .error fault) :
    ∃ t ∈ args, t ≠ .ellipsis ∧ ofType? classes t = none := by
  induction args with
  | nil => cases h
  | cons t rest further =>
      rw [List.forall_mem_cons] at ih
      have hrest : TypeExpr.resolveArgs classes rest = .error fault →
          ∃ u ∈ t :: rest, u ≠ .ellipsis ∧ ofType? classes u = none := by
        intro herror
        obtain ⟨u, hu, hnone⟩ := further ih.2 herror
        exact ⟨u, List.mem_cons_of_mem t hu, hnone⟩
      unfold TypeExpr.resolveArgs at h
      split at h
      · rename_i hnil
        cases hnil
      · rename_i name others heq
        cases heq
        rcases bind_eq_error.mp h with hname | ⟨resolved, -, h⟩
        · exact ⟨_, List.mem_cons_self, nofun, ofName?_of_missing hname⟩
        · rcases bind_eq_error.mp h with herror | ⟨others, -, h⟩
          · exact hrest herror
          · cases h
      · rename_i heq
        cases heq
        rcases bind_eq_error.mp h with hfirst | ⟨resolved, -, h⟩
        · refine ⟨t, List.mem_cons_self, ?_, ih.1 _ hfirst⟩
          rintro rfl
          cases hfirst
        · rcases bind_eq_error.mp h with herror | ⟨others, -, h⟩
          · exact hrest herror
          · cases h

/-- A type that names what there is not has no schema. -/
theorem ofType?_of_missing {fault : TextFault} (h : t.resolveInner classes = .error fault) :
    ofType? classes t = none := by
  induction t using TypeExpr.parts generalizing fault with
  | cls | special | generic | literal | initOnly | ellipsis | value => cases h
  | forward name => exact ofName?_of_missing h
  | applied head args ih =>
      cases head with
      | «alias» a =>
          rcases bind_eq_error.mp h with h | ⟨others, -, h⟩
          · obtain ⟨t, ht, hmissing⟩ := exists_of_resolveInners_eq_error h
            have hdots : t ≠ .ellipsis := by
              rintro rfl
              cases hmissing
            rw [ofType?_alias]
            exact ofType?_builtin_eq_none ht hdots (ih t ht hmissing)
          · cases h
      | builtin b =>
          rcases bind_eq_error.mp h with h | ⟨others, -, h⟩
          · obtain ⟨t, ht, hdots, hnone⟩ := exists_of_resolveArgs_eq_error
              (fun t ht fault => ih t ht) h
            exact ofType?_builtin_eq_none ht hdots hnone
          · cases h
      | declared name => rfl
      | form f => rfl
  | union style members ih =>
      rcases bind_eq_error.mp h with h | ⟨others, -, h⟩
      · obtain ⟨t, ht, hmissing⟩ := exists_of_resolveInners_eq_error h
        have hnone : ofMembers? classes members = none := by
          rw [← Option.not_isSome_iff_eq_none, isSome_ofMembers?]
          intro hall
          have hplain : t.isNoneType = false := by
            rw [← Bool.not_eq_true]
            intro hnone
            rw [TypeExpr.eq_noneType_of_isNoneType hnone] at hmissing
            cases hmissing
          have hsome := hall t ht hplain
          rw [ih t ht hmissing] at hsome
          cases hsome
        unfold ofType?
        rw [hnone]
        rfl
      · cases h
  | annotated t ih =>
      rcases bind_eq_error.mp h with h | ⟨others, -, h⟩
      · exact ih h
      · cases h

/-! ## Fields in two spellings -/

/-- The type that a field is described by: the annotation, or what an init-only one says. -/
def described (classes : Classes) (t : TypeExpr) : TypeExpr :=
  match t.resolveField classes with
  | .initOnly _ inner => inner
  | type => type

theorem ofType?_described_of_missing {fault : TextFault}
    (h : t.resolveTop classes = .error fault) : ofType? classes (described classes t) = none := by
  unfold described
  by_cases htext : ∃ name, t = .value (.atom (.str name))
  · obtain ⟨name, rfl⟩ := htext
    unfold TypeExpr.resolveField
    rw [h]
    exact ofName?_of_missing h
  · have hfield : t.resolveField classes = t := by
      unfold TypeExpr.resolveField
      rw [h]
      split
      · rename_i heq
        cases heq
      · exact absurd ⟨_, rfl⟩ htext
      · rfl
    have hinner : t.resolveInner classes = .error fault := by
      unfold TypeExpr.resolveTop at h
      split at h
      · exact absurd ⟨_, rfl⟩ htext
      · cases h
      · exact h
    have hnone := ofType?_of_missing hinner
    rw [hfield]
    cases t with
    | initOnly => cases hinner
    | _ => exact hnone

theorem ofType?_withoutTopNotes (t : TypeExpr) :
    ofType? classes t.withoutTopNotes = ofType? classes t := by
  induction t using TypeExpr.parts with
  | annotated t ih => exact ih
  | _ => rfl

/-- A type that is no init-only one without its notes is none before. -/
theorem ofType?_described_of_resolveTop (h : t.resolveTop classes = .ok x)
    (hx : x.stripNotes.outline = .any) :
    ofType? classes (described classes t) = ofType? classes x := by
  have hfield : t.resolveField classes = x.withoutTopNotes := by
    unfold TypeExpr.resolveField
    rw [h]
  have hplain : ∀ mark inner, x.withoutTopNotes ≠ .initOnly mark inner := by
    clear h hfield
    intro mark inner
    induction x using TypeExpr.parts with
    | annotated x ih => exact ih hx
    | initOnly mark x => cases hx
    | _ => nofun
  unfold described
  rw [hfield]
  split
  · rename_i mark inner heq
    exact absurd heq (hplain mark inner)
  · exact ofType?_withoutTopNotes x

/-- An option refers to the classes that the kind refers to. -/
theorem references_of_spells (h : Spells classes u t) (hu : u.isUnion = false) :
    (ofType? classes t).map references = (ofType? classes u).map references := by
  rcases h.shape hu with ⟨rfl, -⟩ | ⟨hn, style, rfl⟩
  · rfl
  · have hmembers : ofType? classes (.union style [u, .noneType]) =
        (ofType? classes u).map .nullable := by
      have hoption : ofMembers? classes [u, .noneType] = (ofType? classes u).map ([·]) := by
        have hrest : ofMembers? classes [.noneType] = some [] := rfl
        rw [ofMembers?, hn, hrest]
        cases ofType? classes u <;> rfl
      have habsent : [u, TypeExpr.noneType].any TypeExpr.isNoneType = true := by
        rw [List.any_cons, hn]
        rfl
      show (ofMembers? classes [u, .noneType]).map (ofMembers _) = _
      rw [hoption, habsent, Option.map_map]
      rfl
    rw [hmembers, Option.map_map]
    rfl

/-- A field refers to the same classes in every spelling. -/
theorem references_respelled (h : t.Respelled classes t') :
    (ofType? classes (described classes t')).map references =
      (ofType? classes (described classes t)).map references := by
  cases h with
  | same => rfl
  | kind hint hint' noted alike =>
      obtain ⟨hx, hx'⟩ := alike.outline
      obtain ⟨u, hu, -, -, hspells, hspells'⟩ := noted
      rw [ofType?_described_of_resolveTop hint hx, ofType?_described_of_resolveTop hint' hx',
        references_of_spells hspells hu, references_of_spells hspells' hu]
  | unknown _ missing missing' =>
      rw [ofType?_described_of_missing missing, ofType?_described_of_missing missing']

theorem fieldReferences?_eq (classes : Classes) (name : String) :
    fieldReferences? classes name =
      (if classes.isModel (.declared name) then classes.modelFields (.declared name)
        else classes.recordArguments (.declared name)).foldlM
        (fun found f => ((ofType? classes (described classes f.type)).map references).map
          (found ++ ·)) [] := by
  simp only [Option.map_map]
  rfl

theorem described_congr (h : classes.Alike classes') (t : TypeExpr) :
    described classes' t = described classes t := by
  unfold described
  rw [TypeExpr.resolveField_congr h]

/-- The classes behind a class stay the same when annotations are respelled. -/
theorem fieldReferences?_respelled (h : classes.Respelled classes') (name : String) :
    fieldReferences? classes' name = fieldReferences? classes name := by
  have hfields : List.Forall₂ (Classes.Respelled.SameField classes)
      (if classes.isModel (.declared name) then classes.modelFields (.declared name)
        else classes.recordArguments (.declared name))
      (if classes'.isModel (.declared name) then classes'.modelFields (.declared name)
        else classes'.recordArguments (.declared name)) := by
    rw [h.alike.isModel]
    split
    · exact h.modelFields _
    · exact h.recordArguments _
  rw [fieldReferences?_eq, fieldReferences?_eq]
  simp only [described_congr h.alike, ofType?_congr h.alike]
  revert hfields
  generalize (if classes.isModel (.declared name) then classes.modelFields (.declared name)
    else classes.recordArguments (.declared name)) = fields
  generalize (if classes'.isModel (.declared name) then classes'.modelFields (.declared name)
    else classes'.recordArguments (.declared name)) = fields'
  intro hfields
  generalize ([] : List String) = found
  induction hfields generalizing found with
  | nil => rfl
  | cons hfirst _ ih =>
      simp only [List.foldlM_cons, references_respelled hfirst.2]
      exact bind_congr ih

/-! ## Classes behind a schema -/

/-- The classes that the fields of a class refer to. -/
def referred (classes : Classes) (name : String) : List String :=
  (classes.modelFields (.declared name) ++ classes.recordArguments (.declared name)).flatMap fun f =>
    ((ofType? classes (f.type.resolveField classes)).map references).getD []

theorem mem_referred {name other : String} {f : Field} {schema : Schema}
    (hf : f ∈ classes.modelFields (.declared name) ∨ f ∈ classes.recordArguments (.declared name))
    (hschema : ofType? classes (f.type.resolveField classes) = some schema)
    (hother : other ∈ references schema) : other ∈ referred classes name := by
  refine List.mem_flatMap.mpr ⟨f, List.mem_append.mpr hf, ?_⟩
  rw [hschema]
  exact hother

/-- Whether the fields of a class have the same schemas in two spellings. -/
structure SameFields (classes classes' : Classes) (name : String) : Prop where
  modelFields : List.Forall₂ (SameSchema classes) (classes.modelFields (.declared name))
    (classes'.modelFields (.declared name))
  recordArguments : List.Forall₂ (SameSchema classes) (classes.recordArguments (.declared name))
    (classes'.recordArguments (.declared name))

theorem forall₂_sameSchema {fields fields' : List Field}
    (houtlines : fields'.map Field.outline = fields.map Field.outline)
    (htypes : fields'.map Field.type = fields.map Field.type) :
    List.Forall₂ (SameSchema classes) fields fields' := by
  induction fields generalizing fields' with
  | nil =>
      cases fields' with
      | nil => exact .nil
      | cons => cases houtlines
  | cons f rest ih =>
      cases fields' with
      | nil => cases houtlines
      | cons f' rest' =>
          rw [List.map_cons, List.map_cons, List.cons.injEq] at houtlines htypes
          exact .cons ⟨houtlines.1, by rw [htypes.1]⟩ (ih houtlines.2 htypes.2)

/-- Fields whose types are spelled as before have the same schemas as before. -/
theorem sameFields_of_types (h : classes.Alike classes') {name : String}
    (hmodel : (classes'.modelFields (.declared name)).map Field.type =
      (classes.modelFields (.declared name)).map Field.type)
    (hrecord : (classes'.recordArguments (.declared name)).map Field.type =
      (classes.recordArguments (.declared name)).map Field.type) : SameFields classes classes' name :=
  ⟨forall₂_sameSchema (h.modelFields _) hmodel, forall₂_sameSchema (h.recordArguments _) hrecord⟩

/-- Whether the fields of a class and of all classes behind it have the same schemas in two
spellings. -/
def SameBehind (classes classes' : Classes) (name : String) : Prop :=
  ∀ other, Relation.ReflTransGen (fun name other => other ∈ referred classes name) name other →
    SameFields classes classes' other

theorem SameBehind.further {name other : String} (h : SameBehind classes classes' name)
    (hother : other ∈ referred classes name) : SameBehind classes classes' other :=
  fun _ hbehind => h _ (.head hother hbehind)

/-- The classes behind a class are among those that none leads out of. -/
theorem sameBehind_of_closed {names : List String}
    (hclosed : ∀ name ∈ names, ∀ other ∈ referred classes name, other ∈ names)
    (hsame : ∀ name ∈ names, SameFields classes classes' name) {name : String} (hname : name ∈ names) :
    SameBehind classes classes' name := by
  intro other hbehind
  have hother : other ∈ names := by
    induction hbehind with
    | refl => exact hname
    | tail _ hstep ih => exact hclosed _ ih _ hstep
  exact hsame other hother

/-- Classes whose annotations are respelled read alike, as far as the fields of the classes behind a
schema have the same schemas. -/
theorem readsAlike_of_respelled (h : classes.Respelled classes') :
    ReadsAlike (SameBehind classes classes') classes classes' where
  alike := h.alike
  fieldReferences := fieldReferences?_respelled h
  modelFields _ hname := (hname _ .refl).modelFields
  recordArguments _ hname := (hname _ .refl).recordArguments
  behindModel _ hname _ hf _ hschema _ hother :=
    hname.further (mem_referred (.inl hf) hschema hother)
  behindRecord _ hname _ hf _ hschema _ hother :=
    hname.further (mem_referred (.inr hf) hschema hother)

end Schema

/-- Whatever is known before, a type is read by a schema of its own or of a spelling that refers to
the same classes. -/
theorem Conversion.isSettled_of_describe? {classes : Classes} {settled : String → Prop}
    {target : TypeExpr} (h : ∀ schema, Schema.describe? classes target = some schema →
      ∀ name ∈ schema.references, settled name) (known : SchemaCache) :
    IsSettled settled classes known target := by
  intro schema hschema name hname
  have hsame : TypeExpr.Same (known.spelling target) target := by
    unfold SchemaCache.spelling
    cases hfound : known.types.find? (·.same target) with
    | none => exact TypeExpr.same_refl target
    | some u =>
        have hsame := List.find?_some hfound
        exact hsame
  have hdescribed : (Schema.describe? classes target).isSome := by
    rw [← Schema.isSome_describe?_of_same hsame]
    exact Option.isSome_iff_exists.mpr ⟨schema, hschema⟩
  obtain ⟨own, hown⟩ := Option.isSome_iff_exists.mp hdescribed
  -- The schemas may list the members of unions in another order, so they need not be the same.
  have halike : Schema.DescribedAlike classes (known.spelling target) target :=
    Schema.describedAlike_of_same hsame
  rw [Schema.DescribedAlike, Schema.ofType?_of_describe? hschema,
    Schema.ofType?_of_describe? hown] at halike
  cases halike with
  | some hreferences => exact h own hown name ((hreferences name).mp hname)

end Memberwise
