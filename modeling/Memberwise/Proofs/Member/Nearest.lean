import Mathlib.Data.List.Induction
import Memberwise.Proofs.Member.Inheritance

/-! # What the nearest class says

Properties are gathered from the most distant ancestor to the class itself, each class adding to
what is known, replacing it or taking it away.  What is left under a name in the end is what the
nearest class that binds the name says of it.  In the same way the hint of a name is that of the
nearest class that annotates it.
-/

namespace Memberwise

section Lookup

variable {α β : Type} [BEq β] [LawfulBEq β]

theorem lookup_filter_self (l : List (β × α)) (k : β) : (l.filter (·.1 != k)).lookup k = none := by
  rw [lookup_eq_none]
  intro hmem
  obtain ⟨entry, hentry, rfl⟩ := List.mem_map.mp hmem
  have hne := (List.mem_filter.mp hentry).2
  simp at hne

/-- Where keys are distinct, it does not matter from which end they are looked up. -/
theorem lookup_reverse_of_nodup {l : List (β × α)} (h : (l.map Prod.fst).Nodup) (k : β) :
    l.reverse.lookup k = l.lookup k := by
  have hreverse : (l.reverse.map Prod.fst).Nodup := by
    rw [List.map_reverse]
    exact List.nodup_reverse.mpr h
  cases hk : l.lookup k with
  | none =>
      rw [lookup_eq_none, List.map_reverse, List.mem_reverse]
      exact lookup_eq_none.mp hk
  | some a =>
      exact lookup_of_nodup hreverse (List.mem_reverse.mpr (mem_of_lookup hk))

omit [LawfulBEq β] in
/-- A look-up in lists put together in reverse order finds what the last of them has at last. -/
theorem lookup_reverse_flatMap {γ : Type} (f : γ → List (β × α)) (l : List γ) (k : β) :
    (l.reverse.flatMap f).reverse.lookup k = l.findSome? fun x => (f x).reverse.lookup k := by
  induction l with
  | nil => rfl
  | cons x rest ih =>
      rw [List.reverse_cons, List.flatMap_append, List.reverse_append, List.lookup_append, ih,
        List.findSome?_cons, List.flatMap_singleton]
      cases (f x).reverse.lookup k <;> rfl

end Lookup

theorem findSome?_filter {α β : Type} {f : α → Option β} {p : α → Bool} {l : List α}
    (h : ∀ a ∈ l, p a = false → f a = none) : (l.filter p).findSome? f = l.findSome? f := by
  induction l with
  | nil => rfl
  | cons a rest ih =>
      rw [List.forall_mem_cons] at h
      cases hp : p a with
      | true => rw [List.filter_cons_of_pos hp, List.findSome?_cons, List.findSome?_cons, ih h.2]
      | false =>
          rw [List.filter_cons_of_neg (by simp [hp]), List.findSome?_cons, h.1 hp]
          exact ih h.2

namespace Classes

variable {classes : Classes} {c : ClassRef} {name : String}

/-! ## Properties -/

/-- The classes of a lineage that members come from: neither the root of all classes nor, for a
model, the root of models. -/
def memberClasses (classes : Classes) (c : ClassRef) : List ClassRef :=
  (classes.lineageOf c).filter fun parent =>
    parent != .builtin .object && !(classes.isModel c && parent == .builtin .baseModel)

/-- What a class itself binds a name to, if it does: the last of its entries for the name. -/
def boundBy? (classes : Classes) (name : String) (parent : ClassRef) : Option (Option Property) :=
  (classes.namespaceOf parent).reverse.lookup name

/-- What a binding makes of a name: a public name that is bound to a property is one. -/
def publicProperty (name : String) (property : Option Property) : Option Property :=
  if isHiddenName name then none else property

/-- One binding decides what there is under its name and leaves the other names alone. -/
theorem lookup_enterBinding (known : List (String × Property)) (entry : String)
    (property : Option Property) :
    (enterBindings known [(entry, property)]).lookup name =
      if name == entry then publicProperty name property else known.lookup name := by
  have hremoved : (known.filter (·.1 != entry)).lookup name =
      if name == entry then none else known.lookup name := by
    by_cases hname : name = entry
    · rw [hname, lookup_filter_self, if_pos (beq_self_eq_true entry)]
    · rw [lookup_filter_of_ne hname, if_neg (mt eq_of_beq hname)]
  cases property with
  | none => simpa [enterBindings, publicProperty] using hremoved
  | some p =>
      cases hhidden : isHiddenName entry with
      | true =>
          simp only [enterBindings, List.foldl_cons, List.foldl_nil, hhidden, if_true]
          rw [hremoved]
          by_cases hname : name = entry
          · rw [publicProperty, hname, hhidden]
            simp
          · rw [if_neg (mt eq_of_beq hname), if_neg (mt eq_of_beq hname)]
      | false =>
          simp only [enterBindings, List.foldl_cons, List.foldl_nil, hhidden, Bool.false_eq_true,
            if_false]
          rw [lookup_upsert]
          by_cases hname : name = entry
          · rw [publicProperty, hname, hhidden]
            simp
          · rw [if_neg (mt eq_of_beq hname), if_neg (mt eq_of_beq hname)]

/-- The bindings of one class leave, under a name, what the last of them for the name says. -/
theorem lookup_enterBindings (known : List (String × Property))
    (bindings : List (String × Option Property)) :
    (enterBindings known bindings).lookup name =
      match bindings.reverse.lookup name with
      | some property => publicProperty name property
      | none => known.lookup name := by
  induction bindings using List.reverseRecOn with
  | nil => rfl
  | append_singleton before entry ih =>
      obtain ⟨key, property⟩ := entry
      have hconcat : enterBindings known (before ++ [(key, property)]) =
          enterBindings (enterBindings known before) [(key, property)] := List.foldl_append
      rw [hconcat, lookup_enterBinding, ih, List.reverse_append, List.reverse_singleton,
        List.singleton_append, List.lookup_cons]
      cases name == key <;> rfl

/-- The classes of a lineage leave, under a name, what the nearest of them says that binds it. -/
theorem lookup_enterLineage (lineage : List ClassRef) :
    (lineage.reverse.foldl (fun known parent => enterBindings known (classes.namespaceOf parent))
        []).lookup name =
      (lineage.findSome? (classes.boundBy? name)).bind (publicProperty name) := by
  induction lineage with
  | nil => rfl
  | cons parent rest ih =>
      rw [List.reverse_cons, List.foldl_append, List.foldl_cons, List.foldl_nil,
        lookup_enterBindings, ih, List.findSome?_cons]
      unfold boundBy?
      cases (classes.namespaceOf parent).reverse.lookup name <;> rfl

/-- The roots of all classes and of models bind no names that could be those of members. -/
theorem findSome?_memberClasses :
    (classes.memberClasses c).findSome? (classes.boundBy? name) =
      (classes.lineageOf c).findSome? (classes.boundBy? name) := by
  refine findSome?_filter fun parent _ hroot => ?_
  have hroot : parent = .builtin .object ∨ parent = .builtin .baseModel := by
    simp only [Bool.and_eq_false_iff, bne_eq_false_iff_eq, Bool.not_eq_false',
      Bool.and_eq_true, beq_iff_eq] at hroot
    exact hroot.imp_right And.right
  rcases hroot with rfl | rfl <;> rfl

theorem mem_publicProperties {p : Property} :
    (name, p) ∈ classes.publicProperties c ↔
      isHiddenName name = false ∧
        (classes.memberClasses c).findSome? (classes.boundBy? name) = some (some p) := by
  have hlookup : (classes.publicProperties c).lookup name =
      ((classes.memberClasses c).findSome? (classes.boundBy? name)).bind (publicProperty name) := by
    rw [findSome?_memberClasses]
    exact lookup_enterLineage _
  have hmem : (name, p) ∈ classes.publicProperties c ↔
      (classes.publicProperties c).lookup name = some p :=
    ⟨lookup_of_nodup (classes.nodup_publicProperties c), mem_of_lookup⟩
  rw [hmem, hlookup, Option.bind_eq_some_iff]
  unfold publicProperty
  constructor
  · rintro ⟨property, hbound, hp⟩
    cases hhidden : isHiddenName name with
    | true => simp [hhidden] at hp
    | false =>
        rw [hhidden, if_neg Bool.false_ne_true] at hp
        rw [hbound, hp]
        exact ⟨rfl, rfl⟩
  · rintro ⟨hpublic, hbound⟩
    exact ⟨some p, hbound, by simp [hpublic]⟩

/-! ## Hints -/

/-- What the nearest class of a lineage that annotates a name annotates it with. -/
def nearestAnnotation? (classes : Classes) (c : ClassRef) (name : String) : Option TypeExpr :=
  (classes.declsOf c).findSome? fun decl => decl.annotations.lookup name

theorem nodup_annotations (decl : ClassDecl) : (decl.annotations.map Prod.fst).Nodup := by
  rw [annotations_eq_foldl_putHint]
  exact foldl_invariant (fun known : List (String × TypeExpr) => (known.map Prod.fst).Nodup)
    (fun known f h => nodup_upsert Prod.fst (f.name, f.type) h) _ List.nodup_nil

theorem hintOf_eq_ok {owner : String} {t u : TypeExpr} :
    classes.hintOf owner t = .ok u ↔ t.resolve classes = .ok u := by
  unfold hintOf
  split <;> simp_all

/-- The hint of a name is what the last annotation of the name resolves to. -/
theorem lookup_foldlM_hints {owner : String} {annotations hints : List (String × TypeExpr)}
    (h : annotations.foldlM (fun known (entry, t) => do
      .ok (putHint known entry (← classes.hintOf owner t))) [] = .ok hints) :
    Option.Rel (fun t u => t.resolve classes = .ok u) (annotations.reverse.lookup name)
      (hints.lookup name) := by
  induction annotations using List.reverseRecOn generalizing hints with
  | nil =>
      cases h
      exact .none
  | append_singleton before entry ih =>
      obtain ⟨key, t⟩ := entry
      rw [List.foldlM_append] at h
      obtain ⟨known, hknown, h⟩ := bind_eq_ok.mp h
      rw [List.foldlM_cons] at h
      obtain ⟨after, hafter, h⟩ := bind_eq_ok.mp h
      obtain ⟨u, hu, hafter⟩ := bind_eq_ok.mp hafter
      cases hafter
      cases h
      have hput : (putHint known key u).lookup name =
          if name == key then some u else known.lookup name := lookup_upsert known key u name
      rw [hput, List.reverse_append, List.reverse_singleton, List.singleton_append,
        List.lookup_cons]
      cases name == key with
      | true => exact .some (hintOf_eq_ok.mp hu)
      | false => exact ih hknown

/-- The hint of a name is what the annotation of the nearest class that has one resolves to. -/
theorem lookup_classHints {hints : List (String × TypeExpr)} (h : classes.classHints c = .ok hints)
    (name : String) :
    Option.Rel (fun t u => t.resolve classes = .ok u) (classes.nearestAnnotation? c name)
      (hints.lookup name) := by
  have hnearest : ((classes.declsOf c).reverse.flatMap ClassDecl.annotations).reverse.lookup name =
      classes.nearestAnnotation? c name := by
    rw [lookup_reverse_flatMap]
    unfold nearestAnnotation?
    congr 1
    funext decl
    exact lookup_reverse_of_nodup (nodup_annotations decl) name
  rw [← hnearest]
  exact lookup_foldlM_hints h

/-! ## Members -/

/-- Whether a name is annotated and no class variable, its nearest annotation resolving to a
type. -/
def AnnotatedAs (classes : Classes) (c : ClassRef) (name : String) (u : TypeExpr) : Prop :=
  ∃ t, classes.nearestAnnotation? c name = some t ∧ t.resolve classes = .ok u ∧
    ¬ MarksClassVariable u

theorem mem_classHints_iff {hints : List (String × TypeExpr)} (h : classes.classHints c = .ok hints)
    {u : TypeExpr} :
    (name, u) ∈ hints ↔ ∃ t, classes.nearestAnnotation? c name = some t ∧ t.resolve classes = .ok u := by
  have hmem : (name, u) ∈ hints ↔ hints.lookup name = some u :=
    ⟨lookup_of_nodup (classes.nodup_classHints c h), mem_of_lookup⟩
  have hhint := lookup_classHints h name
  rw [hmem]
  revert hhint
  generalize classes.nearestAnnotation? c name = nearest
  generalize hints.lookup name = hint
  intro hhint
  cases hhint with
  | none => simp
  | @some t v htv =>
      constructor
      · intro hv
        cases hv
        exact ⟨t, rfl, htv⟩
      · rintro ⟨_, ht, hu⟩
        cases ht
        rw [htv] at hu
        cases hu
        rfl

/-- Entering what is not there yet leads to what was there, and to what is new. -/
theorem mem_foldl_append {entries known : List (String × TypeExpr)} {entry : String × TypeExpr}
    (h : entry ∈ entries.foldl (fun known (name, t) =>
      if known.any (·.1 == name) then known else known ++ [(name, t)]) known) :
    entry ∈ known ∨ entry ∈ entries ∧ entry.1 ∉ known.map (·.1) := by
  induction entries generalizing known with
  | nil => exact .inl h
  | cons first rest ih =>
      rw [List.foldl_cons] at h
      rcases ih h with hknown | ⟨hrest, hnew⟩
      · dsimp only at hknown
        split at hknown
        · exact .inl hknown
        · rename_i hfresh
          rcases List.mem_append.mp hknown with hknown | hfirst
          · exact .inl hknown
          · rw [List.mem_singleton.mp hfirst]
            refine .inr ⟨List.mem_cons_self, fun hmem => hfresh ?_⟩
            obtain ⟨old, hold, hname⟩ := List.mem_map.mp hmem
            exact List.any_eq_true.mpr ⟨old, hold, beq_iff_eq.mpr hname⟩
      · refine .inr ⟨List.mem_cons_of_mem _ hrest, fun hmem => hnew ?_⟩
        dsimp only
        split
        · exact hmem
        · rw [List.map_append]
          exact List.mem_append_left _ hmem

/-- A field of a class that is no model has the type that the nearest annotation of its name
resolves to, or it has none that would make it a field and comes from the initializer. -/
theorem origin_of_mem_fields (hmodel : classes.isModel c = false) {members : List Member}
    (h : classes.fields c = .ok members) {m : Member} (hm : m ∈ members) :
    ∃ t, m = Member.describe classes m.name t true (!classes.isFrozenRecord c) ∧
      (classes.AnnotatedAs c m.name t ∨
        (∀ u, ¬ classes.AnnotatedAs c m.name u) ∧
          ∃ parameters, classes.storedParameters c = .ok parameters ∧ (m.name, t) ∈ parameters) := by
  obtain ⟨annotations, hannotations, hmembers⟩ := mem_fields_iff hmodel h
  obtain ⟨name, t, hentry, -, rfl⟩ := (hmembers m).mp hm
  refine ⟨t, rfl, ?_⟩
  unfold fieldAnnotations at hannotations
  obtain ⟨hints, hhints, hannotations⟩ := bind_eq_ok.mp hannotations
  obtain ⟨parameters, hparameters, hannotations⟩ := bind_eq_ok.mp hannotations
  cases hannotations
  rcases mem_foldl_append hentry with hannotated | ⟨hparameter, hother⟩
  · obtain ⟨hhint, hkept⟩ := List.mem_filter.mp hannotated
    obtain ⟨stated, hstated, ht⟩ := (mem_classHints_iff hhints).mp hhint
    exact .inl ⟨stated, hstated, ht, keeps_iff.mp hkept⟩
  · refine .inr ⟨?_, parameters, hparameters, hparameter⟩
    rintro u ⟨stated, hstated, hu, hkept⟩
    have hhint : (name, u) ∈ hints := (mem_classHints_iff hhints).mpr ⟨stated, hstated, hu⟩
    exact hother
      (List.mem_map.mpr ⟨(name, u), List.mem_filter.mpr ⟨hhint, keeps_iff.mpr hkept⟩, rfl⟩)

/-- A public name is a property if the nearest class that binds it binds it to one, and only then.
All members together have public names of their own.  The type of a field of a class that is no
model is that of the nearest annotation of its name, unless it comes from the initializer. -/
theorem members_of_nearest (classes : Classes) (c : ClassRef) :
    (∀ name p, (name, p) ∈ classes.publicProperties c ↔
      isHiddenName name = false ∧
        (classes.memberClasses c).findSome? (classes.boundBy? name) = some (some p)) ∧
    (∀ properties fields, classes.properties c = .ok properties → classes.fields c = .ok fields →
      properties.map (·.name) = (classes.publicProperties c).map (·.1) ∧
      ((properties ++ fields).map (·.name)).Nodup ∧
      ∀ m ∈ properties ++ fields, isHiddenName m.name = false) ∧
    (classes.isModel c = false → ∀ fields, classes.fields c = .ok fields → ∀ m ∈ fields,
      ∃ t, m = Member.describe classes m.name t true (!classes.isFrozenRecord c) ∧
        (classes.AnnotatedAs c m.name t ∨
          (∀ u, ¬ classes.AnnotatedAs c m.name u) ∧
            ∃ parameters, classes.storedParameters c = .ok parameters ∧
              (m.name, t) ∈ parameters)) := by
  refine ⟨fun name p => mem_publicProperties, ?_, fun hmodel fields hfields m hm =>
    origin_of_mem_fields hmodel hfields hm⟩
  intro properties fields hproperties hfields
  refine ⟨classes.properties_names c hproperties, ?_, ?_⟩
  · rw [List.map_append]
    exact List.Nodup.append (classes.nodup_properties c hproperties) (classes.nodup_fields c hfields)
      (classes.properties_disjoint_fields c hproperties hfields)
  · intro m hm
    rcases List.mem_append.mp hm with hproperty | hfield
    · have hname : m.name ∈ (classes.publicProperties c).map (·.1) := by
        rw [← classes.properties_names c hproperties]
        exact List.mem_map_of_mem hproperty
      obtain ⟨⟨name, p⟩, hentry, hname⟩ := List.mem_map.mp hname
      rw [← hname]
      exact (mem_publicProperties.mp hentry).1
    · have hname := classes.isFieldName_of_mem_fields c hfields hfield
      simp only [isFieldName, Bool.and_eq_true, Bool.not_eq_true'] at hname
      exact hname.1

/-- A class that annotates a size and binds a label to something. -/
def sampleDecl (name : String) (bases : List ClassRef) (size : Option TypeExpr) (label : Entry) :
    ClassDecl :=
  ⟨name, .plain, bases, none,
    (size.toList.map fun t => .field ⟨"size", t, .missing, false, none, true, none⟩) ++ [label],
    none⟩

/-- Tiles have a label that is a property, glazed ones one that is a text, and printed ones a
property again with a size of another type.  A sample is printed first and then glazed. -/
def samples : Classes :=
  let tile : List ClassRef := [.declared "Tile", .builtin .object]
  let label : Entry := .property "label"
    (some ⟨some (.builtin .str), .constant (.atom (.str "A")), true⟩) none
  [⟨sampleDecl "Tile" [] (some (.builtin .int)) label, tile⟩,
    ⟨sampleDecl "Glazed" [.declared "Tile"] none (.attribute "label" (.atom (.str "B"))),
      .declared "Glazed" :: tile⟩,
    ⟨sampleDecl "Printed" [.declared "Tile"] (some (.forward "float")) label,
      .declared "Printed" :: tile⟩,
    ⟨sampleDecl "Sample" [.declared "Printed", .declared "Glazed"] none (.method "print"),
      [.declared "Sample", .declared "Printed", .declared "Glazed"] ++ tile⟩]

theorem members_of_nearest_sample : ∃ properties fields,
    samples.properties (.declared "Sample") = .ok properties ∧
    samples.fields (.declared "Sample") = .ok fields ∧
    samples.isModel (.declared "Sample") = false ∧
    properties.map (·.name) = ["label"] ∧
    ((properties ++ fields).map (·.name)).Nodup ∧
    ∀ m ∈ fields, ∃ t, m = Member.describe samples m.name t true true ∧
      (samples.AnnotatedAs (.declared "Sample") m.name t ∨
        (∀ u, ¬ samples.AnnotatedAs (.declared "Sample") m.name u) ∧
          ∃ parameters, samples.storedParameters (.declared "Sample") = .ok parameters ∧
            (m.name, t) ∈ parameters) := by
  have hdescribable : samples.Describable (.declared "Sample") := by decide +kernel
  have hmodel : samples.isModel (.declared "Sample") = false := by decide +kernel
  obtain ⟨properties, hproperties⟩ := properties_isOk hdescribable
  obtain ⟨fields, hfields⟩ := fields_isOk hdescribable
  obtain ⟨hnames, hnodup, -⟩ :=
    (members_of_nearest samples (.declared "Sample")).2.1 properties fields hproperties hfields
  have horigin := (members_of_nearest samples (.declared "Sample")).2.2 hmodel fields hfields
  have hlabel : (samples.publicProperties (.declared "Sample")).map (·.1) = ["label"] := by
    decide +kernel
  exact ⟨properties, fields, hproperties, hfields, hmodel, hnames.trans hlabel, hnodup, horigin⟩

/-- A sample has the size that printed tiles have, and glazed tiles have no property. -/
example : (samples.fields (.declared "Sample")).toOption.map
      (·.map fun m => (m.name, m.declared.same (.builtin .float))) = some [("size", true)] ∧
    (samples.publicProperties (.declared "Glazed")).map (·.1) = [] := by
  decide +kernel

end Classes

end Memberwise
