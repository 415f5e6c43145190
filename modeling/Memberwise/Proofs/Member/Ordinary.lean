import Memberwise.Proofs.Member.Names

/-! # Ordinary classes

Plain classes and record classes, all of whose ancestors are of these kinds.  A public name stands
for a property on such a class just if it is among the public properties of the class, so the name
of a field never does.
-/

namespace Memberwise

/-- Whether a kind of class is that of plain classes or of record classes. -/
def ClassKind.isOrdinary : ClassKind → Bool
  | .plain | .record _ => true
  | _ => false

namespace Classes

/-- Whether a class is a plain class or a record class, and no class that it descends from is of
another kind. -/
structure IsOrdinary (classes : Classes) (name : String) : Prop where
  own : (classes.kindOf? name).all ClassKind.isOrdinary = true
  inherited : (classes.declsOf (.declared name)).all (·.kind.isOrdinary) = true
  noModel : classes.isModel (.declared name) = false

/-- Whether a name stands for no property on a class. -/
def IsPlain (classes : Classes) (c : ClassRef) (name : String) : Prop :=
  (classes.binding? c name).any Binding.isProperty = false

instance {classes : Classes} {c : ClassRef} {name : String} :
    Decidable (classes.IsPlain c name) :=
  inferInstanceAs (Decidable (_ = _))

theorem IsPlain.not_property {classes : Classes} {c : ClassRef} {name : String}
    (h : classes.IsPlain c name) {binding : Binding}
    (hbinding : classes.binding? c name = some binding) : binding.isProperty = false := by
  unfold IsPlain at h
  rwa [hbinding] at h

end Classes

/-! ## What a class body binds -/

section Bindings

variable {decl : ClassDecl} {name : String} {binding : Binding}

/-- A class body binds no name twice. -/
theorem ClassDecl.nodup_bodyBindings (decl : ClassDecl) :
    (decl.bodyBindings.map Prod.fst).Nodup := by
  unfold bodyBindings
  dsimp only
  refine foldl_invariant (fun known : List (String × Binding) => (known.map Prod.fst).Nodup) ?_ _
    List.nodup_nil
  intro known entry h
  cases entry with
  | field f =>
      dsimp only
      split
      · split
        · exact h
        · exact nodup_upsert Prod.fst (f.name, Binding.constant _) h
      · exact h
  | «attribute» name v => exact nodup_upsert Prod.fst (name, Binding.constant v) h
  | method name => exact nodup_upsert Prod.fst (name, Binding.method) h
  | iteration source => exact nodup_upsert Prod.fst ("__iter__", Binding.iteration source) h
  | hidden => exact h
  | property name getter setter =>
      dsimp only
      refine nodup_upsert Prod.fst (name, Binding.property getter setter) ?_
      split <;> split
      · exact nodup_upsert Prod.fst ("_set_" ++ name, Binding.method)
          (nodup_upsert Prod.fst ("_get_" ++ name, Binding.method) h)
      · exact nodup_upsert Prod.fst ("_set_" ++ name, Binding.method) h
      · exact nodup_upsert Prod.fst ("_get_" ++ name, Binding.method) h
      · exact h
  | maker => exact nodup_upsert Prod.fst ("__new__", Binding.method) h

/-- A public name that an ordinary class binds to a property is bound by it to nothing else. -/
theorem ClassDecl.binding_unique (hkind : decl.kind.isOrdinary = true)
    (hpublic : isHiddenName name = false) (h : (name, binding) ∈ decl.bindings)
    (hproperty : binding.isProperty = true) {other : Binding}
    (hother : (name, other) ∈ decl.bindings) : other = binding := by
  have hbody : ∀ b, (name, b) ∈ decl.bodyBindings ++
      (if decl.init.isSome then [("__init__", .method)] else []) ++ decl.kindBindings →
      (name, b) ∈ decl.bodyBindings := by
    intro b hb
    have hkinds : decl.kindBindings = [] := by
      unfold kindBindings
      split
      · rename_i hbag
        rw [hbag] at hkind
        cases hkind
      · rfl
    rw [hkinds, List.append_nil] at hb
    rcases List.mem_append.mp hb with hb | hb
    · exact hb
    · split at hb
      · rw [List.mem_singleton] at hb
        cases hb
        exact absurd hpublic (by decide +kernel)
      · cases hb
  have hsame : (name, other) ∈ decl.bodyBindings → (name, binding) ∈ decl.bodyBindings →
      other = binding := fun h h' =>
    congrArg Prod.snd (List.inj_on_of_nodup_map decl.nodup_bodyBindings h h' rfl)
  unfold bindings at h hother
  dsimp only at h hother
  cases hslots : decl.slotNames with
  | none =>
      rw [hslots] at h hother
      exact hsame (hbody other hother) (hbody binding h)
  | some names =>
      rw [hslots] at h hother
      dsimp only at h hother
      -- A property is no slot, and the body of a class binds no name that it has a slot for.
      rcases List.mem_append.mp h with h | h
      · obtain ⟨h, hfree⟩ := List.mem_filter.mp h
        rcases List.mem_append.mp hother with hother | hother
        · exact hsame (hbody other (List.mem_filter.mp hother).1) (hbody binding h)
        · obtain ⟨slot, hslot, heq⟩ := List.mem_map.mp hother
          cases heq
          simp [hslot] at hfree
      · obtain ⟨slot, -, heq⟩ := List.mem_map.mp h
        cases heq
        cases hproperty

end Bindings

/-! ## What counts as a property -/

namespace Classes

variable {classes : Classes} {c : ClassRef} {name : String}

/-- Entering a binding of another name keeps a name, and so does entering a property. -/
theorem mem_enterBinding {known : List (String × Property)} {key : String}
    {property : Option Property} (hpublic : isHiddenName name = false)
    (hkey : key = name → property.isSome = true)
    (h : name ∈ known.map (·.1) ∨ name = key) :
    name ∈ (enterBindings known [(key, property)]).map (·.1) := by
  have hfiltered : name ≠ key → name ∈ (known.filter (·.1 != key)).map (·.1) := by
    intro hne
    obtain ⟨entry, hentry, rfl⟩ := List.mem_map.mp (h.resolve_right hne)
    exact List.mem_map_of_mem (List.mem_filter.mpr ⟨hentry, by simpa using hne⟩)
  cases property with
  | none =>
      show name ∈ (known.filter (·.1 != key)).map (·.1)
      refine hfiltered ?_
      rintro rfl
      cases hkey rfl
  | some p =>
      show name ∈ List.map (·.1) (if isHiddenName key then known.filter (·.1 != key)
        else if known.any (·.1 == key) then
          known.map fun entry => if entry.1 == key then (key, p) else entry
        else known ++ [(key, p)])
      split
      · rename_i hhidden
        refine hfiltered ?_
        rintro rfl
        rw [hpublic] at hhidden
        cases hhidden
      · have hkeys := map_key_upsert Prod.fst (key, p) known
        rw [hkeys]
        split
        · rename_i hknown
          rcases h with h | rfl
          · exact h
          · exact hknown
        · rw [List.mem_append, List.mem_singleton]
          exact h

/-- A public name that is a property stays one if it is bound to properties only, and one that is
bound to properties only becomes one. -/
theorem mem_enterBindings {known : List (String × Property)}
    {bindings : List (String × Option Property)} (hpublic : isHiddenName name = false)
    (hall : ∀ entry ∈ bindings, entry.1 = name → entry.2.isSome = true)
    (h : name ∈ known.map (·.1) ∨ name ∈ bindings.map (·.1)) :
    name ∈ (enterBindings known bindings).map (·.1) := by
  induction bindings generalizing known with
  | nil => exact h.resolve_right (by simp)
  | cons entry rest ih =>
      obtain ⟨key, property⟩ := entry
      rw [List.forall_mem_cons] at hall
      show name ∈ (enterBindings (enterBindings known [(key, property)]) rest).map (·.1)
      refine ih hall.2 ?_
      rw [List.map_cons, List.mem_cons, ← or_assoc] at h
      rcases h with h | h
      · exact .inl (mem_enterBinding hpublic hall.1 h)
      · exact .inr h

/-- The properties along a line of classes. -/
def propertiesAlong (classes : Classes) (lineage : List ClassRef) : List (String × Property) :=
  lineage.reverse.foldl (fun known parent => enterBindings known (classes.namespaceOf parent)) []

theorem propertiesAlong_cons (c : ClassRef) (rest : List ClassRef) :
    classes.propertiesAlong (c :: rest) =
      enterBindings (classes.propertiesAlong rest) (classes.namespaceOf c) := by
  simp [propertiesAlong, List.foldl_append]

/-- The property that a binding of a class is, if it is one. -/
def propertyOf? (owner : String) : Binding → Option Property
  | .property getter setter => some ⟨owner, getter, setter⟩
  | _ => none

theorem namespaceOf_of_find? {owner : String} {found : Class} (h : classes.find? owner = some found) :
    classes.namespaceOf (.declared owner) =
      found.decl.bindings.map fun entry => (entry.1, propertyOf? owner entry.2) := by
  unfold namespaceOf
  simp only [h]
  refine List.map_congr_left ?_
  rintro ⟨entry, binding⟩ -
  cases binding <;> rfl

theorem bindingsOf_of_declOf? {decl : ClassDecl} (h : classes.declOf? c = some decl) :
    classes.bindingsOf c = decl.bindings := by
  cases c with
  | builtin b => cases h
  | declared owner =>
      obtain ⟨found, hfound, rfl⟩ := Option.map_eq_some_iff.mp h
      simp only [bindingsOf, hfound, Option.map_some, Option.getD_some]

/-- No binding that is told by name only is a property. -/
theorem isProperty_of_mem_bindingsOf (h : classes.declOf? c = none) :
    ∀ entry ∈ classes.bindingsOf c, entry.2.isProperty = false := by
  intro entry hentry
  cases c with
  | builtin b =>
      obtain ⟨_, -, rfl⟩ := List.mem_map.mp hentry
      rfl
  | declared owner =>
      have hfound : classes.find? owner = none := Option.map_eq_none_iff.mp h
      simp only [bindingsOf, hfound] at hentry
      cases hentry

/-- The namespace of a declared class has its bindings, and tells which of them are properties. -/
theorem namespaceOf_of_declOf? {decl : ClassDecl} (h : classes.declOf? c = some decl) :
    ∃ f : String × Binding → Option Property,
      classes.namespaceOf c = decl.bindings.map (fun entry => (entry.1, f entry)) ∧
      ∀ entry, (f entry).isSome = entry.2.isProperty := by
  cases c with
  | builtin b => cases h
  | declared owner =>
      obtain ⟨found, hfound, rfl⟩ := Option.map_eq_some_iff.mp h
      refine ⟨fun entry => propertyOf? owner entry.2, namespaceOf_of_find? hfound, ?_⟩
      rintro ⟨entry, binding⟩
      cases binding <;> rfl

/-- The namespace of a class has the names that the class binds. -/
theorem namespaceOf_names (c : ClassRef) :
    (classes.namespaceOf c).map (·.1) = (classes.bindingsOf c).map (·.1) := by
  cases c with
  | builtin b =>
      simp only [namespaceOf, bindingsOf, List.map_append, List.map_map]
      rfl
  | declared owner =>
      cases hfound : classes.find? owner with
      | none => simp only [namespaceOf, bindingsOf, hfound, Option.map_none, Option.getD_none]; rfl
      | some found =>
          have hdecl : classes.declOf? (.declared owner) = some found.decl := by
            simp only [declOf?, hfound, Option.map_some]
          rw [namespaceOf_of_find? hfound, bindingsOf_of_declOf? hdecl, List.map_map]
          rfl

/-- A property of the nearest class of a line that binds its name is among the properties along
the line. -/
theorem mem_propertiesAlong {lineage : List ClassRef}
    (hkinds : ∀ decl ∈ lineage.filterMap classes.declOf?, decl.kind.isOrdinary = true)
    (hpublic : isHiddenName name = false) {owner : String} {binding : Binding}
    (h : (lineage.findSome? fun parent =>
      ((classes.bindingsOf parent).lookup name).map fun binding => (parent.name, binding)) =
        some (owner, binding))
    (hproperty : binding.isProperty = true) :
    name ∈ (classes.propertiesAlong lineage).map (·.1) := by
  induction lineage with
  | nil => cases h
  | cons c rest ih =>
      rw [propertiesAlong_cons]
      rw [List.findSome?_cons] at h
      have hrest : ∀ decl ∈ rest.filterMap classes.declOf?, decl.kind.isOrdinary = true :=
        fun decl hdecl => hkinds decl (List.filterMap_subset _ (List.subset_cons_self c rest) hdecl)
      cases hfound : (classes.bindingsOf c).lookup name with
      | none =>
          rw [hfound] at h
          refine mem_enterBindings hpublic ?_ (.inl (ih hrest h))
          intro entry hentry hname
          have hmem := List.mem_map_of_mem (f := Prod.fst) hentry
          rw [namespaceOf_names, hname] at hmem
          exact absurd hmem (lookup_eq_none.mp hfound)
      | some b =>
          rw [hfound] at h
          cases h
          have hmem := mem_of_lookup hfound
          cases hdecl : classes.declOf? c with
          | none =>
              rw [isProperty_of_mem_bindingsOf hdecl _ hmem] at hproperty
              cases hproperty
          | some decl =>
              obtain ⟨f, hnamespace, hf⟩ := namespaceOf_of_declOf? hdecl
              rw [bindingsOf_of_declOf? hdecl] at hmem
              have hkind : decl.kind.isOrdinary = true :=
                hkinds decl (by rw [List.filterMap_cons_some hdecl]; exact List.mem_cons_self)
              rw [hnamespace]
              refine mem_enterBindings hpublic ?_ (.inr ?_)
              · intro entry hentry hname
                obtain ⟨⟨_, other⟩, hother, rfl⟩ := List.mem_map.mp hentry
                obtain rfl := hname
                rw [hf, ClassDecl.binding_unique hkind hpublic hmem hproperty hother, hproperty]
              · rw [List.map_map]
                exact List.mem_map_of_mem (f := Prod.fst) hmem

/-- A public name that is none of the public properties of an ordinary class stands for no
property on it. -/
theorem isPlain_of_not_mem (hkinds : (classes.declsOf c).all (·.kind.isOrdinary) = true)
    (hpublic : isHiddenName name = false)
    (h : name ∉ (classes.publicProperties c).map (·.1)) : classes.IsPlain c name := by
  unfold IsPlain
  cases hbinding : classes.ownedBinding? c name with
  | none =>
      unfold binding?
      rw [hbinding]
      rfl
  | some owned =>
      unfold binding?
      rw [hbinding]
      refine Bool.eq_false_iff.mpr fun hproperty => h ?_
      exact mem_propertiesAlong (List.all_eq_true.mp hkinds) hpublic hbinding hproperty

/-- The fields of an ordinary class are no properties of it. -/
theorem IsOrdinary.isPlain {className : String} (hc : classes.IsOrdinary className)
    {members : List Member} (h : classes.fields (.declared className) = .ok members) {m : Member}
    (hm : m ∈ members) : classes.IsPlain (.declared className) m.name := by
  have hname := classes.isFieldName_of_mem_fields _ h hm
  simp only [isFieldName, Bool.and_eq_true, Bool.not_eq_true'] at hname
  refine isPlain_of_not_mem hc.inherited hname.1 fun hproperty => ?_
  obtain ⟨entry, hentry, hkey⟩ := List.mem_map.mp hproperty
  have hnone := List.any_eq_false.mp hname.2 entry hentry
  exact hnone (beq_iff_eq.mpr hkey)

end Classes

end Memberwise
