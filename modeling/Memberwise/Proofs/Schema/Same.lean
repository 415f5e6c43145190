import Memberwise.Proofs.Fallible
import Memberwise.Proofs.TypeExpr.Same
import Memberwise.Schema.Reading

/-! # Schemas of types that are the same

Spellings of one type may list the members of a union in another order.  Their schemas differ in
that order at most: either both types have one or neither has, and they refer to the same classes.
-/

namespace Memberwise

open TypeExpr (Same Matches isNoneType_of_same)

/-! ## Values as types -/

theorem Atom.token_eq_text {a : Atom} {s : String} : a.token = .text s ↔ a = .str s := by
  cases a <;> simp only [Atom.token, reduceCtorEq, Token.text.injEq, Atom.str.injEq]
  all_goals
    constructor
    · intro h
      split at h <;> cases h
    · intro h
      cases h

theorem Value.shape_eq_text {v : Value} {s : String} :
    v.shape = [.text s] ↔ v.core? = some (.str s) := by
  have hatom : ∀ a : Atom, [a.token] = [.text s] ↔ some a = some (.str s) := by
    intro a
    rw [List.cons.injEq, and_iff_left rfl, Option.some.injEq, Atom.token_eq_text]
  cases v with
  | atom a => exact hatom a
  | seq place kind items => simp [shape, core?]
  | dict place entries => simp [shape, core?]
  | object place name core attributes =>
      cases core with
      | none => simp [shape, core?]
      | some core => exact hatom core

namespace Schema

variable {classes : Classes} {a b : TypeExpr} {as bs : List TypeExpr}

/-- Whether schemas refer to the same classes. -/
def SameReferences (s s' : Schema) : Prop := ∀ name, name ∈ references s ↔ name ∈ references s'

/-- Whether types have schemas that refer to the same classes, or none of them has a schema. -/
abbrev DescribedAlike (classes : Classes) (a b : TypeExpr) : Prop :=
  Option.Rel SameReferences (ofType? classes a) (ofType? classes b)

theorem sameReferences_refl (s : Schema) : SameReferences s s := fun _ => Iff.rfl

theorem rel_refl (s : Option Schema) : Option.Rel SameReferences s s := by
  cases s with
  | none => exact .none
  | some s => exact .some (sameReferences_refl s)

theorem mem_referencesAll {name : String} {schemas : List Schema} :
    name ∈ referencesAll schemas ↔ ∃ s ∈ schemas, name ∈ references s := by
  induction schemas with
  | nil => simp [referencesAll]
  | cons s rest ih => simp [referencesAll, ih]

theorem referencesAll_congr {schemas schemas' : List Schema}
    (h : List.Forall₂ SameReferences schemas schemas') (name : String) :
    name ∈ referencesAll schemas ↔ name ∈ referencesAll schemas' := by
  induction h with
  | nil => exact Iff.rfl
  | cons hfirst _ ih => simp only [referencesAll, List.mem_append, hfirst name, ih]

/-! ## Arguments -/

theorem ofTypes?_alike (h : List.Forall₂ (DescribedAlike classes) as bs) :
    Option.Rel (List.Forall₂ SameReferences) (ofTypes? classes as) (ofTypes? classes bs) := by
  induction h with
  | nil => exact .some .nil
  | @cons a b as bs hfirst _ ih =>
      have hfirst : Option.Rel SameReferences (ofType? classes a) (ofType? classes b) := hfirst
      unfold ofTypes?
      revert hfirst ih
      generalize ofType? classes a = first
      generalize ofType? classes b = first'
      generalize ofTypes? classes as = rest
      generalize ofTypes? classes bs = rest'
      intro ih hfirst
      cases hfirst with
      | none => exact .none
      | some hfirst =>
          cases ih with
          | none => exact .none
          | some hrest => exact .some (.cons hfirst hrest)

/-- Collections of arguments that are alike are alike. -/
theorem ofCollection?_alike (origin : Builtin) {args args' : List Schema}
    (h : List.Forall₂ SameReferences args args') :
    Option.Rel SameReferences (ofCollection? origin args) (ofCollection? origin args') := by
  cases h with
  | nil => exact rel_refl _
  | @cons k k' _ _ hfirst hrest =>
      cases hrest with
      | nil => cases origin <;> first | exact .none | exact .some hfirst
      | @cons v v' _ _ hsecond hrest =>
          cases hrest with
          | cons hthird hrest =>
              cases hrest with
              | nil => cases origin <;> first | exact .none | exact .some hfirst
              | cons => cases origin <;> exact .none
          | nil =>
              have hboth : SameReferences (.dict k v) (.dict k' v') := fun name => by
                simp only [references, List.mem_append, hfirst name, hsecond name]
              cases origin <;> first | exact .none | exact .some hboth

/-! ## Unions -/

/-- The schemas of a union are those of its members other than the absent value. -/
theorem mem_of_ofMembers? {types : List TypeExpr} {schemas : List Schema}
    (h : ofMembers? classes types = some schemas) (s : Schema) :
    s ∈ schemas ↔ ∃ t ∈ types, t.isNoneType = false ∧ ofType? classes t = some s := by
  induction types generalizing schemas with
  | nil =>
      cases h
      simp
  | cons t rest ih =>
      unfold ofMembers? at h
      cases hnone : t.isNoneType with
      | true =>
          rw [if_pos hnone] at h
          rw [ih h]
          simp [hnone]
      | false =>
          rw [if_neg (by simp [hnone])] at h
          obtain ⟨first, hfirst, h⟩ := Option.bind_eq_some_iff.mp h
          obtain ⟨others, hothers, h⟩ := Option.bind_eq_some_iff.mp h
          cases h
          have hmember : s = first ↔ t.isNoneType = false ∧ ofType? classes t = some s := by
            rw [hfirst, Option.some.injEq, and_iff_right hnone]
            exact eq_comm
          simp only [List.mem_cons, exists_eq_or_imp, ih hothers, hmember]

theorem isSome_ofMembers? {types : List TypeExpr} : (ofMembers? classes types).isSome ↔
    ∀ t ∈ types, t.isNoneType = false → (ofType? classes t).isSome := by
  induction types with
  | nil => simp [ofMembers?]
  | cons t rest ih =>
      unfold ofMembers?
      cases hnone : t.isNoneType with
      | true =>
          rw [if_pos rfl, ih]
          simp [hnone]
      | false =>
          rw [if_neg (by simp), List.forall_mem_cons, ← ih]
          cases ofType? classes t with
          | none => simp [hnone]
          | some first => cases ofMembers? classes rest <;> simp [hnone]

theorem mem_references_ofMembers {hasAbsent : Bool} {schemas : List Schema} {name : String} :
    name ∈ references (ofMembers hasAbsent schemas) ↔ ∃ s ∈ schemas, name ∈ references s := by
  have hinner : ∀ inner : Schema,
      name ∈ references (if hasAbsent then .nullable inner else inner) ↔ name ∈ references inner := by
    intro inner
    cases hasAbsent <;> exact Iff.rfl
  unfold ofMembers
  rw [hinner]
  split
  · simp
  · exact mem_referencesAll

/-- Whether each type has one like it among others, the absent value apart. -/
def CoveredAlike (classes : Classes) (as bs : List TypeExpr) : Prop :=
  ∀ a ∈ as, ∃ b ∈ bs, b.isNoneType = a.isNoneType ∧ DescribedAlike classes a b

theorem DescribedAlike.symm (h : DescribedAlike classes a b) : DescribedAlike classes b a := by
  unfold DescribedAlike at h ⊢
  generalize ofType? classes a = first at h ⊢
  generalize ofType? classes b = second at h ⊢
  cases h with
  | none => exact .none
  | some hreferences => exact .some fun name => (hreferences name).symm

theorem DescribedAlike.exists_schema {s : Schema} (h : DescribedAlike classes a b)
    (hs : ofType? classes a = some s) :
    ∃ s', ofType? classes b = some s' ∧ SameReferences s s' := by
  rw [DescribedAlike, hs] at h
  cases hschema : ofType? classes b with
  | none =>
      rw [hschema] at h
      cases h
  | some s' =>
      rw [hschema] at h
      cases h with
      | some hreferences => exact ⟨s', rfl, hreferences⟩

/-- A union has a schema if the types that cover its members have one. -/
theorem CoveredAlike.isSome (h : CoveredAlike classes as bs)
    (hbs : (ofMembers? classes bs).isSome) : (ofMembers? classes as).isSome := by
  rw [isSome_ofMembers?] at hbs ⊢
  intro a ha hnone
  obtain ⟨b, hb, hsame, halike⟩ := h a ha
  obtain ⟨s, hs⟩ := Option.isSome_iff_exists.mp (hbs b hb (hsame.trans hnone))
  obtain ⟨s', hs', -⟩ := halike.symm.exists_schema hs
  rw [hs']
  rfl

/-- The types that cover the members of a union refer to the classes that it refers to. -/
theorem CoveredAlike.references (h : CoveredAlike classes as bs) {schemas schemas' : List Schema}
    (has : ofMembers? classes as = some schemas) (hbs : ofMembers? classes bs = some schemas')
    {name : String} (hname : ∃ s ∈ schemas, name ∈ Schema.references s) :
    ∃ s ∈ schemas', name ∈ Schema.references s := by
  obtain ⟨s, hs, hname⟩ := hname
  obtain ⟨a, ha, hnone, hschema⟩ := (mem_of_ofMembers? has s).mp hs
  obtain ⟨b, hb, hsame, halike⟩ := h a ha
  obtain ⟨s', hs', hreferences⟩ := halike.exists_schema hschema
  exact ⟨s', (mem_of_ofMembers? hbs s').mpr ⟨b, hb, hsame.trans hnone, hs'⟩,
    (hreferences name).mp hname⟩

/-- What a union says of the members other than the absent value. -/
theorem describedAlike_union {style style' : UnionStyle}
    (hsame : ∀ a ∈ as, ∀ b, Same a b → DescribedAlike classes a b) (h : Matches Same as bs) :
    DescribedAlike classes (.union style as) (.union style' bs) := by
  have hleft : CoveredAlike classes as bs := by
    intro a ha
    obtain ⟨b, hb, hab⟩ := h.left a ha
    exact ⟨b, hb, isNoneType_of_same hab, hsame a ha b hab⟩
  have hright : CoveredAlike classes bs as := by
    intro b hb
    obtain ⟨a, ha, hab⟩ := h.right b hb
    exact ⟨a, ha, (isNoneType_of_same hab).symm, (hsame a ha b hab).symm⟩
  show Option.Rel SameReferences ((ofMembers? classes as).map _) ((ofMembers? classes bs).map _)
  cases hfirst : ofMembers? classes as with
  | none =>
      cases hsecond : ofMembers? classes bs with
      | none => exact .none
      | some schemas' =>
          have hsome := hleft.isSome (by rw [hsecond]; rfl)
          rw [hfirst] at hsome
          cases hsome
  | some schemas =>
      cases hsecond : ofMembers? classes bs with
      | none =>
          have hsome := hright.isSome (by rw [hfirst]; rfl)
          rw [hsecond] at hsome
          cases hsome
      | some schemas' =>
          apply Option.Rel.some
          intro name
          rw [mem_references_ofMembers, mem_references_ofMembers]
          exact ⟨hleft.references hfirst hsecond, hright.references hsecond hfirst⟩

/-! ## Generic types -/

theorem ofType?_tuple_pair {t u : TypeExpr} (hu : u ≠ .ellipsis) :
    ofType? classes (.applied (.builtin .tuple) [t, u]) = (ofTypes? classes [t, u]).map .tuple := by
  cases u <;> first | exact absurd rfl hu | rfl

theorem ofType?_tuple_long (t u x : TypeExpr) (rest : List TypeExpr) :
    ofType? classes (.applied (.builtin .tuple) (t :: u :: x :: rest)) =
      (ofTypes? classes (t :: u :: x :: rest)).map .tuple := by
  cases u <;> rfl

/-- Tuples with as many places as they have arguments. -/
theorem map_tuple_alike (h : List.Forall₂ (DescribedAlike classes) as bs) :
    Option.Rel SameReferences ((ofTypes? classes as).map .tuple) ((ofTypes? classes bs).map .tuple) := by
  have hargs := ofTypes?_alike h
  revert hargs
  generalize ofTypes? classes as = schemas
  generalize ofTypes? classes bs = schemas'
  intro hargs
  cases hargs with
  | none => exact .none
  | some hargs => exact .some (referencesAll_congr hargs)

theorem describedAlike_tuple (hsame : List.Forall₂ Same as bs)
    (h : List.Forall₂ (DescribedAlike classes) as bs) :
    DescribedAlike classes (.applied (.builtin .tuple) as) (.applied (.builtin .tuple) bs) := by
  have hall := map_tuple_alike h
  cases hsame with
  | nil => exact hall
  | @cons t t' _ _ hfirst hrest =>
      cases hrest with
      | nil => exact hall
      | @cons u u' _ _ hsecond hrest =>
          cases hrest with
          | cons =>
              unfold DescribedAlike
              rw [ofType?_tuple_long, ofType?_tuple_long]
              exact hall
          | nil =>
              by_cases hu : u = .ellipsis
              · subst hu
                rw [(TypeExpr.same_plain_iff rfl).mp hsecond]
                cases h with
                | cons halike _ =>
                    have halike : Option.Rel SameReferences (ofType? classes t)
                        (ofType? classes t') := halike
                    show Option.Rel SameReferences ((ofType? classes t).map .tupleOf)
                      ((ofType? classes t').map .tupleOf)
                    revert halike
                    generalize ofType? classes t = schema
                    generalize ofType? classes t' = schema'
                    intro halike
                    cases halike with
                    | none => exact .none
                    | some hreferences => exact .some hreferences
              · have hu' : u' ≠ .ellipsis := by
                  rintro rfl
                  exact hu ((TypeExpr.same_plain_iff rfl).mp (TypeExpr.same_symm hsecond))
                unfold DescribedAlike
                rw [ofType?_tuple_pair hu, ofType?_tuple_pair hu']
                exact hall

theorem ofType?_alias (name : String) (origin : Builtin) (args : List TypeExpr) :
    ofType? classes (.applied (.alias ⟨name, origin⟩) args) =
      ofType? classes (.applied (.builtin origin) args) := by
  cases origin <;> first | rfl | (unfold ofType?; rfl)

theorem ofType?_builtin {b : Builtin} (hb : b ≠ .tuple) (args : List TypeExpr) :
    ofType? classes (.applied (.builtin b) args) =
      (ofTypes? classes args).bind (ofCollection? b) := by
  cases b <;> first | exact absurd rfl hb | rfl

theorem describedAlike_applied (b : Builtin) (hsame : List.Forall₂ Same as bs)
    (h : List.Forall₂ (DescribedAlike classes) as bs) :
    DescribedAlike classes (.applied (.builtin b) as) (.applied (.builtin b) bs) := by
  by_cases hb : b = .tuple
  · subst hb
    exact describedAlike_tuple hsame h
  · have hargs := ofTypes?_alike h
    unfold DescribedAlike
    rw [ofType?_builtin hb, ofType?_builtin hb]
    revert hargs
    generalize ofTypes? classes as = schemas
    generalize ofTypes? classes bs = schemas'
    intro hargs
    cases hargs with
    | none => exact .none
    | some hargs => exact ofCollection?_alike b hargs

theorem ofType?_value {v : Value} (h : ¬ ∃ s, v.core? = some (.str s)) :
    ofType? classes (.value v) = none := by
  simp only [ofType?]
  split
  · rename_i s hs
    exact absurd ⟨s, hs⟩ h
  · rfl

/-- Types that are the same are described alike. -/
theorem describedAlike_of_same (h : Same a b) : DescribedAlike classes a b := by
  induction a using TypeExpr.parts generalizing b with
  | cls | special | generic | forward | ellipsis =>
      rw [(TypeExpr.same_plain_iff rfl).mp h]
      exact rel_refl _
  | applied head args ih =>
      obtain ⟨bs, rfl, hargs⟩ := TypeExpr.same_applied_iff.mp h
      have halike : List.Forall₂ (DescribedAlike classes) args bs := by
        clear h
        induction hargs with
        | nil => exact .nil
        | cons hab _ further =>
            rw [List.forall_mem_cons] at ih
            exact .cons (ih.1 hab) (further ih.2)
      cases head with
      | «alias» a =>
          unfold DescribedAlike
          rw [ofType?_alias, ofType?_alias]
          exact describedAlike_applied a.origin hargs halike
      | builtin b => exact describedAlike_applied b hargs halike
      | declared name => exact .none
      | form f => exact .none
  | union style members ih =>
      obtain ⟨style', bs, rfl, hmatch⟩ := TypeExpr.same_union_iff.mp h
      exact describedAlike_union (fun a ha b => ih a ha) hmatch
  | literal values =>
      obtain ⟨ys, rfl, -⟩ := TypeExpr.same_literal_iff.mp h
      exact .some fun _ => Iff.rfl
  | annotated t ih =>
      obtain ⟨u, rfl, hsame⟩ := TypeExpr.same_annotated_iff.mp h
      have hinner : DescribedAlike classes t u := ih hsame
      exact hinner
  | initOnly mark t =>
      obtain ⟨u, rfl⟩ := TypeExpr.same_initOnly_iff.mp h
      exact .none
  | value v =>
      obtain ⟨u, rfl, hshape⟩ := TypeExpr.same_value_iff.mp h
      have htext : ∀ s : String, v.core? = some (.str s) ↔ u.core? = some (.str s) := by
        intro s
        rw [← Value.shape_eq_text, ← Value.shape_eq_text, hshape]
      unfold DescribedAlike
      by_cases hname : ∃ s, v.core? = some (.str s)
      · obtain ⟨s, hs⟩ := hname
        simp only [ofType?, hs, (htext s).mp hs]
        exact rel_refl _
      · have hother : ¬ ∃ s, u.core? = some (.str s) := by
          rintro ⟨s, hs⟩
          exact hname ⟨s, (htext s).mpr hs⟩
        rw [ofType?_value hname, ofType?_value hother]
        exact .none

/-! ## Classes behind a schema -/

/-- The classes that some classes refer to, unless one of them is not described. -/
def laterReferences? (classes : Classes) (pending : List String) : Option (List String) :=
  (pending.mapM (fieldReferences? classes)).map List.flatten

theorem mem_of_laterReferences? {pending found : List String}
    (h : laterReferences? classes pending = some found) (name : String) :
    name ∈ found ↔ ∃ p ∈ pending, ∃ names, fieldReferences? classes p = some names ∧ name ∈ names := by
  obtain ⟨lists, hlists, rfl⟩ := Option.map_eq_some_iff.mp h
  have hall := mapM_eq_some_iff.mp hlists
  clear h hlists
  induction hall with
  | nil => simp
  | cons hfirst _ ih => simp [ih, hfirst]

theorem laterReferences?_eq_none {pending : List String} :
    laterReferences? classes pending = none ↔ ∃ p ∈ pending, fieldReferences? classes p = none := by
  unfold laterReferences?
  rw [Option.map_eq_none_iff]
  induction pending with
  | nil => simp
  | cons p rest ih =>
      rw [List.mapM_cons]
      simp only [List.mem_cons, exists_eq_or_imp, ← ih]
      cases fieldReferences? classes p with
      | none => simp
      | some names => cases rest.mapM (fieldReferences? classes) <;> simp

theorem isClosed_succ {pending : List String} (h : pending ≠ []) (rounds : Nat)
    (seen : List String) : isClosed classes (rounds + 1) seen pending =
      match laterReferences? classes pending with
      | none => false
      | some found => isClosed classes rounds (seen ++ pending)
          (found.eraseDups.filter fun name => !(seen ++ pending).contains name) := by
  unfold laterReferences?
  cases pending with
  | nil => exact absurd rfl h
  | cons p rest =>
      rw [isClosed]
      · cases (p :: rest).mapM (fieldReferences? classes) <;> rfl
      · exact h

/-- Which classes are asked for matters, and in which order does not. -/
theorem isClosed_congr {rounds : Nat} {seen seen' pending pending' : List String}
    (hseen : ∀ name, name ∈ seen ↔ name ∈ seen')
    (hpending : ∀ name, name ∈ pending ↔ name ∈ pending') :
    isClosed classes rounds seen pending = isClosed classes rounds seen' pending' := by
  induction rounds generalizing seen seen' pending pending' with
  | zero => cases pending <;> cases pending' <;> rfl
  | succ rounds ih =>
      by_cases hempty : pending = []
      · have hempty' : pending' = [] := by
          apply List.eq_nil_iff_forall_not_mem.mpr
          intro name hname
          rw [← hpending, hempty] at hname
          cases hname
        rw [hempty, hempty']
        rfl
      · have hempty' : pending' ≠ [] := by
          intro hnil
          apply hempty
          apply List.eq_nil_iff_forall_not_mem.mpr
          intro name hname
          rw [hpending, hnil] at hname
          cases hname
        rw [isClosed_succ hempty, isClosed_succ hempty']
        have hnone : laterReferences? classes pending = none ↔
            laterReferences? classes pending' = none := by
          simp only [laterReferences?_eq_none, hpending]
        cases hfound : laterReferences? classes pending with
        | none => rw [hnone.mp hfound]
        | some found =>
            cases hfound' : laterReferences? classes pending' with
            | none =>
                rw [hnone.mpr hfound'] at hfound
                cases hfound
            | some found' =>
                have hnext : ∀ name, name ∈ seen ++ pending ↔ name ∈ seen' ++ pending' := by
                  intro name
                  rw [List.mem_append, List.mem_append, hseen, hpending]
                have hcontains : ∀ name, (seen ++ pending).contains name =
                    (seen' ++ pending').contains name := by
                  intro name
                  rw [Bool.eq_iff_iff, List.contains_iff_mem, List.contains_iff_mem, hnext]
                apply ih hnext
                intro name
                simp only [List.mem_filter, List.mem_eraseDups, hcontains,
                  mem_of_laterReferences? hfound, mem_of_laterReferences? hfound', hpending]

/-- Of types that are the same either both are described, with all classes behind them, or
neither. -/
theorem isSome_describe?_of_same (h : Same a b) :
    (describe? classes a).isSome = (describe? classes b).isSome := by
  have halike : Option.Rel SameReferences (ofType? classes a) (ofType? classes b) :=
    describedAlike_of_same h
  unfold describe?
  revert halike
  generalize ofType? classes a = first
  generalize ofType? classes b = second
  intro halike
  cases halike with
  | none => rfl
  | @some s s' hreferences =>
      have hclosed : isClosed classes (classes.length + 1) [] (references s).eraseDups =
          isClosed classes (classes.length + 1) [] (references s').eraseDups := by
        apply isClosed_congr fun _ => Iff.rfl
        intro name
        rw [List.mem_eraseDups, List.mem_eraseDups, hreferences name]
      simp only [Option.bind_some, hclosed]
      split <;> rfl

end Schema

end Memberwise
