import Memberwise.Proofs.TypeExpr.Flat
import Memberwise.TypeExpr.Build

/-! # Types as programs write them

However an annotation is put together, by names, applications, bars and notes, and whatever is read
of it as a hint, its unions are flat.
-/

namespace Memberwise.TypeExpr

variable {classes : Classes} {t u : TypeExpr}

/-! ## Annotations -/

/-- What an annotation may be: what names, texts and values spell, what is made of these, and the
hints that are read of them. -/
inductive Written (classes : Classes) : TypeExpr → Prop
  | name {name : String} {t : TypeExpr} (h : ofName? classes name = some t) : Written classes t
  | cls (c : ClassRef) : Written classes (.cls c)
  | value (v : Value) : Written classes (.value v)
  | forward (text : String) : Written classes (.forward text)
  | literals (values : List Atom) : Written classes (ofLiterals values)
  | emptyTuple : Written classes emptyTuple
  | applied {head t : TypeExpr} {args : List TypeExpr} (hhead : Written classes head)
      (hargs : ∀ arg ∈ args, Written classes arg) (h : applyTo? classes head args = some t) :
      Written classes t
  | bars {t : TypeExpr} {types : List TypeExpr} (htypes : ∀ type ∈ types, Written classes type)
      (h : barUnion? types = some t) : Written classes t
  | initOnly {t : TypeExpr} (mark : Nat) (ht : Written classes t) : Written classes (.initOnly mark t)
  | hint {t u : TypeExpr} (ht : Written classes t) (h : t.resolve classes = .ok u) :
      Written classes u
  | fieldHint {t : TypeExpr} (ht : Written classes t) : Written classes (t.resolveField classes)

/-! ## Applications and unions -/

theorem tidy_ofName? {name : String} (h : ofName? classes name = some t) : Tidy t := by
  have hsingle : t.isUnion = false ∧ ∀ inner, t ≠ .annotated inner := by
    unfold ofName? at h
    split at h
    · cases h
      exact ⟨rfl, nofun⟩
    split at h
    · cases h
      exact ⟨rfl, nofun⟩
    split at h
    · obtain ⟨b, -, rfl⟩ := Option.map_eq_some_iff.mp h
      exact ⟨rfl, nofun⟩
    · split at h <;> cases h <;> exact ⟨rfl, nofun⟩
  exact .single hsingle.1 hsingle.2

theorem tidy_argument (h : Tidy t) : Tidy t.argument := by
  unfold argument
  split
  · exact .single rfl nofun
  · exact .single rfl nofun
  · exact h

theorem tidy_arguments? {args found : List TypeExpr} (hargs : ∀ arg ∈ args, Tidy arg)
    (h : arguments? args = some found) : ∀ arg ∈ found, Tidy arg := by
  unfold arguments? at h
  dsimp only at h
  split at h
  · cases h
    exact List.forall_mem_map.mpr fun arg harg => tidy_argument (hargs arg harg)
  · cases h

theorem tidy_namedUnion? {args : List TypeExpr} (hargs : ∀ arg ∈ args, Tidy arg)
    (h : namedUnion? args = some t) : Tidy t := by
  unfold namedUnion? at h
  split at h
  · cases h
  · obtain ⟨found, hfound, rfl⟩ := Option.map_eq_some_iff.mp h
    exact tidy_unionOf (tidy_arguments? hargs hfound) _

theorem tidy_applyForm? {f : SpecialForm} {args : List TypeExpr} (hargs : ∀ arg ∈ args, Tidy arg)
    (h : applyForm? f args = some t) : Tidy t := by
  unfold applyForm? at h
  split at h
  · refine tidy_namedUnion? ?_ h
    rw [List.forall_mem_singleton] at hargs
    exact List.forall_mem_cons.mpr ⟨hargs, List.forall_mem_singleton.mpr (.single rfl nofun)⟩
  · exact tidy_namedUnion? hargs h
  · dsimp only at h
    split at h
    · cases h
      exact .annotated (tidy_argument (List.forall_mem_singleton.mp hargs))
    · cases h
  all_goals first
    | (obtain ⟨_, -, rfl⟩ := Option.map_eq_some_iff.mp h; exact .single rfl nofun)
    | cases h

theorem tidy_applyTo? {head : TypeExpr} {args : List TypeExpr} (hargs : ∀ arg ∈ args, Tidy arg)
    (h : applyTo? classes head args = some t) : Tidy t := by
  unfold applyTo? at h
  repeat' split at h
  all_goals first
    | exact tidy_applyForm? hargs h
    | (obtain ⟨_, -, rfl⟩ := Option.map_eq_some_iff.mp h; exact .single rfl nofun)
    | (cases h; exact .single rfl nofun)
    | cases h

theorem tidy_barUnionOf? {a b : TypeExpr} (ha : Tidy a) (hb : Tidy b)
    (h : barUnionOf? a b = some t) : Tidy t := by
  have hnone : Tidy noneType := .single rfl nofun
  unfold barUnionOf? at h
  split_ifs at h
  · cases h
    exact tidy_bar ha hb
  · cases h
    exact tidy_bar ha hnone
  · cases h
    exact tidy_bar hnone hb
  · exact tidy_namedUnion? (by simp [ha, hb]) h

theorem tidy_barUnion? {types : List TypeExpr} (htypes : ∀ type ∈ types, Tidy type)
    (h : barUnion? types = some t) : Tidy t := by
  cases types with
  | nil => cases h
  | cons first rest =>
      rw [List.forall_mem_cons] at htypes
      obtain ⟨hfirst, hrest⟩ := htypes
      have hfold : rest.foldlM barUnionOf? first = some t := h
      clear h
      induction rest generalizing first with
      | nil =>
          cases hfold
          exact hfirst
      | cons a rest ih =>
          rw [List.foldlM_cons] at hfold
          obtain ⟨next, hnext, hfold⟩ := Option.bind_eq_some_iff.mp hfold
          rw [List.forall_mem_cons] at hrest
          exact ih next (tidy_barUnionOf? hfirst hrest.1 hnext) hrest.2 hfold

/-! ## Texts -/

theorem tidy_typeOfName {name : String} (h : classes.typeOfName name = .ok t) : Tidy t := by
  unfold Classes.typeOfName at h
  repeat' split at h
  all_goals first
    | (cases h; exact .single rfl nofun)
    | cases h

theorem tidy_typeHeldBy {name : String} (h : classes.typeHeldBy name t = .ok u) : Tidy u := by
  unfold Classes.typeHeldBy at h
  repeat' split at h
  all_goals first
    | (cases h; exact .single rfl nofun)
    | cases h

theorem orMismatch_eq_ok {found : Option TypeExpr} (h : Source.orMismatch found = .ok t) :
    found = some t := by
  cases found with
  | none => cases h
  | some u =>
      cases h
      rfl

mutual

theorem tidy_eval (source : Source) {t : TypeExpr} (h : source.eval classes = .ok t) : Tidy t := by
  match source with
  | .named name =>
      unfold Source.eval at h
      split at h
      all_goals first
        | exact tidy_typeOfName h
        | (cases h; exact .single rfl nofun)
  | .number n =>
      cases h
      exact .single rfl nofun
  | .ellipsis =>
      cases h
      exact .single rfl nofun
  | .attribute owner name =>
      obtain ⟨held, -, h⟩ := bind_eq_ok.mp h
      exact tidy_typeHeldBy h
  | .subscript head args =>
      obtain ⟨first, -, h⟩ := bind_eq_ok.mp h
      obtain ⟨types, htypes, h⟩ := bind_eq_ok.mp h
      exact tidy_applyTo? (tidy_evalAll args htypes) (orMismatch_eq_ok h)
  | .bars left right =>
      obtain ⟨first, hfirst, h⟩ := bind_eq_ok.mp h
      obtain ⟨second, hsecond, h⟩ := bind_eq_ok.mp h
      exact tidy_barUnionOf? (tidy_eval left hfirst) (tidy_eval right hsecond) (orMismatch_eq_ok h)

theorem tidy_evalAll (sources : List Source) {types : List TypeExpr}
    (h : Source.evalAll classes sources = .ok types) : ∀ t ∈ types, Tidy t := by
  match sources with
  | [] =>
      cases h
      exact List.forall_mem_nil _
  | source :: rest =>
      obtain ⟨first, hfirst, h⟩ := bind_eq_ok.mp h
      obtain ⟨others, hothers, h⟩ := bind_eq_ok.mp h
      cases h
      exact List.forall_mem_cons.mpr ⟨tidy_eval source hfirst, tidy_evalAll rest hothers⟩

end

theorem tidy_typeOfText {text : String} (h : classes.typeOfText text = .ok t) : Tidy t := by
  unfold Classes.typeOfText at h
  split at h
  · cases h
  · rename_i source _
    obtain ⟨read, hread, h⟩ := bind_eq_ok.mp h
    split at h
    · cases h
      exact .single rfl nofun
    · split at h
      · cases h
        exact tidy_eval source hread
      · cases h

/-! ## Hints -/

theorem forall_mem_resolveInners {types resolved : List TypeExpr} {P : TypeExpr → Prop}
    (hP : ∀ t ∈ types, ∀ u, t.resolveInner classes = .ok u → P u)
    (h : resolveInners classes types = .ok resolved) : ∀ u ∈ resolved, P u := by
  induction types generalizing resolved with
  | nil =>
      cases h
      exact List.forall_mem_nil _
  | cons t rest ih =>
      obtain ⟨first, hfirst, h⟩ := bind_eq_ok.mp h
      obtain ⟨others, hothers, h⟩ := bind_eq_ok.mp h
      cases h
      rw [List.forall_mem_cons] at hP ⊢
      exact ⟨hP.1 first hfirst, ih hP.2 hothers⟩

theorem tidy_resolveInner (h : t.resolveInner classes = .ok u) : Tidy u := by
  induction t using parts generalizing u with
  | forward text => exact tidy_typeOfText h
  | applied head args ih =>
      cases head with
      | builtin b =>
          obtain ⟨_, -, h⟩ := bind_eq_ok.mp h
          cases h
          exact .single rfl nofun
      | _ =>
          obtain ⟨_, -, h⟩ := bind_eq_ok.mp h
          cases h
          exact .single rfl nofun
  | union style members ih =>
      obtain ⟨resolved, hresolved, h⟩ := bind_eq_ok.mp h
      cases h
      exact tidy_unionIn (forall_mem_resolveInners (fun t ht u => ih t ht) hresolved) style
  | annotated t ih =>
      obtain ⟨inner, hinner, h⟩ := bind_eq_ok.mp h
      cases h
      exact .annotated (ih hinner)
  | _ =>
      cases h
      exact .single rfl nofun

theorem tidy_resolveTop (h : t.resolveTop classes = .ok u) : Tidy u := by
  unfold resolveTop at h
  split at h
  · exact tidy_typeOfText h
  · cases h
    exact .single rfl nofun
  · exact tidy_resolveInner h

theorem tidy_resolveField (ht : Tidy t) : Tidy (t.resolveField classes) := by
  unfold resolveField
  split
  · rename_i resolved hresolved
    exact (tidy_resolveTop hresolved).withoutTopNotes
  · exact .single rfl nofun
  · exact ht

theorem Written.tidy (h : Written classes t) : Tidy t := by
  induction h with
  | name h => exact tidy_ofName? h
  | cls | value | forward | literals | emptyTuple | initOnly => exact .single rfl nofun
  | applied _ _ h _ ih => exact tidy_applyTo? ih h
  | bars _ h ih => exact tidy_barUnion? ih h
  | hint _ h _ =>
      obtain ⟨resolved, -, rfl⟩ := map_eq_ok.mp h
      exact tidy_stripNotes resolved
  | fieldHint _ ih => exact tidy_resolveField ih

/-- Whatever a program writes for a type is flat. -/
theorem Written.isFlat (h : Written classes t) : t.IsFlat := h.tidy.isFlat

end Memberwise.TypeExpr
