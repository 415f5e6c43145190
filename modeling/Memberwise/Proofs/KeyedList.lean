import Mathlib.Data.List.Forall2
import Mathlib.Data.List.Nodup

/-! # Keyed lists

Lists whose elements are told apart by a key.  Entering an element in the place of the one with
its key, or at the end, keeps the keys distinct, and a key picks at most one element.
-/

namespace Memberwise

section Keys

variable {α β : Type} [BEq β] [LawfulBEq β]

theorem map_key_replace (key : α → β) (x : α) (known : List α) :
    (known.map fun e => if key e == key x then x else e).map key = known.map key := by
  rw [List.map_map]
  refine List.map_congr_left fun e _ => ?_
  by_cases h : key e = key x <;> simp [h]

/-- The keys after an element is entered in the place of the one with its key, or at the end. -/
theorem map_key_upsert (key : α → β) (x : α) (known : List α) :
    (if known.any (key · == key x) then known.map fun e => if key e == key x then x else e
      else known ++ [x]).map key =
    if key x ∈ known.map key then known.map key else known.map key ++ [key x] := by
  by_cases h : key x ∈ known.map key
  · have hany : known.any (key · == key x) = true := by
      obtain ⟨e, he, hk⟩ := List.mem_map.mp h
      exact List.any_eq_true.mpr ⟨e, he, by simp [hk]⟩
    rw [if_pos hany, if_pos h, map_key_replace]
  · have hany : ¬ known.any (key · == key x) = true := by
      intro hk
      obtain ⟨e, he, hk⟩ := List.any_eq_true.mp hk
      exact h (List.mem_map.mpr ⟨e, he, by simpa using hk⟩)
    rw [if_neg hany, if_neg h, List.map_append, List.map_singleton]

theorem nodup_upsert (key : α → β) (x : α) {known : List α} (h : (known.map key).Nodup) :
    ((if known.any (key · == key x) then known.map fun e => if key e == key x then x else e
      else known ++ [x]).map key).Nodup := by
  rw [map_key_upsert]
  split
  · exact h
  · rename_i hx
    exact List.nodup_append.mpr ⟨h, List.nodup_singleton _, by
      intro a ha b hb hab
      rw [List.mem_singleton.mp hb] at hab
      exact hx (hab ▸ ha)⟩

omit [LawfulBEq β] in
/-- Entering an element commutes with a map that keeps the keys. -/
theorem map_upsert {γ : Type} {f : α → γ} (key : α → β) (key' : γ → β)
    (hkey : ∀ a, key' (f a) = key a) (x : α) (known : List α) :
    (if known.any (key · == key x) then known.map fun e => if key e == key x then x else e
      else known ++ [x]).map f =
    if (known.map f).any (key' · == key' (f x)) then
      (known.map f).map fun e => if key' e == key' (f x) then f x else e
    else known.map f ++ [f x] := by
  have hany : (known.map f).any (key' · == key' (f x)) = known.any (key · == key x) := by
    rw [List.any_map]
    refine congrArg known.any ?_
    funext e
    exact congrArg₂ (· == ·) (hkey e) (hkey x)
  rw [hany]
  split
  · rw [List.map_map, List.map_map]
    refine List.map_congr_left fun e _ => ?_
    simp only [Function.comp_apply, hkey]
    split <;> rfl
  · rw [List.map_append, List.map_singleton]

/-- Where keys are distinct, an element is all that its key picks. -/
theorem filter_key_eq_singleton (key : α → β) {known : List α} (h : (known.map key).Nodup)
    {x : α} (hx : x ∈ known) : known.filter (key · == key x) = [x] := by
  induction known with
  | nil => cases hx
  | cons e rest ih =>
      obtain ⟨he, hrest⟩ := List.nodup_cons.mp h
      rcases List.mem_cons.mp hx with rfl | hx
      · have hnone : rest.filter (key · == key x) = [] := by
          refine List.filter_eq_nil_iff.mpr fun y hy hk => ?_
          exact he (List.mem_map.mpr ⟨y, hy, by simpa using hk⟩)
        rw [List.filter_cons_of_pos (by simp), hnone]
      · have hne : ¬ (key e == key x) = true := by
          intro hk
          rw [eq_of_beq hk] at he
          exact he (List.mem_map.mpr ⟨x, hx, rfl⟩)
        simp only [List.filter_cons, if_neg hne, ih hrest hx]

theorem lookup_eq_none {l : List (β × α)} {k : β} : l.lookup k = none ↔ k ∉ l.map Prod.fst := by
  rw [List.lookup_eq_none_iff, List.mem_map]
  constructor
  · rintro h ⟨entry, hentry, rfl⟩
    simpa using h entry hentry
  · intro h entry hentry
    exact bne_iff_ne.mpr fun heq => h ⟨entry, hentry, heq.symm⟩

omit [LawfulBEq β] in
/-- Values that are changed one by one are found changed. -/
theorem lookup_map {γ : Type} (f : α → γ) (l : List (β × α)) (k : β) :
    (l.map fun entry => (entry.1, f entry.2)).lookup k = (l.lookup k).map f := by
  induction l with
  | nil => rfl
  | cons entry rest ih =>
      rw [List.map_cons, List.lookup_cons, List.lookup_cons, ih]
      split <;> rfl

theorem mem_of_lookup {l : List (β × α)} {k : β} {a : α} (h : l.lookup k = some a) :
    (k, a) ∈ l := by
  obtain ⟨front, back, rfl, -⟩ := List.lookup_eq_some_iff.mp h
  exact List.mem_append_right _ List.mem_cons_self

/-- Where keys are distinct, a key finds what is under it. -/
theorem lookup_of_nodup {l : List (β × α)} (h : (l.map Prod.fst).Nodup) {entry : β × α}
    (hentry : entry ∈ l) : l.lookup entry.1 = some entry.2 := by
  obtain ⟨front, back, rfl⟩ := List.append_of_mem hentry
  refine List.lookup_eq_some_iff.mpr ⟨front, back, rfl, fun other hother => ?_⟩
  rw [List.map_append] at h
  have hne := (List.nodup_append.mp h).2.2 other.1 (List.mem_map_of_mem hother) entry.1 (by simp)
  exact bne_iff_ne.mpr (Ne.symm hne)

/-- What is under one key does not matter to a look-up of another one. -/
theorem lookup_filter_of_ne {l : List (β × α)} {k other : β} (h : other ≠ k) :
    (l.filter (·.1 != k)).lookup other = l.lookup other := by
  induction l with
  | nil => rfl
  | cons entry rest ih =>
      obtain ⟨key, v⟩ := entry
      by_cases hk : key = k
      · have hother : (other == key) = false := beq_eq_false_iff_ne.mpr (hk ▸ h)
        rw [List.filter_cons_of_neg (by simpa using hk), List.lookup_cons, hother]
        exact ih
      · rw [List.filter_cons_of_pos (by simpa using hk), List.lookup_cons, List.lookup_cons, ih]

/-- Replacing what is under one key does not matter to a look-up of another one. -/
theorem lookup_map_replace_of_ne {l : List (β × α)} {k other : β} {a : α} (h : other ≠ k) :
    (l.map fun entry => if entry.1 == k then (k, a) else entry).lookup other = l.lookup other := by
  induction l with
  | nil => rfl
  | cons entry rest ih =>
      obtain ⟨key, v⟩ := entry
      by_cases hkey : key = k
      · have hother : (other == k) = false := beq_eq_false_iff_ne.mpr h
        simp only [List.map_cons, hkey, beq_self_eq_true, if_true, List.lookup_cons, hother, ih]
      · have hne : (key == k) = false := beq_eq_false_iff_ne.mpr hkey
        simp only [List.map_cons, hne, Bool.false_eq_true, if_false, List.lookup_cons, ih]

theorem lookup_map_replace_self {l : List (β × α)} {k : β} {a : α}
    (h : l.any (·.1 == k) = true) :
    (l.map fun entry => if entry.1 == k then (k, a) else entry).lookup k = some a := by
  induction l with
  | nil => cases h
  | cons entry rest ih =>
      obtain ⟨key, v⟩ := entry
      by_cases hkey : key = k
      · simp [hkey]
      · have hne : (key == k) = false := beq_eq_false_iff_ne.mpr hkey
        have hother : (k == key) = false := beq_eq_false_iff_ne.mpr (Ne.symm hkey)
        rw [List.any_cons, hne, Bool.false_or] at h
        simp only [List.map_cons, hne, Bool.false_eq_true, if_false, List.lookup_cons, hother, ih h]

/-- What a key finds after something is entered under a key, in the place of what was there or at
the end. -/
theorem lookup_upsert (l : List (β × α)) (k : β) (a : α) (other : β) :
    (if l.any (·.1 == k) then l.map fun entry => if entry.1 == k then (k, a) else entry
      else l ++ [(k, a)]).lookup other = if other == k then some a else l.lookup other := by
  by_cases hany : l.any (·.1 == k) = true
  · rw [if_pos hany]
    by_cases hkey : other = k
    · rw [hkey, lookup_map_replace_self hany, if_pos (beq_self_eq_true k)]
    · rw [lookup_map_replace_of_ne hkey, if_neg (mt eq_of_beq hkey)]
  · rw [if_neg hany, List.lookup_append]
    by_cases hkey : other = k
    · subst hkey
      have hnone : l.lookup other = none := by
        rw [lookup_eq_none]
        intro hmem
        obtain ⟨entry, hentry, rfl⟩ := List.mem_map.mp hmem
        exact hany (List.any_eq_true.mpr ⟨entry, hentry, beq_self_eq_true _⟩)
      simp [hnone]
    · have hother : (other == k) = false := beq_eq_false_iff_ne.mpr hkey
      simp [hother, List.lookup_cons]

end Keys

theorem nodup_map_filter {α β : Type} (key : α → β) (p : α → Bool) {known : List α}
    (h : (known.map key).Nodup) : ((known.filter p).map key).Nodup :=
  h.sublist (List.filter_sublist.map key)

/-- Elements that keep their keys when they are made into others, or are passed over, leave their
keys in order. -/
theorem map_filterMap_sublist {α β γ : Type} {f : α → Option β} {key : α → γ} {key' : β → γ}
    (hkey : ∀ a b, f a = some b → key' b = key a) (l : List α) :
    ((l.filterMap f).map key').Sublist (l.map key) := by
  induction l with
  | nil => exact List.Sublist.slnil
  | cons a rest ih =>
      cases ha : f a with
      | none =>
          rw [List.filterMap_cons_none ha]
          exact ih.cons _
      | some b =>
          rw [List.filterMap_cons_some ha, List.map_cons, List.map_cons, hkey a b ha]
          exact ih.cons_cons _

/-- A fold that keeps a property of its state keeps it to the end. -/
theorem foldl_invariant_of_mem {α σ : Type} {step : σ → α → σ} (P : σ → Prop) {l : List α}
    (hstep : ∀ s, ∀ a ∈ l, P s → P (step s a)) {s : σ} (h : P s) : P (l.foldl step s) := by
  induction l generalizing s with
  | nil => exact h
  | cons a rest ih =>
      have hfirst : P (step s a) := hstep s a List.mem_cons_self h
      exact ih (fun s b hb => hstep s b (List.mem_cons_of_mem a hb)) hfirst

theorem foldl_invariant {α σ : Type} {step : σ → α → σ} (P : σ → Prop)
    (hstep : ∀ s a, P s → P (step s a)) (l : List α) {s : σ} (h : P s) : P (l.foldl step s) :=
  foldl_invariant_of_mem P (fun s a _ => hstep s a) h

/-- A fold that adds one entry at each step leaves an entry for each element of the list. -/
theorem foldl_concat {α β σ : Type} {step : σ → α → σ} {f : σ → List β} {g : α → β}
    (h : ∀ s a, f (step s a) = f s ++ [g a]) (l : List α) (s : σ) :
    f (l.foldl step s) = f s ++ l.map g := by
  induction l generalizing s with
  | nil => simp
  | cons a rest ih => rw [List.foldl_cons, ih, h, List.append_assoc, List.map_cons,
      List.singleton_append]

/-! ## Lists side by side -/

section Pointwise

variable {α β γ : Type} {R : α → β → Prop}

theorem optionRel_refl {R : α → α → Prop} (h : ∀ a, R a a) (x : Option α) : Option.Rel R x x := by
  cases x with
  | none => exact .none
  | some a => exact .some (h a)

theorem isSome_of_optionRel {x : Option α} {y : Option β} (h : Option.Rel R x y) :
    y.isSome = x.isSome := by
  cases h <;> rfl

theorem any_of_forall₂ {p : α → Bool} {q : β → Bool} (hpq : ∀ a b, R a b → q b = p a) {l : List α}
    {l' : List β} (h : List.Forall₂ R l l') : l'.any q = l.any p := by
  induction h with
  | nil => rfl
  | cons hab _ ih => rw [List.any_cons, List.any_cons, hpq _ _ hab, ih]

theorem filterMap_eq_of_forall₂ {f : α → Option γ} {g : β → Option γ}
    (hfg : ∀ a b, R a b → g b = f a) {l : List α} {l' : List β} (h : List.Forall₂ R l l') :
    l'.filterMap g = l.filterMap f := by
  induction h with
  | nil => rfl
  | cons hab _ ih => rw [List.filterMap_cons, List.filterMap_cons, hfg _ _ hab, ih]

theorem find?_of_forall₂ {p : α → Bool} {q : β → Bool} (hpq : ∀ a b, R a b → q b = p a)
    {l : List α} {l' : List β} (h : List.Forall₂ R l l') : Option.Rel R (l.find? p) (l'.find? q) := by
  induction h with
  | nil => exact .none
  | @cons a b _ _ hab _ ih =>
      rw [List.find?_cons, List.find?_cons, hpq a b hab]
      cases p a with
      | true => exact .some hab
      | false => exact ih

theorem forall₂_filterMap {R : β → γ → Prop} {f : α → Option β} {g : α → Option γ}
    (h : ∀ a, Option.Rel R (f a) (g a)) (l : List α) :
    List.Forall₂ R (l.filterMap f) (l.filterMap g) := by
  apply List.rel_filterMap _ (List.forall₂_same.mpr fun a _ => (rfl : a = a))
  rintro a _ rfl
  exact h a

/-- Elements that are related are entered in related lists in the same places. -/
theorem forall₂_upsert {κ : Type} [BEq κ] (key : α → κ) (key' : β → κ)
    (hkey : ∀ a b, R a b → key' b = key a) {known : List α} {known' : List β}
    (h : List.Forall₂ R known known') {x : α} {y : β} (hxy : R x y) :
    List.Forall₂ R
      (if known.any (key · == key x) then known.map fun e => if key e == key x then x else e
        else known ++ [x])
      (if known'.any (key' · == key' y) then known'.map fun e => if key' e == key' y then y else e
        else known' ++ [y]) := by
  have hsame : ∀ a b, R a b → (key' b == key' y) = (key a == key x) := by
    intro a b hab
    rw [hkey a b hab, hkey x y hxy]
  rw [any_of_forall₂ hsame h]
  split
  · apply List.rel_map _ h
    intro a b hab
    dsimp only
    rw [hsame a b hab]
    split
    · exact hxy
    · exact hab
  · exact List.rel_append h (.cons hxy .nil)

theorem forall₂_ite (c : Bool) {l k : List α} {l' k' : List β} (h : List.Forall₂ R l l')
    (hk : List.Forall₂ R k k') : List.Forall₂ R (if c then l else k) (if c then l' else k') := by
  split
  · exact h
  · exact hk

theorem map_eq_of_forall₂ {f : α → γ} {g : β → γ} (hfg : ∀ a b, R a b → g b = f a) {l : List α}
    {l' : List β} (h : List.Forall₂ R l l') : l'.map g = l.map f := by
  induction h with
  | nil => rfl
  | cons hab _ ih => rw [List.map_cons, List.map_cons, hfg _ _ hab, ih]

theorem map_eq_of_optionRel {f : α → γ} {g : β → γ} (hfg : ∀ a b, R a b → g b = f a)
    {x : Option α} {y : Option β} (h : Option.Rel R x y) : y.map g = x.map f := by
  cases h with
  | none => rfl
  | some hab => rw [Option.map_some, Option.map_some, hfg _ _ hab]

/-- Whether two things have one name and are related. -/
def Named (R : α → β → Prop) (a : String × α) (b : String × β) : Prop := b.1 = a.1 ∧ R a.2 b.2

theorem forall₂_enter {known : List (String × α)} {known' : List (String × β)}
    (h : List.Forall₂ (Named R) known known') (name : String) {a : α} {b : β} (hab : R a b) :
    List.Forall₂ (Named R)
      (if known.any (·.1 == name) then known.map fun e => if e.1 == name then (name, a) else e
        else known ++ [(name, a)])
      (if known'.any (·.1 == name) then known'.map fun e => if e.1 == name then (name, b) else e
        else known' ++ [(name, b)]) :=
  have hentered : Named R (name, a) (name, b) := ⟨rfl, hab⟩
  forall₂_upsert Prod.fst Prod.fst (fun _ _ hnamed => hnamed.1) h hentered

theorem forall₂_filter_name {known : List (String × α)} {known' : List (String × β)}
    (h : List.Forall₂ (Named R) known known') (p : String → Bool) :
    List.Forall₂ (Named R) (known.filter fun e => p e.1) (known'.filter fun e => p e.1) := by
  apply List.rel_filter _ h
  intro a b hab
  dsimp only
  rw [hab.1]

end Pointwise

end Memberwise
