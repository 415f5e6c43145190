import Mathlib.Data.List.Forall2

/-! # Computations that may fail

What it means for a chain, a fold or a list of computations to come to an end without a fault.
-/

namespace Memberwise

theorem bind_eq_ok {ε α β : Type} {x : Except ε α} {f : α → Except ε β} {r : β} :
    x >>= f = .ok r ↔ ∃ a, x = .ok a ∧ f a = .ok r := by
  cases x <;> simp [bind, Except.bind]

theorem bind_eq_error {ε α β : Type} {x : Except ε α} {f : α → Except ε β} {e : ε} :
    x >>= f = .error e ↔ x = .error e ∨ ∃ a, x = .ok a ∧ f a = .error e := by
  cases x <;> simp [bind, Except.bind]

theorem map_eq_error {ε α β : Type} {x : Except ε α} {f : α → β} {e : ε} :
    x.map f = .error e ↔ x = .error e := by
  cases x <;> simp [Except.map]

theorem map_eq_ok {ε α β : Type} {x : Except ε α} {f : α → β} {r : β} :
    x.map f = .ok r ↔ ∃ a, x = .ok a ∧ f a = r := by
  cases x <;> simp [Except.map]

theorem toOption_eq_some {ε α : Type} {x : Except ε α} {a : α} :
    x.toOption = some a ↔ x = .ok a := by
  cases x <;> simp [Except.toOption]

/-- A fold that keeps a property of its state keeps it to the end, if it comes to one. -/
theorem foldlM_invariant {ε α σ : Type} {step : σ → α → Except ε σ} (P : σ → Prop)
    (hstep : ∀ s a s', step s a = .ok s' → P s → P s') {l : List α} {s r : σ}
    (h : l.foldlM step s = .ok r) (hs : P s) : P r := by
  induction l generalizing s with
  | nil =>
      cases h
      exact hs
  | cons a rest ih =>
      rw [List.foldlM_cons] at h
      cases ha : step s a with
      | error e =>
          rw [ha] at h
          cases h
      | ok s' =>
          rw [ha] at h
          exact ih h (hstep s a s' ha hs)

theorem foldlM_isOk {ε α σ : Type} {step : σ → α → Except ε σ} {l : List α} {s : σ}
    (h : ∀ s, ∀ a ∈ l, ∃ s', step s a = .ok s') : ∃ r, l.foldlM step s = .ok r := by
  induction l generalizing s with
  | nil => exact ⟨s, rfl⟩
  | cons a rest ih =>
      obtain ⟨s', hs⟩ := h s a List.mem_cons_self
      rw [List.foldlM_cons, hs]
      exact ih fun s b hb => h s b (List.mem_cons_of_mem a hb)

/-- A fold comes to an end through a step for every element. -/
theorem exists_step_of_foldlM_eq_ok {ε α σ : Type} {step : σ → α → Except ε σ} {l : List α}
    {s r : σ} (h : l.foldlM step s = .ok r) {a : α} (ha : a ∈ l) :
    ∃ s' s'', step s' a = .ok s'' := by
  induction l generalizing s with
  | nil => cases ha
  | cons first rest ih =>
      rw [List.foldlM_cons] at h
      obtain ⟨next, hnext, hrest⟩ := bind_eq_ok.mp h
      rcases List.mem_cons.mp ha with rfl | ha
      · exact ⟨s, next, hnext⟩
      · exact ih hrest ha

/-- A fold that fails does so at one of its steps. -/
theorem exists_of_foldlM_eq_error {ε α σ : Type} {step : σ → α → Except ε σ} {l : List α} {s : σ}
    {e : ε} (h : l.foldlM step s = .error e) : ∃ s', ∃ a ∈ l, step s' a = .error e := by
  induction l generalizing s with
  | nil => cases h
  | cons a rest ih =>
      rw [List.foldlM_cons] at h
      rcases bind_eq_error.mp h with hfirst | ⟨s', -, hrest⟩
      · exact ⟨s, a, List.mem_cons_self, hfirst⟩
      · obtain ⟨s'', b, hb, hfails⟩ := ih hrest
        exact ⟨s'', b, List.mem_cons_of_mem a hb, hfails⟩

theorem mapM_eq_ok_iff {ε α β : Type} {f : α → Except ε β} {l : List α} {r : List β} :
    l.mapM f = .ok r ↔ List.Forall₂ (fun a b => f a = .ok b) l r := by
  induction l generalizing r with
  | nil => cases r <;> simp [pure, Except.pure]
  | cons a rest ih =>
      rw [List.mapM_cons]
      cases hf : f a with
      | error e => simp [bind, Except.bind, hf, List.forall₂_cons_left_iff]
      | ok b =>
          cases hl : rest.mapM f with
          | error e =>
              have hn : ∀ r', ¬ List.Forall₂ (fun a b => f a = .ok b) rest r' := by
                intro r' h
                rw [← ih, hl] at h
                cases h
              simp [bind, Except.bind, List.forall₂_cons_left_iff, hf, hn]
          | ok bs =>
              simp [bind, Except.bind, pure, Except.pure, List.forall₂_cons_left_iff, hf, ← ih,
                hl, eq_comm]

theorem exists_of_mem_mapM {ε α β : Type} {f : α → Except ε β} {l : List α} {r : List β}
    (h : l.mapM f = .ok r) {b : β} (hb : b ∈ r) : ∃ a ∈ l, f a = .ok b := by
  have hall := mapM_eq_ok_iff.mp h
  clear h
  induction hall with
  | nil => cases hb
  | @cons a b' rest others hfirst _ ih =>
      rcases List.mem_cons.mp hb with rfl | hb
      · exact ⟨a, List.mem_cons_self, hfirst⟩
      · obtain ⟨x, hx, hfx⟩ := ih hb
        exact ⟨x, List.mem_cons_of_mem a hx, hfx⟩

theorem isOk_of_mem_mapM {ε α β : Type} {f : α → Except ε β} {l : List α} {r : List β}
    (h : l.mapM f = .ok r) {a : α} (ha : a ∈ l) : ∃ b, f a = .ok b := by
  have hall := mapM_eq_ok_iff.mp h
  clear h
  induction hall with
  | nil => cases ha
  | @cons a' b rest others hfirst _ ih =>
      rcases List.mem_cons.mp ha with rfl | ha
      · exact ⟨b, hfirst⟩
      · exact ih ha

theorem exists_of_mapM_eq_error {ε α β : Type} {f : α → Except ε β} {l : List α} {e : ε}
    (h : l.mapM f = .error e) : ∃ a ∈ l, f a = .error e := by
  induction l with
  | nil => cases h
  | cons a rest ih =>
      rw [List.mapM_cons] at h
      rcases bind_eq_error.mp h with hfirst | ⟨b, -, hrest⟩
      · exact ⟨a, List.mem_cons_self, hfirst⟩
      · rcases bind_eq_error.mp hrest with hrest | ⟨bs, -, hdone⟩
        · obtain ⟨x, hx, hfails⟩ := ih hrest
          exact ⟨x, List.mem_cons_of_mem a hx, hfails⟩
        · cases hdone

theorem mapM_isOk {ε α β : Type} {f : α → Except ε β} {l : List α}
    (h : ∀ a ∈ l, ∃ b, f a = .ok b) : ∃ r, l.mapM f = .ok r := by
  induction l with
  | nil => exact ⟨[], rfl⟩
  | cons a rest ih =>
      obtain ⟨b, hb⟩ := h a List.mem_cons_self
      obtain ⟨bs, hbs⟩ := ih fun a ha => h a (List.mem_cons_of_mem _ ha)
      exact ⟨b :: bs, mapM_eq_ok_iff.mpr (.cons hb (mapM_eq_ok_iff.mp hbs))⟩

theorem mapM_eq_some_iff {α β : Type} {f : α → Option β} {l : List α} {r : List β} :
    l.mapM f = some r ↔ List.Forall₂ (fun a b => f a = some b) l r := by
  induction l generalizing r with
  | nil => cases r <;> simp
  | cons a rest ih =>
      rw [List.mapM_cons]
      cases hf : f a with
      | none => simp [hf, List.forall₂_cons_left_iff]
      | some b =>
          cases hl : rest.mapM f with
          | none =>
              have hn : ∀ r', ¬ List.Forall₂ (fun a b => f a = some b) rest r' := by
                intro r' h
                rw [← ih, hl] at h
                cases h
              simp [List.forall₂_cons_left_iff, hf, hn]
          | some bs =>
              simp [List.forall₂_cons_left_iff, hf, ← ih, hl, eq_comm]

/-! ## Two computations side by side -/

/-- Computations that may fail go together if what follows on their results does. -/
theorem bind_map_comm {α β γ δ : Type} {x : Option α} {m : α → β} {n : γ → δ}
    {f : α → Option γ} {f' : β → Option δ} (hf : ∀ a, f' (m a) = (f a).map n) :
    (x.map m >>= f') = (x >>= f).map n := by
  cases x with
  | none => rfl
  | some a => exact hf a

theorem foldlM_map_comm {α β σ τ : Type} {m : σ → τ} {g : α → β} {step : σ → α → Option σ}
    {step' : τ → β → Option τ} (hstep : ∀ s a, step' (m s) (g a) = (step s a).map m) (s : σ)
    (l : List α) : (l.map g).foldlM step' (m s) = (l.foldlM step s).map m := by
  induction l generalizing s with
  | nil => rfl
  | cons a rest ih =>
      rw [List.map_cons, List.foldlM_cons, List.foldlM_cons, hstep]
      exact bind_map_comm ih

/-- Whether two computations fail with the same fault or end in results that are related. -/
inductive Agree {ε α β : Type} (R : α → β → Prop) : Except ε α → Except ε β → Prop
  | ok {a : α} {b : β} (h : R a b) : Agree R (.ok a) (.ok b)
  | error (e : ε) : Agree R (.error e) (.error e)

section Agree

variable {ε α β γ δ : Type} {R : α → β → Prop} {S : γ → δ → Prop} {x : Except ε α} {y : Except ε β}

theorem Agree.bind {f : α → Except ε γ} {g : β → Except ε δ} (h : Agree R x y)
    (hfg : ∀ a b, R a b → Agree S (f a) (g b)) : Agree S (x >>= f) (y >>= g) := by
  cases h with
  | ok h => exact hfg _ _ h
  | error e => exact .error e

theorem Agree.map {f : α → γ} {g : β → δ} (h : Agree R x y) (hfg : ∀ a b, R a b → S (f a) (g b)) :
    Agree S (x.map f) (y.map g) := by
  cases h with
  | ok h => exact .ok (hfg _ _ h)
  | error e => exact .error e

theorem Agree.mono {R' : α → β → Prop} (h : Agree R x y) (hR : ∀ a b, R a b → R' a b) :
    Agree R' x y := by
  cases h with
  | ok h => exact .ok (hR _ _ h)
  | error e => exact .error e

theorem Agree.exists_of_ok (h : Agree R x y) {a : α} (hx : x = .ok a) : ∃ b, R a b := by
  subst hx
  cases h with
  | ok h => exact ⟨_, h⟩

/-- Computations that agree also agree on what is known of their results. -/
theorem Agree.with {P : α → Prop} {Q : β → Prop} (h : Agree R x y) (hP : ∀ a, x = .ok a → P a)
    (hQ : ∀ b, y = .ok b → Q b) : Agree (fun a b => R a b ∧ P a ∧ Q b) x y := by
  cases h with
  | ok h => exact .ok ⟨h, hP _ rfl, hQ _ rfl⟩
  | error e => exact .error e

/-- Computations agree on what they have in common once both are mapped. -/
theorem Agree.of_map_eq {f : α → γ} {g : β → γ} (h : x.map f = y.map g) :
    Agree (fun a b => f a = g b) x y := by
  cases x with
  | ok a =>
      cases y with
      | ok b => exact .ok (Except.ok.inj h)
      | error e => cases h
  | error e =>
      cases y with
      | ok b => cases h
      | error e' =>
          cases h
          exact .error e

theorem Agree.refl {T : γ → γ → Prop} (hT : ∀ a, T a a) : (x : Except ε γ) → Agree T x x
  | .ok a => .ok (hT a)
  | .error e => .error e

/-- Folds over related lists agree if their steps do, from related states to related states. -/
theorem Agree.foldlM_forall₂ {T : γ → δ → Prop} {step : α → γ → Except ε α}
    {step' : β → δ → Except ε β}
    (hstep : ∀ a b, R a b → ∀ c d, T c d → Agree R (step a c) (step' b d)) {l : List γ}
    {l' : List δ} (hl : List.Forall₂ T l l') {a : α} {b : β} (h : R a b) :
    Agree R (l.foldlM step a) (l'.foldlM step' b) := by
  induction hl generalizing a b with
  | nil => exact .ok h
  | cons hcd _ ih =>
      rw [List.foldlM_cons, List.foldlM_cons]
      exact (hstep a b h _ _ hcd).bind fun a b hab => ih hab

theorem Agree.foldlM {step : α → γ → Except ε α} {step' : β → γ → Except ε β}
    (hstep : ∀ a b, R a b → ∀ e, Agree R (step a e) (step' b e)) (l : List γ) {a : α} {b : β}
    (h : R a b) : Agree R (l.foldlM step a) (l.foldlM step' b) := by
  refine foldlM_forall₂ (T := Eq) ?_ (List.forall₂_same.mpr fun _ _ => rfl) h
  rintro a b hab e _ rfl
  exact hstep a b hab e

/-- What is computed of the elements of related lists agrees if it does for related elements. -/
theorem Agree.mapM {T : γ → δ → Prop} {f : γ → Except ε α} {g : δ → Except ε β}
    (hfg : ∀ c d, T c d → Agree R (f c) (g d)) {l : List γ} {l' : List δ}
    (hl : List.Forall₂ T l l') : Agree (List.Forall₂ R) (l.mapM f) (l'.mapM g) := by
  induction hl with
  | nil => exact .ok .nil
  | cons hcd _ ih =>
      rw [List.mapM_cons, List.mapM_cons]
      apply (hfg _ _ hcd).bind
      intro a b hab
      apply ih.bind
      intro as bs hrest
      exact .ok (.cons hab hrest)

end Agree

end Memberwise
