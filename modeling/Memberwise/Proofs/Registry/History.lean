import Mathlib.Data.List.Induction
import Mathlib.Data.Set.Card
import Memberwise.Proofs.Plan.Interference

/-! # What a registry holds

Whatever was asked of a registry, it holds one rule for each key that was accepted, with the
function of the last call for it.  A call that is rejected leaves no trace.
-/

namespace Memberwise

/-- Keys of the same types count as one. -/
instance RuleKey.setoid : Setoid RuleKey where
  r a b := a.same b = true
  iseqv := {
    refl := fun _ => RuleKey.same_iff.mpr ⟨TypeExpr.same_refl _, TypeExpr.same_refl _⟩
    symm := RuleKey.same_symm
    trans := RuleKey.same_trans }

/-- A call that offers a function for a pair of types. -/
structure Registration where
  source : TypeExpr
  target : TypeExpr
  function : Converter

namespace Registration

def key (classes : Classes) (call : Registration) : RuleKey := .of classes call.source call.target

/-- Whether a call is accepted: its function can be called, and its key can be looked up. -/
def isAccepted (classes : Classes) (call : Registration) : Bool :=
  call.function.isCallable classes && (call.key classes).isUsable classes

/-- Whether a call is accepted for a key. -/
def isAcceptedFor (classes : Classes) (k : RuleKey) (call : Registration) : Bool :=
  call.isAccepted classes && (call.key classes).same k

end Registration

namespace Registry

/-! ## Keys -/

section Keys

variable {F : Type}

/-- The keys of a registry, those of the same types being one. -/
def keys (r : Registry F) : List (Quotient RuleKey.setoid) :=
  r.rules.map fun rule => ⟦rule.1⟧

variable {r : Registry F} {k : RuleKey}

theorem mem_keys : ⟦k⟧ ∈ r.keys ↔ (r.rules.any fun rule => rule.1.same k) = true := by
  unfold keys
  rw [List.mem_map, List.any_eq_true]
  exact exists_congr fun rule => and_congr_right fun _ => Quotient.eq

theorem contains_eq_isSome (classes : Classes) (S T : TypeExpr) :
    r.contains classes S T = (r.lookup classes S T).isSome := by
  unfold contains lookup find?
  rw [Option.isSome_map, List.isSome_find?]

/-- A rule is put in the place of the one with its key, or at the end. -/
theorem keys_insert (f : F) :
    (r.insert k f).keys = r.keys ∧ ⟦k⟧ ∈ r.keys ∨
      (r.insert k f).keys = r.keys ++ [⟦k⟧] ∧ ⟦k⟧ ∉ r.keys := by
  rw [mem_keys]
  unfold insert
  split
  · rename_i hany
    refine .inl ⟨?_, hany⟩
    unfold keys
    rw [List.map_map]
    refine List.map_congr_left fun rule _ => ?_
    simp only [Function.comp_apply]
    split <;> rfl
  · rename_i hany
    refine .inr ⟨?_, hany⟩
    unfold keys
    rw [List.map_append, List.map_singleton]

end Keys

variable {classes : Classes}

/-! ## One call -/

/-- The registry after a call, which leaves it as it is where it is rejected. -/
def afterCall (classes : Classes) (r : Registry Converter) (call : Registration) :
    Registry Converter :=
  match r.registerConverter classes call.source call.target call.function with
  | .ok r' => r'
  | .error _ => r

/-- No registry accepts what another one rejects. -/
theorem registerConverter_isOk_iff {r : Registry Converter} {call : Registration} :
    (∃ r', r.registerConverter classes call.source call.target call.function = .ok r') ↔
      call.isAccepted classes = true := by
  unfold Registration.isAccepted Registration.key registerConverter
  cases hcall : call.function.isCallable classes with
  | false => simp
  | true =>
      cases husable : (RuleKey.of classes call.source call.target).isUsable classes with
      | false => simp
      | true => simp

theorem afterCall_of_isAccepted (r : Registry Converter) {call : Registration}
    (h : call.isAccepted classes = true) :
    afterCall classes r call = r.insert (call.key classes) call.function := by
  obtain ⟨r', hr'⟩ := registerConverter_isOk_iff.mpr h
  unfold afterCall
  rw [hr', registerConverter_eq_ok hr']
  rfl

theorem afterCall_of_not_isAccepted (r : Registry Converter) {call : Registration}
    (h : call.isAccepted classes = false) : afterCall classes r call = r := by
  unfold afterCall
  split
  · rename_i r' hr'
    rw [registerConverter_isOk_iff.mp ⟨r', hr'⟩] at h
    cases h
  · rfl

/-! ## Any number of calls -/

/-- The registry that calls lead to from one without rules. -/
def afterCalls (classes : Classes) (calls : List Registration) : Registry Converter :=
  calls.foldl (afterCall classes) .empty

/-- The last accepted call for a key. -/
def lastFor? (classes : Classes) (calls : List Registration) (k : RuleKey) : Option Registration :=
  calls.reverse.find? (Registration.isAcceptedFor classes k)

/-- The keys of the accepted calls, those of the same types being one. -/
def acceptedKeys (classes : Classes) (calls : List Registration) :
    Set (Quotient RuleKey.setoid) :=
  {q | ∃ call ∈ calls, call.isAccepted classes = true ∧ ⟦call.key classes⟧ = q}

theorem isAccepted_of_lastFor? {calls : List Registration} {k : RuleKey} {call : Registration}
    (h : lastFor? classes calls k = some call) : call.isAccepted classes = true := by
  have hcall : call.isAcceptedFor classes k = true := List.find?_some h
  exact (Bool.and_eq_true_iff.mp hcall).1

variable (calls : List Registration)

theorem afterCalls_concat (call : Registration) :
    afterCalls classes (calls ++ [call]) = afterCall classes (afterCalls classes calls) call := by
  unfold afterCalls
  rw [List.foldl_append]
  rfl

theorem lastFor?_concat (call : Registration) (k : RuleKey) :
    lastFor? classes (calls ++ [call]) k =
      if call.isAcceptedFor classes k = true then some call else lastFor? classes calls k := by
  unfold lastFor?
  rw [List.reverse_append, List.reverse_singleton, List.singleton_append, List.find?_cons]
  cases call.isAcceptedFor classes k <;> rfl

/-- Under a key there is the function of the last accepted call for it. -/
theorem find?_afterCalls (k : RuleKey) :
    (afterCalls classes calls).find? k = (lastFor? classes calls k).map (·.function) := by
  induction calls using List.reverseRecOn with
  | nil => rfl
  | append_singleton before call ih =>
      rw [afterCalls_concat, lastFor?_concat, Registration.isAcceptedFor]
      cases haccepted : call.isAccepted classes with
      | false =>
          rw [afterCall_of_not_isAccepted _ haccepted, ih]
          simp
      | true =>
          rw [afterCall_of_isAccepted _ haccepted, find?_insert, ih, Bool.true_and]
          split <;> rfl

/-- There is one rule for each key that was accepted. -/
theorem keys_afterCalls :
    (afterCalls classes calls).keys.Nodup ∧
      ∀ q, q ∈ (afterCalls classes calls).keys ↔ q ∈ acceptedKeys classes calls := by
  induction calls using List.reverseRecOn with
  | nil => simp [afterCalls, keys, empty, acceptedKeys]
  | append_singleton before call ih =>
      obtain ⟨hnodup, hmem⟩ := ih
      have hkeys : ∀ q, q ∈ acceptedKeys classes (before ++ [call]) ↔
          q ∈ acceptedKeys classes before ∨
            call.isAccepted classes = true ∧ ⟦call.key classes⟧ = q := by
        intro q
        simp [acceptedKeys, or_and_right, exists_or]
      rw [afterCalls_concat]
      cases haccepted : call.isAccepted classes with
      | false =>
          rw [afterCall_of_not_isAccepted _ haccepted]
          refine ⟨hnodup, fun q => ?_⟩
          rw [hkeys, hmem, haccepted]
          simp
      | true =>
          rw [afterCall_of_isAccepted _ haccepted]
          rcases keys_insert (r := afterCalls classes before) (k := call.key classes) call.function
            with ⟨hinsert, hold⟩ | ⟨hinsert, hnew⟩
          · rw [hinsert]
            refine ⟨hnodup, fun q => ?_⟩
            rw [hkeys, ← hmem]
            constructor
            · exact .inl
            · rintro (h | ⟨-, rfl⟩)
              · exact h
              · exact hold
          · rw [hinsert]
            refine ⟨List.nodup_append.mpr ⟨hnodup, List.nodup_singleton _, ?_⟩, fun q => ?_⟩
            · rintro a ha b hb rfl
              rw [List.mem_singleton.mp hb] at ha
              exact hnew ha
            · rw [hkeys, ← hmem, List.mem_append, List.mem_singleton, haccepted]
              simp [eq_comm]

theorem ncard_of_nodup {α : Type} {l : List α} {s : Set α} (h : l.Nodup)
    (hs : ∀ a, a ∈ l ↔ a ∈ s) : s.ncard = l.length := by
  classical
  have heq : s = (l.toFinset : Set α) := by
    ext a
    rw [List.coe_toFinset]
    exact (hs a).symm
  rw [heq, Set.ncard_coe_finset, List.toFinset_card_of_nodup h]

theorem size_afterCalls :
    (afterCalls classes calls).size = (acceptedKeys classes calls).ncard := by
  have hcount : (acceptedKeys classes calls).ncard = (afterCalls classes calls).keys.length :=
    ncard_of_nodup (keys_afterCalls calls).1 (keys_afterCalls calls).2
  rw [hcount]
  exact (List.length_map _).symm

/-- What cannot be called is not accepted, and so the absent value is not. -/
theorem function_ne_none {call : Registration} (h : call.isAccepted classes = true) :
    call.function ≠ .value (.atom .none) := by
  intro hnone
  rw [Registration.isAccepted, hnone, Bool.and_eq_true] at h
  cases h.1

/-- After any calls, the function for a pair of types is that of the last accepted call with the
same key, or there is none, and there is a rule just if there is a function.  This is told for every
pair with a usable key and refused for every other.  The rules are as many as the keys accepted, and
whether a call is accepted does not depend on the registry. -/
theorem afterCalls_lookup (S T : TypeExpr) :
    (afterCalls classes calls).ruleFor classes S T =
      (if (RuleKey.of classes S T).isUsable classes = true then
        .ok ((lastFor? classes calls (.of classes S T)).map (·.function))
      else .error .typeMismatch) ∧
    ((afterCalls classes calls).hasRuleFor classes S T = .ok true ↔
      ∃ f, (afterCalls classes calls).ruleFor classes S T = .ok (some f) ∧
        f ≠ .value (.atom .none)) ∧
    ((afterCalls classes calls).hasRuleFor classes S T = .error .typeMismatch ↔
      (RuleKey.of classes S T).isUsable classes = false) ∧
    (afterCalls classes calls).size = (acceptedKeys classes calls).ncard ∧
    ∀ (r : Registry Converter) (call : Registration),
      (∃ r', r.registerConverter classes call.source call.target call.function = .ok r') ↔
        call.isAccepted classes = true := by
  have hlookup : (afterCalls classes calls).lookup classes S T =
      (lastFor? classes calls (.of classes S T)).map (·.function) := find?_afterCalls calls _
  have hcontains : (afterCalls classes calls).contains classes S T =
      (lastFor? classes calls (.of classes S T)).isSome := by
    rw [contains_eq_isSome, hlookup, Option.isSome_map]
  have hfound : ∀ call, lastFor? classes calls (.of classes S T) = some call →
      call.function ≠ .value (.atom .none) := fun call hcall =>
    function_ne_none (isAccepted_of_lastFor? hcall)
  unfold ruleFor hasRuleFor
  rw [hlookup, hcontains]
  refine ⟨rfl, ?_, ?_, size_afterCalls calls, fun r call => registerConverter_isOk_iff⟩
  · split
    · cases hlast : lastFor? classes calls (.of classes S T) with
      | none => simp
      | some call => simpa using hfound call hlast
    · simp
  · split
    · rename_i husable
      simp [husable]
    · rename_i husable
      simp [husable]

/-- A list type whose element type is the list of the number one, as it may stand in an
annotation. -/
def listOfOnes : TypeExpr := .applied (.builtin .list) [.value (.seq none .list [.atom (.int 1)])]

/-- Where a type cannot be looked up there is no answer, not even that there is no rule. -/
theorem not_ruleFor_listOfOnes :
    lastFor? [] [] (.of [] listOfOnes (.builtin .int)) = none ∧
    (¬ ∃ found, (afterCalls [] []).ruleFor [] listOfOnes (.builtin .int) = .ok found) ∧
    ¬ ∃ known, (afterCalls [] []).hasRuleFor [] listOfOnes (.builtin .int) = .ok known := by
  have hunusable : (RuleKey.of [] listOfOnes (.builtin .int)).isUsable [] = false := by
    decide +kernel
  refine ⟨rfl, ?_, ?_⟩
  · simp [ruleFor, hunusable]
  · simp [hasRuleFor, hunusable]

/-- A rule for a mapping to numbers or texts is found for one to texts or numbers. -/
example :
    let mapping (members : List TypeExpr) : TypeExpr :=
      .applied (.builtin .dict) [.builtin .str, .union .named members]
    let r := afterCalls [] [⟨mapping [.builtin .int, .builtin .str], .builtin .str,
      .function .identity .unstated⟩]
    (r.hasRuleFor [] (mapping [.builtin .str, .builtin .int]) (.builtin .str)).toOption =
      some true := by
  decide +kernel

end Registry

end Memberwise
