import Mathlib.Data.List.Induction
import Memberwise.Proofs.TypeExpr.Same
import Memberwise.World

/-! # What earlier conversions decide

A schema that is kept is found under every spelling of its type.  So all that the past can do to a
conversion is to replace the spelling of its type by that of the first conversion that made the
schema, and the outcome changes where the two spellings read the value differently.
-/

namespace Memberwise

/-- A value to be converted into a type, with a value to fall back on if one is given. -/
structure Request where
  value : Value
  type : TypeExpr
  default : Option Value

namespace Request

/-- The type that a value is converted into, without its option. -/
def target (r : Request) : TypeExpr := r.type.unwrapOptional

/-- What comes of a request where some schemas have been made before. -/
def outcome (r : Request) (classes : Classes) (known : SchemaCache) : Except Fault Value :=
  match r.default with
  | none => Conversion.convertWith classes known r.value r.type
  | some default => .ok (Conversion.convertOrWith classes known r.value r.type default)

/-- The type whose schema a request reads by, if it comes to that and there is one. -/
def asked? (r : Request) (classes : Classes) : Option TypeExpr :=
  if r.value.isNone then none
  else
    match Conversion.meansFor classes r.value r.target with
    | .schema =>
      if r.target.isHashable classes && (Schema.describe? classes r.target).isSome then
        some r.target
      else none
    | _ => none

/-- The first type that earlier requests asked for and that is the same as a given one. -/
def precedent? (classes : Classes) (past : List Request) (t : TypeExpr) : Option TypeExpr :=
  (past.filterMap (asked? · classes)).find? (·.same t)

variable {r : Request} {classes : Classes} {known known' : SchemaCache}

theorem target_of_asked {t : TypeExpr} (h : r.asked? classes = some t) : t = r.target := by
  unfold asked? at h
  split at h
  · cases h
  · split at h
    · split at h
      · exact (Option.some.inj h).symm
      · cases h
    · cases h

/-- A precedent is the target of an earlier request. -/
theorem precedent?_eq_some {past : List Request} {t u : TypeExpr}
    (h : precedent? classes past t = some u) :
    TypeExpr.Same u t ∧ ∃ earlier ∈ past, earlier.target = u := by
  obtain ⟨earlier, hearlier, hasked⟩ := List.mem_filterMap.mp (List.mem_of_find?_eq_some h)
  have hsame : u.same t = true := by simpa using List.find?_some h
  exact ⟨hsame, earlier, hearlier, (target_of_asked hasked).symm⟩

/-! ## Schemas that are known -/

/-- Of the schemas that are kept only that of the target matters. -/
theorem outcome_congr (h : known.schema? classes r.target = known'.schema? classes r.target) :
    r.outcome classes known = r.outcome classes known' := by
  have hpresent : Conversion.convertPresent classes known r.value r.type =
      Conversion.convertPresent classes known' r.value r.type := by
    unfold target at h
    simp only [Conversion.convertPresent, Conversion.convertBySchema, h]
  simp only [outcome, Conversion.convertWith, Conversion.convertOrWith, hpresent]

theorem outcome_congr_spelling (h : known.spelling r.target = known'.spelling r.target) :
    r.outcome classes known = r.outcome classes known' :=
  outcome_congr (congrArg (Schema.describe? classes) h)

/-- A request adds the type that it reads by to those known, unless it is among them. -/
theorem knownAfter_types (classes : Classes) (known : SchemaCache) (r : Request) :
    (Conversion.knownAfter classes known r.value r.type).types =
      match r.asked? classes with
      | none => known.types
      | some t => if known.contains t then known.types else known.types ++ [t] := by
  unfold Conversion.knownAfter asked? target
  by_cases hnone : r.value.isNone = true
  · simp [hnone]
  · simp only [hnone, Bool.false_eq_true, if_false]
    cases Conversion.meansFor classes r.value r.type.unwrapOptional with
    | none | scalar => rfl
    | schema =>
        dsimp only
        unfold SchemaCache.remember
        cases r.type.unwrapOptional.isHashable classes <;>
          cases Schema.describe? classes r.type.unwrapOptional <;>
          cases hknown : known.contains r.type.unwrapOptional <;> simp [hknown]

/-- The schemas that are known after requests, from none on. -/
def knownFrom (classes : Classes) (past : List Request) : SchemaCache :=
  past.foldl (fun known r => Conversion.knownAfter classes known r.value r.type) .empty

theorem knownFrom_concat (classes : Classes) (past : List Request) (r : Request) :
    knownFrom classes (past ++ [r]) =
      Conversion.knownAfter classes (knownFrom classes past) r.value r.type := by
  simp [knownFrom, List.foldl_append]

theorem precedent?_concat (classes : Classes) (past : List Request) (r : Request) (t : TypeExpr) :
    precedent? classes (past ++ [r]) t =
      (precedent? classes past t).or ((r.asked? classes).toList.find? (·.same t)) := by
  have hlast : [r].filterMap (asked? · classes) = (r.asked? classes).toList := by
    cases hasked : r.asked? classes <;> simp only [List.filterMap_cons, hasked] <;> rfl
  rw [precedent?, List.filterMap_append, List.find?_append, hlast]
  rfl

/-- The type that is found among those known is the first of its kind that was asked for. -/
theorem find?_knownFrom (classes : Classes) (past : List Request) (t : TypeExpr) :
    (knownFrom classes past).types.find? (·.same t) = precedent? classes past t := by
  induction past using List.reverseRecOn with
  | nil => rfl
  | append_singleton past r ih =>
      rw [knownFrom_concat, knownAfter_types, precedent?_concat, ← ih]
      cases r.asked? classes with
      | none => simp
      | some u =>
          dsimp only [Option.toList_some]
          by_cases hknown : (knownFrom classes past).contains u = true
          · rw [if_pos hknown]
            by_cases hsame : u.same t = true
            · -- A type that is not entered is the same as a known one, which is found before it.
              obtain ⟨first, hfirst, hu⟩ := List.any_eq_true.mp hknown
              have hfound : ((knownFrom classes past).types.find? (·.same t)).isSome = true :=
                List.find?_isSome.mpr ⟨first, hfirst, TypeExpr.same_trans hu hsame⟩
              obtain ⟨found, hfound⟩ := Option.isSome_iff_exists.mp hfound
              simp [hfound]
            · simp [hsame]
          · rw [if_neg hknown, List.find?_append]

theorem spelling_knownFrom (classes : Classes) (past : List Request) (t : TypeExpr) :
    (knownFrom classes past).spelling t = (precedent? classes past t).getD t := by
  rw [SchemaCache.spelling, find?_knownFrom]

/-- A request among whose predecessors none asked for its type gives what it gives as the first
one; otherwise the first of those that did stands for all of them. -/
theorem outcome_knownFrom (r : Request) (classes : Classes) (past : List Request) :
    r.outcome classes (knownFrom classes past) =
      match precedent? classes past r.target with
      | none => r.outcome classes .empty
      | some t => r.outcome classes ⟨[t]⟩ := by
  cases hprecedent : precedent? classes past r.target with
  | none =>
      refine outcome_congr_spelling ?_
      rw [spelling_knownFrom, hprecedent]
      rfl
  | some t =>
      have hsame : t.same r.target = true := (precedent?_eq_some hprecedent).1
      refine outcome_congr_spelling ?_
      rw [spelling_knownFrom, hprecedent]
      simp [SchemaCache.spelling, hsame]

end Request

namespace World

/-- Carries out a request. -/
def request (w : World) (r : Request) : World × Except Fault Value :=
  match r.default with
  | none => w.convert r.value r.type
  | some default =>
    let (w, v) := w.convertOr r.value r.type default
    (w, .ok v)

/-- What requests give, carried out one after another. -/
def answers (w : World) : List Request → List (Except Fault Value)
  | [] => []
  | r :: rest =>
    let (w, answer) := w.request r
    answer :: w.answers rest

theorem request_eq (w : World) (r : Request) :
    w.request r = (w.afterConversion r.value r.type, r.outcome w.classes w.schemas) := by
  unfold request Request.outcome
  cases r.default <;> rfl

theorem answers_cons (w : World) (r : Request) (rest : List Request) :
    w.answers (r :: rest) = r.outcome w.classes w.schemas ::
      (w.afterConversion r.value r.type).answers rest := by
  simp only [answers, request_eq]

/-- Each answer is the outcome of its request after those before it. -/
theorem answers_eq_iff {answer : Request → Except Fault Value} {w : World} {past rest : List Request}
    (hw : w.schemas = Request.knownFrom w.classes past) :
    w.answers rest = rest.map answer ↔
      ∀ before r after, rest = before ++ r :: after →
        r.outcome w.classes (Request.knownFrom w.classes (past ++ before)) = answer r := by
  induction rest generalizing w past with
  | nil => simp [answers]
  | cons r rest ih =>
      have hnext : (w.afterConversion r.value r.type).schemas =
          Request.knownFrom w.classes (past ++ [r]) := by
        rw [Request.knownFrom_concat, ← hw]
        rfl
      rw [answers_cons, List.map_cons, List.cons.injEq, ih hnext, hw]
      constructor
      · rintro ⟨hfirst, hrest⟩ before r' after hsplit
        cases before with
        | nil =>
            obtain ⟨rfl, rfl⟩ := List.cons.inj hsplit
            simpa using hfirst
        | cons first before =>
            rw [List.cons_append, List.cons.injEq] at hsplit
            obtain ⟨rfl, hsplit⟩ := hsplit
            have hlater := hrest before r' after hsplit
            rwa [List.append_assoc] at hlater
      · intro hall
        refine ⟨by simpa using hall [] r rest rfl, fun before r' after hsplit => ?_⟩
        rw [List.append_assoc]
        exact hall (r :: before) r' after (by rw [hsplit]; rfl)

/-- Requests are answered as if each were the first one exactly if each that has a precedent is
answered alike in its own spelling and in that of the precedent.  So they are if types that are
the same have one schema in all their spellings. -/
theorem answers_fresh_iff {w : World} (hw : w.schemas = .empty) (requests : List Request) :
    (w.answers requests = requests.map (fun r => (w.request r).2) ↔
      ∀ past r rest, requests = past ++ r :: rest →
        ∀ t, Request.precedent? w.classes past r.target = some t →
          r.outcome w.classes ⟨[t]⟩ = r.outcome w.classes .empty) ∧
    ((∀ r ∈ requests, ∀ r' ∈ requests, TypeExpr.Same r.target r'.target →
        Schema.describe? w.classes r.target = Schema.describe? w.classes r'.target) →
      w.answers requests = requests.map fun r => (w.request r).2) := by
  have hfresh : ∀ r : Request, (w.request r).2 = r.outcome w.classes .empty := by
    intro r
    rw [request_eq, hw]
  have hiff : w.answers requests = requests.map (fun r => (w.request r).2) ↔
      ∀ past r rest, requests = past ++ r :: rest →
        ∀ t, Request.precedent? w.classes past r.target = some t →
          r.outcome w.classes ⟨[t]⟩ = r.outcome w.classes .empty := by
    have hempty : w.schemas = Request.knownFrom w.classes [] := hw
    rw [answers_eq_iff hempty]
    refine forall₄_congr fun past r rest _ => ?_
    rw [List.nil_append, Request.outcome_knownFrom, hfresh]
    cases Request.precedent? w.classes past r.target <;> simp
  refine ⟨hiff, fun hspellings => hiff.mpr ?_⟩
  rintro past r rest rfl t hprecedent
  obtain ⟨hsame, earlier, hearlier, rfl⟩ := Request.precedent?_eq_some hprecedent
  refine Request.outcome_congr ?_
  have hschema := hspellings earlier (List.mem_append_left _ hearlier) r (by simp) hsame
  have hspelling : SchemaCache.spelling ⟨[earlier.target]⟩ r.target = earlier.target := by
    simp [SchemaCache.spelling, hsame]
  rw [SchemaCache.schema?, hspelling, hschema]
  rfl

/-- Two lists that are read in one way, whichever comes first. -/
theorem answers_fresh_lists :
    let digits (text : String) : Request :=
      ⟨.list [.atom (.str text)], .applied (.builtin .list) [.builtin .int], none⟩
    let requests := [digits "1", digits "2"]
    empty.schemas = .empty ∧ empty.answers requests = requests.map fun r => (empty.request r).2 := by
  intro digits requests
  refine ⟨rfl, (answers_fresh_iff rfl requests).2 fun r hr r' hr' _ => ?_⟩
  have htarget : ∀ r ∈ requests, r.target = .applied (.builtin .list) [.builtin .int] := by
    intro r hr
    simp only [requests, List.mem_cons, List.not_mem_nil, or_false] at hr
    rcases hr with rfl | rfl <;> rfl
  rw [htarget r hr, htarget r' hr']

/-- A text is converted into a union of numbers, and into the same union in another order. -/
def sevens : List Request :=
  let seven (members : List TypeExpr) : Request := ⟨.atom (.str "7"), .union .named members, none⟩
  [seven [.builtin .float, .builtin .int], seven [.builtin .int, .builtin .float]]

/-- The second conversion gives a binary number after the first one, and an integer without it. -/
theorem answers_sevens :
    empty.schemas = .empty ∧
    (empty.answers sevens).map (fun a => a.toOption.bind Value.core?) =
      [some (.float (.ofInt 7)), some (.float (.ofInt 7))] ∧
    (sevens.map fun r => (empty.request r).2).map (fun a => a.toOption.bind Value.core?) =
      [some (.float (.ofInt 7)), some (.int 7)] ∧
    empty.answers sevens ≠ sevens.map fun r => (empty.request r).2 := by
  have hkept : (empty.answers sevens).map (fun a => a.toOption.bind Value.core?) =
      [some (.float (.ofInt 7)), some (.float (.ofInt 7))] := by decide +kernel
  have hfresh : (sevens.map fun r => (empty.request r).2).map
        (fun a => a.toOption.bind Value.core?) =
      [some (.float (.ofInt 7)), some (.int 7)] := by decide +kernel
  refine ⟨rfl, hkept, hfresh, fun h => ?_⟩
  rw [h, hfresh] at hkept
  cases hkept

end World

end Memberwise
