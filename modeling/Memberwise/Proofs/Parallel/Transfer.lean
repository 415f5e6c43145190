import Memberwise.Proofs.Conversion.Renaming
import Memberwise.Proofs.Mapper.Learning

/-! # Transfers in worlds that correspond

Steps that say the same make the same of sources that correspond.  A conversion finds the same
schema in the other world, be it that the same schemas are known there or that all those are which
the run is yet to make.
-/

namespace Memberwise

open SchemaCache (Grows)

/-- The places in a value that an operation stores as it is given. -/
def Operation.places : Operation Converter → List Place
  | .unwrapOr default | .convert default => default.places
  | _ => []

/-- The type into which a step converts, if it converts. -/
def Assignment.conversionType? (a : Assignment Converter) : Option TypeExpr :=
  match a.operation with
  | .convert _ => some a.target.declared.unwrapOptional
  | .copyCollection elementType _ _ => some elementType.unwrapOptional
  | _ => none

/-- Whether two steps do the same under the same names.  The types of their targets may be spelled
differently. -/
structure Assignment.SameStep (a a' : Assignment Converter) : Prop where
  source : a'.source.name = a.source.name
  target : a'.target.name = a.target.name
  operation : a'.operation = a.operation
  declared : a'.target.declared.unwrapOptional = a.target.declared.unwrapOptional

theorem Assignment.SameStep.refl (a : Assignment Converter) : a.SameStep a := ⟨rfl, rfl, rfl, rfl⟩

/-- Whether a step is the same in worlds with given classes that correspond: where it converts, the
classes behind the schema are those whose fields have the same types on both sides, and what it
stores as it is given is its own counterpart. -/
structure Assignment.IsShared (r : Correspondence) (classes : Classes) (a : Assignment Converter) :
    Prop where
  settled : ∀ type, a.conversionType? = some type → ∀ known,
    Conversion.IsSettled r.settled classes known type
  fixed : ∀ p ∈ a.operation.places, r.covers p ∧ r.place p = p

namespace World

variable {r : Correspondence} {final : Option SchemaCache} {known : SchemaCache}
  {w w' w₁ w₁' : World} {v v' source source' target target' collection collection' : Slot}

/-! ## Worlds side by side -/

/-- Whether worlds correspond, and the other one knows the same schemas or, if that is given, all
those that there will be in the end. -/
def Parallel (r : Correspondence) (final : Option SchemaCache) (w w' : World) : Prop :=
  Similar r w.schemas (final.getD w.schemas) w w'

/-- Whether the schemas that a world knows are among those that there will be in the end. -/
def Foreseen (final : Option SchemaCache) (w : World) : Prop :=
  ∀ later, final = some later → Grows w.classes w.schemas later

/-- Whether worlds with a result are related, and their results are. -/
structure Aside {α β : Type} (I : World → World → Prop) (R : α → β → Prop) (a : World × α)
    (b : World × β) : Prop where
  world : I a.1 b.1
  result : R a.2 b.2

theorem foreseen_none (w : World) : Foreseen none w := by
  intro later hlater
  cases hlater

theorem Foreseen.before (h : Foreseen final w₁) (hlearns : Learns w w₁) : Foreseen final w := by
  intro later hlater
  have hgrows := h later hlater
  rw [hlearns.classes] at hgrows
  exact hlearns.schemas.trans hgrows

theorem Similar.parallel (h : Similar r w.schemas (final.getD w.schemas) w₁ w₁') :
    Parallel r final w₁ w₁' := by
  unfold Parallel
  rw [h.schemas]
  exact h

theorem Both.aside {α β : Type} {R : α → β → Prop} {a : World × α} {b : World × β}
    (h : Both r w.schemas (final.getD w.schemas) R a b) : Aside (Parallel r final) R a b :=
  ⟨h.world.parallel, h.result⟩

/-! ## Conversions -/

theorem remember_congr {classes classes' : Classes} {settled : String → Prop}
    (h : Schema.ReadsAlike settled classes classes') (known : SchemaCache) (t : TypeExpr) :
    known.remember classes' t = known.remember classes t := by
  unfold SchemaCache.remember
  rw [TypeExpr.isHashable_congr h.alike, h.describes]

/-- Where a schema is asked for, the same one is found in both worlds. -/
theorem Parallel.schema? (h : Parallel r final w w') {u : Value} {type : TypeExpr}
    (hforeseen : Foreseen final (w.afterConversion u type))
    (hasks : Conversion.asksSchema w.classes u type.unwrapOptional = true)
    (hhashable : type.unwrapOptional.isHashable w.classes = true) :
    w'.schemas.schema? w'.classes type.unwrapOptional =
      w.schemas.schema? w.classes type.unwrapOptional := by
  rw [h.schemas', SchemaCache.schema?, h.classes.describes]
  cases final with
  | none => rfl
  | some later =>
      have hgrows := hforeseen later rfl
      change Grows w.classes (Conversion.knownAfter w.classes w.schemas u type) later at hgrows
      rw [Conversion.knownAfter_eq, if_pos hasks] at hgrows
      exact SchemaCache.schema?_of_grows hgrows hhashable

/-- A conversion of counterparts leaves the worlds side by side. -/
theorem Parallel.afterConversion (h : Parallel r final w w') {type type' : TypeExpr}
    (htype : type'.unwrapOptional = type.unwrapOptional) (hv : r.Pairs v v')
    (hforeseen : Foreseen final (w.afterConversion (w.load v) type)) :
    Parallel r final (w.afterConversion (w.load v) type) (w'.afterConversion (w'.load v') type') := by
  refine { h with schemas := rfl, schemas' := ?_ }
  show Conversion.knownAfter w'.classes w'.schemas (w'.load v') type' =
    final.getD (Conversion.knownAfter w.classes w.schemas (w.load v) type)
  rw [Conversion.knownAfter_eq, Conversion.knownAfter_eq, h.load hv, htype,
    Conversion.asksSchema_rename h.alike, remember_congr h.classes, h.schemas']
  cases final with
  | none => rfl
  | some later =>
      have hgrows := hforeseen later rfl
      change Grows w.classes (Conversion.knownAfter w.classes w.schemas _ type) later at hgrows
      rw [Conversion.knownAfter_eq] at hgrows
      split
      · rename_i hasks
        rw [if_pos hasks] at hgrows
        exact SchemaCache.remember_of_grows hgrows
      · rfl

theorem Parallel.convertPresent (h : Parallel r final w w') {type type' : TypeExpr}
    (htype : type'.unwrapOptional = type.unwrapOptional)
    (hsettled : Conversion.IsSettled r.settled w.classes w.schemas type.unwrapOptional)
    (hv : r.Pairs v v') (hpresent : (w.load v).isNone = false)
    (hforeseen : Foreseen final (w.afterConversion (w.load v) type)) :
    Conversion.convertPresent w'.classes w'.schemas (w'.load v') type' =
      (Conversion.convertPresent w.classes w.schemas (w.load v) type).map
        (Value.rename r.place) := by
  rw [h.load hv]
  apply Conversion.convertPresent_rename h.classes r.injective htype hsettled
  intro hmeans hhashable
  apply h.schema? hforeseen _ hhashable
  unfold Conversion.asksSchema
  rw [hmeans, hpresent]
  rfl

/-- An element is converted alike in both worlds. -/
theorem Parallel.convertWith (h : Parallel r final w w') {type : TypeExpr}
    (hsettled : Conversion.IsSettled r.settled w.classes w.schemas type.unwrapOptional)
    (hv : r.Pairs v v') (hforeseen : Foreseen final (w.afterConversion (w.load v) type)) :
    Agree (fun u u' => u.Within r.covers ∧ u' = u.rename r.place)
      (Conversion.convertWith w.classes w.schemas (w.load v) type)
      (Conversion.convertWith w'.classes w'.schemas (w'.load v') type) := by
  have hnone : (w'.load v').isNone = (w.load v).isNone := by
    rw [h.load hv, Value.isNone_rename]
  unfold Conversion.convertWith
  rw [hnone]
  cases hpresent : (w.load v).isNone with
  | true =>
      simp only [if_true]
      rw [h.load hv, h.alike.conversionFault_rename]
      exact .error _
  | false =>
      simp only [Bool.false_eq_true, if_false]
      rw [h.convertPresent rfl hsettled hv hpresent hforeseen]
      cases hconverted : Conversion.convertPresent w.classes w.schemas (w.load v) type with
      | error fault => exact .error _
      | ok u =>
          exact .ok ⟨Conversion.within_of_convertPresent (h.load_within hv) hconverted, rfl⟩

/-- A value at places that are their own counterparts is its own counterpart. -/
theorem default_fixed {default : Value}
    (h : ∀ p ∈ default.places, r.covers p ∧ r.place p = p) :
    default.Within r.covers ∧ default = default.rename r.place := by
  refine ⟨fun p hp => (h p hp).1, ?_⟩
  have hid := (Value.rename_eq_iff (ρ := r.place) (σ := id) default).mpr fun p hp => (h p hp).2
  rw [hid, Value.rename_id]

/-- A value is converted alike in both worlds, or the same value stands in for it. -/
theorem Parallel.convertOr (h : Parallel r final w w') {type type' : TypeExpr} {default : Value}
    (htype : type'.unwrapOptional = type.unwrapOptional)
    (hsettled : Conversion.IsSettled r.settled w.classes w.schemas type.unwrapOptional)
    (hdefault : ∀ p ∈ default.places, r.covers p ∧ r.place p = p)
    (hv : r.Pairs v v') (hforeseen : Foreseen final (w.afterConversion (w.load v) type)) :
    Aside (Parallel r final) (fun u u' => u.Within r.covers ∧ u' = u.rename r.place)
      (w.convertOr (w.load v) type default) (w'.convertOr (w'.load v') type' default) := by
  have hfixed := default_fixed hdefault
  refine ⟨h.afterConversion htype hv hforeseen, ?_⟩
  show Value.Within r.covers (Conversion.convertOrWith w.classes w.schemas (w.load v) type default) ∧
    Conversion.convertOrWith w'.classes w'.schemas (w'.load v') type' default =
      Value.rename r.place (Conversion.convertOrWith w.classes w.schemas (w.load v) type default)
  have hnone : (w'.load v').isNone = (w.load v).isNone := by
    rw [h.load hv, Value.isNone_rename]
  unfold Conversion.convertOrWith
  rw [hnone]
  cases hpresent : (w.load v).isNone with
  | true => exact hfixed
  | false =>
      simp only [Bool.false_eq_true, if_false]
      rw [h.convertPresent htype hsettled hv hpresent hforeseen]
      cases hconverted : Conversion.convertPresent w.classes w.schemas (w.load v) type with
      | error fault => exact hfixed
      | ok u => exact ⟨Conversion.within_of_convertPresent (h.load_within hv) hconverted, rfl⟩

/-! ## Collections -/

/-- Where one of two computations goes on, the other one does. -/
theorem Aside.proceed {I : World → World → Prop} {x x' : World × Option Fault} (h : Aside I Eq x x')
    {α : Type} {R : α → α → Prop} {failed : Fault → α}
    (hfailed : ∀ fault, R (failed fault) (failed fault)) {further further' : World → World × α}
    (hfurther : ∀ w₁ w₁', x = (w₁, none) → I w₁ w₁' → Foreseen final (further w₁).1 →
      Aside I R (further w₁) (further' w₁'))
    (hforeseen : Foreseen final (proceed failed further x).1) :
    Aside I R (proceed failed further x) (World.proceed failed further' x') := by
  obtain ⟨w₁, outcome⟩ := x
  obtain ⟨w₁', outcome'⟩ := x'
  obtain rfl : outcome = outcome' := h.result
  cases outcome with
  | some fault => exact ⟨h.world, hfailed fault⟩
  | none => exact hfurther w₁ w₁' rfl h.world hforeseen

/-- Where a change is made in both worlds or in none, what follows on it is left to compare. -/
theorem goOn_aside {I R : World → World → Prop} (h : I w w')
    {result result' : Except Fault World} (hresult : Agree R result result')
    {further further' : World → World × Option Fault}
    (hfurther : ∀ w₁ w₁', result = .ok w₁ → R w₁ w₁' → Foreseen final (further w₁).1 →
      Aside I Eq (further w₁) (further' w₁'))
    (hforeseen : Foreseen final (w.goOn further result).1) :
    Aside I Eq (w.goOn further result) (w'.goOn further' result') := by
  cases hresult with
  | error fault => exact ⟨h, rfl⟩
  | ok hresult => exact hfurther _ _ rfl hresult hforeseen

theorem Parallel.addResult (h : Parallel r final w w') (htarget : r.Pairs target target')
    {result result' : Except Fault Value}
    (hresult : Agree (fun u u' => u.Within r.covers ∧ u' = u.rename r.place) result result')
    {further further' : World → World × Option Fault}
    (hfurther : ∀ w₁ w₁', w₁.classes = w.classes → Parallel r final w₁ w₁' →
      Foreseen final (further w₁).1 → Aside (Parallel r final) Eq (further w₁) (further' w₁'))
    (hforeseen : Foreseen final (w.addResult target further result).1) :
    Aside (Parallel r final) Eq (w.addResult target further result)
      (w'.addResult target' further' result') := by
  cases hresult with
  | error fault => exact ⟨h, rfl⟩
  | @ok u u' hu =>
      have hnew := Similar.intern h hu.1 hu.2
      apply goOn_aside hnew.aside.world (hnew.world.addElement htarget hnew.result) _ hforeseen
      intro w₁ w₁' hadd hadded
      apply hfurther w₁ w₁' _ hadded.parallel
      exact (addElement_changesOnly hadd).classes.trans (intern_extends w u).classes

theorem Parallel.addConverted (h : Parallel r final w w') {elementType : TypeExpr}
    (hsettled : ∀ known, Conversion.IsSettled r.settled w.classes known elementType.unwrapOptional)
    (htarget : r.Pairs target target') {items items' : List Slot} (hitems : PairsAll r items items')
    (hforeseen : Foreseen final (w.addConverted target elementType items).1) :
    Aside (Parallel r final) Eq (w.addConverted target elementType items)
      (w'.addConverted target' elementType items') := by
  obtain ⟨hwithin, rfl⟩ := hitems
  induction items generalizing w w' with
  | nil => exact ⟨h, rfl⟩
  | cons item rest ih =>
      rw [List.forall_mem_cons] at hwithin
      have hitem : r.Pairs item (item.rename r.place) := ⟨hwithin.1, rfl⟩
      rw [List.map_cons]
      cases hnone : item.isNone with
      | true =>
          have hnone' : (item.rename r.place).isNone = true := by
            rw [Slot.isNone_rename, hnone]
          rw [World.addConverted, hnone] at hforeseen
          rw [World.addConverted, World.addConverted, hnone, hnone']
          exact ih h hsettled hforeseen hwithin.2
      | false =>
          have hnone' : (item.rename r.place).isNone = false := by
            rw [Slot.isNone_rename, hnone]
          rw [addConverted_cons hnone] at hforeseen
          rw [addConverted_cons hnone, addConverted_cons hnone']
          -- What the conversion learns is among what the run knows in the end.
          have hconverted := hforeseen.before
            (addResult_learns (fun w => addConverted_learns w target elementType rest) _ _ _)
          have hresult := h.convertWith (hsettled w.schemas) hitem hconverted
          apply (h.afterConversion rfl hitem hconverted).addResult htarget hresult _ hforeseen
          intro w₁ w₁' hclasses hworld hfurther
          refine ih hworld ?_ hfurther hwithin.2
          rw [hclasses]
          exact hsettled

theorem Parallel.copyElements (h : Parallel r final w w') {elementType : TypeExpr}
    (hsettled : ∀ known, Conversion.IsSettled r.settled w.classes known elementType.unwrapOptional)
    (hsource : r.Pairs source source') (htarget : r.Pairs target target')
    (hforeseen : Foreseen final (w.copyElements source target elementType).1) :
    Aside (Parallel r final) Eq (w.copyElements source target elementType)
      (w'.copyElements source' target' elementType) := by
  have hyielded : Agree (Both r w.schemas (final.getD w.schemas) (PairsAll r)) (w.yielded source)
      (w'.yielded source') := Similar.yielded h hsource
  unfold World.copyElements at hforeseen ⊢
  revert hyielded hforeseen
  generalize hfirst : w.yielded source = yielded
  generalize w'.yielded source' = yielded'
  intro hforeseen hyielded
  cases hyielded with
  | error fault => exact ⟨h, rfl⟩
  | @ok yielded yielded' hyielded =>
      obtain ⟨w₁, items⟩ := yielded
      obtain ⟨w₁', items'⟩ := yielded'
      have hworld : Parallel r final w₁ w₁' := hyielded.aside.world
      have hitems : PairsAll r items items' := hyielded.result
      cases items with
      | nil =>
          obtain rfl : items' = [] := hitems.2
          exact ⟨hworld, rfl⟩
      | cons item rest =>
          obtain ⟨item', rest', rfl⟩ : ∃ item' rest', items' = item' :: rest' := ⟨_, _, hitems.2⟩
          dsimp only at hforeseen ⊢
          rw [pairs_isNone htarget, Similar.canGrow hworld htarget]
          split
          · refine ⟨hworld, ?_⟩
            show some _ = some _
            unfold absentCollectionMessage
            rw [hworld.alike.targetName]
          · rename_i hpresent
            rw [if_neg hpresent] at hforeseen
            split
            · exact ⟨hworld, rfl⟩
            · rename_i hgrows
              rw [if_neg hgrows] at hforeseen
              apply hworld.addConverted _ htarget hitems hforeseen
              rw [(yielded_learns hfirst).classes]
              exact hsettled

/-- Collections that correspond are finished to collections that correspond. -/
theorem Parallel.finishCollection (h : Parallel r final w w') (finish : Finish)
    (hv : r.Pairs v v') :
    Aside (Parallel r final) r.Pairs (w.finishCollection finish v) (w'.finishCollection finish v') := by
  have hitems := Similar.elements h hv
  unfold World.finishCollection
  revert hitems
  generalize w.elements v = yielded
  generalize w'.elements v' = yielded'
  intro hitems
  cases hitems with
  | error fault => cases finish <;> exact ⟨h, hv⟩
  | ok hitems =>
      cases finish with
      | tuple => exact (Similar.alloc_seq h .tuple hitems.result).aside
      | frozenset => exact (Similar.alloc_seq h .frozenset hitems.result).aside
      | asIs => exact ⟨h, hv⟩

theorem Parallel.fillCollection (h : Parallel r final w w') {elementType : TypeExpr}
    (hsettled : ∀ known, Conversion.IsSettled r.settled w.classes known elementType.unwrapOptional)
    (finish : Finish) (hsource : r.Pairs source source') (hv : r.Pairs v v')
    (hforeseen : Foreseen final (w.fillCollection elementType finish source v).1) :
    Aside (Parallel r final) (Agree r.Pairs) (w.fillCollection elementType finish source v)
      (w'.fillCollection elementType finish source' v') := by
  rw [fillCollection_eq] at hforeseen ⊢
  rw [fillCollection_eq]
  have hcopied := hforeseen.before
    (proceed_learns (by exact fun w => finishCollection_learns w finish v) _)
  apply (h.copyElements hsettled hsource hv hcopied).proceed (fun _ => .error _) _ hforeseen
  intro w₁ w₁' _ hworld _
  have hfinished := hworld.finishCollection finish hv
  exact ⟨hfinished.world, .ok hfinished.result⟩

/-! ## Steps -/

theorem Parallel.transferValue (h : Parallel r final w w') {a a' : Assignment Converter}
    (hsame : a.SameStep a') (hshared : a.IsShared r w.classes) (hv : r.Pairs v v')
    (hforeseen : Foreseen final (w.transferValue a v).1) :
    Aside (Parallel r final) (Agree r.Pairs) (w.transferValue a v) (w'.transferValue a' v') := by
  unfold World.transferValue at hforeseen ⊢
  rw [hsame.operation]
  cases hoperation : a.operation with
  | assign | copyCollection | foreign => exact ⟨h, .ok hv⟩
  | unwrapOr default =>
      dsimp only
      rw [pairs_isNone hv]
      split
      · have hplaces : ∀ p ∈ default.places, r.covers p ∧ r.place p = p :=
          fun p hp => hshared.fixed p (by rwa [hoperation])
        have hfixed := default_fixed hplaces
        have hnew := Similar.intern h hfixed.1 hfixed.2
        exact ⟨hnew.aside.world, .ok hnew.result⟩
      · exact ⟨h, .ok hv⟩
  | custom f =>
      have happlied := Similar.applyConverter h f hv
      dsimp only
      revert happlied
      generalize w.applyConverter f v = applied
      generalize w'.applyConverter f v' = applied'
      intro happlied
      cases happlied with
      | ok happlied => exact ⟨happlied.aside.world, .ok happlied.result⟩
      | error fault => exact ⟨h, .error fault⟩
  | convert default =>
      rw [hoperation] at hforeseen
      have hconverted := h.convertOr hsame.declared
        (hshared.settled _ (by rw [Assignment.conversionType?, hoperation]) w.schemas)
        (fun p hp => hshared.fixed p (by rwa [hoperation])) hv
        (hforeseen.before (intern_learns _ _))
      have hnew := Similar.intern hconverted.world hconverted.result.1 hconverted.result.2
      exact ⟨hnew.aside.world, .ok hnew.result⟩

/-- Where something is read or made in both worlds or in none, what follows on it is left. -/
theorem Parallel.resume (h : Parallel r final w w') {result result' : Except Fault (World × Slot)}
    (hresult : Agree (Both r w.schemas (final.getD w.schemas) r.Pairs) result result')
    {further further' : World → Slot → World × Except Fault Slot}
    (hfurther : ∀ w₁ w₁' v v', result = .ok (w₁, v) → result' = .ok (w₁', v') →
      Parallel r final w₁ w₁' → r.Pairs v v' → Foreseen final (further w₁ v).1 →
      Aside (Parallel r final) (Agree r.Pairs) (further w₁ v) (further' w₁' v'))
    (hforeseen : Foreseen final (w.resume further result).1) :
    Aside (Parallel r final) (Agree r.Pairs) (w.resume further result) (w'.resume further' result') := by
  cases hresult with
  | error fault => exact ⟨h, .error fault⟩
  | ok hresult => exact hfurther _ _ _ _ rfl rfl hresult.aside.world hresult.result hforeseen

/-- Whether sources hold counterparts under a name, now and after anything is made. -/
def HoldAlike (r : Correspondence) (final : Option SchemaCache) (name : String)
    (source source' : Slot) (w w' : World) : Prop :=
  ∀ w₁ w₁', Extends w w₁ → Extends w' w₁' → Parallel r final w₁ w₁' →
    Agree (Both r w₁.schemas (final.getD w₁.schemas) r.Pairs) (w₁.getAttribute source name)
      (w₁'.getAttribute source' name)

theorem holdAlike_of_pairs (hsource : r.Pairs source source') (name : String) :
    HoldAlike r final name source source' w w' :=
  fun _ _ _ _ hworld => Similar.getAttribute hworld hsource name

theorem HoldAlike.later {name : String} (h : HoldAlike r final name source source' w w')
    (hw : Extends w w₁) (hw' : Extends w' w₁') : HoldAlike r final name source source' w₁ w₁' :=
  fun _ _ hlater hlater' => h _ _ (hw.trans hlater) (hw'.trans hlater')

theorem Parallel.fill (h : Parallel r final w w') {elementType : TypeExpr}
    (hsettled : ∀ known, Conversion.IsSettled r.settled w.classes known elementType.unwrapOptional)
    {name : String} (finish : Finish) (copies : Bool)
    (hsource : HoldAlike r final name source source' w w') (hv : r.Pairs v v')
    (hforeseen : Foreseen final (fill source name elementType finish copies w v).1) :
    Aside (Parallel r final) (Agree r.Pairs) (fill source name elementType finish copies w v)
      (World.fill source' name elementType finish copies w' v') := by
  unfold World.fill at hforeseen ⊢
  cases copies with
  | false =>
      have hfinished := h.finishCollection finish hv
      exact ⟨hfinished.world, .ok hfinished.result⟩
  | true =>
      apply h.resume (hsource _ _ (.refl _ w) (.refl _ w') h) _ hforeseen
      intro w₁ w₁' u u' hget _ hworld hu hfilled
      apply hworld.fillCollection _ finish hu hv hfilled
      rw [(getAttribute_extends hget).classes]
      exact hsettled

/-- A step makes the same of sources that hold counterparts. -/
theorem Parallel.transferred (h : Parallel r final w w') {a a' : Assignment Converter}
    (hsame : a.SameStep a') (hshared : a.IsShared r w.classes)
    (hsource : HoldAlike r final a.source.name source source' w w')
    (hforeseen : Foreseen final (w.transferred a source).1) :
    Aside (Parallel r final) (Agree r.Pairs) (w.transferred a source) (w'.transferred a' source') := by
  cases hmakes : makesCollection a.operation with
  | false =>
      have hmakes' : makesCollection a'.operation = false := by rw [hsame.operation, hmakes]
      rw [transferred_of_not_makesCollection hmakes] at hforeseen
      rw [transferred_of_not_makesCollection hmakes, transferred_of_not_makesCollection hmakes',
        hsame.source]
      apply h.resume (hsource _ _ (.refl _ w) (.refl _ w') h) _ hforeseen
      intro w₁ w₁' v v' hget _ hworld hv hvalue
      apply hworld.transferValue hsame _ hv hvalue
      rw [(getAttribute_extends hget).classes]
      exact hshared
  | true =>
      cases hoperation : a.operation with
      | copyCollection elementType builder copies =>
          have hoperation' := hsame.operation.trans hoperation
          rw [transferred_copyCollection hoperation] at hforeseen
          rw [transferred_copyCollection hoperation, transferred_copyCollection hoperation',
            hsame.source]
          apply h.resume (Similar.create h builder.create pairsNamed_nil) _ hforeseen
          intro w₁ w₁' collection collection' hcreate hcreate' hworld hcollection hfilled
          have hcreated := (create_extends hcreate).1
          apply hworld.fill _ builder.finish copies
            (hsource.later hcreated (create_extends hcreate').1) hcollection hfilled
          rw [hcreated.classes]
          exact hshared.settled _ (by rw [Assignment.conversionType?, hoperation])
      | _ =>
          rw [hoperation] at hmakes
          cases hmakes

/-! ## What a step spends -/

/-- Only what takes part can be changed by iterating what takes part. -/
theorem Similar.iterates_changesOnly (h : Similar r known known' w w') {items : List Slot}
    (hv : v.Within r.covers) (hread : Iterates w v items w₁) : ChangesOnly r.covers w w₁ := by
  have hreaches : ∀ {slot q}, w.store.Reaches slot q → slot.Within r.covers → r.covers q := by
    intro slot q hq
    induction hq with
    | self p => exact fun hslot => hslot p rfl
    | part hfound hholds _ ih =>
        exact fun hslot => ih (h.store.closed _ _ (hslot _ rfl) hfound _ hholds)
  exact hread.changesOnly.mono fun q _ hq => hreaches hq.2 hv

/-- A step changes only what takes part in it. -/
theorem Similar.transferred_changesOnly (h : Similar r known known' w w')
    (hsource : r.Pairs source source') (a : Assignment Converter) :
    ChangesOnly r.covers w (w.transferred a source).1 := by
  unfold World.transferred
  split
  · rename_i elementType builder copies heq
    have hmade := Similar.create h builder.create pairsNamed_nil
    split
    · exact .refl _ w
    · rename_i w₁ collection hcreate
      obtain ⟨hcreated, hnew⟩ := create_extends hcreate
      obtain ⟨_, hmade⟩ := hmade.exists_of_ok hcreate
      split
      · split
        · exact .of_extends hcreated
        · rename_i w₂ v hget
          obtain ⟨_, hread⟩ := (hmade.world.getAttribute hsource a.source.name).exists_of_ok hget
          obtain ⟨w₃, items, hyields, hfilled⟩ :=
            fillCollection_iterates w₂ elementType builder.finish v collection
          have hbefore := hcreated.trans (getAttribute_extends hget)
          have hspent := Similar.iterates_changesOnly hread.world hread.result.1 hyields
          have hlast : ChangesOnly (fun q => r.covers q ∨ collection = .ref q) w _ :=
            ((ChangesOnly.of_extends hbefore).trans (hspent.mono fun _ _ => .inl)).trans
              (hfilled.mono fun _ _ => .inr)
          refine hlast.mono fun q hq hchanged => hchanged.resolve_right fun hplace => ?_
          exact absurd (hnew q hplace) (by omega)
      · exact .of_extends (hcreated.trans (finishCollection_extends w₁ _ _))
  · split
    · exact .refl _ w
    · rename_i w₁ v hget
      exact .of_extends ((getAttribute_extends hget).trans (transferValue_extends w₁ a v))

/-! ## Runs -/

/-- A relation on worlds that go on side by side while values and their counterparts are stored on
one object in each. -/
structure Storing (r : Correspondence) (final : Option SchemaCache) (I : World → World → Prop)
    (target target' : Slot) : Prop where
  parallel : ∀ {w w' : World}, I w w' → Parallel r final w w'
  spends : ∀ {w w' w₁ w₁' : World}, I w w' → Spends (fun _ => False) w w₁ →
    Spends (fun _ => False) w' w₁' → Parallel r final w₁ w₁' → I w₁ w₁'
  stores : ∀ {w w' : World} {v v' : Slot}, I w w' → r.Pairs v v' → ∀ name,
    Agree I (w.setAttribute target name v) (w'.setAttribute target' name v')

/-- Nothing is ever stored on an atom. -/
theorem storing_atom (a : Atom) : Storing r final (Parallel r final) (.atom a) (.atom a) where
  parallel := id
  spends _ _ _ h := h
  stores := by
    intro w w' v v' h _ name
    cases a with
    | member owner member =>
        unfold World.setAttribute
        dsimp only
        split
        · exact .error _
        · exact .ok h
    | _ => exact .error _

theorem setAttribute_of_isIterator {p : Place} (h : w.IsIterator p) (name : String) (v : Slot) :
    w.setAttribute (.ref p) name v = .error .missingAttribute := by
  obtain ⟨yielded, items, hcell⟩ := h
  show w.setWithin p false v (_ + 1) name = _
  rw [setWithin_succ, hcell]

/-- Nothing is ever stored on an iterator either. -/
theorem storing_iterator (r : Correspondence) (final : Option SchemaCache) (p p' : Place) :
    Storing r final (fun w w' => Parallel r final w w' ∧ w.IsIterator p ∧ w'.IsIterator p')
      (.ref p) (.ref p') where
  parallel h := h.1
  spends h hw hw' hparallel :=
    ⟨hparallel, hw.isIterator h.2.1 not_false, hw'.isIterator h.2.2 not_false⟩
  stores h _ name := by
    rw [setAttribute_of_isIterator h.2.1, setAttribute_of_isIterator h.2.2]
    exact .error _

/-- Whether objects in worlds that go on side by side have got the same writes. -/
def WritesAlike (r : Correspondence) (final : Option SchemaCache) (p : Place) (cell cell' : Cell)
    (w w' : World) : Prop := Writing r w.schemas (final.getD w.schemas) p cell cell' w w'

theorem storing_object (r : Correspondence) (final : Option SchemaCache) (p : Place)
    {cell : Cell} (cell' : Cell) (hclass : cell.classOf ≠ .builtin .validatorIterator) :
    Storing r final (WritesAlike r final p cell cell') (.ref p) (.ref (r.place p)) where
  parallel h := h.similar
  spends h hw hw' hparallel := Writing.spends h hclass hw hw' hparallel
  stores := by
    intro w w' v v' h hv name
    apply (Writing.setAttribute h hv name).mono
    intro w₁ w₁' hwritten
    unfold WritesAlike
    rw [hwritten.similar.schemas]
    exact hwritten

variable {I : World → World → Prop}

theorem Storing.transferMember (hstoring : Storing r final I target target') (h : I w w')
    {a a' : Assignment Converter} (hsame : a.SameStep a') (hshared : a.IsShared r w.classes)
    (hsource : r.Pairs source source')
    (hforeseen : Foreseen final (w.transferMember a source target).1) :
    Aside I Eq (w.transferMember a source target) (w'.transferMember a' source' target') := by
  rw [transferMember_eq] at hforeseen
  rw [transferMember_eq, transferMember_eq, hsame.target]
  have hvalue := (hstoring.parallel h).transferred hsame hshared
    (holdAlike_of_pairs hsource a.source.name) (hforeseen.before (storeResult_learns _ _ _ _))
  have hmade := hstoring.spends h (transferred_spends w a source)
    (transferred_spends w' a' source') hvalue.world
  have hresult := hvalue.result
  revert hforeseen hresult
  generalize (w.transferred a source).2 = result
  generalize (w'.transferred a' source').2 = result'
  intro hforeseen hresult
  cases hresult with
  | error fault => exact ⟨hmade, rfl⟩
  | ok hv =>
      apply goOn_aside hmade (hstoring.stores hmade hv a.target.name) _ hforeseen
      exact fun _ _ _ hstored _ => ⟨hstored, rfl⟩

/-- A run of steps and a run of steps that do the same leave worlds that correspond, and both come
to an end or fail with the same fault. -/
theorem Storing.transferMembers (hstoring : Storing r final I target target') (h : I w w')
    {steps steps' : List (Assignment Converter)}
    (hsame : List.Forall₂ Assignment.SameStep steps steps')
    (hshared : ∀ a ∈ steps, a.IsShared r w.classes) (hsource : r.Pairs source source')
    (hforeseen : Foreseen final (w.transferMembers source target steps).1) :
    Aside I Eq (w.transferMembers source target steps)
      (w'.transferMembers source' target' steps') := by
  induction hsame generalizing w w' with
  | nil => exact ⟨h, rfl⟩
  | @cons a a' rest rest' hfirst _ ih =>
      rw [List.forall_mem_cons] at hshared
      rw [transferMembers_cons] at hforeseen
      rw [transferMembers_cons, transferMembers_cons]
      have hstep := hstoring.transferMember h hfirst hshared.1 hsource
        (hforeseen.before (proceed_learns (fun w => transferMembers_learns w source target rest) _))
      apply hstep.proceed (fun _ => rfl) _ hforeseen
      intro w₁ w₁' hend hworld hrest
      refine ih hworld ?_ hrest
      have hclasses := (transferMember_learns w a source target).classes
      rw [hend] at hclasses
      rw [hclasses]
      exact hshared.2

end World

end Memberwise
