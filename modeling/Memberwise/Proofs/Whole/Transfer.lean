import Memberwise.Proofs.Mapper.Transfer
import Memberwise.Proofs.Parallel.Transfer
import Memberwise.Proofs.Whole.Create

/-! # Transfers in whole worlds

A step makes what it stores of its source, of what classes keep and of new objects.  So a run
leaves a whole world, however far it comes: no object ever holds what is not there.
-/

namespace Memberwise

/-! ## Steps that can be carried out -/

/-- Whether a collection that a builder fills is of a kind that it can finish. -/
def Builder.IsPlain (builder : Builder) : Prop :=
  builder.finish = .asIs ∨ builder.create = .builtin .list ∨ builder.create = .builtin .set

/-- Whether what an operation stores as it is given is at the places there are, and what it fills
can be finished. -/
structure Operation.IsSteady (operation : Operation Converter) (size : Nat) : Prop where
  given : ∀ p ∈ operation.places, p < size
  finishes : ∀ elementType builder copies,
    operation = .copyCollection elementType builder copies → builder.IsPlain

theorem Operation.IsSteady.mono {operation : Operation Converter} {n m : Nat}
    (h : operation.IsSteady n) (hle : n ≤ m) : operation.IsSteady m :=
  ⟨fun p hp => Nat.lt_of_lt_of_le (h.given p hp) hle, h.finishes⟩

namespace World

variable {w w' : World} {slot source target v : Slot}

/-! ## Collections -/

theorem hasAll_of_atoms {slots : List Slot} (h : ∀ slot ∈ slots, ∃ a, slot = .atom a) (w : World) :
    w.HasAll slots := by
  intro slot hslot
  obtain ⟨a, rfl⟩ := h slot hslot
  exact has_atom w a

theorem yields_pairUp (h : w.IsWhole) {named : List (String × Slot)} (hnamed : w.HasNamed named) :
    Yields HasAll w (w.pairUp named) := by
  induction named generalizing w with
  | nil => exact ⟨.refl h, hasAll_nil w⟩
  | cons entry rest ih =>
      obtain ⟨hfirst, hrest⟩ := List.forall_mem_cons.mp hnamed
      have hpair := yields_alloc h (.seq .tuple [.atom (.str entry.1), entry.2])
        (List.forall_mem_cons.mpr ⟨has_atom w _, List.forall_mem_singleton.mpr hfirst⟩)
      have hpairs := ih hpair.sound.whole (hpair.sound.hasNamed hrest)
      exact ⟨hpair.sound.trans hpairs.sound,
        List.forall_mem_cons.mpr ⟨hpairs.sound.has hpair.there, hpairs.there⟩⟩

theorem yields_parts (h : w.IsWhole) {a : Option Atom} {made : World × List Slot}
    (hmade : w.parts a = .ok made) : Yields HasAll w made := by
  unfold parts at hmade
  split at hmade
  · cases hmade
    refine ⟨.refl h, hasAll_of_atoms (fun slot hslot => ?_) w⟩
    obtain ⟨part, -, rfl⟩ := List.mem_map.mp hslot
    exact ⟨part, rfl⟩
  · cases hmade

theorem yields_elementsBy (h : w.IsWhole) (hslot : w.Has slot)
    {further : Slot → Except Fault (World × List Slot)}
    (hfurther : ∀ v made, w.Has v → further v = .ok made → Yields HasAll w made)
    {made : World × List Slot} (hmade : w.elementsBy further slot = .ok made) :
    Yields HasAll w made := by
  unfold elementsBy at hmade
  split at hmade
  · split at hmade
    · cases hmade
      refine ⟨.refl h, hasAll_of_atoms (fun slot hslot => ?_) w⟩
      obtain ⟨entry, -, rfl⟩ := List.mem_map.mp hslot
      exact ⟨_, rfl⟩
    · cases hmade
  · exact yields_parts h hmade
  · rename_i p
    split at hmade
    · rename_i yielded items hcell
      cases hmade
      have hspent : Sound w (w.set p (.seq (.iterator (yielded + items.length)) [])) :=
        sound_set h (List.forall_mem_nil _)
      exact ⟨hspent, hspent.hasAll (h.parts _ _ hcell)⟩
    · rename_i kind items _ hcell
      cases hmade
      exact ⟨.refl h, h.parts _ _ hcell⟩
    · rename_i entries hcell
      cases hmade
      exact ⟨.refl h, fun slot hslot => h.parts _ _ hcell slot (List.mem_append_left _ hslot)⟩
    · rename_i name core attributes hcell
      split at hmade
      · cases hmade
        exact ⟨.refl h, hasAll_nil w⟩
      · split at hmade
        · rename_i v hfound
          exact hfurther v made (h.attributes hcell _ (mem_of_lookup hfound)) hmade
        · cases hmade
      · cases hmade
      · split at hmade
        · rw [← Except.ok.inj hmade]
          exact yields_pairUp h ((h.attributes hcell).filter _)
        · exact yields_parts h hmade
    · cases hmade

/-- What an object yields is there. -/
theorem yields_elements (h : w.IsWhole) (hslot : w.Has slot) {made : World × List Slot}
    (hmade : w.elements slot = .ok made) : Yields HasAll w made := by
  unfold elements at hmade
  revert hmade
  generalize callLimit = depth
  intro hmade
  induction depth generalizing slot made with
  | zero =>
      refine yields_elementsBy h hslot (fun v made _ hfails => ?_) hmade
      cases hfails
  | succ depth ih => exact yields_elementsBy h hslot (fun _ _ hv hv' => ih hv hv') hmade

theorem yields_yielded (h : w.IsWhole) (hslot : w.Has slot) {made : World × List Slot}
    (hmade : w.yielded slot = .ok made) : Yields HasAll w made := by
  unfold yielded at hmade
  split at hmade
  · cases hmade
    exact ⟨.refl h, hasAll_nil w⟩
  · exact yields_elements h hslot hmade

theorem hasAll_concat {items : List Slot} (h : w.HasAll items) (hv : w.Has v) :
    w.HasAll (items ++ [v]) :=
  List.forall_mem_append.mpr ⟨h, List.forall_mem_singleton.mpr hv⟩

theorem hasAll_appendByte {items grown : List Slot} (h : w.HasAll items)
    (hgrown : appendByte items v = .ok grown) : w.HasAll grown := by
  have happend : ∀ n : Int, (if 0 ≤ n ∧ n < 256 then Except.ok (items ++ [Slot.atom (.int n)])
      else .error (Fault.value "byte must be in range(0, 256)")) = .ok grown → w.HasAll grown := by
    intro n hn
    split at hn
    · cases hn
      exact hasAll_concat h (has_atom w _)
    · cases hn
  unfold appendByte at hgrown
  dsimp only at hgrown
  split at hgrown
  · exact happend _ hgrown
  · exact happend _ hgrown
  · cases hgrown

theorem hasAll_insertInto {items grown : List Slot} (h : w.HasAll items) (hv : w.Has v)
    (hgrown : w.insertInto items v = .ok grown) : w.HasAll grown := by
  unfold insertInto at hgrown
  split at hgrown
  · cases hgrown
  · split at hgrown
    · cases hgrown
      exact h
    · cases hgrown
      exact hasAll_concat h hv

/-- A method of a program's own keeps elements and makes none. -/
theorem hasAll_arrange {adder : Adder} {items grown : List Slot} (h : w.HasAll items)
    (hv : w.Has v) (hgrown : w.arrange adder items v = .ok grown) : w.HasAll grown := by
  obtain ⟨numbers, -, hgrown⟩ := bind_eq_ok.mp hgrown
  cases hgrown
  intro slot hslot
  obtain ⟨n, -, hn⟩ := List.mem_filterMap.mp hslot
  exact hasAll_concat h hv slot (List.mem_of_getElem? hn)

theorem hasAll_call {m : Adding} {kind : SeqKind} {items grown : List Slot} (h : w.HasAll items)
    (hv : w.Has v) (hgrown : w.call m kind items v = .ok grown) : w.HasAll grown := by
  unfold call at hgrown
  split at hgrown
  · cases hgrown
    exact hasAll_concat h hv
  · cases hgrown
    exact hasAll_concat h hv
  · exact hasAll_appendByte h hgrown
  · exact hasAll_insertInto h hv hgrown
  · split at hgrown
    · exact hasAll_arrange h hv hgrown
    · cases hgrown
      exact h
  · cases hgrown

theorem sound_addElement (h : w.IsWhole) (hv : w.Has v)
    (hadd : w.addElement target v = .ok w') : Sound w w' := by
  unfold addElement at hadd
  split at hadd
  · cases hadd
  · cases hadd
    exact .refl h
  · split at hadd
    · rename_i kind items hcell
      obtain ⟨grown, hgrown, hadd⟩ := bind_eq_ok.mp hadd
      cases hadd
      exact sound_set h (hasAll_call (h.parts _ _ hcell) hv hgrown)
    · cases hadd
      exact .refl h

theorem sound_afterConversion (h : w.IsWhole) (u : Value) (type : TypeExpr) :
    Sound w (w.afterConversion u type) := ⟨⟨h.parts, h.constants⟩, Nat.le_refl _⟩

theorem sound_addConverted (h : w.IsWhole) (target : Slot) (elementType : TypeExpr)
    {items : List Slot} (hitems : w.HasAll items) :
    Sound w (w.addConverted target elementType items).1 := by
  induction items generalizing w with
  | nil => exact .refl h
  | cons item rest ih =>
      obtain ⟨hitem, hrest⟩ := List.forall_mem_cons.mp hitems
      have hafter := sound_afterConversion h (w.load item) elementType
      cases hnone : item.isNone with
      | true =>
          unfold addConverted
          rw [if_pos hnone]
          exact ih h hrest
      | false =>
          rw [addConverted_cons hnone]
          cases hconverted : Conversion.convertWith w.classes w.schemas (w.load item) elementType with
          | error fault => exact hafter
          | ok u =>
              have hu : u.Within (· < w.store.size) := by
                unfold Conversion.convertWith at hconverted
                split at hconverted
                · cases hconverted
                · exact Conversion.within_of_convertPresent (h.load_within hitem) hconverted
              have hnew := yields_intern hafter.whole hu
              have hmade := hafter.trans hnew.sound
              show Sound w (goOn _ _ (addElement _ target _)).1
              cases hadd : addElement _ target _ with
              | error fault => exact hmade
              | ok w₁ =>
                  have hadded := hmade.trans (sound_addElement hmade.whole hnew.there hadd)
                  exact hadded.trans (ih hadded.whole (hadded.hasAll hrest))

theorem sound_copyElements (h : w.IsWhole) (hsource : w.Has source) (target : Slot)
    (elementType : TypeExpr) : Sound w (w.copyElements source target elementType).1 := by
  unfold copyElements
  split
  · exact .refl h
  · rename_i heq
    exact (yields_yielded h hsource heq).sound
  · rename_i heq
    obtain ⟨hsound, hitems⟩ := yields_yielded h hsource heq
    split
    · exact hsound
    · split
      · exact hsound
      · exact hsound.trans (sound_addConverted hsound.whole target elementType hitems)

/-! ## Collections that are filled -/

/-- Whether a slot holds a collection of a predefined kind or one that a program declares. -/
def HoldsSeq (w : World) (slot : Slot) : Prop :=
  ∃ p kind items, slot = .ref p ∧ w.store.get? p = some (.seq kind items)

theorem HoldsSeq.of_extends (h : w.HoldsSeq slot) (hw : Extends w w') : w'.HoldsSeq slot := by
  obtain ⟨p, kind, items, rfl, hcell⟩ := h
  exact ⟨p, kind, items, rfl, (hw.cells p (Store.lt_of_get? hcell) not_false).trans hcell⟩

theorem HoldsSeq.of_spends (h : w.HoldsSeq slot) (hw : Spends (fun _ => False) w w') :
    w'.HoldsSeq slot := by
  obtain ⟨p, kind, items, rfl, hcell⟩ := h
  rcases hw.cells p (Store.lt_of_get? hcell) not_false with hsame | ⟨-, yielded, hspent⟩
  · exact ⟨p, kind, items, rfl, hsame.trans hcell⟩
  · exact ⟨p, _, [], rfl, hspent⟩

theorem HoldsSeq.addElement (h : w.HoldsSeq target) (hadd : w.addElement target v = .ok w') :
    w'.HoldsSeq target := by
  obtain ⟨p, kind, items, rfl, hcell⟩ := h
  unfold World.addElement at hadd
  cases hm : w.classes.adding? (w.classOf (.ref p)) with
  | none =>
      rw [hm] at hadd
      cases hadd
  | some m =>
    simp only [hm, hcell] at hadd
    obtain ⟨grown, -, hadd⟩ := bind_eq_ok.mp hadd
    cases hadd
    exact ⟨p, kind, grown, rfl, Store.get?_set_self (Store.lt_of_get? hcell)⟩

theorem HoldsSeq.addConverted (h : w.HoldsSeq target) (elementType : TypeExpr) (items : List Slot) :
    (w.addConverted target elementType items).1.HoldsSeq target := by
  induction items generalizing w with
  | nil => exact h
  | cons item rest ih =>
      unfold World.addConverted
      split
      · exact ih h
      · split
        · rename_i heq
          exact h.of_extends (convert_extends heq)
        · rename_i w₁ u heq
          have hmade := h.of_extends ((convert_extends heq).trans (intern_extends w₁ u))
          dsimp only
          split
          · exact hmade
          · rename_i w₂ hadd
            exact ih (hmade.addElement hadd)

theorem HoldsSeq.copyElements (h : w.HoldsSeq target) (source : Slot) (elementType : TypeExpr) :
    (w.copyElements source target elementType).1.HoldsSeq target := by
  unfold World.copyElements
  split
  · exact h
  · rename_i heq
    exact h.of_spends (yielded_spends heq)
  · rename_i heq
    have hyielded := h.of_spends (yielded_spends heq)
    split
    · exact hyielded
    · split
      · exact hyielded
      · exact hyielded.addConverted elementType _

/-- A collection is finished to one that is there.  What else an object yields may be new, and is
lost then. -/
theorem yields_finishCollection (h : w.IsWhole) {finish : Finish} (hv : w.Has v)
    (hseq : finish = .asIs ∨ w.HoldsSeq v) : Yields Has w (w.finishCollection finish v) := by
  have hasIs : Yields Has w (w, v) := ⟨.refl h, hv⟩
  rcases hseq with rfl | ⟨p, kind, held, rfl, hcell⟩
  · exact hasIs
  · have hitems : ∀ made, w.elements (.ref p) = .ok made → w.HasAll made.2 := by
      intro made hmade
      obtain ⟨w', hyields⟩ := elements_of_seq hcell
      obtain rfl : (w', held) = made := Except.ok.inj (hyields.symm.trans hmade)
      exact h.parts p _ hcell
    unfold finishCollection
    split
    · rename_i heq
      exact yields_alloc h _ (hitems _ heq)
    · rename_i heq
      exact yields_alloc h _ (hitems _ heq)
    · exact hasIs

/-- Whether what comes of a step that does not fail is there. -/
def HasResult (w : World) (result : Except Fault Slot) : Prop := ∀ v, result = .ok v → w.Has v

theorem hasResult_ok (hv : w.Has v) : w.HasResult (.ok v) := by
  intro u hu
  rw [← Except.ok.inj hu]
  exact hv

theorem hasResult_error (w : World) (fault : Fault) : w.HasResult (.error fault) := by
  intro u hu
  cases hu

theorem yields_fillCollection (h : w.IsWhole) (elementType : TypeExpr) {finish : Finish}
    (hsource : w.Has source) (hv : w.Has v) (hseq : finish = .asIs ∨ w.HoldsSeq v) :
    Yields HasResult w (w.fillCollection elementType finish source v) := by
  have hcopied := sound_copyElements h hsource v elementType
  have hkept := hseq.imp_right fun hseq => hseq.copyElements source elementType
  rw [fillCollection_eq]
  revert hcopied hkept
  generalize w.copyElements source v elementType = copied
  intro hcopied hkept
  obtain ⟨w₁, outcome⟩ := copied
  cases outcome with
  | some fault => exact ⟨hcopied, hasResult_error _ fault⟩
  | none =>
      have hfinished := yields_finishCollection hcopied.whole (hcopied.has hv) hkept
      exact ⟨hcopied.trans hfinished.sound, hasResult_ok hfinished.there⟩

/-! ## Converters -/

theorem predefinedItems?_eq_some {kind : SeqKind} {items : List Slot}
    (h : w.predefinedItems? slot = some (kind, items)) :
    ∃ p, slot = .ref p ∧ w.store.get? p = some (.seq kind items) := by
  unfold predefinedItems? at h
  split at h
  · cases h
  · rename_i p
    split at h
    · cases h
    · cases h
    · rename_i hcell
      cases h
      exact ⟨p, rfl, hcell⟩
    · cases h

theorem yields_double (h : w.IsWhole) {made : World × Slot} (hmade : w.double slot = .ok made) :
    Yields Has w made := by
  unfold double at hmade
  split at hmade
  · obtain ⟨a, -, rfl⟩ := map_eq_ok.mp hmade
    exact ⟨.refl h, has_atom w a⟩
  · cases hmade
  · cases hmade
  · cases hmade
  · rename_i hfound
    cases hmade
    obtain ⟨p, -, hcell⟩ := predefinedItems?_eq_some hfound
    have hitems := h.parts p _ hcell
    exact yields_alloc h _ (List.forall_mem_append.mpr ⟨hitems, hitems⟩)

theorem yields_upper (h : w.IsWhole) {made : World × Slot} (hmade : w.upper slot = .ok made) :
    Yields Has w made := by
  unfold upper at hmade
  split at hmade
  · cases hmade
    exact ⟨.refl h, has_atom w _⟩
  · cases hmade
    exact ⟨.refl h, has_atom w _⟩
  · rename_i hfound
    cases hmade
    obtain ⟨p, -, hcell⟩ := predefinedItems?_eq_some hfound
    refine yields_alloc h _ (List.forall_mem_map.mpr fun item hitem => ?_)
    split
    · exact has_atom w _
    · exact h.parts p _ hcell item hitem
  · cases hmade

theorem yields_toIntegers (h : w.IsWhole) {made : World × Slot}
    (hmade : w.toIntegers slot = .ok made) : Yields Has w made := by
  unfold toIntegers at hmade
  split at hmade
  · cases hmade
  · split at hmade
    · rename_i entries hcell
      obtain ⟨converted, hconverted, hmade⟩ := bind_eq_ok.mp hmade
      cases hmade
      refine yields_alloc h _ (Cell.forall_slots_dict fun entry hentry => ?_)
      obtain ⟨old, hold, hnew⟩ := exists_of_mem_mapM hconverted hentry
      obtain ⟨n, -, hnew⟩ := bind_eq_ok.mp hnew
      cases hnew
      exact ⟨h.parts _ _ hcell _ (Cell.mem_slots_dict hold).1, has_atom w _⟩
    · cases hmade

theorem yields_toText (h : w.IsWhole) {made : World × Slot} (hmade : w.toText slot = .ok made) :
    Yields Has w made := by
  unfold toText at hmade
  split at hmade
  · cases hmade
    exact ⟨.refl h, has_atom w _⟩
  · cases hmade

theorem yields_applyFunction (h : w.IsWhole) (hslot : w.Has slot) {f : Function}
    {made : World × Slot} (hmade : w.applyFunction f slot = .ok made) : Yields Has w made := by
  unfold applyFunction at hmade
  cases f with
  | identity =>
      cases hmade
      exact ⟨.refl h, hslot⟩
  | isNone | number =>
      cases hmade
      exact ⟨.refl h, has_atom w _⟩
  | text => exact yields_toText h hmade
  | double => exact yields_double h hmade
  | length =>
      dsimp only at hmade
      split at hmade
      · cases hmade
        exact ⟨.refl h, has_atom w _⟩
      · cases hmade
  | upper => exact yields_upper h hmade
  | decimal =>
      dsimp only at hmade
      split at hmade
      · obtain ⟨d, -, rfl⟩ := map_eq_ok.mp hmade
        exact ⟨.refl h, has_atom w _⟩
      · cases hmade
        exact ⟨.refl h, has_atom w _⟩
  | integers => exact yields_toIntegers h hmade
  | failing => cases hmade

/-- What a converter makes of something that is there is there. -/
theorem yields_applyConverter (h : w.IsWhole) (hslot : w.Has slot) {f : Converter}
    {made : World × Slot} (hmade : w.applyConverter f slot = .ok made) : Yields Has w made := by
  unfold applyConverter at hmade
  split at hmade
  · exact yields_applyFunction h hslot hmade
  · obtain ⟨u, hu, rfl⟩ := map_eq_ok.mp hmade
    exact yields_intern h (PureFunction.within_apply _ (h.load_within hslot) hu)
  · exact yields_toText h hmade
  · cases hmade
    exact ⟨.refl h, has_atom w _⟩
  · obtain ⟨n, -, rfl⟩ := map_eq_ok.mp hmade
    exact ⟨.refl h, has_atom w _⟩
  · obtain ⟨d, -, rfl⟩ := map_eq_ok.mp hmade
    exact ⟨.refl h, has_atom w _⟩
  · have hargs : w.HasArguments ⟨[slot], []⟩ :=
      ⟨List.forall_mem_singleton.mpr hslot, hasNamed_nil w⟩
    exact yields_createWith h hargs hmade
  · cases hmade
    exact ⟨.refl h, has_atom w _⟩

/-! ## Steps -/

theorem HoldsSeq.of_create {b : Builtin} (hb : b = .list ∨ b = .set)
    (hmade : w.create (.builtin b) [] = .ok (w', v)) : w'.HoldsSeq v := by
  rcases hb with rfl | rfl <;> cases hmade <;>
    exact ⟨_, _, _, rfl, Store.get?_alloc_self w.store _⟩

theorem yields_transferValue (h : w.IsWhole) {a : Assignment Converter}
    (ha : a.operation.IsSteady w.store.size) (hv : w.Has v) :
    Yields HasResult w (w.transferValue a v) := by
  have hsame : Yields HasResult w (w, .ok v) := ⟨.refl h, hasResult_ok hv⟩
  have hnew : ∀ {w₁ u}, Sound w w₁ → u.Within (· < w₁.store.size) →
      Yields HasResult w ((w₁.intern u).1, .ok (w₁.intern u).2) := by
    intro w₁ u hsound hu
    have hmade := yields_intern hsound.whole hu
    exact ⟨hsound.trans hmade.sound, hasResult_ok hmade.there⟩
  have hgiven := ha.given
  unfold transferValue
  split
  · rename_i default hoperation
    rw [hoperation] at hgiven
    split
    · exact hnew (.refl h) hgiven
    · exact hsame
  · rename_i f _
    unfold orUnchanged
    split
    · rename_i heq
      have hmade := yields_applyConverter h hv heq
      exact ⟨hmade.sound, hasResult_ok hmade.there⟩
    · exact ⟨.refl h, hasResult_error w _⟩
  · rename_i default hoperation
    rw [hoperation] at hgiven
    refine hnew (sound_afterConversion h _ _) ?_
    show (Conversion.convertOrWith w.classes w.schemas (w.load v) _ default).Within _
    unfold Conversion.convertOrWith
    split
    · exact hgiven
    · split
      · rename_i hconverted
        exact Conversion.within_of_convertPresent (h.load_within hv) hconverted
      · exact hgiven
  · exact hsame

/-- What a step makes of a source that is there is there. -/
theorem yields_transferred (h : w.IsWhole) {a : Assignment Converter}
    (ha : a.operation.IsSteady w.store.size) (hsource : w.Has source) :
    Yields HasResult w (w.transferred a source) := by
  cases hmakes : makesCollection a.operation with
  | false =>
      rw [transferred_of_not_makesCollection hmakes]
      cases hread : w.getAttribute source a.source.name with
      | error fault => exact ⟨.refl h, hasResult_error w fault⟩
      | ok read =>
          have hvalue := yields_getAttribute h hsource hread
          exact .of_sound hvalue.sound
            (yields_transferValue hvalue.sound.whole (ha.mono hvalue.sound.size) hvalue.there)
  | true =>
      cases hoperation : a.operation with
      | copyCollection elementType builder copies =>
          rw [transferred_copyCollection hoperation]
          cases hcreated : w.create builder.create [] with
          | error fault => exact ⟨.refl h, hasResult_error w fault⟩
          | ok created =>
              obtain ⟨w₁, collection⟩ := created
              obtain ⟨hsound, hcollection⟩ := yields_create h (hasNamed_nil w) hcreated
              have hseq : builder.finish = .asIs ∨ w₁.HoldsSeq collection := by
                rcases ha.finishes elementType builder copies hoperation with hasIs | hlist | hset
                · exact .inl hasIs
                · rw [hlist] at hcreated
                  exact .inr (.of_create (.inl rfl) hcreated)
                · rw [hset] at hcreated
                  exact .inr (.of_create (.inr rfl) hcreated)
              show Yields HasResult w
                (fill source a.source.name elementType builder.finish copies w₁ collection)
              unfold fill
              split
              · cases hread : w₁.getAttribute source a.source.name with
                | error fault => exact ⟨hsound, hasResult_error w₁ fault⟩
                | ok read =>
                    have hvalue := yields_getAttribute hsound.whole (hsound.has hsource) hread
                    have hlater := getAttribute_extends hread
                    exact .of_sound (hsound.trans hvalue.sound)
                      (yields_fillCollection hvalue.sound.whole elementType hvalue.there
                        (hvalue.sound.has hcollection)
                        (hseq.imp_right fun hseq => hseq.of_extends hlater))
              · have hfinished := yields_finishCollection hsound.whole hcollection hseq
                exact ⟨hsound.trans hfinished.sound, hasResult_ok hfinished.there⟩
      | _ =>
          rw [hoperation] at hmakes
          cases hmakes

theorem sound_transferMember (h : w.IsWhole) {a : Assignment Converter}
    (ha : a.operation.IsSteady w.store.size) (hsource : w.Has source) (target : Slot) :
    Sound w (w.transferMember a source target).1 := by
  have hvalue := yields_transferred h ha hsource
  rw [transferMember_eq]
  apply hvalue.sound.trans
  cases hresult : (w.transferred a source).2 with
  | error fault => exact .refl hvalue.sound.whole
  | ok v =>
      show Sound _ (goOn _ _ (setAttribute _ target a.target.name v)).1
      cases hset : setAttribute _ target a.target.name v with
      | error fault => exact .refl hvalue.sound.whole
      | ok w₁ => exact sound_setAttribute hvalue.sound.whole (hvalue.there v hresult) hset

/-- A run of steps leaves a whole world, whether it comes to an end or fails on the way. -/
theorem sound_transferMembers (h : w.IsWhole) {steps : List (Assignment Converter)}
    (hsteps : ∀ a ∈ steps, a.operation.IsSteady w.store.size) (hsource : w.Has source)
    (target : Slot) : Sound w (w.transferMembers source target steps).1 := by
  induction steps generalizing w with
  | nil => exact .refl h
  | cons a rest ih =>
      obtain ⟨ha, hrest⟩ := List.forall_mem_cons.mp hsteps
      have hfirst := sound_transferMember h ha hsource target
      rw [transferMembers_cons]
      revert hfirst
      generalize w.transferMember a source target = step
      intro hfirst
      obtain ⟨w₁, outcome⟩ := step
      cases outcome with
      | some fault => exact hfirst
      | none =>
          exact hfirst.trans (ih hfirst.whole (fun b hb => (hrest b hb).mono hfirst.size)
            (hfirst.has hsource))

/-- What an object of a whole world holds is there. -/
theorem IsWhole.has_of_held (h : w.IsWhole) {p : Place} {name : String}
    (hheld : w.held? p name = some v) : w.Has v := by
  unfold held? at hheld
  split at hheld
  · rename_i hcell
    exact (h.attributes hcell).lookup hheld
  · cases hheld

end World

end Memberwise
