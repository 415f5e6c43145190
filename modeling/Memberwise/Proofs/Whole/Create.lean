import Memberwise.Proofs.Parallel.Create
import Memberwise.Proofs.Whole.World

/-! # Creation in whole worlds

An initializer stores what it is given, what classes keep, and new objects.  So what is created of
arguments that are there is there, with all that it holds.
-/

namespace Memberwise.World

variable {w w' : World} {v : Slot} {p : Place}

/-! ## Arguments -/

def HasOption (w : World) (o : Option Slot) : Prop := ∀ v, o = some v → w.Has v

theorem hasOption_none (w : World) : w.HasOption none := by
  intro v hv
  cases hv

theorem hasOption_some (hv : w.Has v) : w.HasOption (some v) := by
  intro u hu
  rw [← Option.some.inj hu]
  exact hv

structure HasArguments (w : World) (args : Arguments) : Prop where
  positional : w.HasAll args.positional
  named : w.HasNamed args.named

structure HasCall (w : World) (call : Call) : Prop where
  given : w.HasNamed call.given
  rest : w.HasAll call.rest
  restNamed : w.HasNamed call.restNamed

theorem hasNamed_nil (w : World) : w.HasNamed [] := List.forall_mem_nil _

theorem hasAll_nil (w : World) : w.HasAll [] := List.forall_mem_nil _

theorem HasNamed.append {named others : List (String × Slot)} (h : w.HasNamed named)
    (hothers : w.HasNamed others) : w.HasNamed (named ++ others) :=
  List.forall_mem_append.mpr ⟨h, hothers⟩

theorem HasNamed.filter {named : List (String × Slot)} (h : w.HasNamed named)
    (p : String × Slot → Bool) : w.HasNamed (named.filter p) :=
  fun entry hentry => h entry (List.mem_of_mem_filter hentry)

theorem hasNamed_concat {named : List (String × Slot)} (h : w.HasNamed named) (name : String)
    (hv : w.Has v) : w.HasNamed (named ++ [(name, v)]) :=
  h.append (List.forall_mem_singleton.mpr hv)

theorem Sound.hasCall (h : Sound w w') {call : Call} (hcall : w.HasCall call) : w'.HasCall call :=
  ⟨h.hasNamed hcall.given, h.hasAll hcall.rest, h.hasNamed hcall.restNamed⟩

theorem Sound.hasArguments (h : Sound w w') {args : Arguments} (hargs : w.HasArguments args) :
    w'.HasArguments args := ⟨h.hasAll hargs.positional, h.hasNamed hargs.named⟩

theorem HasArguments.distribute {args : Arguments} (h : w.HasArguments args)
    {params : List Parameter} {call : Call} (hcall : args.distribute params = .ok call) :
    w.HasCall call := by
  unfold Arguments.distribute at hcall
  dsimp only at hcall
  rw [List.partition_eq_filter_filter] at hcall
  have hposition : ∀ names : List String, w.HasNamed (names.zip args.positional) :=
    fun names entry hentry => h.positional _ (List.of_mem_zip hentry).2
  split at hcall
  · cases hcall
  split at hcall
  · cases hcall
  split at hcall
  · cases hcall
  split at hcall
  · cases hcall
  · cases hcall
    exact ⟨(hposition _).append (h.named.filter _),
      fun slot hslot => h.positional slot (List.mem_of_mem_drop hslot), h.named.filter _⟩

/-! ## Initializers -/

theorem yields_parameterValue (h : w.IsWhole) (owner : String) {call : Call}
    (hcall : w.HasCall call) (parameter : Parameter) :
    Yields Has w (w.parameterValue owner call parameter) := by
  unfold parameterValue
  split
  · exact yields_alloc h _ hcall.rest
  · exact yields_alloc h _ (Cell.forall_slots_dict (List.forall_mem_map.mpr fun entry hentry =>
      ⟨has_atom w _, hcall.restNamed entry hentry⟩))
  · refine ⟨.refl h, ?_⟩
    cases hfound : call.given.lookup parameter.name with
    | none => exact h.constant _
    | some v => exact hcall.given.lookup hfound

theorem yields_parameterValues (h : w.IsWhole) (owner : String) (params : List Parameter)
    {call : Call} (hcall : w.HasCall call) :
    Yields HasNamed w (w.parameterValues owner params call) := by
  refine foldl_invariant (Yields HasNamed w) ?_ params ⟨.refl h, hasNamed_nil w⟩
  rintro ⟨w₁, bound⟩ parameter ⟨hsound, hbound⟩
  have hmade := yields_parameterValue hsound.whole owner (hsound.hasCall hcall) parameter
  exact ⟨hsound.trans hmade.sound,
    hasNamed_concat (hmade.sound.hasNamed hbound) parameter.name hmade.there⟩

theorem IsWhole.fieldDefault (h : w.IsWhole) (owner name : String) :
    w.Has (w.fieldDefault owner name) := by
  rw [fieldDefault_eq]
  cases hkept : (keepersOf? w.classes owner name).bind fun keepers =>
      keepers.findSome? fun keeper => List.lookup (.attribute keeper name) w.constants with
  | none => exact has_atom w _
  | some slot =>
      obtain ⟨keepers, -, hfound⟩ := Option.bind_eq_some_iff.mp hkept
      obtain ⟨keeper, -, hkeeper⟩ := List.exists_of_findSome?_eq_some hfound
      exact h.constants _ slot hkeeper

theorem yields_internCopy (h : w.IsWhole) (u : Value) : Yields Has w (w.internCopy u) :=
  yields_placeless h fun _ => Value.rename_detach u

theorem yields_initialFieldValue (h : w.IsWhole) (owner : String) (usesSlots : Bool) {call : Call}
    (hcall : w.HasCall call) (f : Field) :
    Yields HasOption w (w.initialFieldValue owner usesSlots call f) := by
  have hnone : Yields HasOption w (w, none) := ⟨.refl h, hasOption_none w⟩
  unfold initialFieldValue
  split
  · exact hnone
  · split
    · rename_i v _ hgiven
      refine ⟨.refl h, hasOption_some ?_⟩
      split at hgiven
      · exact hcall.given.lookup hgiven
      · cases hgiven
    · rename_i u _ _
      have hmade := yields_internCopy h u
      exact ⟨hmade.sound, hasOption_some hmade.there⟩
    · refine ⟨.refl h, ?_⟩
      intro v hv
      dsimp only at hv
      split at hv
      · cases hv
        exact h.fieldDefault owner f.name
      · cases hv
    · exact hnone

theorem sound_initializeField (h : w.IsWhole) {owner : String} {options : RecordOptions}
    {call : Call} (hcall : w.HasCall call) {f : Field}
    (hset : initializeField p owner options call w f = .ok w') : Sound w w' := by
  have hvalue := yields_initialFieldValue h owner options.usesSlots hcall f
  unfold initializeField at hset
  split at hset
  · rename_i heq
    rw [heq] at hvalue
    cases hset
    exact hvalue.sound
  · rename_i v heq
    rw [heq] at hvalue
    have hv := hvalue.there v rfl
    apply hvalue.sound.trans
    split at hset
    · exact sound_setDirectly hvalue.sound.whole hv hset
    · exact sound_setAttribute hvalue.sound.whole hv hset

theorem sound_initializeRecord (h : w.IsWhole) {owner : String} {options : RecordOptions}
    {args : Arguments} (hargs : w.HasArguments args)
    (hset : w.initializeRecord p owner options args = .ok w') : Sound w w' := by
  rw [initializeRecord_eq] at hset
  split at hset
  · cases hset
  · rename_i call hbind
    refine foldlM_invariant (Sound w) ?_ hset (.refl h)
    intro w₁ f w₂ hstep hsound
    exact hsound.trans
      (sound_initializeField hsound.whole (hsound.hasCall (hargs.distribute hbind)) hstep)

theorem hasAll_valuesOf {bound : List (String × Slot)} (h : w.HasNamed bound) {names : List String}
    {values : List Slot} (hvalues : valuesOf bound names = .ok values) : w.HasAll values := by
  intro v hv
  obtain ⟨name, -, hfound⟩ := exists_of_mem_mapM hvalues hv
  split at hfound
  · rename_i heq
    cases hfound
    exact h.lookup heq
  · cases hfound

theorem sound_storeAll {store : World → String → Slot → Except Fault World}
    (hstore : ∀ w, w.IsWhole → ∀ name v, w.Has v → ∀ w', store w name v = .ok w' → Sound w w')
    (h : w.IsWhole) {bound : List (String × Slot)} (hbound : w.HasNamed bound)
    {pairs : List (String × String)} (hset : storeAll store bound w pairs = .ok w') :
    Sound w w' := by
  refine foldlM_invariant (Sound w) ?_ hset (.refl h)
  rintro w₁ ⟨target, name⟩ w₂ hstep hsound
  dsimp only at hstep
  split at hstep
  · rename_i v hfound
    exact hsound.trans
      (hstore w₁ hsound.whole target v (hsound.has (hbound.lookup hfound)) w₂ hstep)
  · cases hstep

theorem sound_storeParameters (h : w.IsWhole) {init : Initializer} {bound : List (String × Slot)}
    (hbound : w.HasNamed bound) (hset : storeParameters p init bound w = .ok w') : Sound w w' := by
  obtain ⟨w₁, hstored, hset⟩ := bind_eq_ok.mp hset
  have hfirst : Sound w w₁ :=
    sound_storeAll (fun _ hw _ _ hv _ => sound_setAttribute hw hv) h hbound hstored
  split at hset
  · cases hset
  · exact hfirst.trans (sound_storeAll (fun _ hw _ _ hv _ => sound_setDirectly hw hv)
      hfirst.whole (hfirst.hasNamed hbound) hset)

theorem sound_runDeclared (h : w.IsWhole)
    {further : World → Arguments → Except Fault World}
    (hfurther : ∀ w, w.IsWhole → ∀ args, w.HasArguments args → ∀ w', further w args = .ok w' →
      Sound w w')
    {owner : String} {init : Initializer} {args : Arguments} (hargs : w.HasArguments args)
    (hset : runDeclared p further owner init w args = .ok w') : Sound w w' := by
  unfold runDeclared at hset
  split at hset
  · cases hset
  · rename_i call hbind
    have hvalues := yields_parameterValues h owner init.parameters (hargs.distribute hbind)
    have hwhole := hvalues.sound.whole
    have hbound : HasNamed _ _ := hvalues.there
    apply hvalues.sound.trans
    dsimp only at hset
    split at hset
    · exact sound_storeParameters hwhole hbound hset
    · split at hset
      · cases hset
      · obtain ⟨values, hgiven, hset⟩ := bind_eq_ok.mp hset
        obtain ⟨w₁, hforwarded, hset⟩ := bind_eq_ok.mp hset
        have hnext := hfurther _ hwhole _ ⟨hasAll_valuesOf hbound hgiven, hasNamed_nil _⟩ _ hforwarded
        exact hnext.trans (sound_storeParameters hnext.whole (hnext.hasNamed hbound) hset)

theorem sound_runInitializer (h : w.IsWhole) {lineage : List ClassRef} {args : Arguments}
    (hargs : w.HasArguments args) (hset : w.runInitializer p lineage args = .ok w') :
    Sound w w' := by
  induction lineage generalizing w w' args with
  | nil =>
      obtain ⟨-, -, rfl⟩ := initializeBuiltin_eq_ok.mp hset
      exact .refl h
  | cons c rest ih =>
      cases c with
      | builtin b =>
          rw [runInitializer_builtin] at hset
          split at hset
          · obtain ⟨-, -, rfl⟩ := initializeBuiltin_eq_ok.mp hset
            exact .refl h
          · exact ih h hargs hset
      | declared name =>
          rw [runInitializer_declared] at hset
          split at hset
          · exact ih h hargs hset
          · split at hset
            · exact sound_runDeclared h (fun _ hw _ hnext _ => ih hw hnext) hargs hset
            · split at hset
              · exact sound_initializeRecord h hargs hset
              · exact ih h hargs hset
            · split at hset
              · have hitems := yields_alloc h (.seq .list []) (hasAll_nil w)
                exact hitems.sound.trans (sound_setAttribute hitems.sound.whole hitems.there hset)
              · cases hset
            · exact ih h hargs hset

/-! ## Creation -/

theorem yields_createBuiltin (h : w.IsWhole) {b : Builtin} {made : World × Slot}
    (hmade : w.createBuiltin b = .ok made) : Yields Has w made := by
  have hatom : ∀ a, Yields Has w (w, .atom a) := fun a => ⟨.refl h, has_atom w a⟩
  unfold createBuiltin at hmade
  split at hmade
  all_goals first
    | (cases hmade; exact hatom _)
    | (cases hmade; exact yields_alloc h _ (hasAll_nil w))
    | cases hmade

theorem yields_modelDefault (h : w.IsWhole) (c : ClassRef) (f : Field) :
    Yields HasOption w (w.modelDefault c f) := by
  have hcopy : ∀ u, Yields HasOption w ((w.internCopy u).1, some (w.internCopy u).2) := by
    intro u
    have hmade := yields_internCopy h u
    exact ⟨hmade.sound, hasOption_some hmade.there⟩
  unfold modelDefault
  split
  · exact ⟨.refl h, hasOption_none w⟩
  · exact hcopy _
  · exact hcopy _

/-- Whether names that are not used yet and attributes that have been made are there. -/
def HasBoth (w : World) (state : List (String × Slot) × List (String × Slot)) : Prop :=
  w.HasNamed state.1 ∧ w.HasNamed state.2

theorem yields_constructField {c : ClassRef} (f : Field)
    {state : World × List (String × Slot) × List (String × Slot)} (h : Yields HasBoth w state) :
    Yields HasBoth w (constructField c state f) := by
  obtain ⟨w₁, left, attributes⟩ := state
  obtain ⟨hsound, hleft, hattributes⟩ := h
  have hdefault : Yields HasBoth w (withDefault left attributes f.name (w₁.modelDefault c f)) := by
    have hmade := yields_modelDefault hsound.whole c f
    revert hmade
    generalize w₁.modelDefault c f = made
    rintro ⟨hnew, hv⟩
    obtain ⟨w₂, v⟩ := made
    have hlater := hnew.hasNamed hattributes
    cases v with
    | none => exact ⟨hsound.trans hnew, hnew.hasNamed hleft, hlater⟩
    | some v =>
        exact ⟨hsound.trans hnew, hnew.hasNamed hleft, hasNamed_concat hlater f.name (hv v rfl)⟩
  unfold constructField
  dsimp only
  split
  · rename_i key v hfound
    obtain ⟨key', -, hkey⟩ := Option.bind_eq_some_iff.mp hfound
    obtain ⟨found, hlookup, heq⟩ := Option.map_eq_some_iff.mp hkey
    cases heq
    exact ⟨hsound, hleft.filter _, hasNamed_concat hattributes f.name (hleft.lookup hlookup)⟩
  · exact hdefault

theorem yields_constructHidden {left : List (String × Slot)} (hleft : w.HasNamed left)
    (entry : String × Value) {state : World × List (String × Slot)}
    (h : Yields HasNamed w state) : Yields HasNamed w (constructHidden left state entry) := by
  obtain ⟨w₁, known⟩ := state
  obtain ⟨hsound, hknown⟩ := h
  unfold constructHidden
  dsimp only
  split
  · rename_i v hfound
    have hv := hsound.has (hleft.lookup hfound)
    exact ⟨hsound, hasNamed_putAttribute hknown entry.1 hv⟩
  · have hmade := yields_internCopy hsound.whole entry.2
    exact ⟨hsound.trans hmade.sound,
      hasNamed_putAttribute (hmade.sound.hasNamed hknown) entry.1 hmade.there⟩

theorem hasNamed_extraAttributes (classes : Classes) (c : ClassRef) {left : List (String × Slot)}
    (h : w.HasNamed left) : w.HasNamed (extraAttributes classes c left) := by
  unfold extraAttributes
  split
  · exact h.filter _
  · exact hasNamed_nil w

theorem yields_construct (h : w.IsWhole) (c : ClassRef) {given : List (String × Slot)}
    (hgiven : w.HasNamed given) : Yields Has w (w.construct c given) := by
  have hfields : Yields HasBoth w
      ((w.classes.modelFields c).foldl (constructField c) (w, given, [])) :=
    foldl_invariant (Yields HasBoth w) (fun _ f hstate => yields_constructField f hstate) _
      ⟨.refl h, hgiven, hasNamed_nil w⟩
  rw [construct_eq]
  revert hfields
  generalize (w.classes.modelFields c).foldl (constructField c) (w, given, []) = fields
  rintro ⟨hsound, hleft, hattributes⟩
  obtain ⟨w₁, left, attributes⟩ := fields
  have hhidden : Yields HasNamed w₁
      ((w₁.classes.hiddenAttributes c).foldl (constructHidden left) (w₁, [])) :=
    foldl_invariant (Yields HasNamed w₁)
      (fun _ entry hstate => yields_constructHidden hleft entry hstate) _ ⟨.refl hsound.whole, hasNamed_nil w₁⟩
  have hbefore := hattributes.append (hasNamed_extraAttributes w₁.classes c hleft)
  have hall := (hhidden.sound.hasNamed hbefore).append hhidden.there
  have hmade := yields_alloc hhidden.sound.whole (.object c.name none _)
    (List.forall_mem_map.mpr hall)
  exact .of_sound (hsound.trans hhidden.sound) hmade

/-- An initializer is given what the class is called with, or nothing. -/
theorem HasArguments.initial {args : Arguments} (h : w.HasArguments args) (c : ClassRef) :
    w.HasArguments (w.classes.initialArguments c args) := by
  unfold Classes.initialArguments
  split
  · split
    · exact ⟨hasAll_nil w, hasNamed_nil w⟩
    · exact h
  · exact h

theorem yields_createWith (h : w.IsWhole) {c : ClassRef} {args : Arguments}
    (hargs : w.HasArguments args) {made : World × Slot} (hmade : w.createWith c args = .ok made) :
    Yields Has w made := by
  cases createWith_makes hmade with
  | builtin hmade => exact yields_createBuiltin h hmade
  | model => exact yields_construct h _ hargs.named
  | bag => exact yields_alloc h _ (hasAll_nil w)
  | @object name core w₁ hrun =>
      have hnew := yields_alloc h (.object name core []) (hasAll_nil w)
      have hinit := sound_runInitializer hnew.sound.whole
        (hnew.sound.hasArguments (hargs.initial _)) hrun
      exact ⟨hnew.sound.trans hinit, hinit.has hnew.there⟩

theorem yields_create (h : w.IsWhole) {c : ClassRef} {named : List (String × Slot)}
    (hnamed : w.HasNamed named) {made : World × Slot} (hmade : w.create c named = .ok made) :
    Yields Has w made := yields_createWith h ⟨hasAll_nil w, hnamed⟩ hmade

end Memberwise.World
