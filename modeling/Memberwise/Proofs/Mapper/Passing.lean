import Memberwise.Proofs.Mapper.Agreement
import Memberwise.Proofs.Mapper.Presence
import Memberwise.Proofs.World.Plain

/-! # Values that are passed on

Steps that store the very values they read, each under the name of its target, leave the target
with these values, and a factory of such steps makes an object that holds them.
-/

namespace Memberwise

namespace World

variable {w w' : World} {source : Slot} {x t : Place} {ws : List (String × Slot)}

/-! ## Runs of steps -/

/-- A step whose store ends under some name writes its value there. -/
theorem transferMember_passes {a : Assignment Converter} {v : Slot}
    (hvalue : w.transferred a source = (w, .ok v)) (hplain : w.StoresPlainly t) :
    w.transferMember a source (.ref t) =
      match w.destination t a.target.name with
      | .ok key => (w.storeOn t key v, none)
      | .error fault => (w, some fault) := by
  unfold transferMember
  rw [hvalue]
  dsimp only
  rw [setAttribute_of_plain hplain]
  cases w.destination t a.target.name <;> rfl

/-- Steps that pass on values of their own in all worlds with a property that their writes keep
write these values one after another. -/
theorem transferMembers_passes {I : World → Prop} (value : Assignment Converter → Slot)
    {steps : List (Assignment Converter)} (ht : t < w.store.size) (hplain : w.StoresPlainly t)
    (hplaces : ∀ a ∈ steps, w.destination t a.target.name = .ok a.target.name) (hI : I w)
    (hsteps : ∀ a ∈ steps, ∀ w', I w' → w'.transferred a source = (w', .ok (value a)) ∧
      I (w'.storeOn t a.target.name (value a))) (rest : List (Assignment Converter)) : ∃ w',
    Written t (steps.map fun a => (a.target.name, value a)) w w' ∧ I w' ∧
      w.transferMembers source (.ref t) (steps ++ rest) =
        w'.transferMembers source (.ref t) rest := by
  induction steps generalizing w with
  | nil => exact ⟨w, .refl t w, hI, rfl⟩
  | cons a steps ih =>
      rw [List.forall_mem_cons] at hplaces hsteps
      obtain ⟨hvalue, hkept⟩ := hsteps.1 w hI
      have hwritten := Written.storeOn ht a.target.name (value a)
      obtain ⟨w', hrest, hend, hrun⟩ := ih (Nat.lt_of_lt_of_le ht hwritten.frame.size)
        (hwritten.plain hplain)
        (fun b hb => (hwritten.destination b.target.name).trans (hplaces.2 b hb)) hkept hsteps.2
      refine ⟨w', hwritten.trans hrest, hend, ?_⟩
      have hstep : w.transferMember a source (.ref t) =
          (w.storeOn t a.target.name (value a), none) := by
        rw [transferMember_passes hvalue hplain, hplaces.1]
      rw [List.cons_append, transferMembers, hstep]
      exact hrun

/-! ## Factories -/

/-- Whether an operation stores a value as it is. -/
def Passes (operation : Operation Converter) (v : Slot) : Prop :=
  operation = .assign ∨ (∃ default, operation = .unwrapOr default) ∧ v.isNone = false

theorem transferred_of_passes {a : Assignment Converter} {v : Slot} (h : Passes a.operation v)
    (hread : w.getAttribute source a.source.name = .ok (w, v)) :
    w.transferred a source = (w, .ok v) := by
  rcases h with h | ⟨⟨default, h⟩, hpresent⟩
  · have htakes : takesAnything a.operation = true := by rw [h]; rfl
    rw [transferred_eq_transferValue htakes hread, transferValue_assign h]
  · have htakes : takesAnything a.operation = true := by rw [h]; rfl
    rw [transferred_eq_transferValue htakes hread]
    simp only [transferValue, h, hpresent, Bool.false_eq_true, if_false]

/-- Only what is there has attributes. -/
theorem lt_of_getAttribute {name : String} {result : World × Slot}
    (h : w.getAttribute (.ref x) name = .ok result) : x < w.store.size := by
  have hwithin : w.getWithin (.ref x) (w.chainLength - 1 + 1) name = .ok result := h
  unfold getWithin at hwithin
  dsimp only at hwithin
  split at hwithin
  · rename_i hcell
    exact Store.lt_of_get? hcell
  · cases hwithin

/-- After writes under different names an object holds each of their values. -/
theorem Written.held_of_nodup {className : String} (h : Written t ws w w')
    (ht : w.IsInstance t className) (hnames : (ws.map (·.1)).Nodup) {write : String × Slot}
    (hwrite : write ∈ ws) : w'.held? t write.1 = some write.2 := by
  have hlookup : ∀ write ∈ ws, write.2 = (ws.lookup write.1).getD .none := by
    intro write hwrite
    rw [lookup_of_nodup hnames hwrite]
    rfl
  have hheld := h.held_of_mem ht (List.mem_map_of_mem hwrite)
    (g := fun name => (ws.lookup name).getD .none) hlookup
  rw [hheld, ← hlookup write hwrite]

/-- A factory whose steps pass on what they read makes an instance of an ordinary class that has
the values of the source under the names of the targets. -/
theorem produce_passes {f : MapFunction} {className : String} (value : String → Slot)
    (hc : w.classes.IsOrdinary className) (hopen : w.classes.IsOpen className)
    (hmakes : ∃ made, w.create (.declared className) [] = .ok made)
    (hcreates : f.creates = some (.declared className))
    (hplain : ∀ a ∈ f.steps, w.classes.IsPlain (.declared className) a.target.name)
    (hnames : (f.steps.map (·.target.name)).Nodup)
    (hreads : ∀ a ∈ f.steps, w.getAttribute (.ref x) a.source.name = .ok (w, value a.source.name))
    (hpasses : ∀ a ∈ f.steps, Passes a.operation (value a.source.name)) : ∃ w' t,
    w.produce f (.ref x) = (w', .ok (.ref t)) ∧ w'.classes = w.classes ∧
      w'.IsInstance t className ∧
      ∀ a ∈ f.steps, w'.getAttribute (.ref t) a.target.name = .ok (w', value a.source.name) := by
  obtain ⟨⟨w₁, slot⟩, hmade⟩ := hmakes
  obtain ⟨t, rfl, hnew, ht⟩ := isInstance_of_create hc hmade
  have hextends := (create_extends hmade).1
  have hclasses := hextends.classes
  have hstores : w₁.StoresPlainly t := by
    unfold StoresPlainly
    rw [ht.classOf, hclasses, hc.noModel]
    rfl
  have hplaces : ∀ a ∈ f.steps, w₁.destination t a.target.name = .ok a.target.name := by
    intro a ha
    refine destination_of_place ht (isGuarded_of_open (hclasses ▸ hopen) _) ?_
    exact targetOf_of_plain (hclasses ▸ hc.noModel) (hclasses ▸ hplain a ha)
      (hasPlaceFor_of_open (hclasses ▸ hopen) _)
  -- The new object is not the source, so every step reads what was there at first.
  have hsteps : ∀ a ∈ f.steps, ∀ w₂, ChangesOnly (· = t) w₁ w₂ →
      w₂.transferred a (.ref x) = (w₂, .ok (value a.source.name)) ∧
        ChangesOnly (· = t) w₁ (w₂.storeOn t a.target.name (value a.source.name)) := by
    intro a ha w₂ hframe
    have hx := lt_of_getAttribute (hreads a ha)
    have hne : x ≠ t := Nat.ne_of_lt (Nat.lt_of_lt_of_le hx hnew)
    have hread : w₂.getAttribute (.ref x) a.source.name = .ok (w₂, value a.source.name) := by
      have hlater := (Spends.of_extends hextends).trans (.of_changesOnly hframe)
      rw [hlater.getAttribute hx hne, hreads a ha]
      rfl
    exact ⟨transferred_of_passes (hpasses a ha) hread,
      hframe.trans (storeOn_changesOnly w₂ t _ _)⟩
  obtain ⟨w', hwritten, -, hrun⟩ := transferMembers_passes
    (fun a => value a.source.name) ht.lt hstores hplaces (.refl _ w₁) hsteps []
  refine ⟨w', t, ?_, hwritten.frame.classes.trans hclasses, ht.of_written hwritten, ?_⟩
  · rw [List.append_nil] at hrun
    unfold produce
    rw [hcreates]
    simp only [hmade, hrun]
    rfl
  · intro a ha
    have hheld := hwritten.held_of_nodup ht (by rwa [List.map_map])
      (List.mem_map_of_mem (f := fun a => (a.target.name, value a.source.name)) ha)
    refine getAttribute_of_held ?_ hheld
    rw [(ht.of_written hwritten).classOf, hwritten.frame.classes, hclasses]
    exact hplain a ha

end World

end Memberwise
