import Memberwise.Proofs.Parallel.World
import Memberwise.World.Collection

/-! # Collections in worlds that correspond

Collections that correspond yield elements that correspond, and take further elements or refuse
them alike.
-/

namespace Memberwise.World

open Classes (Alike)

variable {r : Correspondence} {known known' : SchemaCache} {w w' : World} {v v' target target' : Slot}
  {items items' : List Slot}

/-! ## Elements -/

theorem Similar.parts (h : Similar r known known' w w') (a : Option Atom) :
    Agree (Both r known known' (PairsAll r)) (w.parts a) (w'.parts a) := by
  unfold World.parts
  split
  · refine .ok ⟨h, pairsAll_atoms fun slot hslot => ?_⟩
    obtain ⟨b, -, rfl⟩ := List.mem_map.mp hslot
    exact ⟨b, rfl⟩
  · exact .error _

theorem Similar.pairUp (h : Similar r known known' w w') {named named' : List (String × Slot)}
    (hnamed : PairsNamed r named named') :
    Both r known known' (PairsAll r) (w.pairUp named) (w'.pairUp named') := by
  obtain ⟨hwithin, rfl⟩ := hnamed
  induction named generalizing w w' with
  | nil => exact ⟨h, pairsAll_nil⟩
  | cons entry rest ih =>
      rw [List.forall_mem_cons] at hwithin
      have hpair : PairsAll r [.atom (.str entry.1), entry.2]
          [.atom (.str entry.1), entry.2.rename r.place] :=
        pairsAll_cons (pairs_atom _) (pairsAll_cons ⟨hwithin.1, rfl⟩ pairsAll_nil)
      have hnew := h.alloc_seq .tuple hpair
      have hrest := ih hnew.world hwithin.2
      exact ⟨hrest.world, pairsAll_cons hnew.result hrest.result⟩

section Elements

variable {further further' : Slot → Except Fault (World × List Slot)}

theorem Similar.elementsBy_atom (h : Similar r known known' w w') (a : Atom) :
    Agree (Both r known known' (PairsAll r)) (w.elementsBy further (.atom a))
      (w'.elementsBy further' (.atom a)) := by
  have hparts := h.parts (w.classes.scalarOf? (.atom a))
  cases a with
  | classRef c =>
      cases c with
      | builtin b => exact .error _
      | declared name =>
          simp only [World.elementsBy, h.alike.isEnumeration, h.alike.properMembers]
          split
          · refine .ok ⟨h, pairsAll_atoms fun slot hslot => ?_⟩
            obtain ⟨entry, -, rfl⟩ := List.mem_map.mp hslot
            exact ⟨_, rfl⟩
          · exact .error _
  | _ => simpa only [World.elementsBy, h.alike.scalarOf?] using hparts

/-- Iterators that correspond yield what corresponds, and are both spent. -/
theorem Similar.elementsBy_seq (h : Similar r known known' w w') {p : Place} {kind : SeqKind}
    {items : List Slot} (hp : r.Pairs (.ref p) (.ref (r.place p)))
    (hcell : w.store.get? p = some (.seq kind items))
    (hcell' : w'.store.get? (r.place p) = some (.seq kind (items.map (Slot.rename r.place)))) :
    Agree (Both r known known' (PairsAll r)) (w.elementsBy further (.ref p))
      (w'.elementsBy further' (.ref (r.place p))) := by
  have hitems : PairsAll r items (items.map (Slot.rename r.place)) :=
    ⟨h.slots_within hp hcell, rfl⟩
  cases kind with
  | iterator yielded =>
      simp only [World.elementsBy, hcell, hcell', List.length_map]
      exact .ok ⟨h.set fun _ => ⟨rfl, fun _ hslot => nomatch hslot⟩, hitems⟩
  | _ =>
      simp only [World.elementsBy, hcell, hcell']
      exact .ok ⟨h, hitems⟩

theorem Similar.elementsBy_object (h : Similar r known known' w w')
    (hfurther : ∀ v v', r.Pairs v v' →
      Agree (Both r known known' (PairsAll r)) (further v) (further' v'))
    {p p' : Place} {className : String} {core : Option Atom}
    {attributes attributes' : List (String × Slot)}
    (hattributes : PairsNamed r attributes attributes')
    (hcell : w.store.get? p = some (.object className core attributes))
    (hcell' : w'.store.get? p' = some (.object className core attributes')) :
    Agree (Both r known known' (PairsAll r)) (w.elementsBy further (.ref p))
      (w'.elementsBy further' (.ref p')) := by
  simp only [World.elementsBy, hcell, hcell', h.alike.iterationOf, h.alike.isModel]
  cases w.classes.iterationOf (.declared className) with
  | nothing => exact .ok ⟨h, pairsAll_nil⟩
  | impossible => exact .error _
  | «attribute» source =>
      dsimp only
      have hfound := pairsNamed_lookup hattributes source
      revert hfound
      generalize attributes.lookup source = found
      generalize attributes'.lookup source = found'
      intro hfound
      cases hfound with
      | none => exact .error _
      | some hv => exact hfurther _ _ hv
  | inherent =>
      dsimp only
      split
      · exact .ok (h.pairUp (pairsNamed_filter hattributes fun name => !isHiddenName name))
      · exact h.parts core

theorem Similar.elementsBy (h : Similar r known known' w w')
    (hfurther : ∀ v v', r.Pairs v v' →
      Agree (Both r known known' (PairsAll r)) (further v) (further' v'))
    (hv : r.Pairs v v') :
    Agree (Both r known known' (PairsAll r)) (w.elementsBy further v)
      (w'.elementsBy further' v') := by
  cases v with
  | atom a =>
      obtain rfl : v' = .atom a := hv.2
      exact h.elementsBy_atom a
  | ref p =>
      obtain ⟨q, rfl, hq⟩ := h.cell hv
      obtain rfl : q = r.place p := Slot.ref.inj hv.2
      cases hcell : w.store.get? p with
      | none =>
          simp only [World.elementsBy, hq, hcell]
          exact .error _
      | some cell =>
          have hslots := h.slots_within hv hcell
          rw [hcell] at hq
          cases cell with
          | seq kind items => exact h.elementsBy_seq hv hcell hq
          | dict entries =>
              simp only [World.elementsBy, hq, hcell]
              refine .ok ⟨h, fun slot hslot => hslots slot (List.mem_append_left _ hslot), ?_⟩
              rw [List.map_map, List.map_map]
              rfl
          | object className core attributes =>
              have hattributes : PairsNamed r attributes (renameNamed r attributes) :=
                ⟨List.forall_mem_map.mp hslots, rfl⟩
              exact h.elementsBy_object hfurther hattributes hcell hq

end Elements

theorem Similar.elements (h : Similar r known known' w w') (hv : r.Pairs v v') :
    Agree (Both r known known' (PairsAll r)) (w.elements v) (w'.elements v') := by
  unfold World.elements
  generalize callLimit = depth
  induction depth generalizing v v' with
  | zero => exact h.elementsBy (fun _ _ _ => .error _) hv
  | succ depth ih => exact h.elementsBy (fun _ _ => ih) hv

theorem Similar.yielded (h : Similar r known known' w w') (hv : r.Pairs v v') :
    Agree (Both r known known' (PairsAll r)) (w.yielded v) (w'.yielded v') := by
  unfold World.yielded
  rw [pairs_isNone hv]
  split
  · exact .ok ⟨h, pairsAll_nil⟩
  · exact h.elements hv

/-! ## Growing -/

theorem Similar.canGrow (h : Similar r known known' w w') (hv : r.Pairs v v') :
    w'.canGrow v' = w.canGrow v := by
  simp only [World.canGrow, h.classOf hv, h.alike.adding?]

theorem Similar.insertInto (h : Similar r known known' w w') (hitems : PairsAll r items items')
    (hv : r.Pairs v v') :
    Agree (PairsAll r) (w.insertInto items v) (w'.insertInto items' v') := by
  unfold World.insertInto
  rw [h.load hv, h.alike.keyOf?_rename]
  cases w.classes.keyOf? (w.load v) with
  | none => exact .error _
  | some key =>
      have hany : (items'.any fun item =>
            (w'.classes.keyOf? (w'.load item)).any (sameKey (key.rename r.place))) =
          items.any fun item => (w.classes.keyOf? (w.load item)).any (sameKey key) := by
        rw [hitems.2, List.any_map, Bool.eq_iff_iff, List.any_eq_true, List.any_eq_true]
        refine exists_congr fun item => and_congr_right fun hitem => ?_
        rw [Function.comp_apply, h.load ⟨hitems.1 item hitem, rfl⟩,
          h.alike.hasKey_rename r.injective]
      dsimp only [Option.map_some]
      rw [hany]
      split
      · exact .ok hitems
      · exact .ok (pairsAll_append hitems (pairsAll_cons hv pairsAll_nil))

theorem appendByte_agree (hitems : PairsAll r items items') (hv : r.Pairs v v') :
    Agree (PairsAll r) (appendByte items v) (appendByte items' v') := by
  have happend : ∀ n : Int, Agree (PairsAll r)
      (if 0 ≤ n ∧ n < 256 then .ok (items ++ [.atom (.int n)])
        else .error (Fault.value "byte must be in range(0, 256)"))
      (if 0 ≤ n ∧ n < 256 then .ok (items' ++ [.atom (.int n)])
        else .error (Fault.value "byte must be in range(0, 256)")) := by
    intro n
    split
    · exact .ok (pairsAll_append hitems (pairsAll_cons (pairs_atom _) pairsAll_nil))
    · exact .error _
  rw [hv.2]
  cases v with
  | ref p => exact .error _
  | atom a =>
      cases a with
      | int n => exact happend n
      | bool b => exact happend _
      | _ => exact .error _

/-- A method of a program's own cannot tell elements from their counterparts. -/
theorem Similar.arrange (h : Similar r known known' w w') (adder : Adder)
    (hitems : PairsAll r items items') (hv : r.Pairs v v') :
    Agree (PairsAll r) (w.arrange adder items v) (w'.arrange adder items' v') := by
  have hload : items'.map w'.load = (items.map w.load).map (Value.rename r.place) := by
    rw [hitems.2, List.map_map, List.map_map]
    exact List.map_congr_left fun item hitem => h.load ⟨hitems.1 item hitem, rfl⟩
  have hboth := pairsAll_append hitems (pairsAll_cons hv pairsAll_nil)
  unfold World.arrange
  rw [hload, h.load hv, adder.natural r.place r.injective]
  cases adder.arrange (items.map w.load) (w.load v) with
  | error fault => exact .error fault
  | ok numbers =>
      refine .ok ⟨fun slot hslot => ?_, ?_⟩
      · obtain ⟨n, -, hn⟩ := List.mem_filterMap.mp hslot
        exact hboth.1 slot (List.mem_of_getElem? hn)
      · rw [hboth.2, List.map_filterMap]
        exact List.filterMap_congr fun n _ => List.getElem?_map

theorem Similar.call (h : Similar r known known' w w') (m : Adding) (kind : SeqKind)
    (hitems : PairsAll r items items') (hv : r.Pairs v v') :
    Agree (PairsAll r) (w.call m kind items v) (w'.call m kind items' v') := by
  have hlast := pairsAll_append hitems (pairsAll_cons hv pairsAll_nil)
  unfold World.call
  split
  · exact .ok hlast
  · exact .ok hlast
  · exact appendByte_agree hitems hv
  · exact h.insertInto hitems hv
  · simp only [Classes.adder?, h.alike.kindOf?]
    split
    · exact h.arrange _ hitems hv
    · exact .ok hitems
  · exact .error _

/-- Collections that correspond still do when both have got one more element. -/
theorem Similar.addElement (h : Similar r known known' w w') (htarget : r.Pairs target target')
    (hv : r.Pairs v v') :
    Agree (Similar r known known') (w.addElement target v) (w'.addElement target' v') := by
  unfold World.addElement
  rw [h.classOf htarget, h.alike.adding?]
  cases w.classes.adding? (w.classOf target) with
  | none => exact .error _
  | some m =>
      cases target with
      | atom a =>
          rw [htarget.2]
          exact .ok h
      | ref p =>
          obtain ⟨q, rfl, hq⟩ := h.cell htarget
          dsimp only
          rw [hq]
          cases hcell : w.store.get? p with
          | none => exact .ok h
          | some cell =>
              cases cell with
              | dict | object => exact .ok h
              | seq kind items =>
                  have hitems : PairsAll r items (items.map (Slot.rename r.place)) :=
                    ⟨h.slots_within htarget hcell, rfl⟩
                  apply (h.call m kind hitems hv).bind
                  intro grown grown' hgrown
                  apply Agree.ok
                  obtain rfl : q = r.place p := Slot.ref.inj htarget.2
                  exact h.set fun _ => ⟨congrArg _ hgrown.2, hgrown.1⟩

end Memberwise.World
