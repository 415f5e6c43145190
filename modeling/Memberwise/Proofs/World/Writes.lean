import Mathlib.Data.List.Induction
import Memberwise.Proofs.KeyedList
import Memberwise.Proofs.World.Frame

/-! # Writes to objects

Where setters lead, a store under a name ends in a write to one attribute of the object or fails
before anything is written.  Which attribute that is depends on the class of the object alone.
-/

namespace Memberwise

/-! ## Attribute lists -/

/-- An attribute list after values are put under names, one after another. -/
def writeAll (attributes : List (String × Slot)) (ws : List (String × Slot)) :
    List (String × Slot) :=
  ws.foldl (fun known (name, v) => World.putAttribute known name v) attributes

/-- What is written to an object leaves its class and its core as they are. -/
def Cell.writeAll (ws : List (String × Slot)) : Cell → Cell
  | .object className core attributes => .object className core (Memberwise.writeAll attributes ws)
  | cell => cell

theorem lookup_putAttribute_of_ne {attributes : List (String × Slot)} {name other : String}
    {v : Slot} (h : other ≠ name) :
    (World.putAttribute attributes name v).lookup other = attributes.lookup other :=
  (lookup_upsert attributes name v other).trans (if_neg (mt eq_of_beq h))

theorem lookup_putAttribute_self (attributes : List (String × Slot)) (name : String) (v : Slot) :
    (World.putAttribute attributes name v).lookup name = some v :=
  (lookup_upsert attributes name v name).trans (if_pos (beq_self_eq_true name))

theorem lookup_writeAll {ws attributes : List (String × Slot)} {name : String}
    (h : name ∉ ws.map (·.1)) : (writeAll attributes ws).lookup name = attributes.lookup name := by
  induction ws generalizing attributes with
  | nil => rfl
  | cons write rest ih =>
      obtain ⟨key, v⟩ := write
      rw [List.map_cons, List.mem_cons, not_or] at h
      have hrest : (writeAll (World.putAttribute attributes key v) rest).lookup name =
          (World.putAttribute attributes key v).lookup name := ih h.2
      exact hrest.trans (lookup_putAttribute_of_ne h.1)

theorem Cell.writeAll_nil (cell : Cell) : cell.writeAll [] = cell := by
  cases cell <;> rfl

theorem Cell.writeAll_append (ws us : List (String × Slot)) (cell : Cell) :
    cell.writeAll (ws ++ us) = (cell.writeAll ws).writeAll us := by
  cases cell with
  | seq | dict => rfl
  | object => simp only [Cell.writeAll, Memberwise.writeAll, List.foldl_append]

theorem Cell.classOf_writeAll (ws : List (String × Slot)) (cell : Cell) :
    (cell.writeAll ws).classOf = cell.classOf := by
  cases cell <;> rfl

/-! ## Writes that are done again -/

/-- Whether attributes have one of a name. -/
def HasName (attributes : List (String × Slot)) (name : String) : Prop :=
  attributes.any (·.1 == name) = true

/-- An attribute with the value that is put under a name, if it has that name. -/
def replaced (name : String) (v : Slot) (entry : String × Slot) : String × Slot :=
  if entry.1 == name then (name, v) else entry

theorem fst_replaced (name : String) (v : Slot) (entry : String × Slot) :
    (replaced name v entry).1 = entry.1 := by
  unfold replaced
  split
  · rename_i h
    exact (beq_iff_eq.mp h).symm
  · rfl

theorem putAttribute_of_hasName {attributes : List (String × Slot)} {name : String}
    (h : HasName attributes name) (v : Slot) :
    World.putAttribute attributes name v = attributes.map (replaced name v) := if_pos h

theorem putAttribute_of_not_hasName {attributes : List (String × Slot)} {name : String}
    (h : ¬ HasName attributes name) (v : Slot) :
    World.putAttribute attributes name v = attributes ++ [(name, v)] := if_neg h

theorem hasName_map_replaced {attributes : List (String × Slot)} {name other : String} {v : Slot} :
    HasName (attributes.map (replaced name v)) other ↔ HasName attributes other := by
  unfold HasName
  simp only [List.any_map, Function.comp_def, fst_replaced]

theorem hasName_putAttribute {attributes : List (String × Slot)} {name other : String} {v : Slot} :
    HasName (World.putAttribute attributes name v) other ↔ HasName attributes other ∨ name = other := by
  by_cases h : HasName attributes name
  · rw [putAttribute_of_hasName h, hasName_map_replaced]
    constructor
    · exact Or.inl
    · rintro (hother | rfl)
      · exact hother
      · exact h
  · rw [putAttribute_of_not_hasName h]
    simp [HasName]

theorem map_replaced_of_not_hasName {attributes : List (String × Slot)} {name : String}
    (h : ¬ HasName attributes name) (v : Slot) :
    attributes.map (replaced name v) = attributes := by
  have hmap : attributes.map (replaced name v) = attributes.map id := by
    apply List.map_congr_left
    intro entry hentry
    have hname := List.any_eq_false.mp (Bool.not_eq_true _ |>.mp h) entry hentry
    exact if_neg hname
  rw [hmap, List.map_id]

theorem putAttribute_self (attributes : List (String × Slot)) (name : String) (u v : Slot) :
    World.putAttribute (World.putAttribute attributes name u) name v =
      World.putAttribute attributes name v := by
  rw [putAttribute_of_hasName (hasName_putAttribute.mpr (.inr rfl))]
  by_cases h : HasName attributes name
  · rw [putAttribute_of_hasName h, putAttribute_of_hasName h, List.map_map]
    apply List.map_congr_left
    intro entry _
    simp only [Function.comp_apply, replaced]
    split <;> simp_all
  · rw [putAttribute_of_not_hasName h, putAttribute_of_not_hasName h, List.map_append,
      map_replaced_of_not_hasName h]
    simp [replaced]

/-- Values that are put under different names can be put in any order, once one of them is there. -/
theorem putAttribute_comm {attributes : List (String × Slot)} {name other : String}
    (hne : name ≠ other) (h : HasName attributes name) (u v : Slot) :
    World.putAttribute (World.putAttribute attributes other v) name u =
      World.putAttribute (World.putAttribute attributes name u) other v := by
  rw [putAttribute_of_hasName (hasName_putAttribute.mpr (.inl h)), putAttribute_of_hasName h]
  by_cases hother : HasName attributes other
  · rw [putAttribute_of_hasName hother, putAttribute_of_hasName (hasName_map_replaced.mpr hother),
      List.map_map, List.map_map]
    apply List.map_congr_left
    intro entry _
    simp only [Function.comp_apply, replaced]
    split <;> split <;> simp_all
  · rw [putAttribute_of_not_hasName hother,
      putAttribute_of_not_hasName fun hmapped => hother (hasName_map_replaced.mp hmapped),
      List.map_append]
    simp [replaced, Ne.symm hne]

theorem hasName_writeAll {ws attributes : List (String × Slot)} {name : String} :
    HasName (writeAll attributes ws) name ↔ HasName attributes name ∨ name ∈ ws.map (·.1) := by
  induction ws generalizing attributes with
  | nil => simp [writeAll]
  | cons write rest ih =>
      show HasName (writeAll (World.putAttribute attributes write.1 write.2) rest) name ↔ _
      rw [ih, hasName_putAttribute, List.map_cons, List.mem_cons, or_assoc, @eq_comm _ name]

/-- What is put under a name before writes that make no new attributes is lost when another value
is put under it after them. -/
theorem putAttribute_writeAll_putAttribute {us attributes : List (String × Slot)}
    (hus : ∀ name ∈ us.map (·.1), HasName attributes name) (name : String) (u v : Slot) :
    World.putAttribute (writeAll (World.putAttribute attributes name u) us) name v =
      World.putAttribute (writeAll attributes us) name v := by
  induction us generalizing attributes u with
  | nil => exact putAttribute_self attributes name u v
  | cons write rest ih =>
      obtain ⟨other, x⟩ := write
      rw [List.map_cons, List.forall_mem_cons] at hus
      have hrest : ∀ name ∈ rest.map (·.1), HasName (World.putAttribute attributes other x) name :=
        fun name hname => hasName_putAttribute.mpr (.inl (hus.2 name hname))
      show World.putAttribute
          (writeAll (World.putAttribute (World.putAttribute attributes name u) other x) rest) name v
        = World.putAttribute (writeAll (World.putAttribute attributes other x) rest) name v
      by_cases hsame : other = name
      · subst hsame
        rw [putAttribute_self]
      · rw [putAttribute_comm hsame hus.1]
        exact ih hrest u

theorem writeAll_concat (attributes ws : List (String × Slot)) (name : String) (v : Slot) :
    writeAll attributes (ws ++ [(name, v)]) = World.putAttribute (writeAll attributes ws) name v := by
  simp only [writeAll, List.foldl_append, List.foldl_cons, List.foldl_nil]

/-- Writes under the same names, one after another, leave nothing of the writes before them. -/
theorem writeAll_writeAll (g : Slot → Slot) (attributes ws : List (String × Slot)) :
    writeAll (writeAll attributes ws) (ws.map fun write => (write.1, g write.2)) =
      writeAll attributes (ws.map fun write => (write.1, g write.2)) := by
  induction ws using List.reverseRecOn with
  | nil => rfl
  | append_singleton ws write ih =>
      obtain ⟨name, v⟩ := write
      have hnames : ∀ name ∈ (ws.map fun write => (write.1, g write.2)).map (·.1),
          HasName (writeAll attributes ws) name := by
        intro name hname
        rw [List.map_map] at hname
        exact hasName_writeAll.mpr (.inr hname)
      rw [List.map_append, List.map_singleton, writeAll_concat, writeAll_concat, writeAll_concat,
        putAttribute_writeAll_putAttribute hnames, ih]

theorem Cell.writeAll_writeAll (g : Slot → Slot) (ws : List (String × Slot)) (cell : Cell) :
    (cell.writeAll ws).writeAll (ws.map fun write => (write.1, g write.2)) =
      cell.writeAll (ws.map fun write => (write.1, g write.2)) := by
  cases cell with
  | seq | dict => rfl
  | object className core attributes =>
      exact congrArg (Cell.object className core) (Memberwise.writeAll_writeAll g attributes ws)

namespace World

variable {w w' : World} {p : Place}

/-! ## Destinations -/

/-- The attribute in which a store under a name ends, with a bound on the setters on its way. -/
def destinationWithin (w : World) (p : Place) : (fuel : Nat) → String → Except Fault String
  | 0, _ => .error .endless
  | fuel + 1, name =>
    match w.store.get? p with
    | some (.object ..) =>
      if w.isGuarded (w.classOf (.ref p)) name then .error .frozen
      else
        match w.targetOf false (w.classOf (.ref p)) name with
        | .error fault => .error fault
        | .ok .place => .ok name
        | .ok (.property none) => .error .missingAttribute
        | .ok (.property (some setter)) =>
          match setter.body with
          | .attribute next => w.destinationWithin p fuel next
          | .failing message => .error (.value message)
    | _ => .error .missingAttribute

/-- The attribute in which a store under a name ends. -/
def destination (w : World) (p : Place) (name : String) : Except Fault String :=
  w.destinationWithin p w.chainLength name

/-- Whether an object stores what it is given: no class of models reads it by a schema first. -/
def StoresPlainly (w : World) (p : Place) : Prop :=
  (w.classes.isModel (w.classOf (.ref p)) &&
    (w.classes.modelOption? (w.classOf (.ref p)) (·.validatesAssignment)).getD false) = false

instance : Decidable (w.StoresPlainly p) := inferInstanceAs (Decidable (_ = _))

theorem validated_of_plain (h : w.StoresPlainly p) (name : String) (v : Slot) :
    w.validated (w.classOf (.ref p)) name v = .ok (w, v) := by
  unfold validated
  rw [h]
  rfl

/-- A store ends in an attribute, which gets the value that the class of the object makes of what
is given. -/
theorem setWithin_eq (w : World) (p : Place) (v : Slot) (fuel : Nat) (name : String) :
    w.setWithin p false v fuel name =
      (w.destinationWithin p fuel name).bind fun key =>
        (w.validated (w.classOf (.ref p)) key v).map fun (w, v) => w.storeOn p key v := by
  induction fuel generalizing name with
  | zero => rfl
  | succ fuel ih =>
      rw [setWithin_succ, destinationWithin]
      cases hc : w.store.get? p with
      | none => rfl
      | some cell =>
          cases cell with
          | seq | dict => rfl
          | object className core attributes =>
              simp only [Bool.not_false, Bool.true_and]
              by_cases hguarded : w.isGuarded (w.classOf (.ref p)) name = true
              · rw [if_pos hguarded, if_pos hguarded]
                rfl
              · rw [if_neg hguarded, if_neg hguarded]
                cases w.targetOf false (w.classOf (.ref p)) name with
                | error fault => rfl
                | ok target =>
                    show w.storeAt p false v fuel name target = _
                    cases target with
                    | place =>
                        rw [storeAt_place, if_neg (by simp)]
                        rfl
                    | property setter =>
                        cases setter with
                        | none => rfl
                        | some setter =>
                            unfold storeAt
                            cases hbody : setter.body with
                            | «attribute» next => simpa only [hbody] using ih next
                            | failing message => simp only [hbody]; rfl

theorem setAttribute_eq (w : World) (p : Place) (name : String) (v : Slot) :
    w.setAttribute (.ref p) name v =
      (w.destination p name).bind fun key =>
        (w.validated (w.classOf (.ref p)) key v).map fun (w, v) => w.storeOn p key v :=
  setWithin_eq w p v w.chainLength name

/-- A store is a write to one attribute, or fails and writes nothing. -/
theorem setAttribute_of_plain (h : w.StoresPlainly p) (name : String) (v : Slot) :
    w.setAttribute (.ref p) name v =
      (w.destination p name).map fun key => w.storeOn p key v := by
  rw [setAttribute_eq]
  cases w.destination p name with
  | error fault => rfl
  | ok key =>
      show (w.validated (w.classOf (.ref p)) key v).map _ = _
      rw [validated_of_plain h]
      rfl

theorem get?_storeOn (hp : p < w.store.size) (key : String) (v : Slot) :
    (w.storeOn p key v).store.get? p = (w.store.get? p).map (Cell.writeAll [(key, v)]) := by
  unfold storeOn
  cases hc : w.store.get? p with
  | none => exact hc
  | some cell =>
      cases cell with
      | seq | dict => exact hc
      | object className core attributes => exact Store.get?_set_self hp

/-- A store ends in an attribute of an object only. -/
theorem object_of_destination {name key : String} (h : w.destination p name = .ok key) :
    ∃ className core attributes, w.store.get? p = some (.object className core attributes) := by
  have hwithin : w.destinationWithin p (w.chainLength - 1 + 1) name = .ok key := h
  unfold destinationWithin at hwithin
  split at hwithin
  · rename_i className core attributes hcell
    exact ⟨className, core, attributes, hcell⟩
  · cases hwithin

theorem isGuarded_congr (h : w'.classes = w.classes) (c : ClassRef) (name : String) :
    w'.isGuarded c name = w.isGuarded c name := by
  simp only [isGuarded, h]

theorem targetOf_congr (h : w'.classes = w.classes) (direct : Bool) (c : ClassRef)
    (name : String) : w'.targetOf direct c name = w.targetOf direct c name := by
  unfold targetOf modelTarget plainTarget hasPlaceFor hasOpenAttributes
  rw [h]

/-- Where a store ends is not changed by what is written to the object. -/
theorem destinationWithin_congr {ws : List (String × Slot)} (hclasses : w'.classes = w.classes)
    (hcell : w'.store.get? p = (w.store.get? p).map (Cell.writeAll ws))
    (fuel : Nat) (name : String) :
    w'.destinationWithin p fuel name = w.destinationWithin p fuel name := by
  induction fuel generalizing name with
  | zero => rfl
  | succ fuel ih =>
      unfold destinationWithin
      cases hc : w.store.get? p with
      | none => rw [hcell, hc]; rfl
      | some cell =>
          rw [hc] at hcell
          cases cell with
          | seq | dict => rw [hcell]; rfl
          | object className core attributes =>
              have hclass : w.classOf (.ref p) = .declared className := by
                show ((w.store.get? p).map Cell.classOf).getD _ = _
                rw [hc]
                rfl
              have hclass' : w'.classOf (.ref p) = .declared className := by
                show ((w'.store.get? p).map Cell.classOf).getD _ = _
                rw [hcell]
                rfl
              rw [hcell, hclass, hclass', isGuarded_congr hclasses, targetOf_congr hclasses]
              simp only [Option.map_some, Cell.writeAll, ih]

end World

end Memberwise
