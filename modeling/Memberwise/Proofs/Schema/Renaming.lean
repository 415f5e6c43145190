import Mathlib.Data.List.Find
import Memberwise.Proofs.Value.Shown
import Memberwise.Schema.Plain
import Memberwise.Schema.Reading

/-! # Readings at other places

A schema reads the renamed value as the renamed result: what it makes is new or part of what it
reads, and it compares objects by their places only.
-/

namespace Memberwise.Schema

open Classes (Alike)

variable {classes classes' : Classes} {ρ : Place → Place} {v : Value}

/-! ## Scalars -/

theorem bytesOf_rename (items : List Value) :
    bytesOf (items.map (Value.rename ρ)) = bytesOf items := by
  unfold bytesOf
  rw [List.filterMap_map]
  congr 1
  funext v
  cases v <;> rfl

theorem contentOf?_rename (v : Value) : contentOf? (v.rename ρ) = contentOf? v := by
  cases v with
  | atom a => rfl
  | seq place kind items =>
      rw [Value.rename_seq]
      cases kind <;> simp only [contentOf?, bytesOf_rename]
  | dict | object => rfl

theorem textSource_rename (h : Alike classes classes') (v : Value) :
    textSource classes' (v.rename ρ) = textSource classes v := by
  simp only [textSource, h.scalarOf?_rename]

theorem nearestFloat?_rename (h : Alike classes classes') (v : Value) :
    nearestFloat? classes' (v.rename ρ) = nearestFloat? classes v := by
  simp only [nearestFloat?, h.scalarOf?_rename]

theorem wordOf?_rename (h : Alike classes classes') (v : Value) :
    wordOf? classes' (v.rename ρ) = wordOf? classes v := by
  simp only [wordOf?, h.scalarOf?_rename]

theorem calendarText?_rename (h : Alike classes classes') (v : Value) :
    calendarText? classes' (v.rename ρ) = calendarText? classes v := by
  simp only [calendarText?, textSource_rename h]

theorem readAsStr_rename (h : Alike classes classes') (v : Value) :
    readAsStr classes' (v.rename ρ) = readAsStr classes v := by
  have hcontent := contentOf?_rename (ρ := ρ) v
  cases v with
  | atom a =>
      have htext (v : Value) : classes'.plainText v = classes.plainText v := by
        have htext := h.plainText_rename (ρ := id) v
        rwa [Value.rename_id] at htext
      cases a <;> simp only [Value.rename_atom, readAsStr, h.scalarOf?, h.memberValue, htext]
  | seq place kind items =>
      rw [Value.rename_seq] at hcontent ⊢
      simp only [readAsStr, Classes.scalarOf?, Value.core?, hcontent]
  | dict place entries =>
      rw [Value.rename_dict] at hcontent ⊢
      simp only [readAsStr, Classes.scalarOf?, Value.core?, hcontent]
  | object place name core attributes =>
      rw [Value.rename_object] at hcontent ⊢
      cases core with
      | none => simp only [readAsStr, Classes.scalarOf?, Value.core?, hcontent]
      | some core => cases core <;> simp only [readAsStr, Classes.scalarOf?, Value.core?, hcontent]

theorem readAsUuid_rename (v : Value) : readAsUuid (v.rename ρ) = readAsUuid v := by
  cases v <;> rfl

/-- What is read of a scalar depends on the scalar and on no place. -/
theorem readScalar_rename (h : Alike classes classes') (type : ScalarType) (v : Value) :
    readScalar classes' type (v.rename ρ) = readScalar classes type v := by
  have htext := textSource_rename (ρ := ρ) h v
  have hscalar := h.scalarOf?_rename (ρ := ρ) v
  have hfloat := nearestFloat?_rename (ρ := ρ) h v
  have hword := wordOf?_rename (ρ := ρ) h v
  have hcalendar := calendarText?_rename (ρ := ρ) h v
  have hcontent := contentOf?_rename (ρ := ρ) v
  cases type with
  | str => exact readAsStr_rename h v
  | uuid => exact readAsUuid_rename v
  | _ =>
      cases v <;>
        simp only [Value.rename_atom, Value.rename_seq, Value.rename_dict, Value.rename_object]
          at htext hscalar hfloat hword hcalendar hcontent ⊢ <;>
        simp only [readScalar, readAsBool, readAsInt, readAsFloat, readAsBytes, readAsComplex,
          readAsDecimal, readAsDate, readAsMoment, readAsTime, readAsDuration, htext, hscalar,
          hfloat, hword, hcalendar, hcontent, h.memberValue]

/-! ## Results at no place -/

/-- The values of an enumeration are kept by its class as copies. -/
theorem rename_of_mem_membersOf {enumeration : String} {entry : String × Value}
    (h : entry ∈ classes.membersOf enumeration) : entry.2.rename ρ = entry.2 := by
  unfold Classes.membersOf at h
  split at h
  · obtain ⟨kept, -, rfl⟩ := List.mem_map.mp h
    exact Value.rename_detach kept.2
  · cases h

theorem rename_memberValue (owner name : String) :
    (classes.memberValue owner name).rename ρ = classes.memberValue owner name := by
  unfold Classes.memberValue
  cases hfound : (classes.membersOf owner).lookup name with
  | none => rfl
  | some v =>
      obtain ⟨before, after, hmembers, -⟩ := List.lookup_eq_some_iff.mp hfound
      have hmem : (name, v) ∈ classes.membersOf owner := by
        rw [hmembers]
        exact List.mem_append_right before List.mem_cons_self
      exact rename_of_mem_membersOf hmem

/-- Whether what is read, if anything is, is at no place. -/
def IsPlaceless {ε : Type} (reading : Option (Value × ε)) : Prop :=
  ∀ v e, reading = some (v, e) → ∀ ρ : Place → Place, v.rename ρ = v

section Graded

variable {e : Exactness} {α : Type}

@[simp]
theorem isPlaceless_none : IsPlaceless (none : Graded) := nofun

@[simp]
theorem isPlaceless_some : IsPlaceless (some (v, e)) ↔ ∀ ρ : Place → Place, v.rename ρ = v := by
  simp [IsPlaceless]

@[simp]
theorem isPlaceless_graded {a : Atom} : IsPlaceless (graded e a) := by
  simp [graded]

@[simp]
theorem isPlaceless_map {o : Option α} {f : α → Atom} :
    IsPlaceless (o.map fun x => (.atom (f x), e)) := by
  cases o <;> simp

@[simp]
theorem isPlaceless_lax {o : Option Atom} : IsPlaceless (lax o) := by
  cases o <;> simp [lax]

end Graded

theorem readScalar_isPlaceless (type : ScalarType) (v : Value) :
    IsPlaceless (readScalar classes type v) := by
  cases type <;> simp only [readScalar, readAsBool, readAsInt, readAsFloat, readAsStr, readAsBytes,
    readAsComplex, readAsDecimal, readAsDate, readAsMoment, readAsTime, readAsDuration, readAsUuid]
  all_goals
    repeat' split
    all_goals simp [rename_memberValue]

/-! ## Readings -/

/-- A reading whose result is at other places. -/
def Reading.rename (ρ : Place → Place) (r : Reading) : Reading :=
  r.map fun r => (r.1.rename ρ, r.2)

/-- Whether two ways of reading go together: one reads the renamed value as the renamed result of
the other. -/
def Follows (ρ : Place → Place) (read read' : Value → Reading) : Prop :=
  ∀ v, read' (v.rename ρ) = (read v).rename ρ

theorem ofGraded_rename {g : Graded} (h : IsPlaceless g) :
    (ofGraded g).rename ρ = ofGraded g := by
  cases g with
  | none => rfl
  | some reading =>
      show some ((reading.1.rename ρ), _) = _
      rw [h reading.1 reading.2 rfl]
      rfl

theorem elements?_rename (h : Alike classes classes') (v : Value) :
    elements? classes' (v.rename ρ) = (elements? classes v).map (List.map (Value.rename ρ)) := by
  have hyielded := h.yielded?_rename (ρ := ρ) v
  cases v with
  | atom a =>
      cases a with
      | classRef c => exact hyielded
      | _ => rfl
  | seq place kind items =>
      rw [Value.rename_seq] at hyielded ⊢
      cases kind with
      | bytearray => rfl
      | _ => exact hyielded
  | dict place entries => rfl
  | object place name core attributes =>
      rw [Value.rename_object] at hyielded ⊢
      cases core with
      | some core => rfl
      | none => exact hyielded

theorem startGrade_rename (kind : SeqKind) (v : Value) :
    startGrade kind (v.rename ρ) = startGrade kind v := by
  cases v <;> rfl

/-- A collection that is made of renamed elements is the renamed collection. -/
theorem collected_rename (kind : SeqKind) (items : List Value) (grade : Grade) :
    some (Value.seq none kind (items.map (Value.rename ρ)), grade) =
      Reading.rename ρ (some (.seq none kind items, grade)) := by
  simp only [Reading.rename, Option.map_some, Value.rename_seq, Option.map_none]

section Readers

variable {read read' : Value → Reading} (hread : Follows ρ read read')

include hread

theorem readEach_rename (grade : Grade) (items : List Value) :
    readEach read' grade (items.map (Value.rename ρ)) =
      (readEach read grade items).map fun r => (r.1.map (Value.rename ρ), r.2) := by
  induction items generalizing grade with
  | nil => rfl
  | cons v rest ih =>
      simp only [List.map_cons, readEach, hread v]
      cases read v with
      | none => rfl
      | some reading =>
          simp only [Reading.rename, Option.map_some, Option.bind_eq_bind, Option.bind_some, ih]
          cases readEach read (grade.meet reading.2) rest <;> rfl

theorem readElements_rename (h : Alike classes classes') (kind : SeqKind) (v : Value) :
    readElements classes' kind read' (v.rename ρ) =
      (readElements classes kind read v).map fun r => (r.1.map (Value.rename ρ), r.2) := by
  simp only [readElements, elements?_rename h, startGrade_rename]
  cases elements? classes v with
  | none => rfl
  | some items => exact readEach_rename hread _ items

theorem readIterable_rename (h : Alike classes classes') :
    Follows ρ (readIterable classes read) (readIterable classes' read') := by
  intro v
  simp only [readIterable, h.yielded?_rename]
  refine bind_map_comm fun items => ?_
  rw [readEach_rename hread]
  exact bind_map_comm fun r => collected_rename _ r.1 .exact

theorem readSequence_rename : Follows ρ (readSequence read) (readSequence read') := by
  intro v
  cases v with
  | seq place kind items =>
      rw [Value.rename_seq]
      cases kind with
      | list | tuple | deque =>
          simp only [readSequence, readEach_rename hread]
          exact bind_map_comm fun r => collected_rename _ r.1 r.2
      | set | frozenset | bytearray | bag | iterator => rfl
  | atom | dict | object => rfl

end Readers

/-! ## Mappings -/

theorem putEntry_rename (h : Alike classes classes') (hρ : ρ.Injective)
    (entries : List (Value × Value)) (k v : Value) :
    putEntry classes' (entries.map fun entry => (entry.1.rename ρ, entry.2.rename ρ))
        (k.rename ρ) (v.rename ρ) =
      (putEntry classes entries k v).map fun entry => (entry.1.rename ρ, entry.2.rename ρ) := by
  unfold putEntry
  rw [h.keyOf?_rename]
  cases classes.keyOf? k with
  | none => rw [List.map_append]; rfl
  | some key =>
      have hsame (entry : Value × Value) := h.hasKey_rename hρ key entry.1
      simp only [Option.map_some, List.any_map, Function.comp_def, hsame, List.map_map]
      split
      · rw [List.map_map]
        refine List.map_congr_left fun entry _ => ?_
        simp only [Function.comp_apply]
        split <;> rfl
      · rw [List.map_append]
        rfl

theorem readEntries_rename (h : Alike classes classes') (hρ : ρ.Injective)
    {readKey readKey' readValue readValue' : Value → Reading} (hkey : Follows ρ readKey readKey')
    (hvalue : Follows ρ readValue readValue') (grade : Grade) (entries : List (Value × Value)) :
    readEntries classes' readKey' readValue' grade
        (entries.map fun entry => (entry.1.rename ρ, entry.2.rename ρ)) =
      (readEntries classes readKey readValue grade entries).map fun r =>
        (r.1.map fun entry => (entry.1.rename ρ, entry.2.rename ρ), r.2) := by
  let carry (r : List (Value × Value) × Grade) :=
    (r.1.map fun entry => (entry.1.rename ρ, entry.2.rename ρ), r.2)
  refine foldlM_map_comm (m := carry) (fun state entry => ?_) ([], grade) entries
  simp only [hkey entry.1, hvalue entry.2]
  refine bind_map_comm fun k => bind_map_comm fun v => ?_
  simp only [h.isHashable_rename, carry, putEntry_rename h hρ]
  split <;> rfl

theorem betterOf_rename (best : Reading) (new : Value × Grade) :
    betterOf (best.rename ρ) (new.1.rename ρ, new.2) = (betterOf best new).rename ρ := by
  cases best with
  | none => rfl
  | some best =>
      simp only [betterOf, Reading.rename, Option.map_some]
      split <;> rfl

/-! ## Listed values and members -/

theorem memberWithKey?_rename (h : Alike classes classes') (hρ : ρ.Injective) (enumeration : String)
    (key : Key) :
    memberWithKey? classes' enumeration (key.rename ρ) = memberWithKey? classes enumeration key := by
  unfold memberWithKey?
  rw [h.membersOf]
  congr 1
  refine List.find?_congr fun entry hentry => ?_
  have hkey := h.hasKey_rename hρ key entry.2
  rwa [rename_of_mem_membersOf hentry] at hkey

theorem readAsMixin_rename (h : Alike classes classes') (enumeration : String) (v : Value) :
    readAsMixin classes' enumeration (v.rename ρ) = readAsMixin classes enumeration v := by
  simp only [readAsMixin, h.mixinOf?]
  split
  · exact readScalar_rename h .int v
  · exact readScalar_rename h .str v
  · exact readScalar_rename h .float v
  · rfl

theorem readAsMixin_isPlaceless (enumeration : String) (v : Value) :
    IsPlaceless (readAsMixin classes enumeration v) := by
  unfold readAsMixin
  split
  · exact readScalar_isPlaceless .int v
  · exact readScalar_isPlaceless .str v
  · exact readScalar_isPlaceless .float v
  · exact isPlaceless_none

theorem readMember_rename (h : Alike classes classes') (hρ : ρ.Injective) (enumeration : String) :
    Follows ρ (fun v => ofGraded (readMember classes enumeration v))
      fun v => ofGraded (readMember classes' enumeration v) := by
  have hfind : ∀ u : Value,
      (classes'.keyOf? (u.rename ρ)).bind (memberWithKey? classes' enumeration) =
        (classes.keyOf? u).bind (memberWithKey? classes enumeration) := by
    intro u
    rw [h.keyOf?_rename]
    cases classes.keyOf? u with
    | none => rfl
    | some key => exact memberWithKey?_rename h hρ enumeration key
  intro v
  have hmixin : ((readAsMixin classes enumeration v).bind fun r =>
        (classes'.keyOf? r.1).bind (memberWithKey? classes' enumeration)) =
      (readAsMixin classes enumeration v).bind fun r =>
        (classes.keyOf? r.1).bind (memberWithKey? classes enumeration) := by
    cases hreading : readAsMixin classes enumeration v with
    | none => rfl
    | some r =>
        have hr := hfind r.1
        rwa [readAsMixin_isPlaceless enumeration v r.1 r.2 hreading ρ] at hr
  simp only [readMember, h.isInstance_rename, readAsMixin_rename h, hmixin, hfind]
  split
  · rfl
  · cases Option.or _ _ <;> rfl

theorem readLiteral_rename (h : Alike classes classes') (hρ : ρ.Injective) (values : List Atom) :
    Follows ρ (fun v => ofGraded (readLiteral classes values v))
      fun v => ofGraded (readLiteral classes' values v) := by
  have hequal : ∀ (key : Key) (a : Atom), (classes'.keyOf? (.atom a)).any (sameKey (key.rename ρ)) =
      (classes.keyOf? (.atom a)).any (sameKey key) := fun key a => h.hasKey_rename hρ key (.atom a)
  intro v
  simp only [readLiteral, h.keyOf?_rename, Value.classOf_rename]
  cases classes.keyOf? v with
  | none => rfl
  | some key =>
      simp only [Option.map_some, Option.bind_some, hequal]
      cases Option.or _ _ <;> rfl

/-! ## Schemas -/

section Schemas

variable {settled : String → Prop} {readRecord readRecord' : String → Value → Reading}

mutual

/-- Schemas go together if the readers of the records behind them do. -/
theorem readWith_rename (h : Alike classes classes') (hρ : ρ.Injective)
    (hrecord : ∀ name, settled name → Follows ρ (readRecord name) (readRecord' name)) :
    (schema : Schema) → (∀ name ∈ references schema, settled name) →
    Follows ρ (readWith classes readRecord schema) (readWith classes' readRecord' schema)
  | .any, _ => fun v => by simp only [readWith]; rfl
  | .absent, _ => fun v => by
    simp only [readWith, Value.isNone_rename]
    split <;> rfl
  | .scalar type, _ => fun v => by
    simp only [readWith, readScalar_rename h]
    exact (ofGraded_rename (readScalar_isPlaceless type v)).symm
  | .enumeration name, _ => fun v => by
    simp only [readWith]
    exact readMember_rename h hρ name v
  | .literal values, _ => fun v => by
    simp only [readWith]
    exact readLiteral_rename h hρ values v
  | .nullable inner, hs => fun v => by
    simp only [readWith, Value.isNone_rename, readWith_rename h hρ hrecord inner hs v]
    split <;> rfl
  | .union members, hs => fun v => by
    simp only [readWith]
    exact readBest_rename h hρ hrecord members hs none v
  | .list item, hs | .deque item, hs | .tupleOf item, hs => fun v => by
    simp only [readWith, readElements_rename (readWith_rename h hρ hrecord item hs) h]
    exact bind_map_comm fun r => collected_rename _ r.1 r.2
  | .set item, hs | .frozenset item, hs => fun v => by
    simp only [readWith, readElements_rename (readWith_rename h hρ hrecord item hs) h]
    refine bind_map_comm fun r => ?_
    simp only [h.toSet?_rename hρ]
    exact bind_map_comm fun items => collected_rename _ items r.2
  | .tuple schemas, hs => fun v => by
    simp only [readWith, elements?_rename h, startGrade_rename]
    refine bind_map_comm fun items => ?_
    rw [readPlaces_rename h hρ hrecord schemas hs]
    exact bind_map_comm fun r => collected_rename _ r.1 r.2
  | .iterable item, hs => readIterable_rename (readWith_rename h hρ hrecord item hs) h
  | .dict key value, hs => fun v => by
    have hkey := readWith_rename h hρ hrecord key fun name hname =>
      hs name (List.mem_append_left _ hname)
    have hvalue := readWith_rename h hρ hrecord value fun name hname =>
      hs name (List.mem_append_right _ hname)
    cases v with
    | dict place entries =>
        rw [Value.rename_dict]
        simp only [readWith, readEntries_rename h hρ hkey hvalue]
        refine bind_map_comm fun r => ?_
        simp only [Option.map_some, Value.rename_dict, Option.map_none]
    | atom | seq | object =>
        simp only [Value.rename_atom, Value.rename_seq, Value.rename_object, readWith]
        rfl
  | .sequence item, hs => fun v => by
    simp only [readWith]
    exact readSequence_rename (readWith_rename h hρ hrecord item hs) v
  | .record name, hs | .model name, hs => fun v => by
    simp only [readWith]
    exact hrecord name (hs name (List.mem_singleton_self name)) v
  | .instanceOf c, _ => fun v => by
    simp only [readWith, h.isInstance_rename]
    split <;> rfl

theorem readBest_rename (h : Alike classes classes') (hρ : ρ.Injective)
    (hrecord : ∀ name, settled name → Follows ρ (readRecord name) (readRecord' name)) :
    (schemas : List Schema) →
    (∀ name ∈ referencesAll schemas, settled name) → (best : Reading) → (v : Value) →
    readBest classes' readRecord' (best.rename ρ) schemas (v.rename ρ) =
      (readBest classes readRecord best schemas v).rename ρ
  | [], _, _, _ => rfl
  | schema :: rest, hs, best, v => by
    have hfirst := readWith_rename h hρ hrecord schema
      (fun name hname => hs name (List.mem_append_left _ hname)) v
    have hrest := readBest_rename h hρ hrecord rest fun name hname =>
      hs name (List.mem_append_right _ hname)
    simp only [readBest, hfirst]
    cases readWith classes readRecord schema v with
    | none => exact hrest best v
    | some r =>
        simp only [Reading.rename, Option.map_some]
        split
        · rfl
        · have hbetter := hrest (betterOf best r) v
          rwa [← betterOf_rename] at hbetter

theorem readPlaces_rename (h : Alike classes classes') (hρ : ρ.Injective)
    (hrecord : ∀ name, settled name → Follows ρ (readRecord name) (readRecord' name)) :
    (schemas : List Schema) →
    (∀ name ∈ referencesAll schemas, settled name) → (grade : Grade) → (items : List Value) →
    readPlaces classes' readRecord' schemas grade (items.map (Value.rename ρ)) =
      (readPlaces classes readRecord schemas grade items).map fun r =>
        (r.1.map (Value.rename ρ), r.2)
  | [], _, _, [] => rfl
  | [], _, _, _ :: _ => rfl
  | _ :: _, _, _, [] => by simp only [readPlaces]; rfl
  | schema :: schemas, hs, grade, v :: rest => by
    have hfirst := readWith_rename h hρ hrecord schema
      (fun name hname => hs name (List.mem_append_left _ hname)) v
    have hrest := readPlaces_rename h hρ hrecord schemas fun name hname =>
      hs name (List.mem_append_right _ hname)
    simp only [List.map_cons, readPlaces, hfirst]
    refine bind_map_comm fun item => ?_
    rw [hrest]
    exact bind_map_comm fun items => rfl

end

end Schemas

/-! ## Fields -/

theorem valueUnder?_rename (hρ : ρ.Injective) (entries : List (Value × Value)) (name : String) :
    valueUnder? (entries.map fun entry => (entry.1.rename ρ, entry.2.rename ρ)) name =
      (valueUnder? entries name).map (Value.rename ρ) := by
  have hkey : ∀ k : Value, ((k.rename ρ).shape == [.text name]) = (k.shape == [.text name]) := by
    intro k
    rw [shape_rename]
    exact beq_rename hρ k.shape [.text name]
  unfold valueUnder?
  rw [List.find?_map, Option.map_map, Option.map_map]
  simp only [Function.comp_def, hkey]

theorem given?_rename (hρ : ρ.Injective) (acceptsNames : Bool) (entries : List (Value × Value))
    (f : Field) :
    given? acceptsNames (entries.map fun entry => (entry.1.rename ρ, entry.2.rename ρ)) f =
      (given? acceptsNames entries f).map (Value.rename ρ) := by
  unfold given?
  split
  · exact valueUnder?_rename hρ entries f.name
  · rw [valueUnder?_rename hρ, valueUnder?_rename hρ]
    cases valueUnder? entries _ with
    | some v => rfl
    | none => split <;> rfl

theorem defaultOf?_rename (f : Field) : (defaultOf? f).map (Value.rename ρ) = defaultOf? f := by
  unfold defaultOf?
  split
  · rfl
  · exact congrArg some (Value.rename_detach _)
  · exact congrArg some (Value.rename_detach _)

theorem extraEntries_rename (acceptsNames : Bool) (fields : List Field)
    (entries : List (Value × Value)) :
    extraEntries acceptsNames fields (entries.map fun entry => (entry.1.rename ρ, entry.2.rename ρ)) =
      (extraEntries acceptsNames fields entries).map fun entry => (entry.1, entry.2.rename ρ) := by
  unfold extraEntries
  rw [List.filterMap_map, List.map_filterMap]
  congr 1
  funext entry
  obtain ⟨k, v⟩ := entry
  cases k with
  | atom a =>
      cases a with
      | str name =>
          simp only [Function.comp_apply, Value.rename_atom]
          split <;> rfl
      | _ => rfl
  | seq | dict | object =>
      simp only [Function.comp_apply, Value.rename_seq, Value.rename_dict, Value.rename_object]
      rfl

/-- The first values of hidden attributes are kept by the class as copies. -/
theorem rename_hiddenAttributes (c : ClassRef) :
    (classes.hiddenAttributes c).map (fun entry => (entry.1, entry.2.rename ρ)) =
      classes.hiddenAttributes c := by
  refine Value.map_attributes_eq fun entry hentry => ?_
  obtain ⟨decl, -, hdecl⟩ := List.mem_flatMap.mp hentry
  obtain ⟨e, -, he⟩ := List.mem_filterMap.mp hdecl
  cases e with
  | hidden name v =>
      cases he
      exact Value.rename_detach v
  | field f =>
      dsimp only at he
      split at he
      · split at he
        · cases he
          exact Value.rename_detach _
        · cases he
      · split at he
        · cases he
          exact Value.rename_detach _
        · cases he
      · cases he
  | «attribute» | method | iteration | property | maker => cases he

end Memberwise.Schema
