import Memberwise.Proofs.Mapper.Frozen
import Memberwise.Proofs.Mapper.Passing
import Memberwise.Proofs.Member.Describable
import Memberwise.Proofs.Plan.Refusal
import Memberwise.Proofs.TypeExpr.Same
import Memberwise.Proofs.World.Plain

/-! # Mapping a class to itself

The plan for a class and itself copies each member that can be read and written, whatever rules
there are.  Run on two instances, it makes the fields of one hold the very objects of the other; it
is stopped only by a frozen record class in the lineage, whose fields it writes like any others if
a nearer record class is not frozen.
-/

namespace Memberwise

/-- Whether a member can be both read and written. -/
def Member.isCopyable (m : Member) : Bool := m.readable && m.writable

/-- The transfer of a member to itself. -/
def Assignment.ofMember {Converter : Type} (m : Member) : Assignment Converter :=
  ⟨m, m, if m.isValueKind then .matchingNullability else .referenceIdentity, .assign⟩

/-- Whether no two members have one name, whatever its case. -/
def DistinctNames (members : List Member) : Prop :=
  (members.map fun m => Text.fold m.name).Nodup

/-- A field of a model is declared, and open if it is writable. -/
theorem Classes.modelField_of_mem_fields {classes : Classes} {c : ClassRef} {members : List Member}
    (hmodel : classes.isModel c = true) (h : classes.fields c = .ok members) {m : Member}
    (hm : m ∈ members) (hw : m.writable = true) : ∃ f,
    (classes.modelFields c).find? (·.name == m.name) = some f ∧ isHiddenName m.name = false ∧
      classes.isFrozenModel c = false ∧ f.frozen = false := by
  have hname := classes.isFieldName_of_mem_fields c h hm
  have hpublic : isHiddenName m.name = false := by
    simp only [isFieldName, Bool.and_eq_true, Bool.not_eq_true'] at hname
    exact hname.1
  obtain ⟨f, hf, rfl⟩ := mem_fields_of_model hmodel h hm
  have hopen : classes.isFrozenModel c = false ∧ f.frozen = false := by
    simpa [Member.describe] using hw
  refine ⟨f, ?_, hpublic, hopen⟩
  show (classes.modelFields c).find? (·.name == f.name) = some f
  cases hfound : (classes.modelFields c).find? (·.name == f.name) with
  | none => exact absurd (beq_self_eq_true f.name) (List.find?_eq_none.mp hfound f hf)
  | some g =>
      have hsame : g.name = f.name := eq_of_beq (by simpa using List.find?_some hfound)
      exact congrArg some (List.inj_on_of_nodup_map (classes.nodup_modelFields c)
        (List.mem_of_find?_eq_some hfound) hf hsame)

namespace Plan

variable {Converter : Type} {classes : Classes} {members : List Member} {m : Member}

/-! ## The plan -/

/-- A member goes to itself as it is: no rule and no collection gets in the way. -/
theorem resolve_self (classes : Classes) (registry : Registry Converter) (m : Member) :
    (Resolver.resolve classes registry m m).outcome = .ok (some (.ofMember m)) := by
  have hagree : (m.keyType classes).same (m.keyType classes) = true := TypeExpr.same_refl _
  unfold Resolver.resolve Assignment.ofMember
  cases hkind : m.isValueKind <;> simp [hagree, Resolver.decide]

theorem assignment?_self (classes : Classes) (registry : Registry Converter) (m : Member) :
    assignment? classes registry (m, m) = some (.ofMember m) :=
  assignment?_eq_some_iff.mpr (resolve_self classes registry m)

/-- Where names are distinct, a member finds itself or nothing. -/
theorem matchFor?_self (h : DistinctNames members) (hm : m ∈ members) :
    matchFor? m members = if m.isCopyable then some m else none := by
  have hunique : ∀ t ∈ members, Text.fold t.name = Text.fold m.name → t = m :=
    fun t ht hname => List.inj_on_of_nodup_map h ht hm hname
  cases hfound : matchFor? m members with
  | some t =>
      obtain ⟨hr, hfirst⟩ := matchFor?_eq_some_iff.mp hfound
      obtain ⟨-, -, -, hw, hname, -⟩ := id hfirst
      obtain rfl := hunique t hfirst.mem hname
      rw [Member.isCopyable, hr, hw]
      rfl
  | none =>
      have hcopyable : m.isCopyable = false := by
        refine Bool.eq_false_iff.mpr fun hboth => ?_
        obtain ⟨hr, hw⟩ := Bool.and_eq_true_iff.mp hboth
        obtain ⟨t, ht⟩ := exists_matchFor? hr hm hw rfl
        rw [hfound] at ht
        cases ht
      rw [hcopyable]
      rfl

theorem matchMembers_self (h : DistinctNames members) :
    matchMembers members members = (members.filter Member.isCopyable).map fun m => (m, m) := by
  have hall : ∀ m ∈ members, (matchFor? m members).map (fun target => (m, target)) =
      if m.isCopyable then some (m, m) else none := by
    intro m hm
    rw [matchFor?_self h hm]
    split <;> rfl
  rw [matchMembers, List.filterMap_congr hall, ← List.filterMap_eq_map, List.filterMap_filter]
  rfl

/-- The members of a class that can be copied, its properties before its fields. -/
def copyable (members : MemberGroup → List Member) : List Member :=
  (members .properties ++ members .fields).filter Member.isCopyable

theorem matchGroups_self {members : MemberGroup → List Member}
    (h : ∀ g, DistinctNames (members g)) :
    matchGroups members members = (copyable members).map fun m => (m, m) := by
  rw [matchGroups, matchMembers_self (h .properties), matchMembers_self (h .fields), copyable,
    List.filter_append, List.map_append]

theorem nodup_copyable {c : ClassRef} {members : MemberGroup → List Member}
    (hm : ∀ g, classes.members c g = .ok (members g)) : ((copyable members).map (·.name)).Nodup :=
  (Classes.nodup_members hm).sublist (List.filter_sublist.map _)

/-- A class has a plan for itself, with one copy for each member that can be read and written. -/
theorem build_self (registry : Registry Converter) {c : ClassRef}
    {members : MemberGroup → List Member} (hm : ∀ g, classes.members c g = .ok (members g))
    (h : ∀ g, DistinctNames (members g)) :
    ∃ p, (build classes registry (.cls c) (.cls c) false).outcome = .ok p ∧
      p.assignments = (copyable members).map .ofMember := by
  have hpairs : pairs classes c c = .ok ((copyable members).map fun m => (m, m)) := by
    rw [pairs_of_members hm hm, matchGroups_self h]
  have hdistinct : (((copyable members).map fun m => (m, m)).map (·.2.name)).Nodup := by
    rw [List.map_map]
    exact nodup_copyable hm
  have hresolves : ∀ pair ∈ (copyable members).map fun m => (m, m),
      Resolves classes registry pair := by
    intro pair hpair
    obtain ⟨m, -, rfl⟩ := List.mem_map.mp hpair
    exact ⟨_, resolve_self classes registry m⟩
  have hcreates : false = true → classes.requiredArguments c = [] := nofun
  obtain ⟨p, hp, hassignments⟩ := build_isOk registry hcreates hpairs hdistinct hresolves
  refine ⟨p, hp, ?_⟩
  rw [hassignments, List.filterMap_map]
  exact List.filterMap_eq_map_iff_forall_eq_some.mpr fun m _ => assignment?_self classes registry m

end Plan

/-! ## The mutator -/

theorem Plan.supportedStep_of_assignment {classes : Classes} {a : Assignment Converter}
    (h : ∀ v, a.operation ≠ .foreign v) : supportedStep classes (.assignment a) = .ok a := by
  unfold supportedStep
  dsimp only
  split
  · rename_i v hforeign
    exact absurd hforeign (h v)
  · rfl

/-- Assignments with operations make a mutator. -/
theorem Plan.compileMutator_isOk {classes : Classes} {p : Plan Converter}
    (hcreates : p.createsTarget = false) (hsteps : p.steps = p.assignments.map .assignment)
    (h : ∀ a ∈ p.assignments, ∀ v, a.operation ≠ .foreign v) :
    ∃ f, p.compileMutator classes = .ok f ∧ f.creates = none ∧ f.steps = p.assignments := by
  have hall : p.steps.mapM (supportedStep classes) = .ok p.assignments := by
    rw [hsteps, mapM_eq_ok_iff, List.forall₂_map_left_iff, List.forall₂_same]
    exact fun a ha => supportedStep_of_assignment (h a ha)
  exact ⟨_, compileMutator_of_steps hcreates hall, rfl, rfl⟩

namespace World

variable {w w' : World} {x y t : Place} {source : Slot} {className : String} {v : Slot}

/-- A value that is stored on an object under the name under which another one holds it changes
nothing of the other one, even if it is the same object. -/
theorem held?_storeOn_of_held {name other : String} (h : w.held? x name = some v) :
    (w.storeOn y name v).held? x other = w.held? x other := by
  obtain ⟨owner, core, attributes, hcell, hheld⟩ := object_of_held h
  have hx : x < w.store.size := Store.lt_of_get? hcell
  by_cases hsame : x = y
  · subst hsame
    have hstored := get?_storeOn hx name v
    rw [hcell] at hstored
    unfold held?
    rw [hstored, hcell]
    show (putAttribute attributes name v).lookup other = attributes.lookup other
    by_cases hname : other = name
    · rw [hname, lookup_putAttribute_self, hheld]
    · exact lookup_putAttribute_of_ne hname
  · have hcells := (storeOn_changesOnly w y name v).cells x hx hsame
    unfold held?
    rw [hcells]

/-- Whether an object holds a plain attribute that its class has a place for. -/
structure HasField (w : World) (p : Place) (className name : String) : Prop where
  plain : w.classes.IsPlain (.declared className) name
  held : ∃ v, w.held? p name = some v
  place : w.classes.isModel (.declared className) = false →
    w.hasPlaceFor (.declared className) name = true

theorem HasField.congr {name : String} (h : w.HasField x className name)
    (hclasses : w'.classes = w.classes) (hheld : w'.held? x name = w.held? x name) :
    w'.HasField x className name := by
  refine ⟨?_, ?_, ?_⟩
  · rw [hclasses]
    exact h.plain
  · rw [hheld]
    exact h.held
  · unfold hasPlaceFor hasOpenAttributes
    rw [hclasses]
    exact h.place

/-- What is held under a name. -/
def heldValue (w : World) (p : Place) (name : String) : Slot := (w.held? p name).getD .none

theorem HasField.held_eq {name : String} (h : w.HasField x className name) :
    w.held? x name = some (w.heldValue x name) := by
  obtain ⟨v, hv⟩ := h.held
  rw [heldValue, hv]
  rfl

/-- A copy of a field makes of it the very value that is held. -/
theorem transferred_ofMember {m : Member} (hx : w.classOf (.ref x) = .declared className)
    (hfield : w.HasField x className m.name) :
    w.transferred (.ofMember m) (.ref x) = (w, .ok (w.heldValue x m.name)) :=
  transferred_of_passes (.inl rfl) (getAttribute_of_held (hx ▸ hfield.plain) hfield.held_eq)

/-- Copies of fields that are not guarded write the values one after another. -/
theorem transferMembers_ofMember {l : List Member} (hx : w.classOf (.ref x) = .declared className)
    (hy : y < w.store.size) (hfields : ∀ m ∈ l, w.HasField x className m.name)
    (hplain : w.StoresPlainly y) (hplaces : ∀ m ∈ l, w.destination y m.name = .ok m.name)
    (rest : List (Assignment Converter)) : ∃ w',
      Written y (l.map fun m => (m.name, w.heldValue x m.name)) w w' ∧
      (∀ name, w'.held? x name = w.held? x name) ∧
      w.transferMembers (.ref x) (.ref y) (l.map .ofMember ++ rest) =
        w'.transferMembers (.ref x) (.ref y) rest := by
  -- The source holds the same all the time, though it may be the target.
  let I (w' : World) : Prop := w'.classes = w.classes ∧
    w'.classOf (.ref x) = .declared className ∧ ∀ name, w'.held? x name = w.held? x name
  have hsteps : ∀ a ∈ (l.map .ofMember : List (Assignment Converter)), ∀ w', I w' →
      w'.transferred a (.ref x) = (w', .ok (w.heldValue x a.target.name)) ∧
        I (w'.storeOn y a.target.name (w.heldValue x a.target.name)) := by
    intro a ha w' hI
    obtain ⟨m, hm, rfl⟩ := List.mem_map.mp ha
    obtain ⟨hclasses, hclass, hheld⟩ := hI
    have hfield := (hfields m hm).congr hclasses (hheld m.name)
    have hvalue : w'.heldValue x m.name = w.heldValue x m.name := by
      rw [heldValue, hheld, heldValue]
    have hkept : ∀ name, (w'.storeOn y m.name (w.heldValue x m.name)).held? x name =
        w'.held? x name := fun _ => held?_storeOn_of_held (hvalue ▸ hfield.held_eq)
    refine ⟨hvalue ▸ transferred_ofMember hclass hfield, ?_, ?_, ?_⟩
    · exact (storeOn_changesOnly w' y m.name _).classes.trans hclasses
    · exact (classOf_storeOn w' y _ _ _).trans hclass
    · exact fun name => (hkept name).trans (hheld name)
  have hplaces' : ∀ a ∈ (l.map .ofMember : List (Assignment Converter)),
      w.destination y a.target.name = .ok a.target.name := List.forall_mem_map.mpr hplaces
  obtain ⟨w', hwritten, ⟨-, -, hheld⟩, hrun⟩ :=
    transferMembers_passes (fun a => w.heldValue x a.target.name) hy hplain hplaces'
      ⟨rfl, hx, fun _ => rfl⟩ hsteps rest
  rw [List.map_map] at hwritten
  exact ⟨w', hwritten, hheld, hrun⟩

/-- A copyable field that is not guarded is stored on the instance itself. -/
theorem destination_of_copyable {members : List Member}
    (hfields : w.classes.fields (.declared className) = .ok members) {m : Member}
    (hm : m ∈ members) (hw : m.writable = true) (hx : w.HasField x className m.name)
    (hy : w.IsInstance y className) (hopen : w.isGuarded (.declared className) m.name = false) :
    w.destination y m.name = .ok m.name := by
  apply destination_of_place hy hopen
  cases hmodel : w.classes.isModel (.declared className) with
  | false => exact targetOf_of_plain hmodel hx.plain (hx.place hmodel)
  | true =>
      obtain ⟨f, hfound, hpublic, hfrozen, hopen⟩ :=
        Classes.modelField_of_mem_fields hmodel hfields hm hw
      exact targetOf_of_modelField hmodel hx.plain hpublic hfound hfrozen hopen

/-- Whether the fields of an instance that can be copied are plain, and set on it. -/
def HasFields (w : World) (p : Place) (className : String)
    (members : MemberGroup → List Member) : Prop :=
  ∀ m ∈ Plan.copyable members, m ∈ members .fields ∧ w.HasField p className m.name

/-- Copies of members that are not guarded make an instance hold what another one holds. -/
theorem transferMembers_copyable {members : MemberGroup → List Member}
    (hmembers : w.classes.fields (.declared className) = .ok (members .fields))
    (hx : w.IsInstance x className) (hy : w.IsInstance y className) (hplain : w.StoresPlainly y)
    (hfields : w.HasFields x className members) {l : List Member}
    (hl : ∀ m ∈ l, m ∈ Plan.copyable members)
    (hopen : ∀ m ∈ l, w.isGuarded (.declared className) m.name = false)
    (rest : List (Assignment Converter)) : ∃ w',
      Written y (l.map fun m => (m.name, w.heldValue x m.name)) w w' ∧
      (∀ m ∈ l, ∃ v, w.held? x m.name = some v ∧ w'.held? y m.name = some v) ∧
      (∀ name, w'.held? x name = w.held? x name) ∧
      w.transferMembers (.ref x) (.ref y) (l.map .ofMember ++ rest) =
        w'.transferMembers (.ref x) (.ref y) rest := by
  have hplaces : ∀ m ∈ l, w.destination y m.name = .ok m.name := by
    intro m hm
    have hcopyable := List.of_mem_filter (hl m hm)
    exact destination_of_copyable hmembers (hfields m (hl m hm)).1
      (Bool.and_eq_true_iff.mp hcopyable).2 (hfields m (hl m hm)).2 hy (hopen m hm)
  obtain ⟨w', hwritten, hsource, hsteps⟩ := transferMembers_ofMember hx.classOf hy.lt
    (fun m hm => (hfields m (hl m hm)).2) hplain hplaces rest
  refine ⟨w', hwritten, ?_, hsource, hsteps⟩
  intro m hm
  have hname : m.name ∈ (l.map fun m => (m.name, w.heldValue x m.name)).map (·.1) :=
    List.mem_map_of_mem (List.mem_map_of_mem hm)
  refine ⟨w.heldValue x m.name, (hfields m (hl m hm)).2.held_eq, ?_⟩
  exact hwritten.held_of_mem hy hname (List.forall_mem_map.mpr fun n _ => rfl)

/-- Writes to an object change the class of none. -/
theorem Written.classOf_of_lt {ws : List (String × Slot)} (h : Written y ws w w')
    (hx : x < w.store.size) : w'.classOf (.ref x) = w.classOf (.ref x) := by
  by_cases hsame : x = y
  · rw [hsame, h.classOf]
  · exact h.frame.classOf_eq hx hsame

/-- A copy of a guarded field fails. -/
theorem transferMember_guarded {m : Member} (hx : w.classOf (.ref x) = .declared className)
    (hfield : w.HasField x className m.name) (hy : w.IsInstance y className)
    (hplain : w.StoresPlainly y) (h : w.isGuarded (.declared className) m.name = true) :
    w.transferMember (.ofMember m) (.ref x) (.ref y) = (w, some .frozen) := by
  have hname : (.ofMember m : Assignment Converter).target.name = m.name := rfl
  rw [transferMember_passes (transferred_ofMember hx hfield) hplain, hname, destination_of_guarded hy h]

end World

/-- A class whose members have names of their own has a plan for itself, whatever the rules: one
copy for each member that can be read and written.  Run on two instances of which one has all
these members as plain fields, the plan makes the other one hold the very same objects, as long as
no record class guards one of the names; at the first one that is guarded it fails. -/
theorem Plan.build_identity {classes : Classes} {className : String}
    (hc : classes.Describable (.declared className))
    (hdistinct : ∀ g, DistinctNames (listedMembers classes (.declared className) g))
    (registry : Registry Converter) :
    ∃ p f, (build classes registry (.cls (.declared className)) (.cls (.declared className))
        false).outcome = .ok p ∧
      p.assignments =
        (copyable (listedMembers classes (.declared className))).map .ofMember ∧
      p.compileMutator classes = .ok f ∧
      ∀ (w : World) (x y : Place), w.classes = classes → w.IsInstance x className →
        w.IsInstance y className → w.StoresPlainly y →
        w.HasFields x className (listedMembers classes (.declared className)) →
        ((∀ m ∈ copyable (listedMembers classes (.declared className)),
            w.isGuarded (.declared className) m.name = false) →
          ∃ w', w.mutate f (.ref x) (.ref y) = (w', none) ∧
            ∀ m ∈ copyable (listedMembers classes (.declared className)), ∃ v,
              w.held? x m.name = some v ∧ w'.held? y m.name = some v) ∧
        ∀ front m back, copyable (listedMembers classes (.declared className)) =
            front ++ m :: back →
          (∀ n ∈ front, w.isGuarded (.declared className) n.name = false) →
          w.isGuarded (.declared className) m.name = true →
          ∃ w', w.mutate f (.ref x) (.ref y) = (w', some .frozen) ∧
            ∀ n ∈ front, ∃ v, w.held? x n.name = some v ∧ w'.held? y n.name = some v := by
  have hmembers := members_of_describable hc
  generalize listedMembers classes (.declared className) = members at hmembers hdistinct ⊢
  obtain ⟨p, hp, hassignments⟩ := build_self registry hmembers hdistinct
  obtain ⟨-, -, hcreates, hsteps⟩ := steps_of_build_eq_ok hp
  have hsupported : ∀ a ∈ p.assignments, ∀ v, a.operation ≠ .foreign v := by
    rw [hassignments]
    rintro a ha v
    obtain ⟨m, -, rfl⟩ := List.mem_map.mp ha
    exact nofun
  obtain ⟨f, hf, hcreates, hsteps⟩ : ∃ f, p.compileMutator classes = .ok f ∧ f.creates = none ∧
      f.steps = p.assignments := compileMutator_isOk hcreates hsteps hsupported
  refine ⟨p, f, hp, hassignments, hf, ?_⟩
  rintro w x y rfl hx hy hplain hfields
  have hrun : w.mutate f (.ref x) (.ref y) =
      w.transferMembers (.ref x) (.ref y) ((copyable members).map .ofMember) := by
    rw [World.mutate_of_present hcreates rfl rfl, hsteps, hassignments]
  constructor
  · intro hopen
    obtain ⟨w', -, hheld, -, hsteps⟩ := World.transferMembers_copyable (hmembers .fields) hx hy
      hplain hfields (fun _ => id) hopen []
    rw [List.append_nil] at hsteps
    exact ⟨w', hrun.trans hsteps, hheld⟩
  · intro front m back hsplit hopen hguarded
    have hm : m ∈ copyable members := by
      rw [hsplit]
      exact List.mem_append_right _ List.mem_cons_self
    have hfront : ∀ n ∈ front, n ∈ copyable members := by
      intro n hn
      rw [hsplit]
      exact List.mem_append_left _ hn
    obtain ⟨w', hwritten, hheld, hsource, hsteps⟩ := World.transferMembers_copyable
      (hmembers .fields) hx hy hplain hfields hfront hopen ((m :: back).map .ofMember)
    have hfield := (hfields m hm).2.congr hwritten.frame.classes (hsource m.name)
    have hguarded' : w'.isGuarded (.declared className) m.name = true := by
      rw [World.isGuarded_congr hwritten.frame.classes, hguarded]
    have hstep := World.transferMember_guarded
      ((hwritten.classOf_of_lt hx.lt).trans hx.classOf) hfield (hy.of_written hwritten)
      (hwritten.plain hplain) hguarded'
    refine ⟨w', ?_, hheld⟩
    rw [hrun, hsplit, List.map_append, hsteps, List.map_cons, World.transferMembers, hstep]

/-- Notes with a text, seals with a code, which are frozen, and deeds, which are both and set their
attributes past any guard. -/
def notary : Classes := [
  ⟨recordDecl "Note" false [.field ⟨"text", .builtin .str, .missing, false, none, true, none⟩],
    [.declared "Note", .builtin .object]⟩,
  ⟨recordDecl "Seal" true [.field ⟨"code", .builtin .str, .missing, false, none, true, none⟩],
    [.declared "Seal", .builtin .object]⟩,
  ⟨⟨"Deed", .plain, [.declared "Note", .declared "Seal"], none, [],
      some ⟨[⟨"code", some (.builtin .str), none, .ordinary⟩,
        ⟨"text", some (.builtin .str), none, .ordinary⟩], none, [],
        [("code", "code"), ("text", "text")], []⟩⟩,
    [.declared "Deed", .declared "Note", .declared "Seal", .builtin .object]⟩]

/-- Two notes and two deeds. -/
def cabinet : World where
  classes := notary
  store := ⟨#[
    .object "Note" none [("text", .atom (.str "first"))],
    .object "Note" none [("text", .atom (.str "second"))],
    .object "Deed" none [("code", .atom (.str "x1")), ("text", .atom (.str "x2"))],
    .object "Deed" none [("code", .atom (.str "y1")), ("text", .atom (.str "y2"))]]⟩
  constants := []
  schemas := .empty

theorem Plan.build_identity_note : ∃ (p : Plan Converter) (f : MapFunction) (w' : World),
    (build notary .empty (.cls (.declared "Note")) (.cls (.declared "Note")) false).outcome =
      .ok p ∧
    p.compileMutator notary = .ok f ∧ cabinet.mutate f (.ref 0) (.ref 1) = (w', none) ∧
    ∃ m ∈ copyable (listedMembers notary (.declared "Note")),
      w'.held? 1 m.name = some (.atom (.str "first")) := by
  have hnames : (copyable (listedMembers notary (.declared "Note"))).map (·.name) = ["text"] := by
    decide +kernel
  have hname : ∀ m ∈ copyable (listedMembers notary (.declared "Note")), m.name = "text" := by
    intro m hm
    exact List.mem_singleton.mp (hnames ▸ List.mem_map_of_mem hm)
  have hfields : cabinet.HasFields 0 "Note" (listedMembers notary (.declared "Note")) := by
    intro m hm
    have hfield : m ∈ listedMembers notary (.declared "Note") .fields := by
      have hnone : listedMembers notary (.declared "Note") .properties = [] :=
        List.isEmpty_iff.mp (by decide +kernel)
      rcases List.mem_append.mp (List.mem_of_mem_filter hm) with hproperty | hfield
      · rw [hnone] at hproperty
        cases hproperty
      · exact hfield
    rw [hname m hm]
    exact ⟨hfield, by decide +kernel, ⟨_, rfl⟩, fun _ => by decide +kernel⟩
  have hdistinct : ∀ g, DistinctNames (listedMembers notary (.declared "Note") g) := by
    rintro (_ | _)
    · unfold DistinctNames
      decide +kernel
    · unfold DistinctNames
      decide +kernel
  obtain ⟨p, f, hp, -, hf, hmutates⟩ := Plan.build_identity (by decide +kernel) hdistinct .empty
  obtain ⟨w', hrun, hheld⟩ := (hmutates cabinet 0 1 rfl ⟨_, _, rfl⟩ ⟨_, _, rfl⟩ (by decide +kernel)
    hfields).1 fun m hm => by
      rw [hname m hm]
      decide +kernel
  obtain ⟨m, hm⟩ := List.exists_mem_of_ne_nil (copyable (listedMembers notary (.declared "Note")))
    fun hnil => by rw [hnil] at hnames; cases hnames
  obtain ⟨v, hv, hv'⟩ := hheld m hm
  have hfirst : cabinet.held? 0 m.name = some (.atom (.str "first")) := by
    rw [hname m hm]
    rfl
  rw [hfirst] at hv
  exact ⟨p, f, w', hp, hf, hrun, m, hm, hv'.trans hv.symm⟩

/-- The plan for deeds writes the code of a seal, and fails on it. -/
theorem Plan.build_deed_fails : ∃ (p : Plan Converter) (f : MapFunction) (w' : World),
    notary.Describable (.declared "Deed") ∧
    (∀ g, DistinctNames (listedMembers notary (.declared "Deed") g)) ∧
    (build notary .empty (.cls (.declared "Deed")) (.cls (.declared "Deed")) false).outcome =
      .ok p ∧
    p.assignments.map Assignment.text = ["code -> code [reference_identity/assign]",
      "text -> text [reference_identity/assign]"] ∧
    p.compileMutator notary = .ok f ∧
    (∀ name ∈ ["code", "text"], cabinet.HasField 2 "Deed" name) ∧ cabinet.StoresPlainly 3 ∧
    cabinet.mutate f (.ref 2) (.ref 3) = (w', some .frozen) ∧
    w'.held? 3 "code" ≠ w'.held? 2 "code" := by
  have hruns : ((build notary .empty (.cls (.declared "Deed")) (.cls (.declared "Deed"))
      false).outcome.toOption.bind fun p => (p.compileMutator notary).toOption.map fun f =>
        let end_ := cabinet.mutate f (.ref 2) (.ref 3)
        (p.assignments.map Assignment.text, end_.2, end_.1.held? 3 "code", end_.1.held? 2 "code")) =
      some (["code -> code [reference_identity/assign]", "text -> text [reference_identity/assign]"],
        some .frozen, some (.atom (.str "y1")), some (.atom (.str "x1"))) := by decide +kernel
  obtain ⟨p, hp, hruns⟩ := Option.bind_eq_some_iff.mp hruns
  obtain ⟨f, hf, hruns⟩ := Option.map_eq_some_iff.mp hruns
  rw [toOption_eq_some] at hp hf
  simp only [Prod.mk.injEq] at hruns
  obtain ⟨htexts, hfails, hcode, hcode'⟩ := hruns
  have hdistinct : ∀ g, DistinctNames (listedMembers notary (.declared "Deed") g) := by
    rintro (_ | _)
    · unfold DistinctNames
      decide +kernel
    · unfold DistinctNames
      decide +kernel
  have hfields : ∀ name ∈ ["code", "text"], cabinet.HasField 2 "Deed" name := by
    simp only [List.mem_cons, List.not_mem_nil, or_false]
    rintro name (rfl | rfl)
    · exact ⟨by decide +kernel, ⟨_, rfl⟩, fun _ => by decide +kernel⟩
    · exact ⟨by decide +kernel, ⟨_, rfl⟩, fun _ => by decide +kernel⟩
  refine ⟨p, f, _, by decide +kernel, hdistinct, hp, htexts, hf, hfields, by decide +kernel,
    Prod.ext rfl hfails, ?_⟩
  rw [hcode, hcode']
  decide

end Memberwise
