import Memberwise.Proofs.Mapper.Order
import Memberwise.Proofs.Parallel.Transfer
import Memberwise.Proofs.Plan.Respelling
import Memberwise.Proofs.Schema.Respelling

/-! # Mappings of classes whose annotations are respelled

Classes whose annotations are respelled have plans that are the same but for the spelling of types,
and the mutators of these plans leave the same objects.  Only a schema tells spellings apart: it
reads no absent value for the field of a class behind it unless the field is an option.
-/

namespace Memberwise

open Schema (ReadsAlike SameBehind)

variable {classes classes' : Classes} {a a' : Assignment Converter}

/-! ## Steps -/

theorem Assignment.Respelled.sameStep (h : a.Respelled classes a') : a.SameStep a' where
  source := h.source.name
  target := h.target.name
  operation := h.operation
  declared := h.target.declared.unwrapped

/-- Whether the classes behind the schema into whose type a step converts, if it converts, have
fields with the same schemas in two spellings. -/
def Assignment.ReadsAlike (classes classes' : Classes) (a : Assignment Converter) : Prop :=
  ∀ type schema, a.conversionType? = some type → Schema.describe? classes type = some schema →
    ∀ name ∈ schema.references, SameBehind classes classes' name

theorem Assignment.ReadsAlike.isShared (h : a.ReadsAlike classes classes') :
    a.IsShared (.inPlace (SameBehind classes classes')) classes where
  settled type htype known :=
    Conversion.isSettled_of_describe? (fun schema => h type schema htype) known
  fixed _ _ := ⟨trivial, rfl⟩

/-! ## Runs -/

theorem Store.Similar.eq {settled : String → Prop} {s s' : Store}
    (h : Store.Similar (.inPlace settled) s s') : s' = s := by
  have hcells : ∀ p, s'.get? p = s.get? p := by
    intro p
    have hcell := h.cells p trivial
    have hsame : (Cell.rename (Correspondence.inPlace settled).place) = id := funext Cell.rename_id
    rwa [hsame, Option.map_id] at hcell
  obtain ⟨cells⟩ := s
  obtain ⟨cells'⟩ := s'
  exact congrArg Store.mk (Array.ext_getElem? hcells)

namespace World

variable {w : World} {source target : Slot} {steps steps' : List (Assignment Converter)}
  {f f' : MapFunction}

/-- Worlds that correspond in place are the same but for their classes. -/
theorem Parallel.eq {settled : String → Prop} {w₁ w₁' : World}
    (h : Parallel (.inPlace settled) none w₁ w₁') (hconstants : w₁'.constants = w₁.constants) :
    w₁' = { w₁ with classes := w₁'.classes } := by
  obtain ⟨classes, store, constants, schemas⟩ := w₁
  obtain ⟨classes', store', constants', schemas'⟩ := w₁'
  obtain rfl : store' = store := h.store.eq
  obtain rfl : constants' = constants := hconstants
  obtain rfl : schemas' = schemas := h.schemas'
  rfl

theorem transferMembers_respelled (h : w.classes.Respelled classes') (htarget : w.Has target)
    (hmodel : w.classes.isModel (w.classOf target) = false)
    (hsteps : List.Forall₂ (Assignment.Respelled w.classes) steps steps')
    (hreads : ∀ a ∈ steps, a.ReadsAlike w.classes classes') (source : Slot) :
    ({ w with classes := classes' } : World).transferMembers source target steps' =
      ({ (w.transferMembers source target steps).1 with classes := classes' },
        (w.transferMembers source target steps).2) := by
  have hstart : Parallel (.inPlace (SameBehind w.classes classes')) none w
      { w with classes := classes' } := Similar.inPlace (Schema.readsAlike_of_respelled h)
  have hsame : List.Forall₂ Assignment.SameStep steps steps' :=
    hsteps.imp fun _ _ ha => ha.sameStep
  have hshared : ∀ a ∈ steps, a.IsShared (.inPlace (SameBehind w.classes classes')) w.classes :=
    fun a ha => (hreads a ha).isShared
  have hrun : Aside (Parallel (.inPlace (SameBehind w.classes classes')) none) Eq
      (w.transferMembers source target steps)
      (({ w with classes := classes' } : World).transferMembers source target steps') := by
    cases target with
    | atom a =>
        exact (storing_atom a).transferMembers hstart hsame hshared (pairs_inPlace _ source)
          (foreseen_none _)
    | ref t =>
        have hsome : (w.store.get? t).isSome := by
          rw [Store.isSome_get?, decide_eq_true (has_ref.mp htarget)]
        obtain ⟨cell, hcell⟩ := Option.isSome_iff_exists.mp hsome
        by_cases hclass : cell.classOf = .builtin .validatorIterator
        · have hiterator := isIterator_of_classOf hcell hclass
          have hrun := (storing_iterator _ none t t).transferMembers ⟨hstart, hiterator, hiterator⟩
            hsame hshared (pairs_inPlace _ source) (foreseen_none _)
          exact ⟨hrun.world.1, hrun.result⟩
        have hwrites : WritesAlike (.inPlace (SameBehind w.classes classes')) none t cell cell w
            { w with classes := classes' } := by
          have hself : w.store.get? t = some (cell.writeAll []) := by
            rw [hcell, Cell.writeAll_nil]
          refine ⟨hstart, rfl, fun owner howner hisModel => ?_, [], List.forall_mem_nil _, hself,
            hself⟩
          -- Only a model reads what is stored on it by the schemas of its fields.
          rw [classOf_of_get? hcell, howner, hisModel] at hmodel
          cases hmodel
        have hrun := (storing_object _ none t cell hclass).transferMembers hwrites hsame hshared
          (pairs_inPlace _ source) (foreseen_none _)
        exact ⟨hrun.world.similar, hrun.result⟩
  have hchanged := transferMembers_spends w source target steps
  have hchanged' := transferMembers_spends { w with classes := classes' } source target steps'
  have hworld := hrun.world.eq (hchanged'.constants.trans hchanged.constants.symm)
  rw [hchanged'.classes] at hworld
  exact Prod.ext hworld hrun.result.symm

/-- Mutators whose steps are the same but for the spelling of types do the same to the same
objects. -/
theorem mutate_respelled (h : w.classes.Respelled classes') (htarget : w.Has target)
    (hmodel : w.classes.isModel (w.classOf target) = false) (hcreates : f'.creates = f.creates)
    (habsence : f'.absence = f.absence)
    (hsteps : List.Forall₂ (Assignment.Respelled w.classes) f.steps f'.steps)
    (hreads : ∀ a ∈ f.steps, a.ReadsAlike w.classes classes') (source : Slot) :
    ({ w with classes := classes' } : World).mutate f' source target =
      ({ (w.mutate f source target).1 with classes := classes' }, (w.mutate f source target).2) := by
  unfold mutate
  rw [hcreates, habsence, transferMembers_respelled h htarget hmodel hsteps hreads]
  split
  · rfl
  · split <;> rfl

end World

/-! ## Plans -/

namespace Plan

variable {S T : ClassRef} {registry : Registry Converter}

theorem absence_of_build {p : Plan Converter} {f : MapFunction}
    (h : (build classes registry (.cls S) (.cls T) false).outcome = .ok p)
    (hf : p.compileMutator classes = .ok f) :
    f.absence = absenceMessage (⟨S, T, false, []⟩ : Plan Converter) := by
  obtain ⟨rfl, rfl, hcreates, -⟩ := steps_of_build_eq_ok h
  obtain ⟨steps, -, hf⟩ := bind_eq_ok.mp hf
  split at hf
  · cases hf
  · cases hf
    unfold absenceMessage
    rw [hcreates]

/-- Two classes that are no models have a plan in both spellings of annotations and of the types of
rules or in neither, with the same assignments but for the spelling of types.  Their mutators do the
same to the same objects, unless fields of a class behind the schema into whose type a step converts
have other schemas. -/
theorem build_respelled (h : classes.Respelled classes') (hS : classes.isModel S = false)
    (hT : classes.isModel T = false) (registry : Registry Converter) {rules rules' : List Rule}
    (hrules : List.Forall₂ (Rule.Respelled classes) rules rules') :
    (∀ creates, Option.Rel
        (fun p p' => List.Forall₂ (Assignment.Respelled classes) p.assignments p'.assignments)
        (build classes (registry.withRules classes rules) (.cls S) (.cls T) creates).outcome.toOption
        (build classes' (registry.withRules classes' rules') (.cls S) (.cls T)
          creates).outcome.toOption) ∧
    ∀ p p',
      (build classes (registry.withRules classes rules) (.cls S) (.cls T) false).outcome = .ok p →
      (build classes' (registry.withRules classes' rules') (.cls S) (.cls T) false).outcome = .ok p' →
      ∃ f f', p.compileMutator classes = .ok f ∧ p'.compileMutator classes' = .ok f' ∧
        ∀ (w : World) (source target : Slot), w.classes = classes → w.Has target →
          classes.isModel (w.classOf target) = false →
          (∀ a ∈ p.assignments, a.ReadsAlike classes classes') →
          ({ w with classes := classes' } : World).mutate f' source target =
            ({ (w.mutate f source target).1 with classes := classes' },
              (w.mutate f source target).2) := by
  have hregistry := Registry.withRules_respelled h.alike registry hrules
  have hagree := build_agree (registry.withRules classes rules) h hS hT
  rw [hregistry]
  refine ⟨hagree, fun p p' hp hp' => ?_⟩
  obtain ⟨f, hf, hcreates, hsteps⟩ := compileMutator_of_build hp
  obtain ⟨f', hf', hcreates', hsteps'⟩ := compileMutator_of_build hp'
  refine ⟨f, f', hf, hf', ?_⟩
  rintro w source target rfl htarget hmodel hreads
  have hassignments := hagree false
  rw [hp, hp'] at hassignments
  have hrespelled : List.Forall₂ (Assignment.Respelled w.classes) f.steps f'.steps := by
    rw [hsteps, hsteps']
    cases hassignments with
    | some hall => exact hall
  apply World.mutate_respelled h htarget hmodel (hcreates'.trans hcreates.symm) _ hrespelled
  · rw [hsteps]
    exact hreads
  · rw [absence_of_build hp hf, absence_of_build hp' hf']

end Plan

/-! ## Drafts, notes and letters -/

open TypeExpr (bar noneType optional)

/-- Drafts with a mapping for a reply, notes that reply to notes, and letters with a note for a
reply.  The annotations of drafts and letters are spelled in given ways. -/
def mailing (reference value : TypeExpr → TypeExpr) (text : TypeExpr) : Classes :=
  let field (name : String) (type : TypeExpr) : Entry :=
    .field ⟨name, type, .value (.atom .none), false, none, true, none⟩
  let record (name : String) (body : List Entry) : Class :=
    ⟨recordDecl name false body, [.declared name, .builtin .object]⟩
  [record "Draft" [field "pages" (value (.builtin .int)), field "reply" (reference (.builtin .dict))],
    record "Note" [field "text" text, field "reply" (.cls (.declared "Note"))],
    record "Letter" [field "pages" (reference (.builtin .str)),
      field "reply" (reference (.cls (.declared "Note")))]]

/-- References as they stand, and value kinds as options in words. -/
def plainMail : Classes := mailing id optional (.builtin .str)

/-- References as options in words, and value kinds as options with a bar. -/
def optionalMail : Classes := mailing optional (bar · noneType) (.builtin .str)

/-- Plain annotations, but for the texts of notes. -/
def optionalNotes : Classes := mailing id optional (optional (.builtin .str))

theorem respelled_mailing {classes : Classes} {reference reference' value value' : TypeExpr → TypeExpr}
    {text text' : TypeExpr}
    (hreference : ∀ c ∈ [.builtin .dict, .builtin .str, .declared "Note"],
      (reference (.cls c)).Respelled classes (reference' (.cls c)))
    (hvalue : (value (.builtin .int)).Respelled classes (value' (.builtin .int)))
    (htext : text.Respelled classes text') :
    List.Forall₂ (Class.Respelled classes) (mailing reference value text)
      (mailing reference' value' text') := by
  have hfield : ∀ (name : String) {t t' : TypeExpr}, t.Respelled classes t' →
      Entry.Respelled classes (.field ⟨name, t, .value (.atom .none), false, none, true, none⟩)
        (.field ⟨name, t', .value (.atom .none), false, none, true, none⟩) := by
    intro name t t' ht
    refine .field ⟨?_, ht⟩
    unfold Field.outline
    rw [ht.outline]
  have hrecord : ∀ (name : String) {body body' : List Entry},
      List.Forall₂ (Entry.Respelled classes) body body' →
      Class.Respelled classes ⟨recordDecl name false body, [.declared name, .builtin .object]⟩
        ⟨recordDecl name false body', [.declared name, .builtin .object]⟩ :=
    fun name _ _ hbody => ⟨⟨rfl, rfl, rfl, rfl, hbody, .none⟩, rfl⟩
  have hdict := hreference (.builtin .dict) (by decide)
  have hstr := hreference (.builtin .str) (by decide)
  have hnote := hreference (.declared "Note") (by decide)
  exact .cons (hrecord _ (.cons (hfield _ hvalue) (.cons (hfield _ hdict) .nil))) <|
    .cons (hrecord _ (.cons (hfield _ htext) (.cons (hfield _ (.same _)) .nil))) <|
    .cons (hrecord _ (.cons (hfield _ hstr) (.cons (hfield _ hnote) .nil))) .nil

theorem isValueKind_mailing (reference value : TypeExpr → TypeExpr) (text : TypeExpr) :
    ∀ c ∈ [.builtin .dict, .builtin .str, .declared "Note"],
      (mailing reference value text).isValueKind (.cls c) = false := by
  simp only [List.forall_mem_cons]
  exact ⟨rfl, rfl, rfl, List.forall_mem_nil _⟩

theorem respelled_optionalMail : plainMail.Respelled optionalMail := by
  refine respelled_mailing (fun c hc => ?_) (.of_spells rfl .words .bar) (.same _)
  have hbase : ∀ c ∈ [ClassRef.builtin .dict, .builtin .str, .declared "Note"],
      (TypeExpr.cls c).isGenericBase = false := by decide
  exact .of_spells (hbase c hc) (.bare (isValueKind_mailing _ _ _ c hc)) .words

theorem respelled_optionalNotes : plainMail.Respelled optionalNotes := by
  have hreference := isValueKind_mailing id optional (.builtin .str) (.builtin .str) (by decide)
  exact respelled_mailing (fun _ _ => .same _) (.same _)
    (.of_spells rfl (.bare hreference) .words)

/-- Mappings without a text and with one, drafts that hold them, a note and a letter. -/
def posted : World where
  classes := plainMail
  store :=
    let draft (reply : Place) : Cell :=
      .object "Draft" none [("pages", .atom (.int 2)), ("reply", .ref reply)]
    ⟨#[.dict [(.atom (.str "text"), .none)], .dict [(.atom (.str "text"), .atom (.str "Yes"))],
      draft 0, draft 1, .object "Note" none [("text", .atom (.str "")), ("reply", .none)],
      .object "Letter" none [("pages", .none), ("reply", .none)]]⟩
  constants := []
  schemas := .empty

/-- The rule by which a letter states the number of pages, with its types spelled in given ways. -/
def paging (value reference : TypeExpr → TypeExpr) : Rule :=
  ⟨value (.builtin .int), reference (.builtin .str), .function .text .unstated⟩

theorem respelled_paging :
    (paging optional id).Respelled plainMail (paging (bar · noneType) optional) where
  source := .inr ⟨.builtin .int, rfl, rfl, rfl, .words, .bar⟩
  target := .inr ⟨.builtin .str, rfl, rfl, rfl, .bare rfl, .words⟩
  converter := rfl

theorem recordArguments_note (reference value : TypeExpr → TypeExpr) :
    ((mailing reference value (.builtin .str)).recordArguments (.declared "Note")).map Field.type =
      [.builtin .str, .cls (.declared "Note")] := rfl

/-- What is read for a letter are notes, which are spelled as before. -/
theorem sameBehind_note : SameBehind plainMail optionalMail "Note" := by
  have hclosed : ∀ name ∈ ["Note"], ∀ other ∈ Schema.referred plainMail name, other ∈ ["Note"] := by
    decide +kernel
  apply Schema.sameBehind_of_closed hclosed _ (List.mem_singleton_self _)
  intro name hname
  obtain rfl := List.mem_singleton.mp hname
  have hmodel : optionalMail.modelFields (.declared "Note") =
      plainMail.modelFields (.declared "Note") := rfl
  exact Schema.sameFields_of_types respelled_optionalMail.alike (congrArg _ hmodel)
    ((recordArguments_note _ _).trans (recordArguments_note _ _).symm)

namespace Plan

/-- A letter gets what a draft holds in every spelling. -/
theorem build_respelled_letter : ∃ (p p' : Plan Converter) (f f' : MapFunction) (w : World),
    (build plainMail (Registry.empty.withRules plainMail [paging optional id]) (.cls (.declared "Draft"))
      (.cls (.declared "Letter")) false).outcome = .ok p ∧
    (build optionalMail (Registry.empty.withRules optionalMail [paging (bar · noneType) optional])
      (.cls (.declared "Draft")) (.cls (.declared "Letter")) false).outcome = .ok p' ∧
    List.Forall₂ (Assignment.Respelled plainMail) p.assignments p'.assignments ∧
    p.assignments.map (·.source.name) = ["pages", "reply"] ∧
    p.compileMutator plainMail = .ok f ∧ p'.compileMutator optionalMail = .ok f' ∧
    posted.mutate f (.ref 3) (.ref 5) = (w, none) ∧
    ({ posted with classes := optionalMail } : World).mutate f' (.ref 3) (.ref 5) =
      ({ w with classes := optionalMail }, none) ∧
    w.store.get? 5 =
      some (.object "Letter" none [("pages", .atom (.str "2")), ("reply", .ref 6)]) := by
  have hrun : ((build plainMail (Registry.empty.withRules plainMail [paging optional id])
      (.cls (.declared "Draft")) (.cls (.declared "Letter")) false).outcome.toOption.bind fun p =>
      (p.compileMutator plainMail).toOption.map fun f =>
        let run := posted.mutate f (.ref 3) (.ref 5)
        (p.assignments.map (·.source.name),
          (p.assignments.filterMap (·.conversionType?)).all fun type =>
            ((Schema.describe? plainMail type).map Schema.references).all (· == ["Note"]),
          run.2, run.1.store.get? 5)) =
      some (["pages", "reply"], true, none,
        some (.object "Letter" none [("pages", .atom (.str "2")), ("reply", .ref 6)])) := by
    decide +kernel
  obtain ⟨p, hp, hrun⟩ := Option.bind_eq_some_iff.mp hrun
  obtain ⟨f, hf, hrun⟩ := Option.map_eq_some_iff.mp hrun
  rw [toOption_eq_some] at hp hf
  simp only [Prod.mk.injEq] at hrun
  obtain ⟨hnames, hnotes, hend, hletter⟩ := hrun
  obtain ⟨hplans, hmutators⟩ := build_respelled respelled_optionalMail (S := .declared "Draft")
    (T := .declared "Letter") rfl rfl .empty
    (.cons respelled_paging .nil)
  have hplan := hplans false
  rw [hp] at hplan
  generalize hbuilt : (build optionalMail (Registry.empty.withRules optionalMail
    [paging (bar · noneType) optional]) (.cls (.declared "Draft")) (.cls (.declared "Letter"))
      false).outcome.toOption = built at hplan
  cases hplan with
  | @some _ p' hall =>
      have hp' := toOption_eq_some.mp hbuilt
      obtain ⟨g, f', hg, hf', hmutates⟩ := hmutators p p' hp hp'
      obtain rfl : f = g := Except.ok.inj (hf.symm.trans hg)
      have hreads : ∀ a ∈ p.assignments, a.ReadsAlike plainMail optionalMail := by
        intro a ha type schema htype hschema name hname
        have hreferences := List.all_eq_true.mp hnotes type (List.mem_filterMap.mpr ⟨a, ha, htype⟩)
        rw [hschema, Option.map_some, Option.all_some, beq_iff_eq] at hreferences
        rw [hreferences, List.mem_singleton] at hname
        exact hname ▸ sameBehind_note
      have hsame := hmutates posted (.ref 3) (.ref 5) rfl (World.has_ref.mpr (by decide))
        rfl hreads
      rw [hend] at hsame
      exact ⟨p, p', f, f', _, hp, hp', hall, hnames, hf, hf', Prod.ext rfl hend, hsame, hletter⟩

/-- A mapping without a text is read for a note whose text is an option and for no other note. -/
theorem build_respelled_note : ∃ (p p' : Plan Converter) (f f' : MapFunction) (w w' : World),
    plainMail.Respelled optionalNotes ∧ plainMail.isModel (.declared "Draft") = false ∧
    plainMail.isModel (.declared "Note") = false ∧
    (build plainMail .empty (.cls (.declared "Draft")) (.cls (.declared "Note")) false).outcome =
      .ok p ∧
    (build optionalNotes .empty (.cls (.declared "Draft")) (.cls (.declared "Note"))
      false).outcome = .ok p' ∧
    p.compileMutator plainMail = .ok f ∧ p'.compileMutator optionalNotes = .ok f' ∧
    posted.mutate f (.ref 2) (.ref 4) = (w, none) ∧
    ({ posted with classes := optionalNotes } : World).mutate f' (.ref 2) (.ref 4) = (w', none) ∧
    w.held? 4 "reply" = some .none ∧ w'.held? 4 "reply" = some (.ref 6) := by
  have hruns : ((build plainMail (.empty : Registry Converter) (.cls (.declared "Draft"))
      (.cls (.declared "Note")) false).outcome.toOption.bind fun p =>
      (build optionalNotes (.empty : Registry Converter) (.cls (.declared "Draft"))
        (.cls (.declared "Note")) false).outcome.toOption.bind fun p' =>
      (p.compileMutator plainMail).toOption.bind fun f =>
      (p'.compileMutator optionalNotes).toOption.map fun f' =>
        let run := posted.mutate f (.ref 2) (.ref 4)
        let run' := ({ posted with classes := optionalNotes } : World).mutate f' (.ref 2) (.ref 4)
        ([run.2, run'.2], [run.1.held? 4 "reply", run'.1.held? 4 "reply"])) =
      some ([none, none], [some .none, some (.ref 6)]) := by decide +kernel
  obtain ⟨p, hp, hruns⟩ := Option.bind_eq_some_iff.mp hruns
  obtain ⟨p', hp', hruns⟩ := Option.bind_eq_some_iff.mp hruns
  obtain ⟨f, hf, hruns⟩ := Option.bind_eq_some_iff.mp hruns
  obtain ⟨f', hf', hruns⟩ := Option.map_eq_some_iff.mp hruns
  rw [toOption_eq_some] at hp hp' hf hf'
  simp only [Prod.mk.injEq, List.cons.injEq, and_true] at hruns
  obtain ⟨⟨hend, hend'⟩, hheld, hheld'⟩ := hruns
  exact ⟨p, p', f, f', _, _, respelled_optionalNotes, rfl, rfl, hp, hp', hf, hf', Prod.ext rfl hend,
    Prod.ext rfl hend', hheld, hheld'⟩

end Plan

end Memberwise
