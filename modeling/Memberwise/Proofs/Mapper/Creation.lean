import Memberwise.Proofs.Mapper.Agreement
import Memberwise.Proofs.World.Arguments

/-! # Classes that a factory cannot make

A factory is only compiled for a class whose initializer has no required parameter.  That is less
than what creation takes: the members of enumerations are looked up by their values, what makes the
objects of a class may have parameters of its own, some predefined initializers check for themselves
what they are given, and an initializer may leave out what the next one requires.  In all other cases
nothing that is required is missing when the factory is run.
-/

namespace Memberwise

namespace Classes

/-- Whether the instances of a declared class are made by initializers. -/
structure RunsInitializer (classes : Classes) (name : String) : Prop where
  noEnumeration : classes.isEnumeration (.declared name) = false
  isConcrete : classes.isAbstract (.declared name) = false
  noModel : classes.isModel (.declared name) = false
  noBag : ∀ append add isAbstract, classes.kindOf? name ≠ some (.bag append add isAbstract)

/-- The function of a declared class that makes its objects. -/
def makerOf? (classes : Classes) (name : String) : Option Maker :=
  (classes.declOf? (.declared name)).bind ClassDecl.maker?

/-- Whether what makes the objects of a lineage, called without arguments, comes to a function that
requires one.  Days and classes of classes have no instance to begin with. -/
inductive LacksMaking (classes : Classes) : List ClassRef → Prop
  | predefined {b : Builtin} {rest : List ClassRef} (h : b ∈ [.date, .datetime, .type]) :
      LacksMaking classes (.builtin b :: rest)
  | passed {b : Builtin} {rest : List ClassRef} (hmakes : b.makesOthers = false)
      (h : LacksMaking classes rest) : LacksMaking classes (.builtin b :: rest)
  | inherited {name : String} {rest : List ClassRef} (hmaker : classes.makerOf? name = none)
      (h : LacksMaking classes rest) : LacksMaking classes (.declared name :: rest)
  | own {name : String} {rest : List ClassRef} {maker : Maker}
      (hmaker : classes.makerOf? name = some maker) (h : LeavesOut maker.parameters 0) :
      LacksMaking classes (.declared name :: rest)
  | next {name : String} {rest : List ClassRef} {maker : Maker}
      (hmaker : classes.makerOf? name = some maker) (hcomplete : ¬ LeavesOut maker.parameters 0)
      (hwraps : maker.wraps = none) (h : LacksMaking classes rest) :
      LacksMaking classes (.declared name :: rest)

section Making

variable {classes : Classes} {b : Builtin} {name : String} {rest : List ClassRef}

theorem lacksMaking_builtin : classes.LacksMaking (.builtin b :: rest) ↔
    b ∈ [.date, .datetime, .type] ∨ b.makesOthers = false ∧ classes.LacksMaking rest := by
  constructor
  · rintro (h | ⟨hmakes, h⟩)
    · exact .inl h
    · exact .inr ⟨hmakes, h⟩
  · rintro (h | ⟨hmakes, h⟩)
    · exact .predefined h
    · exact .passed hmakes h

theorem lacksMaking_inherited (hmaker : classes.makerOf? name = none) :
    classes.LacksMaking (.declared name :: rest) ↔ classes.LacksMaking rest := by
  constructor
  · rintro (_ | _ | ⟨-, h⟩ | ⟨hother, -⟩ | ⟨hother, -, -, -⟩)
    · exact h
    · cases hmaker.symm.trans hother
    · cases hmaker.symm.trans hother
  · exact .inherited hmaker

theorem lacksMaking_own {maker : Maker} (hmaker : classes.makerOf? name = some maker) :
    classes.LacksMaking (.declared name :: rest) ↔
      LeavesOut maker.parameters 0 ∨ maker.wraps = none ∧ classes.LacksMaking rest := by
  constructor
  · rintro (_ | _ | ⟨hother, -⟩ | ⟨hother, h⟩ | ⟨hother, -, hwraps, h⟩)
    · cases hmaker.symm.trans hother
    · cases hmaker.symm.trans hother
      exact .inl h
    · cases hmaker.symm.trans hother
      exact .inr ⟨hwraps, h⟩
  · rintro (h | ⟨hwraps, h⟩)
    · exact .own hmaker h
    · by_cases hcomplete : LeavesOut maker.parameters 0
      · exact .own hmaker hcomplete
      · exact .next hmaker hcomplete hwraps h

end Making

theorem requiredArguments_builtin (classes : Classes) (b : Builtin) :
    classes.requiredArguments (.builtin b) = sortNames b.requiredArguments := by
  cases b <;> rfl

end Classes

namespace World

open Classes

variable {w : World} {c : ClassRef} {b : Builtin} {name : String}

/-- Whether a class cannot be created without arguments, though no parameter of its initializer is
required. -/
inductive AsksUnseen (w : World) : ClassRef → Prop
  | predefined {b : Builtin} (h : b ∈ [.date, .datetime, .uuid, .enum, .type]) :
      AsksUnseen w (.builtin b)
  /-- The members of an enumeration are looked up by their values. -/
  | enumeration {name : String} (h : w.classes.isEnumeration (.declared name) = true) :
      AsksUnseen w (.declared name)
  /-- An object is made before any initializer is run. -/
  | making {name : String} (hother : w.classes.isEnumeration (.declared name) = false)
      (h : w.classes.LacksMaking (w.classes.lineageOf (.declared name))) :
      AsksUnseen w (.declared name)
  /-- All parameters of these initializers have defaults, but they do not do without arguments. -/
  | initializer {name : String} (hruns : w.classes.RunsInitializer name)
      (h : w.classes.initSource (.declared name) = .builtin .uuid ∨
        w.classes.initSource (.declared name) = .builtin .type) : AsksUnseen w (.declared name)
  /-- The nearest initializer is content, but one that it forwards to is not. -/
  | forwards {name : String} (hruns : w.classes.RunsInitializer name)
      (h : w.classes.ForwardsTooLittle w.isAbsentDefault (w.classes.lineageOf (.declared name))) :
      AsksUnseen w (.declared name)

/-! ## Predefined classes -/

theorem createBuiltin_missing_iff :
    w.createBuiltin b = .error .missingArgument ↔
      b ∈ [.date, .datetime, .uuid, .enum, .type] ∨ b.requiredArguments ≠ [] := by
  cases b <;> simp [createBuiltin, Builtin.requiredArguments]

theorem makesOthers_of_mem (h : b ∈ [.date, .datetime, .type]) : b.makesOthers = true := by
  simp only [List.mem_cons, List.not_mem_nil, or_false] at h
  rcases h with rfl | rfl | rfl <;> rfl

/-- A predefined class that makes objects lacks an argument, or makes one. -/
theorem wrappedZero_cases (hmakes : b.makesOthers = true) :
    (b ∈ [.date, .datetime, .type] ∧ w.wrappedZero b = .error .missingArgument) ∨
      (b ∉ [.date, .datetime, .type] ∧ ∃ core, w.wrappedZero b = .ok core) := by
  unfold wrappedZero
  cases b <;> first
    | exact .inl ⟨by decide, rfl⟩
    | exact .inr ⟨by decide, _, rfl⟩
    | cases hmakes

/-! ## Making objects -/

/-- A function called without arguments lacks one or takes the call. -/
theorem distribute_none_cases (params : List Parameter) :
    (LeavesOut params 0 ∧ Arguments.none.distribute params = .error .missingArgument) ∨
      (¬ LeavesOut params 0 ∧ ∃ call, Arguments.none.distribute params = .ok call) := by
  have hholds : Holds params 0 := .inl (Nat.zero_le _)
  by_cases h : LeavesOut params 0
  · exact .inl ⟨h, distribute_missing_iff.mpr ⟨hholds, h⟩⟩
  · exact .inr ⟨h, distribute_isOk_iff.mpr ⟨hholds, h⟩⟩

/-- What makes an object, called without arguments, makes it or lacks an argument. -/
theorem makeObject_cases (w : World) (lineage : List ClassRef) :
    (w.classes.LacksMaking lineage ∧ w.makeObject lineage .none = .error .missingArgument) ∨
      (¬ w.classes.LacksMaking lineage ∧ ∃ core, w.makeObject lineage .none = .ok core) := by
  induction lineage with
  | nil => exact .inr ⟨by rintro ⟨⟩, none, rfl⟩
  | cons c rest ih =>
      cases c with
      | builtin b =>
          rw [makeObject, lacksMaking_builtin]
          cases hmakes : b.makesOthers with
          | true =>
              rw [if_pos rfl]
              refine (wrappedZero_cases (w := w) hmakes).imp (.imp .inl id) (.imp ?_ id)
              rintro hnone (h | ⟨hother, -⟩)
              · exact hnone h
              · cases hother
          | false =>
              rw [if_neg Bool.false_ne_true]
              refine ih.imp (.imp (.inr ⟨rfl, ·⟩) id) (.imp ?_ id)
              rintro hcomplete (h | ⟨-, h⟩)
              · cases hmakes.symm.trans (makesOthers_of_mem h)
              · exact hcomplete h
      | declared name =>
          rw [makeObject, ← makerOf?]
          cases hmaker : w.classes.makerOf? name with
          | none =>
              rw [lacksMaking_inherited hmaker]
              exact ih
          | some maker =>
              rw [lacksMaking_own hmaker]
              dsimp only
              rcases distribute_none_cases maker.parameters with
                ⟨hlacks, hcall⟩ | ⟨hcomplete, call, hcall⟩
              · rw [hcall]
                exact .inl ⟨.inl hlacks, rfl⟩
              · rw [hcall]
                simp only [hcomplete, false_or]
                cases maker.wraps with
                | some a => exact .inr ⟨fun h => Option.some_ne_none a h.1, some a, rfl⟩
                | none => exact ih.imp (.imp (⟨rfl, ·⟩) id) (.imp (fun h hnext => h hnext.2) id)

/-! ## Declared classes -/

theorem createDeclared_missing_iff (core : Option Atom) :
    w.createDeclared name .none core = .error .missingArgument ↔
      (w.classes.isAbstract (.declared name) = false ∧ w.classes.isModel (.declared name) = false ∧
        ∀ append add isAbstract, w.classes.kindOf? name ≠ some (.bag append add isAbstract)) ∧
      w.classes.LacksArgument w.isAbsentDefault (w.classes.lineageOf (.declared name)) [] := by
  unfold createDeclared
  dsimp only
  cases w.classes.isAbstract (.declared name) with
  | true => exact iff_of_false nofun fun h => nomatch h.1.1
  | false =>
      cases w.classes.isModel (.declared name) with
      | true => exact iff_of_false nofun fun h => nomatch h.1.2.1
      | false =>
          rw [if_neg Bool.false_ne_true, if_neg Bool.false_ne_true]
          split
          · rename_i hkind
            exact iff_of_false nofun fun h => h.1.2.2 _ _ _ hkind
          · rename_i hkind
            rw [initialArguments_none, and_iff_right ⟨rfl, rfl, hkind⟩]
            exact map_eq_error.trans runInitializer_missing_iff

/-- A declared class lacks an argument if making its objects does or initializing them. -/
theorem create_missing_iff_of_declared (h : w.classes.isEnumeration (.declared name) = false) :
    w.create (.declared name) [] = .error .missingArgument ↔
      w.classes.LacksMaking (w.classes.lineageOf (.declared name)) ∨
        w.classes.RunsInitializer name ∧
          w.classes.LacksArgument w.isAbsentDefault (w.classes.lineageOf (.declared name)) [] := by
  have hmaking : w.classes.makingArguments (.declared name) .none = .none := by
    unfold makingArguments
    split <;> rfl
  have hcreate : w.create (.declared name) [] =
      (w.makeObject (w.classes.lineageOf (.declared name)) .none >>=
        w.createDeclared name .none) := by
    show w.createWith (.declared name) .none = _
    unfold createWith
    dsimp only
    rw [h, if_neg Bool.false_ne_true, hmaking]
  rw [hcreate]
  rcases w.makeObject_cases (w.classes.lineageOf (.declared name)) with
    ⟨hlacks, hfails⟩ | ⟨hcomplete, core, hmade⟩
  · rw [hfails]
    exact iff_of_true rfl (.inl hlacks)
  · rw [hmade, or_iff_right hcomplete]
    refine (createDeclared_missing_iff core).trans (and_congr_left fun _ => ?_)
    exact ⟨fun ⟨hconcrete, hmodel, hbag⟩ => ⟨h, hconcrete, hmodel, hbag⟩,
      fun ⟨_, hconcrete, hmodel, hbag⟩ => ⟨hconcrete, hmodel, hbag⟩⟩

theorem create_builtin_missing_iff (hrequired : w.classes.requiredArguments (.builtin b) = []) :
    w.create (.builtin b) [] = .error .missingArgument ↔ w.AsksUnseen (.builtin b) := by
  rw [requiredArguments_builtin, sortNames_eq_nil] at hrequired
  have hcreate : w.create (.builtin b) [] = w.createBuiltin b := rfl
  rw [hcreate, createBuiltin_missing_iff, or_iff_left fun h => h hrequired]
  constructor
  · exact .predefined
  · intro h
    cases h with
    | predefined h => exact h

/-- A class that requires no argument is refused for want of one in the cases listed, and in no
others. -/
theorem create_missing_iff (hrequired : w.classes.requiredArguments c = []) :
    w.create c [] = .error .missingArgument ↔ w.AsksUnseen c := by
  cases c with
  | builtin b => exact create_builtin_missing_iff hrequired
  | declared name =>
      cases henum : w.classes.isEnumeration (.declared name) with
      | true =>
          have hrefused : w.create (.declared name) [] = .error .missingArgument := by
            unfold create createWith
            dsimp only
            rw [henum]
            rfl
          exact iff_of_true hrefused (.enumeration henum)
      | false =>
          rw [create_missing_iff_of_declared henum, lacksArgument_nil_iff, ← initSource]
          constructor
          · rintro (h | ⟨hruns, h⟩)
            · exact .making henum h
            · rw [lacks_nil_iff hruns.noModel hrequired] at h
              exact h.elim (.initializer hruns) (.forwards hruns)
          · intro h
            cases h with
            | enumeration h => cases henum.symm.trans h
            | making _ h => exact .inl h
            | initializer hruns h =>
                exact .inr ⟨hruns, .inl ((lacks_nil_iff hruns.noModel hrequired).mpr h)⟩
            | forwards hruns h => exact .inr ⟨hruns, .inr h⟩

end World

namespace MapperPool

open World

variable {p : MapperPool} {m : Mapper} {w : World} {S T : ClassRef} {g : MapFunction} {s : Slot}

theorem required_of_createFactory
    (h : p.createFactory w.classes m (.cls S) (.cls T) = .ok g) :
    w.classes.requiredArguments T = [] := by
  obtain ⟨plan, hplan, -⟩ := bind_eq_ok.mp h
  exact Plan.required_of_build_eq_ok hplan rfl

/-- A factory whose target is refused stops there, and nothing has been made. -/
theorem produce_of_create_error (h : p.createFactory w.classes m (.cls S) (.cls T) = .ok g)
    (hs : s.isNone = false) {fault : Fault} (hrefused : w.create T [] = .error fault) :
    w.produce g s = (w, .error fault) := by
  obtain ⟨-, -, -, -, -, hcreates, -⟩ := createMutator_of_createFactory h
  unfold produce
  rw [hcreates]
  dsimp only
  rw [hs, hrefused]
  rfl

/-- Factories are compiled only for classes that require no argument.  Such a class is refused for
want of an argument just if it asks for one unseen, and then its factories are of no use. -/
theorem create_missing_iff_of_factory (w : World) (T : ClassRef) :
    ((∃ p m S g, createFactory p w.classes m (.cls S) (.cls T) = .ok g) →
      w.classes.requiredArguments T = []) ∧
    (w.classes.requiredArguments T = [] →
      (w.create T [] = .error .missingArgument ↔ w.AsksUnseen T)) ∧
    ∀ p m S g, createFactory p w.classes m (.cls S) (.cls T) = .ok g → w.AsksUnseen T →
      ∀ s, s.isNone = false → w.produce g s = (w, .error .missingArgument) := by
  refine ⟨?_, create_missing_iff, ?_⟩
  · rintro ⟨p, m, S, g, h⟩
    exact required_of_createFactory h
  · intro p m S g h hunseen s hs
    exact produce_of_create_error h hs
      ((create_missing_iff (required_of_createFactory h)).mpr hunseen)

/-- A class whose initializer takes a text and may forward it. -/
def drawnDecl (name : String) (bases : List ClassRef) (default : Option Value)
    (forwards : Option (List String)) (stores : List (String × String)) : ClassDecl :=
  ⟨name, .plain, bases, none, [],
    some ⟨[⟨"text", some (.builtin .str), default, .ordinary⟩], forwards, stores, [], []⟩⟩

/-- Shapes have a label.  Circles hand theirs on, squares forget to.  Points are made from a
coordinate.  Marks are identifiers without a number of their own.  Colors are an enumeration.  There
is one circle. -/
def drawing : World where
  classes :=
    [⟨drawnDecl "Shape" [] none none [("label", "text")], [.declared "Shape", .builtin .object]⟩,
      ⟨drawnDecl "Circle" [.declared "Shape"] (some (.atom (.str "O"))) (some ["text"]) [],
        [.declared "Circle", .declared "Shape", .builtin .object]⟩,
      ⟨drawnDecl "Square" [.declared "Shape"] (some (.atom (.str "#"))) (some []) [],
        [.declared "Square", .declared "Shape", .builtin .object]⟩,
      ⟨⟨"Point", .plain, [.builtin .tuple], none,
          [.maker ⟨[⟨"x", some (.builtin .int), none, .ordinary⟩], none⟩], none⟩,
        [.declared "Point", .builtin .tuple, .builtin .object]⟩,
      ⟨drawnDecl "Mark" [.builtin .uuid] (some .none) (some ["text"]) [],
        [.declared "Mark", .builtin .uuid, .builtin .object]⟩,
      ⟨⟨"Color", .enumeration none [("RED", .atom (.int 1))], [], none, [], none⟩,
        [.declared "Color", .builtin .enum, .builtin .object]⟩]
  store := ⟨#[.object "Circle" none []]⟩
  constants := []
  schemas := .empty

/-- Squares forward nothing, points are made from what no initializer tells of, and marks forward an
absent value. -/
theorem asksUnseen_drawing :
    drawing.AsksUnseen (.declared "Square") ∧ drawing.AsksUnseen (.declared "Point") ∧
      drawing.AsksUnseen (.declared "Mark") := by
  have hleavesNone : ∀ p : Parameter, p.default.isSome = true → ¬ LeavesOut [p] 0 := by
    rintro p hdefault ⟨q, hq, hrequired, -⟩
    obtain rfl := List.mem_singleton.mp hq
    rw [Parameter.isRequired, Option.isNone_eq_false_iff.mpr hdefault] at hrequired
    simp at hrequired
  refine ⟨?_, ?_, ?_⟩
  · refine .forwards ⟨rfl, rfl, rfl, nofun⟩ (.nearest rfl
      ⟨rfl, .inl (Nat.zero_le _), hleavesNone _ rfl, nofun, rfl⟩ ?_)
    exact .own rfl ⟨.inl (Nat.zero_le _), _, List.mem_singleton_self _, rfl, List.not_mem_nil⟩
  · exact .making rfl (.own rfl ⟨_, List.mem_singleton_self _, rfl, List.not_mem_nil⟩)
  · refine .forwards ⟨rfl, rfl, rfl, nofun⟩ (.nearest rfl
      ⟨rfl, .inl (Nat.zero_le _), hleavesNone _ rfl, by decide, rfl⟩ ?_)
    exact .own rfl ⟨by decide, rfl⟩

theorem create_missing_iff_of_factory_drawing :
    drawing.classes.requiredArguments (.declared "Circle") = [] ∧
    ¬ drawing.AsksUnseen (.declared "Circle") ∧
    drawing.create (.declared "Point") [] = .error .missingArgument ∧
    drawing.create (.declared "Mark") [] = .error .missingArgument ∧
    drawing.classes.requiredArguments (.declared "Square") = [] ∧
    drawing.create (.declared "Square") [] = .error .missingArgument ∧
    ∃ g, (single "shapes").createFactory drawing.classes ⟨0, []⟩ (.cls (.declared "Circle"))
        (.cls (.declared "Square")) = .ok g ∧
      drawing.produce g (.ref 0) = (drawing, .error .missingArgument) := by
  have hfactory : ((single "shapes").createFactory drawing.classes ⟨0, []⟩
      (.cls (.declared "Circle")) (.cls (.declared "Square"))).toOption.isSome = true := by
    decide +kernel
  obtain ⟨g, hg⟩ := Option.isSome_iff_exists.mp hfactory
  have hg := toOption_eq_some.mp hg
  have hcircle : drawing.classes.requiredArguments (.declared "Circle") = [] := by decide +kernel
  have hsquare := (create_missing_iff_of_factory drawing (.declared "Square")).1 ⟨_, _, _, g, hg⟩
  obtain ⟨hunseen, hpoint, hmark⟩ := asksUnseen_drawing
  refine ⟨hcircle, fun hcircleUnseen => ?_, ?_, ?_, hsquare, ?_, g, hg, ?_⟩
  · have hrefused := ((create_missing_iff_of_factory drawing _).2.1 hcircle).mpr hcircleUnseen
    cases hrefused
  · exact ((create_missing_iff_of_factory drawing _).2.1 (by decide +kernel)).mpr hpoint
  · exact ((create_missing_iff_of_factory drawing _).2.1 (by decide +kernel)).mpr hmark
  · exact ((create_missing_iff_of_factory drawing _).2.1 hsquare).mpr hunseen
  · exact (create_missing_iff_of_factory drawing _).2.2 _ _ _ g hg hunseen _ rfl

/-- A factory for an enumeration is compiled, since no argument is required, and yet a member can
only be had by its value. -/
theorem create_color_refused :
    drawing.classes.requiredArguments (.declared "Color") = [] ∧
    drawing.create (.declared "Color") [] = .error .missingArgument ∧
    ∃ g, (single "shapes").createFactory drawing.classes ⟨0, []⟩ (.cls (.declared "Circle"))
        (.cls (.declared "Color")) = .ok g ∧
      drawing.produce g (.ref 0) = (drawing, .error .missingArgument) := by
  have hfactory : ((single "shapes").createFactory drawing.classes ⟨0, []⟩
      (.cls (.declared "Circle")) (.cls (.declared "Color"))).toOption.isSome = true := by
    decide +kernel
  obtain ⟨g, hg⟩ := Option.isSome_iff_exists.mp hfactory
  have hg := toOption_eq_some.mp hg
  have hrefused : drawing.create (.declared "Color") [] = .error .missingArgument := rfl
  exact ⟨required_of_createFactory hg, hrefused, g, hg, produce_of_create_error hg rfl hrefused⟩

end MapperPool

end Memberwise
