import Memberwise.Proofs.Member.Inheritance

/-! # Parameters that count as fields

A parameter of an initializer is taken for a field if the code stores an attribute of its name, or
if instances have a place of that name.  The code is only known by the names in it.  What it calls
is told from what it stores, but an attribute that it merely reads, on whatever object, is not.
-/

namespace Memberwise.Classes

variable {classes : Classes} {c : ClassRef} {name : String} {init : Initializer}

/-- Whether an initializer has an annotated parameter of a name that takes one argument. -/
def Takes (init : Initializer) (name : String) : Prop :=
  ∃ p ∈ init.parameters, p.name = name ∧ p.isSingle = true ∧ p.type.isSome = true

/-- The classes and methods that an initializer calls are never taken for its parameters: a
parameter hides the class of its name, and the names of the methods are hidden ones. -/
theorem mem_usedNames_iff (htakes : Takes init name) (hpublic : isHiddenName name = false) :
    name ∈ usedNames init ↔ name ∈ init.stores.map (·.1) ∨ name ∈ init.mentions := by
  obtain ⟨p, hp, hname, -⟩ := htakes
  have hmethod : ∀ method, isHiddenName method = true → name ≠ method := by
    rintro _ hhidden rfl
    rw [hpublic] at hhidden
    cases hhidden
  have hglobal : ∀ global : String,
      name ∉ (if init.parameters.any (·.name == global) then [] else [global]) := by
    intro global hmem
    split at hmem
    · cases hmem
    · rename_i hother
      obtain rfl := List.mem_singleton.mp hmem
      exact hother (List.any_eq_true.mpr ⟨p, hp, by simp [hname]⟩)
  have hforwards : name ∉ (if init.forwards.isSome then
      (if init.parameters.any (·.name == "super") then [] else ["super"]) ++ ["__init__"]
      else []) := by
    split
    · simp only [List.mem_append, List.mem_singleton, not_or]
      exact ⟨hglobal "super", hmethod "__init__" (by decide +kernel)⟩
    · exact List.not_mem_nil
  have hdirect : name ∉ (if init.directStores.isEmpty then [] else
      (if init.parameters.any (·.name == "object") then [] else ["object"]) ++
        ["__setattr__"]) := by
    split
    · exact List.not_mem_nil
    · simp only [List.mem_append, List.mem_singleton, not_or]
      exact ⟨hglobal "object", hmethod "__setattr__" (by decide +kernel)⟩
  unfold usedNames
  simp only [List.mem_append, hforwards, hdirect, false_or, or_false]

/-- A parameter that no class annotates is a field if its name is public, no property has it, and
the initializer stores an attribute of this name, some class fixes a place for it, or the
initializer mentions an attribute of this name, be it one of another object. -/
theorem reports_parameter_iff (hc : classes.Describable c) (hmodel : classes.isModel c = false)
    {owner : String} (hsource : classes.initSource c = .declared owner init)
    (htakes : Takes init name) (hother : ¬ classes.Annotates c name) :
    classes.Reports c name ↔
      isFieldName (classes.publicProperties c) name = true ∧
        (name ∈ init.stores.map (·.1) ∨ name ∈ classes.slotsOf c ∨ name ∈ init.mentions) := by
  obtain ⟨members, hmembers⟩ := fields_isOk hc
  obtain ⟨hints, hhints, hnames⟩ := fields_names name hmodel hmembers
  have hannotated : ¬ ∃ t, (name, t) ∈ hints ∧ ¬ MarksClassVariable t := by
    rintro ⟨t, hentry, -⟩
    exact hother ((classHints_names hhints).mp (List.mem_map_of_mem (f := (·.1)) hentry))
  have hgenerated : ¬ classes.StoresArgument c name := by
    rintro ⟨owner, hgenerated, -⟩
    rw [hsource] at hgenerated
    cases hgenerated
  have hstores : classes.Stores c name ↔ name ∈ usedNames init ∨ name ∈ classes.slotsOf c := by
    rw [← List.mem_append]
    constructor
    · rintro ⟨_, _, hdeclared, hmem, -⟩
      rw [hsource] at hdeclared
      cases hdeclared
      exact hmem
    · exact fun hmem => ⟨owner, init, hsource, hmem, htakes⟩
  rw [reports_iff hmembers, hnames, hstores]
  simp only [hannotated, hgenerated, false_or, or_false]
  refine and_congr_right fun hfield => ?_
  have hpublic : isHiddenName name = false := by
    unfold isFieldName at hfield
    simpa using (Bool.and_eq_true_iff.mp hfield).1
  rw [mem_usedNames_iff htakes hpublic, or_right_comm, or_assoc]

/-- A class whose initializer takes texts, each of which may be left out. -/
def textDecl (name : String) (bases : List ClassRef) (slots : Option (List String))
    (texts : List String) (stores directStores : List (String × String))
    (mentions : List String) : ClassDecl :=
  ⟨name, .plain, bases, slots, [],
    some ⟨texts.map fun text => ⟨text, some (.builtin .str), some (.atom (.str "")), .ordinary⟩,
      none, stores, directStores, mentions⟩⟩

/-- Parcels keep their code under another name, crates have a place for their mark, and bins read a
label in a branch that is not taken. -/
def containers : Classes :=
  [⟨textDecl "Parcel" [] none ["code", "size"] [("_code", "code"), ("size", "size")] [] [],
      [.declared "Parcel", .builtin .object]⟩,
    ⟨textDecl "Crate" [] (some ["mark"]) ["mark"] [] [("mark", "mark")] [],
      [.declared "Crate", .builtin .object]⟩,
    ⟨textDecl "Bin" [] none ["label"] [] [] ["label"], [.declared "Bin", .builtin .object]⟩]

theorem reports_parameter_iff_parcel :
    containers.Describable (.declared "Parcel") ∧
    containers.isModel (.declared "Parcel") = false ∧
    (∃ init, containers.initSource (.declared "Parcel") = .declared "Parcel" init ∧
      Takes init "code" ∧ Takes init "size") ∧
    (∀ name, ¬ containers.Annotates (.declared "Parcel") name) ∧
    containers.Reports (.declared "Parcel") "size" ∧
    ¬ containers.Reports (.declared "Parcel") "code" := by
  have hc : containers.Describable (.declared "Parcel") := by decide +kernel
  have hmodel : containers.isModel (.declared "Parcel") = false := by decide +kernel
  have htakes : ∀ name ∈ ["code", "size"],
      Takes ⟨["code", "size"].map fun text =>
          ⟨text, some (.builtin .str), some (.atom (.str "")), .ordinary⟩,
        none, [("_code", "code"), ("size", "size")], [], []⟩ name :=
    fun name hname => ⟨_, List.mem_map_of_mem hname, rfl, rfl, rfl⟩
  have hother : ∀ name, ¬ containers.Annotates (.declared "Parcel") name := by
    rintro name ⟨decl, hdecl, hname⟩
    obtain rfl := List.mem_singleton.mp hdecl
    cases hname
  have hcode := htakes "code" (by simp)
  have hsize := htakes "size" (by simp)
  refine ⟨hc, hmodel, ⟨_, rfl, hcode, hsize⟩, hother, ?_, fun hreports => ?_⟩
  · exact (reports_parameter_iff hc hmodel rfl hsize (hother _)).mpr
      ⟨by decide +kernel, .inl (by simp)⟩
  · have hnames := ((reports_parameter_iff hc hmodel rfl hcode (hother _)).mp hreports).2
    revert hnames
    decide +kernel

/-- The label of a bin is a field, though it is neither stored nor has a place, and a new bin has
none. -/
theorem reports_label_bin :
    containers.isModel (.declared "Bin") = false ∧
    ¬ containers.Annotates (.declared "Bin") "label" ∧
    containers.Reports (.declared "Bin") "label" ∧
    (∃ init, containers.initSource (.declared "Bin") = .declared "Bin" init ∧
      Takes init "label" ∧ "label" ∉ init.stores.map (·.1) ∧
      "label" ∉ init.directStores.map (·.1)) ∧
    "label" ∉ containers.slotsOf (.declared "Bin") ∧
    ∃ made, World.create ⟨containers, .empty, [], .empty⟩ (.declared "Bin") [] = .ok made ∧
      made.1.getAttribute made.2 "label" = .error .missingAttribute := by
  have hother : ¬ containers.Annotates (.declared "Bin") "label" := by
    rintro ⟨decl, hdecl, hname⟩
    obtain rfl := List.mem_singleton.mp hdecl
    cases hname
  have hnames : (containers.fields (.declared "Bin")).toOption.map (·.map (·.name)) =
      some ["label"] := by decide +kernel
  refine ⟨by decide +kernel, hother, (reports_of_names hnames).mpr List.mem_cons_self,
    ⟨_, rfl, ?_, List.not_mem_nil, List.not_mem_nil⟩, List.not_mem_nil, ⟨_, rfl, rfl⟩⟩
  exact ⟨_, List.mem_singleton_self _, rfl, rfl, rfl⟩

end Memberwise.Classes
