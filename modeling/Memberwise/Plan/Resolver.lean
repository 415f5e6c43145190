import Memberwise.Plan

/-! # Resolution of member pairs

How one member goes to another follows from the shape of the source: equal references and equal
value kinds are copied, an option is added or taken away where only it differs, and whatever
needs a conversion gets it from a rule, from a copy of the elements, or from the general
conversion, in this order.
-/

namespace Memberwise

/-- What is decided for a pair of members, and what is noted about it. -/
structure Resolution (Converter : Type) where
  outcome : Except Fault (Option (Assignment Converter))
  notes : List String

namespace Resolver

variable {Converter : Type}

/-- The decision for an assignment without a note. -/
def decide (source target : Member) (strategy : Strategy) (operation : Operation Converter) :
    Resolution Converter :=
  ⟨.ok (some ⟨source, target, strategy, operation⟩), []⟩

/-- The note for a pair of collections without an element type on some side. -/
def skipNote (classes : Classes) (source target : Member) : String :=
  "Skipping member " ++ source.name ++ ": " ++ classes.renderType source.declared ++ " -> " ++
    classes.renderType target.declared ++ " has no element type to convert"

/-- The note for a collection whose elements stay behind. -/
def emptyNote (classes : Classes) (source : Member) (elementType : TypeExpr) : String :=
  "Member " ++ source.name ++ " holds value kinds (" ++ classes.renderType elementType ++
    "), its elements are not copied"

/-- The decision for two collections: they are copied element by element if both have one
element type. -/
def resolveCollection (classes : Classes) (source target : Member) : Resolution Converter :=
  if 1 < source.typeArgs.length ∨ 1 < target.typeArgs.length then
    ⟨.error (.configuration (.severalElementTypes source.name
      (classes.renderType source.declared) (classes.renderType target.declared))), []⟩
  else
    match source.typeArgs, target.typeArgs with
    | sourceElement :: _, targetElement :: _ =>
      let copies := !classes.isValueKind sourceElement
      ⟨((Builder.ofMember classes target).mapError Fault.configuration).map fun builder =>
          some ⟨source, target, .collection, .copyCollection targetElement builder copies⟩,
        if copies then [] else [emptyNote classes source sourceElement]⟩
    | _, _ => ⟨.ok none, [skipNote classes source target]⟩

/-- The decision for a pair that needs a conversion. -/
def resolveConversion (classes : Classes) (registry : Registry Converter)
    (source target : Member) (strategy : Strategy) : Resolution Converter :=
  let key := RuleKey.of classes (source.keyType classes) (target.keyType classes)
  if !key.isUsable classes then ⟨.error .typeMismatch, []⟩
  else match registry.find? key with
  | some f => decide source target strategy (.custom f)
  | none =>
    if source.isCollection && target.isCollection then resolveCollection classes source target
    else decide source target strategy (.convert (classes.defaultValue target.declared))

/-- The decision for value kinds of which only one is nullable. -/
def resolveMismatch (classes : Classes) (registry : Registry Converter)
    (source target : Member) : Resolution Converter :=
  if !source.underlying.same target.underlying then
    resolveConversion classes registry source target .mismatchedNullability
  else if source.isNullable then
    decide source target .mismatchedNullability
      (.unwrapOr (classes.defaultValue target.declared))
  else decide source target .mismatchedNullability .assign

/-- The decision for a pair of members. -/
def resolve (classes : Classes) (registry : Registry Converter) (source target : Member) :
    Resolution Converter :=
  let agree := (source.keyType classes).same (target.keyType classes)
  if !source.isValueKind then
    if agree then decide source target .referenceIdentity .assign
    else resolveConversion classes registry source target .referenceMismatch
  else if source.isNullable == target.isNullable then
    if agree then decide source target .matchingNullability .assign
    else resolveConversion classes registry source target .matchingNullability
  else resolveMismatch classes registry source target

end Resolver

end Memberwise
