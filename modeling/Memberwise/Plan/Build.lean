import Memberwise.Member.Discovery
import Memberwise.Plan.Resolver
import Memberwise.Text.Fold

/-! # Making plans

Members are matched by name without regard to case, properties with properties and fields with
fields.  Each readable source member goes to the first writable target member of its name, and
no target member is written twice.
-/

namespace Memberwise

namespace Plan

variable {Converter : Type}

/-- What comes of making a plan, and the notes made on the way. -/
structure Draft (Converter : Type) where
  outcome : Except Fault (Plan Converter)
  notes : List String

/-- The target member that a source member goes to. -/
def matchFor? (source : Member) (targets : List Member) : Option Member :=
  if source.readable then
    let name := Text.fold source.name
    targets.find? fun target => name == Text.fold target.name && target.writable
  else none

/-- The pairs of matching members in the order of the sources. -/
def matchMembers (sources targets : List Member) : List (Member × Member) :=
  sources.filterMap fun source => (matchFor? source targets).map fun target => (source, target)

/-- The state of planning: the source member that claimed each target name, the assignments so
far, and the notes. -/
structure Progress (Converter : Type) where
  claims : List (String × String)
  assignments : List (Assignment Converter)
  notes : List String

/-- Plans one pair of members, unless its target is claimed. -/
def planPair (classes : Classes) (registry : Registry Converter) (sourceClass targetClass : String)
    (state : Progress Converter) (source target : Member) :
    Except Fault (Progress Converter) × List String :=
  match state.claims.lookup target.name with
  | some first =>
    (.error (.configuration
      (.contention first source.name sourceClass targetClass target.name)), state.notes)
  | none =>
    let resolution := Resolver.resolve classes registry source target
    let notes := state.notes ++ resolution.notes.map ("resolver: " ++ ·)
    match resolution.outcome with
    | .error fault => (.error fault, notes)
    | .ok assignment =>
      (.ok ⟨state.claims ++ [(target.name, source.name)],
        state.assignments ++ assignment.toList, notes⟩, notes)

/-- Plans pairs of members in order, up to the first fault. -/
def planPairs (classes : Classes) (registry : Registry Converter)
    (sourceClass targetClass : String) :
    Progress Converter → List (Member × Member) →
      Except Fault (Progress Converter) × List String
  | state, [] => (.ok state, state.notes)
  | state, (source, target) :: rest =>
    match planPair classes registry sourceClass targetClass state source target with
    | (.error fault, notes) => (.error fault, notes)
    | (.ok state, _) => planPairs classes registry sourceClass targetClass state rest

/-- The matching pairs of two classes: those of properties, then those of fields. -/
def pairs (classes : Classes) (source target : ClassRef) :
    Except Fault (List (Member × Member)) := do
  let sourceProperties ← classes.properties source
  let targetProperties ← classes.properties target
  let sourceFields ← classes.fields source
  let targetFields ← classes.fields target
  .ok (matchMembers sourceProperties targetProperties ++ matchMembers sourceFields targetFields)

/-- The class that a type is, or the fault of asking for a plan for anything else. -/
def guardClass (classes : Classes) (t : TypeExpr) : Except Fault ClassRef :=
  match t with
  | .cls c => .ok c
  | t => .error (.configuration (.notAClass (classes.kindName t)))

/-- The fault of a target that cannot be created without arguments. -/
def guardCreation (classes : Classes) (target : ClassRef) : Except Fault Unit :=
  match classes.requiredArguments target with
  | [] => .ok ()
  | names => .error (.configuration (.requiredArguments target.name names))

/-- The line that stands for a plan in logs. -/
def summary (p : Plan Converter) : String :=
  "mapper: Planned " ++ p.source.name ++ " -> " ++ p.target.name ++ ": " ++
    if p.assignments.isEmpty then "no members"
    else String.intercalate ", " (p.assignments.map Assignment.text)

/-- Makes the plan for a pair of classes. -/
def build (classes : Classes) (registry : Registry Converter) (source target : TypeExpr)
    (createsTarget : Bool) : Draft Converter :=
  let prepared : Except Fault (ClassRef × ClassRef × List (Member × Member)) := do
    let source ← guardClass classes source
    let target ← guardClass classes target
    if createsTarget then guardCreation classes target
    .ok (source, target, ← pairs classes source target)
  match prepared with
  | .error fault => ⟨.error fault, []⟩
  | .ok (source, target, pairs) =>
    match planPairs classes registry source.name target.name ⟨[], [], []⟩ pairs with
    | (.error fault, notes) => ⟨.error fault, notes⟩
    | (.ok state, notes) =>
      let plan : Plan Converter :=
        ⟨source, target, createsTarget, state.assignments.map .assignment⟩
      ⟨.ok plan, notes ++ [plan.summary]⟩

end Plan

end Memberwise
