import Memberwise.Converter
import Memberwise.Plan.Build

/-! # Mapping functions

A plan is compiled once into the function that carries it out: a mutator, which writes to a
target that is given, or a factory, which creates its target first.
-/

namespace Memberwise

structure MapFunction where
  name : String
  /-- What is said to a caller who leaves out the source or the target. -/
  absence : String
  /-- The class of the target, if the function creates it. -/
  creates : Option ClassRef
  steps : List (Assignment Converter)

namespace Plan

/-- A configuration fault that shows a value, unless the value cannot be shown. -/
def unsupported (classes : Classes) (v : Value) (fault : String → ConfigurationFault) : Fault :=
  match classes.shown v with
  | .ok shown => .configuration (fault shown)
  | .error fault => fault

/-- A step of a plan as an assignment with an operation, if it is one. -/
def supportedStep (classes : Classes) : Step Converter → Except Fault (Assignment Converter)
  | .foreign v => .error (unsupported classes v .unsupportedFragment)
  | .assignment a =>
    match a.operation with
    | .foreign v => .error (unsupported classes v .unsupportedOperation)
    | _ => .ok a

def functionName (p : Plan Converter) (verb : String) : String :=
  verb ++ "_" ++ p.source.name ++ "_to_" ++ p.target.name

/-- Compiles a plan for targets that are given. -/
def compileMutator (classes : Classes) (p : Plan Converter) : Except Fault MapFunction := do
  let steps ← p.steps.mapM (supportedStep classes)
  if p.createsTarget then
    .error (.configuration (.createsTarget p.source.name p.target.name))
  else .ok ⟨p.functionName "map", p.absenceMessage, none, steps⟩

/-- Compiles a plan that creates its target. -/
def compileFactory (classes : Classes) (p : Plan Converter) : Except Fault MapFunction := do
  let steps ← p.steps.mapM (supportedStep classes)
  if p.createsTarget then .ok ⟨p.functionName "create", p.absenceMessage, some p.target, steps⟩
  else .error (.configuration (.lacksCreation p.source.name p.target.name))

def withOperation (p : Plan Converter) (v : Value) : Plan Converter :=
  { p with steps := p.steps.map fun
      | .assignment a => .assignment { a with operation := .foreign v }
      | step => step }

def withStep (p : Plan Converter) (v : Value) : Plan Converter :=
  { p with steps := p.steps ++ [.foreign v] }

end Plan

end Memberwise
