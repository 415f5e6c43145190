import Memberwise.Converter.Application
import Memberwise.Mapper.Function

/-! # Transfer of members

Carrying out a compiled plan.  Each step reads one member of the source, makes of the value what
the target is to hold, and stores it; the first step that fails ends the transfer, and what the
steps before it stored stays.
-/

namespace Memberwise.World

/-- A collection as it is stored when all elements are in it. -/
def finishCollection (w : World) (finish : Finish) (collection : Slot) : World × Slot :=
  match finish, w.elements collection with
  | .tuple, .ok (_, items) => w.alloc (.seq .tuple items)
  | .frozenset, .ok (_, items) => w.alloc (.seq .frozenset items)
  | _, _ => (w, collection)

/-- Fills a collection with the converted elements of another one and finishes it. -/
def fillCollection (w : World) (elementType : TypeExpr) (finish : Finish)
    (source collection : Slot) : World × Except Fault Slot :=
  match w.copyElements source collection elementType with
  | (w, some fault) => (w, .error fault)
  | (w, none) =>
    let (w, finished) := w.finishCollection finish collection
    (w, .ok finished)

/-- What comes of a step that leaves the world alone where it fails. -/
def orUnchanged (w : World) : Except Fault (World × Slot) → World × Except Fault Slot
  | .ok (w, v) => (w, .ok v)
  | .error fault => (w, .error fault)

/-- What the target holds of a value of the source, unless it is a copied collection. -/
def transferValue (w : World) (a : Assignment Converter) (v : Slot) :
    World × Except Fault Slot :=
  match a.operation with
  | .unwrapOr default =>
    if v.isNone then
      let (w, v) := w.intern default
      (w, .ok v)
    else (w, .ok v)
  | .custom f => w.orUnchanged (w.applyConverter f v)
  | .convert default =>
    let (w, converted) := w.convertOr (w.load v) a.target.declared default
    let (w, v) := w.intern converted
    (w, .ok v)
  | _ => (w, .ok v)

/-- What the target holds after an assignment.  The collection that is filled is made before the
source is read, and a collection that stays empty does not ask for the source at all. -/
def transferred (w : World) (a : Assignment Converter) (source : Slot) :
    World × Except Fault Slot :=
  match a.operation with
  | .copyCollection elementType builder copiesElements =>
    match w.create builder.create [] with
    | .error fault => (w, .error fault)
    | .ok (w, collection) =>
      if copiesElements then
        match w.getAttribute source a.source.name with
        | .error fault => (w, .error fault)
        | .ok (w, v) => w.fillCollection elementType builder.finish v collection
      else
        let (w, finished) := w.finishCollection builder.finish collection
        (w, .ok finished)
  | _ =>
    match w.getAttribute source a.source.name with
    | .error fault => (w, .error fault)
    | .ok (w, v) => w.transferValue a v

def transferMember (w : World) (a : Assignment Converter) (source target : Slot) :
    World × Option Fault :=
  match w.transferred a source with
  | (w, .error fault) => (w, some fault)
  | (w, .ok v) =>
    match w.setAttribute target a.target.name v with
    | .error fault => (w, some fault)
    | .ok w => (w, none)

/-- Carries out assignments in order, up to the first fault. -/
def transferMembers (w : World) (source target : Slot) :
    List (Assignment Converter) → World × Option Fault
  | [] => (w, none)
  | a :: rest =>
    match w.transferMember a source target with
    | (w, some fault) => (w, some fault)
    | (w, none) => w.transferMembers source target rest

def mutate (w : World) (f : MapFunction) (source target : Slot) : World × Option Fault :=
  if f.creates.isSome then (w, some .typeMismatch)
  else if source.isNone || target.isNone then (w, some (.absent f.absence))
  else w.transferMembers source target f.steps

def produce (w : World) (f : MapFunction) (source : Slot) : World × Except Fault Slot :=
  match f.creates with
  | none => (w, .error .typeMismatch)
  | some target =>
    if source.isNone then (w, .error (.absent f.absence))
    else
      match w.create target [] with
      | .error fault => (w, .error fault)
      | .ok (w, target) =>
        match w.transferMembers source target f.steps with
        | (w, some fault) => (w, .error fault)
        | (w, none) => (w, .ok target)

end Memberwise.World
