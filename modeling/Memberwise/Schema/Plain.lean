import Memberwise.Schema.Scalar

/-! # Plain form of values

A value written with truth values, numbers, texts, lists and mappings from texts alone: the
form in which a value describes itself to a type that does not know its class.
-/

namespace Memberwise.Schema

/-- Why a value has no plain form. -/
inductive PlainFault where
  /-- No description of the value is known. -/
  | undescribed
  /-- Bytes are no text. -/
  | undecodable
  /-- A value is inside itself. -/
  | circular
  /-- A value is inside too many others. -/
  | tooDeep
  /-- A key cannot be written, or a record lacks an attribute. -/
  | unread (fault : RenderFault)
deriving DecidableEq, Repr

def textValue (text : List Char) : Value := .atom (.str (String.ofList text))

def plainBytes (content : List UInt8) : Except PlainFault Value :=
  match Text.decodeUtf8? content with
  | some s => .ok (.atom (.str s))
  | none => .error .undecodable

/-- A complex number without parentheses. -/
def bareComplexText (re im : Binary64) : List Char :=
  (complexText re im).filter fun c => c != '(' && c != ')'

def plainAtom : Atom → Except PlainFault Value
  | .complex re im => .ok (textValue (bareComplexText re im))
  | .bytes content => plainBytes content
  | .decimal d => .ok (textValue d.text)
  | .date d => .ok (textValue d.text)
  | .datetime m =>
    .ok (textValue (m.date.text ++ 'T' :: m.clock.text ++ offsetMark m.offset))
  | .time t => .ok (textValue (t.clock.text ++ offsetMark t.offset))
  | .timedelta span => .ok (textValue (Lenient.durationText span))
  | .uuid n => .ok (textValue (Uuid.text n))
  | .member .. | .classRef _ => .error .undescribed
  | a => .ok (.atom a)

/-- The text that a scalar key of a mapping becomes. -/
def keyText : Atom → Except PlainFault String
  | .none => .ok "None"
  | .bool b => .ok (if b then "true" else "false")
  | .int n =>
    match integerText? n with
    | some text => .ok (String.ofList text)
    | none => .error (.unread .tooManyDigits)
  | .float x => .ok (String.ofList x.text)
  | .str s => .ok s
  | a =>
    match plainAtom a with
    | .ok (.atom (.str s)) => .ok s
    | .ok _ => .error .undescribed
    | .error fault => .error fault

/-- The key of a mapping as text. -/
def plainKey (classes : Classes) : Value → Except PlainFault String
  | .atom (.member owner name) =>
    match (classes.memberValue owner name).core? with
    | some a => keyText a
    | none => .error .undescribed
  | .seq _ .tuple items =>
    (items.mapM fun v =>
      match classes.scalarOf? v with
      | some a => keyText a
      | none => .error .undescribed).map (String.intercalate ",")
  | v =>
    match v.core? with
    | some a => keyText a
    | none => .error .undescribed

/-- How many values may be around another one. -/
def depthLimit : Nat := 255

/-- Whether a value may be inside others, at the given places from the inside out. -/
def enter (around : List (Option Place)) (place : Option Place) : Except PlainFault Unit :=
  if place.isSome && around.contains place then .error .circular
  else if depthLimit < around.length then .error .tooDeep
  else .ok ()

/-- What a record or model is described by: all attributes of a model with a public name, and the
fields of a record, which are read as any attributes are. -/
def describedAttributes (classes : Classes) (ofConstant : Value → Except PlainFault Value)
    (c : ClassRef) (own : List (String × Except PlainFault Value)) :
    Except PlainFault (List (Value × Value)) :=
  let entry (name : String) (found : Except PlainFault Value) :=
    found.map fun v => (Value.atom (.str name), v)
  if classes.isModel c then
    (own.filter fun given => !given.1.startsWith "_").mapM fun (name, found) =>
      entry name found
  else if classes.isRecord c then
    (classes.recordFields c).mapM fun f =>
      entry f.name (classes.attributeOf .unread ofConstant c own f.name)
  else .error .undescribed

mutual

/-- The plain form of a value inside others, given that of values that classes keep.  Every value in
another one is entered, scalars too. -/
def plainTree (classes : Classes)
    (ofConstant : List (Option Place) → Value → Except PlainFault Value) :
    List (Option Place) → Value → Except PlainFault Value
  | around, .atom a => do
    enter around none
    match a with
    | .member owner name =>
      match (classes.memberValue owner name).core? with
      | some a => plainAtom a
      | none => .error .undescribed
    | a => plainAtom a
  | around, .seq place kind items => do
    enter around place
    match kind with
    | .bytearray => plainBytes (bytesOf items)
    | .bag _ => .error .undescribed
    | _ => (plainTrees classes ofConstant (place :: around) items).map .list
  | around, .dict place entries => do
    enter around place
    (plainEntries classes ofConstant (place :: around) entries).map (.dict none)
  | around, .object place _ (some core) _ => do
    enter around place
    plainAtom core
  | around, .object place name none attributes => do
    enter around place
    (describedAttributes classes (ofConstant (place :: around)) (.declared name)
      (plainAttributes classes ofConstant (place :: around) attributes)).map (.dict none)

def plainTrees (classes : Classes)
    (ofConstant : List (Option Place) → Value → Except PlainFault Value) :
    List (Option Place) → List Value → Except PlainFault (List Value)
  | _, [] => .ok []
  | around, v :: rest => do
    let item ← plainTree classes ofConstant around v
    let items ← plainTrees classes ofConstant around rest
    .ok (item :: items)

def plainEntries (classes : Classes)
    (ofConstant : List (Option Place) → Value → Except PlainFault Value) :
    List (Option Place) → List (Value × Value) → Except PlainFault (List (Value × Value))
  | _, [] => .ok []
  | around, (k, v) :: rest => do
    let key ← plainKey classes k
    let value ← plainTree classes ofConstant around v
    let entries ← plainEntries classes ofConstant around rest
    .ok ((.atom (.str key), value) :: entries)

def plainAttributes (classes : Classes)
    (ofConstant : List (Option Place) → Value → Except PlainFault Value) :
    List (Option Place) → List (String × Value) → List (String × Except PlainFault Value)
  | _, [] => []
  | around, (name, v) :: rest =>
    (name, plainTree classes ofConstant around v) ::
      plainAttributes classes ofConstant around rest

end

/-- The plain form with a bound on how often values kept by classes lead to further ones. -/
def plainWithin (classes : Classes) :
    (depth : Nat) → List (Option Place) → Value → Except PlainFault Value
  | 0 => plainTree classes fun _ _ => .error .undescribed
  | depth + 1 => plainTree classes fun around v => plainWithin classes depth around v.detach

/-- The plain form of a value.  What a class keeps was made before the class, so that there are at
most as many steps as classes. -/
def plain (classes : Classes) (v : Value) : Except PlainFault Value :=
  plainWithin classes (classes.length + 1) [] v

end Memberwise.Schema
