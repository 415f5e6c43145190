import Memberwise.World

/-! # Attributes of objects

Reading, storing and deleting the attributes of objects.  A property acts in the place of an
attribute; records and models may refuse to be changed, and a model knows its fields.  A getter reads
one attribute, gives a constant or fails, and a setter stores its argument in one attribute or
fails; accessors that do more are left out.
-/

namespace Memberwise.World

/-- The number of properties and slots that could stand behind one another. -/
def chainLength (w : World) : Nat :=
  (w.classes.map fun c => c.decl.body.length).foldr (· + ·) 0 + 1

def uuidAttribute? (n : Nat) (name : String) : Option Value :=
  let field (bits shift : Nat) : Value := .atom (.int (n / Nat.pow 2 shift % Nat.pow 2 bits : Nat))
  let timeLow := n / Nat.pow 2 96
  let timeMid := n / Nat.pow 2 80 % Nat.pow 2 16
  let timeHigh := n / Nat.pow 2 64 % Nat.pow 2 16
  let variantBits := n / Nat.pow 2 60 % 16
  let isStandard := 8 ≤ variantBits ∧ variantBits < 12
  match name with
  | "int" => some (.atom (.int n))
  | "bytes" => some (.atom (.bytes (Uuid.bytes n)))
  | "bytes_le" =>
    let b := Uuid.bytes n
    some (.atom (.bytes ((b.take 4).reverse ++ ((b.drop 4).take 2).reverse ++
      ((b.drop 6).take 2).reverse ++ b.drop 8)))
  | "fields" => some (.seq none .tuple
      [field 32 96, field 16 80, field 16 64, field 8 56, field 8 48, field 48 0])
  | "time_low" => some (field 32 96)
  | "time_mid" => some (field 16 80)
  | "time_hi_version" => some (field 16 64)
  | "clock_seq_hi_variant" => some (field 8 56)
  | "clock_seq_low" => some (field 8 48)
  | "clock_seq" => some (.atom (.int (n / Nat.pow 2 48 % Nat.pow 2 14 : Nat)))
  | "time" =>
    let ticks := timeHigh % Nat.pow 2 12 * Nat.pow 2 48 + timeMid * Nat.pow 2 32 + timeLow
    some (.atom (.int (ticks : Nat)))
  | "node" => some (field 48 0)
  | "hex" => some (Value.text (Uuid.hex n))
  | "urn" => some (Value.text ("urn:uuid:".toList ++ Uuid.text n))
  | "variant" => some <| .atom <| .str <|
      if variantBits < 8 then "reserved for NCS compatibility"
      else if variantBits < 12 then "specified in RFC 4122"
      else if variantBits < 14 then "reserved for Microsoft compatibility"
      else "reserved for future definition"
  | "version" =>
    some (if isStandard then .atom (.int (timeHigh / Nat.pow 2 12 : Nat)) else .none)
  | _ => none

/-- An attribute that an atom has by its class. -/
def atomAttribute (w : World) (a : Atom) (name : String) : Except Fault (World × Slot) :=
  let found : Option Value :=
    match a with
    | .member owner member =>
      if name == "name" || name == "_name_" then some (.atom (.str member))
      else if name == "value" || name == "_value_" then some (w.classes.memberValue owner member)
      else none
    | .uuid n => uuidAttribute? n name
    | _ => none
  match found with
  | some v => .ok (w.intern v)
  | none => .error .missingAttribute

/-- Reading an attribute with a bound on the properties that stand behind one another. -/
def getWithin (w : World) (slot : Slot) : (fuel : Nat) → String → Except Fault (World × Slot)
  | 0, _ => .error .endless
  | fuel + 1, name =>
    match slot with
    | .atom a => w.atomAttribute a name
    | .ref p =>
      match w.store.get? p with
      | some (.object className _ attributes) =>
        match w.classes.ownedBinding? (.declared className) name, attributes.lookup name with
        | some (_, .property none _), _ => .error .missingAttribute
        | some (owner, .property (some getter) _), _ =>
          match getter.body with
          | .attribute source => w.getWithin slot fuel source
          | .constant _ => .ok (w, w.constant (.getter owner name))
          | .failing message => .error (.value message)
        | _, some v => .ok (w, v)
        | some (owner, .constant _), none => .ok (w, w.constant (.attribute owner name))
        | _, none => .error .missingAttribute
      | _ => .error .missingAttribute

def getAttribute (w : World) (slot : Slot) (name : String) : Except Fault (World × Slot) :=
  w.getWithin slot w.chainLength name

def putAttribute (attributes : List (String × Slot)) (name : String) (v : Slot) :
    List (String × Slot) :=
  if attributes.any (·.1 == name) then
    attributes.map fun entry => if entry.1 == name then (name, v) else entry
  else attributes ++ [(name, v)]

/-- Stores a value on an object itself. -/
def storeOn (w : World) (p : Place) (name : String) (v : Slot) : World :=
  match w.store.get? p with
  | some (.object className core attributes) =>
    w.set p (.object className core (putAttribute attributes name v))
  | _ => w

/-- Whether the instances of a class have a place for every name. -/
def hasOpenAttributes (w : World) (c : ClassRef) : Bool :=
  (w.classes.declsOf c).any fun decl =>
    match decl.slotNames with
    | none => true
    | some names => names.contains "__dict__"

/-- Whether the instances of a class have a place for a name. -/
def hasPlaceFor (w : World) (c : ClassRef) (name : String) : Bool :=
  (w.classes.slotsOf c).contains name || w.hasOpenAttributes c

/-- Whether a record class in a lineage refuses that an attribute is changed. -/
def isGuarded (w : World) (c : ClassRef) (name : String) : Bool :=
  (w.classes.declsOf c).any fun decl =>
    match decl.kind with
    | .record options =>
      options.frozen && (c == .declared decl.name ||
        (w.classes.recordFields (.declared decl.name)).any (·.name == name))
    | _ => false

/-- What becomes of a value that is stored on an object under a name. -/
inductive StoreTarget where
  | property (setter : Option Setter)
  | place

/-- Where the value of a name goes by the rule for all objects: to the setter of a property, or
to a place on the object. -/
def plainTarget (w : World) (c : ClassRef) (name : String) : Except Fault StoreTarget :=
  match w.classes.binding? c name with
  | some (.property _ setter) => .ok (.property setter)
  | _ => if w.hasPlaceFor c name then .ok .place else .error .missingAttribute

/-- A model's checks before a value is stored: hidden names are open, a frozen model or field
refuses, and an unknown name is taken only where the model allows it. -/
def modelTarget (w : World) (c : ClassRef) (name : String) : Except Fault StoreTarget :=
  if isHiddenName name then .ok .place
  else
    let field := (w.classes.modelFields c).find? (·.name == name)
    if w.classes.isFrozenModel c || field.any (·.frozen) then .error .validation
    else
      match w.classes.binding? c name, field with
      | some (.property _ setter), _ => .ok (.property setter)
      | _, some _ => .ok .place
      | _, none =>
        if (w.classes.modelOption? c (·.validatesAssignment)).getD false &&
            (w.classes.modelOption? c (·.extra)).getD .ignore != .allow then .error .validation
        else if (w.classes.modelOption? c (·.extra)).getD .ignore == .allow then .ok .place
        else .error (.value ("\"" ++ c.name ++ "\" object has no field \"" ++ name ++ "\""))

/-- The value that a model stores for a field: it is read by the schema of the field where the
model validates what is assigned. -/
def validated (w : World) (c : ClassRef) (name : String) (v : Slot) :
    Except Fault (World × Slot) :=
  if w.classes.isModel c && (w.classes.modelOption? c (·.validatesAssignment)).getD false then
    match (w.classes.modelFields c).find? (·.name == name) with
    | none => .ok (w, v)
    | some f =>
      let schema := Schema.describe? w.classes (f.type.resolveField w.classes)
      match schema.bind fun s => Schema.read? w.classes s (w.load v) with
      | some result => .ok (w.intern result)
      | none => .error .validation
  else .ok (w, v)

/-- Storing with a bound on the setters that stand behind one another.  A direct store passes
by the guards of records and models. -/
def setWithin (w : World) (p : Place) (direct : Bool) (v : Slot) :
    (fuel : Nat) → String → Except Fault World
  | 0, _ => .error .endless
  | fuel + 1, name =>
    let c := w.classOf (.ref p)
    match w.store.get? p with
    | some (.object ..) =>
      if !direct && w.isGuarded c name then .error .frozen
      else do
        let target ←
          if !direct && w.classes.isModel c then w.modelTarget c name else w.plainTarget c name
        match target with
        | .property none => .error .missingAttribute
        | .property (some setter) =>
          match setter.body with
          | .attribute next => w.setWithin p false v fuel next
          | .failing message => .error (.value message)
        | .place =>
          let (w, v) ← if direct then .ok (w, v) else w.validated c name v
          .ok (w.storeOn p name v)
    | _ => .error .missingAttribute

def setAttribute (w : World) (slot : Slot) (name : String) (v : Slot) : Except Fault World :=
  match slot with
  | .ref p => w.setWithin p false v w.chainLength name
  | .atom (.member ..) =>
    if name == "name" || name == "value" then .error .missingAttribute else .ok w
  | .atom _ => .error .missingAttribute

/-- Stores a value under a name, past the guards of records and models. -/
def setDirectly (w : World) (slot : Slot) (name : String) (v : Slot) : Except Fault World :=
  match slot with
  | .ref p => w.setWithin p true v w.chainLength name
  | .atom _ => .error .missingAttribute

def deleteAttribute (w : World) (slot : Slot) (name : String) : Except Fault World :=
  match slot with
  | .atom _ => .error .missingAttribute
  | .ref p =>
    match w.store.get? p with
    | some (.object className core attributes) =>
      let c := ClassRef.declared className
      if w.isGuarded c name then .error .frozen
      else if w.classes.isModel c && !isHiddenName name &&
          (w.classes.isFrozenModel c ||
            (w.classes.modelFields c).any fun f => f.name == name && f.frozen) then
        .error .validation
      else if ((w.classes.binding? c name).any Binding.isProperty) ||
          !attributes.any (·.1 == name) then .error .missingAttribute
      else .ok (w.set p (.object className core (attributes.filter (·.1 != name))))
    | _ => .error .missingAttribute

end Memberwise.World
