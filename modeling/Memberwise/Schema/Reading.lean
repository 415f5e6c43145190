import Memberwise.Schema.Scalar
import Memberwise.TypeExpr.Resolve
import Memberwise.Value.Iteration

/-! # Values as schemas read them

Reading a value by a schema either gives the value that the schema makes of it or nothing.  Of
the members of a union the one that sets most fields and changes least is taken, the first of
those that are equally good.
-/

namespace Memberwise

namespace Schema

/-- How good a reading is: its exactness, and the number of fields that were given, if it is
of a record or model. -/
structure Grade where
  exactness : Exactness
  fieldsSet : Option Nat

namespace Grade

def exact : Grade := ⟨.exact, none⟩

def of (exactness : Exactness) : Grade := ⟨exactness, none⟩

/-- The grade of a reading made of two readings. -/
def meet (a b : Grade) : Grade :=
  ⟨a.exactness.meet b.exactness,
    match a.fieldsSet, b.fieldsSet with
    | some m, some n => some (m + n)
    | some m, none => some m
    | none, other => other⟩

/-- Whether a later reading is to be preferred. -/
def isBetter (new current : Grade) : Bool :=
  match current.fieldsSet, new.fieldsSet with
  | some m, some n => if m = n then current.exactness.rank < new.exactness.rank else m < n
  | _, _ => current.exactness.rank < new.exactness.rank

/-- Whether no other reading can be better. -/
def isBest (g : Grade) : Bool := g.exactness == .exact && g.fieldsSet.isNone

end Grade

/-- A value as read, with its grade. -/
abbrev Reading := Option (Value × Grade)

def ofGraded (g : Graded) : Reading := g.map fun (v, e) => (v, .of e)

/-- The elements of a value that is iterated where a collection is asked for.  Texts, bytes and
mappings are no such collections. -/
def elements? (classes : Classes) : Value → Option (List Value)
  | .seq _ .bytearray _ | .dict .. | .object _ _ (some _) _ => none
  | .atom (.classRef c) => classes.yielded? (.atom (.classRef c))
  | .atom _ => none
  | v => classes.yielded? v

/-- Whether a value is an instance of a collection kind itself. -/
def isKind (kind : SeqKind) : Value → Bool
  | .seq _ k _ => k == kind
  | _ => false

/-- Reads elements one by one; each lowers the grade of the whole. -/
def readEach (read : Value → Reading) : Grade → List Value → Option (List Value × Grade)
  | grade, [] => some ([], grade)
  | grade, v :: rest => do
    let (item, itemGrade) ← read v
    let (items, grade) ← readEach read (grade.meet itemGrade) rest
    some (item :: items, grade)

/-- The grade that a collection of the kind asked for starts with. -/
def startGrade (kind : SeqKind) (v : Value) : Grade :=
  if isKind kind v then .exact else .of .lax

def readElements (classes : Classes) (kind : SeqKind) (read : Value → Reading) (v : Value) :
    Option (List Value × Grade) :=
  (elements? classes v).bind (readEach read (startGrade kind v))

/-- Reads a value that can be iterated, as an iterator of elements read.  They are read here at once and
not when they are asked for, so that one that is rejected makes the whole be rejected. -/
def readIterable (classes : Classes) (read : Value → Reading) (v : Value) : Reading := do
  let items ← classes.yielded? v
  let (items, _) ← readEach read .exact items
  some (.seq none (.iterator 0) items, .exact)

/-- Adds an entry to those of a mapping; the value for an equal key is replaced. -/
def putEntry (classes : Classes) (entries : List (Value × Value)) (k v : Value) :
    List (Value × Value) :=
  match classes.keyOf? k with
  | none => entries ++ [(k, v)]
  | some key =>
    let isSame := fun (entry : Value × Value) => (classes.keyOf? entry.1).any (sameKey key)
    if entries.any isSame then
      entries.map fun entry => if isSame entry then (entry.1, v) else entry
    else entries ++ [(k, v)]

/-- Reads the entries of a mapping. -/
def readEntries (classes : Classes) (readKey readValue : Value → Reading) :
    Grade → List (Value × Value) → Option (List (Value × Value) × Grade)
  | grade, entries =>
    entries.foldlM (fun (done, grade) (k, v) => do
      let (key, keyGrade) ← readKey k
      let (value, valueGrade) ← readValue v
      if classes.isHashable key then
        some (putEntry classes done key value, grade.meet (keyGrade.meet valueGrade))
      else none) (([] : List (Value × Value)), grade)

/-- Reads a sequence, keeping its kind; texts, bytes and mappings are none. -/
def readSequence (read : Value → Reading) : Value → Reading
  | .seq _ kind items =>
    match kind with
    | .list | .tuple | .deque => do
      let (items, grade) ← readEach read (if kind == .list then .exact else .of .lax) items
      some (.seq none kind items, grade)
    | _ => none
  | .object .. | .atom _ | .dict .. => none

/-- Of two readings the better one, the first if they are equally good. -/
def betterOf (current : Reading) (new : Value × Grade) : Reading :=
  match current with
  | none => some new
  | some best => if new.2.isBetter best.2 then some new else some best

mutual

/-- Reads a value by a schema, given a reader for records and models. -/
def readWith (classes : Classes) (readRecord : String → Value → Reading) :
    Schema → Value → Reading
  | .any, v => some (v, .of .strict)
  | .absent, v => if v.isNone then some (v, .exact) else none
  | .scalar type, v => ofGraded (readScalar classes type v)
  | .enumeration name, v => ofGraded (readMember classes name v)
  | .literal values, v => ofGraded (readLiteral classes values v)
  | .nullable inner, v =>
    if v.isNone then some (v, .exact) else readWith classes readRecord inner v
  | .union members, v => readBest classes readRecord none members v
  | .list item, v => do
    let (items, grade) ← readElements classes .list (readWith classes readRecord item) v
    some (.list items, grade)
  | .set item, v => do
    let (items, grade) ← readElements classes .set (readWith classes readRecord item) v
    some (.seq none .set (← classes.toSet? items), grade)
  | .frozenset item, v => do
    let (items, grade) ← readElements classes .frozenset (readWith classes readRecord item) v
    some (.seq none .frozenset (← classes.toSet? items), grade)
  | .deque item, v => do
    let (items, grade) ← readElements classes .deque (readWith classes readRecord item) v
    some (.seq none .deque items, grade)
  | .tupleOf item, v => do
    let (items, grade) ← readElements classes .tuple (readWith classes readRecord item) v
    some (.seq none .tuple items, grade)
  | .tuple schemas, v => do
    let items ← elements? classes v
    let (items, grade) ← readPlaces classes readRecord schemas (startGrade .tuple v) items
    some (.seq none .tuple items, grade)
  | .dict key value, v =>
    match v with
    | .dict _ entries => do
      let (entries, grade) ← readEntries classes (readWith classes readRecord key)
        (readWith classes readRecord value) .exact entries
      some (.dict none entries, grade)
    | _ => none
  | .sequence item, v => readSequence (readWith classes readRecord item) v
  | .iterable item, v => readIterable classes (readWith classes readRecord item) v
  | .record name, v | .model name, v => readRecord name v
  | .instanceOf c, v => if classes.isInstance v c then some (v, .exact) else none

/-- Reads a value by the best of several schemas. -/
def readBest (classes : Classes) (readRecord : String → Value → Reading) (best : Reading) :
    List Schema → Value → Reading
  | [], _ => best
  | schema :: rest, v =>
    match readWith classes readRecord schema v with
    | none => readBest classes readRecord best rest v
    | some (w, grade) =>
      if grade.isBest then some (w, grade)
      else readBest classes readRecord (betterOf best (w, grade)) rest v

/-- Reads elements by one schema each; there must be as many. -/
def readPlaces (classes : Classes) (readRecord : String → Value → Reading) :
    List Schema → Grade → List Value → Option (List Value × Grade)
  | [], grade, [] => some ([], grade)
  | schema :: schemas, grade, v :: rest => do
    let (item, itemGrade) ← readWith classes readRecord schema v
    let (items, grade) ← readPlaces classes readRecord schemas (grade.meet itemGrade) rest
    some (item :: items, grade)
  | _, _, _ => none

end

/-- The entry of a mapping under a text. -/
def valueUnder? (entries : List (Value × Value)) (name : String) : Option Value :=
  (entries.find? fun entry => entry.1.shape == [.text name]).map (·.2)

/-- What is given for a field: by its other name if it has one, else by its own. -/
def given? (acceptsNames : Bool) (entries : List (Value × Value)) (f : Field) : Option Value :=
  match f.otherName with
  | none => valueUnder? entries f.name
  | some other =>
    (valueUnder? entries other).or (if acceptsNames then valueUnder? entries f.name else none)

/-- The value of a field for which nothing is given; each object has a copy of its own. -/
def defaultOf? (f : Field) : Option Value :=
  match f.default with
  | .missing => none
  | .value v | .factory v => some v.detach

/-- The entries of a mapping that belong to no field. -/
def extraEntries (acceptsNames : Bool) (fields : List Field) (entries : List (Value × Value)) :
    List (String × Value) :=
  entries.filterMap fun
    | (.atom (.str name), v) =>
      let isKnown := fields.any fun f =>
        match f.otherName with
        | none => f.name == name
        | some other => other == name || (acceptsNames && f.name == name)
      if isKnown then none else some (name, v)
    | _ => none

/-- Reads the fields of a record or model from a mapping, in order; the number of fields given
is counted. -/
def readFields (classes : Classes) (read : Schema → Value → Reading) (acceptsNames : Bool)
    (entries : List (Value × Value)) :
    List Field → Option (List (String × Value) × Grade)
  | [] => some ([], ⟨.exact, some 0⟩)
  | f :: rest => do
    let (others, grade) ← readFields classes read acceptsNames entries rest
    let keep (v : Value) := if f.type.isInitOnly then others else (f.name, v) :: others
    if f.inInit then
      match given? acceptsNames entries f with
      | some v =>
        let schema ← ofType? classes (f.type.resolveField classes)
        let (w, fieldGrade) ← read schema v
        some (keep w, (grade.meet fieldGrade).meet ⟨.exact, some 1⟩)
      | none => some (keep (← defaultOf? f), grade)
    else
      match defaultOf? f with
      | some v => some (keep v, grade)
      | none => some (others, grade)

/-- Reads a record or model: an instance of the class as it is, or a mapping with its fields. -/
def readRecordWith (classes : Classes) (read : Schema → Value → Reading) (name : String)
    (v : Value) : Reading :=
  let c := ClassRef.declared name
  if classes.isInstance v c then
    some (v, if v.classOf == c then .exact else .of .strict)
  else
    match v with
    | .dict _ entries =>
      if classes.isModel c then do
        let acceptsNames := (classes.modelOption? c (·.acceptsNames)).getD false
        let fields := classes.modelFields c
        let (attributes, grade) ← readFields classes read acceptsNames entries fields
        let extra := extraEntries acceptsNames fields entries
        let hidden := classes.hiddenAttributes c
        match (classes.modelOption? c (·.extra)).getD .ignore with
        | .ignore => some (.object none name none (attributes ++ hidden), grade)
        | .allow => some (.object none name none (attributes ++ extra ++ hidden), grade)
        | .forbid =>
          if extra.isEmpty then some (.object none name none (attributes ++ hidden), grade)
          else none
      else do
        let (attributes, grade) ←
          readFields classes read false entries (classes.recordArguments c)
        some (.object none name none attributes, grade)
    | _ => none

/-- Reading with a bound on the nesting of records. -/
def readWithin (classes : Classes) : (depth : Nat) → Schema → Value → Reading
  | 0 => readWith classes fun _ _ => none
  | depth + 1 => readWith classes (readRecordWith classes (readWithin classes depth))

/-- Reads a value by a schema.  A record is read from a mapping that is deeper than what is
read for its fields, so the depth of the value bounds the nesting. -/
def read? (classes : Classes) (schema : Schema) (v : Value) : Option Value :=
  (readWithin classes (v.depth + 1) schema v).map (·.1)

/-- The classes that the fields of a class refer to, unless some field has no schema. -/
def fieldReferences? (classes : Classes) (name : String) : Option (List String) :=
  let c := ClassRef.declared name
  let fields := if classes.isModel c then classes.modelFields c else classes.recordArguments c
  fields.foldlM (fun found f =>
    let type := f.type.resolveField classes
    let type := match type with
      | .initOnly _ inner => inner
      | type => type
    (ofType? classes type).map fun schema => found ++ references schema) []

/-- Whether all classes that can be reached from some classes have schemas for their fields. -/
def isClosed (classes : Classes) : (rounds : Nat) → (seen pending : List String) → Bool
  | _, _, [] => true
  | 0, _, _ => true
  | rounds + 1, seen, pending =>
    match pending.mapM (fieldReferences? classes) with
    | none => false
    | some found =>
      let seen := seen ++ pending
      isClosed classes rounds seen (found.flatten.eraseDups.filter fun name =>
        !seen.contains name)

/-- The schema of a type, if the type and all classes behind it are described. -/
def describe? (classes : Classes) (t : TypeExpr) : Option Schema :=
  (ofType? classes t).bind fun schema =>
    if isClosed classes (classes.length + 1) [] (references schema).eraseDups then some schema
    else none

end Schema

end Memberwise
