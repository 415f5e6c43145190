import Memberwise.Class.Fields
import Memberwise.Calendar.Text
import Memberwise.Number.Binary64.Text
import Memberwise.Text.Quoted
import Memberwise.Uuid

/-! # Values as text

How messages show a value: in the notation that would build it.  Showing may fail, because an
integer can be too long to be written and a record can lack an attribute that it shows.
-/

namespace Memberwise

/-- Why a value is not shown. -/
inductive RenderFault where
  /-- An integer has too many digits. -/
  | tooManyDigits
  /-- A record lacks an attribute. -/
  | missingAttribute (className name : String)
  /-- A getter fails. -/
  | getter (message : String)
deriving DecidableEq, Repr

/-- Texts in sequence with a separator between them. -/
def joinWith (separator : List Char) : List (List Char) → List Char
  | [] => []
  | [text] => text
  | text :: rest => text ++ separator ++ joinWith separator rest

def commaSeparated (texts : List (List Char)) : List Char := joinWith [',', ' '] texts

def callText (function : String) (arguments : List (List Char)) : List Char :=
  function.toList ++ '(' :: commaSeparated arguments ++ [')']

/-- The text of an integer, unless it is too long. -/
def renderInt (n : Int) : Except RenderFault (List Char) :=
  match integerText? n with
  | some text => .ok text
  | none => .error .tooManyDigits

/-- A number without the fraction that marks it as inexact. -/
def bareFloatText (x : Binary64) : List Char :=
  let text := x.text
  if ['.', '0'].isSuffixOf text then text.take (text.length - 2) else text

/-- A complex number: the imaginary part alone if the real part is a positive zero. -/
def complexText (re im : Binary64) : List Char :=
  let imaginary := bareFloatText im
  if re = Binary64.zero false then imaginary ++ ['j']
  else
    let sign := if imaginary.head? = some '-' then [] else ['+']
    '(' :: bareFloatText re ++ sign ++ imaginary ++ ['j', ')']

/-- The parts of a time of day; trailing zeros are left out. -/
def clockParts (clock : Clock) : List (List Char) :=
  [naturalText clock.hour, naturalText clock.minute] ++
    (if clock.second = 0 ∧ clock.microsecond = 0 then [] else [naturalText clock.second]) ++
    if clock.microsecond = 0 then [] else [naturalText clock.microsecond]

/-- A span of time by its parts that are not zero. -/
def spanParts (days : Int) (seconds micros : Nat) : List Char :=
  let parts :=
    (if days = 0 then [] else ["days=".toList ++ integerText days]) ++
    (if seconds = 0 then [] else ["seconds=".toList ++ naturalText seconds]) ++
    (if micros = 0 then [] else ["microseconds=".toList ++ naturalText micros])
  callText "datetime.timedelta" (if parts.isEmpty then [['0']] else parts)

def offsetParts : Option Offset → List (List Char)
  | none => []
  | some offset =>
    if offset.micros = 0 then ["tzinfo=datetime.timezone.utc".toList]
    else
      let rest := (offset.micros.fmod day).toNat
      let span := spanParts (offset.micros.fdiv day) (rest / 1000000) (rest % 1000000)
      ["tzinfo=".toList ++ callText "datetime.timezone" [span]]

def Duration.rendered (span : Duration) : List Char :=
  spanParts span.days span.seconds span.microseconds

def Date.parts (date : Date) : List (List Char) :=
  [naturalText date.year, naturalText date.month, naturalText date.day]

namespace Classes

/-- A class in the notation of messages. -/
def renderClass (classes : Classes) (c : ClassRef) : List Char :=
  if c = .builtin .any then "typing.Any".toList
  else if classes.isEnumeration c then "<enum '".toList ++ c.name.toList ++ "'>".toList
  else
    let name := if c.module == "builtins" then c.name else c.qualifiedName
    "<class '".toList ++ name.toList ++ "'>".toList

/-- An atom that is no enumeration member in the notation of messages. -/
def renderAtom (classes : Classes) : Atom → Except RenderFault (List Char)
  | .none => .ok "None".toList
  | .bool b => .ok (if b then "True" else "False").toList
  | .int n => renderInt n
  | .float x => .ok x.text
  | .complex re im => .ok (complexText re im)
  | .str s => .ok (Text.quoted s.toList)
  | .bytes content => .ok (Text.quotedBytes content)
  | .decimal d => .ok (callText "Decimal" [Text.quoted d.text])
  | .date d => .ok (callText "datetime.date" d.parts)
  | .datetime m =>
    .ok (callText "datetime.datetime" (m.date.parts ++ clockParts m.clock ++ offsetParts m.offset))
  | .time t => .ok (callText "datetime.time" (clockParts t.clock ++ offsetParts t.offset))
  | .timedelta span => .ok span.rendered
  | .uuid n => .ok (callText "UUID" [Text.quoted (Uuid.text n)])
  | .member enumeration name => .ok (enumeration ++ "." ++ name).toList
  | .classRef c => .ok (classes.renderClass c)

/-- An object of which nothing but the class is known. -/
def renderOpaque (c : ClassRef) : List Char :=
  '<' :: c.qualifiedName.toList ++ " object>".toList

/-- The nearest record class in a lineage whose objects show their fields. -/
def showingClass? (classes : Classes) (c : ClassRef) : Option ClassRef :=
  ((classes.declsOf c).find? fun decl =>
    match decl.kind with
    | .record options => options.showsFields
    | _ => false).map fun decl => .declared decl.name

/-- What is made of an attribute that an object or its class keeps. -/
def storedOf {ε α : Type} (classes : Classes) (missing : ε) (ofConstant : Value → Except ε α)
    (c : ClassRef) (own : List (String × Except ε α)) (name : String) : Except ε α :=
  match own.lookup name with
  | some found => found
  | none =>
    match classes.binding? c name with
    | some (.constant v) => ofConstant v
    | _ => .error missing

/-- What is made of an attribute of an object: of its own, or of what its class has for the name. -/
def attributeOf {ε α : Type} (classes : Classes) (unread : RenderFault → ε)
    (ofConstant : Value → Except ε α) (c : ClassRef) (own : List (String × Except ε α))
    (name : String) : Except ε α :=
  let missing := unread (.missingAttribute c.name name)
  match classes.binding? c name with
  | some (.property (some getter) _) =>
    match getter.body with
    | .attribute source => classes.storedOf missing ofConstant c own source
    | .constant v => ofConstant v
    | .failing message => .error (unread (.getter message))
  | some (.property none _) => .error missing
  | _ => classes.storedOf missing ofConstant c own name

/-- A record or model by its attributes, with a separator between them. -/
def fieldTexts (classes : Classes)
    (constantText : Value → Except RenderFault (List Char)) (c : ClassRef)
    (shown : List (String × Except RenderFault (List Char))) :
    Except RenderFault (List (List Char)) :=
  let pair (name : String) (text : Except RenderFault (List Char)) :=
    text.map fun text => name.toList ++ '=' :: text
  if classes.isModel c then
    (shown.filter fun entry => !entry.1.startsWith "_").mapM fun (name, text) => pair name text
  else
    match classes.showingClass? c with
    | none => .ok []
    | some shower =>
      (classes.recordFields shower).mapM fun f =>
        pair f.name (classes.attributeOf id constantText c shown f.name)

mutual

/-- A value in the notation of messages, given that of values that classes keep. -/
def renderTree (classes : Classes)
    (constantText : Value → Except RenderFault (List Char)) :
    Value → Except RenderFault (List Char)
  | .atom (.member enumeration name) =>
    (constantText (classes.memberValue enumeration name)).map fun value =>
      '<' :: (enumeration ++ "." ++ name ++ ": ").toList ++ value ++ ['>']
  | .atom a => classes.renderAtom a
  | .seq _ kind items =>
    match kind with
    | .bytearray =>
      .ok (callText "bytearray" [Text.quotedBytes (items.filterMap fun
        | .atom (.int n) => some (UInt8.ofNat n.toNat)
        | _ => none)])
    | .bag name => .ok (renderOpaque (.declared name))
    | .iterator yielded =>
      .ok (callText "ValidatorIterator" [("index=" ++ toString yielded).toList, "schema=None".toList])
    | _ =>
      (renderTrees classes constantText items).map fun texts =>
        let inner := commaSeparated texts
        match kind with
        | .tuple => if texts.length = 1 then '(' :: inner ++ [',', ')'] else '(' :: inner ++ [')']
        | .set => if texts.isEmpty then "set()".toList else '\x7b' :: inner ++ ['\x7d']
        | .frozenset =>
          callText "frozenset" (if texts.isEmpty then [] else ['\x7b' :: inner ++ ['\x7d']])
        | .deque => callText "deque" ['[' :: inner ++ [']']]
        | _ => '[' :: inner ++ [']']
  | .dict _ entries =>
    (renderEntries classes constantText entries).map fun texts =>
      '\x7b' :: commaSeparated texts ++ ['\x7d']
  | .object _ _ (some core) _ => classes.renderAtom core
  | .object _ name none attributes =>
    let c := ClassRef.declared name
    if classes.isModel c || (classes.showingClass? c).isSome then
      (classes.fieldTexts constantText c (renderAttributes classes constantText attributes)).map
        (callText name)
    else .ok (renderOpaque c)

def renderTrees (classes : Classes)
    (constantText : Value → Except RenderFault (List Char)) :
    List Value → Except RenderFault (List (List Char))
  | [] => .ok []
  | v :: rest => do
    let text ← renderTree classes constantText v
    let texts ← renderTrees classes constantText rest
    .ok (text :: texts)

def renderEntries (classes : Classes)
    (constantText : Value → Except RenderFault (List Char)) :
    List (Value × Value) → Except RenderFault (List (List Char))
  | [] => .ok []
  | (k, v) :: rest => do
    let key ← renderTree classes constantText k
    let text ← renderTree classes constantText v
    let texts ← renderEntries classes constantText rest
    .ok ((key ++ ':' :: ' ' :: text) :: texts)

def renderAttributes (classes : Classes)
    (constantText : Value → Except RenderFault (List Char)) :
    List (String × Value) → List (String × Except RenderFault (List Char))
  | [] => []
  | (name, v) :: rest =>
    (name, renderTree classes constantText v) :: renderAttributes classes constantText rest

end

/-- Rendering with a bound on how often values kept by classes lead to further ones. -/
def renderWithin (classes : Classes) : (depth : Nat) → Value → Except RenderFault (List Char)
  | 0 => classes.renderTree fun _ => .ok []
  | depth + 1 => classes.renderTree (classes.renderWithin depth)

/-- A value in the notation of messages.  What a class keeps was made before the class, so
that there are at most as many steps as classes. -/
def render (classes : Classes) (v : Value) : Except RenderFault (List Char) :=
  classes.renderWithin (classes.length + 1) v

/-- A value as plain text: texts stand for themselves, scalars are written in their own
formats, and all else is as in messages. -/
def plainText (classes : Classes) (v : Value) : Except RenderFault (List Char) :=
  match v with
  | .atom (.member enumeration name) => .ok (enumeration ++ "." ++ name).toList
  | .object _ name none attributes =>
    if classes.isModel (.declared name) then
      (classes.fieldTexts classes.render (.declared name)
        (attributes.map fun (name, v) => (name, classes.render v))).map (joinWith [' '])
    else classes.render v
  | _ =>
    match v.core? with
    | some (.str s) => .ok s.toList
    | some (.decimal d) => .ok d.text
    | some (.date d) => .ok d.text
    | some (.datetime m) => .ok m.text
    | some (.time t) => .ok t.text
    | some (.timedelta span) => .ok span.text
    | some (.uuid n) => .ok (Uuid.text n)
    | _ => classes.render v

/-- The name of the class of a value.  A class is itself an instance of a class of classes. -/
def typeName (classes : Classes) : Value → String
  | .atom (.classRef c) =>
    if classes.isEnumeration c then "EnumType"
    else if classes.isModel c then "ModelMetaclass"
    else if c = .builtin .any then "_AnyMeta"
    else
      match c with
      | .builtin b => if b.isCollectionInterface then "ABCMeta" else "type"
      | .declared _ => if classes.isAbstract c then "ABCMeta" else "type"
  | v => v.classOf.name

end Classes

end Memberwise
