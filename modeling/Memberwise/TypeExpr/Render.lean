import Memberwise.TypeExpr.Shape
import Memberwise.Value.Render

/-! # Type expressions as text

A type at the top of a message is written as the object that it is, a type inside another one
by its qualified name alone.
-/

namespace Memberwise.Classes

/-- The name of a class as it stands inside a type. -/
def innerName (c : ClassRef) : String :=
  if c.module == "builtins" then c.name else c.qualifiedName

/-- A value in place of a type; one that cannot be shown is left out. -/
def valueText (classes : Classes) (v : Value) : List Char :=
  (classes.render v).toOption.getD []

def headText : Head → List Char
  | .alias a => ("typing." ++ a.name).toList
  | .builtin b => (innerName (.builtin b)).toList
  | .declared name => (innerName (.declared name)).toList
  | .form f => ("typing." ++ f.name).toList

def bracketed (head : List Char) (arguments : List (List Char)) : List Char :=
  head ++ '[' :: (if arguments.isEmpty then ['(', ')'] else commaSeparated arguments) ++ [']']

/-- A union: a bar between its members, or the word for an optional type, or the word for a
union.  The bar style abbreviates the type of the absent value. -/
def unionText (style : UnionStyle) (members : List TypeExpr) (texts : List (List Char)) :
    List Char :=
  match style with
  | .bar =>
    joinWith [' ', '|', ' '] ((members.zip texts).map fun (member, text) =>
      if member.isNoneType then "None".toList else text)
  | .named =>
    match members, texts with
    | [a, b], [textA, textB] =>
      if a.isNoneType then bracketed "typing.Optional".toList [textB]
      else if b.isNoneType then bracketed "typing.Optional".toList [textA]
      else bracketed "typing.Union".toList texts
    | _, _ => bracketed "typing.Union".toList texts

mutual

/-- A type as it stands inside another one. -/
def innerText (classes : Classes) : TypeExpr → List Char
  | .cls c => (innerName c).toList
  | .special f => ("typing." ++ f.name).toList
  | .generic a => ("typing." ++ a.name).toList
  | .applied head args => bracketed (headText head) (innerTexts classes args)
  | .union style members => unionText style members (innerTexts classes members)
  | .literal values =>
    bracketed "typing.Literal".toList (values.map fun a => classes.valueText (.atom a))
  | .annotated t =>
    bracketed "typing.Annotated".toList (annotatedTexts classes t ++ [Text.quoted "note".toList])
  | .initOnly _ (.cls c) => bracketed "dataclasses.InitVar".toList [c.name.toList]
  | .initOnly _ t => bracketed "dataclasses.InitVar".toList [innerText classes t]
  | .forward name => callText "ForwardRef" [Text.quoted name.toList]
  | .ellipsis => "...".toList
  | .value v => classes.valueText v

def innerTexts (classes : Classes) : List TypeExpr → List (List Char)
  | [] => []
  | t :: rest => innerText classes t :: innerTexts classes rest

/-- An annotated type with the notes it has: notes within notes are written side by side. -/
def annotatedTexts (classes : Classes) : TypeExpr → List (List Char)
  | .annotated t => annotatedTexts classes t ++ [Text.quoted "note".toList]
  | t => [innerText classes t]

end

/-- A type at the top of a message. -/
def renderType (classes : Classes) : TypeExpr → String
  | .cls c => String.ofList (classes.renderClass c)
  | .ellipsis => "Ellipsis"
  | t => String.ofList (classes.innerText t)

/-- The name of a type, if it has one, else its text. -/
def targetName (classes : Classes) : TypeExpr → String
  | .cls c => c.name
  | .special f => f.name
  | .generic a => a.name
  | .applied (.alias a) _ => a.name
  | .applied (.builtin b) _ => b.name
  | .applied (.declared name) _ => name
  | .applied (.form f) _ => f.name
  | .union .named members =>
    if members.length == 2 && members.any TypeExpr.isNoneType then "Optional" else "Union"
  | .literal _ => "Literal"
  | .annotated _ => "Annotated"
  | t => classes.renderType t

/-- The name of a class, or the text of any other type. -/
def shortName (classes : Classes) : TypeExpr → String
  | .cls c => c.name
  | t => classes.renderType t

/-- The name of the kind of object that a type expression is. -/
def kindName (classes : Classes) : TypeExpr → String
  | .cls c => classes.typeName (.atom (.classRef c))
  | .special _ => "_SpecialForm"
  | .generic a =>
    if a.name == "Tuple" then "_TupleType"
    else if a.name == "Callable" then "_CallableType"
    else "_SpecialGenericAlias"
  | .applied (.builtin _) _ => "GenericAlias"
  | .applied _ _ => "_GenericAlias"
  | .union .named _ => "_UnionGenericAlias"
  | .union .bar _ => "UnionType"
  | .literal _ => "_LiteralGenericAlias"
  | .annotated _ => "_AnnotatedAlias"
  | .initOnly .. => "InitVar"
  | .forward _ => "ForwardRef"
  | .ellipsis => "ellipsis"
  | .value v => classes.typeName v

end Memberwise.Classes
