/-! # Faults

Everything that may go wrong, as causes.  Faults of the library carry what their messages tell;
of those that come from the classes of a program only the kind is known.
-/

namespace Memberwise

/-- Why a mapper or a rule cannot be made. -/
inductive ConfigurationFault where
  | notAClass (kind : String)
  /-- The target cannot be created without arguments; the names are sorted. -/
  | requiredArguments (target : String) (names : List String)
  /-- Two members of a source would be written to one member of the target. -/
  | contention (first second source target member : String)
  | unresolvedName (owner name : String)
  | severalElementTypes (member source target : String)
  | noBuilder (member type : String)
  | rejectedRule (source target converter : String)
  | rejectedFunction (converter : String)
  | noAnnotations (converter : String)
  | unsupportedOperation (shown : String)
  | unsupportedFragment (shown : String)
  | createsTarget (source target : String)
  | lacksCreation (source target : String)
deriving DecidableEq, Repr

/-- Words in a sentence: commas between them and `and` before the last. -/
def enumerate (names : List String) : String :=
  match names.reverse with
  | [] => ""
  | [name] => name
  | last :: others => String.intercalate ", " others.reverse ++ " and " ++ last

def ConfigurationFault.message : ConfigurationFault → String
  | .notAClass kind => "Expected a class, got " ++ kind
  | .requiredArguments target names =>
    target ++ " requires argument" ++ (if names.length = 1 then " " else "s ") ++
      enumerate names ++ " and can't be created by a mapper."
  | .contention first second source target member =>
    "Members " ++ first ++ " and " ++ second ++ " of " ++ source ++ " both map to " ++ target ++
      "." ++ member ++ "."
  | .unresolvedName owner name =>
    "Can't resolve type annotations of " ++ owner ++ ": name '" ++ name ++ "' is not defined"
  | .severalElementTypes member source target =>
    "Can't map member " ++ member ++ " from " ++ source ++ " to " ++ target ++
      ": only collections with a single element type are supported, register a custom converter" ++
      " for this pair."
  | .noBuilder member type =>
    "Can't create a " ++ type ++ " collection for member " ++ member ++ "."
  | .rejectedRule source target converter =>
    "Custom converter for " ++ source ++ " -> " ++ target ++ " must be a callable, got " ++
      converter ++ "."
  | .rejectedFunction converter => "Custom converter must be a callable, got " ++ converter ++ "."
  | .noAnnotations converter =>
    "Can't infer the conversion types of " ++ converter ++
      ": annotate its first parameter and its return value."
  | .unsupportedOperation shown => "Unsupported operation " ++ shown ++ "."
  | .unsupportedFragment shown => "Unsupported plan fragment " ++ shown ++ "."
  | .createsTarget source target =>
    "Plan " ++ source ++ " -> " ++ target ++ " creates its target, compile it as a factory."
  | .lacksCreation source target =>
    "Plan " ++ source ++ " -> " ++ target ++ " does not create its target."

inductive ConversionReason where
  | unstated
  | stated (text : String)
  /-- The schema of the target rejects the value. -/
  | rejected
deriving DecidableEq, Repr

/-- A failed conversion: the value as shown, its class, the target and the reason. -/
structure ConversionFault where
  shown : String
  className : String
  target : String
  reason : ConversionReason
deriving DecidableEq, Repr

/-- The message of a failed conversion; the wording of a schema is not part of it. -/
def ConversionFault.message (fault : ConversionFault) : String :=
  let base := "Can't convert " ++ fault.shown ++ " (" ++ fault.className ++ ") to " ++ fault.target
  match fault.reason with
  | .unstated => base ++ "."
  | .stated text => if text.isEmpty then base ++ "." else base ++ ": " ++ text
  | .rejected => base

/-- The wording for an integer that is too long to be written. -/
def tooLongToWrite : String :=
  "Exceeds the limit (4300 digits) for integer string conversion; " ++
    "use sys.set_int_max_str_digits() to increase the limit"

/-- The wording for an integer text that is too long to be read. -/
def tooLongToRead (count : Nat) : String :=
  "Exceeds the limit (4300 digits) for integer string conversion: value has " ++
    toString count ++ " digits; use sys.set_int_max_str_digits() to increase the limit"

inductive Fault where
  | conversion (fault : ConversionFault)
  | configuration (fault : ConfigurationFault)
  /-- A source, a target or a collection is absent. -/
  | absent (message : String)
  /-- A class of the program rejects a value in words of its own. -/
  | value (message : String)
  /-- An operation does not apply to its operands. -/
  | typeMismatch
  /-- A call does not give an argument that it cannot go without. -/
  | missingArgument
  | missingAttribute
  | unresolvedName
  /-- Something that reading a text of the program raises, told by its class. -/
  | raised (kind : String)
  | undecodable
  | frozen
  | validation
  | overflow
  | decimalOverflow
  | invalidDecimal
  /-- An attribute is defined in terms of itself, or too many calls are inside one another. -/
  | endless
deriving DecidableEq, Repr

end Memberwise
