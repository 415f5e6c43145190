/-! # Predefined classes

The classes that every program knows: scalars, containers, the abstract collections that
containers belong to, and the roots of enumerations and of validated records.  Each has a
name, the module it is printed with, and its ancestors.
-/

namespace Memberwise

inductive Builtin where
  | object | noneType | bool | int | float | complex | str | bytes | bytearray
  | list | tuple | set | frozenset | dict | type
  | decimal | date | datetime | time | timedelta | uuid
  | enum | baseModel | deque | counter | defaultdict | orderedDict | any | generic
  | container | hashable | sized | callable | iterable | iterator | generator | reversible
  | collection | sequence | mutableSequence | abstractSet | mutableSet | mapping
  | mutableMapping | mappingView | keysView | valuesView | itemsView | validatorIterator
deriving DecidableEq, Repr

namespace Builtin

def name : Builtin → String
  | object => "object" | noneType => "NoneType" | bool => "bool" | int => "int"
  | float => "float" | complex => "complex" | str => "str" | bytes => "bytes"
  | bytearray => "bytearray" | list => "list" | tuple => "tuple" | set => "set"
  | frozenset => "frozenset" | dict => "dict" | type => "type" | decimal => "Decimal"
  | date => "date" | datetime => "datetime" | time => "time" | timedelta => "timedelta"
  | uuid => "UUID" | enum => "Enum" | baseModel => "BaseModel" | deque => "deque"
  | counter => "Counter" | defaultdict => "defaultdict" | orderedDict => "OrderedDict"
  | any => "Any" | generic => "Generic" | container => "Container" | hashable => "Hashable"
  | sized => "Sized" | callable => "Callable" | iterable => "Iterable"
  | iterator => "Iterator" | generator => "Generator" | reversible => "Reversible"
  | collection => "Collection" | sequence => "Sequence"
  | mutableSequence => "MutableSequence" | abstractSet => "Set" | mutableSet => "MutableSet"
  | mapping => "Mapping" | mutableMapping => "MutableMapping" | mappingView => "MappingView"
  | keysView => "KeysView" | valuesView => "ValuesView" | itemsView => "ItemsView"
  | validatorIterator => "ValidatorIterator"

def isCollectionInterface : Builtin → Bool
  | container | hashable | sized | callable | iterable | iterator | generator | reversible
  | collection | sequence | mutableSequence | abstractSet | mutableSet | mapping
  | mutableMapping | mappingView | keysView | valuesView | itemsView => true
  | _ => false

def module (b : Builtin) : String :=
  match b with
  | decimal => "decimal"
  | date | datetime | time | timedelta => "datetime"
  | uuid => "uuid"
  | enum => "enum"
  | baseModel => "pydantic.main"
  | validatorIterator => "pydantic_core._pydantic_core"
  | deque | counter | defaultdict | orderedDict => "collections"
  | any | generic => "typing"
  | _ => if b.isCollectionInterface then "collections.abc" else "builtins"

/-- A class followed by its ancestors, nearest first. -/
def ancestors : Builtin → List Builtin
  | object => [object]
  | bool => [bool, int, object]
  | datetime => [datetime, date, object]
  | counter => [counter, dict, object]
  | defaultdict => [defaultdict, dict, object]
  | orderedDict => [orderedDict, dict, object]
  | iterator => [iterator, iterable, object]
  | generator => [generator, iterator, iterable, object]
  | reversible => [reversible, iterable, object]
  | collection => [collection, sized, iterable, container, object]
  | sequence => [sequence, reversible, collection, sized, iterable, container, object]
  | mutableSequence =>
    [mutableSequence, sequence, reversible, collection, sized, iterable, container, object]
  | abstractSet => [abstractSet, collection, sized, iterable, container, object]
  | mutableSet => [mutableSet, abstractSet, collection, sized, iterable, container, object]
  | mapping => [mapping, collection, sized, iterable, container, object]
  | mutableMapping => [mutableMapping, mapping, collection, sized, iterable, container, object]
  | mappingView => [mappingView, sized, object]
  | keysView =>
    [keysView, mappingView, abstractSet, collection, sized, iterable, container, object]
  | valuesView => [valuesView, mappingView, collection, sized, iterable, container, object]
  | itemsView =>
    [itemsView, mappingView, abstractSet, collection, sized, iterable, container, object]
  | b => [b, object]

theorem mem_ancestors_self (b : Builtin) : b ∈ b.ancestors := by
  cases b <;> decide

theorem object_mem_ancestors (b : Builtin) : object ∈ b.ancestors := by
  cases b <;> decide

/-- The most specific abstract collections that a concrete class counts as, beside its
ancestors. -/
def interfaces : Builtin → List Builtin
  | str | bytes | tuple => [sequence, hashable]
  | bytearray | list | deque => [mutableSequence]
  | set => [mutableSet]
  | frozenset => [abstractSet, hashable]
  | dict | counter | defaultdict | orderedDict => [mutableMapping, reversible]
  | baseModel => [iterable]
  | type => [callable, hashable]
  | validatorIterator => [iterator, hashable]
  | _ => [hashable]

/-- Whether every instance of one class counts as an instance of another. -/
def isKindOf (b parent : Builtin) : Bool :=
  b.ancestors.contains parent ||
    (!b.isCollectionInterface && b.interfaces.any fun i => i.ancestors.contains parent)

def isAbstract (b : Builtin) : Bool :=
  b.isCollectionInterface &&
    !(b == mappingView || b == keysView || b == valuesView || b == itemsView)

/-- Whether a predefined class has an initializer of its own. -/
def initializes : Builtin → Bool
  | object | bytearray | list | set | dict | type | uuid | enum | baseModel | deque | counter
  | defaultdict | orderedDict | mappingView => true
  | _ => false

/-- The arguments that the initializer of a predefined class has no default for. -/
def requiredArguments : Builtin → List String
  | mappingView | keysView | valuesView | itemsView => ["mapping"]
  | _ => []

/-- Whether the initializer of a predefined class cannot go without arguments, those that have a
default included. -/
def needsArguments : Builtin → Bool
  | type | uuid => true
  | b => !b.requiredArguments.isEmpty

/-- The names that the instances of a predefined class have a place of their own for. -/
def slotNames : Builtin → List String
  | uuid => ["int", "is_safe", "__weakref__"]
  | mappingView => ["_mapping"]
  | baseModel => ["__dict__", "__pydantic_fields_set__", "__pydantic_extra__", "__pydantic_private__"]
  | _ => []

def appends : Builtin → Bool
  | list | deque | bytearray | mutableSequence => true
  | _ => false

def adds : Builtin → Bool
  | set | mutableSet => true
  | _ => false

def all : List Builtin := [
  object, noneType, bool, int, float, complex, str, bytes, bytearray, list, tuple, set,
  frozenset, dict, type, decimal, date, datetime, time, timedelta, uuid, enum, baseModel, deque,
  counter, defaultdict, orderedDict, any, generic, container, hashable, sized, callable,
  iterable, iterator, generator, reversible, collection, sequence, mutableSequence, abstractSet,
  mutableSet, mapping, mutableMapping, mappingView, keysView, valuesView, itemsView,
  validatorIterator]

theorem mem_all (b : Builtin) : b ∈ all := by
  cases b <;> decide

/-- The concrete class of a name; abstract collections have to be named otherwise. -/
def ofName? (name : String) : Option Builtin :=
  if name = "None" then some noneType
  else all.find? fun b => !b.isCollectionInterface && b.name == name

/-- The class that a name stands for without being declared or imported.  The class of the absent value
goes by the name of that value. -/
def ofGlobalName? (name : String) : Option Builtin :=
  (ofName? name).filter fun b => b.module == "builtins" && name != "NoneType"

def interfaceOfName? (name : String) : Option Builtin :=
  all.find? fun b => b.isCollectionInterface && b.name == name

/-- The names of the properties of a predefined class: those of identifiers, all read-only. -/
def propertyNames : Builtin → List String
  | uuid =>
    ["bytes", "bytes_le", "fields", "time_low", "time_mid", "time_hi_version",
      "clock_seq_hi_variant", "clock_seq_low", "time", "clock_seq", "node", "hex", "urn", "variant",
      "version"]
  | _ => []

/-- The other public names that a predefined class binds itself.  Those of models are left out, as
they never count among the members of a class. -/
def attributeNames : Builtin → List String
  | int =>
    ["conjugate", "bit_length", "bit_count", "to_bytes", "from_bytes", "as_integer_ratio", "real",
      "imag", "numerator", "denominator"]
  | float => ["conjugate", "as_integer_ratio", "fromhex", "hex", "is_integer", "real", "imag"]
  | complex => ["conjugate", "real", "imag"]
  | str =>
    ["encode", "replace", "split", "rsplit", "join", "capitalize", "casefold", "title", "center",
      "count", "expandtabs", "find", "partition", "index", "ljust", "lower", "lstrip", "rfind",
      "rindex", "rjust", "rstrip", "rpartition", "splitlines", "strip", "swapcase", "translate",
      "upper", "startswith", "endswith", "removeprefix", "removesuffix", "isascii", "islower",
      "isupper", "istitle", "isspace", "isdecimal", "isdigit", "isnumeric", "isalpha", "isalnum",
      "isidentifier", "isprintable", "zfill", "format", "format_map", "maketrans"]
  | bytes =>
    ["capitalize", "center", "count", "decode", "endswith", "expandtabs", "find", "fromhex", "hex",
      "index", "isalnum", "isalpha", "isascii", "isdigit", "islower", "isspace", "istitle",
      "isupper", "join", "ljust", "lower", "lstrip", "maketrans", "partition", "replace",
      "removeprefix", "removesuffix", "rfind", "rindex", "rjust", "rpartition", "rsplit", "rstrip",
      "split", "splitlines", "startswith", "strip", "swapcase", "title", "translate", "upper",
      "zfill"]
  | bytearray =>
    ["append", "capitalize", "center", "clear", "copy", "count", "decode", "endswith", "expandtabs",
      "extend", "find", "fromhex", "hex", "index", "insert", "isalnum", "isalpha", "isascii",
      "isdigit", "islower", "isspace", "istitle", "isupper", "join", "ljust", "lower", "lstrip",
      "maketrans", "partition", "pop", "remove", "replace", "removeprefix", "removesuffix",
      "reverse", "rfind", "rindex", "rjust", "rpartition", "rsplit", "rstrip", "split",
      "splitlines", "startswith", "strip", "swapcase", "title", "translate", "upper", "zfill"]
  | list =>
    ["clear", "copy", "append", "insert", "extend", "pop", "remove", "index", "count", "reverse",
      "sort"]
  | tuple => ["index", "count"]
  | set =>
    ["add", "clear", "copy", "discard", "difference", "difference_update", "intersection",
      "intersection_update", "isdisjoint", "issubset", "issuperset", "pop", "remove",
      "symmetric_difference", "symmetric_difference_update", "union", "update"]
  | frozenset =>
    ["copy", "difference", "intersection", "isdisjoint", "issubset", "issuperset",
      "symmetric_difference", "union"]
  | dict =>
    ["get", "setdefault", "pop", "popitem", "keys", "items", "values", "update", "fromkeys",
      "clear", "copy"]
  | type => ["mro"]
  | decimal =>
    ["exp", "ln", "log10", "next_minus", "next_plus", "normalize", "to_integral",
      "to_integral_exact", "to_integral_value", "sqrt", "compare", "compare_signal", "max",
      "max_mag", "min", "min_mag", "next_toward", "quantize", "remainder_near", "fma",
      "is_canonical", "is_finite", "is_infinite", "is_nan", "is_qnan", "is_snan", "is_signed",
      "is_zero", "is_normal", "is_subnormal", "adjusted", "canonical", "conjugate", "radix",
      "copy_abs", "copy_negate", "logb", "logical_invert", "number_class", "to_eng_string",
      "compare_total", "compare_total_mag", "copy_sign", "same_quantum", "logical_and",
      "logical_or", "logical_xor", "rotate", "scaleb", "shift", "from_float", "as_tuple",
      "as_integer_ratio", "real", "imag"]
  | date =>
    ["fromtimestamp", "fromordinal", "fromisoformat", "fromisocalendar", "today", "ctime",
      "strftime", "timetuple", "isocalendar", "isoformat", "isoweekday", "toordinal", "weekday",
      "replace", "year", "month", "day", "min", "max", "resolution"]
  | datetime =>
    ["now", "utcnow", "fromtimestamp", "utcfromtimestamp", "strptime", "combine", "fromisoformat",
      "date", "time", "timetz", "ctime", "timetuple", "timestamp", "utctimetuple", "isoformat",
      "utcoffset", "tzname", "dst", "replace", "astimezone", "hour", "minute", "second",
      "microsecond", "tzinfo", "fold", "min", "max", "resolution"]
  | time =>
    ["isoformat", "strftime", "utcoffset", "tzname", "dst", "replace", "fromisoformat", "hour",
      "minute", "second", "microsecond", "tzinfo", "fold", "min", "max", "resolution"]
  | timedelta => ["total_seconds", "days", "seconds", "microseconds", "resolution", "min", "max"]
  | uuid => ["int", "is_safe"]
  | enum => ["name", "value"]
  | deque =>
    ["append", "appendleft", "clear", "copy", "count", "extend", "extendleft", "index", "insert",
      "pop", "popleft", "remove", "reverse", "rotate", "maxlen"]
  | counter => ["total", "most_common", "elements", "fromkeys", "update", "subtract", "copy"]
  | defaultdict => ["copy", "default_factory"]
  | orderedDict =>
    ["fromkeys", "setdefault", "pop", "popitem", "keys", "values", "items", "update", "clear",
      "copy", "move_to_end"]
  | generator => ["send", "throw", "close"]
  | sequence => ["index", "count"]
  | mutableSequence => ["insert", "append", "clear", "reverse", "extend", "pop", "remove"]
  | abstractSet => ["isdisjoint"]
  | mutableSet => ["add", "discard", "remove", "pop", "clear"]
  | mapping => ["get", "keys", "items", "values"]
  | mutableMapping => ["pop", "popitem", "clear", "update", "setdefault"]
  | _ => []

end Builtin

/-- A class: a predefined one, or one that a program declares. -/
inductive ClassRef where
  | builtin (b : Builtin)
  | declared (name : String)
deriving DecidableEq, Repr

def ClassRef.name : ClassRef → String
  | .builtin b => b.name
  | .declared name => name

/-- The module that declared classes are printed with. -/
def declaringModule : String := "m"

def ClassRef.module : ClassRef → String
  | .builtin b => b.module
  | .declared _ => declaringModule

/-- The name of a class with its module in front. -/
def ClassRef.qualifiedName (c : ClassRef) : String := c.module ++ "." ++ c.name

end Memberwise
