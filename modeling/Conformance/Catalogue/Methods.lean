/-!
# Methods of the standard vocabulary

Reading a method off a value gives a function that goes by the method's name. Only the names are
needed: which class of values has which methods.
-/

namespace Conformance.Catalogue

/-- The methods that texts and bytes share. -/
def commonTextMethods : List String :=
  ["capitalize", "center", "count", "endswith", "expandtabs", "find", "index", "isalnum",
   "isalpha", "isascii", "isdigit", "islower", "isspace", "istitle", "isupper", "join",
   "ljust", "lower", "lstrip", "maketrans", "partition", "removeprefix", "removesuffix",
   "replace", "rfind", "rindex", "rjust", "rpartition", "rsplit", "rstrip", "split",
   "splitlines", "startswith", "strip", "swapcase", "title", "translate", "upper", "zfill"]

def textMethods : List String :=
  commonTextMethods ++
    ["casefold", "encode", "format", "format_map", "isdecimal", "isidentifier", "isnumeric",
     "isprintable"]

def bytesMethods : List String :=
  commonTextMethods ++
    ["decode", "fromhex", "hex"]

/-- The methods that change or search a list. -/
def listMethods : List String :=
  ["append", "clear", "copy", "count", "extend", "index", "insert", "pop", "remove",
   "reverse", "sort"]

def tupleMethods : List String := ["count", "index"]

def queueMethods : List String :=
  ["append", "appendleft", "clear", "copy", "count", "extend", "extendleft", "index",
   "insert", "pop", "popleft", "remove", "reverse", "rotate"]

def bufferMethods : List String :=
  bytesMethods ++
    ["append", "clear", "copy", "extend", "insert", "pop", "remove", "reverse"]

def frozenSetMethods : List String :=
  ["copy", "difference", "intersection", "isdisjoint", "issubset", "issuperset",
   "symmetric_difference", "union"]

def setMethods : List String :=
  frozenSetMethods ++
    ["add", "clear", "difference_update", "discard", "intersection_update", "pop", "remove",
     "symmetric_difference_update", "update"]

def intMethods : List String :=
  ["as_integer_ratio", "bit_count", "bit_length", "conjugate", "from_bytes", "to_bytes"]

def floatMethods : List String :=
  ["as_integer_ratio", "conjugate", "fromhex", "hex", "is_integer"]

def complexMethods : List String := ["conjugate"]

def fractionMethods : List String :=
  ["as_integer_ratio", "conjugate", "from_decimal", "from_float", "limit_denominator"]

def decimalMethods : List String :=
  ["adjusted", "as_integer_ratio", "as_tuple", "canonical", "compare", "compare_signal",
   "compare_total", "compare_total_mag", "conjugate", "copy_abs", "copy_negate", "copy_sign",
   "exp", "fma", "from_float", "is_canonical", "is_finite", "is_infinite", "is_nan",
   "is_normal", "is_qnan", "is_signed", "is_snan", "is_subnormal", "is_zero", "ln", "log10",
   "logb", "logical_and", "logical_invert", "logical_or", "logical_xor", "max", "max_mag",
   "min", "min_mag", "next_minus", "next_plus", "next_toward", "normalize", "number_class",
   "quantize", "radix", "remainder_near", "rotate", "same_quantum", "scaleb", "shift", "sqrt",
   "to_eng_string", "to_integral", "to_integral_exact", "to_integral_value"]

def mappingMethods : List String :=
  ["clear", "copy", "fromkeys", "get", "items", "keys", "pop", "popitem", "setdefault",
   "update", "values"]

/-- The methods that a class defines itself, by its name. -/
def ownMethods : String → List String
  | "str" => textMethods
  | "bytes" => bytesMethods
  | "list" => listMethods
  | "tuple" => tupleMethods
  | "range" => tupleMethods
  | "bytearray" => bufferMethods
  | "set" => setMethods
  | "frozenset" => frozenSetMethods
  | "int" => intMethods
  | "float" => floatMethods
  | "complex" => complexMethods
  | "Decimal" => decimalMethods
  | "Fraction" => fractionMethods
  | "dict" => mappingMethods
  | "Mapping" => ["get", "items", "keys", "values"]
  | "Sequence" => ["count", "index"]
  | _ => []

/-- The methods that need no instance: read off a class they are complete. -/
def instanceFree : List String := ["from_bytes", "from_float", "fromhex", "fromkeys", "maketrans"]

/-- The classes whose methods are functions in their own right. -/
def composedClasses : List String := ["Fraction", "Mapping", "Sequence"]

end Conformance.Catalogue
