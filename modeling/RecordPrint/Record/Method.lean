import RecordPrint.Value

/-!
# Operations of built-in types

Values of built-in types have attributes that are operations or bounds of their type. An operation is a
value of a type of its own, of which nothing but the name of the type is known.
-/

namespace RecordPrint

namespace Value

def operationType : Text := "builtin_function_or_method"

/-- The operations of paths have another type than those of other values. -/
def pathOperationType : Text := "method"

/-- The names of the operations of a type, with blanks in between. -/
def operationNames : List (String × String) :=
  [("str", "capitalize casefold center count encode endswith expandtabs find format format_map index " ++
      "isalnum isalpha isascii isdecimal isdigit isidentifier islower isnumeric isprintable isspace " ++
      "istitle isupper join ljust lower lstrip maketrans partition removeprefix removesuffix replace " ++
      "rfind rindex rjust rpartition rsplit rstrip split splitlines startswith strip swapcase title " ++
      "translate upper zfill"),
    ("bool", "as_integer_ratio bit_count bit_length conjugate from_bytes to_bytes"),
    ("int", "as_integer_ratio bit_count bit_length conjugate from_bytes to_bytes"),
    ("float", "as_integer_ratio conjugate fromhex hex is_integer"),
    ("list", "append clear copy count extend index insert pop remove reverse sort"),
    ("tuple", "count index"),
    ("set", "add clear copy difference difference_update discard intersection intersection_update " ++
      "isdisjoint issubset issuperset pop remove symmetric_difference symmetric_difference_update " ++
      "union update"),
    ("frozenset", "copy difference intersection isdisjoint issubset issuperset symmetric_difference " ++
      "union"),
    ("date", "ctime fromisocalendar fromisoformat fromordinal fromtimestamp isocalendar isoformat " ++
      "isoweekday replace strftime timetuple today toordinal weekday"),
    ("datetime", "astimezone combine ctime date dst fromisocalendar fromisoformat fromordinal " ++
      "fromtimestamp isocalendar isoformat isoweekday now replace strftime strptime time timestamp " ++
      "timetuple timetz today toordinal tzname utcfromtimestamp utcnow utcoffset utctimetuple weekday"),
    ("timedelta", "total_seconds"),
    ("time", "dst fromisoformat isoformat replace strftime tzname utcoffset"),
    ("PurePosixPath", "as_posix as_uri is_absolute is_relative_to is_reserved joinpath match " ++
      "relative_to with_name with_stem with_suffix"),
    ("PureWindowsPath", "as_posix as_uri is_absolute is_relative_to is_reserved joinpath match " ++
      "relative_to with_name with_stem with_suffix"),
    ("bytes", "capitalize center count decode endswith expandtabs find fromhex hex index isalnum " ++
      "isalpha isascii isdigit islower isspace istitle isupper join ljust lower lstrip maketrans " ++
      "partition removeprefix removesuffix replace rfind rindex rjust rpartition rsplit rstrip split " ++
      "splitlines startswith strip swapcase title translate upper zfill"),
    ("bytearray", "append capitalize center clear copy count decode endswith expandtabs extend find " ++
      "fromhex hex index insert isalnum isalpha isascii isdigit islower isspace istitle isupper join " ++
      "ljust lower lstrip maketrans partition pop remove removeprefix removesuffix replace reverse " ++
      "rfind rindex rjust rpartition rsplit rstrip split splitlines startswith strip swapcase title " ++
      "translate upper zfill"),
    ("Decimal", "adjusted as_integer_ratio as_tuple canonical compare compare_signal compare_total " ++
      "compare_total_mag conjugate copy_abs copy_negate copy_sign exp fma from_float is_canonical " ++
      "is_finite is_infinite is_nan is_normal is_qnan is_signed is_snan is_subnormal is_zero ln log10 " ++
      "logb logical_and logical_invert logical_or logical_xor max max_mag min min_mag next_minus " ++
      "next_plus next_toward normalize number_class quantize radix remainder_near rotate " ++
      "same_quantum scaleb shift sqrt to_eng_string to_integral to_integral_exact to_integral_value"),
    ("complex", "conjugate"),
    ("range", "count index"),
    ("deque", "append appendleft clear copy count extend extendleft index insert pop popleft remove " ++
      "reverse rotate")]

/-- The types whose values lie between two bounds. -/
def boundedTypes : List Text := ["date", "datetime", "time", "timedelta"]

def isPathType (type : Text) : Bool := type = ("PurePosixPath" : Text) || type = ("PureWindowsPath" : Text)

/-- An operation or a bound of a built-in type. -/
def operation? (type name : Text) : Option Value :=
  match operationNames.find? fun o => Text.ofString o.1 = type with
  | none => none
  | some (_, names) =>
    if (Text.splitOnPoint (.char ' ') names).contains name then
      some (.foreign (if isPathType type then pathOperationType else operationType))
    else if boundedTypes.contains type then
      if name = ("min" : Text) ∨ name = ("max" : Text) then some (.foreign type)
      else if name = ("resolution" : Text) then some (.foreign "timedelta")
      else none
    else if type = ("Decimal" : Text) then
      if name = ("real" : Text) ∨ name = ("imag" : Text) then some (.foreign type) else none
    else if isPathType type then
      if name = ("parent" : Text) then some (.foreign type)
      else if name = ("parents" : Text) then some (.foreign "_PathParents")
      else if name = ("parts" : Text) then some (.foreign "tuple")
      else none
    else none

end Value

end RecordPrint
