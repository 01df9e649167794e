import Mathlib.Data.List.Infix
import TurningGood.Foundation.Text

/-!
# Arguments and their schemas

The arguments of a tool call are cast as far as the JSON schema of the tool
names types, and are then checked against it.  Both walk over the values with
the schema beside them.  A schema is a value itself, and nothing says that it
is well formed; comparisons with odd parts of it raise.
-/

namespace TurningGood.Tools

open TurningGood.Foundation

/-! ## Values -/

/-- A `float`; of a finite one the number. -/
inductive FloatValue where
  | finite (value : Rat)
  | infinity
  | negativeInfinity
  | nan
  deriving DecidableEq

/-- A value that was read from JSON. -/
inductive ArgValue where
  | none
  | bool (value : Bool)
  | int (value : Int)
  | float (value : FloatValue)
  | str (text : String)
  | list (items : List ArgValue)
  | dict (members : List (String × ArgValue))

/-- A schema, which is a dictionary itself. -/
abbrev Schema := List (String × ArgValue)

/-- `schema.get(key)`. -/
def Schema.get? (schema : Schema) (key : String) : Option ArgValue :=
  (schema.find? (·.1 = key)).map (·.2)

/-- `str`, `int` and `float` of what is no text or no number yet. -/
structure ArgConversions where
  text : ArgValue → String
  integer : String → Option Int
  number : String → Option FloatValue

/-- `type(value).__name__`. -/
def ArgValue.typeName : ArgValue → String
  | none => "NoneType"
  | bool _ => "bool"
  | int _ => "int"
  | float _ => "float"
  | str _ => "str"
  | list _ => "list"
  | dict _ => "dict"

/-- `str(value)`. -/
def ArgConversions.str (conversions : ArgConversions) : ArgValue → String
  | .str text => text
  | value => conversions.text value

/-- `value is None`. -/
def ArgValue.isNone : ArgValue → Bool
  | none => true
  | _ => false

/-- `bool(value)`. -/
def ArgValue.truth : ArgValue → Bool
  | none => false
  | bool value => value
  | int value => value ≠ 0
  | float value => value ≠ .finite 0
  | str text => text ≠ ""
  | list items => !items.isEmpty
  | dict members => !members.isEmpty

/-- The number of a value, of which truth values are some, too. -/
def ArgValue.number? : ArgValue → Option FloatValue
  | bool value => some (.finite (if value then 1 else 0))
  | int value => some (.finite value)
  | float value => some value
  | _ => Option.none

/-- `<` of numbers. -/
def FloatValue.isBelow : FloatValue → FloatValue → Bool
  | finite left, finite right => left < right
  | finite _, infinity => true
  | negativeInfinity, finite _ => true
  | negativeInfinity, infinity => true
  | _, _ => false

/-- `==` of numbers. -/
def FloatValue.same : FloatValue → FloatValue → Bool
  | nan, nan => false
  | left, right => left = right

/-- `left < right`, which raises for other values. -/
def ArgValue.isBelow (left right : ArgValue) : Except String Bool :=
  match left.number?, right.number? with
  | some first, some second => .ok (first.isBelow second)
  | _, _ => .error "TypeError"

mutual

/-- `left == right`. -/
def ArgValue.equals : ArgValue → ArgValue → Bool
  | .none, .none => true
  | .str left, .str right => left = right
  | .list left, .list right => equalItems left right
  | .dict left, .dict right =>
    left.length = right.length && equalMembers left right
  | left, right =>
    match left.number?, right.number? with
    | some first, some second => first.same second
    | _, _ => false

/-- The items of two lists are equal. -/
def equalItems : List ArgValue → List ArgValue → Bool
  | [], [] => true
  | left :: rest, right :: others =>
    left.equals right && equalItems rest others
  | _, _ => false

/-- The members are among the others. -/
def equalMembers : List (String × ArgValue) → List (String × ArgValue) → Bool
  | [], _ => true
  | (key, value) :: rest, others =>
    (match (others.find? (·.1 = key)).map (·.2) with
      | some other => value.equals other
      | Option.none => false) &&
    equalMembers rest others

end

/-- A value that may be a key. -/
def ArgValue.hashable : ArgValue → Bool
  | list _ => false
  | dict _ => false
  | _ => true

/-- `value in container`. -/
def ArgValue.isIn (value : ArgValue) : ArgValue → Except String Bool
  | list items => .ok (items.any value.equals)
  | str text =>
    match value with
    | str part => .ok (decide (part.toList <:+: text.toList))
    | _ => .error "TypeError"
  | dict members =>
    if value.hashable then
      .ok (members.any fun member => value.equals (str member.1))
    else
      .error "TypeError"
  | _ => .error "TypeError"

/-! ## Casts -/

/-- `schema_type`. -/
def schemaType (schema : Schema) : ArgValue :=
  match schema.get? "type" with
  | some (.list items) =>
    (items.find? fun item => !item.equals (.str "null")).getD .none
  | some rawType => rawType
  | none => .none

/-- What the type of a schema is compared with, and looked up in. -/
inductive ExpectedType where
  | string
  | integer
  | number
  | boolean
  | array
  | object
  /-- no key of `_JSON_TYPE_MAP` -/
  | other
  /-- not even a value that may be a key -/
  | unhashable
  deriving DecidableEq

/-- The comparisons with `schema_type(schema)`. -/
def expectedType (schema : Schema) : ExpectedType :=
  match schemaType schema with
  | .str "string" => .string
  | .str "integer" => .integer
  | .str "number" => .number
  | .str "boolean" => .boolean
  | .str "array" => .array
  | .str "object" => .object
  | rawType => if rawType.hashable then .other else .unhashable

/-- `schema.get("items")`, if it is a schema. -/
def itemSchema? (schema : Schema) : Option Schema :=
  match schema.get? "items" with
  | some (.dict items) => some items
  | _ => none

/-- `schema.get("properties", {})`, if it is a dictionary. -/
def properties? (schema : Schema) : Option Schema :=
  match schema.get? "properties" with
  | some (.dict properties) => some properties
  | some _ => none
  | none => some []

/-- `properties.get(key)`, if it is a schema. -/
def childSchema? (properties : Schema) (key : String) : Option Schema :=
  match properties.get? key with
  | some (.dict child) => some child
  | _ => none

/-- A text where a truth value is expected. -/
def castBoolean (text : String) : ArgValue :=
  let lowered := Text.lower text
  if lowered ∈ ["true", "1", "yes"] then .bool true
  else if lowered ∈ ["false", "0", "no"] then .bool false
  else .str text

section Casts

variable (conversions : ArgConversions)

/-- The branches of `cast_value` that do not look into the value. -/
def castPlain : ExpectedType → ArgValue → ArgValue
  | .string, .none => .none
  | .string, value => .str (conversions.str value)
  | .integer, .str text =>
    ((conversions.integer text).map .int).getD (.str text)
  | .number, .str text =>
    ((conversions.number text).map .float).getD (.str text)
  | .boolean, .str text => castBoolean text
  | _, value => value

mutual

/-- `cast_value`. -/
def castValue (schema : Schema) : ArgValue → ArgValue
  | .list items =>
    match expectedType schema, itemSchema? schema with
    | .array, some itemSchema => .list (castItems itemSchema items)
    | expected, _ => castPlain conversions expected (.list items)
  | .dict members =>
    match expectedType schema, properties? schema with
    | .object, some properties => .dict (castMembers properties members)
    | expected, _ => castPlain conversions expected (.dict members)
  | value => castPlain conversions (expectedType schema) value

/-- The items of an array. -/
def castItems (itemSchema : Schema) : List ArgValue → List ArgValue
  | [] => []
  | item :: rest =>
    castValue itemSchema item :: castItems itemSchema rest

/-- The members of an object. -/
def castMembers (properties : Schema) : List (String × ArgValue) → List (String × ArgValue)
  | [] => []
  | (key, value) :: rest =>
    (key,
      match childSchema? properties key with
      | some child => castValue child value
      | none => value) ::
    castMembers properties rest

end

/-- `cast_args`. -/
def castArgs (args : List (String × ArgValue)) (schema : Schema) :
    List (String × ArgValue) :=
  match properties? schema with
  | some properties => castMembers conversions properties args
  | none => args

/-! ## Checks -/

/-- `nullable`, of a schema. -/
def nullable (schema : Schema) : Bool := ((schema.get? "nullable").map ArgValue.truth).getD false ||
    match schema.get? "type" with
    | some (.list items) => items.any fun item => item.equals (.str "null")
    | _ => false

/-- `isinstance` with the types of `_JSON_TYPE_MAP`. -/
def hasType : ExpectedType → ArgValue → Bool
  | .string, .str _ => true
  | .integer, .int _ => true
  | .number, .int _ => true
  | .number, .float _ => true
  | .boolean, .bool _ => true
  | .array, .list _ => true
  | .object, .dict _ => true
  | .other, _ => true
  | _, _ => false

/-- The name of an expected type in an error. -/
def ExpectedType.name : ExpectedType → String
  | string => "string"
  | integer => "integer"
  | number => "number"
  | boolean => "boolean"
  | array => "array"
  | object => "object"
  | other => ""
  | unhashable => ""

/-- `errors.extend(...)`, where either part may raise. -/
def extendErrors (errors more : Except String (List String)) :
    Except String (List String) :=
  match errors, more with
  | .ok first, .ok second => .ok (first ++ second)
  | .ok _, .error raised => .error raised
  | .error raised, _ => .error raised

/-- An error if a comparison with a bound of the schema holds. -/
def boundError (schema : Schema) (key : String) (violates : ArgValue → Except String Bool)
    (message : ArgValue → String) : Except String (List String) :=
  match schema.get? key with
  | none => .ok []
  | some bound =>
    (violates bound).map fun violated =>
      if violated then [message bound] else []

/-- The errors of a number that has bounds in the schema. -/
def rangeErrors (schema : Schema) (number : ArgValue)
    (lowKey highKey : String) (lowMessage highMessage : String → String) :
    Except String (List String) :=
  extendErrors (boundError schema lowKey (fun bound => number.isBelow bound)
      fun bound => lowMessage (conversions.str bound))
    (boundError schema highKey (fun bound => bound.isBelow number)
      fun bound => highMessage (conversions.str bound))

/-- The bounds that the schema has for a value of the expected type. -/
def typedErrors (schema : Schema) (label : String) (value : ArgValue) :
    Except String (List String) :=
  match expectedType schema, value with
  | .integer, value | .number, value =>
    rangeErrors conversions schema value "minimum" "maximum"
      (fun bound => label ++ " must be >= " ++ bound)
      fun bound => label ++ " must be <= " ++ bound
  | .string, .str text =>
    rangeErrors conversions schema (.int text.length) "minLength"
      "maxLength"
      (fun bound => label ++ " must be at least " ++ bound ++ " chars")
      fun bound => label ++ " must be at most " ++ bound ++ " chars"
  | .array, .list items =>
    rangeErrors conversions schema (.int items.length) "minItems"
      "maxItems"
      (fun bound => label ++ " must have at least " ++ bound ++ " items")
      fun bound => label ++ " must be at most " ++ bound ++ " items"
  | _, _ => .ok []

/-- The errors of a value of the expected type, without nested ones. -/
def boundErrors (schema : Schema) (label : String) (value : ArgValue) :
    Except String (List String) :=
  extendErrors (boundError schema "enum" (fun choices => (value.isIn choices).map not)
      fun choices =>
        label ++ " must be one of " ++ conversions.str choices)
    (typedErrors conversions schema label value)

/-- The keys that a schema requires. -/
def requiredKeys (schema : Schema) : Except String (List ArgValue) :=
  match schema.get? "required" with
  | none => .ok []
  | some (.list keys) => .ok keys
  | some (.str text) =>
    .ok (text.toList.map fun char => .str (String.singleton char))
  | some (.dict members) => .ok (members.map fun member => .str member.1)
  | some _ => .error "TypeError"

/-- The errors of keys that are missing. -/
def missingKeys (args : List (String × ArgValue)) : List ArgValue → Except String (List String)
  | [] => .ok []
  | key :: rest =>
    extendErrors ((key.isIn (.dict args)).map fun present =>
        if present then []
        else ["missing required " ++ conversions.str key])
      (missingKeys args rest)

/-- The errors of the required keys. -/
def missingErrors (schema : Schema) (args : List (String × ArgValue)) :
    Except String (List String) := do
  let required ← requiredKeys schema
  missingKeys conversions args required

mutual

/-- `validate_value`: an exception, or the errors. -/
def validateValue (schema : Schema) (path : String) (value : ArgValue) :
    Except String (List String) :=
  let label := if path = "" then "parameter" else path
  let expected := expectedType schema
  if value.isNone && nullable schema then
    .ok []
  else if expected = .unhashable then
    .error "TypeError"
  else if !hasType expected value then
    .ok [label ++ " should be " ++ expected.name]
  else
    extendErrors (boundErrors conversions schema label value)
      (match expected, value with
        | .array, .list items =>
          match itemSchema? schema with
          | some itemSchema => validateItems itemSchema label 0 items
          | none => .ok []
        | .object, .dict members =>
          extendErrors (missingErrors conversions schema members)
            (validateMembers ((properties? schema).getD []) path members)
        | _, _ => .ok [])

/-- The items of an array, from an index on. -/
def validateItems (itemSchema : Schema) (label : String) :
    Nat → List ArgValue → Except String (List String)
  | _, [] => .ok []
  | index, item :: rest =>
    extendErrors (validateValue itemSchema (label ++ "[" ++ toString index ++ "]") item)
      (validateItems itemSchema label (index + 1) rest)

/-- The members of an object. -/
def validateMembers (properties : Schema) (path : String) :
    List (String × ArgValue) → Except String (List String)
  | [] => .ok []
  | (key, value) :: rest =>
    extendErrors
      (match childSchema? properties key with
        | some child =>
          validateValue child
            (if path = "" then key else path ++ "." ++ key) value
        | none => .ok [])
      (validateMembers properties path rest)

end

/-- `validate_args`. -/
def validateArgs (args : ArgValue) (schema : Schema) (path : String) :
    Except String (List String) :=
  match args with
  | .dict members =>
    extendErrors (missingErrors conversions schema members)
      (validateMembers conversions ((properties? schema).getD []) path
        members)
  | args => .ok ["parameters must be object, got " ++ args.typeName]

end Casts

end TurningGood.Tools
