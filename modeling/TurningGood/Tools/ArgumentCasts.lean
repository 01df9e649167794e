import TurningGood.Foundation.Fallible
import TurningGood.Runtime.ToolCallRunner
import TurningGood.Tools.ArgumentSchemas

/-!
# Casting arguments is stable

Casting a value twice is casting it once, and a value that the check accepts
is left alone.  A call that was prepared without errors is therefore prepared
to itself.  The casts and checks are what the runner of tool calls needs of
the tools.
-/

namespace TurningGood.Tools

open TurningGood.Foundation
open TurningGood.Runtime

/-! ## Casting twice -/

section Casts

variable {conversions : ArgConversions}

variable {value : ArgValue} {schema : Schema} {path : String}

theorem castBoolean_cases (text : String) : (∃ value, castBoolean text = .bool value) ∨
      castBoolean text = .str text := by
  unfold castBoolean
  dsimp only
  split_ifs
  · exact .inl ⟨true, rfl⟩
  · exact .inl ⟨false, rfl⟩
  · exact .inr rfl

/-- A value that has no items and no members. -/
def ArgValue.isPlain : ArgValue → Bool
  | list _ => false
  | dict _ => false
  | _ => true

theorem castValue_of_isPlain (schema : Schema) (plain : value.isPlain = true) :
    castValue conversions schema value =
      castPlain conversions (expectedType schema) value := by
  cases value with
  | list items => cases plain
  | dict members => cases plain
  | none | bool | int | float | str => rw [castValue] <;> simp

theorem isPlain_castPlain (expected : ExpectedType) (plain : value.isPlain = true) :
    (castPlain conversions expected value).isPlain = true := by
  cases value with
  | list items => cases plain
  | dict members => cases plain
  | none | bool | int | float => cases expected <;> rfl
  | str text =>
    cases expected with
    | integer =>
      rw [castPlain]
      cases conversions.integer text <;> rfl
    | number =>
      rw [castPlain]
      cases conversions.number text <;> rfl
    | boolean =>
      rcases castBoolean_cases text with ⟨value, read⟩ | kept
      · rw [castPlain, read]
        rfl
      · rw [castPlain, kept]
        rfl
    | string | array | object | other | unhashable => rfl

theorem castPlain_castPlain (expected : ExpectedType) (value : ArgValue) :
    castPlain conversions expected (castPlain conversions expected value) =
      castPlain conversions expected value := by
  cases expected with
  | string => cases value <;> rfl
  | array | object | other | unhashable => rfl
  | integer =>
    cases value with
    | str text =>
      cases read : conversions.integer text with
      | none => simp only [castPlain, read, Option.map_none,
          Option.getD_none]
      | some value => simp only [castPlain, read, Option.map_some,
          Option.getD_some]
    | none | bool | int | float | list | dict => rfl
  | number =>
    cases value with
    | str text =>
      cases read : conversions.number text with
      | none => simp only [castPlain, read, Option.map_none,
          Option.getD_none]
      | some value => simp only [castPlain, read, Option.map_some,
          Option.getD_some]
    | none | bool | int | float | list | dict => rfl
  | boolean =>
    cases value with
    | str text =>
      rcases castBoolean_cases text with ⟨value, read⟩ | kept
      · rw [castPlain, read]
        rfl
      · rw [castPlain, kept, castPlain, kept]
    | none | bool | int | float | list | dict => rfl

theorem castValue_castValue_of_plain (plainly : castValue conversions schema value =
      castPlain conversions (expectedType schema) value) :
    castValue conversions schema (castValue conversions schema value) =
      castValue conversions schema value := by
  have kept : (castPlain conversions (expectedType schema) value).isPlain =
      true ∨ castPlain conversions (expectedType schema) value = value := by
    by_cases plain : value.isPlain = true
    · exact .inl (isPlain_castPlain _ plain)
    · cases value with
      | none | bool | int | float | str => exact absurd rfl plain
      | list | dict => cases expectedType schema <;> simp [castPlain,
          ArgValue.isPlain]
  rcases kept with plain | same
  · rw [plainly, castValue_of_isPlain schema plain, castPlain_castPlain]
  · rw [plainly, same, plainly, same]

mutual

theorem castValue_castValue (schema : Schema) : (value : ArgValue) →
    castValue conversions schema (castValue conversions schema value) =
      castValue conversions schema value
  | .list items => by
    by_cases expected : expectedType schema = .array
    · cases found : itemSchema? schema with
      | none =>
        apply castValue_castValue_of_plain
        rw [castValue, expected, found]
      | some itemSchema =>
        have once : ∀ items, castValue conversions schema (.list items) =
            .list (castItems conversions itemSchema items) := by
          intro items
          rw [castValue, expected, found]
        rw [once, once, castItems_castItems itemSchema items]
    · apply castValue_castValue_of_plain
      rw [castValue]
      split
      · next same _ => exact absurd same expected
      · rfl
  | .dict members => by
    by_cases expected : expectedType schema = .object
    · cases found : properties? schema with
      | none =>
        apply castValue_castValue_of_plain
        rw [castValue, expected, found]
      | some properties =>
        have once : ∀ members,
            castValue conversions schema (.dict members) =
              .dict (castMembers conversions properties members) := by
          intro members
          rw [castValue, expected, found]
        rw [once, once, castMembers_castMembers properties members]
    · apply castValue_castValue_of_plain
      rw [castValue]
      split
      · next same _ => exact absurd same expected
      · rfl
  | .none | .bool _ | .int _ | .float _ | .str _ =>
    castValue_castValue_of_plain (castValue_of_isPlain schema rfl)

theorem castItems_castItems (itemSchema : Schema) : (items : List ArgValue) →
    castItems conversions itemSchema
        (castItems conversions itemSchema items) =
      castItems conversions itemSchema items
  | [] => rfl
  | item :: rest => by
    rw [castItems, castItems, castValue_castValue itemSchema item,
      castItems_castItems itemSchema rest]

theorem castMembers_castMembers (properties : Schema) : (members : List (String × ArgValue)) →
    castMembers conversions properties
        (castMembers conversions properties members) =
      castMembers conversions properties members
  | [] => rfl
  | (key, value) :: rest => by
    rw [castMembers, castMembers, castMembers_castMembers properties rest]
    cases childSchema? properties key with
    | none => rfl
    | some child =>
      dsimp only
      rw [castValue_castValue child value]

end

theorem castArgs_castArgs (args : List (String × ArgValue)) (schema : Schema) :
    castArgs conversions (castArgs conversions args schema) schema =
      castArgs conversions args schema := by
  unfold castArgs
  cases properties? schema with
  | none => rfl
  | some properties => exact castMembers_castMembers properties args

/-! ## Casting what is accepted -/

theorem extendErrors_eq_nil {errors more : Except String (List String)} :
    extendErrors errors more = .ok [] ↔ errors = .ok [] ∧ more = .ok [] := by
  cases errors <;> cases more <;> simp [extendErrors]

theorem castPlain_of_hasType {expected : ExpectedType} (typed : hasType expected value = true) :
    castPlain conversions expected value = value := by
  cases expected <;> cases value <;> first | rfl | cases typed

theorem castPlain_none (expected : ExpectedType) :
    castPlain conversions expected .none = .none := by
  cases expected <;> rfl

theorem of_validateValue_eq_nil (valid : validateValue conversions schema path value = .ok []) :
    value = .none ∨ hasType (expectedType schema) value = true ∧
        (∀ items itemSchema, value = .list items → expectedType schema = .array →
          itemSchema? schema = some itemSchema →
          ∃ label, validateItems conversions itemSchema label 0 items =
            .ok []) ∧
        ∀ members properties, value = .dict members → expectedType schema = .object →
          properties? schema = some properties →
          validateMembers conversions properties path members = .ok [] := by
  unfold validateValue at valid
  dsimp only at valid
  split at valid
  · next nothing =>
      left
      cases value with
      | none => rfl
      | bool | int | float | str | list | dict => cases nothing
  · split at valid
    · cases valid
    · split at valid
      · cases valid
      · next untyped =>
          right
          have nested := (extendErrors_eq_nil.mp valid).2
          refine ⟨by simpa using untyped, ?_, ?_⟩
          · rintro items itemSchema rfl expected found
            simp only [expected, found] at nested
            exact ⟨_, nested⟩
          · rintro members properties rfl expected found
            simp only [expected, found] at nested
            exact (extendErrors_eq_nil.mp nested).2

mutual

theorem castValue_of_valid (schema : Schema) (path : String) : (value : ArgValue) →
    validateValue conversions schema path value = .ok [] →
    castValue conversions schema value = value
  | .list items, valid => by
    rcases of_validateValue_eq_nil valid with none | ⟨typed, inside, -⟩
    · cases none
    rw [castValue]
    split
    · next itemSchema expected found =>
        rcases inside items _ rfl expected found with ⟨label, valid⟩
        rw [castItems_of_valid _ label 0 items valid]
    · exact castPlain_of_hasType typed
  | .dict members, valid => by
    rcases of_validateValue_eq_nil valid with none | ⟨typed, -, inside⟩
    · cases none
    rw [castValue]
    split
    · next properties expected found =>
        rw [castMembers_of_valid _ path members (inside members _ rfl expected found)]
    · exact castPlain_of_hasType typed
  | .none, _ => castPlain_none _
  | .bool value, valid => by
    rcases of_validateValue_eq_nil valid with none | ⟨typed, -, -⟩
    · cases none
    · exact castPlain_of_hasType typed
  | .int value, valid => by
    rcases of_validateValue_eq_nil valid with none | ⟨typed, -, -⟩
    · cases none
    · exact castPlain_of_hasType typed
  | .float value, valid => by
    rcases of_validateValue_eq_nil valid with none | ⟨typed, -, -⟩
    · cases none
    · exact castPlain_of_hasType typed
  | .str text, valid => by
    rcases of_validateValue_eq_nil valid with none | ⟨typed, -, -⟩
    · cases none
    · exact castPlain_of_hasType typed

theorem castItems_of_valid (itemSchema : Schema) (label : String) :
    (index : Nat) → (items : List ArgValue) →
    validateItems conversions itemSchema label index items = .ok [] →
    castItems conversions itemSchema items = items
  | _, [], _ => rfl
  | index, item :: rest, valid => by
    rw [validateItems, extendErrors_eq_nil] at valid
    rw [castItems, castValue_of_valid _ _ item valid.1, castItems_of_valid _ _ _ rest valid.2]

theorem castMembers_of_valid (properties : Schema) (path : String) :
    (members : List (String × ArgValue)) →
    validateMembers conversions properties path members = .ok [] →
    castMembers conversions properties members = members
  | [], _ => rfl
  | (key, value) :: rest, valid => by
    rw [validateMembers, extendErrors_eq_nil] at valid
    rw [castMembers, castMembers_of_valid _ _ rest valid.2]
    cases child : childSchema? properties key with
    | none => rfl
    | some schema =>
      rw [child] at valid
      dsimp only at valid ⊢
      rw [castValue_of_valid _ _ value valid.1]

end

theorem castArgs_of_valid {args : List (String × ArgValue)}
    (valid : validateArgs conversions (.dict args) schema path = .ok []) :
    castArgs conversions args schema = args := by
  rw [validateArgs, extendErrors_eq_nil] at valid
  unfold castArgs
  cases found : properties? schema with
  | none => rfl
  | some properties =>
    rw [found, Option.getD_some] at valid
    exact castMembers_of_valid properties path args valid.2

/-! ## Errors have a text -/

/-- Errors none of which is empty. -/
def Texts (errors : Except String (List String)) : Prop := ∀ texts, errors = .ok texts → "" ∉ texts

theorem Texts.nil : Texts (.ok []) := by
  rintro _ ⟨⟩ member
  cases member

theorem Texts.raised (message : String) : Texts (.error message) := by
  rintro _ ⟨⟩

theorem Texts.one {message : String} (text : message ≠ "") :
    Texts (.ok [message]) := by
  rintro _ ⟨⟩ member
  exact text (List.mem_singleton.mp member).symm

theorem Texts.extend {errors more : Except String (List String)}
    (first : Texts errors) (second : Texts more) :
    Texts (extendErrors errors more) := by
  intro texts extended
  cases errors with
  | error raised => cases extended
  | ok texts =>
    cases more with
    | error raised => cases extended
    | ok others =>
      cases extended
      rw [List.mem_append, not_or]
      exact ⟨first texts rfl, second others rfl⟩

theorem boundError_texts {key : String}
    {violates : ArgValue → Except String Bool} {message : ArgValue → String}
    (text : ∀ bound, message bound ≠ "") :
    Texts (boundError schema key violates message) := by
  unfold boundError
  cases schema.get? key with
  | none => exact .nil
  | some bound =>
    dsimp only
    cases violates bound with
    | error raised => exact .raised raised
    | ok violated =>
      cases violated with
      | false => exact .nil
      | true => exact .one (text bound)

theorem rangeErrors_texts {number : ArgValue} {lowKey highKey : String}
    {lowMessage highMessage : String → String}
    (low : ∀ bound, lowMessage bound ≠ "")
    (high : ∀ bound, highMessage bound ≠ "") :
    Texts (rangeErrors conversions schema number lowKey highKey lowMessage
      highMessage) :=
  (boundError_texts fun _ => low _).extend (boundError_texts fun _ => high _)

theorem boundErrors_texts (schema : Schema) (label : String) (value : ArgValue) :
    Texts (boundErrors conversions schema label value) := by
  apply Texts.extend
  · apply boundError_texts
    simp
  · unfold typedErrors
    split
    · apply rangeErrors_texts <;> simp
    · apply rangeErrors_texts <;> simp
    · apply rangeErrors_texts <;> simp
    · apply rangeErrors_texts <;> simp
    · exact .nil

theorem missingErrors_texts (schema : Schema) (args : List (String × ArgValue)) :
    Texts (missingErrors conversions schema args) := by
  have ofKeys : ∀ keys, Texts (missingKeys conversions args keys) := by
    intro keys
    induction keys with
    | nil => exact .nil
    | cons key rest induction =>
      apply Texts.extend _ induction
      cases key.isIn (.dict args) with
      | error raised => exact .raised raised
      | ok present =>
        cases present with
        | true => exact .nil
        | false => exact .one (by simp)
  unfold missingErrors
  cases requiredKeys schema with
  | error raised => exact .raised raised
  | ok keys => exact ofKeys keys

theorem validateValue_texts_of (ofItems : ∀ items, value = .list items → ∀ itemSchema label,
      Texts (validateItems conversions itemSchema label 0 items))
    (ofMembers : ∀ members, value = .dict members → ∀ properties path,
      Texts (validateMembers conversions properties path members)) :
    Texts (validateValue conversions schema path value) := by
  unfold validateValue
  dsimp only
  split
  · exact .nil
  · split
    · exact .raised _
    · split
      · exact .one (by simp)
      · apply (boundErrors_texts schema _ value).extend
        split
        · split
          · exact ofItems _ rfl _ _
          · exact .nil
        · exact (missingErrors_texts schema _).extend (ofMembers _ rfl _ _)
        · exact .nil

mutual

theorem validateValue_texts (schema : Schema) (path : String) : (value : ArgValue) →
    Texts (validateValue conversions schema path value)
  | .list items =>
    validateValue_texts_of (fun _ same itemSchema label => by
        cases same
        exact validateItems_texts itemSchema label 0 items)
      (fun _ same => nomatch same)
  | .dict members =>
    validateValue_texts_of (fun _ same => nomatch same) (fun _ same properties path => by
        cases same
        exact validateMembers_texts properties path members)
  | .none | .bool _ | .int _ | .float _ | .str _ =>
    validateValue_texts_of (fun _ same => nomatch same) (fun _ same => nomatch same)

theorem validateItems_texts (itemSchema : Schema) (label : String) :
    (index : Nat) → (items : List ArgValue) →
    Texts (validateItems conversions itemSchema label index items)
  | _, [] => .nil
  | index, item :: rest =>
    (validateValue_texts itemSchema _ item).extend
      (validateItems_texts itemSchema label (index + 1) rest)

theorem validateMembers_texts (properties : Schema) (path : String) :
    (members : List (String × ArgValue)) →
    Texts (validateMembers conversions properties path members)
  | [] => .nil
  | (key, value) :: rest => by
    rw [validateMembers]
    apply Texts.extend _ (validateMembers_texts properties path rest)
    cases childSchema? properties key with
    | none => exact .nil
    | some child => exact validateValue_texts child _ value

end

theorem validateArgs_texts (args : ArgValue) (schema : Schema) (path : String) :
    Texts (validateArgs conversions args schema path) := by
  unfold validateArgs
  split
  · exact (missingErrors_texts schema _).extend (validateMembers_texts _ _ _)
  · exact .one (by simp)

/-! ## Prepared calls -/

variable (conversions)

/-- `tool.input_schema or {...}`. -/
def effectiveSchema (inputSchema : Schema) : Schema :=
  if inputSchema.isEmpty then
    [("type", .str "object"), ("properties", .dict [])]
  else
    inputSchema

/-- What the runner needs of tools that have schemas. -/
def schemaInterface {Tool : Type} (name : Tool → String)
    (parallelSafe approvalRequired : Tool → Bool)
    (inputSchema : Tool → Schema) :
    ToolInterface Tool (List (String × ArgValue)) where
  name := name
  parallelSafe := parallelSafe
  approvalRequired := approvalRequired
  normalize tool args :=
    let schema := effectiveSchema (inputSchema tool)
    let normalized := castArgs conversions args schema
    (validateArgs conversions (.dict normalized) schema "").map
      fun errors => (normalized, errors)
  errors_nonempty := by
    intro tool args normalized errors valid
    rcases map_eq_ok.mp valid with ⟨found, same, pair⟩
    cases pair
    exact validateArgs_texts _ _ _ _ same

/-- `ToolRegistry.prepare_call`, of any arguments. -/
def prepareCall {Tool : Type} (interface : ToolInterface Tool (List (String × ArgValue)))
    (tools : ToolRegistry Tool) (name : String) (args : ArgValue) :
    Except String (Option Tool × List (String × ArgValue) × Option String) :=
  match args with
  | .dict args => prepareRegistered interface tools name args
  | args =>
    .ok (none, [], some ("工具 " ++ name ++ " 参数必须是 object，实际是 " ++ args.typeName))

theorem prepareRegistered_again {Tool : Type} {name : Tool → String}
    {parallelSafe approvalRequired : Tool → Bool}
    {inputSchema : Tool → Schema} {tools : ToolRegistry Tool}
    {called : String} {args normalized : List (String × ArgValue)}
    {tool : Option Tool}
    (accepted : prepareRegistered (schemaInterface conversions name parallelSafe approvalRequired
        inputSchema) tools called args = .ok (tool, normalized, none)) :
    prepareRegistered (schemaInterface conversions name parallelSafe approvalRequired
          inputSchema) tools called normalized =
      .ok (tool, normalized, none) := by
  unfold prepareRegistered at accepted ⊢
  cases found : tools.get? called with
  | none =>
    rw [found] at accepted
    cases accepted
  | some registered =>
    rw [found] at accepted
    dsimp only [schemaInterface] at accepted ⊢
    cases valid : validateArgs conversions
        (.dict (castArgs conversions args
          (effectiveSchema (inputSchema registered))))
        (effectiveSchema (inputSchema registered)) "" with
    | error raised =>
      rw [valid] at accepted
      cases accepted
    | ok errors =>
      rw [valid] at accepted
      cases errors with
      | cons error rest => cases accepted
      | nil =>
        cases accepted
        rw [castArgs_castArgs, valid]
        rfl

/--
Casting is stable: twice is once, what the check accepts is left alone, and
arguments that a call was prepared with are prepared to themselves.
-/
theorem arguments_stable : (∀ args schema,
      castArgs conversions (castArgs conversions args schema) schema =
        castArgs conversions args schema) ∧
    (∀ args schema path, validateArgs conversions (.dict args) schema path = .ok [] →
        castArgs conversions args schema = args) ∧
    ∀ (Tool : Type) (name : Tool → String) (parallelSafe approvalRequired : Tool → Bool)
      (inputSchema : Tool → Schema) (tools : ToolRegistry Tool)
      (called : String) (args : ArgValue) (tool : Option Tool)
      (normalized : List (String × ArgValue)),
      let interface := schemaInterface conversions name parallelSafe
        approvalRequired inputSchema
      prepareCall interface tools called args = .ok (tool, normalized, none) →
        prepareCall interface tools called (.dict normalized) =
          .ok (tool, normalized, none) := by
  refine ⟨castArgs_castArgs, fun _ _ _ => castArgs_of_valid, ?_⟩
  intro Tool name parallelSafe approvalRequired inputSchema tools called args
    tool normalized interface accepted
  cases args with
  | dict args => exact prepareRegistered_again conversions accepted
  | none | bool | int | float | str | list => cases accepted

end Casts

/-- Conversions of numbers of one digit. -/
def digitConversions : ArgConversions where
  text _ := "value"
  integer text := if text = "7" then some 7 else none
  number text := if text = "7" then some (.finite 7) else none

/-- A tool with a number and an array of truth values. -/
def sampleSchema : Schema := [("type", .str "object"), ("properties", .dict
      [("count", .dict [("type", .list [.str "integer", .str "null"]), ("maximum", .int 9)]),
        ("flags", .dict [("type", .str "array"), ("items", .dict [("type", .str "boolean")])])]),
    ("required", .list [.str "count"])]

/-- Texts become a number and a truth value, and are accepted so again. -/
theorem arguments_stable_sample :
    let interface := schemaInterface digitConversions (fun _ => "count")
      (fun _ => true) (fun _ => false) (fun _ : Unit => sampleSchema)
    let tools : ToolRegistry Unit :=
      ⟨Dict.empty.insert "count" ()⟩
    let normalized : List (String × ArgValue) :=
      [("count", .int 7), ("flags", .list [.bool true])]
    castArgs digitConversions (castArgs digitConversions [("count", .str "7")] sampleSchema)
          sampleSchema =
        castArgs digitConversions [("count", .str "7")] sampleSchema ∧
      castArgs digitConversions normalized sampleSchema = normalized ∧
      prepareCall interface tools "count" (.dict normalized) =
        .ok (some (), normalized, none) :=
  ⟨(arguments_stable digitConversions).1 _ _, (arguments_stable digitConversions).2.1 _ _ "" rfl,
    (arguments_stable digitConversions).2.2 Unit _ _ _ _ _ "count"
      (.dict [("count", .str "7"), ("flags", .list [.str "Yes"])]) _ _ rfl⟩

end TurningGood.Tools
