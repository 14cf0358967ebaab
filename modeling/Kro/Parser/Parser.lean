import Kro.Parser.Path

namespace Kro

def xKubernetesPreserveUnknownFields : String := "x-kubernetes-preserve-unknown-fields"

-- A schema that passed `validateSchema`: its `Type` has exactly one entry.
structure ValidatedSchema where
  schema : Schema
  type : String
  type_eq : schema.type = [type]

-- A schema whose `Type` is not a single entry takes the first type of its first `OneOf`
-- alternative, which Go indexes unchecked.
def validateSchema : Option Schema → String → Except Failure ValidatedSchema
  | none, path => .error (.error (.schemaNil path))
  | some schema, _ =>
    match h : schema.type with
    | [t] => .ok ⟨schema, t, h⟩
    | _ =>
      match schema.oneOf with
      | [] => .error (.error (.notSingleType schema.type))
      | alt :: _ =>
        match alt.type with
        | []    => .error (.panic (.indexOutOfRange 0 0))
        | t :: _ => .ok ⟨{ schema with type := [t] }, t, rfl⟩

def getExpectedType (schema : ValidatedSchema) : String :=
  if schema.type != "" then schema.type
  else if schema.schema.additionalPropertiesAllowed then "any"
  else ""

def getFieldSchema (schema : Schema) (field : String) : Except ParseError Schema :=
  match schema.properties.lookup field with
  | some fieldSchema => .ok fieldSchema
  | none =>
    match schema.additionalProperties with
    | some ⟨_, some additional⟩ => .ok additional
    | some ⟨true, none⟩ => .ok Schema.empty
    | _ => .error (.schemaNotFound field)

-- The second branch repeats the guard of the first and is never taken.
def getArrayItemSchema (schema : Schema) (path : String) : Except ParseError Schema :=
  match schema.items with
  | some ⟨some itemSchema⟩ => .ok itemSchema
  | _ =>
    match schema.items with
    | some ⟨some itemSchema⟩ =>
      if itemSchema.properties.length > 0 then
        .ok { Schema.empty with type := ["object"], properties := schema.properties }
      else .error (.invalidArraySchema path)
    | _ => .error (.invalidArraySchema path)

def isInteger : Value → Bool
  | .int _ | .int64 _ | .int32 _ => true
  | _ => false

-- parseString, for a schema held as a `σ`: the tree itself, or its address in Go memory.
def parseStringOf {σ : Type} (field : String) (schema : σ) (path expectedType : String) :
    Except Failure (List (FieldDescriptorOf σ)) := do
  let ok ← (isStandaloneExpression field).mapError .error
  if ok then
    return [{ expressions := [Go.trim field "$\x7b\x7d"], expectedType,
              expectedSchema := some schema, path, standaloneExpression := true }]
  if expectedType != "string" && expectedType != "any" then
    throw (.error (.expectedString path field))
  let expressions ← (extractExpressions field).mapError .error
  if expressions.length > 0 then
    return [{ expressions, expectedType, expectedSchema := none, path, standaloneExpression := false }]
  return []

def parseString (field : String) (schema : ValidatedSchema) (path expectedType : String) :
    Except Failure (List FieldDescriptor) :=
  parseStringOf field schema.schema path expectedType

-- It reads neither the schema nor returns a descriptor, so it serves both models as it is.
def parseScalarTypes {σ α : Type} (field : Value) (_ : σ) (path expectedType : String) :
    Except Failure (List α) :=
  if expectedType = "any" then .ok []
  else
    match expectedType, field with
    | "number", .float64 _ => .ok []
    | "number", _ => .error (.error (.expectedScalarType "number" path field.typeName))
    | "integer", _ =>
      if isInteger field then .ok []
      else .error (.error (.expectedScalarType "integer" path field.typeName))
    | "boolean", .bool _ => .ok []
    | "boolean", _ => .error (.error (.expectedScalarType "boolean" path field.typeName))
    | _, _ => .error (.error (.unexpectedType path field.typeName))

-- parseObject up to its loop: the type check, then whether the schema preserves unknown
-- fields, in which case the object is not looked into.
def parseObject.preserved (field : List (String × Value)) (schema : Schema)
    (path expectedType : String) : Except Failure Bool :=
  if expectedType != "object" && !schema.additionalPropertiesAllowed then
    .error (.error (.expectedObject path (.object field)))
  else if schema.extensions.length > 0 then
    match schema.extensions.lookup xKubernetesPreserveUnknownFields with
    | some (.bool enabled) => .ok enabled
    | some enabled => .error (.panic (.interfaceConversion enabled.typeName "bool"))
    | none => .ok false
  else .ok false

-- parseArray up to its loop: the type check and the item schema.
def parseArray.itemSchema (field : List Value) (schema : Schema) (path expectedType : String) :
    Except Failure Schema :=
  if expectedType != "array" then .error (.error (.expectedArray path (.array field)))
  else (getArrayItemSchema schema path).mapError .error

mutual

def parseResource : Value → Option Schema → String → Except Failure (List FieldDescriptor)
  | resource, schema, path => do
    let schema ← validateSchema schema path
    let expectedType := getExpectedType schema
    match resource with
    | .object field =>
      if ← parseObject.preserved field schema.schema path expectedType then return []
      parseObject.loop field schema.schema path
    | .array field =>
      let itemSchema ← parseArray.itemSchema field schema.schema path expectedType
      parseArray.loop field itemSchema path 0
    | .string field => parseString field schema path expectedType
    | .null => return []
    | field => parseScalarTypes field schema path expectedType

-- The loop of parseObject over the map's entries.
def parseObject.loop : List (String × Value) → Schema → String → Except Failure (List FieldDescriptor)
  | [], _, _ => .ok []
  | (fieldName, value) :: field, schema, path => do
    let fieldSchema ← (getFieldSchema schema fieldName).mapError
      fun err => .error (.fieldSchema (path ++ "." ++ fieldName) err)
    let fieldExpressions ← parseResource value (some fieldSchema) (joinPathAndFieldName path fieldName)
    let expressionsFields ← parseObject.loop field schema path
    return fieldExpressions ++ expressionsFields

-- The loop of parseArray over the items.
def parseArray.loop : List Value → Schema → String → Nat → Except Failure (List FieldDescriptor)
  | [], _, _, _ => .ok []
  | item :: field, itemSchema, path, i => do
    let itemExpressions ← parseResource item (some itemSchema) (itemPath path i)
    let expressionsFields ← parseArray.loop field itemSchema path (i + 1)
    return itemExpressions ++ expressionsFields

end

def parseObject (field : List (String × Value)) (schema : Schema) (path expectedType : String) :
    Except Failure (List FieldDescriptor) := do
  if ← parseObject.preserved field schema path expectedType then return []
  parseObject.loop field schema path

def parseArray (field : List Value) (schema : Schema) (path expectedType : String) :
    Except Failure (List FieldDescriptor) := do
  let itemSchema ← parseArray.itemSchema field schema path expectedType
  parseArray.loop field itemSchema path 0

def ParseResource (resource : List (String × Value)) (resourceSchema : Option Schema) :
    Except Failure (List FieldDescriptor) :=
  parseResource (.object resource) resourceSchema ""

end Kro

namespace Kro

section validateSchema

variable {schema : Schema} {path : String} {vs : ValidatedSchema}

theorem validateSchema_some_path (path' : String) :
    validateSchema (some schema) path = validateSchema (some schema) path' := rfl

-- Validation only ever rewrites `Type`.
theorem validateSchema_ok (h : validateSchema (some schema) path = .ok vs) :
    vs.schema = { schema with type := [vs.type] } := by
  simp only [validateSchema] at h
  split at h
  · next t ht => cases h; cases schema; cases ht; rfl
  · split at h
    · cases h
    · split at h
      · cases h
      · cases h; rfl

end validateSchema

@[simp] theorem getFieldSchema_withType (s : Schema) (ts : List String) (field : String) :
    getFieldSchema { s with type := ts } field = getFieldSchema s field := rfl

@[simp] theorem getArrayItemSchema_withType (s : Schema) (ts : List String) (path : String) :
    getArrayItemSchema { s with type := ts } path = getArrayItemSchema s path := rfl

-- The fallback branch of `getArrayItemSchema` is dead.
theorem getArrayItemSchema_eq (s : Schema) (path : String) :
    getArrayItemSchema s path =
      match s.items with
      | some ⟨some itemSchema⟩ => .ok itemSchema
      | _ => .error (.invalidArraySchema path) := by
  unfold getArrayItemSchema
  split <;> simp_all

theorem parseScalarTypes_integer {σ α : Type} {field : Value} (h : isInteger field) (schema : σ)
    (path : String) : (parseScalarTypes field schema path "integer" : Except Failure (List α)) = .ok [] := by
  cases field <;> simp_all [isInteger] <;> rfl

section parseResource

variable {schema : Option Schema} {path : String} {vs : ValidatedSchema}

theorem parseResource_error {f : Failure} (h : validateSchema schema path = .error f) (v : Value) :
    parseResource v schema path = .error f := by
  rw [parseResource, h]; rfl

variable (h : validateSchema schema path = .ok vs)
include h

theorem parseResource_object (field : List (String × Value)) :
    parseResource (.object field) schema path =
      parseObject field vs.schema path (getExpectedType vs) := by
  rw [parseResource, h]; rfl

theorem parseResource_array (field : List Value) :
    parseResource (.array field) schema path =
      parseArray field vs.schema path (getExpectedType vs) := by
  rw [parseResource, h]; rfl

theorem parseResource_string (field : String) :
    parseResource (.string field) schema path = parseString field vs path (getExpectedType vs) := by
  rw [parseResource, h]; rfl

theorem parseResource_null : parseResource .null schema path = .ok [] := by
  rw [parseResource, h]; rfl

theorem parseResource_scalar {field : Value}
    (hf : ∀ fs xs s, field ≠ .object fs ∧ field ≠ .array xs ∧ field ≠ .string s ∧ field ≠ .null) :
    parseResource field schema path = parseScalarTypes field vs path (getExpectedType vs) := by
  rw [parseResource, h]
  cases field <;> simp at hf <;> rfl

end parseResource

end Kro
