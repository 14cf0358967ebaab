import Kro.Parser.Parser

namespace Kro

-- `spec.Schema` as a Go value. `OneOf` and `Properties` hold schema values, copied where they
-- are read; `AdditionalProperties.Schema` and `Items.Schema` are `*spec.Schema`, addresses of
-- schemas in the heap.
structure GoSchema where
  type : List String
  oneOf : List GoSchema
  properties : List (String × GoSchema)
  additionalProperties : Option (SchemaOrBool Nat)
  items : Option (SchemaOrArray Nat)
  extensions : List (String × Value)
  deriving Repr

namespace GoSchema

-- `spec.Schema{}`
def empty : GoSchema := ⟨[], [], [], none, none, []⟩

def additionalPropertiesAllowed (s : GoSchema) : Bool :=
  match s.additionalProperties with
  | some a => a.allows
  | none   => false

mutual

-- The schema tree a Go value stands for, its pointers read through `f`.
def toSchema (f : Nat → Schema) : GoSchema → Schema
  | ⟨type, oneOf, properties, additionalProperties, items, extensions⟩ =>
    ⟨type, toSchemas f oneOf, toProperties f properties,
      additionalProperties.map fun a => ⟨a.allows, a.schema.map f⟩,
      items.map fun i => ⟨i.schema.map f⟩, extensions⟩

def toSchemas (f : Nat → Schema) : List GoSchema → List Schema
  | [] => []
  | s :: ss => toSchema f s :: toSchemas f ss

def toProperties (f : Nat → Schema) : List (String × GoSchema) → List (String × Schema)
  | [] => []
  | (k, s) :: ps => (k, toSchema f s) :: toProperties f ps

end

end GoSchema

-- The schemas in Go memory, the one at address `p` being the `p`-th. Taking the address of a
-- value (`&fieldSchema`, `&spec.Schema{}`) appends it; nothing is freed.
def Heap : Type := List GoSchema

namespace Heap

def size (h : Heap) : Nat := List.length h

def read (h : Heap) (p : Nat) : GoSchema := List.getD h p GoSchema.empty

def write (h : Heap) (p : Nat) (s : GoSchema) : Heap := List.set h p s

def alloc (h : Heap) (s : GoSchema) : Heap := List.append h [s]

variable {h : Heap} {p q : Nat} {s : GoSchema}

theorem read_of_size_le (hp : h.size ≤ p) : h.read p = GoSchema.empty := by
  simp only [read, List.getD_eq_getElem?_getD, List.getElem?_eq_none hp, Option.getD_none]

@[simp] theorem size_write : (h.write p s).size = h.size := List.length_set _ _ _

theorem read_write_self (hp : p < h.size) : (h.write p s).read p = s := by
  simp only [read, write, List.getD_eq_getElem?_getD, List.getElem?_set_self hp, Option.getD_some]

theorem read_write_ne (hq : p ≠ q) : (h.write p s).read q = h.read q := by
  simp only [read, write, List.getD_eq_getElem?_getD, List.getElem?_set_ne hq]

@[simp] theorem write_read : h.write p (h.read p) = h := by
  unfold write
  by_cases hp : p < h.size
  · apply List.ext_getElem?
    intro q
    by_cases hq : p = q
    · subst hq
      rw [List.getElem?_set_self hp, read, List.getD_eq_getElem?_getD, List.getElem?_eq_getElem hp]
      rfl
    · exact List.getElem?_set_ne hq
  · exact List.set_eq_of_length_le (Nat.le_of_not_lt hp)

@[simp] theorem size_alloc : (h.alloc s).size = h.size + 1 := List.length_append _ _

theorem read_alloc_lt (hq : q < h.size) : (h.alloc s).read q = h.read q := by
  simp only [read, alloc, List.append_eq, List.getD_eq_getElem?_getD, List.getElem?_append_left hq]

@[simp] theorem read_alloc_size : (h.alloc s).read h.size = s := by
  simp [read, alloc, size, List.getD_eq_getElem?_getD]

end Heap

-- A call over Go memory: it reads and writes schemas, and returns, fails or panics, leaving
-- the heap as it is at that point.
abbrev HeapM := EStateM Failure Heap

namespace Heap

-- `*schema`
def deref (schema : Nat) : HeapM GoSchema := fun h => .ok (h.read schema) h

-- `*schema = s`
def assign (schema : Nat) (s : GoSchema) : HeapM Unit := fun h => .ok () (h.write schema s)

-- `&s` for a value `s` that escapes: a new address.
def new (s : GoSchema) : HeapM Nat := fun h => .ok h.size (h.alloc s)

-- `variable.FieldDescriptor`, whose `ExpectedSchema` is a `*spec.Schema`.
abbrev FieldDescriptor := FieldDescriptorOf Nat

-- `validateSchema` sets `schema.Type` in place, through the pointer it is given, which it
-- returns once checked.
def validateSchema : Option Nat → String → HeapM Nat
  | none, path => throw (.error (.schemaNil path))
  | some schema, _ => do
    let s ← deref schema
    if s.type.length != 1 then
      match s.oneOf with
      | [] => throw (.error (.notSingleType s.type))
      | alt :: _ =>
        match alt.type with
        | [] => throw (.panic (.indexOutOfRange 0 0))
        | t :: _ => assign schema { s with type := [t] }
    return schema

-- The functions that only read a schema take it as `*schema` reads it.
def getExpectedType (schema : GoSchema) : Except Failure String :=
  match schema.type with
  | [] => .error (.panic (.indexOutOfRange 0 0))
  | t :: _ =>
    if t != "" then .ok t
    else if schema.additionalPropertiesAllowed then .ok "any"
    else .ok ""

-- A property's schema is a copy of the map's value, whose address escapes.
def getFieldSchema (schema : Nat) (field : String) : HeapM (Except ParseError Nat) := do
  let s ← deref schema
  match s.properties.lookup field with
  | some fieldSchema => return .ok (← new fieldSchema)
  | none =>
    match s.additionalProperties with
    | some ⟨_, some additional⟩ => return .ok additional
    | some ⟨true, none⟩ => return .ok (← new GoSchema.empty)
    | _ => return .error (.schemaNotFound field)

def getArrayItemSchema (schema : Nat) (path : String) : HeapM (Except ParseError Nat) := do
  let s ← deref schema
  match s.items with
  | some ⟨some itemSchema⟩ => return .ok itemSchema
  | _ =>
    match s.items with
    | some ⟨some itemSchema⟩ =>
      if (← deref itemSchema).properties.length > 0 then
        return .ok (← new { GoSchema.empty with type := ["object"], properties := s.properties })
      else return .error (.invalidArraySchema path)
    | _ => return .error (.invalidArraySchema path)

-- `parseObject` reads only `AdditionalProperties.Allows` and `Extensions` of the schema value,
-- which the tree it stands for holds as they are, whatever its pointers are read as.
def parseObject.preserved (field : List (String × Value)) (schema : GoSchema) (path expectedType : String) :
    Except Failure Bool :=
  Kro.parseObject.preserved field (schema.toSchema fun _ => Schema.empty) path expectedType

def parseArray.itemSchema (field : List Value) (schema : Nat) (path expectedType : String) :
    HeapM Nat := do
  if expectedType != "array" then throw (.error (.expectedArray path (.array field)))
  match ← getArrayItemSchema schema path with
  | .ok itemSchema => return itemSchema
  | .error err => throw (.error err)

mutual

def parseResource : Value → Option Nat → String → HeapM (List FieldDescriptor)
  | resource, schema, path => do
    let schema ← validateSchema schema path
    let expectedType ← liftExcept (getExpectedType (← deref schema))
    match resource with
    | .object field =>
      if ← liftExcept (parseObject.preserved field (← deref schema) path expectedType) then return []
      parseObject.loop field schema path
    | .array field =>
      let itemSchema ← parseArray.itemSchema field schema path expectedType
      parseArray.loop field itemSchema path 0
    | .string field => liftExcept (parseStringOf field schema path expectedType)
    | .null => return []
    | field => liftExcept (parseScalarTypes field schema path expectedType)

def parseObject.loop : List (String × Value) → Nat → String → HeapM (List FieldDescriptor)
  | [], _, _ => return []
  | (fieldName, value) :: field, schema, path => do
    let fieldSchema ← match ← getFieldSchema schema fieldName with
      | .ok fieldSchema => pure fieldSchema
      | .error err => throw (.error (.fieldSchema (path ++ "." ++ fieldName) err))
    let fieldExpressions ← parseResource value (some fieldSchema) (joinPathAndFieldName path fieldName)
    let expressionsFields ← parseObject.loop field schema path
    return fieldExpressions ++ expressionsFields

def parseArray.loop : List Value → Nat → String → Nat → HeapM (List FieldDescriptor)
  | [], _, _, _ => return []
  | item :: field, itemSchema, path, i => do
    let itemExpressions ← parseResource item (some itemSchema) (itemPath path i)
    let expressionsFields ← parseArray.loop field itemSchema path (i + 1)
    return itemExpressions ++ expressionsFields

end

def ParseResource (resource : List (String × Value)) (resourceSchema : Option Nat) :
    HeapM (List FieldDescriptor) :=
  parseResource (.object resource) resourceSchema ""

end Heap

end Kro
