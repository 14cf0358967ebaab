import Mathlib.Data.List.Basic

namespace Kro

instance decEqExcept {ε α : Type} [DecidableEq ε] [DecidableEq α] : DecidableEq (Except ε α)
  | .ok a, .ok b =>
    if h : a = b then isTrue (h ▸ rfl) else isFalse fun e => h (Except.ok.inj e)
  | .error a, .error b =>
    if h : a = b then isTrue (h ▸ rfl) else isFalse fun e => h (Except.error.inj e)
  | .ok _, .error _ => isFalse nofun
  | .error _, .ok _ => isFalse nofun

section Except

variable {ε ε' α β : Type} {x : Except ε α} {f : α → Except ε β} {b : β}

@[simp] theorem except_ok_bind (a : α) : (Except.ok a >>= f) = f a := rfl

@[simp] theorem except_error_bind (e : ε) : (Except.error e >>= f) = .error e := rfl

@[simp] theorem except_pure (a : α) : (pure a : Except ε α) = .ok a := rfl

@[simp] theorem except_throw (e : ε) : (throw e : Except ε α) = .error e := rfl

@[simp] theorem except_mapError_ok (g : ε → ε') (a : α) : (Except.ok a).mapError g = .ok a := rfl

@[simp] theorem except_mapError_error (g : ε → ε') (e : ε) :
    (Except.error e : Except ε α).mapError g = .error (g e) := rfl

@[simp] theorem except_mapError_eq_ok (g : ε → ε') (a : α) : x.mapError g = .ok a ↔ x = .ok a := by
  cases x <;> simp

theorem except_bind_eq_ok : x >>= f = .ok b ↔ ∃ a, x = .ok a ∧ f a = .ok b := by
  cases x <;> simp

end Except

-- `span` stops where a run of accepted runes meets one it refuses.
theorem span_append_of_stop {p : Char → Bool} {xs rest : List Char} (hx : ∀ c ∈ xs, p c)
    (hr : ∀ c ∈ rest.head?, p c = false) : (xs ++ rest).span p = (xs, rest) := by
  rw [List.span_eq_take_drop, List.takeWhile_append_of_pos hx, List.dropWhile_append_of_pos hx]
  cases rest with
  | nil => simp
  | cons c cs => simp [hr c rfl]

-- A decoded resource document, by the dynamic Go type that the parser's type switches and
-- type assertions see. A `map[string]interface{}` is the list of its entries in the order in
-- which `range` visits them.
inductive Value where
  | null
  | bool (b : Bool)
  | int (n : BitVec 64)
  | int32 (n : BitVec 32)
  | int64 (n : BitVec 64)
  | float64 (bits : BitVec 64)
  | string (s : String)
  | object (fields : List (String × Value))
  | array (items : List Value)
  deriving Repr, Inhabited

namespace Value

-- The dynamic type as `%T` prints it.
def typeName : Value → String
  | null       => "<nil>"
  | bool _     => "bool"
  | int _      => "int"
  | int32 _    => "int32"
  | int64 _    => "int64"
  | float64 _  => "float64"
  | string _   => "string"
  | object _   => "map[string]interface {}"
  | array _    => "[]interface {}"

end Value

-- `*spec.SchemaOrBool` and `*spec.SchemaOrArray` of kube-openapi, with the fields the parser reads.
structure SchemaOrBool (α : Type) where
  allows : Bool
  schema : Option α
  deriving Repr

structure SchemaOrArray (α : Type) where
  schema : Option α
  deriving Repr

-- `spec.Schema` of kube-openapi, with the fields the parser reads. A nil `Properties` or
-- `Extensions` map is the empty list: lookups in both give "not found".
structure Schema where
  type : List String
  oneOf : List Schema
  properties : List (String × Schema)
  additionalProperties : Option (SchemaOrBool Schema)
  items : Option (SchemaOrArray Schema)
  extensions : List (String × Value)
  deriving Repr

namespace Schema

-- `&spec.Schema{}`
def empty : Schema := ⟨[], [], [], none, none, []⟩

-- `schema.AdditionalProperties != nil && schema.AdditionalProperties.Allows`
def additionalPropertiesAllowed (s : Schema) : Bool :=
  match s.additionalProperties with
  | some a => a.allows
  | none   => false

end Schema

-- `variable.FieldDescriptor`, as `parseString` fills it in, its `ExpectedSchema` held as a `σ`.
structure FieldDescriptorOf (σ : Type) where
  path : String
  expressions : List String
  expectedType : String
  expectedSchema : Option σ
  standaloneExpression : Bool
  deriving Repr, DecidableEq

-- The tree model holds the expected schema itself.
abbrev FieldDescriptor := FieldDescriptorOf Schema

-- The errors the parser returns, one constructor per `fmt.Errorf` site, holding the
-- arguments of its format string.
inductive ParseError where
  -- "schema is nil for path %s"
  | schemaNil (path : String)
  -- "found schema type that is not a single type: %v"
  | notSingleType (type : List String)
  -- "expected object type or AdditionalProperties allowed for path %s, got %v"
  | expectedObject (path : String) (field : Value)
  -- "schema not found for field %s"
  | schemaNotFound (field : String)
  -- "error getting field schema for path %s: %v"
  | fieldSchema (path : String) (cause : ParseError)
  -- "expected array type for path %s, got %v"
  | expectedArray (path : String) (field : Value)
  -- "invalid array schema for path %s: neither Items.Schema nor Properties are defined"
  | invalidArraySchema (path : String)
  -- "expected string type or AdditionalProperties for path %s, got %v"
  | expectedString (path : String) (field : String)
  -- "expected number type ...", "expected integer type ...", "expected boolean type ...",
  -- each "for path %s, got %T"
  | expectedScalarType (type path got : String)
  -- "unexpected type for path %s: %T"
  | unexpectedType (path got : String)
  -- a `${` whose closing brace is missing
  | unclosedExpression
  deriving Repr

-- The Go runtime panics the parser can raise.
inductive RuntimePanic where
  -- "index out of range [%d] with length %d"
  | indexOutOfRange (index length : Nat)
  -- "interface conversion: interface {} is %s, not %s"
  | interfaceConversion (actual expected : String)
  deriving Repr

-- How a call ends when it does not return a result: with an error, or with a panic.
inductive Failure where
  | error (e : ParseError)
  | panic (p : RuntimePanic)
  deriving Repr

end Kro
