import Kro.Parser.Parser

namespace Kro

-- What the extractor is for, stated over the string leaves of a document rather than over its
-- traversal: each leaf has a location, the schema along that location decides whether the
-- leaf is looked at, and the leaf's text decides its descriptor.

mutual

-- Every string leaf with its location, in document order.
def Value.strings : Value → List (List PathStep × String)
  | .string s  => [([], s)]
  | .object fs => Value.fieldStrings fs
  | .array xs  => Value.itemStrings xs 0
  | _          => []

def Value.fieldStrings : List (String × Value) → List (List PathStep × String)
  | [] => []
  | (k, v) :: fs => (v.strings.map fun p => (.field k :: p.1, p.2)) ++ Value.fieldStrings fs

def Value.itemStrings : List Value → Nat → List (List PathStep × String)
  | [], _ => []
  | x :: xs, i => (x.strings.map fun p => (.index i :: p.1, p.2)) ++ Value.itemStrings xs (i + 1)

end

def PathStep.isField : PathStep → Bool
  | field _ => true
  | index _ => false

namespace Schema

-- The schema the parser hands to a child.
def child (s : Schema) : PathStep → Option Schema
  | .field name => (getFieldSchema s name).toOption
  | .index _    => (getArrayItemSchema s "").toOption

-- The schema reached along a location.
def «at» (s : Schema) : List PathStep → Option Schema
  | []        => some s
  | step :: l => (s.child step).bind (·.at l)

@[simp] theorem at_nil (s : Schema) : s.at [] = some s := rfl

@[simp] theorem at_cons (s : Schema) (step : PathStep) (l : List PathStep) :
    s.at (step :: l) = (s.child step).bind (·.at l) := rfl

def preservesUnknownFields (s : Schema) : Bool :=
  match s.extensions.lookup xKubernetesPreserveUnknownFields with
  | some (.bool true) => true
  | _ => false

-- The preserve-unknown-fields flag, when present, is a boolean.
def preserveFlagIsBool (s : Schema) : Bool :=
  match s.extensions.lookup xKubernetesPreserveUnknownFields with
  | some (.bool _) | none => true
  | some _ => false

@[simp] theorem preserveFlagIsBool_withType (s : Schema) (ts : List String) :
    preserveFlagIsBool { s with type := ts } = s.preserveFlagIsBool := rfl

@[simp] theorem preservesUnknownFields_withType (s : Schema) (ts : List String) :
    preservesUnknownFields { s with type := ts } = s.preservesUnknownFields := rfl

theorem preserveFlagIsBool_of_preserves {s : Schema} (h : s.preservesUnknownFields = true) :
    s.preserveFlagIsBool := by
  unfold preservesUnknownFields at h
  unfold preserveFlagIsBool
  split at h
  · next he => rw [he]
  · cases h

-- Whether a location lies strictly inside a map whose schema preserves unknown fields.
def hides (s : Schema) : List PathStep → Bool
  | []        => false
  | step :: l => (step.isField && s.preservesUnknownFields) || ((s.child step).map (·.hides l)).getD false

@[simp] theorem hides_nil (s : Schema) : s.hides [] = false := rfl

end Schema

-- The descriptor of a string under a validated schema: standalone, embedded, or none.
def descriptorFor (path : String) (schema : ValidatedSchema) (expectedType v : String) :
    Option FieldDescriptor :=
  match isStandaloneExpression v, extractExpressions v with
  | .ok true, _ => some ⟨path, [Go.trim v "$\x7b\x7d"], expectedType, some schema.schema, true⟩
  | _, .ok (e :: es) => some ⟨path, e :: es, expectedType, none, false⟩
  | _, _ => none

namespace Schema

def descriptorAt (s : Schema) (path : String) (l : List PathStep) (v : String) : Option FieldDescriptor :=
  match s.at l with
  | none => none
  | some sub =>
    match validateSchema (some sub) "" with
    | .ok vs    => descriptorFor (encodePath path l) vs (getExpectedType vs) v
    | .error _  => none

-- The descriptors of the leaves of `v` that are not hidden, in document order.
def extracted (s : Schema) (path : String) (v : Value) : List FieldDescriptor :=
  v.strings.filterMap fun p => if s.hides p.1 then none else s.descriptorAt path p.1 p.2

end Schema

def extractedDescriptors (resource : List (String × Value)) : Option Schema → List FieldDescriptor
  | none   => []
  | some s => s.extracted "" (.object resource)

end Kro
