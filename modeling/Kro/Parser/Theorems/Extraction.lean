import Kro.Parser.Leaves

namespace Kro

namespace Schema

variable {s : Schema} {path : String}

-- The relative forms of `extracted` that follow the parser's loops.
def fieldsExtracted (s : Schema) (path : String) : List (String × Value) → List FieldDescriptor
  | [] => []
  | (k, v) :: fs =>
    (match getFieldSchema s k with
      | .ok c    => c.extracted (joinPathAndFieldName path k) v
      | .error _ => []) ++ s.fieldsExtracted path fs

def itemsExtracted (s : Schema) (path : String) : List Value → Nat → List FieldDescriptor
  | [], _ => []
  | x :: xs, i => s.extracted (itemPath path i) x ++ s.itemsExtracted path xs (i + 1)

@[simp] theorem fieldsExtracted_withType (ts : List String) (fs : List (String × Value)) :
    fieldsExtracted { s with type := ts } path fs = s.fieldsExtracted path fs := by
  induction fs with
  | nil => rfl
  | cons kv fs ih => simp [fieldsExtracted, ih]

theorem hides_cons (step : PathStep) (l : List PathStep) :
    s.hides (step :: l) =
      ((step.isField && s.preservesUnknownFields) || ((s.child step).map (·.hides l)).getD false) :=
  rfl

theorem descriptorAt_cons (step : PathStep) (l : List PathStep) (v : String) :
    s.descriptorAt path (step :: l) v =
      match s.child step with
      | some c => c.descriptorAt (step.append path) l v
      | none   => none := by
  simp only [descriptorAt, at_cons, encodePath_cons]
  cases s.child step <;> rfl

-- Below a map that preserves unknown fields nothing is extracted.
theorem extracted_object_of_preserves (hp : s.preservesUnknownFields = true)
    (fs : List (String × Value)) : s.extracted path (.object fs) = [] := by
  simp only [extracted, Value.strings, List.filterMap_eq_nil_iff]
  intro p hp'
  induction fs with
  | nil => simp [Value.fieldStrings] at hp'
  | cons kv fs ih =>
    obtain ⟨k, v⟩ := kv
    simp only [Value.fieldStrings, List.mem_append, List.mem_map] at hp'
    rcases hp' with ⟨q, -, rfl⟩ | hp'
    · simp [hides_cons, PathStep.isField, hp]
    · exact ih hp'

-- Otherwise each field contributes what its own schema extracts.
theorem extracted_object (hp : s.preservesUnknownFields = false) (fs : List (String × Value)) :
    s.extracted path (.object fs) = s.fieldsExtracted path fs := by
  unfold extracted
  induction fs with
  | nil => rfl
  | cons kv fs ih =>
    obtain ⟨k, v⟩ := kv
    simp only [Value.strings, Value.fieldStrings, List.filterMap_append, List.filterMap_map] at ih ⊢
    rw [ih, fieldsExtracted]
    congr 1
    cases h : getFieldSchema s k with
    | ok c =>
      simp only [extracted]
      congr 1; funext p
      simp [hides_cons, descriptorAt_cons, child, h, hp, PathStep.isField, PathStep.append, Except.toOption]
    | error e =>
      simp [hides_cons, descriptorAt_cons, child, h, hp, PathStep.isField, Except.toOption]

theorem extracted_array {is : Schema} (h : getArrayItemSchema s "" = .ok is) (xs : List Value) :
    s.extracted path (.array xs) = is.itemsExtracted path xs 0 := by
  unfold extracted
  simp only [Value.strings]
  generalize 0 = i
  induction xs generalizing i with
  | nil => rfl
  | cons x xs ih =>
    simp only [Value.itemStrings, List.filterMap_append, List.filterMap_map, itemsExtracted, ih]
    congr 1
    simp only [extracted]
    congr 1; funext p
    simp [hides_cons, descriptorAt_cons, child, h, PathStep.isField, PathStep.append, itemPath, Except.toOption]

theorem extracted_string (v : String) :
    s.extracted path (.string v) =
      match validateSchema (some s) "" with
      | .ok vs   => (descriptorFor path vs (getExpectedType vs) v).toList
      | .error _ => [] := by
  simp only [extracted, Value.strings, descriptorAt, List.filterMap_cons, List.filterMap_nil,
    hides_nil, at_nil, encodePath_nil]
  cases validateSchema (some s) "" <;> simp
  split <;> simp_all

end Schema

variable {path expectedType : String} {L : List FieldDescriptor}

theorem parseString_ok {field : String} {schema : ValidatedSchema}
    (h : parseString field schema path expectedType = .ok L) :
    L = (descriptorFor path schema expectedType field).toList := by
  unfold parseString parseStringOf at h
  unfold descriptorFor
  cases hs : isStandaloneExpression field with
  | error e => rw [hs] at h; cases h
  | ok b =>
    cases b
    · simp only [hs, except_mapError_ok, except_ok_bind, Bool.false_eq_true, if_false] at h
      split at h
      · cases h
      · simp only [except_pure, except_ok_bind] at h
        cases he : extractExpressions field with
        | error e => rw [he] at h; cases h
        | ok es =>
          simp only [he, except_mapError_ok, except_ok_bind] at h
          cases es with
          | nil => cases h; rfl
          | cons e es =>
            simp only [List.length_cons, gt_iff_lt, Nat.zero_lt_succ, if_true] at h
            cases h; rfl
    · simp only [hs, except_mapError_ok, except_ok_bind, if_true, except_pure, Except.ok.injEq] at h
      subst h
      rcases extractExpressions field with _ | _ | _ <;> rfl

theorem parseObject.preserved_ok {field : List (String × Value)} {schema : Schema} {b : Bool}
    (h : parseObject.preserved field schema path expectedType = .ok b) :
    b = schema.preservesUnknownFields := by
  unfold parseObject.preserved at h
  unfold Schema.preservesUnknownFields
  split_ifs at h with h1 h2
  · cases hl : schema.extensions.lookup xKubernetesPreserveUnknownFields with
    | none => simp [hl] at h; simp [h]
    | some v =>
      cases v with
      | bool e => simp [hl] at h; subst h; cases e <;> rfl
      | _ => simp [hl] at h
  · cases hx : schema.extensions <;> simp_all

theorem parseArray.itemSchema_ok {field : List Value} {schema itemSchema : Schema}
    (h : parseArray.itemSchema field schema path expectedType = .ok itemSchema) :
    getArrayItemSchema schema "" = .ok itemSchema := by
  unfold parseArray.itemSchema at h
  rw [getArrayItemSchema_eq] at h ⊢
  split_ifs at h
  split at h <;> simp_all

theorem parseScalarTypes_ok {field : Value} {schema : ValidatedSchema}
    (h : parseScalarTypes field schema path expectedType = .ok L) : L = [] := by
  unfold parseScalarTypes at h
  by_cases ha : expectedType = "any"
  · simp only [ha, if_true, Except.ok.injEq] at h; exact h.symm
  · simp only [ha, if_false] at h
    split at h <;> (try split_ifs at h) <;> cases h <;> rfl

mutual

theorem parseResource_eq_extracted : ∀ (v : Value) (s : Schema) (path : String)
    (L : List FieldDescriptor), parseResource v (some s) path = .ok L → L = s.extracted path v
  | v, s, path, L, h => by
    cases hv : validateSchema (some s) path with
    | error f => rw [parseResource_error hv] at h; cases h
    | ok vs =>
      have hs := validateSchema_ok hv
      match v with
      | .object fs =>
        rw [parseResource_object hv] at h
        obtain ⟨b, hb, h⟩ := except_bind_eq_ok.mp h
        have hb' : b = s.preservesUnknownFields := by rw [parseObject.preserved_ok hb, hs]; rfl
        subst hb'
        cases hp : s.preservesUnknownFields
        · simp only [hp] at h
          rw [Schema.extracted_object hp, ← Schema.fieldsExtracted_withType [vs.type], ← hs]
          exact parseObject_loop_eq fs vs.schema path L (by simpa using h)
        · simp [hp] at h
          rw [Schema.extracted_object_of_preserves hp, h]
      | .array xs =>
        rw [parseResource_array hv] at h
        obtain ⟨is, his, h⟩ := except_bind_eq_ok.mp h
        have his' := parseArray.itemSchema_ok his
        rw [hs, getArrayItemSchema_withType] at his'
        rw [Schema.extracted_array his']
        exact parseArray_loop_eq xs is path 0 L h
      | .string str =>
        rw [parseResource_string hv] at h
        rw [parseString_ok h, Schema.extracted_string, validateSchema_some_path path, hv]
      | .null =>
        rw [parseResource_null hv] at h
        cases h; rfl
      | .bool _ | .int _ | .int32 _ | .int64 _ | .float64 _ =>
        rw [parseResource_scalar hv (by simp)] at h
        rw [parseScalarTypes_ok h]; rfl

theorem parseObject_loop_eq : ∀ (fs : List (String × Value)) (t : Schema) (path : String)
    (L : List FieldDescriptor), parseObject.loop fs t path = .ok L → L = t.fieldsExtracted path fs
  | [], t, path, L, h => by cases h; rfl
  | (k, v) :: fs, t, path, L, h => by
    rw [parseObject.loop] at h
    obtain ⟨c, hc, h⟩ := except_bind_eq_ok.mp h
    obtain ⟨L₁, h₁, h⟩ := except_bind_eq_ok.mp h
    obtain ⟨L₂, h₂, h⟩ := except_bind_eq_ok.mp h
    rw [except_mapError_eq_ok] at hc
    cases h
    simp only [Schema.fieldsExtracted, hc, parseResource_eq_extracted v _ _ L₁ h₁,
      parseObject_loop_eq fs t path L₂ h₂]

theorem parseArray_loop_eq : ∀ (xs : List Value) (is : Schema) (path : String) (i : Nat)
    (L : List FieldDescriptor), parseArray.loop xs is path i = .ok L → L = is.itemsExtracted path xs i
  | [], is, path, i, L, h => by cases h; rfl
  | x :: xs, is, path, i, L, h => by
    rw [parseArray.loop] at h
    obtain ⟨L₁, h₁, h⟩ := except_bind_eq_ok.mp h
    obtain ⟨L₂, h₂, h⟩ := except_bind_eq_ok.mp h
    cases h
    simp only [Schema.itemsExtracted, parseResource_eq_extracted x _ _ L₁ h₁,
      parseArray_loop_eq xs is path (i + 1) L₂ h₂]

end

theorem ParseResource_perm_extractedDescriptors (resource : List (String × Value))
    (resourceSchema : Option Schema) (L : List FieldDescriptor)
    (h : ParseResource resource resourceSchema = .ok L) :
    L.Perm (extractedDescriptors resource resourceSchema) := by
  cases resourceSchema with
  | none => cases h
  | some s => exact (parseResource_eq_extracted _ s "" L h).symm ▸ List.Perm.refl _

theorem ParseResource_perm_extractedDescriptors_port :
    ParseResource [("port", .string "$\x7bdb.status.port\x7d")]
        (some ⟨["object"], [], [("port", ⟨["integer"], [], [], none, none, []⟩)], none, none, []⟩) =
      .ok [⟨"port", ["db.status.port"], "integer", some ⟨["integer"], [], [], none, none, []⟩, true⟩] ∧
    List.Perm [⟨"port", ["db.status.port"], "integer", some ⟨["integer"], [], [], none, none, []⟩, true⟩]
      (extractedDescriptors [("port", .string "$\x7bdb.status.port\x7d")]
        (some ⟨["object"], [], [("port", ⟨["integer"], [], [], none, none, []⟩)], none, none, []⟩)) :=
  ⟨rfl, ParseResource_perm_extractedDescriptors _ _ _ rfl⟩

end Kro
