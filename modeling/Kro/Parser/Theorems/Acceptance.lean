import Kro.Parser.Theorems.Conformance

namespace Kro

-- The types of OpenAPI v3 that a structural schema gives its nodes.
def openAPITypes : List String := ["object", "array", "string", "integer", "number", "boolean"]

namespace Schema

-- A node typed as in a structural schema: it settles on one of the OpenAPI types, and allows
-- additional properties only as an object.
def nodeStrict (s : Schema) : Bool :=
  s.declaredType.any openAPITypes.contains &&
    (!s.additionalPropertiesAllowed || s.declaredType == some "object")

-- Every node the parser can reach from this one is strict.
inductive Strict : Schema → Prop
  | mk {s : Schema} : s.nodeStrict → (∀ kv ∈ s.properties, Strict kv.2) →
      (∀ a, s.additionalProperties.bind (·.schema) = some a → Strict a) →
      (∀ is, s.items.bind (·.schema) = some is → Strict is) → Strict s

theorem declaredType_of_validate {s : Schema} {path : String} {vs : ValidatedSchema}
    (h : validateSchema (some s) path = .ok vs) : s.declaredType = some vs.type := by
  rw [declaredType, validateSchema_some_path path, h]
  rfl

-- On a strict node the parser expects the settled type itself, never its own "any".
theorem Strict.expectedType {s : Schema} {path : String} {vs : ValidatedSchema} (hs : s.Strict)
    (h : validateSchema (some s) path = .ok vs) :
    getExpectedType vs = vs.type ∧ vs.type ≠ "any" ∧ (s.additionalPropertiesAllowed → vs.type = "object") := by
  obtain ⟨hn, -, -, -⟩ := hs
  simp only [nodeStrict, declaredType_of_validate h, Option.any_some, Bool.and_eq_true, Bool.or_eq_true,
    Bool.not_eq_true', beq_iff_eq, Option.some.injEq] at hn
  obtain ⟨ht, hap⟩ := hn
  have hne : vs.type ≠ "" ∧ vs.type ≠ "any" := by
    constructor <;> rintro he <;> simp [he, openAPITypes] at ht
  exact ⟨getExpectedType_of_ne hne.1, hne.2, fun ha => hap.resolve_left (by simp [ha])⟩

theorem Strict.declaredFieldSchema {s f : Schema} {field : String} (hs : s.Strict)
    (h : s.declaredFieldSchema field = some f) : f.Strict := by
  obtain ⟨-, hp, ha, -⟩ := hs
  unfold Schema.declaredFieldSchema at h
  split at h
  · next hl =>
    cases h
    obtain ⟨l₁, l₂, he, -⟩ := List.lookup_eq_some_iff.mp hl
    exact hp (field, f) (by rw [he]; simp)
  · exact ha f h

theorem Strict.items {s is : Schema} (hs : s.Strict) (h : s.items = some ⟨some is⟩) : is.Strict := by
  obtain ⟨-, -, -, hi⟩ := hs
  exact hi is (by rw [h]; rfl)

-- A field schema is the declared one, or the empty schema of `additionalProperties: true`.
theorem getFieldSchema_ok {s f : Schema} {field : String} (h : getFieldSchema s field = .ok f) :
    s.declaredFieldSchema field = some f ∨ f = Schema.empty := by
  unfold getFieldSchema at h
  unfold declaredFieldSchema
  cases hl : s.properties.lookup field with
  | some p =>
    simp only [hl, Except.ok.injEq] at h ⊢
    exact .inl (congrArg some h)
  | none =>
    simp only [hl] at h ⊢
    split at h
    · next ha => cases h; exact .inl (by rw [ha]; rfl)
    · cases h; exact .inr rfl
    · cases h

end Schema

theorem parseResource_empty (v : Value) (path : String) :
    parseResource v (some Schema.empty) path = .error (.error (.notSingleType [])) :=
  parseResource_error (show validateSchema (some Schema.empty) path = .error (.error (.notSingleType [])) from rfl) v

theorem Value.fieldStrings_expressionFree : ∀ (fs : List (String × Value)),
    (∀ p ∈ Value.fieldStrings fs, ¬ ['$', '\x7b'] <:+: p.2.toList) → ∀ kv ∈ fs, kv.2.expressionFree
  | [], _ => nofun
  | (k, v) :: fs, h => by
    simp only [Value.fieldStrings, List.mem_append, List.mem_map] at h
    intro kv hkv
    rcases List.mem_cons.mp hkv with rfl | hkv
    · exact fun p hp => h (.field k :: p.1, p.2) (.inl ⟨p, hp, rfl⟩)
    · exact fieldStrings_expressionFree fs (fun p hp => h p (.inr hp)) kv hkv

theorem Value.itemStrings_expressionFree : ∀ (xs : List Value) (i : Nat),
    (∀ p ∈ Value.itemStrings xs i, ¬ ['$', '\x7b'] <:+: p.2.toList) → ∀ x ∈ xs, x.expressionFree
  | [], _, _ => nofun
  | x :: xs, i, h => by
    simp only [Value.itemStrings, List.mem_append, List.mem_map] at h
    intro y hy
    rcases List.mem_cons.mp hy with rfl | hy
    · exact fun p hp => h (.index i :: p.1, p.2) (.inl ⟨p, hp, rfl⟩)
    · exact itemStrings_expressionFree xs (i + 1) (fun p hp => h p (.inr hp)) y hy

-- A scalar the parser accepts under a type other than "any" has that type.
theorem parseScalarTypes_conforms {field : Value} {s : Schema} {vs : ValidatedSchema} {path : String}
    {L : List FieldDescriptor} (hd : s.declaredType = some vs.type) (ht : vs.type ≠ "any")
    (h : parseScalarTypes field vs path vs.type = .ok L) : Conforms field s := by
  unfold parseScalarTypes at h
  rw [if_neg ht] at h
  split at h <;> (try cases h)
  · next heq => exact .number (hd.trans (congrArg some heq))
  · next heq =>
    split_ifs at h with hi
    exact .integer (hd.trans (congrArg some heq)) hi
  · next heq => exact .boolean (hd.trans (congrArg some heq))

theorem parseString_type {field : String} {vs : ValidatedSchema} {path expectedType : String}
    {L : List FieldDescriptor} (hf : ¬ ['$', '\x7b'] <:+: field.toList)
    (h : parseString field vs path expectedType = .ok L) : expectedType = "string" ∨ expectedType = "any" := by
  rw [parseString, parseStringOf, isStandaloneExpression_of_not_infix hf] at h
  by_contra hn
  simp only [not_or] at hn
  simp [hn] at h

theorem parseArray.itemSchema_type {field : List Value} {schema itemSchema : Schema} {path expectedType : String}
    (h : parseArray.itemSchema field schema path expectedType = .ok itemSchema) : expectedType = "array" := by
  unfold parseArray.itemSchema at h
  by_contra hn
  simp [hn] at h

theorem parseObject.preserved_type {field : List (String × Value)} {schema : Schema} {path expectedType : String}
    {b : Bool} (h : parseObject.preserved field schema path expectedType = .ok b) :
    expectedType = "object" ∨ schema.additionalPropertiesAllowed := by
  unfold parseObject.preserved at h
  by_contra hn
  simp only [not_or, Bool.not_eq_true] at hn
  simp [hn] at h

theorem parseObject.preserved_flag {field : List (String × Value)} {schema : Schema} {path expectedType : String}
    {b : Bool} (h : parseObject.preserved field schema path expectedType = .ok b) : schema.preserveFlagIsBool := by
  unfold Schema.preserveFlagIsBool
  cases hl : schema.extensions.lookup xKubernetesPreserveUnknownFields with
  | none => rfl
  | some v =>
    have hpos : schema.extensions.length > 0 := by cases he : schema.extensions <;> simp_all
    unfold parseObject.preserved at h
    simp only [hl, hpos, if_true] at h
    split_ifs at h
    cases v <;> first | rfl | nomatch h

mutual

theorem parseResource_accepts : ∀ (v : Value) (s : Schema) (path : String) (L : List FieldDescriptor),
    s.Strict → v.expressionFree → parseResource v (some s) path = .ok L → Conforms v s
  | v, s, path, L, hs, he, h => by
    cases hv : validateSchema (some s) path with
    | error => rw [parseResource_error hv] at h; nomatch h
    | ok vs =>
      have hd := Schema.declaredType_of_validate hv
      obtain ⟨het, hany, hap⟩ := hs.expectedType hv
      have hvs := validateSchema_ok hv
      match v with
      | .null => exact .null (by rw [hd]; rfl)
      | .string str =>
        rw [parseResource_string hv, het] at h
        have ht := (parseString_type (Value.expressionFree_string he) h).resolve_right hany
        exact .string (hd.trans (congrArg some ht))
      | .array xs =>
        rw [parseResource_array hv, het, parseArray, except_bind_eq_ok] at h
        obtain ⟨is, hi, h⟩ := h
        have hit : s.items = some ⟨some is⟩ := by
          have := parseArray.itemSchema_ok hi
          rw [hvs, getArrayItemSchema_withType, getArrayItemSchema_eq] at this
          split at this
          · next heq => cases this; exact heq
          · cases this
        exact .array (hd.trans (congrArg some (parseArray.itemSchema_type hi))) hit
          (parseArray_loop_accepts xs is path 0 L (hs.items hit) (Value.itemStrings_expressionFree xs 0 he) h)
      | .object fs =>
        rw [parseResource_object hv, het, parseObject, except_bind_eq_ok] at h
        obtain ⟨b, hb, h⟩ := h
        rw [hvs] at hb h
        have hobj : s.declaredType = some "object" :=
          hd.trans (congrArg some ((parseObject.preserved_type hb).elim id hap))
        rw [parseObject.preserved_ok hb, Schema.preservesUnknownFields_withType] at h
        cases hp : s.preservesUnknownFields
        · rw [hp] at h
          have hl := parseObject_loop_accepts fs _ path L
            (fun _ _ hk => hs.declaredFieldSchema (by rwa [Schema.declaredFieldSchema_withType] at hk))
            (Value.fieldStrings_expressionFree fs he) h
          simp only [Schema.declaredFieldSchema_withType] at hl
          refine .object hobj (parseObject.preserved_flag hb) (fun kv hkv => ?_) (fun kv hkv f hf => ?_)
          · obtain ⟨f, hf, -⟩ := hl kv hkv
            rw [hf]
            rfl
          · obtain ⟨f', hf', hc⟩ := hl kv hkv
            exact Option.some.inj (hf'.symm.trans hf) ▸ hc
        · exact .preserved hobj hp
      | .bool _ | .int _ | .int32 _ | .int64 _ | .float64 _ =>
        rw [parseResource_scalar hv (by simp), het] at h
        exact parseScalarTypes_conforms hd hany h
termination_by structural v => v

-- The loop over the entries of a map whose declared field schemas are strict: each entry has a
-- declared schema, to which its value conforms.
theorem parseObject_loop_accepts : ∀ (fs : List (String × Value)) (t : Schema) (path : String)
    (L : List FieldDescriptor), (∀ k f, t.declaredFieldSchema k = some f → f.Strict) →
    (∀ kv ∈ fs, kv.2.expressionFree) → parseObject.loop fs t path = .ok L →
    ∀ kv ∈ fs, ∃ f, t.declaredFieldSchema kv.1 = some f ∧ Conforms kv.2 f
  | [], _, _, _, _, _, _ => nofun
  | (k, v) :: fs, t, path, L, ht, he, h => by
    rw [parseObject.loop, except_bind_eq_ok] at h
    obtain ⟨f, hf, h⟩ := h
    rw [except_mapError_eq_ok] at hf
    rw [except_bind_eq_ok] at h
    obtain ⟨a, ha, h⟩ := h
    rw [except_bind_eq_ok] at h
    obtain ⟨b, hb, -⟩ := h
    have hk : t.declaredFieldSchema k = some f := (Schema.getFieldSchema_ok hf).resolve_right fun hf₀ => by
      rw [hf₀, parseResource_empty] at ha
      nomatch ha
    have hv := parseResource_accepts v f _ a (ht k f hk) (he _ (List.mem_cons_self _ _)) ha
    have hfs := parseObject_loop_accepts fs t path b ht (fun kv h => he kv (List.mem_cons_of_mem _ h)) hb
    intro kv hkv
    rcases List.mem_cons.mp hkv with rfl | hkv
    exacts [⟨f, hk, hv⟩, hfs kv hkv]
termination_by structural fs => fs

theorem parseArray_loop_accepts : ∀ (xs : List Value) (is : Schema) (path : String) (i : Nat)
    (L : List FieldDescriptor), is.Strict → (∀ x ∈ xs, x.expressionFree) →
    parseArray.loop xs is path i = .ok L → ∀ x ∈ xs, Conforms x is
  | [], _, _, _, _, _, _, _ => nofun
  | x :: xs, is, path, i, L, hs, he, h => by
    rw [parseArray.loop, except_bind_eq_ok] at h
    obtain ⟨a, ha, h⟩ := h
    rw [except_bind_eq_ok] at h
    obtain ⟨b, hb, -⟩ := h
    have hx := parseResource_accepts x is _ a hs (he x (List.mem_cons_self _ _)) ha
    have hxs := parseArray_loop_accepts xs is path (i + 1) b hs (fun x h => he x (List.mem_cons_of_mem _ h)) hb
    intro y hy
    rcases List.mem_cons.mp hy with rfl | hy
    exacts [hx, hxs y hy]
termination_by structural xs => xs

end

end Kro
