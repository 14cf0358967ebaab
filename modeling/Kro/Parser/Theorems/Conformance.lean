import Mathlib.Data.List.Infix
import Kro.Parser.Theorems.Extraction

namespace Kro

namespace Schema

-- The type the parser settles on for a schema node, when validation accepts the node.
def declaredType (s : Schema) : Option String :=
  (validateSchema (some s) "").toOption.map (·.type)

-- The schema a declared field gets: its property, or the schema of additional properties.
def declaredFieldSchema (s : Schema) (field : String) : Option Schema :=
  match s.properties.lookup field with
  | some p => some p
  | none   => s.additionalProperties.bind (·.schema)

@[simp] theorem declaredFieldSchema_withType (s : Schema) (ts : List String) (field : String) :
    declaredFieldSchema { s with type := ts } field = s.declaredFieldSchema field := rfl

theorem validateSchema_of_declaredType {s : Schema} {t : String} (h : s.declaredType = some t)
    (path : String) : ∃ vs, validateSchema (some s) path = .ok vs ∧ vs.type = t := by
  rw [validateSchema_some_path ""]
  cases hv : validateSchema (some s) "" <;> simp_all [declaredType, Except.toOption]

theorem getFieldSchema_of_declared {s f : Schema} {field : String}
    (h : s.declaredFieldSchema field = some f) : getFieldSchema s field = .ok f := by
  unfold declaredFieldSchema at h
  unfold getFieldSchema
  cases hp : s.properties.lookup field with
  | some p => simp_all
  | none =>
    rw [hp] at h
    rcases ha : s.additionalProperties with _ | ⟨_, _ | _⟩ <;> simp_all

end Schema

theorem getExpectedType_of_ne {vs : ValidatedSchema} (h : vs.type ≠ "") : getExpectedType vs = vs.type := by
  simp [getExpectedType, h]

-- The typing the parser implements for structural schemas. A node must resolve to a single
-- type; untyped nodes, fields allowed only by `additionalProperties: true`, and integer values
-- under `number` are not admitted.
inductive Conforms : Value → Schema → Prop
  | null {s : Schema} : s.declaredType.isSome → Conforms .null s
  | boolean {s : Schema} {b : Bool} : s.declaredType = some "boolean" → Conforms (.bool b) s
  | integer {s : Schema} {v : Value} : s.declaredType = some "integer" → isInteger v → Conforms v s
  | number {s : Schema} {x : BitVec 64} : s.declaredType = some "number" → Conforms (.float64 x) s
  | string {s : Schema} {str : String} : s.declaredType = some "string" → Conforms (.string str) s
  | array {s is : Schema} {xs : List Value} : s.declaredType = some "array" →
      s.items = some ⟨some is⟩ → (∀ x ∈ xs, Conforms x is) → Conforms (.array xs) s
  | preserved {s : Schema} {fs : List (String × Value)} : s.declaredType = some "object" →
      s.preservesUnknownFields → Conforms (.object fs) s
  | object {s : Schema} {fs : List (String × Value)} : s.declaredType = some "object" →
      s.preserveFlagIsBool → (∀ kv ∈ fs, (s.declaredFieldSchema kv.1).isSome) →
      (∀ kv ∈ fs, ∀ f, s.declaredFieldSchema kv.1 = some f → Conforms kv.2 f) →
      Conforms (.object fs) s

-- No string of the value holds `${`.
def Value.expressionFree (v : Value) : Prop :=
  ∀ p ∈ v.strings, ¬ ['$', '\x7b'] <:+: p.2.toList

instance : DecidablePred Value.expressionFree := fun v =>
  inferInstanceAs (Decidable (∀ p ∈ v.strings, ¬ ['$', '\x7b'] <:+: p.2.toList))

theorem Value.expressionFree_string {str : String} (h : (Value.string str).expressionFree) :
    ¬ ['$', '\x7b'] <:+: str.toList :=
  h ([], str) (List.mem_singleton_self _)

theorem parseObject.preserved_of_flag {field : List (String × Value)} {schema : Schema}
    {path : String} (h : schema.preserveFlagIsBool) :
    parseObject.preserved field schema path "object" = .ok schema.preservesUnknownFields := by
  unfold parseObject.preserved Schema.preservesUnknownFields
  unfold Schema.preserveFlagIsBool at h
  cases hl : schema.extensions.lookup xKubernetesPreserveUnknownFields with
  | none => simp [hl]
  | some v =>
    have hpos : schema.extensions.length > 0 := by
      cases he : schema.extensions <;> simp_all
    cases v <;> simp only [hl] at h <;> try contradiction
    rename_i b
    cases b <;> simp [hpos, hl]

mutual

theorem parseResource_conforming : ∀ (v : Value) (s : Schema) (path : String), Conforms v s →
    v.expressionFree → parseResource v (some s) path = .ok []
  | v, s, path, h, he => by
    match v, h with
    | .null, .null ht =>
      obtain ⟨t, ht⟩ := Option.isSome_iff_exists.mp ht
      obtain ⟨vs, hvs, -⟩ := Schema.validateSchema_of_declaredType ht path
      exact parseResource_null hvs
    | _, .boolean ht =>
      obtain ⟨vs, hvs, hty⟩ := Schema.validateSchema_of_declaredType ht path
      rw [parseResource_scalar hvs (by simp), getExpectedType_of_ne (by simp [hty]), hty]
      rfl
    | v, .integer ht hi =>
      obtain ⟨vs, hvs, hty⟩ := Schema.validateSchema_of_declaredType ht path
      have hv : ∀ fs xs s, v ≠ .object fs ∧ v ≠ .array xs ∧ v ≠ .string s ∧ v ≠ .null := by
        cases v <;> simp_all [isInteger]
      rw [parseResource_scalar hvs hv, getExpectedType_of_ne (by simp [hty]), hty]
      exact parseScalarTypes_integer hi vs path
    | _, .number ht =>
      obtain ⟨vs, hvs, hty⟩ := Schema.validateSchema_of_declaredType ht path
      rw [parseResource_scalar hvs (by simp), getExpectedType_of_ne (by simp [hty]), hty]
      rfl
    | .string str, .string ht =>
      obtain ⟨vs, hvs, hty⟩ := Schema.validateSchema_of_declaredType ht path
      have hs := Value.expressionFree_string he
      rw [parseResource_string hvs, getExpectedType_of_ne (by simp [hty]), hty]
      simp [parseString, parseStringOf, isStandaloneExpression_of_not_infix hs, extractExpressions_of_not_infix hs]
    | .array xs, @Conforms.array _ is _ ht hi hxs =>
      obtain ⟨vs, hvs, hty⟩ := Schema.validateSchema_of_declaredType ht path
      rw [parseResource_array hvs, getExpectedType_of_ne (by simp [hty]), hty]
      have hi' : getArrayItemSchema vs.schema path = .ok is := by
        rw [validateSchema_ok hvs, getArrayItemSchema_withType, getArrayItemSchema_eq, hi]
      simp only [parseArray, parseArray.itemSchema, bne_self_eq_false, if_false, hi',
        except_mapError_ok, except_ok_bind]
      exact parseArray_loop_conforming xs _ path 0 hxs he
    | .object fs, .preserved ht hp =>
      obtain ⟨vs, hvs, hty⟩ := Schema.validateSchema_of_declaredType ht path
      have hb : vs.schema.preserveFlagIsBool := by
        rw [validateSchema_ok hvs, Schema.preserveFlagIsBool_withType]
        exact Schema.preserveFlagIsBool_of_preserves hp
      rw [parseResource_object hvs, getExpectedType_of_ne (by simp [hty]), hty, parseObject,
        parseObject.preserved_of_flag hb, validateSchema_ok hvs, Schema.preservesUnknownFields_withType, hp]
      rfl
    | .object fs, .object ht hb hk hf =>
      obtain ⟨vs, hvs, hty⟩ := Schema.validateSchema_of_declaredType ht path
      rw [parseResource_object hvs, getExpectedType_of_ne (by simp [hty]), hty, parseObject,
        parseObject.preserved_of_flag (by rw [validateSchema_ok hvs]; exact hb)]
      cases vs.schema.preservesUnknownFields
      · exact parseObject_loop_conforming fs vs.schema path
          (fun kv hkv => by rw [validateSchema_ok hvs]; exact hk kv hkv)
          (fun kv hkv f => by rw [validateSchema_ok hvs]; exact hf kv hkv f) he
      · rfl

theorem parseObject_loop_conforming : ∀ (fs : List (String × Value)) (t : Schema) (path : String),
    (∀ kv ∈ fs, (t.declaredFieldSchema kv.1).isSome) →
    (∀ kv ∈ fs, ∀ f, t.declaredFieldSchema kv.1 = some f → Conforms kv.2 f) →
    (Value.object fs).expressionFree → parseObject.loop fs t path = .ok []
  | [], _, _, _, _, _ => rfl
  | (k, v) :: fs, t, path, hk, hf, he => by
    obtain ⟨f, hkf⟩ := Option.isSome_iff_exists.mp (hk (k, v) (List.mem_cons_self _ _))
    have he' : ∀ p ∈ Value.fieldStrings ((k, v) :: fs), _ := he
    simp only [Value.fieldStrings, List.mem_append, List.mem_map] at he'
    rw [parseObject.loop, Schema.getFieldSchema_of_declared hkf]
    simp only [except_mapError_ok, except_ok_bind,
      parseResource_conforming v f (joinPathAndFieldName path k) (hf (k, v) (List.mem_cons_self _ _) f hkf)
        (fun p hp => he' (.field k :: p.1, p.2) (.inl ⟨p, hp, rfl⟩)),
      parseObject_loop_conforming fs t path (fun kv hkv => hk kv (List.mem_cons_of_mem _ hkv))
        (fun kv hkv => hf kv (List.mem_cons_of_mem _ hkv)) (fun p hp => he' p (.inr hp))]
    rfl

theorem parseArray_loop_conforming : ∀ (xs : List Value) (is : Schema) (path : String) (i : Nat),
    (∀ x ∈ xs, Conforms x is) → (∀ p ∈ Value.itemStrings xs i, ¬ ['$', '\x7b'] <:+: p.2.toList) →
    parseArray.loop xs is path i = .ok []
  | [], _, _, _, _, _ => rfl
  | x :: xs, is, path, i, hxs, he => by
    simp only [Value.itemStrings, List.mem_append, List.mem_map] at he
    rw [parseArray.loop]
    simp only [except_ok_bind,
      parseResource_conforming x is (itemPath path i) (hxs x (List.mem_cons_self _ _))
        (fun p hp => he (.index i :: p.1, p.2) (.inl ⟨p, hp, rfl⟩)),
      parseArray_loop_conforming xs is path (i + 1) (fun y hy => hxs y (List.mem_cons_of_mem _ hy))
        (fun p hp => he p (.inr hp))]
    rfl

end

theorem ParseResource_conforming (resource : List (String × Value)) (s : Schema)
    (hs : Conforms (.object resource) s) (he : (Value.object resource).expressionFree) :
    ParseResource resource (some s) = .ok [] :=
  parseResource_conforming _ s "" hs he

-- A map with one declared string field.
theorem ParseResource_conforming_name :
    Conforms (.object [("name", .string "web")])
      ⟨["object"], [], [("name", ⟨["string"], [], [], none, none, []⟩)], none, none, []⟩ ∧
    (Value.object [("name", .string "web")]).expressionFree ∧
    ParseResource [("name", .string "web")]
      (some ⟨["object"], [], [("name", ⟨["string"], [], [], none, none, []⟩)], none, none, []⟩) = .ok [] :=
  have hs : Conforms (.object [("name", .string "web")])
      ⟨["object"], [], [("name", ⟨["string"], [], [], none, none, []⟩)], none, none, []⟩ :=
    .object (by decide) (by decide) (by decide) fun kv hkv f hf => by
      simp only [List.mem_singleton] at hkv
      subst hkv
      cases hf
      exact .string (by decide)
  have he : (Value.object [("name", .string "web")]).expressionFree := by decide
  ⟨hs, he, ParseResource_conforming _ _ hs he⟩

-- An untyped node that preserves unknown fields is refused, whatever its value.
theorem ParseResource_untyped_preserved_field :
    ParseResource [("x", .string "a")]
      (some ⟨["object"], [], [("x", ⟨[], [], [], none, none,
        [(xKubernetesPreserveUnknownFields, .bool true)]⟩)], none, none, []⟩) =
      .error (.error (.notSingleType [])) := rfl

end Kro
