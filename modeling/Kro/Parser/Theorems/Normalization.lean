import Kro.Parser.Parser

namespace Kro

section Except

variable {ε α β γ δ : Type}

-- Two computations whose results agree up to `f`, each continued by computations whose
-- results agree up to `g` whenever their arguments agree up to `f`, agree up to `g`.
theorem except_map_bind_congr {x x' : Except ε α} {f : α → γ} (hx : x.map f = x'.map f)
    {k k' : α → Except ε β} {g : β → δ} (hk : ∀ a a', f a = f a' → (k a).map g = (k' a').map g) :
    (x >>= k).map g = (x' >>= k').map g := by
  cases x with
  | error e => cases x' with
    | error e' => cases hx; rfl
    | ok _ => cases hx
  | ok a => cases x' with
    | error _ => cases hx
    | ok a' => exact hk a a' (Except.ok.inj hx)

theorem except_map_mapError (x : Except ε α) (e : ε → γ) (f : α → β) :
    (x.mapError e).map f = (x.map f).mapError e := by
  cases x <;> rfl

end Except

namespace Schema

-- What validateSchema leaves in a schema: a `Type` that is not one entry becomes the first
-- type of the first `OneOf` alternative, when that has one.
def retype (s : Schema) : Schema :=
  if s.type.length != 1 then
    match s.oneOf with
    | alt :: _ =>
      match alt.type with
      | t :: _ => { s with type := [t] }
      | [] => s
    | [] => s
  else s

mutual

-- A schema with that rewrite made at every schema the parser may validate: a property's, an
-- AdditionalProperties' or an Items' schema. A `OneOf` alternative keeps its own `Type`, which
-- the rewrite of its parent reads.
def norm : Schema → Schema
  | ⟨type, oneOf, properties, additionalProperties, items, extensions⟩ =>
    retype ⟨type, normInlines oneOf, normProperties properties, normAdditional additionalProperties,
      normItems items, extensions⟩

def normInline : Schema → Schema
  | ⟨type, oneOf, properties, additionalProperties, items, extensions⟩ =>
    ⟨type, normInlines oneOf, normProperties properties, normAdditional additionalProperties,
      normItems items, extensions⟩

def normInlines : List Schema → List Schema
  | [] => []
  | s :: ss => normInline s :: normInlines ss

def normProperties : List (String × Schema) → List (String × Schema)
  | [] => []
  | (k, s) :: ps => (k, norm s) :: normProperties ps

def normAdditional : Option (SchemaOrBool Schema) → Option (SchemaOrBool Schema)
  | none => none
  | some ⟨allows, none⟩ => some ⟨allows, none⟩
  | some ⟨allows, some s⟩ => some ⟨allows, some (norm s)⟩

def normItems : Option (SchemaOrArray Schema) → Option (SchemaOrArray Schema)
  | none => none
  | some ⟨none⟩ => some ⟨none⟩
  | some ⟨some s⟩ => some ⟨some (norm s)⟩

end

variable {s s' : Schema}

theorem norm_eq : s.norm = s.normInline.retype := by cases s; rfl

theorem retype_eq_withType : s.retype = { s with type := s.retype.type } := by
  cases s
  unfold retype
  split
  · split
    · split <;> rfl
    · rfl
  · rfl

theorem retype_retype : s.retype.retype = s.retype := by
  obtain ⟨type, oneOf, properties, additionalProperties, items, extensions⟩ := s
  rcases type with _ | ⟨t, _ | ⟨t', ts⟩⟩
  case cons.nil => rfl
  all_goals rcases oneOf with _ | ⟨⟨_ | ⟨u, us⟩, _, _, _, _, _⟩, alts⟩ <;> rfl

-- The rewrite reads only `Type` and the alternatives' `Type`s.
theorem retype_type_congr (ht : s.type = s'.type) (ho : s.oneOf.map type = s'.oneOf.map type) :
    s.retype.type = s'.retype.type := by
  obtain ⟨type, oneOf, _, _, _, _⟩ := s
  obtain ⟨_, oneOf', _, _, _, _⟩ := s'
  cases ht
  rcases oneOf with _ | ⟨a, _⟩ <;> rcases oneOf' with _ | ⟨a', _⟩ <;>
    simp only [List.map_nil, List.map_cons, List.cons.injEq, List.nil_eq, reduceCtorEq] at ho
  · simp only [retype]; split <;> rfl
  · simp only [retype, ho.1]; split <;> (try split) <;> rfl

theorem validateSchema_retype (path : String) : validateSchema (some s.retype) path = validateSchema (some s) path := by
  obtain ⟨type, oneOf, properties, additionalProperties, items, extensions⟩ := s
  rcases type with _ | ⟨t, _ | ⟨t', ts⟩⟩
  case cons.nil => rfl
  all_goals rcases oneOf with _ | ⟨⟨_ | ⟨u, us⟩, _, _, _, _, _⟩, alts⟩ <;> rfl

-- The rewrite reads only `Type` and the first alternative's `Type`, which `normInline` keeps.
theorem retype_normInline : s.normInline.retype = s.retype.normInline := by
  obtain ⟨type, oneOf, properties, additionalProperties, items, extensions⟩ := s
  rcases type with _ | ⟨t, _ | ⟨t', ts⟩⟩
  case cons.nil => rfl
  all_goals rcases oneOf with _ | ⟨⟨_ | ⟨u, us⟩, _, _, _, _, _⟩, alts⟩ <;> rfl

theorem norm_retype : s.retype.norm = s.norm := by
  rw [norm_eq, norm_eq, retype_normInline, retype_normInline, retype_retype]

@[simp] theorem properties_norm : s.norm.properties = normProperties s.properties := by
  rw [norm_eq, retype_eq_withType]; cases s; rfl

@[simp] theorem additionalProperties_norm :
    s.norm.additionalProperties = normAdditional s.additionalProperties := by
  rw [norm_eq, retype_eq_withType]; cases s; rfl

@[simp] theorem items_norm : s.norm.items = normItems s.items := by
  rw [norm_eq, retype_eq_withType]; cases s; rfl

@[simp] theorem extensions_norm : s.norm.extensions = s.extensions := by
  rw [norm_eq, retype_eq_withType]; cases s; rfl

@[simp] theorem additionalPropertiesAllowed_norm :
    s.norm.additionalPropertiesAllowed = s.additionalPropertiesAllowed := by
  simp only [additionalPropertiesAllowed, additionalProperties_norm]
  rcases s.additionalProperties with _ | ⟨_, _ | _⟩ <;> rfl

theorem lookup_normProperties (k : String) : ∀ ps : List (String × Schema),
    (normProperties ps).lookup k = (ps.lookup k).map norm
  | [] => rfl
  | (k', s) :: ps => by
    simp only [normProperties, List.lookup_cons]
    cases k == k' with
    | true => rfl
    | false => exact lookup_normProperties k ps

-- What the parser reads of a schema without validating it is read alike off its normal form.
theorem norm_congr (h : s.norm = s'.norm) :
    s.additionalPropertiesAllowed = s'.additionalPropertiesAllowed ∧ s.extensions = s'.extensions := by
  rw [← additionalPropertiesAllowed_norm, h, additionalPropertiesAllowed_norm, ← extensions_norm, h,
    extensions_norm]
  exact ⟨rfl, rfl⟩

end Schema

-- A descriptor with its ExpectedSchema in normal form.
def FieldDescriptor.norm (d : FieldDescriptor) : FieldDescriptor :=
  { d with expectedSchema := d.expectedSchema.map Schema.norm }

-- Validation gives the normal form of the schema it is given what it gives that schema: the
-- same error, or the same type and a schema of the same normal form.
theorem validateSchema_norm (s : Schema) (path : String) :
    (validateSchema (some s) path).map (fun vs => (vs.type, vs.schema.norm)) =
      (validateSchema (some s.norm) path).map fun vs => (vs.type, vs.schema) := by
  obtain ⟨type, oneOf, properties, additionalProperties, items, extensions⟩ := s
  rcases type with _ | ⟨t, _ | ⟨t', ts⟩⟩
  case cons.nil => rfl
  all_goals rcases oneOf with _ | ⟨⟨_ | ⟨u, us⟩, _, _, _, _, _⟩, alts⟩ <;> rfl

theorem getFieldSchema_norm (s : Schema) (field : String) :
    (getFieldSchema s field).map Schema.norm = getFieldSchema s.norm field := by
  unfold getFieldSchema
  rw [Schema.properties_norm, Schema.lookup_normProperties, Schema.additionalProperties_norm]
  cases s.properties.lookup field with
  | some c => rfl
  | none => rcases s.additionalProperties with _ | ⟨_ | _, _ | a⟩ <;> rfl

theorem parseArray.itemSchema_norm (field : List Value) (s : Schema) (path expectedType : String) :
    (parseArray.itemSchema field s path expectedType).map Schema.norm =
      parseArray.itemSchema field s.norm path expectedType := by
  unfold parseArray.itemSchema
  split
  · rfl
  · rw [except_map_mapError, getArrayItemSchema_eq, getArrayItemSchema_eq, Schema.items_norm]
    rcases s.items with _ | ⟨_ | is⟩ <;> rfl

theorem getExpectedType_congr {vs vs' : ValidatedSchema} (ht : vs.type = vs'.type)
    (hn : vs.schema.norm = vs'.schema.norm) : getExpectedType vs = getExpectedType vs' := by
  simp only [getExpectedType, ht, (Schema.norm_congr hn).1]

theorem parseObject.preserved_congr (field : List (String × Value)) {s s' : Schema} (h : s.norm = s'.norm)
    (path expectedType : String) :
    parseObject.preserved field s path expectedType = parseObject.preserved field s' path expectedType := by
  simp only [parseObject.preserved, (Schema.norm_congr h).1, (Schema.norm_congr h).2]

theorem parseString_norm (field : String) {vs vs' : ValidatedSchema} (h : vs.schema.norm = vs'.schema.norm)
    (path expectedType : String) :
    (parseString field vs path expectedType).map (List.map FieldDescriptor.norm) =
      (parseString field vs' path expectedType).map (List.map FieldDescriptor.norm) := by
  unfold parseString parseStringOf
  cases isStandaloneExpression field with
  | error e => rfl
  | ok b =>
    cases b
    · rfl
    · show Except.ok [FieldDescriptor.norm _] = Except.ok [FieldDescriptor.norm _]
      simp only [FieldDescriptor.norm, Option.map_some', h]

mutual

theorem parseResource_norm : ∀ (v : Value) (s s' : Schema) (path : String), s.norm = s'.norm →
    (parseResource v (some s) path).map (List.map FieldDescriptor.norm) =
      (parseResource v (some s') path).map (List.map FieldDescriptor.norm)
  | v, s, s', path, h => by
    rw [parseResource, parseResource]
    refine except_map_bind_congr ((validateSchema_norm s path).trans (h ▸ validateSchema_norm s' path).symm)
      fun vs vs' hvs => ?_
    obtain ⟨ht, hn⟩ := Prod.mk.inj hvs
    rw [getExpectedType_congr ht hn]
    match v with
    | .object fs =>
      refine except_map_bind_congr (f := id) (congrArg _ (parseObject.preserved_congr fs hn path _))
        fun b b' hb => ?_
      cases hb
      cases b
      · exact parseObject_loop_norm fs _ _ path hn
      · rfl
    | .array xs =>
      exact except_map_bind_congr (by rw [parseArray.itemSchema_norm, parseArray.itemSchema_norm, hn])
        fun t t' htt => parseArray_loop_norm xs t t' path 0 htt
    | .string str => exact parseString_norm str hn path _
    | .null => rfl
    | .bool _ | .int _ | .int32 _ | .int64 _ | .float64 _ => rfl

theorem parseObject_loop_norm : ∀ (fs : List (String × Value)) (s s' : Schema) (path : String),
    s.norm = s'.norm →
    (parseObject.loop fs s path).map (List.map FieldDescriptor.norm) =
      (parseObject.loop fs s' path).map (List.map FieldDescriptor.norm)
  | [], _, _, _, _ => rfl
  | (k, v) :: fs, s, s', path, h => by
    rw [parseObject.loop, parseObject.loop]
    refine except_map_bind_congr (f := Schema.norm) (by
      rw [except_map_mapError, except_map_mapError, getFieldSchema_norm, getFieldSchema_norm, h])
      fun c c' hc => except_map_bind_congr (parseResource_norm v c c' _ hc) fun a a' ha =>
        except_map_bind_congr (parseObject_loop_norm fs s s' path h) fun b b' hb => ?_
    show Except.ok ((a ++ b).map _) = Except.ok ((a' ++ b').map _)
    rw [List.map_append, List.map_append, ha, hb]

theorem parseArray_loop_norm : ∀ (xs : List Value) (t t' : Schema) (path : String) (i : Nat),
    t.norm = t'.norm →
    (parseArray.loop xs t path i).map (List.map FieldDescriptor.norm) =
      (parseArray.loop xs t' path i).map (List.map FieldDescriptor.norm)
  | [], _, _, _, _, _ => rfl
  | x :: xs, t, t', path, i, h => by
    rw [parseArray.loop, parseArray.loop]
    refine except_map_bind_congr (parseResource_norm x t t' _ h) fun a a' ha =>
      except_map_bind_congr (parseArray_loop_norm xs t t' path (i + 1) h) fun b b' hb => ?_
    show Except.ok ((a ++ b).map _) = Except.ok ((a' ++ b').map _)
    rw [List.map_append, List.map_append, ha, hb]

end

-- The parser cannot tell apart two schemas of one normal form: it fails alike on both, or
-- returns the same descriptors up to the normal form of their ExpectedSchema.
theorem ParseResource_norm (resource : List (String × Value)) {s s' : Schema} (h : s.norm = s'.norm) :
    (ParseResource resource (some s)).map (List.map FieldDescriptor.norm) =
      (ParseResource resource (some s')).map (List.map FieldDescriptor.norm) :=
  parseResource_norm (.object resource) s s' "" h

-- An object schema given its `Type` by its `OneOf`, and the schema validateSchema makes of it.
def oneOfObject : Schema :=
  ⟨[], [⟨["object"], [], [], none, none, []⟩], [("a", ⟨["string"], [], [], none, none, []⟩)], none, none, []⟩

theorem ParseResource_norm_retype :
    oneOfObject.norm = oneOfObject.retype.norm ∧
    (ParseResource [("a", .string "$\x7bx\x7d")] (some oneOfObject)).map (List.map FieldDescriptor.norm) =
      (ParseResource [("a", .string "$\x7bx\x7d")] (some oneOfObject.retype)).map
        (List.map FieldDescriptor.norm) :=
  ⟨rfl, ParseResource_norm _ rfl⟩

end Kro
