import Mathlib.Data.List.Forall2
import Kro.Parser.Theorems.HeapRun
import Kro.Parser.Theorems.Normalization

namespace Kro

theorem parseResource_validate_congr {t t' : Schema}
    (ht : ∀ path, validateSchema (some t') path = validateSchema (some t) path) (v : Value) (path : String) :
    parseResource v (some t') path = parseResource v (some t) path := by
  rw [parseResource, parseResource, ht]

namespace GoSchema

variable {f g : Nat → Schema}

mutual

-- A Go value's tree has one normal form whichever trees its pointers are read as, so long as
-- those have one normal form.
theorem normInline_toSchema_congr : ∀ c : GoSchema, (∀ q ∈ c.pointers, (f q).norm = (g q).norm) →
    (c.toSchema f).normInline = (c.toSchema g).normInline
  | ⟨type, oneOf, properties, additionalProperties, items, extensions⟩, h => by
    simp only [pointers, List.mem_append] at h
    have ha : Schema.normAdditional (additionalProperties.map fun a => ⟨a.allows, a.schema.map f⟩) =
        Schema.normAdditional (additionalProperties.map fun a => ⟨a.allows, a.schema.map g⟩) := by
      rcases additionalProperties with _ | ⟨b, _ | q⟩
      · rfl
      · rfl
      · exact congrArg (fun t : Schema => some (⟨b, some t⟩ : SchemaOrBool Schema))
          (h q (.inr (.inl (List.mem_singleton_self q))))
    have hi : Schema.normItems (items.map fun i => ⟨i.schema.map f⟩) =
        Schema.normItems (items.map fun i => ⟨i.schema.map g⟩) := by
      rcases items with _ | ⟨_ | q⟩
      · rfl
      · rfl
      · exact congrArg (fun t : Schema => some (⟨some t⟩ : SchemaOrArray Schema))
          (h q (.inr (.inr (List.mem_singleton_self q))))
    simp only [toSchema, Schema.normInline, ha, hi,
      normInlines_toSchemas_congr oneOf fun q hq => h q (.inl (.inl hq)),
      normProperties_toProperties_congr properties fun q hq => h q (.inl (.inr hq))]

theorem normInlines_toSchemas_congr : ∀ cs : List GoSchema, (∀ q ∈ pointersOf cs, (f q).norm = (g q).norm) →
    Schema.normInlines (toSchemas f cs) = Schema.normInlines (toSchemas g cs)
  | [], _ => rfl
  | c :: cs, h => by
    simp only [pointersOf, List.mem_append] at h
    simp only [toSchemas, Schema.normInlines, normInline_toSchema_congr c fun q hq => h q (.inl hq),
      normInlines_toSchemas_congr cs fun q hq => h q (.inr hq)]

theorem normProperties_toProperties_congr : ∀ ps : List (String × GoSchema),
    (∀ q ∈ propertyPointers ps, (f q).norm = (g q).norm) →
    Schema.normProperties (toProperties f ps) = Schema.normProperties (toProperties g ps)
  | [], _ => rfl
  | (k, c) :: ps, h => by
    simp only [propertyPointers, List.mem_append] at h
    simp only [toProperties, Schema.normProperties, Schema.norm_eq,
      normInline_toSchema_congr c fun q hq => h q (.inl hq),
      normProperties_toProperties_congr ps fun q hq => h q (.inr hq)]

end

theorem norm_toSchema_congr (c : GoSchema) (h : ∀ q ∈ c.pointers, (f q).norm = (g q).norm) :
    (c.toSchema f).norm = (c.toSchema g).norm := by
  rw [Schema.norm_eq, Schema.norm_eq, normInline_toSchema_congr c h]

end GoSchema

namespace Heap

-- The tree an address holds keeps its normal form across the rewrites of `Type` and the
-- allocations.
theorem Denotes.norm_eq {h H : Heap} {p : Nat} {s₀ s : Schema} (he : h.Extends H) (hd : h.Denotes p s₀)
    (hD : H.Denotes p s) : s.norm = s₀.norm := by
  induction hd generalizing s with
  | @mk p f hp _ ih =>
    cases hD with
    | mk g _ hg =>
      have hq : ∀ q ∈ (h.read p).pointers, (g q).norm = (f q).norm :=
        fun q hq => ih q hq (hg q (by rwa [he.pointers_read hp]))
      rcases he.2 p hp with e | e <;> rw [e]
      · exact GoSchema.norm_toSchema_congr _ hq
      · rw [GoSchema.toSchema_retype, Schema.norm_retype]
        exact GoSchema.norm_toSchema_congr _ hq

-- A descriptor of the call over the heap against one of the tree model: the same fields, the
-- pointer holding in `H` the schema the tree model's descriptor holds.
def FieldDescriptor.Refines (H : Heap) (d : FieldDescriptor) (d' : Kro.FieldDescriptor) : Prop :=
  d.path = d'.path ∧ d.expressions = d'.expressions ∧ d.expectedType = d'.expectedType ∧
    Option.Rel H.Denotes d.expectedSchema d'.expectedSchema ∧ d.standaloneExpression = d'.standaloneExpression

-- The same error, or descriptors that refine the tree model's one by one.
def Refines (H : Heap) : Except Failure (List FieldDescriptor) → Except Failure (List Kro.FieldDescriptor) → Prop
  | .ok L, .ok L' => List.Forall₂ (FieldDescriptor.Refines H) L L'
  | .error e, .error e' => e = e'
  | _, _ => False

section Steps

variable {g : Nat → Schema} {c : GoSchema}

theorem validateSchema_retype (c : GoSchema) (g : Nat → Schema) (path : String) :
    Kro.validateSchema (some (c.retype.toSchema g)) path = Kro.validateSchema (some (c.toSchema g)) path := by
  rw [GoSchema.toSchema_retype, Schema.validateSchema_retype]

theorem getExpectedType_toSchema {vs : ValidatedSchema} (hs : vs.schema = c.toSchema g) :
    getExpectedType c = .ok (Kro.getExpectedType vs) := by
  have ht : c.type = [vs.type] := by rw [← GoSchema.toSchema_type (f := g), ← hs, vs.type_eq]
  simp only [getExpectedType, ht, Kro.getExpectedType, hs, GoSchema.additionalPropertiesAllowed_toSchema]
  split
  · rfl
  · split <;> rfl

-- What a validation the tree model passes leaves to the rest of the call: a closed heap in which
-- `p` holds a schema the rewrite no longer changes, with the same pointers, whose tree is the
-- tree model's validated schema.
theorem validateSchema_step (g : Nat → Schema) {p : Nat} (path : String) {h : Heap} (hc : h.Closed)
    (hp : p < h.size) {vs : ValidatedSchema} (hpv : Kro.validateSchema (some ((h.read p).toSchema g)) path = .ok vs) :
    ∃ h₁, validateSchema (some p) path h = .ok p h₁ ∧ h₁.Closed ∧ p < h₁.size ∧
      (h₁.read p).retype = h₁.read p ∧ (h₁.read p).pointers = (h.read p).pointers ∧
      vs.schema = (h₁.read p).toSchema g := by
  have hv := validateSchema_refines g p path h
  rw [hpv] at hv
  refine ⟨_, hv.1, hc.write_retype p, by simpa using hp, ?_, ?_, ?_⟩ <;> rw [read_write_self hp]
  · exact GoSchema.retype_retype
  · exact GoSchema.pointers_retype
  · exact hv.2

theorem parseObject.preserved_toSchema (field : List (String × Value)) (path expectedType : String) :
    parseObject.preserved field c path expectedType =
      Kro.parseObject.preserved field (c.toSchema g) path expectedType := by
  obtain ⟨_, _, _, _ | _, _, _⟩ := c <;> rfl

theorem parseString_refines {H : Heap} {p : Nat} {vs : ValidatedSchema} (hd : H.Denotes p vs.schema)
    (field path expectedType : String) :
    Refines H (parseStringOf field p path expectedType) (Kro.parseString field vs path expectedType) := by
  unfold Kro.parseString parseStringOf
  cases isStandaloneExpression field with
  | error e => rfl
  | ok b =>
    cases b
    · simp only [except_mapError_ok, except_ok_bind, Bool.false_eq_true, if_false]
      split
      · rfl
      · simp only [except_pure, except_ok_bind]
        cases extractExpressions field with
        | error e => rfl
        | ok es =>
          simp only [except_mapError_ok, except_ok_bind]
          split
          · exact List.Forall₂.cons ⟨rfl, rfl, rfl, .none, rfl⟩ .nil
          · exact List.Forall₂.nil
    · exact List.Forall₂.cons ⟨rfl, rfl, rfl, .some hd, rfl⟩ .nil

theorem parseScalarTypes_refines (H : Heap) (field : Value) (p : Nat) (vs : ValidatedSchema)
    (path expectedType : String) :
    Refines H (parseScalarTypes field p path expectedType) (Kro.parseScalarTypes field vs path expectedType) := by
  unfold parseScalarTypes
  split
  · exact List.Forall₂.nil
  · split <;> (try split) <;> first | exact List.Forall₂.nil | rfl

-- A field's schema, as Go finds it and as the tree model does: an address, new or held by the
-- schema, that holds in any later heap a schema validating as the tree model's.
theorem getFieldSchema_refines (g : Nat → Schema) (p : Nat) (k : String) {h : Heap} (hc : h.Closed) :
    match Kro.getFieldSchema ((h.read p).toSchema g) k with
    | .ok t => ∃ n h', getFieldSchema p k h = .ok (.ok n) h' ∧ n < h'.size ∧
        ∀ H : Heap, h'.Extends H → (∀ q ∈ (h.read p).pointers, H.Denotes q (g q)) →
          ∃ t', H.Denotes n t' ∧ ∀ path, Kro.validateSchema (some t') path = Kro.validateSchema (some t) path
    | .error e => getFieldSchema p k h = .ok (.error e) h := by
  have hp := hc p
  simp only [getFieldSchema, Kro.getFieldSchema, bind, EStateM.bind, deref, GoSchema.toSchema_properties,
    GoSchema.lookup_toProperties, GoSchema.toSchema_additionalProperties]
  generalize h.read p = c at hp ⊢
  cases hk : c.properties.lookup k with
  | some c' =>
    refine ⟨h.size, h.alloc c', rfl, by simp, fun H hH hd => ?_⟩
    have hn : h.size < (h.alloc c').size := by simp
    have he := hH.2 h.size hn
    rw [read_alloc_size] at he
    refine ⟨(H.read h.size).toSchema g, .mk g (Nat.lt_of_lt_of_le hn hH.1) fun q hq => hd q ?_, fun path => ?_⟩
    · rcases he with e | e <;> rw [e] at hq
      · exact c.pointers_of_property hk q hq
      · exact c.pointers_of_property hk q (by simpa using hq)
    · rcases he with e | e <;> rw [e]
      exact validateSchema_retype c' g path
  | none =>
    rcases ha : c.additionalProperties with _ | ⟨_ | _, _ | q⟩
    case some.mk.true.none =>
      refine ⟨h.size, h.alloc GoSchema.empty, rfl, by simp, fun H hH _ => ?_⟩
      have hn : h.size < (h.alloc GoSchema.empty).size := by simp
      have he : H.read h.size = GoSchema.empty := by
        rcases hH.2 h.size hn with e | e <;> rw [e, read_alloc_size]
        rfl
      refine ⟨GoSchema.empty.toSchema g, ?_, fun _ => rfl⟩
      rw [← he]
      exact .mk g (Nat.lt_of_lt_of_le hn hH.1) fun q hq => by rw [he] at hq; nomatch hq
    all_goals first
      | rfl
      | exact ⟨q, h, rfl, hp q (c.pointer_of_additionalProperties ha), fun H _ hd =>
          ⟨g q, hd q (c.pointer_of_additionalProperties ha), fun _ => rfl⟩⟩

-- The schema of an array's items, as Go finds it and as the tree model does.
theorem parseArray.itemSchema_refines (g : Nat → Schema) (field : List Value) (p : Nat)
    (path expectedType : String) (h : Heap) :
    match Kro.parseArray.itemSchema field ((h.read p).toSchema g) path expectedType with
    | .ok t => ∃ q, parseArray.itemSchema field p path expectedType h = .ok q h ∧ q ∈ (h.read p).pointers ∧ t = g q
    | .error e => parseArray.itemSchema field p path expectedType h = .error e h := by
  simp only [parseArray.itemSchema, Kro.parseArray.itemSchema, getArrayItemSchema, Kro.getArrayItemSchema,
    bind, bind_assoc, deref_bind, GoSchema.toSchema_items]
  cases het : (expectedType != "array")
  · simp only [Bool.false_eq_true, if_false, pure_bind, deref_bind]
    rcases hi : (h.read p).items with _ | ⟨_ | q⟩
    · rfl
    · rfl
    · exact ⟨q, rfl, (h.read p).pointer_of_items hi, rfl⟩
  · rfl

section parseResource

variable {v : Value} {p : Nat} {path expectedType : String} {h h' : Heap}

theorem parseResource_error' {e : Failure} (hv : validateSchema (some p) path h = .error e h') :
    parseResource v (some p) path h = .error e h' := by
  rw [parseResource, bind_error hv]

variable (hv : validateSchema (some p) path h = .ok p h')
  (he : getExpectedType (h'.read p) = .ok expectedType)
include hv he

theorem parseResource_expected :
    parseResource v (some p) path h = (match v with
      | .object field => do
        if ← liftExcept (parseObject.preserved field (← deref p) path expectedType) then return []
        parseObject.loop field p path
      | .array field => do
        let itemSchema ← parseArray.itemSchema field p path expectedType
        parseArray.loop field itemSchema path 0
      | .string field => liftExcept (parseStringOf field p path expectedType)
      | .null => return []
      | field => liftExcept (parseScalarTypes field p path expectedType)) h' := by
  cases v <;> rw [parseResource, bind_ok hv, bind_ok (show deref p h' = .ok (h'.read p) h' from rfl),
    bind_ok (show (liftExcept (getExpectedType (h'.read p)) : HeapM String) h' = .ok expectedType h' by
      rw [liftExcept_apply, he])]

theorem parseResource_object (field : List (String × Value)) :
    parseResource (.object field) (some p) path h =
      match parseObject.preserved field (h'.read p) path expectedType with
      | .ok true => .ok [] h'
      | .ok false => parseObject.loop field p path h'
      | .error e => .error e h' := by
  rw [parseResource_expected hv he]
  dsimp only
  rw [bind_ok (show deref p h' = .ok (h'.read p) h' from rfl)]
  rcases parseObject.preserved field (h'.read p) path expectedType with _ | _ | _ <;> rfl

theorem parseResource_array (field : List Value) :
    parseResource (.array field) (some p) path h =
      (parseArray.itemSchema field p path expectedType >>= fun is => parseArray.loop field is path 0) h' := by
  rw [parseResource_expected hv he]

theorem parseResource_string (field : String) :
    parseResource (.string field) (some p) path h =
      (liftExcept (parseStringOf field p path expectedType) : HeapM _) h' := by
  rw [parseResource_expected hv he]

theorem parseResource_null : parseResource .null (some p) path h = .ok [] h' := by
  rw [parseResource_expected hv he]; rfl

theorem parseResource_scalar
    (hf : ∀ fs xs s, v ≠ .object fs ∧ v ≠ .array xs ∧ v ≠ .string s ∧ v ≠ .null) :
    parseResource v (some p) path h = (liftExcept (parseScalarTypes v p path expectedType) : HeapM _) h' := by
  rw [parseResource_expected hv he]
  cases v <;> simp at hf <;> rfl

end parseResource

end Steps

section Refinement

variable (H : Heap)

-- Descriptors that refine the tree model's, followed by more that do, refine it appended.
theorem Refines.append {a b : Except Failure (List FieldDescriptor)} {a' b' : Except Failure (List Kro.FieldDescriptor)}
    (ha : Refines H a a') (hb : ∀ L, a = .ok L → Refines H b b') :
    Refines H (do let l₁ ← a; let l₂ ← b; pure (l₁ ++ l₂)) (do let l₁ ← a'; let l₂ ← b'; pure (l₁ ++ l₂)) :=
  match a, a', b, b', ha, hb with
  | .ok _, .ok _, .ok _, .ok _, ha, hb => List.rel_append ha (hb _ rfl)
  | .ok _, .ok _, .ok _, .error _, _, hb => (hb _ rfl).elim
  | .ok _, .ok _, .error _, .ok _, _, hb => (hb _ rfl).elim
  | .ok _, .ok _, .error _, .error _, _, hb => hb _ rfl
  | .error _, .error _, _, _, ha, _ => ha

-- Two calls in a row that each refine the tree model's refine it together, the first in any
-- heap the second grows into `H`.
theorem refines_append {x : HeapM (List FieldDescriptor)} {y : List FieldDescriptor → HeapM (List FieldDescriptor)}
    {x' y' : Except Failure (List Kro.FieldDescriptor)} {h : Heap}
    (hx : (after (x h)).Extends H → Refines H (value (x h)) x')
    (hy : ∀ L h', x h = .ok L h' → (after (y L h')).Extends H →
      h'.Extends (after (y L h')) ∧ Refines H (value (y L h')) y')
    (hH : (after ((x >>= fun L₁ => y L₁ >>= fun L₂ => pure (L₁ ++ L₂)) h)).Extends H) :
    Refines H (value ((x >>= fun L₁ => y L₁ >>= fun L₂ => pure (L₁ ++ L₂)) h))
      (x' >>= fun L₁ => y' >>= fun L₂ => pure (L₁ ++ L₂)) := by
  cases hxh : x h with
  | error e h' =>
    rw [bind_error hxh] at hH ⊢
    have hrx := hx (by rwa [hxh])
    rw [hxh] at hrx
    cases x' with
    | error => exact hrx
    | ok => exact hrx.elim
  | ok L h' =>
    rw [bind_ok hxh, after_bind_pure] at hH
    rw [bind_ok hxh, value_bind_pure]
    obtain ⟨hgrow, hry⟩ := hy L h' hxh hH
    have hrx := hx (by rw [hxh]; exact hgrow.trans hH)
    rw [hxh] at hrx
    exact Refines.append H hrx fun _ _ => hry

mutual

theorem parseResource_refines : ∀ (v : Value) (p : Nat) (path : String) (h : Heap) (s : Schema),
    h.Closed → p < h.size → H.Denotes p s → (after (parseResource v (some p) path h)).Extends H →
    Refines H (value (parseResource v (some p) path h)) (Kro.parseResource v (some s) path)
  | v, p, path, h, s, hc, hp, hs, hH => by
    have hhH : h.Extends H := ((parseResource_grows v (some p) path) h hc).1.trans hH
    obtain ⟨g, hg, rfl⟩ : ∃ g : Nat → Schema, (∀ q ∈ (h.read p).pointers, H.Denotes q (g q)) ∧
        s = (H.read p).toSchema g := by
      cases id hs with
      | mk g _ hg => exact ⟨g, fun q hq => hg q (by rwa [hhH.pointers_read hp]), rfl⟩
    have hval : ∀ path, Kro.validateSchema (some ((H.read p).toSchema g)) path =
        Kro.validateSchema (some ((h.read p).toSchema g)) path := fun path => by
      rcases hhH.2 p hp with e | e <;> rw [e]
      exact validateSchema_retype _ g path
    cases hpv : Kro.validateSchema (some ((h.read p).toSchema g)) path with
    | error e =>
      have hv := validateSchema_refines g p path h
      rw [hpv] at hv
      rw [parseResource_error' hv, Kro.parseResource_error ((hval path).trans hpv)]
      rfl
    | ok vs =>
      obtain ⟨h₁, hv, hc₁, hp₁, hfix, hptr, hvs⟩ := validateSchema_step g path hc hp hpv
      have he := getExpectedType_toSchema hvs
      have hpv' := (hval path).trans hpv
      rw [← hptr] at hg
      cases v with
      | object fs =>
        rw [parseResource_object hv he, parseObject.preserved_toSchema (g := g)] at hH ⊢
        rw [Kro.parseResource_object hpv', Kro.parseObject, hvs]
        cases hpr : Kro.parseObject.preserved fs ((h₁.read p).toSchema g) path (Kro.getExpectedType vs) with
        | error e => rfl
        | ok b =>
          cases b
          · simp only [hpr, except_ok_bind, Bool.false_eq_true, if_false] at hH ⊢
            exact parseObject_loop_refines fs p path h₁ g hc₁ hp₁ hfix hg hH
          · exact List.Forall₂.nil
      | array xs =>
        rw [parseResource_array hv he] at hH ⊢
        rw [Kro.parseResource_array hpv', Kro.parseArray, hvs]
        have hi := parseArray.itemSchema_refines g xs p path (Kro.getExpectedType vs) h₁
        cases hpi : Kro.parseArray.itemSchema xs ((h₁.read p).toSchema g) path (Kro.getExpectedType vs) with
        | error e =>
          rw [hpi] at hi
          rw [bind_error hi]
          rfl
        | ok t =>
          rw [hpi] at hi
          obtain ⟨q, hiq, hq, rfl⟩ := hi
          rw [bind_ok hiq] at hH ⊢
          exact parseArray_loop_refines xs q path 0 h₁ (g q) hc₁ (hc₁ p q hq) (hg q hq) hH
      | string str =>
        rw [parseResource_string hv he, after_liftExcept] at hH
        rw [parseResource_string hv he, value_liftExcept, Kro.parseResource_string hpv']
        refine parseString_refines ?_ str path _
        rwa [hvs, ← hH.read_of_retype_eq hp₁ hfix]
      | null =>
        rw [parseResource_null hv he, Kro.parseResource_null hpv']
        exact List.Forall₂.nil
      | bool _ | int _ | int32 _ | int64 _ | float64 _ =>
        rw [parseResource_scalar hv he (by simp), Kro.parseResource_scalar hpv' (by simp), value_liftExcept]
        exact parseScalarTypes_refines H _ p vs path _

theorem parseObject_loop_refines : ∀ (fs : List (String × Value)) (p : Nat) (path : String) (h : Heap)
    (g : Nat → Schema), h.Closed → p < h.size → (h.read p).retype = h.read p →
    (∀ q ∈ (h.read p).pointers, H.Denotes q (g q)) → (after (parseObject.loop fs p path h)).Extends H →
    Refines H (value (parseObject.loop fs p path h)) (Kro.parseObject.loop fs ((h.read p).toSchema g) path)
  | [], _, _, _, _, _, _, _, _, _ => List.Forall₂.nil
  | (k, v) :: fs, p, path, h, g, hc, hp, hfix, hg, hH => by
    rw [parseObject.loop] at hH ⊢
    rw [Kro.parseObject.loop]
    have hf := getFieldSchema_refines g p k hc
    have hgrow := getFieldSchema_grows p k h hc
    cases hpf : Kro.getFieldSchema ((h.read p).toSchema g) k with
    | error e =>
      rw [hpf] at hf
      rw [bind_ok hf]
      rfl
    | ok t =>
      rw [hpf] at hf
      obtain ⟨n, h₁, hf, hn, hden⟩ := hf
      rw [hf] at hgrow
      obtain ⟨hh₁, hc₁⟩ := hgrow
      have hpure : (pure n : HeapM Nat) h₁ = .ok n h₁ := rfl
      rw [bind_ok hf] at hH ⊢
      dsimp only at hH ⊢
      rw [bind_ok hpure] at hH ⊢
      rw [except_mapError_ok, except_ok_bind]
      refine refines_append H (fun hH' => ?_) (fun L h₂ hx hH' => ?_) hH
      · obtain ⟨t', ht', hvt⟩ := hden H ((parseResource_grows v (some n) _ h₁ hc₁).1.trans hH') hg
        rw [← parseResource_validate_congr hvt]
        exact parseResource_refines v n _ h₁ t' hc₁ hn ht' hH'
      · have hg₂ := parseResource_grows v (some n) (joinPathAndFieldName path k) h₁ hc₁
        rw [hx] at hg₂
        obtain ⟨hh₂, hc₂⟩ := hg₂
        have hh : h.Extends h₂ := hh₁.trans hh₂
        have hr : h₂.read p = h.read p := hh.read_of_retype_eq hp hfix
        rw [← hr] at hfix hg ⊢
        exact ⟨(parseObject_loop_grows fs p path h₂ hc₂).1,
          parseObject_loop_refines fs p path h₂ g hc₂ (Nat.lt_of_lt_of_le hp hh.1) hfix hg hH'⟩

theorem parseArray_loop_refines : ∀ (xs : List Value) (q : Nat) (path : String) (i : Nat) (h : Heap)
    (t : Schema), h.Closed → q < h.size → H.Denotes q t → (after (parseArray.loop xs q path i h)).Extends H →
    Refines H (value (parseArray.loop xs q path i h)) (Kro.parseArray.loop xs t path i)
  | [], _, _, _, _, _, _, _, _, _ => List.Forall₂.nil
  | x :: xs, q, path, i, h, t, hc, hq, ht, hH => by
    rw [parseArray.loop] at hH ⊢
    rw [Kro.parseArray.loop]
    refine refines_append H (parseResource_refines x q _ h t hc hq ht) (fun L h' hx hH' => ?_) hH
    have hg := parseResource_grows x (some q) (itemPath path i) h hc
    rw [hx] at hg
    exact ⟨(parseArray_loop_grows xs q path (i + 1) h' hg.2).1,
      parseArray_loop_refines xs q path (i + 1) h' t hg.2 (Nat.lt_of_lt_of_le hq hg.1.1) ht hH'⟩

end

end Refinement

-- A call over a heap whose schema at `p` holds a tree: the heap only grows, with `Type`s
-- rewritten as validateSchema rewrites them, and no pointer dangles; `p` then holds a tree of the
-- same normal form, on which the call refines the tree model.
theorem parseResource_refines_root (v : Value) (p : Nat) (path : String) (h : Heap) (s₀ : Schema)
    (hc : h.Closed) (hs : h.Denotes p s₀) :
    h.Extends (after (parseResource v (some p) path h)) ∧ (after (parseResource v (some p) path h)).Closed ∧
      ∃ s, (after (parseResource v (some p) path h)).Denotes p s ∧ s.norm = s₀.norm ∧
        Refines (after (parseResource v (some p) path h)) (value (parseResource v (some p) path h))
          (Kro.parseResource v (some s) path) := by
  obtain ⟨he, hc'⟩ := parseResource_grows v (some p) path h hc
  obtain ⟨s, hs'⟩ := hs.extends he
  exact ⟨he, hc', s, hs', hs.norm_eq he hs', parseResource_refines _ v p path h s hc hs.size_lt hs' (.refl _)⟩

-- A whole call of ParseResource over a heap whose root holds a schema tree: the heap only
-- grows, with `Type`s rewritten as validateSchema rewrites them, and no pointer dangles; the
-- root then holds a tree of the normal form of the one it held, and the call fails as the tree
-- model does on that tree, or returns the tree model's descriptors, each ExpectedSchema the
-- address of the schema the tree model gives. On the tree the caller passed, the tree model
-- gives the same outcome up to the normal form of the ExpectedSchemas.
theorem ParseResource_refines (resource : List (String × Value)) (p : Nat) (h : Heap) (s₀ : Schema)
    (hc : h.Closed) (hs : h.Denotes p s₀) :
    h.Extends (after (ParseResource resource (some p) h)) ∧ (after (ParseResource resource (some p) h)).Closed ∧
      ∃ s, (after (ParseResource resource (some p) h)).Denotes p s ∧ s.norm = s₀.norm ∧
        Refines (after (ParseResource resource (some p) h)) (value (ParseResource resource (some p) h))
          (Kro.ParseResource resource (some s)) ∧
        (Kro.ParseResource resource (some s)).map (List.map FieldDescriptor.norm) =
          (Kro.ParseResource resource (some s₀)).map (List.map FieldDescriptor.norm) := by
  obtain ⟨he, hc', s, hs', hn, hr⟩ := parseResource_refines_root (.object resource) p "" h s₀ hc hs
  exact ⟨he, hc', s, hs', hn, hr, parseResource_norm (.object resource) s s₀ "" hn⟩

-- A resource schema whose AdditionalProperties point at a schema with no single `Type`, which
-- its first OneOf alternative gives one.
def sampleHeap : Heap :=
  [⟨["object"], [], [], some ⟨true, some 1⟩, none, []⟩,
    ⟨[], [⟨["string"], [], [], none, none, []⟩], [], none, none, []⟩]

def sampleSchema : Schema :=
  (sampleHeap.read 0).toSchema fun _ => (sampleHeap.read 1).toSchema fun _ => Schema.empty

theorem sampleHeap_closed : sampleHeap.Closed := Closed.of_lt (by decide)

theorem sampleHeap_denotes : sampleHeap.Denotes 0 sampleSchema :=
  .mk _ (by decide) fun q hq => by
    obtain rfl : q = 1 := List.mem_singleton.1 hq
    exact .mk _ (by decide) nofun

theorem ParseResource_refines_sample :
    sampleHeap.Closed ∧ sampleHeap.Denotes 0 sampleSchema ∧
    sampleHeap.Extends (after (ParseResource [("a", .string "$\x7bx\x7d")] (some 0) sampleHeap)) ∧
      (after (ParseResource [("a", .string "$\x7bx\x7d")] (some 0) sampleHeap)).Closed ∧
      ∃ s, (after (ParseResource [("a", .string "$\x7bx\x7d")] (some 0) sampleHeap)).Denotes 0 s ∧
        s.norm = sampleSchema.norm ∧
        Refines (after (ParseResource [("a", .string "$\x7bx\x7d")] (some 0) sampleHeap))
          (value (ParseResource [("a", .string "$\x7bx\x7d")] (some 0) sampleHeap))
          (Kro.ParseResource [("a", .string "$\x7bx\x7d")] (some s)) ∧
        (Kro.ParseResource [("a", .string "$\x7bx\x7d")] (some s)).map (List.map FieldDescriptor.norm) =
          (Kro.ParseResource [("a", .string "$\x7bx\x7d")] (some sampleSchema)).map
            (List.map FieldDescriptor.norm) :=
  ⟨sampleHeap_closed, sampleHeap_denotes,
    ParseResource_refines _ 0 sampleHeap _ sampleHeap_closed sampleHeap_denotes⟩

end Heap

end Kro
