import Kro.Parser.Theorems.Extraction

namespace Kro

-- An outcome that is a result or a returned error, never a Go runtime panic.
def NoPanic {α : Type} (r : Except Failure α) : Prop :=
  ∀ p, r ≠ .error (.panic p)

namespace NoPanic

variable {α β ε : Type}

theorem ok (a : α) : NoPanic (.ok a : Except Failure α) :=
  fun _ h => by cases h

theorem error (e : ParseError) : NoPanic (.error (.error e) : Except Failure α) :=
  fun _ h => by cases h

theorem mapError (x : Except ε α) (g : ε → ParseError) : NoPanic (x.mapError fun e => .error (g e)) := by
  cases x
  · exact error _
  · exact ok _

theorem bind {x : Except Failure α} {f : α → Except Failure β} (hx : NoPanic x)
    (hf : ∀ a, x = .ok a → NoPanic (f a)) : NoPanic (x >>= f) := by
  cases x with
  | error e =>
    intro p h
    rw [except_error_bind] at h
    cases h
    exact hx p rfl
  | ok a => exact hf a rfl

end NoPanic

namespace Schema

-- A node on which validation cannot index an untyped `OneOf` alternative, and whose
-- preserve-unknown-fields flag, if any, passes the `bool` assertion.
def nodePanicFree (s : Schema) : Bool :=
  (s.type.length == 1 || s.oneOf.head?.all (!·.type.isEmpty)) && s.preserveFlagIsBool

-- Every node the parser can reach from this one is panic-free.
inductive PanicFree : Schema → Prop
  | mk {s : Schema} : s.nodePanicFree → (∀ kv ∈ s.properties, PanicFree kv.2) →
      (∀ a, s.additionalProperties.bind (·.schema) = some a → PanicFree a) →
      (∀ is, s.items.bind (·.schema) = some is → PanicFree is) → PanicFree s

theorem PanicFree.node {s : Schema} : s.PanicFree → s.nodePanicFree
  | ⟨h, _, _, _⟩ => h

theorem PanicFree.flag {s : Schema} (h : s.PanicFree) : s.preserveFlagIsBool := by
  have := h.node
  simp only [nodePanicFree, Bool.and_eq_true] at this
  exact this.2

theorem getFieldSchema_panicFree {s f : Schema} {field : String} (hs : s.PanicFree)
    (h : getFieldSchema s field = .ok f) : f.PanicFree := by
  obtain ⟨-, hp, ha, -⟩ := hs
  unfold getFieldSchema at h
  split at h
  · next hl =>
    cases h
    obtain ⟨l₁, l₂, he, -⟩ := List.lookup_eq_some_iff.mp hl
    exact hp (field, f) (by rw [he]; simp)
  · split at h
    · next hs => cases h; exact ha f (by rw [hs]; rfl)
    · cases h; exact ⟨by decide, nofun, nofun, nofun⟩
    · cases h

theorem getArrayItemSchema_panicFree {s is : Schema} {path : String} (hs : s.PanicFree)
    (h : getArrayItemSchema s path = .ok is) : is.PanicFree := by
  obtain ⟨-, -, -, hi⟩ := hs
  rw [getArrayItemSchema_eq] at h
  split at h
  · next hs => cases h; exact hi is (by rw [hs]; rfl)
  · cases h

end Schema

theorem validateSchema_noPanic {s : Schema} (h : s.nodePanicFree) (path : String) :
    NoPanic (validateSchema (some s) path) := by
  simp only [Schema.nodePanicFree, Bool.and_eq_true, Bool.or_eq_true, beq_iff_eq] at h
  simp only [validateSchema]
  split
  · exact NoPanic.ok _
  · next hne =>
    split
    · exact NoPanic.error _
    · next alt _ hone =>
      split
      · next hty =>
        have : s.type.length ≠ 1 := fun hl => by
          obtain ⟨t, ht⟩ := List.length_eq_one.mp hl
          exact hne t ht
        simp [hone, hty, this] at h
      · exact NoPanic.ok _

theorem parseObject.preserved_noPanic {field : List (String × Value)} {schema : Schema}
    {path expectedType : String} (h : schema.preserveFlagIsBool) :
    NoPanic (parseObject.preserved field schema path expectedType) := by
  unfold parseObject.preserved
  unfold Schema.preserveFlagIsBool at h
  split
  · exact NoPanic.error _
  · split
    · cases hl : schema.extensions.lookup xKubernetesPreserveUnknownFields with
      | none => exact NoPanic.ok _
      | some v =>
        rw [hl] at h
        cases v <;> first | exact NoPanic.ok _ | simp at h
    · exact NoPanic.ok _

theorem parseString_noPanic (field : String) (schema : ValidatedSchema) (path expectedType : String) :
    NoPanic (parseString field schema path expectedType) := by
  refine NoPanic.bind (NoPanic.mapError _ id) fun ok _ => ?_
  cases ok
  · simp only [Bool.false_eq_true, if_false]
    split
    · exact NoPanic.error _
    · simp only [except_pure, except_ok_bind]
      refine NoPanic.bind (NoPanic.mapError _ id) fun es _ => ?_
      split <;> exact NoPanic.ok _
  · exact NoPanic.ok _

theorem parseScalarTypes_noPanic {σ α : Type} (field : Value) (schema : σ) (path expectedType : String) :
    NoPanic (parseScalarTypes field schema path expectedType : Except Failure (List α)) := by
  unfold parseScalarTypes
  split
  · exact NoPanic.ok _
  · split <;> (try split) <;> first | exact NoPanic.ok _ | exact NoPanic.error _

mutual

theorem parseResource_noPanic : ∀ (v : Value) (s : Schema) (path : String), s.PanicFree →
    NoPanic (parseResource v (some s) path)
  | v, s, path, hs => by
    cases hv : validateSchema (some s) path with
    | error f =>
      rw [parseResource_error hv]
      rintro p ⟨⟩
      exact validateSchema_noPanic hs.node path p hv
    | ok vs =>
      have hvs := validateSchema_ok hv
      match v with
      | .object fs =>
        rw [parseResource_object hv, parseObject]
        refine NoPanic.bind (parseObject.preserved_noPanic (by rw [hvs]; exact hs.flag)) fun b _ => ?_
        cases b
        · exact parseObject_loop_noPanic fs vs.schema path fun k f hf =>
            Schema.getFieldSchema_panicFree hs (by rwa [hvs, getFieldSchema_withType] at hf)
        · exact NoPanic.ok _
      | .array xs =>
        rw [parseResource_array hv, parseArray]
        have hi : NoPanic (parseArray.itemSchema xs vs.schema path (getExpectedType vs)) := by
          unfold parseArray.itemSchema
          split
          · exact NoPanic.error _
          · exact NoPanic.mapError _ id
        refine NoPanic.bind hi fun is his => parseArray_loop_noPanic xs is path 0 ?_
        have := parseArray.itemSchema_ok his
        rw [hvs, getArrayItemSchema_withType] at this
        exact Schema.getArrayItemSchema_panicFree hs this
      | .string str =>
        rw [parseResource_string hv]
        exact parseString_noPanic str vs path _
      | .null =>
        rw [parseResource_null hv]
        exact NoPanic.ok _
      | .bool _ | .int _ | .int32 _ | .int64 _ | .float64 _ =>
        rw [parseResource_scalar hv (by simp)]
        exact parseScalarTypes_noPanic _ vs path _

theorem parseObject_loop_noPanic : ∀ (fs : List (String × Value)) (t : Schema) (path : String),
    (∀ k f, getFieldSchema t k = .ok f → f.PanicFree) → NoPanic (parseObject.loop fs t path)
  | [], _, _, _ => NoPanic.ok _
  | (k, v) :: fs, t, path, ht => by
    rw [parseObject.loop]
    refine NoPanic.bind (NoPanic.mapError _ _) fun f hf => ?_
    refine NoPanic.bind (parseResource_noPanic v f _ (ht k f ((except_mapError_eq_ok _ _).mp hf)))
      fun _ _ => NoPanic.bind (parseObject_loop_noPanic fs t path ht) fun _ _ => NoPanic.ok _

theorem parseArray_loop_noPanic : ∀ (xs : List Value) (is : Schema) (path : String) (i : Nat),
    is.PanicFree → NoPanic (parseArray.loop xs is path i)
  | [], _, _, _, _ => NoPanic.ok _
  | x :: xs, is, path, i, hi => by
    rw [parseArray.loop]
    exact NoPanic.bind (parseResource_noPanic x is _ hi)
      fun _ _ => NoPanic.bind (parseArray_loop_noPanic xs is path (i + 1) hi) fun _ _ => NoPanic.ok _

end

theorem ParseResource_noPanic (resource : List (String × Value)) (resourceSchema : Option Schema)
    (hs : ∀ s ∈ resourceSchema, s.PanicFree) : NoPanic (ParseResource resource resourceSchema) := by
  cases resourceSchema with
  | none => exact NoPanic.error _
  | some s => exact parseResource_noPanic _ s "" (hs s rfl)

-- A typed object whose one field is a string.
theorem ParseResource_noPanic_name :
    (∀ s ∈ some (⟨["object"], [], [("name", ⟨["string"], [], [], none, none, []⟩)], none, none, []⟩ : Schema),
      s.PanicFree) ∧
    NoPanic (ParseResource [("name", .string "$\x7bweb.metadata.name\x7d")]
      (some ⟨["object"], [], [("name", ⟨["string"], [], [], none, none, []⟩)], none, none, []⟩)) :=
  have hs : ∀ s ∈ some (⟨["object"], [], [("name", ⟨["string"], [], [], none, none, []⟩)], none, none, []⟩ :
      Schema), s.PanicFree := by
    rintro s ⟨⟩
    refine ⟨by decide, fun kv hkv => ?_, nofun, nofun⟩
    simp only [List.mem_singleton] at hkv
    subst hkv
    exact ⟨by decide, nofun, nofun, nofun⟩
  ⟨hs, ParseResource_noPanic _ _ hs⟩

-- Validation indexes the first type of an untyped `OneOf` alternative, and the preserve flag is
-- asserted to be a `bool`.
theorem ParseResource_untyped_oneOf_panics :
    ParseResource [] (some ⟨[], [Schema.empty], [], none, none, []⟩) =
      .error (.panic (.indexOutOfRange 0 0)) ∧
    ParseResource [] (some ⟨["object"], [], [], none, none,
      [(xKubernetesPreserveUnknownFields, .string "true")]⟩) =
      .error (.panic (.interfaceConversion "string" "bool")) := ⟨rfl, rfl⟩

end Kro
