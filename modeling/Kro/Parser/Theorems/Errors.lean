import Kro.Parser.Parser

namespace Kro

-- The scanner fails only on a `$\x7b` that is never closed.
theorem extractExpressions.scan_error {e : ParseError} (st : Option (Nat × List Char)) (cs : List Char)
    (h : scan st cs = .error e) : e = .unclosedExpression := by
  induction st, cs using extractExpressions.scan.induct with
  | case1 => nomatch h
  | case2 _ ih => rw [scan] at h; exact ih h
  | case3 _ _ hne ih => rw [scan] at h; exacts [ih h, hne]
  | case4 => exact (Except.error.inj h).symm
  | case5 _ cs ih =>
    rw [scan, if_pos rfl, if_pos rfl] at h
    cases hs : scan none cs with
    | error => rw [hs] at h; cases h; exact ih hs
    | ok => rw [hs] at h; nomatch h
  | case6 _ _ _ hd ih => rw [scan, if_pos rfl, if_neg hd] at h; exact ih h
  | case7 _ _ _ hc ih => rw [scan, if_neg hc, if_pos rfl] at h; exact ih h
  | case8 _ _ _ _ hc hc' ih => rw [scan, if_neg hc, if_neg hc'] at h; exact ih h

theorem isStandaloneExpression_error {s : String} {e : ParseError} (h : isStandaloneExpression s = .error e) :
    e = .unclosedExpression := by
  unfold isStandaloneExpression at h
  cases hx : extractExpressions s with
  | error => rw [hx] at h; cases h; exact extractExpressions.scan_error _ _ hx
  | ok => rw [hx, except_ok_bind] at h; split at h <;> nomatch h

theorem getFieldSchema_error {s : Schema} {field : String} {e : ParseError} (h : getFieldSchema s field = .error e) :
    e = .schemaNotFound field := by
  unfold getFieldSchema at h
  split at h
  · nomatch h
  · split at h <;> cases h
    rfl

-- `u` is the node of the document `v` that the steps `l` lead to.
inductive Value.At : Value → List PathStep → Value → Prop
  | here (v : Value) : Value.At v [] v
  | field {fs : List (String × Value)} {k : String} {w u : Value} {l : List PathStep} :
      (k, w) ∈ fs → Value.At w l u → Value.At (.object fs) (.field k :: l) u
  | index {xs : List Value} {i : Nat} {w u : Value} {l : List PathStep} :
      xs[i]? = some w → Value.At w l u → Value.At (.array xs) (.index i :: l) u

-- What an error prints about the node `u` that the steps `l` lead to, in a document whose path is
-- `base`: that node's path, and its value or its `%T`. A field without a schema is printed as its
-- map's path, a dot and its name, unquoted.
def ParseError.Names (base : String) (l : List PathStep) (u : Value) : ParseError → Prop
  | .schemaNil path => path = encodePath base l
  | .expectedObject path field | .expectedArray path field => path = encodePath base l ∧ field = u
  | .expectedString path field => path = encodePath base l ∧ u = .string field
  | .expectedScalarType _ path got | .unexpectedType path got => path = encodePath base l ∧ got = u.typeName
  | .invalidArraySchema path => path = encodePath base l ∧ ∃ xs, u = .array xs
  | .fieldSchema path cause =>
    ∃ fs k w, path = encodePath base l ++ "." ++ k ∧ cause = .schemaNotFound k ∧ u = .object fs ∧ (k, w) ∈ fs
  | .notSingleType _ | .schemaNotFound _ | .unclosedExpression => True

def ParseError.LocatedIn (v : Value) (base : String) (e : ParseError) : Prop :=
  ∃ l u, v.At l u ∧ e.Names base l u

-- Every error of an outcome names a node of the document `v` at path `base`.
def ErrorsLocated {α : Type} (v : Value) (base : String) (r : Except Failure α) : Prop :=
  ∀ e, r = .error (.error e) → e.LocatedIn v base

namespace ErrorsLocated

variable {α β : Type} {v : Value} {base : String}

theorem ok (a : α) : ErrorsLocated v base (.ok a : Except Failure α) :=
  fun _ h => nomatch h

theorem panic (p : RuntimePanic) : ErrorsLocated v base (.error (.panic p) : Except Failure α) :=
  fun _ h => nomatch h

theorem here {e : ParseError} (h : e.Names base [] v) : ErrorsLocated v base (.error (.error e) : Except Failure α) :=
  fun _ he => by cases he; exact ⟨[], v, .here v, h⟩

theorem bind {x : Except Failure α} {f : α → Except Failure β} (hx : ErrorsLocated v base x)
    (hf : ∀ a, x = .ok a → ErrorsLocated v base (f a)) : ErrorsLocated v base (x >>= f) := by
  cases x with
  | error =>
    intro e he
    cases he
    exact hx e rfl
  | ok a => exact hf a rfl

-- A scanner outcome, whose errors name no path.
theorem unclosed {x : Except ParseError α} (hx : ∀ e, x = .error e → e = .unclosedExpression) :
    ErrorsLocated v base (x.mapError .error) := by
  cases x with
  | ok a => exact .ok a
  | error e => rw [hx e rfl]; exact .here trivial

-- What a child's errors name, its parent's name one step further down.
theorem child {w : Value} {step : PathStep} {r : Except Failure α}
    (hstep : ∀ {l u}, w.At l u → v.At (step :: l) u) (h : ErrorsLocated w (step.append base) r) :
    ErrorsLocated v base r := fun e he =>
  let ⟨l, u, hat, hn⟩ := h e he
  ⟨step :: l, u, hstep hat, hn⟩

end ErrorsLocated

theorem validateSchema_errorsLocated (schema : Option Schema) (base : String) (v : Value) :
    ErrorsLocated v base (validateSchema schema base) := by
  unfold validateSchema
  split
  · exact .here rfl
  · split
    · exact .ok _
    · split
      · exact .here trivial
      · split
        · exact .panic _
        · exact .ok _

theorem parseObject.preserved_errorsLocated (field : List (String × Value)) (schema : Schema)
    (path expectedType : String) :
    ErrorsLocated (.object field) path (parseObject.preserved field schema path expectedType) := by
  unfold parseObject.preserved
  split
  · exact .here ⟨rfl, rfl⟩
  · split
    · split <;> first | exact .ok _ | exact .panic _
    · exact .ok _

theorem parseArray.itemSchema_errorsLocated (field : List Value) (schema : Schema) (path expectedType : String) :
    ErrorsLocated (.array field) path (parseArray.itemSchema field schema path expectedType) := by
  unfold parseArray.itemSchema
  split
  · exact .here ⟨rfl, rfl⟩
  · rw [getArrayItemSchema_eq]
    split
    · exact .ok _
    · exact .here ⟨rfl, _, rfl⟩

theorem parseString_errorsLocated (field : String) (schema : ValidatedSchema) (path expectedType : String) :
    ErrorsLocated (.string field) path (parseString field schema path expectedType) := by
  refine .bind (.unclosed fun _ => isStandaloneExpression_error) fun ok _ => ?_
  cases ok
  · simp only [Bool.false_eq_true, if_false]
    split
    · exact .here ⟨rfl, rfl⟩
    · simp only [except_pure, except_ok_bind]
      refine .bind (.unclosed fun _ => extractExpressions.scan_error _ _) fun _ _ => ?_
      split <;> exact .ok _
  · exact .ok _

theorem parseScalarTypes_errorsLocated {σ α : Type} (field : Value) (schema : σ) (path expectedType : String) :
    ErrorsLocated field path (parseScalarTypes field schema path expectedType : Except Failure (List α)) := by
  unfold parseScalarTypes
  split
  · exact .ok _
  · split <;> (try split) <;> first | exact .ok _ | exact .here ⟨rfl, rfl⟩

mutual

theorem parseResource_errorsLocated : ∀ (v : Value) (schema : Option Schema) (path : String),
    ErrorsLocated v path (parseResource v schema path)
  | v, schema, path => by
    cases hv : validateSchema schema path with
    | error =>
      rw [parseResource_error hv]
      rintro e ⟨⟩
      exact validateSchema_errorsLocated schema path v e hv
    | ok vs =>
      match v with
      | .object fs =>
        rw [parseResource_object hv, parseObject]
        refine .bind (parseObject.preserved_errorsLocated fs vs.schema path _) fun b _ => ?_
        cases b
        · exact parseObject_loop_errorsLocated fs fs vs.schema path fun _ => id
        · exact .ok _
      | .array xs =>
        rw [parseResource_array hv, parseArray]
        exact .bind (parseArray.itemSchema_errorsLocated xs vs.schema path _) fun is _ =>
          parseArray_loop_errorsLocated xs xs is path 0 rfl
      | .string str =>
        rw [parseResource_string hv]
        exact parseString_errorsLocated str vs path _
      | .null =>
        rw [parseResource_null hv]
        exact .ok _
      | .bool _ | .int _ | .int32 _ | .int64 _ | .float64 _ =>
        rw [parseResource_scalar hv (by simp)]
        exact parseScalarTypes_errorsLocated _ vs path _

-- The loop over a part `field` of the map `all`.
theorem parseObject_loop_errorsLocated : ∀ (field all : List (String × Value)) (schema : Schema) (path : String),
    (∀ kv ∈ field, kv ∈ all) → ErrorsLocated (.object all) path (parseObject.loop field schema path)
  | [], _, _, _, _ => .ok _
  | (k, w) :: field, all, schema, path, hf => by
    have hk : (k, w) ∈ all := hf _ (List.mem_cons_self _ _)
    rw [parseObject.loop]
    refine .bind ?_ fun _ _ => .bind (.child (.field hk) (parseResource_errorsLocated w _ _)) fun _ _ =>
      .bind (parseObject_loop_errorsLocated field all schema path fun kv h => hf kv (List.mem_cons_of_mem _ h))
        fun _ _ => .ok _
    cases hs : getFieldSchema schema k with
    | ok => exact .ok _
    | error => exact .here ⟨all, k, w, rfl, getFieldSchema_error hs, rfl, hk⟩

-- The loop over the items of `all` from the `i`-th on.
theorem parseArray_loop_errorsLocated : ∀ (field all : List Value) (itemSchema : Schema) (path : String) (i : Nat),
    all.drop i = field → ErrorsLocated (.array all) path (parseArray.loop field itemSchema path i)
  | [], _, _, _, _, _ => .ok _
  | x :: field, all, itemSchema, path, i, hd => by
    have hx : all[i]? = some x := by rw [← Nat.add_zero i, ← List.getElem?_drop, hd, List.getElem?_cons_zero]
    rw [parseArray.loop]
    exact .bind (.child (.index hx) (parseResource_errorsLocated x _ _)) fun _ _ =>
      .bind (parseArray_loop_errorsLocated field all itemSchema path (i + 1) (by rw [← List.drop_drop, hd]; rfl))
        fun _ _ => .ok _

end

-- Every error ParseResource returns names a node of the resource: the path it prints is the path
-- the parser gives that node (a field without a schema: its map's path, a dot and its name), and
-- the value or type it prints is that node's.
theorem ParseResource_errorsLocated (resource : List (String × Value)) (resourceSchema : Option Schema) :
    ErrorsLocated (.object resource) "" (ParseResource resource resourceSchema) :=
  parseResource_errorsLocated _ _ _

-- At the root, the path of a field without a schema starts with a dot.
example : ParseResource [("a", .null)] (some { Schema.empty with type := ["object"] }) =
    .error (.error (.fieldSchema ".a" (.schemaNotFound "a"))) := rfl

end Kro
