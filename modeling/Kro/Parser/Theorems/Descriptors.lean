import Kro.Parser.Theorems.Extraction

namespace Kro

-- The shape of a descriptor: a standalone one carries one expression and its field's schema;
-- an embedded one carries its expressions, no schema, and a field typed string or any.
def FieldDescriptor.WellFormed (d : FieldDescriptor) : Prop :=
  if d.standaloneExpression then d.expressions.length = 1 ∧ d.expectedSchema.isSome
  else d.expressions ≠ [] ∧ d.expectedSchema = none ∧ (d.expectedType = "string" ∨ d.expectedType = "any")

theorem parseString_wellFormed {field : String} {schema : ValidatedSchema} {path expectedType : String}
    {L : List FieldDescriptor} (h : parseString field schema path expectedType = .ok L) :
    ∀ d ∈ L, d.WellFormed := by
  unfold parseString parseStringOf at h
  cases hs : isStandaloneExpression field with
  | error e => simp [hs] at h
  | ok b =>
    cases b
    · simp only [hs, except_mapError_ok, except_ok_bind, Bool.false_eq_true, if_false] at h
      split at h
      · cases h
      · next ht =>
        simp only [Bool.and_eq_true, bne_iff_ne, ne_eq, not_and_or, not_not] at ht
        cases he : extractExpressions field with
        | error e => simp [he] at h
        | ok es =>
          simp only [he, except_mapError_ok, except_pure, except_ok_bind] at h
          split at h <;> cases h
          · next hl =>
            simp only [List.mem_singleton, forall_eq, FieldDescriptor.WellFormed, Bool.false_eq_true, if_false]
            exact ⟨List.ne_nil_of_length_pos hl, trivial, ht⟩
          · nofun
    · simp only [hs, except_mapError_ok, except_ok_bind, if_true, except_pure, Except.ok.injEq] at h
      subst h
      simp [FieldDescriptor.WellFormed]

-- Whatever holds of every descriptor parseString returns holds of every descriptor of a result.
def ParseStringInvariant (P : FieldDescriptor → Prop) : Prop :=
  ∀ field schema path expectedType L, parseString field schema path expectedType = .ok L → ∀ d ∈ L, P d

mutual

theorem parseResource_forall {P : FieldDescriptor → Prop} (hP : ParseStringInvariant P) :
    ∀ (v : Value) (s : Option Schema) (path : String) (L : List FieldDescriptor),
    parseResource v s path = .ok L → ∀ d ∈ L, P d
  | v, s, path, L, h => by
    cases hv : validateSchema s path with
    | error f => rw [parseResource_error hv] at h; cases h
    | ok vs =>
      match v with
      | .object fs =>
        rw [parseResource_object hv] at h
        obtain ⟨b, -, h⟩ := except_bind_eq_ok.mp h
        cases b
        · exact parseObject_loop_forall hP fs vs.schema path L h
        · cases h; nofun
      | .array xs =>
        rw [parseResource_array hv] at h
        obtain ⟨is, -, h⟩ := except_bind_eq_ok.mp h
        exact parseArray_loop_forall hP xs is path 0 L h
      | .string str =>
        rw [parseResource_string hv] at h
        exact hP _ _ _ _ _ h
      | .null =>
        rw [parseResource_null hv] at h
        cases h; nofun
      | .bool _ | .int _ | .int32 _ | .int64 _ | .float64 _ =>
        rw [parseResource_scalar hv (by simp)] at h
        rw [parseScalarTypes_ok h]
        nofun

theorem parseObject_loop_forall {P : FieldDescriptor → Prop} (hP : ParseStringInvariant P) :
    ∀ (fs : List (String × Value)) (t : Schema) (path : String)
    (L : List FieldDescriptor), parseObject.loop fs t path = .ok L → ∀ d ∈ L, P d
  | [], _, _, L, h => by cases h; nofun
  | (k, v) :: fs, t, path, L, h => by
    rw [parseObject.loop] at h
    obtain ⟨c, -, h⟩ := except_bind_eq_ok.mp h
    obtain ⟨L₁, h₁, h⟩ := except_bind_eq_ok.mp h
    obtain ⟨L₂, h₂, h⟩ := except_bind_eq_ok.mp h
    cases h
    intro d hd
    rcases List.mem_append.mp hd with hd | hd
    · exact parseResource_forall hP v (some c) _ L₁ h₁ d hd
    · exact parseObject_loop_forall hP fs t path L₂ h₂ d hd

theorem parseArray_loop_forall {P : FieldDescriptor → Prop} (hP : ParseStringInvariant P) :
    ∀ (xs : List Value) (is : Schema) (path : String) (i : Nat)
    (L : List FieldDescriptor), parseArray.loop xs is path i = .ok L → ∀ d ∈ L, P d
  | [], _, _, _, L, h => by cases h; nofun
  | x :: xs, is, path, i, L, h => by
    rw [parseArray.loop] at h
    obtain ⟨L₁, h₁, h⟩ := except_bind_eq_ok.mp h
    obtain ⟨L₂, h₂, h⟩ := except_bind_eq_ok.mp h
    cases h
    intro d hd
    rcases List.mem_append.mp hd with hd | hd
    · exact parseResource_forall hP x (some is) _ L₁ h₁ d hd
    · exact parseArray_loop_forall hP xs is path (i + 1) L₂ h₂ d hd

end

-- Every descriptor of a successful call has the shape its kind asks for: in particular an
-- embedded expression is only accepted in a field typed string or any.
theorem ParseResource_wellFormed (resource : List (String × Value)) (resourceSchema : Option Schema)
    (L : List FieldDescriptor) (h : ParseResource resource resourceSchema = .ok L) :
    ∀ d ∈ L, d.WellFormed :=
  parseResource_forall (fun _ _ _ _ _ => parseString_wellFormed) _ _ _ _ h

-- A name embedding an expression, in a string field.
theorem ParseResource_wellFormed_name :
    ParseResource [("name", .string "web-$\x7bschema.spec.name\x7d")]
        (some ⟨["object"], [], [("name", ⟨["string"], [], [], none, none, []⟩)], none, none, []⟩) =
      .ok [⟨"name", ["schema.spec.name"], "string", none, false⟩] ∧
    ∀ d ∈ ([⟨"name", ["schema.spec.name"], "string", none, false⟩] : List FieldDescriptor), d.WellFormed :=
  (fun h => ⟨h, ParseResource_wellFormed _ _ _ h⟩) rfl

end Kro
