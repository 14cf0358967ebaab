import Kro.Parser.Heap
import Kro.Parser.Theorems.Normalization

namespace Kro

namespace GoSchema

mutual

-- The addresses a Go value holds, through its values at any depth.
def pointers : GoSchema → List Nat
  | ⟨_, oneOf, properties, additionalProperties, items, _⟩ =>
    pointersOf oneOf ++ propertyPointers properties ++
      ((additionalProperties.bind (·.schema)).toList ++ (items.bind (·.schema)).toList)

def pointersOf : List GoSchema → List Nat
  | [] => []
  | s :: ss => pointers s ++ pointersOf ss

def propertyPointers : List (String × GoSchema) → List Nat
  | [] => []
  | (_, s) :: ps => pointers s ++ propertyPointers ps

end

-- What `validateSchema` leaves in the schema value it is given: the `Type` that `Schema.retype`
-- gives the tree the value stands for, a `Type` read off no pointer.
def retype (s : GoSchema) : GoSchema :=
  { s with type := (s.toSchema fun _ => Schema.empty).retype.type }

variable {f g : Nat → Schema} {s : GoSchema}

@[simp] theorem toSchema_type : (s.toSchema f).type = s.type := by cases s; rfl

@[simp] theorem toSchema_properties : (s.toSchema f).properties = toProperties f s.properties := by
  cases s; rfl

@[simp] theorem toSchema_additionalProperties :
    (s.toSchema f).additionalProperties = s.additionalProperties.map fun a => ⟨a.allows, a.schema.map f⟩ := by
  cases s; rfl

@[simp] theorem toSchema_items : (s.toSchema f).items = s.items.map fun i => ⟨i.schema.map f⟩ := by
  cases s; rfl

@[simp] theorem additionalPropertiesAllowed_toSchema :
    (s.toSchema f).additionalPropertiesAllowed = s.additionalPropertiesAllowed := by
  obtain ⟨_, _, _, _ | _, _, _⟩ := s <;> rfl

theorem lookup_toProperties (k : String) : ∀ ps : List (String × GoSchema),
    (toProperties f ps).lookup k = (ps.lookup k).map (toSchema f)
  | [] => rfl
  | (k', s) :: ps => by
    simp only [toProperties, List.lookup_cons]
    cases k == k' with
    | true => rfl
    | false => exact lookup_toProperties k ps

theorem propertyPointers_of_lookup {k : String} : ∀ {ps : List (String × GoSchema)},
    ps.lookup k = some s → ∀ q ∈ s.pointers, q ∈ propertyPointers ps
  | [], h => nomatch h
  | (k', s') :: ps, h => by
    rw [List.lookup_cons] at h
    intro q hq
    rw [propertyPointers, List.mem_append]
    cases hk : k == k' with
    | true => rw [hk] at h; cases h; exact .inl hq
    | false => rw [hk] at h; exact .inr (propertyPointers_of_lookup h q hq)

theorem pointers_of_property {k : String} {c : GoSchema} (hk : s.properties.lookup k = some c) :
    ∀ q ∈ c.pointers, q ∈ s.pointers := fun q hq => by
  obtain ⟨_, _, _, _, _, _⟩ := s
  simp only [pointers, List.mem_append]
  exact .inl (.inr (propertyPointers_of_lookup hk q hq))

theorem pointer_of_additionalProperties {b : Bool} {q : Nat}
    (ha : s.additionalProperties = some ⟨b, some q⟩) : q ∈ s.pointers := by
  obtain ⟨_, _, _, _, _, _⟩ := s
  cases ha
  simp [pointers]

theorem pointer_of_items {q : Nat} (hi : s.items = some ⟨some q⟩) : q ∈ s.pointers := by
  obtain ⟨_, _, _, _, _, _⟩ := s
  cases hi
  simp [pointers]

theorem types_toSchemas : ∀ cs : List GoSchema, (toSchemas f cs).map Schema.type = cs.map GoSchema.type
  | [] => rfl
  | c :: cs => by simp only [toSchemas, List.map_cons, toSchema_type, types_toSchemas cs]

-- The `Type` that `retype` gives does not depend on what the pointers are read as, so the tree
-- of the retyped value is the retyped tree.
theorem retype_type_toSchema (f : Nat → Schema) : (s.toSchema f).retype.type = s.retype.type := by
  apply Schema.retype_type_congr <;> cases s <;> simp only [toSchema, types_toSchemas]

theorem toSchema_retype : s.retype.toSchema f = (s.toSchema f).retype := by
  rw [Schema.retype_eq_withType, retype_type_toSchema]; cases s; rfl

@[simp] theorem retype_retype : s.retype.retype = s.retype := by
  have ht : s.retype.retype.type = s.retype.type := by
    rw [← retype_type_toSchema (fun _ => Schema.empty), toSchema_retype, Schema.retype_retype,
      retype_type_toSchema]
  cases s; simp only [retype] at ht ⊢; rw [ht]

@[simp] theorem pointers_retype : s.retype.pointers = s.pointers := by cases s; rfl

@[simp] theorem additionalProperties_retype : s.retype.additionalProperties = s.additionalProperties := rfl

end GoSchema

namespace Heap

-- `h'` is `h` grown by allocations, each schema of `h` left as it was or with the `Type` that
-- validateSchema gives it.
def Extends (h h' : Heap) : Prop :=
  h.size ≤ h'.size ∧ ∀ p < h.size, h'.read p = h.read p ∨ h'.read p = (h.read p).retype

-- No schema of the heap points outside it: Go pointers never dangle.
def Closed (h : Heap) : Prop := ∀ p, ∀ q ∈ (h.read p).pointers, q < h.size

variable {h h' h'' : Heap} {p q : Nat} {s : GoSchema}

theorem Extends.refl (h : Heap) : h.Extends h := ⟨Nat.le_refl _, fun _ _ => .inl rfl⟩

theorem Extends.retype_read (he : h.Extends h') (hp : p < h.size) :
    (h'.read p).retype = (h.read p).retype := by
  rcases he.2 p hp with e | e <;> simp [e]

theorem Extends.trans (he : h.Extends h') (he' : h'.Extends h'') : h.Extends h'' := by
  refine ⟨he.1.trans he'.1, fun p hp => ?_⟩
  rcases he'.2 p (Nat.lt_of_lt_of_le hp he.1) with e | e
  · rw [e]; exact he.2 p hp
  · rw [e, he.retype_read hp]; exact .inr rfl

theorem extends_write_retype (p : Nat) : h.Extends (h.write p (h.read p).retype) := by
  refine ⟨Nat.le_of_eq size_write.symm, fun q hq => ?_⟩
  by_cases hpq : p = q
  · subst hpq
    exact .inr (read_write_self hq)
  · exact .inl (read_write_ne hpq)

theorem extends_alloc (s : GoSchema) : h.Extends (h.alloc s) :=
  ⟨by simp, fun _ hq => .inl (read_alloc_lt hq)⟩

theorem Extends.pointers_read (he : h.Extends h') (hp : p < h.size) :
    (h'.read p).pointers = (h.read p).pointers := by
  rcases he.2 p hp with e | e <;> simp [e]

theorem Extends.read_of_retype_eq (he : h.Extends h') (hp : p < h.size)
    (hfix : (h.read p).retype = h.read p) : h'.read p = h.read p := by
  rcases he.2 p hp with e | e
  · exact e
  · rw [e, hfix]

theorem Closed.write_retype (hc : h.Closed) (p : Nat) : (h.write p (h.read p).retype).Closed := by
  intro q r hr
  rw [size_write]
  by_cases hq : p = q
  · subst hq
    by_cases hp : p < h.size
    · rw [read_write_self hp, GoSchema.pointers_retype] at hr
      exact hc p r hr
    · rw [write, List.set_eq_of_length_le (Nat.le_of_not_lt hp)] at hr
      exact hc p r hr
  · rw [read_write_ne hq] at hr
    exact hc q r hr

theorem Closed.alloc (hc : h.Closed) (hs : ∀ q ∈ s.pointers, q < h.size) : (h.alloc s).Closed := by
  intro q r hr
  rw [size_alloc]
  by_cases hq : q < h.size
  · rw [read_alloc_lt hq] at hr
    exact Nat.lt_succ_of_lt (hc q r hr)
  · by_cases hq' : q = h.size
    · subst hq'
      rw [read_alloc_size] at hr
      exact Nat.lt_succ_of_lt (hs r hr)
    · rw [read_of_size_le (by rw [size_alloc]; omega)] at hr
      nomatch hr

theorem Closed.of_lt (hc : ∀ p < h.size, ∀ q ∈ (h.read p).pointers, q < h.size) : h.Closed := by
  intro p q hq
  by_cases hp : p < h.size
  · exact hc p hp q hq
  · rw [read_of_size_le (Nat.le_of_not_lt hp)] at hq
    nomatch hq

-- The address `p` holds the schema tree `s`: its schema with every pointer followed, down to
-- schemas that hold none. An address on a cycle holds no tree.
inductive Denotes (h : Heap) : Nat → Schema → Prop
  | mk {p : Nat} (f : Nat → Schema) : p < h.size → (∀ q ∈ (h.read p).pointers, Denotes h q (f q)) →
      Denotes h p ((h.read p).toSchema f)

theorem Denotes.size_lt {s : Schema} (hd : h.Denotes p s) : p < h.size := by
  cases hd; assumption

-- The tree an address holds survives the rewrites of `Type` and the allocations.
theorem Denotes.extends {s : Schema} (he : h.Extends h') (hd : h.Denotes p s) : ∃ s', h'.Denotes p s' := by
  induction hd with
  | @mk p f hp _ ih =>
    classical
    let g : Nat → Schema := fun q => if hq : ∃ s', h'.Denotes q s' then hq.choose else f q
    refine ⟨(h'.read p).toSchema g, .mk g (Nat.lt_of_lt_of_le hp he.1) fun q hq => ?_⟩
    rw [he.pointers_read hp] at hq
    have hex := ih q hq
    simp only [g, dif_pos hex]
    exact hex.choose_spec

end Heap

end Kro
