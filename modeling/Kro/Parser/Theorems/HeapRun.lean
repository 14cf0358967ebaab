import Kro.Parser.Denotation

namespace Kro

namespace Heap

variable {α β : Type}

-- The heap a call leaves, whether it returned or not.
def after : EStateM.Result Failure Heap α → Heap
  | .ok _ h => h
  | .error _ h => h

-- The outcome of a call, whatever heap it left.
def value : EStateM.Result Failure Heap α → Except Failure α
  | .ok a _ => .ok a
  | .error e _ => .error e

theorem bind_ok {x : HeapM α} {f : α → HeapM β} {h h' : Heap} {a : α} (hx : x h = .ok a h') :
    (x >>= f) h = f a h' := by
  show EStateM.bind x f h = _
  simp only [EStateM.bind, hx]

theorem bind_error {x : HeapM α} {f : α → HeapM β} {h h' : Heap} {e : Failure} (hx : x h = .error e h') :
    (x >>= f) h = .error e h' := by
  show EStateM.bind x f h = _
  simp only [EStateM.bind, hx]

@[simp] theorem deref_bind (p : Nat) (f : GoSchema → HeapM β) (h : Heap) :
    EStateM.bind (deref p) f h = f (h.read p) h := rfl

@[simp] theorem bind_assoc {γ : Type} (x : HeapM α) (f : α → HeapM β) (g : β → HeapM γ) :
    EStateM.bind (EStateM.bind x f) g = EStateM.bind x fun a => EStateM.bind (f a) g := by
  funext h
  simp only [EStateM.bind]
  cases x h <;> rfl

@[simp] theorem pure_bind (a : α) (f : α → HeapM β) (h : Heap) :
    EStateM.bind (pure a : HeapM α) f h = f a h := rfl

-- A call only grows the heap as `Extends` says, and keeps it closed.
def Grows (x : HeapM α) : Prop :=
  ∀ h : Heap, h.Closed → h.Extends (after (x h)) ∧ (after (x h)).Closed

theorem Grows.of_after {x : HeapM α} (hx : ∀ h, after (x h) = h) : Grows x := fun h hc => by
  rw [hx h]; exact ⟨.refl h, hc⟩

theorem Grows.pure (a : α) : Grows (pure a : HeapM α) := .of_after fun _ => rfl

theorem Grows.throw (e : Failure) : Grows (throw e : HeapM α) := .of_after fun _ => rfl

theorem Grows.bind {x : HeapM α} {f : α → HeapM β} (hx : Grows x) (hf : ∀ a, Grows (f a)) :
    Grows (x >>= f) := fun h hc => by
  cases hxh : x h with
  | ok a h' =>
    obtain ⟨he, hc'⟩ := hxh ▸ hx h hc
    obtain ⟨he', hc''⟩ := hf a h' hc'
    rw [bind_ok hxh]
    exact ⟨he.trans he', hc''⟩
  | error e h' =>
    rw [bind_error hxh]
    have := hx h hc
    rwa [hxh] at this

theorem Grows.deref (p : Nat) : Grows (deref p) := .of_after fun _ => rfl

theorem validateSchema_refines (g : Nat → Schema) (p : Nat) (path : String) (h : Heap) :
    match Kro.validateSchema (some ((h.read p).toSchema g)) path with
    | .ok vs => validateSchema (some p) path h = .ok p (h.write p (h.read p).retype) ∧
        vs.schema = (h.read p).retype.toSchema g
    | .error e => validateSchema (some p) path h = .error e h := by
  simp only [validateSchema, bind, EStateM.bind, deref]
  generalize hc : h.read p = c
  obtain ⟨type, oneOf, properties, additionalProperties, items, extensions⟩ := c
  rcases type with _ | ⟨t, _ | ⟨t', ts⟩⟩
  case cons.nil =>
    have hw : h.write p ⟨[t], oneOf, properties, additionalProperties, items, extensions⟩ = h := by
      rw [← hc, write_read]
    refine And.intro ?_ rfl
    show _ = EStateM.Result.ok p (h.write p ⟨[t], oneOf, properties, additionalProperties, items, extensions⟩)
    rw [hw]
    rfl
  all_goals
    rcases oneOf with _ | ⟨⟨_ | ⟨u, us⟩, _, _, _, _, _⟩, alts⟩
    all_goals first | exact And.intro rfl rfl | rfl

theorem validateSchema_grows : ∀ (schema : Option Nat) (path : String), Grows (validateSchema schema path)
  | none, _ => .throw _
  | some p, path => fun h hc => by
    have := validateSchema_refines (fun _ => Schema.empty) p path h
    split at this
    · rw [this.1]
      exact ⟨extends_write_retype p, hc.write_retype p⟩
    · rw [this]
      exact ⟨.refl h, hc⟩

@[simp] theorem value_bind_pure (x : HeapM α) (f : α → β) (h : Heap) :
    value ((x >>= fun a => pure (f a)) h) = value (x h) >>= fun a => pure (f a) := by
  cases hx : x h
  · rw [bind_ok hx]; rfl
  · rw [bind_error hx]; rfl

@[simp] theorem after_bind_pure (x : HeapM α) (f : α → β) (h : Heap) :
    after ((x >>= fun a => pure (f a)) h) = after (x h) := by
  cases hx : x h
  · rw [bind_ok hx]; rfl
  · rw [bind_error hx]; rfl

theorem liftExcept_apply (r : Except Failure α) (h : Heap) :
    (liftExcept r : HeapM α) h = match r with
      | .ok a => .ok a h
      | .error e => .error e h := by
  cases r <;> rfl

@[simp] theorem value_liftExcept (r : Except Failure α) (h : Heap) : value ((liftExcept r : HeapM α) h) = r := by
  cases r <;> rfl

@[simp] theorem after_liftExcept (r : Except Failure α) (h : Heap) : after ((liftExcept r : HeapM α) h) = h := by
  cases r <;> rfl

theorem Grows.liftExcept (r : Except Failure α) : Grows (liftExcept r : HeapM α) :=
  .of_after (after_liftExcept r)

theorem getFieldSchema_grows (p : Nat) (field : String) : Grows (getFieldSchema p field) := fun h hc => by
  have hp : ∀ q ∈ (h.read p).pointers, q < h.size := hc p
  simp only [getFieldSchema, bind, EStateM.bind, deref]
  generalize h.read p = c at hp ⊢
  cases hk : c.properties.lookup field with
  | some c' => exact ⟨extends_alloc c', hc.alloc fun q hq => hp q (c.pointers_of_property hk q hq)⟩
  | none =>
    rcases c.additionalProperties with _ | ⟨_ | _, _ | q⟩
    all_goals first
      | exact ⟨.refl h, hc⟩
      | exact ⟨extends_alloc _, hc.alloc nofun⟩

-- The item schema is read, never allocated: the fallback of getArrayItemSchema that would
-- allocate is dead.
theorem parseArray.itemSchema_after (field : List Value) (p : Nat) (path expectedType : String) (h : Heap) :
    after (parseArray.itemSchema field p path expectedType h) = h := by
  simp only [parseArray.itemSchema, getArrayItemSchema, bind, bind_assoc, deref_bind]
  split
  · rfl
  · simp only [pure_bind, deref_bind]
    rcases (h.read p).items with _ | ⟨_ | q⟩ <;> rfl

theorem parseArray.itemSchema_grows (field : List Value) (p : Nat) (path expectedType : String) :
    Grows (parseArray.itemSchema field p path expectedType) :=
  .of_after (parseArray.itemSchema_after field p path expectedType)

mutual

theorem parseResource_grows : ∀ (v : Value) (schema : Option Nat) (path : String),
    Grows (parseResource v schema path)
  | v, schema, path => by
    rw [parseResource]
    refine (validateSchema_grows schema path).bind fun p => ((Grows.deref p).bind fun s =>
      .liftExcept (getExpectedType s)).bind fun et => ?_
    match v with
    | .object fs =>
      refine (Grows.deref p).bind fun s => (Grows.liftExcept _).bind fun b => ?_
      dsimp only
      split
      · exact .pure _
      · exact (Grows.pure _).bind fun _ => parseObject_loop_grows fs p path
    | .array xs => exact (parseArray.itemSchema_grows xs p path et).bind fun is => parseArray_loop_grows xs is path 0
    | .string _ => exact .liftExcept _
    | .null => exact .pure _
    | .bool _ | .int _ | .int32 _ | .int64 _ | .float64 _ => exact .liftExcept _

theorem parseObject_loop_grows : ∀ (fs : List (String × Value)) (p : Nat) (path : String),
    Grows (parseObject.loop fs p path)
  | [], _, _ => .pure _
  | (k, v) :: fs, p, path => by
    rw [parseObject.loop]
    refine (getFieldSchema_grows p k).bind fun r => ?_
    have hrest : ∀ n, Grows ((parseResource v (some n) (joinPathAndFieldName path k)) >>= fun l₁ =>
        parseObject.loop fs p path >>= fun l₂ => pure (l₁ ++ l₂)) := fun n =>
      (parseResource_grows v (some n) _).bind fun _ => (parseObject_loop_grows fs p path).bind fun _ => .pure _
    cases r with
    | ok n => exact (Grows.pure n).bind fun _ => hrest _
    | error e => exact (Grows.throw _).bind fun _ => hrest _

theorem parseArray_loop_grows : ∀ (xs : List Value) (is : Nat) (path : String) (i : Nat),
    Grows (parseArray.loop xs is path i)
  | [], _, _, _ => .pure _
  | x :: xs, is, path, i => by
    rw [parseArray.loop]
    exact (parseResource_grows x (some is) _).bind fun _ => (parseArray_loop_grows xs is path (i + 1)).bind
      fun _ => .pure _

end

end Heap

mutual

-- Map entries of the value, at any depth.
def Value.entries : Value → Nat
  | .object fields => Value.fieldEntries fields
  | .array items => Value.itemEntries items
  | _ => 0

def Value.fieldEntries : List (String × Value) → Nat
  | [] => 0
  | (_, v) :: fields => 1 + (v.entries + Value.fieldEntries fields)

def Value.itemEntries : List Value → Nat
  | [] => 0
  | v :: items => v.entries + Value.itemEntries items

end

namespace Heap

section Allocation

-- A call leaves at most `n` schemas more in the heap than it was given.
def Allocates (n : Nat) (x : HeapM α) : Prop := ∀ h : Heap, (after (x h)).size ≤ h.size + n

theorem Allocates.of_after {x : HeapM α} (hx : ∀ h, after (x h) = h) : Allocates 0 x := fun h => by
  rw [hx h]; exact Nat.le_refl _

theorem Allocates.pure (a : α) : Allocates 0 (pure a : HeapM α) := .of_after fun _ => rfl

theorem Allocates.throw (e : Failure) : Allocates 0 (throw e : HeapM α) := .of_after fun _ => rfl

theorem Allocates.deref (p : Nat) : Allocates 0 (deref p) := .of_after fun _ => rfl

theorem Allocates.liftExcept (r : Except Failure α) : Allocates 0 (liftExcept r : HeapM α) :=
  .of_after (after_liftExcept r)

theorem Allocates.mono {x : HeapM α} {m n : Nat} (hx : Allocates m x) (hmn : m ≤ n) : Allocates n x :=
  fun h => Nat.le_trans (hx h) (Nat.add_le_add_left hmn _)

theorem Allocates.bind {x : HeapM α} {f : α → HeapM β} {m n : Nat} (hx : Allocates m x)
    (hf : ∀ a, Allocates n (f a)) : Allocates (m + n) (x >>= f) := fun h => by
  have hxh := hx h
  cases e : x h with
  | ok a h' =>
    rw [e] at hxh
    rw [bind_ok e]
    have := hf a h'
    change h'.size ≤ _ at hxh
    omega
  | error _ h' =>
    rw [e] at hxh
    rw [bind_error e]
    exact Nat.le_trans hxh (Nat.add_le_add_left (Nat.le_add_right m n) _)

theorem Allocates.bind_zero {x : HeapM α} {f : α → HeapM β} {n : Nat} (hx : Allocates 0 x)
    (hf : ∀ a, Allocates n (f a)) : Allocates n (x >>= f) :=
  (hx.bind hf).mono (Nat.le_of_eq (Nat.zero_add n))

theorem validateSchema_allocates (schema : Option Nat) (path : String) :
    Allocates 0 (validateSchema schema path) := fun h => by
  rcases schema with _ | p
  · exact Nat.le_refl _
  · have := validateSchema_refines (fun _ => Schema.empty) p path h
    split at this
    · rw [this.1]; exact Nat.le_of_eq size_write
    · rw [this]; exact Nat.le_refl _

theorem getFieldSchema_allocates (p : Nat) (field : String) : Allocates 1 (getFieldSchema p field) :=
  fun h => by
    simp only [getFieldSchema, bind, EStateM.bind, deref]
    generalize h.read p = c
    cases c.properties.lookup field with
    | some c' => exact Nat.le_of_eq size_alloc
    | none =>
      rcases c.additionalProperties with _ | ⟨_ | _, _ | q⟩
      all_goals first | exact Nat.le_succ _ | exact Nat.le_of_eq size_alloc

mutual

theorem parseResource_allocates : ∀ (v : Value) (schema : Option Nat) (path : String),
    Allocates v.entries (parseResource v schema path)
  | v, schema, path => by
    rw [parseResource]
    refine (validateSchema_allocates schema path).bind_zero fun p =>
      ((Allocates.deref p).bind_zero fun s => .liftExcept (getExpectedType s)).bind_zero fun et => ?_
    match v with
    | .object fs =>
      refine (Allocates.deref p).bind_zero fun s => (Allocates.liftExcept _).bind_zero fun b => ?_
      dsimp only
      split
      · exact (Allocates.pure _).mono (Nat.zero_le _)
      · exact (Allocates.pure _).bind_zero fun _ => parseObject_loop_allocates fs p path
    | .array xs =>
      exact (Allocates.of_after (parseArray.itemSchema_after xs p path et)).bind_zero fun is =>
        parseArray_loop_allocates xs is path 0
    | .string _ => exact (Allocates.liftExcept _).mono (Nat.zero_le _)
    | .null => exact (Allocates.pure _).mono (Nat.zero_le _)
    | .bool _ | .int _ | .int32 _ | .int64 _ | .float64 _ => exact (Allocates.liftExcept _).mono (Nat.zero_le _)

theorem parseObject_loop_allocates : ∀ (fs : List (String × Value)) (p : Nat) (path : String),
    Allocates (Value.fieldEntries fs) (parseObject.loop fs p path)
  | [], _, _ => .pure _
  | (k, v) :: fs, p, path => by
    rw [parseObject.loop]
    have hrest : ∀ n, Allocates (v.entries + Value.fieldEntries fs)
        ((parseResource v (some n) (joinPathAndFieldName path k)) >>= fun l₁ =>
          parseObject.loop fs p path >>= fun l₂ => pure (l₁ ++ l₂)) := fun n =>
      (parseResource_allocates v (some n) _).bind fun _ =>
        ((parseObject_loop_allocates fs p path).bind fun _ => .pure _).mono (Nat.le_of_eq (Nat.add_zero _))
    refine (getFieldSchema_allocates p k).bind fun r => ?_
    cases r with
    | ok n => exact (Allocates.pure n).bind_zero fun m => hrest m
    | error e => exact (Allocates.throw _).bind_zero fun m => hrest m

theorem parseArray_loop_allocates : ∀ (xs : List Value) (is : Nat) (path : String) (i : Nat),
    Allocates (Value.itemEntries xs) (parseArray.loop xs is path i)
  | [], _, _, _ => .pure _
  | x :: xs, is, path, i => by
    rw [parseArray.loop]
    exact (parseResource_allocates x (some is) _).bind fun _ =>
      ((parseArray_loop_allocates xs is path (i + 1)).bind fun _ => .pure _).mono (Nat.le_of_eq (Nat.add_zero _))

end

-- A call allocates at most one schema per map entry of the document, at any depth: the copy of a
-- property's schema, or the empty schema for a field that AdditionalProperties allows.
theorem ParseResource_allocates (resource : List (String × Value)) (resourceSchema : Option Nat) (h : Heap) :
    (after (ParseResource resource resourceSchema h)).size ≤ h.size + Value.fieldEntries resource :=
  parseResource_allocates (.object resource) resourceSchema "" h

end Allocation

end Heap

end Kro
