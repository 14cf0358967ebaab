import Kro.Parser.Theorems.Extraction

namespace Kro

-- Two outcomes agree up to order: both fail, or both succeed with the same elements.
def PermEquiv {ε α : Type} : Except ε (List α) → Except ε (List α) → Prop
  | .ok l, .ok l'        => l.Perm l'
  | .error _, .error _   => True
  | _, _                 => False

namespace PermEquiv

variable {ε α : Type} {r r' r'' : Except ε (List α)}

@[refl] theorem refl (r : Except ε (List α)) : PermEquiv r r := by
  cases r <;> simp [PermEquiv]

theorem trans (h : PermEquiv r r') (h' : PermEquiv r' r'') : PermEquiv r r'' := by
  cases r <;> cases r' <;> cases r'' <;> simp_all [PermEquiv]
  exact h.trans h'

-- Appending the same successful prefix, or binding the same computation first, keeps the
-- outcomes equivalent.
theorem bind_left {β : Type} (x : Except ε β) {f g : β → Except ε (List α)}
    (h : ∀ b, PermEquiv (f b) (g b)) : PermEquiv (x >>= f) (x >>= g) := by
  cases x with
  | error => trivial
  | ok b => exact h b

theorem append_left (l : List α) (h : PermEquiv r r') :
    PermEquiv (r >>= fun t => .ok (l ++ t)) (r' >>= fun t => .ok (l ++ t)) := by
  cases r <;> cases r' <;> simp_all [PermEquiv]
  exact h.append_left l

theorem append {x x' y y' : Except ε (List α)} (hx : PermEquiv x x') (hy : PermEquiv y y') :
    PermEquiv (do let a ← x; let b ← y; pure (a ++ b)) (do let a ← x'; let b ← y'; pure (a ++ b)) := by
  match x, x', y, y', hx, hy with
  | .ok _, .ok _, .ok _, .ok _, hx, hy => exact List.Perm.append hx hy
  | .ok _, .ok _, .error _, .error _, _, _ => trivial
  | .error _, .error _, _, _, _, _ => trivial

-- Binding computations that succeed together, with the same value, keeps outcomes equivalent.
theorem bind_congr {β : Type} {x y : Except ε β} (hxy : x.toOption = y.toOption)
    {f g : β → Except ε (List α)} (h : ∀ b, PermEquiv (f b) (g b)) : PermEquiv (x >>= f) (y >>= g) := by
  cases x with
  | error e => cases y with
    | error e' => trivial
    | ok b => cases hxy
  | ok a => cases y with
    | error e' => cases hxy
    | ok b => cases hxy; exact h a

end PermEquiv

-- Run `f` on each element in turn, stop at the first failure, and join the results: the
-- shape of both loops of the parser.
def concatMapM {ε α β : Type} (f : α → Except ε (List β)) : List α → Except ε (List β)
  | [] => .ok []
  | a :: as => do
    let x ← f a
    let y ← concatMapM f as
    return x ++ y

-- Which order the elements are visited in does not matter.
theorem concatMapM_perm {ε α β : Type} (f : α → Except ε (List β)) {l l' : List α}
    (h : l.Perm l') : PermEquiv (concatMapM f l) (concatMapM f l') := by
  induction h with
  | nil => rfl
  | cons a _ ih =>
    simp only [concatMapM]
    exact PermEquiv.bind_left _ fun x => PermEquiv.append_left x ih
  | swap a b l =>
    simp only [concatMapM]
    cases f a <;> cases f b <;> cases concatMapM f l
    case ok.ok.ok xa xb xl => exact List.perm_append_comm_assoc xb xa xl
    all_goals trivial
  | trans _ _ ih ih' => exact ih.trans ih'

mutual

-- `w` is `v` with the entries of any of its maps, at any depth, visited in another order.
inductive Value.Reordered : Value → Value → Prop
  | refl (v : Value) : Value.Reordered v v
  | object {fs gs hs : List (String × Value)} :
      Value.FieldsReordered fs gs → gs.Perm hs → Value.Reordered (.object fs) (.object hs)
  | array {xs ys : List Value} : Value.ItemsReordered xs ys → Value.Reordered (.array xs) (.array ys)

inductive Value.FieldsReordered : List (String × Value) → List (String × Value) → Prop
  | nil : Value.FieldsReordered [] []
  | cons {k : String} {v w : Value} {fs gs : List (String × Value)} :
      Value.Reordered v w → Value.FieldsReordered fs gs →
      Value.FieldsReordered ((k, v) :: fs) ((k, w) :: gs)

inductive Value.ItemsReordered : List Value → List Value → Prop
  | nil : Value.ItemsReordered [] []
  | cons {x y : Value} {xs ys : List Value} :
      Value.Reordered x y → Value.ItemsReordered xs ys → Value.ItemsReordered (x :: xs) (y :: ys)

end

-- One field of the loop of parseObject.
def parseObject.field (schema : Schema) (path : String) (kv : String × Value) :
    Except Failure (List FieldDescriptor) := do
  let fieldSchema ← (getFieldSchema schema kv.1).mapError
    fun err => .error (.fieldSchema (path ++ "." ++ kv.1) err)
  parseResource kv.2 (some fieldSchema) (joinPathAndFieldName path kv.1)

theorem parseObject.loop_eq_concatMapM (field : List (String × Value)) (schema : Schema)
    (path : String) : parseObject.loop field schema path = concatMapM (parseObject.field schema path) field := by
  induction field with
  | nil => rfl
  | cons kv field ih =>
    rw [parseObject.loop, concatMapM, ← ih, parseObject.field]
    cases getFieldSchema schema kv.1 <;> rfl

theorem parseObject.loop_perm {field field' : List (String × Value)} (h : field.Perm field')
    (schema : Schema) (path : String) :
    PermEquiv (parseObject.loop field schema path) (parseObject.loop field' schema path) := by
  simpa only [parseObject.loop_eq_concatMapM] using concatMapM_perm _ h

theorem parseObject.preserved_toOption (field field' : List (String × Value)) (schema : Schema)
    (path expectedType : String) :
    (parseObject.preserved field schema path expectedType).toOption =
      (parseObject.preserved field' schema path expectedType).toOption := by
  unfold parseObject.preserved
  split_ifs <;> rfl

theorem parseArray.itemSchema_toOption (field field' : List Value) (schema : Schema)
    (path expectedType : String) :
    (parseArray.itemSchema field schema path expectedType).toOption =
      (parseArray.itemSchema field' schema path expectedType).toOption := by
  unfold parseArray.itemSchema
  split_ifs <;> rfl

mutual

theorem parseResource_reordered : ∀ (v w : Value), Value.Reordered v w →
    ∀ (schema : Option Schema) (path : String),
      PermEquiv (parseResource v schema path) (parseResource w schema path)
  | v, w, h, schema, path => by
    cases hv : validateSchema schema path with
    | error f => rw [parseResource_error hv, parseResource_error hv]
    | ok vs =>
      match v, w, h with
      | v, _, .refl _ => rfl
      | .object fs, .object hs, .object hfg hperm =>
        rw [parseResource_object hv, parseResource_object hv]
        refine PermEquiv.bind_congr (parseObject.preserved_toOption _ _ _ _ _) fun b => ?_
        cases b
        · exact (parseObject_loop_reordered fs _ hfg _ _).trans (parseObject.loop_perm hperm _ _)
        · rfl
      | .array xs, .array ys, .array hxy =>
        rw [parseResource_array hv, parseResource_array hv]
        exact PermEquiv.bind_congr (parseArray.itemSchema_toOption _ _ _ _ _) fun is =>
          parseArray_loop_reordered xs ys hxy is path 0

theorem parseObject_loop_reordered : ∀ (fs gs : List (String × Value)), Value.FieldsReordered fs gs →
    ∀ (schema : Schema) (path : String),
      PermEquiv (parseObject.loop fs schema path) (parseObject.loop gs schema path)
  | [], [], .nil, _, _ => PermEquiv.refl _
  | (k, v) :: fs, (_, w) :: gs, .cons hvw hfg, schema, path => by
    rw [parseObject.loop, parseObject.loop]
    exact PermEquiv.bind_left _ fun c => PermEquiv.append (parseResource_reordered v w hvw _ _)
      (parseObject_loop_reordered fs gs hfg schema path)

theorem parseArray_loop_reordered : ∀ (xs ys : List Value), Value.ItemsReordered xs ys →
    ∀ (itemSchema : Schema) (path : String) (i : Nat),
      PermEquiv (parseArray.loop xs itemSchema path i) (parseArray.loop ys itemSchema path i)
  | [], [], .nil, _, _, _ => PermEquiv.refl _
  | x :: xs, y :: ys, .cons hxy hs, itemSchema, path, i => by
    rw [parseArray.loop, parseArray.loop]
    exact PermEquiv.append (parseResource_reordered x y hxy _ _)
      (parseArray_loop_reordered xs ys hs itemSchema path (i + 1))

end

theorem ParseResource_order_independent (resource resource' : List (String × Value))
    (resourceSchema : Option Schema) (h : Value.Reordered (.object resource) (.object resource')) :
    ((∃ L, ParseResource resource resourceSchema = .ok L) ↔
      (∃ L', ParseResource resource' resourceSchema = .ok L')) ∧
    ∀ L L', ParseResource resource resourceSchema = .ok L →
      ParseResource resource' resourceSchema = .ok L' → L.Perm L' := by
  have := parseResource_reordered _ _ h resourceSchema ""
  unfold ParseResource
  revert this
  cases parseResource (.object resource) resourceSchema "" <;>
    cases parseResource (.object resource') resourceSchema "" <;> simp [PermEquiv]

-- Two iteration orders of one two-field map.
def stringFields : Option Schema :=
  some ⟨["object"], [], [("a", ⟨["string"], [], [], none, none, []⟩), ("b", ⟨["string"], [], [], none, none, []⟩)],
    none, none, []⟩

theorem ParseResource_order_independent_swap :
    Value.Reordered (.object [("a", .string "$\x7bx\x7d"), ("b", .string "$\x7by\x7d")])
      (.object [("b", .string "$\x7by\x7d"), ("a", .string "$\x7bx\x7d")]) ∧
    (((∃ L, ParseResource [("a", .string "$\x7bx\x7d"), ("b", .string "$\x7by\x7d")] stringFields = .ok L) ↔
      (∃ L', ParseResource [("b", .string "$\x7by\x7d"), ("a", .string "$\x7bx\x7d")] stringFields = .ok L')) ∧
    ∀ L L', ParseResource [("a", .string "$\x7bx\x7d"), ("b", .string "$\x7by\x7d")] stringFields = .ok L →
      ParseResource [("b", .string "$\x7by\x7d"), ("a", .string "$\x7bx\x7d")] stringFields = .ok L' →
      L.Perm L') :=
  have h := Value.Reordered.object (.cons (.refl _) (.cons (.refl _) .nil)) (.swap _ _ _)
  ⟨h, ParseResource_order_independent _ _ _ h⟩

end Kro
