import Mathlib.Data.List.Nodup
import Kro.Parser.Theorems.PathDecoding
import Kro.Parser.Theorems.Extraction

namespace Kro

mutual

-- Every map of the value has distinct keys, and every key reads back from a path.
def Value.wellKeyed : Value → Bool
  | .object fs => (fs.map Prod.fst).Nodup && Value.fieldsWellKeyed fs
  | .array xs  => Value.itemsWellKeyed xs
  | _          => true

def Value.fieldsWellKeyed : List (String × Value) → Bool
  | [] => true
  | (k, v) :: fs => (PathStep.field k).readable && v.wellKeyed && Value.fieldsWellKeyed fs

def Value.itemsWellKeyed : List Value → Bool
  | [] => true
  | x :: xs => x.wellKeyed && Value.itemsWellKeyed xs

end

theorem Value.fieldStrings_head : ∀ (fs : List (String × Value)),
    ∀ p ∈ Value.fieldStrings fs, ∃ k ∈ fs.map Prod.fst, p.1.head? = some (.field k)
  | [] => nofun
  | (k, v) :: fs => by
    intro p hp
    simp only [Value.fieldStrings, List.mem_append, List.mem_map] at hp
    rcases hp with ⟨q, -, rfl⟩ | hp
    · exact ⟨k, List.mem_cons_self _ _, rfl⟩
    · obtain ⟨k', hk', he⟩ := fieldStrings_head fs p hp
      exact ⟨k', List.mem_cons_of_mem _ hk', he⟩

theorem Value.itemStrings_head : ∀ (xs : List Value) (i : Nat),
    ∀ p ∈ Value.itemStrings xs i, ∃ j, i ≤ j ∧ p.1.head? = some (.index j)
  | [], _ => nofun
  | x :: xs, i => by
    intro p hp
    simp only [Value.itemStrings, List.mem_append, List.mem_map] at hp
    rcases hp with ⟨q, -, rfl⟩ | hp
    · exact ⟨i, le_rfl, rfl⟩
    · obtain ⟨j, hj, he⟩ := itemStrings_head xs (i + 1) p hp
      exact ⟨j, by omega, he⟩

theorem nodup_map_cons_step {step : PathStep} {ps : List (List PathStep × String)}
    (h : (ps.map Prod.fst).Nodup) :
    ((ps.map fun p => (step :: p.1, p.2)).map Prod.fst).Nodup := by
  have : (ps.map fun p => (step :: p.1, p.2)).map Prod.fst = (ps.map Prod.fst).map (step :: ·) := by
    simp
  rw [this]
  exact List.Nodup.map List.cons_injective h

mutual

theorem Value.strings_readable : ∀ v : Value, v.wellKeyed → ∀ p ∈ v.strings, ∀ s ∈ p.1, s.readable
  | .object fs, h => by
    simp only [Value.wellKeyed, Bool.and_eq_true] at h
    exact Value.fieldStrings_readable fs h.2
  | .array xs, h => Value.itemStrings_readable xs 0 h
  | .string _, _ | .null, _ | .bool _, _ | .int _, _ | .int32 _, _ | .int64 _, _ | .float64 _, _ => by
    simp [Value.strings]

theorem Value.fieldStrings_readable : ∀ fs, Value.fieldsWellKeyed fs →
    ∀ p ∈ Value.fieldStrings fs, ∀ s ∈ p.1, s.readable
  | [], _ => nofun
  | (k, v) :: fs, h => by
    simp only [Value.fieldsWellKeyed, Bool.and_eq_true] at h
    intro p hp
    simp only [Value.fieldStrings, List.mem_append, List.mem_map] at hp
    rcases hp with ⟨q, hq, rfl⟩ | hp
    · intro s hs
      rcases List.mem_cons.mp hs with rfl | hs
      · exact h.1.1
      · exact Value.strings_readable v h.1.2 q hq s hs
    · exact Value.fieldStrings_readable fs h.2 p hp

theorem Value.itemStrings_readable : ∀ xs i, Value.itemsWellKeyed xs →
    ∀ p ∈ Value.itemStrings xs i, ∀ s ∈ p.1, s.readable
  | [], _, _ => nofun
  | x :: xs, i, h => by
    simp only [Value.itemsWellKeyed, Bool.and_eq_true] at h
    intro p hp
    simp only [Value.itemStrings, List.mem_append, List.mem_map] at hp
    rcases hp with ⟨q, hq, rfl⟩ | hp
    · intro s hs
      rcases List.mem_cons.mp hs with rfl | hs
      · rfl
      · exact Value.strings_readable x h.1 q hq s hs
    · exact Value.itemStrings_readable xs (i + 1) h.2 p hp

end

mutual

theorem Value.strings_nodup : ∀ v : Value, v.wellKeyed → (v.strings.map Prod.fst).Nodup
  | .object fs, h => by
    simp only [Value.wellKeyed, Bool.and_eq_true, decide_eq_true_eq] at h
    exact Value.fieldStrings_nodup fs h.1 h.2
  | .array xs, h => Value.itemStrings_nodup xs 0 h
  | .string _, _ => List.nodup_singleton _
  | .null, _ | .bool _, _ | .int _, _ | .int32 _, _ | .int64 _, _ | .float64 _, _ => List.nodup_nil

theorem Value.fieldStrings_nodup : ∀ fs, (fs.map Prod.fst).Nodup → Value.fieldsWellKeyed fs →
    ((Value.fieldStrings fs).map Prod.fst).Nodup
  | [], _, _ => List.nodup_nil
  | (k, v) :: fs, hk, h => by
    simp only [Value.fieldsWellKeyed, Bool.and_eq_true] at h
    rw [List.map_cons, List.nodup_cons] at hk
    rw [Value.fieldStrings, List.map_append, List.nodup_append]
    refine ⟨nodup_map_cons_step (Value.strings_nodup v h.1.2), Value.fieldStrings_nodup fs hk.2 h.2, ?_⟩
    intro l hl hl'
    simp only [List.map_map, List.mem_map, Function.comp] at hl
    obtain ⟨q, -, rfl⟩ := hl
    obtain ⟨p, hp, hpl⟩ := List.mem_map.mp hl'
    obtain ⟨k', hk', he⟩ := Value.fieldStrings_head fs p hp
    rw [hpl] at he
    simp only [List.head?_cons, Option.some.injEq, PathStep.field.injEq] at he
    exact hk.1 (he ▸ hk')

theorem Value.itemStrings_nodup : ∀ xs i, Value.itemsWellKeyed xs →
    ((Value.itemStrings xs i).map Prod.fst).Nodup
  | [], _, _ => List.nodup_nil
  | x :: xs, i, h => by
    simp only [Value.itemsWellKeyed, Bool.and_eq_true] at h
    rw [Value.itemStrings, List.map_append, List.nodup_append]
    refine ⟨nodup_map_cons_step (Value.strings_nodup x h.1), Value.itemStrings_nodup xs (i + 1) h.2, ?_⟩
    intro l hl hl'
    simp only [List.map_map, List.mem_map, Function.comp] at hl
    obtain ⟨q, -, rfl⟩ := hl
    obtain ⟨p, hp, hpl⟩ := List.mem_map.mp hl'
    obtain ⟨j, hj, he⟩ := Value.itemStrings_head xs (i + 1) p hp
    rw [hpl] at he
    simp only [List.head?_cons, Option.some.injEq, PathStep.index.injEq] at he
    omega

end

theorem Schema.descriptorAt_path {s : Schema} {path : String} {l : List PathStep} {v : String}
    {d : FieldDescriptor} (h : s.descriptorAt path l v = some d) : d.path = encodePath path l := by
  unfold descriptorAt descriptorFor at h
  split at h
  · cases h
  · split at h
    · split at h <;> cases h <;> rfl
    · cases h

theorem filterMap_sublist_map {α β : Type} {f : α → Option β} {g : α → β}
    (h : ∀ a, f a = none ∨ f a = some (g a)) : ∀ l : List α, (l.filterMap f).Sublist (l.map g)
  | [] => List.Sublist.slnil
  | a :: l => by
    rw [List.filterMap_cons, List.map_cons]
    rcases h a with ha | ha <;> rw [ha]
    · exact (filterMap_sublist_map h l).cons _
    · exact (filterMap_sublist_map h l).cons₂ _

-- The paths of the descriptors of one successful call are distinct when the document's maps
-- have distinct keys and its bare field names hold no `[`.
theorem ParseResource_paths_nodup (resource : List (String × Value)) (s : Schema)
    (L : List FieldDescriptor) (h : ParseResource resource (some s) = .ok L)
    (hw : (Value.object resource).wellKeyed) : (L.map (·.path)).Nodup := by
  rw [parseResource_eq_extracted _ s "" L h, Schema.extracted, List.map_filterMap]
  have hf : ∀ p : List PathStep × String,
      (if s.hides p.1 then none else s.descriptorAt "" p.1 p.2).map (·.path) = none ∨
      (if s.hides p.1 then none else s.descriptorAt "" p.1 p.2).map (·.path) = some (encodePath "" p.1) := by
    intro p
    split
    · exact .inl rfl
    · cases hd : s.descriptorAt "" p.1 p.2 with
      | none => exact .inl rfl
      | some d => exact .inr (by rw [Option.map_some', Schema.descriptorAt_path hd])
  refine (filterMap_sublist_map hf _).nodup ?_
  rw [show (fun p : List PathStep × String => encodePath "" p.1) = encodePath "" ∘ Prod.fst from rfl,
    ← List.map_map]
  refine List.Nodup.map_on (fun x hx y hy he => ?_) (Value.strings_nodup _ hw)
  obtain ⟨p, hp, rfl⟩ := List.mem_map.mp hx
  obtain ⟨q, hq, rfl⟩ := List.mem_map.mp hy
  exact encodePath_injective (Value.strings_readable _ hw p hp) (Value.strings_readable _ hw q hq) he

-- A string field and an array of strings, under typed schemas.
theorem ParseResource_paths_nodup_fields :
    ParseResource [("a", .string "$\x7bx\x7d"), ("b", .array [.string "$\x7by\x7d"])]
        (some ⟨["object"], [], [("a", ⟨["string"], [], [], none, none, []⟩),
          ("b", ⟨["array"], [], [], none, some ⟨some ⟨["string"], [], [], none, none, []⟩⟩, []⟩)],
          none, none, []⟩) =
      .ok [⟨"a", ["x"], "string", some ⟨["string"], [], [], none, none, []⟩, true⟩,
        ⟨"b[0]", ["y"], "string", some ⟨["string"], [], [], none, none, []⟩, true⟩] ∧
    (Value.object [("a", .string "$\x7bx\x7d"), ("b", .array [.string "$\x7by\x7d"])]).wellKeyed ∧
    (([⟨"a", ["x"], "string", some ⟨["string"], [], [], none, none, []⟩, true⟩,
        ⟨"b[0]", ["y"], "string", some ⟨["string"], [], [], none, none, []⟩, true⟩] :
        List FieldDescriptor).map (·.path)).Nodup :=
  (fun h => ⟨h, rfl, ParseResource_paths_nodup _ _ _ h rfl⟩) rfl

-- A bare name holding `[` is joined after a dot as it is: the field `a[0]` and the first item
-- of the field `a` get one path.
theorem ParseResource_bracket_name_collides :
    encodePath "" [.field "a[0]"] = encodePath "" [.field "a", .index 0] ∧
    (ParseResource [("a[0]", .string "$\x7bx\x7d"), ("a", .array [.string "$\x7by\x7d"])]
        (some ⟨["object"], [], [("a[0]", ⟨["string"], [], [], none, none, []⟩),
          ("a", ⟨["array"], [], [], none, some ⟨some ⟨["string"], [], [], none, none, []⟩⟩, []⟩)],
          none, none, []⟩)).map (·.map (·.path)) = .ok ["a[0]", "a[0]"] :=
  ⟨rfl, rfl⟩

end Kro
