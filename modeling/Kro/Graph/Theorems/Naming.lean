import Kro.Graph.Validation

namespace Kro

-- The words of `^[a-z][a-zA-Z0-9]*$` and of `^[A-Z][a-zA-Z0-9]*$`: a first rune of the class
-- `first`, then ASCII letters and digits.
def CamelCase (first : Char → Prop) (s : String) : Prop :=
  ∃ c cs, s.toList = c :: cs ∧ first c ∧ ∀ d ∈ cs, ('a' ≤ d ∧ d ≤ 'z') ∨ ('A' ≤ d ∧ d ≤ 'Z') ∨ ('0' ≤ d ∧ d ≤ '9')

def LowerCamelCase : String → Prop := CamelCase fun c => 'a' ≤ c ∧ c ≤ 'z'

def UpperCamelCase : String → Prop := CamelCase fun c => 'A' ≤ c ∧ c ≤ 'Z'

theorem isAlphanum_iff (d : Char) :
    d.isAlphanum ↔ ('a' ≤ d ∧ d ≤ 'z') ∨ ('A' ≤ d ∧ d ≤ 'Z') ∨ ('0' ≤ d ∧ d ≤ '9') := by
  simp only [Char.isAlphanum, Char.isAlpha, Char.isUpper, Char.isLower, Char.isDigit, Char.le_def,
    Bool.or_eq_true, Bool.and_eq_true, decide_eq_true_eq]
  rw [or_assoc, or_left_comm]
  rfl

theorem camelCaseMatch_iff {f : Char → Bool} {first : Char → Prop} (hf : ∀ c, f c ↔ first c) (s : String) :
    camelCaseMatch f s ↔ CamelCase first s := by
  unfold camelCaseMatch CamelCase
  cases s.toList with
  | nil => simp
  | cons c cs => simp [hf, isAlphanum_iff, and_assoc]

theorem lowerCamelCaseRegex.matchString_iff (s : String) :
    lowerCamelCaseRegex.matchString s ↔ LowerCamelCase s :=
  camelCaseMatch_iff (fun _ => by simp [Char.isLower, Char.le_def]) s

theorem upperCamelCaseRegex.matchString_iff (s : String) :
    upperCamelCaseRegex.matchString s ↔ UpperCamelCase s :=
  camelCaseMatch_iff (fun _ => by simp [Char.isUpper, Char.le_def]) s

instance : DecidablePred LowerCamelCase := fun s =>
  decidable_of_iff _ (lowerCamelCaseRegex.matchString_iff s)

instance : DecidablePred UpperCamelCase := fun s =>
  decidable_of_iff _ (upperCamelCaseRegex.matchString_iff s)

-- The error that the ID `id` raises when the IDs `before` precede it in the group: a
-- reserved word first, then an ID off the naming convention, then a repeated ID.
def resourceIDError (before : List String) (id : String) : Option String :=
  if isKROReservedWord id then some ("id " ++ id ++ " is a reserved keyword in KRO")
  else if ¬LowerCamelCase id then
    some ("id " ++ id ++ " is not a valid KRO resource id: must be lower camelCase")
  else if id ∈ before then some ("found duplicate resource IDs " ++ id)
  else none

theorem resourceIDError_eq_none {before : List String} {id : String} :
    resourceIDError before id = none ↔
      LowerCamelCase id ∧ ¬isKROReservedWord id ∧ id ∉ before := by
  unfold resourceIDError
  split_ifs <;> simp_all

theorem resourceIDError_reverse (before : List String) (id : String) :
    resourceIDError before.reverse id = resourceIDError before id := by
  simp [resourceIDError]

namespace validateResourceIDs

-- One turn of the loop checks one ID against the IDs seen so far.
theorem loop_cons (seen : List String) (res : Resource) (resources : List Resource) :
    loop seen (res :: resources) =
      match resourceIDError seen res.id with
      | some m => .error m
      | none   => loop (res.id :: seen) resources := by
  have hv : (!isValidResourceID res.id) = true ↔ ¬LowerCamelCase res.id := by
    simp [isValidResourceID, ← lowerCamelCaseRegex.matchString_iff]
  simp only [loop, resourceIDError, List.elem_eq_mem, decide_eq_true_eq, hv]
  split_ifs <;> rfl

theorem loop_eq_ok (seen : List String) (resources : List Resource) :
    loop seen resources = .ok () ↔
      (∀ res ∈ resources, LowerCamelCase res.id ∧ ¬isKROReservedWord res.id ∧ res.id ∉ seen) ∧
        (resources.map (·.id)).Nodup := by
  induction resources generalizing seen with
  | nil => simp [loop]
  | cons res resources ih =>
    rw [loop_cons]
    cases h : resourceIDError seen res.id
    · obtain ⟨hv, hr, hs⟩ := resourceIDError_eq_none.mp h
      simp only [ih, List.forall_mem_cons, hv, hr, hs, not_false_eq_true, true_and, List.map_cons,
        List.nodup_cons, List.mem_map, not_exists, not_and]
      simp only [List.mem_cons, not_or, imp_and, forall_and, Bool.false_eq_true, not_false_eq_true,
        true_and]
      exact ⟨fun ⟨⟨hv', hr', hne, hs'⟩, hn⟩ => ⟨⟨hv', hr', hs'⟩, hne, hn⟩,
        fun ⟨⟨hv', hr', hs'⟩, hne, hn⟩ => ⟨⟨hv', hr', hne, hs'⟩, hn⟩⟩
    · have := (@resourceIDError_eq_none seen res.id).not.mp (by simp [h])
      simp only [reduceCtorEq, false_iff, List.forall_mem_cons, not_and]
      exact fun h _ => this h.1

-- The loop stops at the first ID whose check fails, with that check's error.
theorem loop_eq_error (seen : List String) (resources : List Resource) (i : Nat)
    (hi : i < resources.length) (m : String)
    (hprev : ∀ j (hj : j < i), resourceIDError (((resources.take j).map (·.id)).reverse ++ seen)
      (resources.get ⟨j, hj.trans hi⟩).id = none)
    (hat : resourceIDError (((resources.take i).map (·.id)).reverse ++ seen)
      (resources.get ⟨i, hi⟩).id = some m) :
    loop seen resources = .error m := by
  induction resources generalizing seen i with
  | nil => simp at hi
  | cons res resources ih =>
    rw [loop_cons]
    cases i with
    | zero =>
      simp only [List.take_zero, List.map_nil, List.reverse_nil, List.nil_append,
        List.get_eq_getElem, List.getElem_cons_zero] at hat
      rw [hat]
    | succ i =>
      have h0 := hprev 0 (Nat.succ_pos i)
      simp only [List.take_zero, List.map_nil, List.reverse_nil, List.nil_append,
        List.get_eq_getElem, List.getElem_cons_zero] at h0
      rw [h0]
      refine ih (res.id :: seen) i (Nat.lt_of_succ_lt_succ hi) (fun j hj => ?_) ?_
      · simpa using hprev (j + 1) (Nat.succ_lt_succ hj)
      · simpa using hat

end validateResourceIDs

theorem validateResourceGroupNamingConventions_spec (rg : ResourceGroup) :
    (validateResourceGroupNamingConventions rg = .ok () ↔
      UpperCamelCase rg.spec.schema.kind ∧
        (∀ res ∈ rg.spec.resources, LowerCamelCase res.id ∧ ¬isKROReservedWord res.id) ∧
        (rg.spec.resources.map (·.id)).Nodup) ∧
    (UpperCamelCase rg.spec.schema.kind → ∀ i (hi : i < rg.spec.resources.length) m,
      (∀ j (hj : j < i), resourceIDError ((rg.spec.resources.take j).map (·.id))
        (rg.spec.resources.get ⟨j, hj.trans hi⟩).id = none) →
      resourceIDError ((rg.spec.resources.take i).map (·.id))
        (rg.spec.resources.get ⟨i, hi⟩).id = some m →
      validateResourceGroupNamingConventions rg = .error (errNamingConvention ++ ": " ++ m)) := by
  rw [← upperCamelCaseRegex.matchString_iff]
  unfold validateResourceGroupNamingConventions validateResourceIDs isValidKindName
  refine ⟨?_, fun hk i hi m hprev hat => ?_⟩
  · by_cases hk : upperCamelCaseRegex.matchString rg.spec.schema.kind
    · have := validateResourceIDs.loop_eq_ok [] rg.spec.resources
      simp only [List.not_mem_nil, not_false_eq_true, and_true] at this
      cases h : validateResourceIDs.loop [] rg.spec.resources <;> simp_all [Except.mapError]
    · simp [hk]
  · rw [validateResourceIDs.loop_eq_error [] _ i hi m (by simpa [resourceIDError_reverse] using hprev)
      (by simpa [resourceIDError_reverse] using hat)]
    simp [hk, Except.mapError]

-- The reserved-word scenario of the spec: `spec` is rejected, after `db` passed its checks.
theorem validateResourceGroupNamingConventions_reserved :
    validateResourceGroupNamingConventions ⟨⟨⟨"WebApp"⟩, [⟨"db"⟩, ⟨"spec"⟩]⟩⟩ =
      .error "naming convention violation: id spec is a reserved keyword in KRO" :=
  (validateResourceGroupNamingConventions_spec _).2 (by decide) 1 (by decide) _ (by decide) (by decide)

end Kro
