import Kro.Graph.Validation

namespace Kro

-- The words of `^v\d+(?:(?:alpha|beta)\d+)?$`: a `v`, a major version, and optionally a
-- channel and its revision.
def KubernetesVersion (s : String) : Prop :=
  ∃ major, digitsToEnd major ∧ (s.toList = 'v' :: major ∨
    ∃ w ∈ ["alpha", "beta"], ∃ minor, digitsToEnd minor ∧ s.toList = 'v' :: (major ++ w.toList ++ minor))

theorem digitsToEnd_iff {cs : List Char} : digitsToEnd cs ↔ cs ≠ [] ∧ ∀ c ∈ cs, c.isDigit := by
  simp [digitsToEnd, List.isEmpty_iff]

theorem kubernetesVersionRegex.matchString_iff (s : String) :
    kubernetesVersionRegex.matchString s ↔ KubernetesVersion s := by
  unfold kubernetesVersionRegex.matchString KubernetesVersion
  rcases hs : s.toList with _ | ⟨c, cs⟩
  · simp
  · by_cases hc : c = 'v'
    · subst hc
      obtain ⟨ds, rest, hsp, hcs, hds⟩ : ∃ ds rest, cs.span Char.isDigit = (ds, rest) ∧
          cs = ds ++ rest ∧ ∀ c ∈ ds, c.isDigit :=
        ⟨_, _, List.span_eq_take_drop _ _, (List.takeWhile_append_dropWhile _ _).symm,
          fun _ hc => List.mem_takeWhile_imp hc⟩
      simp only [hsp, List.cons.injEq, true_and]
      constructor
      · simp only [Bool.and_eq_true, Bool.not_eq_true', List.isEmpty_eq_false, Bool.or_eq_true,
          List.isEmpty_iff, List.any_eq_true, List.isPrefixOf_iff_prefix]
        rintro ⟨hne, rfl | ⟨w, hw, ⟨t, ht⟩, hmin⟩⟩
        · exact ⟨ds, digitsToEnd_iff.mpr ⟨hne, hds⟩, .inl (by simpa using hcs)⟩
        · refine ⟨ds, digitsToEnd_iff.mpr ⟨hne, hds⟩, .inr ⟨w, hw, t, ?_, ?_⟩⟩
          · rwa [← ht, show w.length = w.toList.length from rfl, List.drop_left] at hmin
          · rw [hcs, ← ht, List.append_assoc]
      · rintro ⟨major, hmaj, rfl | ⟨w, hw, minor, hmin, rfl⟩⟩ <;> obtain ⟨hne, hm⟩ := digitsToEnd_iff.mp hmaj
        · have h0 := @span_append_of_stop _ _ [] hm nofun
          rw [List.append_nil, hsp] at h0
          cases h0
          simpa [List.isEmpty_iff] using hne
        · simp only [List.mem_cons, List.mem_singleton, List.not_mem_nil, or_false] at hw
          rw [List.append_assoc, span_append_of_stop hm (by rcases hw with rfl | rfl <;> rintro _ ⟨⟩ <;> rfl)] at hsp
          cases hsp
          rcases hw with rfl | rfl
          · simp [hne, hmin, show "alpha".length = 5 from rfl]
          · simp [hne, hmin, show "beta".length = 4 from rfl]
    · simp [hc]

theorem validateKubernetesVersion_ok_iff (version : String) :
    validateKubernetesVersion version = .ok () ↔ KubernetesVersion version := by
  rw [← kubernetesVersionRegex.matchString_iff]
  unfold validateKubernetesVersion
  cases kubernetesVersionRegex.matchString version <;> simp

-- A Kubernetes version holds no slash.
theorem KubernetesVersion.slash_not_mem {s : String} (h : KubernetesVersion s) : '/' ∉ s.toList := by
  have hd : ∀ {cs : List Char}, digitsToEnd cs → '/' ∉ cs := fun h h' =>
    absurd ((digitsToEnd_iff.mp h).2 _ h') (by decide)
  obtain ⟨major, hmaj, hs | ⟨w, hw, minor, hmin, hs⟩⟩ := h <;> rw [hs]
  · simpa using hd hmaj
  · simp only [List.mem_cons, List.mem_singleton, List.not_mem_nil, or_false] at hw
    simp only [List.mem_cons, List.mem_append, not_or]
    refine ⟨by decide, ⟨hd hmaj, ?_⟩, hd hmin⟩
    rcases hw with rfl | rfl <;> decide

-- The apiVersions validateKubernetesObjectStructure accepts: empty, a Kubernetes version, or a
-- group without a slash, a slash, and a version that is empty or a Kubernetes version.
def APIVersion (s : String) : Prop :=
  s = "" ∨ KubernetesVersion s ∨
    ∃ group version : List Char, '/' ∉ group ∧ s.toList = group ++ '/' :: version ∧
      (version = [] ∨ KubernetesVersion ⟨version⟩)

-- A text holds no slash, or splits at its first one.
theorem slash_split : ∀ l : List Char, '/' ∉ l ∨ ∃ g v, '/' ∉ g ∧ l = g ++ '/' :: v
  | [] => .inl nofun
  | c :: l =>
    if hc : c = '/' then .inr ⟨[], l, nofun, hc ▸ rfl⟩
    else match slash_split l with
      | .inl h => .inl (by simp [Ne.symm hc, h])
      | .inr ⟨g, v, hg, he⟩ => .inr ⟨c :: g, v, by simp [Ne.symm hc, hg], by rw [he]; rfl⟩

theorem span_split {g v : List Char} (hg : '/' ∉ g) : (g ++ '/' :: v).span (· != '/') = (g, '/' :: v) :=
  span_append_of_stop (fun _ hc => bne_iff_ne.mpr (ne_of_mem_of_not_mem hc hg)) (by simp)

-- The first slash of a text is where it splits.
theorem split_unique {g v g' v' : List Char} (hg : '/' ∉ g) (hg' : '/' ∉ g')
    (h : g ++ '/' :: v = g' ++ '/' :: v') : g = g' ∧ v = v' := by
  have := span_split (v := v) hg
  rw [h, span_split hg', Prod.mk.injEq, List.cons.injEq] at this
  exact ⟨this.1.symm, this.2.2.symm⟩

namespace parseGroupVersion

variable {g v : List Char}

-- The texts ParseGroupVersion takes first, `""` and `"/"`, split only when they are `"/"`.
theorem split_of_special (hg : '/' ∉ g)
    (h : (⟨g ++ '/' :: v⟩ : String) = "" ∨ (⟨g ++ '/' :: v⟩ : String) = "/") : g = [] ∧ v = [] := by
  simp only [String.ext_iff] at h
  rcases h with h | h
  · simp at h
  · exact split_unique hg nofun (h.trans (List.nil_append _).symm)

theorem of_slash_not_mem {s : String} (h : '/' ∉ s.toList) : parseGroupVersion s = .ok ⟨"", s⟩ := by
  have hc : s.toList.count '/' = 0 := List.count_eq_zero_of_not_mem h
  unfold parseGroupVersion
  split_ifs with hs
  · simp only [Bool.or_eq_true, decide_eq_true_eq] at hs
    rcases hs with rfl | rfl
    · rfl
    · simp at h
  · rw [hc]

theorem of_split (hg : '/' ∉ g) (hv : '/' ∉ v) : parseGroupVersion ⟨g ++ '/' :: v⟩ = .ok ⟨⟨g⟩, ⟨v⟩⟩ := by
  have hc : (g ++ '/' :: v).count '/' = 1 := by
    simp [List.count_eq_zero_of_not_mem hg, List.count_eq_zero_of_not_mem hv]
  unfold parseGroupVersion
  split_ifs with hs
  · simp only [Bool.or_eq_true, decide_eq_true_eq] at hs
    obtain ⟨rfl, rfl⟩ := split_of_special hg hs
    rfl
  · show (match (g ++ '/' :: v).count '/' with | 0 => _ | 1 => _ | _ => _) = _
    rw [hc, show (⟨g ++ '/' :: v⟩ : String).toList = g ++ '/' :: v from rfl, span_split hg]
    rfl

theorem error_of_two (hg : '/' ∉ g) (hv : '/' ∈ v) (gv : GroupVersion) :
    parseGroupVersion ⟨g ++ '/' :: v⟩ ≠ .ok gv := by
  obtain ⟨n, hn⟩ : ∃ n, (g ++ '/' :: v).count '/' = n + 2 :=
    ⟨v.count '/' - 1, by simp [List.count_eq_zero_of_not_mem hg]; have := List.count_pos_iff.mpr hv; omega⟩
  unfold parseGroupVersion
  split_ifs with hs
  · simp only [Bool.or_eq_true, decide_eq_true_eq] at hs
    obtain ⟨-, rfl⟩ := split_of_special hg hs
    nomatch hv
  · show (match (g ++ '/' :: v).count '/' with | 0 => _ | 1 => _ | _ => _) ≠ _
    rw [hn]
    nofun

end parseGroupVersion

-- What the apiVersion checks accept, read off apimachinery's parse.
theorem parseGroupVersion_version_ok_iff (s : String) :
    (∃ gv, parseGroupVersion s = .ok gv ∧ (gv.version = "" ∨ KubernetesVersion gv.version)) ↔ APIVersion s := by
  have hslash : ∀ {g v : List Char}, '/' ∈ g ++ '/' :: v := List.mem_append_right _ (List.mem_cons_self _ _)
  unfold APIVersion
  rcases slash_split s.toList with h | ⟨g, v, hg, hs⟩
  · have hn : ¬∃ group version : List Char, '/' ∉ group ∧ s.toList = group ++ '/' :: version ∧
        (version = [] ∨ KubernetesVersion ⟨version⟩) := fun ⟨_, _, _, he, _⟩ => h (he ▸ hslash)
    rw [parseGroupVersion.of_slash_not_mem h]
    simp only [Except.ok.injEq, exists_eq_left', hn, or_false]
  · obtain rfl : s = ⟨g ++ '/' :: v⟩ := String.ext hs
    have hk : ¬KubernetesVersion ⟨g ++ '/' :: v⟩ := fun hk => hk.slash_not_mem hslash
    have he : (⟨g ++ '/' :: v⟩ : String) ≠ "" := fun e => by simp [String.ext_iff] at e
    have hsplit : (∃ group version : List Char, '/' ∉ group ∧ (⟨g ++ '/' :: v⟩ : String).toList =
        group ++ '/' :: version ∧ (version = [] ∨ KubernetesVersion ⟨version⟩)) ↔
        (v = [] ∨ KubernetesVersion ⟨v⟩) :=
      ⟨fun ⟨_, _, hg', e, hv⟩ => (split_unique hg hg' e).2 ▸ hv, fun hv => ⟨g, v, hg, rfl, hv⟩⟩
    rw [hsplit]
    simp only [he, hk, false_or]
    by_cases hv : '/' ∈ v
    · have hv' : ¬(v = [] ∨ KubernetesVersion ⟨v⟩) := by
        rintro (rfl | hkv)
        · nomatch hv
        · exact hkv.slash_not_mem hv
      simp only [hv', iff_false, not_exists, not_and]
      exact fun gv e => absurd e (parseGroupVersion.error_of_two hg hv gv)
    · rw [parseGroupVersion.of_split hg hv]
      simp only [Except.ok.injEq, exists_eq_left']
      rw [show (⟨v⟩ : String) = "" ↔ v = [] by simp [String.ext_iff]]

-- What validateKubernetesObjectStructure accepts.
structure ObjectStructure (obj : List (String × Value)) : Prop where
  apiVersion : ∃ av, obj.lookup "apiVersion" = some (.string av) ∧ APIVersion av
  kind : ∃ k, obj.lookup "kind" = some (.string k)
  metadata : ∃ m, obj.lookup "metadata" = some (.object m)

theorem objectStructure_iff {obj : List (String × Value)} : ObjectStructure obj ↔
    (∃ av, obj.lookup "apiVersion" = some (.string av) ∧ APIVersion av) ∧
    (∃ k, obj.lookup "kind" = some (.string k)) ∧ ∃ m, obj.lookup "metadata" = some (.object m) :=
  ⟨fun h => ⟨h.1, h.2, h.3⟩, fun h => ⟨h.1, h.2.1, h.2.2⟩⟩

theorem validateKubernetesObjectStructure.apiVersion_ok_iff (obj : List (String × Value)) :
    validateKubernetesObjectStructure.apiVersion obj = .ok () ↔
      ∃ av, obj.lookup "apiVersion" = some (.string av) ∧ APIVersion av := by
  unfold validateKubernetesObjectStructure.apiVersion
  cases ha : obj.lookup "apiVersion" with
  | none => simp
  | some av =>
    cases av <;> simp only [reduceCtorEq, Option.some.injEq, Value.string.injEq, exists_false,
      iff_false, false_and]
    rename_i av
    rw [exists_eq_left', ← parseGroupVersion_version_ok_iff]
    cases hg : parseGroupVersion av with
    | error e => simp
    | ok gv =>
      by_cases h0 : gv.version = ""
      · simp [h0]
      · simp [h0, validateKubernetesVersion_ok_iff]

theorem validateKubernetesObjectStructure_ok_iff (obj : List (String × Value)) :
    validateKubernetesObjectStructure obj = .ok () ↔ ObjectStructure obj := by
  rw [objectStructure_iff, ← validateKubernetesObjectStructure.apiVersion_ok_iff]
  unfold validateKubernetesObjectStructure
  cases validateKubernetesObjectStructure.apiVersion obj with
  | error e => simp
  | ok u =>
    simp only [except_ok_bind, true_and]
    cases hk : obj.lookup "kind" with
    | none => simp
    | some k =>
      cases k <;> simp only [reduceCtorEq, Option.some.injEq, Value.string.injEq, exists_false,
        false_and, iff_false, exists_eq', true_and]
      cases hm : obj.lookup "metadata" with
      | none => simp
      | some m => cases m <;> simp

-- A group with an empty version passes the apiVersion checks.
example : validateKubernetesObjectStructure
    [("apiVersion", .string "apps/"), ("kind", .string "Deployment"), ("metadata", .object [])] = .ok () := by
  decide

end Kro
