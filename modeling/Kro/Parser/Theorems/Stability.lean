import Mathlib.Data.List.Perm.Basic
import Kro.Parser.Theorems.Refinement
import Kro.Parser.Theorems.Order

namespace Kro

namespace Heap

-- Descriptors of two calls over two heaps that agree: the same fields, and ExpectedSchemas that
-- hold trees of one normal form.
def FieldDescriptor.Agree (H₁ H₂ : Heap) (d₁ d₂ : FieldDescriptor) : Prop :=
  d₁.path = d₂.path ∧ d₁.expressions = d₂.expressions ∧ d₁.expectedType = d₂.expectedType ∧
    Option.Rel (fun q₁ q₂ => ∃ t₁ t₂, H₁.Denotes q₁ t₁ ∧ H₂.Denotes q₂ t₂ ∧ t₁.norm = t₂.norm)
      d₁.expectedSchema d₂.expectedSchema ∧ d₁.standaloneExpression = d₂.standaloneExpression

-- The same error, or descriptors that agree one by one.
def Agree (H₁ H₂ : Heap) : Except Failure (List FieldDescriptor) → Except Failure (List FieldDescriptor) → Prop
  | .ok L₁, .ok L₂ => List.Forall₂ (FieldDescriptor.Agree H₁ H₂) L₁ L₂
  | .error e₁, .error e₂ => e₁ = e₂
  | _, _ => False

variable {H₁ H₂ : Heap}

-- Two descriptors refining tree-model descriptors of one normal form agree.
theorem FieldDescriptor.Refines.agree {d₁ d₂ : FieldDescriptor} {e₁ e₂ : Kro.FieldDescriptor}
    (h₁ : d₁.Refines H₁ e₁) (h₂ : d₂.Refines H₂ e₂) (he : e₁.norm = e₂.norm) : d₁.Agree H₁ H₂ d₂ := by
  obtain ⟨_, _, _, _, _⟩ := d₁
  obtain ⟨_, _, _, _, _⟩ := d₂
  obtain ⟨_, _, _, _, _⟩ := e₁
  obtain ⟨_, _, _, _, _⟩ := e₂
  obtain ⟨hp₁, hx₁, ht₁, hs₁, ha₁⟩ := h₁
  obtain ⟨hp₂, hx₂, ht₂, hs₂, ha₂⟩ := h₂
  simp only [Kro.FieldDescriptor.norm, FieldDescriptorOf.mk.injEq] at he
  obtain ⟨rfl, rfl, rfl, hs, rfl⟩ := he
  refine ⟨hp₁.trans hp₂.symm, hx₁.trans hx₂.symm, ht₁.trans ht₂.symm, ?_, ha₁.trans ha₂.symm⟩
  cases hs₁ with
  | none =>
    cases hs₂ with
    | none => exact .none
    | some => nomatch hs
  | some hd₁ =>
    cases hs₂ with
    | none => nomatch hs
    | some hd₂ => exact .some ⟨_, _, hd₁, hd₂, Option.some.inj hs⟩

theorem forall₂_agree : ∀ {L₁ L₂ : List FieldDescriptor} {X Y : List Kro.FieldDescriptor},
    List.Forall₂ (FieldDescriptor.Refines H₁) L₁ X → List.Forall₂ (FieldDescriptor.Refines H₂) L₂ Y →
    X.map Kro.FieldDescriptor.norm = Y.map Kro.FieldDescriptor.norm →
    List.Forall₂ (FieldDescriptor.Agree H₁ H₂) L₁ L₂
  | _, _, _, _, .nil, .nil, _ => .nil
  | _, _, _, _, .cons h₁ t₁, .cons h₂ t₂, he => by
    rw [List.map_cons, List.map_cons, List.cons.injEq] at he
    exact .cons (h₁.agree h₂ he.1) (forall₂_agree t₁ t₂ he.2)
  | _, _, _, _, .nil, .cons _ _, he => nomatch he
  | _, _, _, _, .cons _ _, .nil, he => nomatch he

-- Two calls refining tree-model outcomes that agree up to normal forms agree.
theorem Refines.agree {a b : Except Failure (List FieldDescriptor)} {x y : Except Failure (List Kro.FieldDescriptor)}
    (ha : Refines H₁ a x) (hb : Refines H₂ b y)
    (hxy : x.map (List.map Kro.FieldDescriptor.norm) = y.map (List.map Kro.FieldDescriptor.norm)) :
    Agree H₁ H₂ a b :=
  match a, b, x, y, ha, hb, hxy with
  | .ok _, .ok _, .ok _, .ok _, ha, hb, hxy => forall₂_agree ha hb (Except.ok.inj hxy)
  | .error _, .error _, .error _, .error _, ha, hb, hxy => ha.trans ((Except.error.inj hxy).trans hb.symm)
  | .ok _, _, .ok _, .error _, _, _, hxy => nomatch hxy
  | .error _, _, .error _, .ok _, _, _, hxy => nomatch hxy

-- ParseResource on a heap that earlier calls have grown and rewritten gives what it gives on the
-- heap before them: the same error, or descriptors with the same fields whose ExpectedSchemas
-- hold trees of one normal form. A schema shared across calls and rewritten in place by one
-- does not change the outcome of the next.
theorem ParseResource_stable (resource : List (String × Value)) (p : Nat) (h h' : Heap) (s₀ : Schema)
    (hc : h.Closed) (hs : h.Denotes p s₀) (hh : h.Extends h') (hc' : h'.Closed) :
    Agree (after (ParseResource resource (some p) h)) (after (ParseResource resource (some p) h'))
      (value (ParseResource resource (some p) h)) (value (ParseResource resource (some p) h')) := by
  obtain ⟨s₀', hs'⟩ := hs.extends hh
  obtain ⟨-, -, s₁, -, hn₁, hr₁⟩ := parseResource_refines_root (.object resource) p "" h s₀ hc hs
  obtain ⟨-, -, s₂, -, hn₂, hr₂⟩ := parseResource_refines_root (.object resource) p "" h' s₀' hc' hs'
  exact hr₁.agree hr₂ (parseResource_norm _ s₁ s₂ "" (hn₁.trans (hn₂.trans (hs.norm_eq hh hs')).symm))

-- The sample schema after a call on another document has rewritten it.
theorem ParseResource_stable_sample :
    sampleHeap.Closed ∧ sampleHeap.Denotes 0 sampleSchema ∧
    sampleHeap.Extends (after (ParseResource [("b", .string "$\x7by\x7d")] (some 0) sampleHeap)) ∧
    (after (ParseResource [("b", .string "$\x7by\x7d")] (some 0) sampleHeap)).Closed ∧
    Agree (after (ParseResource [("a", .string "$\x7bx\x7d")] (some 0) sampleHeap))
      (after (ParseResource [("a", .string "$\x7bx\x7d")] (some 0)
        (after (ParseResource [("b", .string "$\x7by\x7d")] (some 0) sampleHeap))))
      (value (ParseResource [("a", .string "$\x7bx\x7d")] (some 0) sampleHeap))
      (value (ParseResource [("a", .string "$\x7bx\x7d")] (some 0)
        (after (ParseResource [("b", .string "$\x7by\x7d")] (some 0) sampleHeap)))) :=
  have hg := parseResource_grows (.object [("b", .string "$\x7by\x7d")]) (some 0) "" sampleHeap sampleHeap_closed
  ⟨sampleHeap_closed, sampleHeap_denotes, hg.1, hg.2,
    ParseResource_stable _ 0 sampleHeap _ sampleSchema sampleHeap_closed sampleHeap_denotes hg.1 hg.2⟩

theorem PermEquiv.map_norm {r r' : Except Failure (List Kro.FieldDescriptor)} (h : PermEquiv r r') :
    PermEquiv (r.map (List.map Kro.FieldDescriptor.norm)) (r'.map (List.map Kro.FieldDescriptor.norm)) := by
  cases r <;> cases r' <;> first | exact h.map _ | trivial

-- A descriptor list refining a tree-model list, against one whose entries hold, position by
-- position, descriptors of the same normal forms.
theorem forall₂_agree_norm : ∀ {L₁ L : List FieldDescriptor} {X : List Kro.FieldDescriptor},
    List.Forall₂ (FieldDescriptor.Refines H₁) L₁ X →
    List.Forall₂ (fun n d => ∃ e, FieldDescriptor.Refines H₂ d e ∧ e.norm = n) (X.map Kro.FieldDescriptor.norm) L →
    List.Forall₂ (FieldDescriptor.Agree H₁ H₂) L₁ L
  | _, _, _, .nil, .nil => .nil
  | _, _, _, .cons h₁ t₁, .cons ⟨_, h₂, he⟩ t₂ => .cons (h₁.agree h₂ he.symm) (forall₂_agree_norm t₁ t₂)

theorem forall₂_agree_perm {L₁ L₂ : List FieldDescriptor} {X Y : List Kro.FieldDescriptor}
    (h₁ : List.Forall₂ (FieldDescriptor.Refines H₁) L₁ X) (h₂ : List.Forall₂ (FieldDescriptor.Refines H₂) L₂ Y)
    (hp : (X.map Kro.FieldDescriptor.norm).Perm (Y.map Kro.FieldDescriptor.norm)) :
    ∃ L, L₂.Perm L ∧ List.Forall₂ (FieldDescriptor.Agree H₁ H₂) L₁ L := by
  have h₂' : List.Forall₂ (fun n d => ∃ e, FieldDescriptor.Refines H₂ d e ∧ e.norm = n)
      (Y.map Kro.FieldDescriptor.norm) L₂ := by
    rw [List.forall₂_map_left_iff]
    exact List.Forall₂.flip (h₂.imp fun _ e h => ⟨e, h, rfl⟩)
  obtain ⟨L, hL, hperm⟩ := List.perm_comp_forall₂ hp h₂'
  exact ⟨L, hperm.symm, forall₂_agree_norm h₁ hL⟩

-- Two calls whose descriptors agree once the second list is reordered; two errors agree whatever
-- they are.
def AgreePerm (H₁ H₂ : Heap) : Except Failure (List FieldDescriptor) → Except Failure (List FieldDescriptor) → Prop
  | .ok L₁, .ok L₂ => ∃ L, L₂.Perm L ∧ List.Forall₂ (FieldDescriptor.Agree H₁ H₂) L₁ L
  | .error _, .error _ => True
  | _, _ => False

theorem Refines.agreePerm {a b : Except Failure (List FieldDescriptor)} {x y : Except Failure (List Kro.FieldDescriptor)}
    (ha : Refines H₁ a x) (hb : Refines H₂ b y)
    (hxy : PermEquiv (x.map (List.map Kro.FieldDescriptor.norm)) (y.map (List.map Kro.FieldDescriptor.norm))) :
    AgreePerm H₁ H₂ a b :=
  match a, b, x, y, ha, hb, hxy with
  | .ok _, .ok _, .ok _, .ok _, ha, hb, hxy => forall₂_agree_perm ha hb hxy
  | .error _, .error _, .error _, .error _, _, _, _ => trivial
  | .ok _, _, .ok _, .error _, _, _, hxy => hxy.elim
  | .error _, _, .error _, .ok _, _, _, hxy => hxy.elim

-- ParseResource over Go memory does not depend on the order in which Go's map iteration visits
-- entries: two orders both fail, or both return descriptors that agree once one list is
-- reordered, although the two runs allocate and retype schemas in different orders.
theorem ParseResource_reordered (resource resource' : List (String × Value)) (p : Nat) (h : Heap) (s₀ : Schema)
    (hc : h.Closed) (hs : h.Denotes p s₀) (hr : Value.Reordered (.object resource) (.object resource')) :
    AgreePerm (after (ParseResource resource (some p) h)) (after (ParseResource resource' (some p) h))
      (value (ParseResource resource (some p) h)) (value (ParseResource resource' (some p) h)) := by
  obtain ⟨-, -, s₁, -, hn₁, hr₁⟩ := parseResource_refines_root (.object resource) p "" h s₀ hc hs
  obtain ⟨-, -, s₂, -, hn₂, hr₂⟩ := parseResource_refines_root (.object resource') p "" h s₀ hc hs
  refine hr₁.agreePerm hr₂ ?_
  rw [parseResource_norm _ s₁ s₀ "" hn₁, parseResource_norm _ s₂ s₀ "" hn₂]
  exact PermEquiv.map_norm (parseResource_reordered _ _ hr (some s₀) "")

-- The sample schema, on two fields visited in either order.
theorem ParseResource_reordered_sample :
    sampleHeap.Closed ∧ sampleHeap.Denotes 0 sampleSchema ∧
    Value.Reordered (.object [("a", .string "$\x7bx\x7d"), ("b", .string "$\x7by\x7d")])
      (.object [("b", .string "$\x7by\x7d"), ("a", .string "$\x7bx\x7d")]) ∧
    AgreePerm (after (ParseResource [("a", .string "$\x7bx\x7d"), ("b", .string "$\x7by\x7d")] (some 0) sampleHeap))
      (after (ParseResource [("b", .string "$\x7by\x7d"), ("a", .string "$\x7bx\x7d")] (some 0) sampleHeap))
      (value (ParseResource [("a", .string "$\x7bx\x7d"), ("b", .string "$\x7by\x7d")] (some 0) sampleHeap))
      (value (ParseResource [("b", .string "$\x7by\x7d"), ("a", .string "$\x7bx\x7d")] (some 0) sampleHeap)) :=
  have hr : Value.Reordered (.object [("a", .string "$\x7bx\x7d"), ("b", .string "$\x7by\x7d")])
      (.object [("b", .string "$\x7by\x7d"), ("a", .string "$\x7bx\x7d")]) :=
    .object (.cons (.refl _) (.cons (.refl _) .nil)) (.swap _ _ _)
  ⟨sampleHeap_closed, sampleHeap_denotes, hr,
    ParseResource_reordered _ _ 0 sampleHeap sampleSchema sampleHeap_closed sampleHeap_denotes hr⟩

end Heap

end Kro
