import ConnectorPlane.Json.Redact
import Mathlib.Data.List.Basic

/-! # Masking reaches every credential leaf

A leaf of a document is a value that is not an object, reached from the root through objects by
keys `k₁ … kₙ`, one member at a time (`Json.Reaches`); its path is `k₁.k₂.….kₙ`. A document has
its credentials masked (`Json.LeavesMasked`) when every leaf whose path is a credential holds
exactly the sentinel.

* `Json.mem_maskIn`: a member of a masked object is the masking of an object, or a leaf that
  holds the sentinel when its path is a credential.
* `Json.mask_leavesMasked`: masking by a predicate masks every leaf the predicate calls a
  credential, at any depth.
-/

namespace ConnectorPlane

namespace Json

/-- `Reaches v ks w`: going down from `v` through objects by the keys `ks`, a member of each key
at a time, reaches `w`. -/
inductive Reaches : Json → List String → Json → Prop
  | here (v : Json) : Reaches v [] v
  | member {fs : List (String × Json)} {k : String} {child : Json} {ks : List String}
      {w : Json} : (k, child) ∈ fs → Reaches child ks w → Reaches (.obj fs) (k :: ks) w

/-- Every leaf whose path `P` calls a credential holds exactly the sentinel. -/
def LeavesMasked (P : String → Prop) (v : Json) : Prop :=
  ∀ ks w, Reaches v ks w → ks ≠ [] → w.isObject = false → P (".".intercalate ks) →
    w = .str maskSentinel

theorem reaches_of_not_isObject {v w : Json} {ks : List String} (hv : v.isObject = false)
    (h : Reaches v ks w) : ks = [] ∧ w = v := by
  cases h with
  | here => exact ⟨rfl, rfl⟩
  | member => simp [isObject] at hv

variable {p : String → Bool}

theorem mem_maskIn {pre : String} : ∀ {fs : List (String × Json)} {k : String} {w : Json},
    (k, w) ∈ maskIn p pre fs →
      (∃ c, w = .obj (maskIn p (pre ++ k ++ ".") c)) ∨
        (w.isObject = false ∧ (p (pre ++ k) = true → w = .str maskSentinel))
  | [], _, _, h => by simp [maskIn] at h
  | (k', v) :: rest, k, w, h => by
    rw [maskIn.eq_def] at h
    split at h
    · simp at h
    · -- an object member is masked below it
      rename_i k₀ c rest₀ heq
      simp only [List.cons.injEq, Prod.mk.injEq] at heq
      obtain ⟨⟨rfl, rfl⟩, rfl⟩ := heq
      rcases List.mem_cons.1 h with h | h
      · simp only [Prod.mk.injEq] at h
        obtain ⟨rfl, rfl⟩ := h
        exact .inl ⟨c, rfl⟩
      · exact mem_maskIn h
    · -- any other member is a leaf, replaced when its path is a credential
      rename_i k₀ v₀ rest₀ hobj heq
      simp only [List.cons.injEq, Prod.mk.injEq] at heq
      obtain ⟨⟨rfl, rfl⟩, rfl⟩ := heq
      rcases List.mem_cons.1 h with h | h
      · simp only [Prod.mk.injEq] at h
        obtain ⟨rfl, rfl⟩ := h
        have hv : v.isObject = false := by
          cases v <;> simp_all [isObject]
        refine .inr ⟨?_, fun hp => by simp [hp]⟩
        split
        · rfl
        · exact hv
      · exact mem_maskIn h

theorem maskIn_leavesMasked : ∀ {ks : List String} {pre : String} {fs : List (String × Json)}
    {w : Json}, Reaches (.obj (maskIn p pre fs)) ks w → ks ≠ [] → w.isObject = false →
      p (pre ++ ".".intercalate ks) = true → w = .str maskSentinel
  | [], _, _, _, _, hne, _, _ => absurd rfl hne
  | k :: ks, pre, fs, w, h, _, hw, hp => by
    cases h with
    | member hmem hrest =>
      rcases mem_maskIn hmem with ⟨c, rfl⟩ | ⟨hleaf, hsent⟩
      · -- an object: the leaf lies further down, under the path extended by `k`
        cases ks with
        | nil =>
          cases hrest
          simp [isObject] at hw
        | cons k' ks =>
          refine maskIn_leavesMasked hrest (List.cons_ne_nil _ _) hw ?_
          rwa [String.intercalate_cons_cons, ← String.append_assoc, ← String.append_assoc] at hp
      · -- a leaf: it is the one reached, at the path `pre ++ k`
        obtain ⟨rfl, rfl⟩ := reaches_of_not_isObject hleaf hrest
        exact hsent (by simpa using hp)

/-- **Masking reaches every credential leaf**, at any depth. -/
theorem mask_leavesMasked (v : Json) : LeavesMasked (fun path => p path = true) (v.mask p) := by
  intro ks w h hne hw hp
  cases v with
  | obj fs => exact maskIn_leavesMasked h hne hw (by simpa using hp)
  | _ => exact absurd (reaches_of_not_isObject (by rfl) h).1 hne

end Json

end ConnectorPlane
