import ConnectorPlane.Identity
import Mathlib.Tactic.SplitIfs

/-! # Which header names the caller

Two headers name the owner of a request: `jwt-sub`, a user's uid, and `owner-id`, an owner's
id. `Resolver.resolve` first gives `owner-id` the configured default owner when the request gave
it no value, then reads each header through `Metadata.single`: a header counts only when exactly
one non-empty value was given for it. The default is added through `Metadata.contains`, which
counts any value, so the two notions of a header being there differ.

* `Metadata.getAll_append_of_ne`, `Metadata.getAll_append_of_eq_nil`: appending a value under a
  key leaves every other key's values, and gives a key without values that one value.
* `Metadata.getAll_withDefaultOwner_ownerId`: the default owner becomes the only `owner-id`
  value exactly when no value was given and the default is not empty; `jwt-sub` keeps its
  values.
* `Resolver.resolve_of_uid`: a single non-empty `jwt-sub` value decides alone: the owner of the
  uid it reads as, or not found.
* `Resolver.resolve_of_ownerId`, `Resolver.resolve_unauthenticated`: any other `jwt-sub`
  (absent, empty or repeated) leaves the decision to the `owner-id` value or the default owner,
  and with neither the request is unauthenticated.
* `Resolver.resolve_by_precedence`: the three together.
* `Resolver.empty_uid_yields_to_owner_id`: a `jwt-sub` header whose one value is empty decides
  nothing; the `owner-id` header names the owner.
-/

namespace ConnectorPlane

namespace Metadata

/-! ## The values of a key -/

section Append

variable {value k j : String}

theorem find?_append_go_of_ne (hkj : k ≠ j) :
    ∀ es : List (String × List String),
      (append.go value k es).find? (·.1 == j) = es.find? (·.1 == j)
  | [] => by simp [append.go, hkj]
  | (k', vs) :: rest => by
    rw [append.go]
    split_ifs with hlt heq
    · simp [hkj]
    · subst heq
      simp [hkj]
    · -- the entry is kept and the value goes further down
      by_cases h : k' = j
      · simp [h]
      · simp [h, find?_append_go_of_ne hkj rest]

/-- Appending under a key without values gives it that one value, whether the key had an entry
or gets one. -/
theorem values_append_go_of_nil :
    ∀ es : List (String × List String), ((es.find? (·.1 == k)).map (·.2)).getD [] = [] →
      (((append.go value k es).find? (·.1 == k)).map (·.2)).getD [] = [value]
  | [], _ => by simp [append.go]
  | (k', vs) :: rest, h => by
    rw [append.go]
    split_ifs with hlt heq
    · simp
    · subst heq
      simpa using h
    · -- the entry is of another key: both searches go past it
      have hne : (k' == k) = false := by simpa using fun e => heq e.symm
      simp only [List.find?_cons, hne] at h ⊢
      exact values_append_go_of_nil rest h

end Append

variable {m : Metadata} {key j value : String}

theorem getAll_append_of_ne (h : asciiLower key ≠ asciiLower j) :
    (m.append key value).getAll j = m.getAll j := by
  simp only [getAll, append]
  rw [find?_append_go_of_ne h]

theorem getAll_append_of_eq_nil (h : m.getAll key = []) :
    (m.append key value).getAll key = [value] :=
  values_append_go_of_nil m.entries h

theorem single_eq_some_iff {v : String} : m.single key = some v ↔ m.getAll key = [v] ∧ v ≠ "" := by
  unfold single
  split
  · rename_i w hw
    by_cases he : w.isEmpty = true
    · have hw' : w = "" := String.isEmpty_iff.1 he
      simp [hw, hw']
    · have hw' : w ≠ "" := fun e => he (String.isEmpty_iff.2 e)
      simp only [he, Bool.false_eq_true, if_false, Option.some.injEq, hw, List.cons.injEq,
        and_true]
      constructor
      · rintro rfl
        exact ⟨rfl, hw'⟩
      · rintro ⟨rfl, -⟩
        rfl
  · rename_i hne
    simp only [reduceCtorEq, false_iff, not_and]
    intro h
    exact absurd h (hne v)

theorem single_eq_none_iff : m.single key = none ↔ ∀ v, m.getAll key = [v] → v = "" := by
  constructor
  · intro h v hv
    refine Decidable.byContradiction fun hne => ?_
    rw [(single_eq_some_iff (v := v)).2 ⟨hv, hne⟩] at h
    cases h
  · intro h
    cases hs : m.single key with
    | none => rfl
    | some v =>
      obtain ⟨hv, hne⟩ := single_eq_some_iff.1 hs
      exact absurd (h v hv) hne

/-! ## The two headers -/

@[simp] theorem asciiLower_headerOwnerId : asciiLower headerOwnerId = headerOwnerId := by
  decide +kernel

@[simp] theorem asciiLower_headerOwnerUid : asciiLower headerOwnerUid = headerOwnerUid := by
  decide +kernel

theorem headerOwnerId_ne_headerOwnerUid : headerOwnerId ≠ headerOwnerUid := by decide

variable (m) (d : String)

theorem getAll_withDefaultOwner_ownerUid :
    (m.withDefaultOwner d).getAll headerOwnerUid = m.getAll headerOwnerUid := by
  unfold withDefaultOwner
  split
  · exact getAll_append_of_ne (by simpa using headerOwnerId_ne_headerOwnerUid)
  · rfl

/-- The default owner is the one `owner-id` value exactly when the request gave none and the
default is not empty. -/
theorem getAll_withDefaultOwner_ownerId :
    (m.withDefaultOwner d).getAll headerOwnerId =
      if d ≠ "" ∧ m.getAll headerOwnerId = [] then [d] else m.getAll headerOwnerId := by
  unfold withDefaultOwner contains
  by_cases hd : d = ""
  · simp [hd]
  · by_cases hn : m.getAll headerOwnerId = []
    · simp [hd, hn, getAll_append_of_eq_nil hn]
    · simp [hd, hn]

end Metadata

/-! ## Resolving the owner -/

section Resolve

variable {dir : Directory} {md : Metadata}

theorem resolveCaller_of_single_uid {t : String} (h : md.single headerOwnerUid = some t) :
    resolveCaller dir md =
      ((Uuid.parse? t).bind dir.lookupUser).elim (.error (.notFound "owner not found")) .ok := by
  unfold resolveCaller
  rw [h]
  dsimp only
  cases Uuid.parse? t <;> rfl

theorem resolveCaller_of_no_uid (h : md.single headerOwnerUid = none) :
    resolveCaller dir md =
      (md.single headerOwnerId).elim (.error (.unauthenticated "no owner identity in request"))
        fun i => (dir.getUser i).elim (.error (.notFound "owner not found")) .ok := by
  unfold resolveCaller
  rw [h]
  cases md.single headerOwnerId <;> rfl

end Resolve

namespace Resolver

variable (r : Resolver) (md : Metadata)

/-- **A single non-empty uid decides alone**: the owner of the uid it reads as, or not found,
whatever `owner-id` says and whatever the default owner is. -/
theorem resolve_of_uid {t : String} (h : md.getAll headerOwnerUid = [t]) (ht : t ≠ "") :
    r.resolve md =
      ((Uuid.parse? t).bind r.directory.lookupUser).elim (.error (.notFound "owner not found"))
        .ok := by
  apply resolveCaller_of_single_uid
  rw [Metadata.single_eq_some_iff, Metadata.getAll_withDefaultOwner_ownerUid]
  exact ⟨h, ht⟩

variable {r md}

theorem resolve_of_no_uid (hu : ∀ t, md.getAll headerOwnerUid = [t] → t = "") :
    r.resolve md =
      ((md.withDefaultOwner r.defaultOwnerId).single headerOwnerId).elim
        (.error (.unauthenticated "no owner identity in request"))
        fun i => (r.directory.getUser i).elim (.error (.notFound "owner not found")) .ok := by
  apply resolveCaller_of_no_uid
  rw [Metadata.single_eq_none_iff, Metadata.getAll_withDefaultOwner_ownerUid]
  exact hu

/-- **The owner id decides next**: a single non-empty `owner-id` value, or with no value at all
the non-empty default owner id, is looked up, and is not found when unknown. -/
theorem resolve_of_ownerId (hu : ∀ t, md.getAll headerOwnerUid = [t] → t = "") {i : String}
    (hi : (md.getAll headerOwnerId = [i] ∧ i ≠ "") ∨
      (md.getAll headerOwnerId = [] ∧ i = r.defaultOwnerId ∧ i ≠ "")) :
    r.resolve md = (r.directory.getUser i).elim (.error (.notFound "owner not found")) .ok := by
  rw [resolve_of_no_uid hu]
  -- in both cases the default-owner step leaves `i` as the one non-empty value
  have hsingle : (md.withDefaultOwner r.defaultOwnerId).single headerOwnerId = some i := by
    rw [Metadata.single_eq_some_iff, Metadata.getAll_withDefaultOwner_ownerId]
    rcases hi with ⟨hv, hne⟩ | ⟨hv, rfl, hne⟩
    · simp [hv, hne]
    · simp [hv, hne]
  rw [hsingle]
  rfl

/-- **Otherwise the request is unauthenticated**: no single non-empty uid, no single non-empty
owner id, and no default owner id to stand in for a missing one. -/
theorem resolve_unauthenticated (hu : ∀ t, md.getAll headerOwnerUid = [t] → t = "")
    (hi : ∀ i, md.getAll headerOwnerId = [i] → i = "")
    (hd : md.getAll headerOwnerId = [] → r.defaultOwnerId = "") :
    r.resolve md = .error (.unauthenticated "no owner identity in request") := by
  rw [resolve_of_no_uid hu]
  have hnone : (md.withDefaultOwner r.defaultOwnerId).single headerOwnerId = none := by
    rw [Metadata.single_eq_none_iff, Metadata.getAll_withDefaultOwner_ownerId]
    intro v hv
    split_ifs at hv with h
    · exact absurd (hd h.2) h.1
    · exact hi v hv
  rw [hnone]
  rfl

variable (r md)

/-- **Owner resolution precedence.** A single non-empty `jwt-sub` value alone decides: the owner
of the uid it reads as, or not found. Any other `jwt-sub` (no value, an empty value, or several
values) decides nothing, and then a single non-empty `owner-id` value, or with no `owner-id`
value the non-empty default owner id, is looked up (not found when unknown); with neither the
request is unauthenticated. -/
theorem resolve_by_precedence :
    (∀ t, md.getAll headerOwnerUid = [t] → t ≠ "" →
      r.resolve md =
        ((Uuid.parse? t).bind r.directory.lookupUser).elim (.error (.notFound "owner not found"))
          .ok) ∧
    ((∀ t, md.getAll headerOwnerUid = [t] → t = "") →
      (∀ i, (md.getAll headerOwnerId = [i] ∧ i ≠ "") ∨
          (md.getAll headerOwnerId = [] ∧ i = r.defaultOwnerId ∧ i ≠ "") →
        r.resolve md = (r.directory.getUser i).elim (.error (.notFound "owner not found")) .ok) ∧
      ((∀ i, md.getAll headerOwnerId = [i] → i = "") →
        (md.getAll headerOwnerId = [] → r.defaultOwnerId = "") →
        r.resolve md = .error (.unauthenticated "no owner identity in request"))) :=
  ⟨fun _ h ht => resolve_of_uid r md h ht,
    fun hu => ⟨fun _ hi => resolve_of_ownerId hu hi, resolve_unauthenticated hu⟩⟩

end Resolver

/-! ## A caller with an empty uid header -/

/-- A user known to a static directory. -/
def alice : Owner := ⟨Uuid.ofNat 0x9f0c6a2e5b1d4b8ea1c42d7f3e6b9a10, "alice"⟩

/-- A resolver over a static directory that knows `alice`, with no default owner. -/
def aliceResolver : Resolver := ⟨.static [alice], ""⟩

/-- The headers `jwt-sub: ""` and `owner-id: alice`, as appending them gives. -/
def emptyUidRequest : Metadata := ⟨[("jwt-sub", [""]), ("owner-id", ["alice"])]⟩

/-- A request whose `jwt-sub` holds one empty value is resolved by its `owner-id`. -/
theorem Resolver.empty_uid_yields_to_owner_id :
    emptyUidRequest.contains headerOwnerUid = true ∧
      aliceResolver.resolve emptyUidRequest = .ok alice := by
  have hu : emptyUidRequest.getAll headerOwnerUid = [""] := by decide +kernel
  have hi : emptyUidRequest.getAll headerOwnerId = ["alice"] := by decide +kernel
  refine ⟨by simp [Metadata.contains, hu], ?_⟩
  rw [Resolver.resolve_of_ownerId (fun t ht => by simpa [hu] using ht.symm)
    (.inl ⟨hi, by decide⟩)]
  rfl

/-- Precedence at a request with an empty uid: no uid decides, and the owner id is looked up. -/
theorem Resolver.empty_uid_request_resolves_by_id :
    (∀ t, emptyUidRequest.getAll headerOwnerUid = [t] → t = "") ∧
      aliceResolver.resolve emptyUidRequest =
        (aliceResolver.directory.getUser "alice").elim (.error (.notFound "owner not found"))
          .ok := by
  have hu : emptyUidRequest.getAll headerOwnerUid = [""] := by decide +kernel
  have hi : emptyUidRequest.getAll headerOwnerId = ["alice"] := by decide +kernel
  have hnu : ∀ t, emptyUidRequest.getAll headerOwnerUid = [t] → t = "" := fun t ht => by
    simpa [hu] using ht.symm
  exact ⟨hnu, ((Resolver.resolve_by_precedence aliceResolver emptyUidRequest).2 hnu).1 "alice"
    (.inl ⟨hi, by decide⟩)⟩

end ConnectorPlane
