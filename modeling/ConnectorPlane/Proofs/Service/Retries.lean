import ConnectorPlane.Proofs.Json.KeptSecrets
import ConnectorPlane.Proofs.Service.Concurrent

/-! # Retried updates

A client whose `update` timed out sends it again, with the same description and the same
configuration patch. The retry is harmless when the second call computes the change the first
one wrote, and it does whenever the stored document reads back as the document written:

* `Json.mergePatch_mergePatch_self`: merging a patch twice is merging it once, for canonical
  documents at every depth. The patch decides, under each of its keys, what the target becomes
  there, whatever the target held.
* `Json.canonical_strip`: stripping the masked credentials keeps a patch canonical, so the
  stripped patch a call merges is idempotent too.
* `Plane.patch_update_run`: a call either fails before writing and leaves the plane as it was, or
  writes the stored configuration patched with the stripped patch on the row of its key.
* `Plane.retried_update_keeps_first_write`: the second call writes nothing or the change the
  first one wrote, stamped later, provided the written configuration reads back as itself.

The proviso is not idle: the store keeps a configuration as JSON text and every call reads it
again, so a number whose text reads back as a neighbouring number changes on each retry.
-/

namespace ConnectorPlane

namespace Json

/-! ## Canonical patches -/

section Canonical

variable {k : String} {v : Json} {fs : List (String × Json)}

theorem Canonical.head (h : Canonical (.obj ((k, v) :: fs))) : Canonical v :=
  (canonical_obj_iff.1 h).2 _ List.mem_cons_self

theorem Canonical.tail (h : Canonical (.obj ((k, v) :: fs))) : Canonical (.obj fs) :=
  canonical_obj_iff.2 ⟨(canonical_obj_iff.1 h).1.of_cons,
    fun m hm => (canonical_obj_iff.1 h).2 m (List.mem_cons_of_mem _ hm)⟩

theorem canonical_get?_getD (h : Canonical (.obj fs)) (k : String) :
    Canonical ((Fields.get? fs k).getD .null) := by
  cases hk : Fields.get? fs k with
  | none => exact .null
  | some w => exact (canonical_obj_iff.1 h).2 _ (Fields.mem_of_get?_eq_some hk)

end Canonical

section Strip

variable {p : String → Bool}

theorem canonical_stripIn (pre : String) (es : List (String × Json)) (h : Canonical (.obj es)) :
    Canonical (.obj (stripIn p pre es)) := by
  have hs := sorted_stripIn (p := p) pre (canonical_obj_iff.1 h).1
  induction pre, es using stripIn.induct p with
  | case1 pre => rwa [stripIn.eq_1]
  | case2 pre k c rest ihc ih =>
    rw [stripIn.eq_2] at hs ⊢
    refine canonical_obj_iff.2 ⟨hs, ?_⟩
    simp only [List.mem_cons, forall_eq_or_imp]
    exact ⟨ihc h.head (sorted_stripIn _ (canonical_obj_iff.1 h.head).1),
      (canonical_obj_iff.1 (ih h.tail hs.of_cons)).2⟩
  | case3 pre k v rest hno hcut ih =>
    rw [stripIn.eq_3 _ _ _ _ _ hno, if_pos hcut] at hs ⊢
    exact ih h.tail hs
  | case4 pre k v rest hno hkeep ih =>
    rw [stripIn.eq_3 _ _ _ _ _ hno, if_neg hkeep] at hs ⊢
    refine canonical_obj_iff.2 ⟨hs, ?_⟩
    simp only [List.mem_cons, forall_eq_or_imp]
    exact ⟨h.head, (canonical_obj_iff.1 (ih h.tail hs.of_cons)).2⟩

theorem canonical_strip {v : Json} (h : Canonical v) : Canonical (v.strip p) := by
  cases v with
  | obj fs => exact canonical_stripIn "" fs h
  | _ => exact h

end Strip

/-! ## Merging a patch twice -/

section Idempotent

variable {k : String} {acc : List (String × Json)}

theorem get?_applyMembers_null :
    Fields.get? (mergePatch.applyMembers acc [(k, .null)]) k = none := by
  rw [applyMembers_cons, patchMember, mergePatch.applyMembers.eq_1, Fields.get?_erase_self]

theorem mergePatch_mergePatch_leaf {t v : Json} (hv : v.isObject = false) :
    (t.mergePatch v).mergePatch v = t.mergePatch v := by
  rw [mergePatch_of_not_isObject hv, mergePatch_of_not_isObject hv]

/-- **Merging a patch twice is merging it once** (RFC 7386 patches are idempotent). -/
theorem mergePatch_mergePatch_self {P : Json} (hP : Canonical P) :
    ∀ {T : Json}, Canonical T → (T.mergePatch P).mergePatch P = T.mergePatch P := by
  -- induction on the patch: an object patch acts on each key by its one member there
  induction hP with
  | @obj ps hps _ ih =>
    intro T hT
    have hTs : Fields.Sorted T.members := (canonical_obj_iff.1 (canonical_members hT)).1
    rw [mergePatch_obj T ps, mergePatch_obj _ ps]
    congr 1
    set A := mergePatch.applyMembers T.members ps
    have hA : Fields.Sorted A := sorted_applyMembers ps hTs
    refine Fields.eq_of_get?_eq (sorted_applyMembers ps hA) hA fun k => ?_
    have hAk : Fields.get? A k =
        Fields.get? (mergePatch.applyMembers T.members (ps.filter (·.1 == k))) k :=
      get?_applyMembers_filter k _ ps
    rw [members, get?_applyMembers_filter k A ps]
    rcases Fields.filter_key_of_sorted hps k with ⟨-, hf⟩ | ⟨v, hv, hf⟩
    · rw [hf, mergePatch.applyMembers.eq_1]
    · rw [hf] at hAk ⊢
      by_cases hn : v = .null
      · subst hn
        rw [get?_applyMembers_null, hAk, get?_applyMembers_null]
      · -- the key's member was merged with `v` once; merging again changes nothing
        rw [get?_applyMembers_single hn, hAk, get?_applyMembers_single hn, Option.getD_some,
          ih (k, v) (Fields.mem_of_get?_eq_some hv) (canonical_get?_getD (canonical_members hT) k)]
  | _ => exact fun _ => mergePatch_mergePatch_leaf rfl

end Idempotent

end Json

/-! ## A call, from its write -/

theorem Registry.canonical_of_strip_eq_ok {R : Registry} {uid : Uuid} {C C' : Json}
    (hC : Json.Canonical C) (h : R.strip uid C = .ok C') : Json.Canonical C' := by
  cases hP : R.credentialPredicate uid with
  | error e =>
    rw [Registry.strip, hP] at h
    cases h
  | ok P =>
    rw [Registry.strip_eq_ok hP] at h
    cases h
    exact Json.canonical_strip hC

theorem Stored.document_canonical {s : String} {v : Json} (h : Stored.document s = .ok v) :
    Json.Canonical v := by
  unfold Stored.document at h
  split at h
  · cases h
    exact Json.read_canonical ‹_›
  · cases h

theorem ConnectorRow.apply_apply (r : ConnectorRow) (u : ConnectorUpdate) (now now' : Instant) :
    (r.apply u now).apply u now' = r.apply u now' := by
  -- each field set from the update twice is set once: `o.getD (o.getD a) = (o.or o).getD a`
  simp only [ConnectorRow.apply, ← Option.getD_or, Option.or_self]

/-- **Writing one update twice** is writing it once, at the later time. -/
theorem Tables.updateConnector_updateConnector (t : Tables) (id owner : String)
    (type : ConnectorType) (u : ConnectorUpdate) (now now' : Instant) :
    (t.updateConnector id owner type u now).updateConnector id owner type u now' =
      t.updateConnector id owner type u now' := by
  simp only [Tables.updateConnector, List.map_map]
  congr 1
  refine List.map_congr_left fun r _ => ?_
  -- an update keeps the row's key, so the second write finds the rows the first one did
  by_cases h : r.isAt id owner type = true
  · have h' : (r.apply u now).isAt id owner type = true := h
    simp only [Function.comp_apply, h, h', ↓reduceIte, ConnectorRow.apply_apply]
  · simp only [Function.comp_apply, h, Bool.false_eq_true, ↓reduceIte]

namespace Plane

/-- **One call of `update` with a patch** fails before writing, leaving the plane as it was, or
reads the row of its key and writes there the row's configuration patched with the patch less
its masked credentials, stamped with the clock. -/
theorem patch_update_run (p : Plane) (owner : Owner) (type : ConnectorType) (name : String)
    (description : Option String) (E : Json) :
    (∃ err, (update owner type name description (some E)).run.run p = (.error err, p)) ∨
      ∃ id r L S, Names.connectorId name = .ok id ∧
        p.tables.rowAt id owner.permalink type = some r ∧
        Stored.document r.configuration = .ok L ∧ p.registry.strip r.definitionUid E = .ok S ∧
        ((update owner type name description (some E)).run.run p).2 =
          { p with clock := p.clock.read.2
                   tables := p.tables.updateConnector id owner.permalink type
                     { description, configuration := some (L.mergePatch S) } p.clock.read.1 } := by
  let q : UpdateRequest := ⟨owner, type, name, description, some E⟩
  have hq : update owner type name description (some E) = _ := q.update_eq_phases
  rcases UpdateRequest.prepare_run (q := q) (p := p) rfl with
    ⟨err, hprep⟩ | ⟨id, r, L, S, hid, hr, hL, hS, hprep⟩
  · exact .inl ⟨err, by rw [hq, run_bind_error hprep]⟩
  · refine .inr ⟨id, r, L, S, hid, hr, hL, hS, ?_⟩
    rw [hq, run_bind_ok hprep, run_bind_ok (UpdateRequest.commit_run _ _),
      UpdateRequest.reload_state]

/-- **A retried update keeps what the first call wrote.** Merging a canonical patch twice into a
canonical document is merging it once. And of two calls of `update` with the same description
and the same canonical configuration patch, either both fail before writing, or the first reads
the row of its key, holding the configuration `L`, and writes there `L` patched with the patch
less its masked credentials; then, provided that configuration reads back from its text as
itself, the second call writes nothing or the same change, so that the two calls leave the store
as the first alone would have at the second call's time. -/
theorem retried_update_keeps_first_write (T P : Json) (hT : Json.Canonical T)
    (hP : Json.Canonical P) (p : Plane) (owner : Owner) (type : ConnectorType) (name : String)
    (description : Option String) (E : Json) (hE : Json.Canonical E) :
    (T.mergePatch P).mergePatch P = T.mergePatch P ∧
      let first := ((update owner type name description (some E)).run.run p).2
      let second := ((update owner type name description (some E)).run.run first).2
      (first = p ∧ second = p) ∨
        ∃ id r L S, p.tables.rowAt id owner.permalink type = some r ∧
          Stored.document r.configuration = .ok L ∧ p.registry.strip r.definitionUid E = .ok S ∧
          first.tables = p.tables.updateConnector id owner.permalink type
            { description, configuration := some (L.mergePatch S) } p.clock.read.1 ∧
          (Json.read (L.mergePatch S).compact = .ok (L.mergePatch S) →
            second.tables = first.tables ∨
              second.tables = p.tables.updateConnector id owner.permalink type
                { description, configuration := some (L.mergePatch S) } first.clock.read.1) := by
  refine ⟨Json.mergePatch_mergePatch_self hP hT, ?_⟩
  dsimp only
  rcases patch_update_run p owner type name description E with
    ⟨err, h1⟩ | ⟨id, r, L, S, hid, hr, hL, hS, h1⟩
  · -- refused before writing: the plane is as it was, and the retry is refused alike
    exact .inl ⟨by rw [h1], by rw [h1, h1]⟩
  refine .inr ⟨id, r, L, S, hr, hL, hS, by rw [h1], fun hround => ?_⟩
  set p₁ := ((update owner type name description (some E)).run.run p).2
  rcases patch_update_run p₁ owner type name description E with
    ⟨err, h2⟩ | ⟨id', r', L', S', hid', hr', hL', hS', h2⟩
  · exact .inl (by rw [h2])
  right
  obtain rfl : id' = id := by
    rw [hid] at hid'
    cases hid'
    rfl
  rw [h1, Tables.rowAt_updateConnector, hr, Option.map_some] at hr'
  cases hr'
  have hL'' : L' = L.mergePatch S := by
    simp only [ConnectorRow.apply, Option.map_some, Option.getD_some] at hL'
    rw [Stored.document_compact hround] at hL'
    cases hL'
    rfl
  subst hL''
  have hS'' : S' = S := by
    rw [h1] at hS'
    rw [show (r.apply _ _).definitionUid = r.definitionUid from rfl, hS] at hS'
    cases hS'
    rfl
  subst hS''
  have hLc := Stored.document_canonical hL
  have hSc := Registry.canonical_of_strip_eq_ok hE hS
  rw [h2, h1, Json.mergePatch_mergePatch_self hSc hLc, Tables.updateConnector_updateConnector]

/-- A stored configuration: a host and a port. -/
def portConfig : Json := .obj [("host", .str "old"), ("port", .str "5432")]

/-- An edit of it that drops the host and moves the port. -/
def portEdit : Json := .obj [("host", .null), ("port", .str "6543")]

/-- A patch that sets a new host. -/
def hostPatch : Json := .obj [("host", .str "new")]

theorem canonical_portConfig : Json.Canonical portConfig :=
  .obj (by unfold Json.Fields.Sorted; decide) (by simp [Json.Canonical.str])

theorem canonical_portEdit : Json.Canonical portEdit :=
  .obj (by unfold Json.Fields.Sorted; decide) (by simp [Json.Canonical.str, Json.Canonical.null])

theorem canonical_hostPatch : Json.Canonical hostPatch :=
  .obj (by unfold Json.Fields.Sorted; decide) (by simp [Json.Canonical.str])

/-- The port edit merged twice into the stored configuration, and a host change sent twice to
`notedConnector`'s plane. -/
theorem host_change_retried :
    Json.Canonical portConfig ∧ Json.Canonical portEdit ∧ Json.Canonical hostPatch ∧
      (portConfig.mergePatch portEdit).mergePatch portEdit = portConfig.mergePatch portEdit ∧
      let first := ((update notedOwner .destination "connectors/db" (some "primary")
        (some hostPatch)).run.run notedPlane).2
      let second := ((update notedOwner .destination "connectors/db" (some "primary")
        (some hostPatch)).run.run first).2
      (first = notedPlane ∧ second = notedPlane) ∨
        ∃ id r L S, notedPlane.tables.rowAt id notedOwner.permalink .destination = some r ∧
          Stored.document r.configuration = .ok L ∧
          notedPlane.registry.strip r.definitionUid hostPatch = .ok S ∧
          first.tables = notedPlane.tables.updateConnector id notedOwner.permalink .destination
            { description := some "primary", configuration := some (L.mergePatch S) }
            notedPlane.clock.read.1 ∧
          (Json.read (L.mergePatch S).compact = .ok (L.mergePatch S) →
            second.tables = first.tables ∨
              second.tables = notedPlane.tables.updateConnector id notedOwner.permalink
                .destination { description := some "primary", configuration := some (L.mergePatch S) }
                first.clock.read.1) :=
  ⟨canonical_portConfig, canonical_portEdit, canonical_hostPatch,
    retried_update_keeps_first_write portConfig portEdit canonical_portConfig canonical_portEdit
      notedPlane notedOwner .destination "connectors/db" (some "primary") hostPatch
      canonical_hostPatch⟩

end Plane

end ConnectorPlane
