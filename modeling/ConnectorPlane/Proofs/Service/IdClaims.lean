import ConnectorPlane.Proofs.Service.Concurrent
import ConnectorPlane.Proofs.Service.Effects

/-! # Claims on one connector id

`create` and `rename` both claim an id for a connector: each first looks the id up, in one call
to the store, and refuses it when it is held; a later call writes, and the store's key on
(id, owner, type) refuses a second holder. Nothing holds the id between the two calls, so the
calls of other requests may fall in between, and a claim that found the id free may still lose
it: the store then refuses the write, and the caller sees an internal failure.

* `Tables.createConnector_rowAt`, `Tables.renameConnector_rowAt`: a write that takes an id found
  it free, holds it after, and leaves the other ids of the owner and type as they were.
* `Plane.create_eq_phases`, `Plane.rename_eq_phases`: the calls of the two operations, one after
  the other, are the operations.
* `IdClaim`, `ClaimStage`, `IdClaim.step`: a claim as a machine that makes one call a step;
  `claimAll`: many claims on one id served at once, in the order a schedule gives.
* `ClaimsKept`: what holds at every point of such a schedule, kept by each call
  (`ClaimsKept.step`) and so by every schedule (`ClaimsKept.schedule`).
* `claims_on_one_id_single_writer`: at most one claim writes, and every refusal is
  `alreadyExists` or the internal failure; `rename_losing_race_fails_internally` is a rename
  that loses the id to a create.
-/

namespace ConnectorPlane

/-! ## The row of a key, read and written -/

theorem Stored.time_error {s : String} {e : StoreError} (h : Stored.time s = .error e) :
    ∃ d, e = .invalidData d := by
  unfold Stored.time at h
  split at h
  · cases h
  · cases h
    exact ⟨_, rfl⟩

theorem Stored.document_error {s : String} {e : StoreError} (h : Stored.document s = .error e) :
    ∃ d, e = .serialization d := by
  unfold Stored.document at h
  split at h
  · cases h
  · cases h
    exact ⟨_, rfl⟩

theorem Except.bind_eq_error {ε α β : Type} {x : Except ε α} {f : α → Except ε β} {e : ε}
    (h : x >>= f = .error e) : x = .error e ∨ ∃ a, x = .ok a ∧ f a = .error e := by
  cases x with
  | error e' =>
    cases h
    exact .inl rfl
  | ok a => exact .inr ⟨a, rfl, h⟩

theorem ConnectorRow.read_error {r : ConnectorRow} {view : View} {e : StoreError}
    (h : r.read view = .error e) : (∃ d, e = .serialization d) ∨ ∃ d, e = .invalidData d := by
  -- after the configuration come the two times, and a failed time is invalid data
  have htimes : ∀ g : Instant → Instant → Except StoreError Connector, (∀ a b, ∃ c, g a b = .ok c) →
      (Stored.time r.createTime >>= fun a => Stored.time r.updateTime >>= fun b => g a b) =
        .error e → ∃ d, e = .invalidData d := by
    intro g hg h
    obtain h | ⟨a, -, h⟩ := Except.bind_eq_error h
    · exact Stored.time_error h
    obtain h | ⟨b, -, h⟩ := Except.bind_eq_error h
    · exact Stored.time_error h
    obtain ⟨c, hc⟩ := hg a b
    rw [hc] at h
    cases h
  unfold ConnectorRow.read at h
  dsimp only at h
  split at h
  · rw [pure_bind] at h
    exact .inr (htimes _ (fun _ _ => ⟨_, rfl⟩) h)
  · obtain h | ⟨conf, -, h⟩ := Except.bind_eq_error h
    · cases hd : Stored.document r.configuration with
      | error d =>
        rw [hd] at h
        cases h
        exact .inl (Stored.document_error hd)
      | ok v =>
        rw [hd] at h
        cases h
    · exact .inr (htimes _ (fun _ _ => ⟨_, rfl⟩) h)

namespace Tables

variable {t t' : Tables} {id owner : String} {type : ConnectorType}

/-- The row under a key is there but does not read back. -/
def Unreadable (t : Tables) (id owner : String) (type : ConnectorType) : Prop :=
  ∃ r e, t.rowAt id owner type = some r ∧ r.read .basic = .error e

/-- **A read by key** fails because no row holds the key, or with a failure the services report
as internal: the row under the key does not read back. -/
theorem getConnectorById_error {e : StoreError}
    (h : t.getConnectorById id owner type .basic = .error e) :
    (∃ w, e = .notFound w) ∧ t.rowAt id owner type = none ∨
      ServiceError.ofStore e = .internal "storage operation failed" ∧ t.Unreadable id owner type := by
  unfold getConnectorById findConnector at h
  split at h
  · refine .inr ⟨?_, _, _, ‹_›, h⟩
    obtain ⟨d, rfl⟩ | ⟨d, rfl⟩ := ConnectorRow.read_error h <;> rfl
  · cases h
    exact .inl ⟨⟨_, rfl⟩, ‹_›⟩

theorem getConnectorById_congr {view : View} (h : t'.rowAt id owner type = t.rowAt id owner type) :
    t'.getConnectorById id owner type view = t.getConnectorById id owner type view := by
  unfold getConnectorById findConnector
  rw [show t'.connectors.find? (ConnectorRow.isAt id owner type) =
    t.connectors.find? (ConnectorRow.isAt id owner type) from h]

theorem rowAt_of_getConnectorById {view : View} {c : Connector}
    (h : t.getConnectorById id owner type view = .ok c) : ∃ r, t.rowAt id owner type = some r := by
  unfold getConnectorById findConnector at h
  split at h
  · exact ⟨_, ‹_›⟩
  · cases h

theorem createConnector_error {c : Connector} {e : StoreError}
    (h : t.createConnector c = .error e) :
    e = connectorClash ∧ (t.rowAt c.id c.owner c.connectorType).isSome ∨
      e = connectorUidClash ∧ c.uid ∈ t.connectors.map (·.uid) := by
  dsimp only [createConnector] at h
  split at h
  · rename_i hkey
    cases h
    obtain ⟨r, hr, hat⟩ := List.any_eq_true.1 hkey
    refine .inl ⟨rfl, ?_⟩
    rw [rowAt, List.find?_isSome]
    exact ⟨r, hr, hat⟩
  · split at h
    · rename_i huid
      cases h
      obtain ⟨r, hr, hu⟩ := List.any_eq_true.1 huid
      exact .inr ⟨rfl, List.mem_map.2 ⟨r, hr, by simpa [Connector.toRow] using hu⟩⟩
    · cases h

/-- **An insert** finds its key free, holds it after, and leaves every other id of the owner and
type as it was. -/
theorem createConnector_rowAt {c : Connector} (h : t.createConnector c = .ok t') :
    t.rowAt c.id c.owner c.connectorType = none ∧ (t'.rowAt c.id c.owner c.connectorType).isSome ∧
      ∀ b, b ≠ c.id → t'.rowAt b c.owner c.connectorType = t.rowAt b c.owner c.connectorType := by
  have hfresh := createConnector_naturalKey_fresh h
  obtain ⟨-, hc, -⟩ := createConnector_eq_ok h
  refine ⟨?_, ?_, fun b hb => ?_⟩
  · rw [rowAt, List.find?_eq_none]
    intro r hr hat
    exact hfresh (List.mem_map.2 ⟨r, hr, ConnectorRow.isAt_eq_true_iff.1 hat⟩)
  · rw [rowAt, hc, List.find?_isSome]
    exact ⟨c.toRow, List.mem_append_right _ List.mem_cons_self,
      ConnectorRow.isAt_eq_true_iff.2 rfl⟩
  · rw [rowAt, rowAt, hc, List.find?_append]
    have : [c.toRow].find? (ConnectorRow.isAt b c.owner c.connectorType) = none := by
      simp [ConnectorRow.isAt, Connector.toRow, Ne.symm hb]
    rw [this, Option.or_none]

/-- A map that leaves alone every member `q` picks, and changes no member's pick, finds what the
list finds. -/
theorem find?_map_eq_self {α : Type} {l : List α} {g : α → α} {q : α → Bool}
    (h : ∀ a ∈ l, q (g a) = q a ∧ (q a = true → g a = a)) : (l.map g).find? q = l.find? q := by
  induction l with
  | nil => rfl
  | cons a l ih =>
    obtain ⟨hq, hfix⟩ := h a List.mem_cons_self
    have ih := ih fun b hb => h b (List.mem_cons_of_mem _ hb)
    rw [List.map_cons, List.find?_cons, List.find?_cons, hq]
    cases hqa : q a with
    | false => exact ih
    | true => rw [hfix hqa]

theorem renameConnector_error {newId : String} {now : Instant} {e : StoreError}
    (h : t.renameConnector id owner type newId now = .error e) :
    e = connectorClash ∧ (t.rowAt newId owner type).isSome := by
  unfold renameConnector at h
  split at h
  · cases h
  · split at h
    · rename_i hkey
      cases h
      obtain ⟨r, hr, hat⟩ := List.any_eq_true.1 hkey
      refine ⟨rfl, ?_⟩
      rw [rowAt, List.find?_isSome]
      exact ⟨r, hr, (Bool.and_eq_true_iff.1 hat).2⟩
    · cases h

/-- **A rename** of the row at `a` to a new id `x`, among rows of distinct uids, finds `x` free,
holds it after, and leaves every other id of the owner and type as it was. -/
theorem renameConnector_rowAt {a x : String} {now : Instant} {r₀ : ConnectorRow}
    (hr₀ : t.rowAt a owner type = some r₀) (huids : (t.connectors.map (·.uid)).Nodup)
    (hax : a ≠ x) (h : t.renameConnector a owner type x now = .ok t') :
    t.rowAt x owner type = none ∧ (t'.rowAt x owner type).isSome ∧
      ∀ b, b ≠ a → b ≠ x → t'.rowAt b owner type = t.rowAt b owner type := by
  have hmem := List.mem_of_find?_eq_some hr₀
  have hat := ConnectorRow.isAt_eq_true_iff.1 (List.find?_some hr₀)
  have hsame : ∀ r ∈ t.connectors, r.uid = r₀.uid → r = r₀ := fun r hr he =>
    List.inj_on_of_nodup_map huids hr hmem he
  unfold renameConnector at h
  rw [show t.connectors.find? (ConnectorRow.isAt a owner type) = some r₀ from hr₀] at h
  dsimp only at h
  split at h
  · cases h
  rename_i hfree
  cases h
  have hown : r₀.owner = owner ∧ r₀.connectorType = type := by
    simp only [ConnectorRow.naturalKey, Prod.mk.injEq] at hat
    exact hat.2
  refine ⟨?_, ?_, fun b hba hbx => ?_⟩
  · -- a row at `x` of another uid refuses the rename, and the renamed row is at `a`
    rw [rowAt, List.find?_eq_none]
    intro r hr hx
    by_cases hu : r.uid = r₀.uid
    · rw [hsame r hr hu, ConnectorRow.isAt_eq_true_iff, hat, Prod.mk.injEq] at hx
      exact hax hx.1
    · exact hfree (List.any_eq_true.2 ⟨r, hr, by simp [hu, hx]⟩)
  · rw [rowAt, List.find?_isSome]
    exact ⟨_, List.mem_map_of_mem hmem, by simp [ConnectorRow.isAt, hown]⟩
  · -- only the renamed row changes, and it is at neither `a` nor `x`, so not at `b`
    refine find?_map_eq_self fun r hr => ?_
    by_cases hu : r.uid = r₀.uid
    · obtain rfl := hsame r hr hu
      have hrb : r.id ≠ b := by
        simp only [ConnectorRow.naturalKey, Prod.mk.injEq] at hat
        rw [hat.1]
        exact Ne.symm hba
      simp [ConnectorRow.isAt, hown, Ne.symm hbx, hrb]
    · simp [hu]

theorem createConnector_uids {c : Connector} (h : t.createConnector c = .ok t')
    (hu : (t.connectors.map (·.uid)).Nodup) : (t'.connectors.map (·.uid)).Nodup := by
  obtain ⟨-, hc, hfresh⟩ := createConnector_eq_ok h
  rw [hc, List.map_append, List.map_singleton, List.nodup_append]
  exact ⟨hu, List.nodup_singleton _, fun a ha b hb => by
    rw [List.mem_singleton.1 hb]
    rintro rfl
    exact hfresh ha⟩

theorem renameConnector_uids {newId : String} {now : Instant}
    (h : t.renameConnector id owner type newId now = .ok t') :
    t'.connectors.map (·.uid) = t.connectors.map (·.uid) := by
  have hkeys := congrArg (List.map Prod.snd) (renameConnector_eq_ok h).2
  simpa only [List.map_map, Function.comp_def] using hkeys

end Tables

namespace Plane

/-! ## The calls of `create` and `rename` -/

section Phases

variable (owner : Owner) (type : ConnectorType)

/-- The first call of `create`: its checks, the new connector's uid and times, and the look-up
of its id, which must be free. -/
def createClaim (id definitionName description : String) (configuration : Json) :
    PlaneM Connector := do
  ofExcept (ConnectorId.check id)
  unless configuration.isObject do
    fail (.invalidArgument "configuration must be an object")
  let definitionId ← ofExcept (Names.definitionId definitionName)
  let some definition := (← get).registry.byId? definitionId type
    | fail (.notFound (type.name ++ " connector definition '" ++ definitionId ++ "'"))
  let uid ← newConnectorUid
  let t ← now
  let connector : Connector :=
    { uid, id, owner := owner.permalink, definitionUid := definition.uid
      connectorType := definition.connectorType, description
      configuration := some configuration, state := .disconnected, tombstone := false
      createTime := t, updateTime := t }
  if (← find id owner.permalink type).isSome then
    fail (.alreadyExists ("connectors/" ++ id))
  pure connector

/-- The first call of `rename`: the names, and the read of the connector it renames. -/
def renameLoad (name newId : String) : PlaneM String := do
  let id ← ofExcept (Names.connectorId name)
  ofExcept (ConnectorId.check newId)
  let _ ← load id owner type .basic
  pure id

/-- The second call of `rename`: the look-up of the new id, which must be free unless it is the
old one. -/
def renameCheck (id newId : String) : PlaneM Unit := do
  if id ≠ newId then
    if (← find newId owner.permalink type).isSome then
      fail (.alreadyExists ("connectors/" ++ newId))

/-- The third call of `rename`: the write. -/
def renameMove (id newId : String) : PlaneM Unit := do
  let t ← now
  write (·.renameConnector id owner.permalink type newId t)

/-- The last call of `rename`: the connector read back under its new id, masked. -/
def renameAnswer (newId : String) : PlaneM Connector := do
  masked (← load newId owner type .full)

/-- The calls of `create` one after the other are `create`: the first call, the insert, and
the masking of the connector inserted. -/
theorem create_eq_phases (id definitionName description : String) (configuration : Json) :
    create owner type id definitionName description configuration =
      (createClaim owner type id definitionName description configuration >>= fun c =>
        insertConnector c >>= fun _ => masked c) := by
  simp only [create, createClaim, bind_assoc]
  congr 1; funext u
  split
  · simp only [bind_assoc]
    congr 1; funext definitionId
    congr 1; funext p
    cases p.registry.byId? definitionId type with
    | none => rfl
    | some d =>
      simp only [bind_assoc]
      congr 1; funext uid
      congr 1; funext t
      congr 1; funext found
      split <;> simp only [bind_assoc, pure_bind]
  · -- a configuration that is no object fails there, whatever follows
    rfl

theorem rename_eq_phases (name newId : String) :
    rename owner type name newId =
      (renameLoad owner type name newId >>= fun id => renameCheck owner type id newId >>=
        fun _ => renameMove owner type id newId >>= fun _ => renameAnswer owner type newId) := by
  simp only [rename, renameLoad, renameCheck, renameMove, renameAnswer, bind_assoc, pure_bind]
  congr 1; funext id
  congr 1; funext u
  congr 1; funext c
  split
  · simp only [bind_assoc]
    congr 1; funext found
    split <;> simp only [pure_bind]
  · simp only [pure_bind]

end Phases

/-! ## The uids the plane stamps -/

/-- The uids the plane is yet to stamp on new connectors: under reproducible stamping those of
the connectors after the first `inserted`, else the draws after the first `draws`. -/
def Upcoming (p : Plane) (u : Uuid) : Prop :=
  match p.stamping with
  | .pinned => ∃ n, p.inserted < n ∧ u = Stamping.pinnedUid n
  | .fresh seed => ∃ k, p.draws ≤ k ∧ u = Uuid.fresh seed k

/-- `q` stamps on from where `p` stands: with the same stamping, after no fewer inserts and
draws. -/
structure StampsFrom (p q : Plane) : Prop where
  stamping : q.stamping = p.stamping
  inserted : p.inserted ≤ q.inserted
  draws : p.draws ≤ q.draws

theorem StampsFrom.refl (p : Plane) : StampsFrom p p := ⟨rfl, Nat.le_refl _, Nat.le_refl _⟩

theorem StampsFrom.trans {p q r : Plane} (h : StampsFrom p q) (h' : StampsFrom q r) :
    StampsFrom p r :=
  ⟨h'.stamping.trans h.stamping, Nat.le_trans h.inserted h'.inserted,
    Nat.le_trans h.draws h'.draws⟩

theorem Upcoming.of_stampsFrom {p q : Plane} {u : Uuid} (h : StampsFrom p q) (hu : q.Upcoming u) :
    p.Upcoming u := by
  unfold Upcoming at hu ⊢
  rw [h.stamping] at hu
  cases hs : p.stamping with
  | pinned =>
    rw [hs] at hu
    obtain ⟨n, hn, rfl⟩ := hu
    exact ⟨n, Nat.lt_of_le_of_lt h.inserted hn, rfl⟩
  | fresh seed =>
    rw [hs] at hu
    obtain ⟨k, hk, rfl⟩ := hu
    exact ⟨k, Nat.le_trans h.draws hk, rfl⟩

section Stamps

variable {p : Plane}

/-- **The uid drawn for a new connector** is one the plane was to stamp. -/
theorem newConnectorUid_upcoming {u : Uuid} {q : Plane}
    (h : newConnectorUid.run.run p = (.ok u, q)) : p.Upcoming u ∧ StampsFrom p q := by
  unfold newConnectorUid at h
  rw [run_bind_ok run_get] at h
  unfold Upcoming
  cases hs : p.stamping with
  | pinned =>
    simp only [hs] at h
    cases h
    exact ⟨⟨_, Nat.lt_succ_self _, rfl⟩, StampsFrom.refl _⟩
  | fresh seed =>
    simp only [hs] at h
    cases h
    exact ⟨⟨_, Nat.le_refl _, by simp [hs]⟩, ⟨rfl, Nat.le_refl _, Nat.le_succ _⟩⟩

/-- **An insert** stores the connector under its key, with its uid or one the plane was to
stamp. -/
theorem insertConnector_stamps (c : Connector) :
    ∃ c', (c'.naturalKey = c.naturalKey ∧ (c'.uid = c.uid ∨ p.Upcoming c'.uid)) ∧
      (insertConnector c).run.run p =
        (write (·.createConnector c')).run.run { p with inserted := p.inserted + 1 } := by
  unfold insertConnector
  rw [run_bind_ok run_get]
  dsimp only
  rw [run_bind_ok run_set]
  cases hs : p.stamping with
  | pinned =>
    refine ⟨_, ⟨?_, .inr ?_⟩, rfl⟩
    · rfl
    · rw [Upcoming, hs]
      exact ⟨_, Nat.lt_succ_self _, rfl⟩
  | fresh seed => exact ⟨c, ⟨rfl, .inl rfl⟩, rfl⟩

end Stamps

/-! ## What each call does -/

/-- How a look-up of the id `x` refuses a claim: the id is held, or the row under it does not
read back, which the store reports as an internal failure. -/
def LookupRefusal (t : Tables) (x ownerPermalink : String) (type : ConnectorType)
    (e : ServiceError) : Prop :=
  e = .alreadyExists ("connectors/" ++ x) ∧ (t.rowAt x ownerPermalink type).isSome ∨
    e = .internal "storage operation failed" ∧ t.Unreadable x ownerPermalink type

section Runs

variable {p : Plane} {owner : Owner} {type : ConnectorType} {x : String}

/-- **A look-up of an id** changes nothing; it finds a connector when a row holds the id, none
when no row does, or fails as internal when the row does not read back. -/
theorem find_run (id ownerPermalink : String) (type : ConnectorType) :
    ∃ r, (find id ownerPermalink type).run.run p = (r, p) ∧
      ((∃ c, r = .ok (some c) ∧ (p.tables.rowAt id ownerPermalink type).isSome) ∨
        r = .ok none ∧ p.tables.rowAt id ownerPermalink type = none ∨
        r = .error (.internal "storage operation failed") ∧
          p.tables.Unreadable id ownerPermalink type) := by
  cases h : p.tables.getConnectorById id ownerPermalink type .basic with
  | ok c =>
    obtain ⟨r, hr⟩ := Tables.rowAt_of_getConnectorById h
    exact ⟨_, run_find_ok h, .inl ⟨c, rfl, by rw [hr]; rfl⟩⟩
  | error e =>
    rcases Tables.getConnectorById_error h with ⟨⟨w, rfl⟩, hnone⟩ | ⟨hint, hun⟩
    · exact ⟨_, run_find_notFound h, .inr (.inl ⟨rfl, hnone⟩)⟩
    · refine ⟨_, run_find_error ?_ h, .inr (.inr ⟨by rw [hint], hun⟩)⟩
      rintro w rfl
      cases hint

/-- **The first call of a create** changes neither the tables nor the registry. It is refused by
its look-up of the id, or it passes, having found the id free, a connector under the id, the
owner and the type of its definition, with a uid the plane was to stamp. -/
theorem createClaim_run (owner : Owner) (desc : String) {dn did : String} {conf : Json}
    {d : Definition} (hx : ConnectorId.check x = .ok ()) (hobj : conf.isObject = true)
    (hdn : Names.definitionId dn = .ok did) (hd : p.registry.byId? did type = some d) :
    ∃ r p', (createClaim owner type x dn desc conf).run.run p = (r, p') ∧
      p'.tables = p.tables ∧ p'.registry = p.registry ∧ StampsFrom p p' ∧
      ((∃ c, r = .ok c ∧ c.naturalKey = (x, owner.permalink, d.connectorType) ∧
          p.Upcoming c.uid ∧ p.tables.rowAt x owner.permalink type = none) ∨
        ∃ e, r = .error e ∧ LookupRefusal p.tables x owner.permalink type e) := by
  obtain ⟨uid, q, hq, hqt, hqr⟩ := run_newConnectorUid (p := p)
  obtain ⟨hu, hst⟩ := newConnectorUid_upcoming hq
  have hst' : StampsFrom p { q with clock := q.clock.read.2 } :=
    ⟨hst.stamping, hst.inserted, hst.draws⟩
  rw [createClaim, run_bind_ok (run_ofExcept_ok hx)]
  simp only [hobj, ↓reduceIte]
  rw [run_bind_ok (run_ofExcept_ok hdn), run_bind_ok run_get]
  simp only [hd]
  rw [run_bind_ok hq, run_bind_ok run_now]
  obtain ⟨r, hf, ⟨o, rfl, hheld⟩ | ⟨rfl, hnone⟩ | ⟨rfl, hun⟩⟩ :=
    find_run (p := { q with clock := q.clock.read.2 }) x owner.permalink type
  · rw [run_bind_ok hf]
    simp only [Option.isSome_some, ↓reduceIte]
    rw [run_bind_error run_fail]
    exact ⟨_, _, rfl, hqt, hqr, hst', .inr ⟨_, rfl, .inl ⟨rfl, hqt ▸ hheld⟩⟩⟩
  · rw [run_bind_ok hf]
    simp only [Option.isSome_none, Bool.false_eq_true, ↓reduceIte]
    exact ⟨_, _, rfl, hqt, hqr, hst', .inl ⟨_, rfl, rfl, hu, hqt ▸ hnone⟩⟩
  · rw [run_bind_error hf]
    exact ⟨_, _, rfl, hqt, hqr, hst', .inr ⟨_, rfl, .inr ⟨rfl, hqt ▸ hun⟩⟩⟩

/-- **The first call of a rename** of a connector that reads back passes its id on. -/
theorem renameLoad_run {name a : String} {c : Connector} (hn : Names.connectorId name = .ok a)
    (hx : ConnectorId.check x = .ok ())
    (hload : p.tables.getConnectorById a owner.permalink type .basic = .ok c) :
    (renameLoad owner type name x).run.run p = (.ok a, p) := by
  rw [renameLoad, run_bind_ok (run_ofExcept_ok hn), run_bind_ok (run_ofExcept_ok hx),
    run_bind_ok (run_load hload)]
  rfl

/-- **The second call of a rename** to another id changes nothing; it passes, having found the
id free, or it is refused by its look-up. -/
theorem renameCheck_run (owner : Owner) (type : ConnectorType) {a : String} (hax : a ≠ x) :
    ∃ r, (renameCheck owner type a x).run.run p = (r, p) ∧
      (r = .ok () ∧ p.tables.rowAt x owner.permalink type = none ∨
        ∃ e, r = .error e ∧ LookupRefusal p.tables x owner.permalink type e) := by
  rw [renameCheck, if_pos hax]
  obtain ⟨r, hf, ⟨o, rfl, hheld⟩ | ⟨rfl, hnone⟩ | ⟨rfl, hun⟩⟩ :=
    find_run (p := p) x owner.permalink type
  · rw [run_bind_ok hf]
    simp only [Option.isSome_some, ↓reduceIte]
    exact ⟨_, run_fail, .inr ⟨_, rfl, .inl ⟨rfl, hheld⟩⟩⟩
  · rw [run_bind_ok hf]
    simp only [Option.isSome_none, Bool.false_eq_true, ↓reduceIte]
    exact ⟨_, rfl, .inl ⟨rfl, hnone⟩⟩
  · rw [run_bind_error hf]
    exact ⟨_, rfl, .inr ⟨_, rfl, .inr ⟨rfl, hun⟩⟩⟩

/-- **The third call of a rename** is the store's rename, stamped by the clock. -/
theorem renameMove_run (owner : Owner) (type : ConnectorType) (x a : String) :
    ∃ p', p'.registry = p.registry ∧ StampsFrom p p' ∧
      ((∃ t', p.tables.renameConnector a owner.permalink type x p.clock.read.1 = .ok t' ∧
          (renameMove owner type a x).run.run p = (.ok (), p') ∧ p'.tables = t') ∨
        ∃ e, p.tables.renameConnector a owner.permalink type x p.clock.read.1 = .error e ∧
          (renameMove owner type a x).run.run p = (.error (.ofStore e), p') ∧
          p'.tables = p.tables) := by
  rw [renameMove, run_bind_ok run_now]
  cases hren : p.tables.renameConnector a owner.permalink type x p.clock.read.1 with
  | error e =>
    exact ⟨{ p with clock := p.clock.read.2 }, rfl, ⟨rfl, Nat.le_refl _, Nat.le_refl _⟩,
      .inr ⟨e, rfl, run_write_error hren, rfl⟩⟩
  | ok t' =>
    exact ⟨{ p with clock := p.clock.read.2, tables := t' }, rfl,
      ⟨rfl, Nat.le_refl _, Nat.le_refl _⟩,
      .inl ⟨t', rfl, run_write_ok hren, rfl⟩⟩

/-- **The insert of a create** is the store's insert of the connector as the plane stamps it:
under the same key, with its uid or one the plane was to stamp. -/
theorem insertConnector_run (c : Connector) :
    ∃ c' q, c'.naturalKey = c.naturalKey ∧ (c'.uid = c.uid ∨ p.Upcoming c'.uid) ∧
      q.tables = p.tables ∧ q.registry = p.registry ∧ StampsFrom p q ∧
      ((∃ t', p.tables.createConnector c' = .ok t' ∧
          (insertConnector c).run.run p = (.ok (), { q with tables := t' })) ∨
        ∃ e, p.tables.createConnector c' = .error e ∧
          (insertConnector c).run.run p = (.error (.ofStore e), q)) := by
  obtain ⟨c', ⟨hkey, huid⟩, hrun⟩ := insertConnector_stamps (p := p) c
  refine ⟨c', { p with inserted := p.inserted + 1 }, hkey, huid, rfl, rfl,
    ⟨rfl, Nat.le_succ _, Nat.le_refl _⟩, ?_⟩
  rw [hrun]
  cases hc : p.tables.createConnector c' with
  | error e => exact .inr ⟨e, rfl, run_write_error hc⟩
  | ok t' => exact .inl ⟨t', rfl, run_write_ok hc⟩

end Runs

/-! ## Claims served at once -/

/-- A request that claims an id for a connector: a create of a new connector under it, or a
rename of the connector a name gives to it. -/
inductive IdClaim where
  | create (definitionName description : String) (configuration : Json)
  | rename (name : String)

/-- How far a claim has come between its calls to the store. -/
inductive ClaimStage where
  | ready
  /-- A rename has read the connector of `id`, the one it renames. -/
  | loaded (id : String)
  /-- A rename has found the new id free. -/
  | cleared (id : String)
  /-- A create has found the id free; `c` is the connector it inserts. -/
  | claimed (c : Connector)
  /-- A rename has written. -/
  | moved
  /-- Refused, before or at the write. -/
  | refused (e : ServiceError)
  /-- Written and answered. -/
  | answered (r : Except ServiceError Connector)

namespace ClaimStage

/-- The claim has written: the store took its connector under the id. -/
def wrote : ClaimStage → Bool
  | moved | answered _ => true
  | _ => false

/-- The claim has found the id free and not yet written. -/
def foundFree : ClaimStage → Bool
  | claimed _ | cleared _ => true
  | _ => false

theorem wrote_eq_false_of_foundFree {s : ClaimStage} (h : s.foundFree = true) :
    s.wrote = false := by
  cases s <;> first | rfl | cases h

/-- The failure a refused claim answers. -/
def refusal? : ClaimStage → Option ServiceError
  | refused e => some e
  | _ => none

/-- The claim has ended: refused, or answered after its write. -/
def ended : ClaimStage → Bool
  | refused _ | answered _ => true
  | _ => false

/-- How many calls a claim has made, counting an ended claim as having made all four a rename
makes. -/
def rank : ClaimStage → Nat
  | ready => 0
  | loaded _ | claimed _ => 1
  | cleared _ => 2
  | moved => 3
  | refused _ | answered _ => 4

theorem refusal?_eq_some {s : ClaimStage} {e : ServiceError} :
    s.refusal? = some e ↔ s = refused e := by
  cases s <;> simp [refusal?]

theorem ended_of_four_le_rank {s : ClaimStage} (h : 4 ≤ s.rank) : s.ended = true := by
  cases s <;> simp_all [rank, ended]

end ClaimStage

namespace IdClaim

variable (owner : Owner) (type : ConnectorType) (newId : String)

/-- One call of a claim on `newId` from the stage it has reached; a claim that has ended stays as
it is. -/
def step : IdClaim → ClaimStage → Plane → ClaimStage × Plane
  | .create dn desc conf, .ready, p =>
    match (createClaim owner type newId dn desc conf).run.run p with
    | (.ok c, p') => (.claimed c, p')
    | (.error e, p') => (.refused e, p')
  | .create _ _ _, .claimed c, p =>
    match (insertConnector c).run.run p with
    | (.ok (), p') => (.answered ((masked c).run.run p').1, ((masked c).run.run p').2)
    | (.error e, p') => (.refused e, p')
  | .rename name, .ready, p =>
    match (renameLoad owner type name newId).run.run p with
    | (.ok id, p') => (.loaded id, p')
    | (.error e, p') => (.refused e, p')
  | .rename _, .loaded id, p =>
    match (renameCheck owner type id newId).run.run p with
    | (.ok (), p') => (.cleared id, p')
    | (.error e, p') => (.refused e, p')
  | .rename _, .cleared id, p =>
    match (renameMove owner type id newId).run.run p with
    | (.ok (), p') => (.moved, p')
    | (.error e, p') => (.refused e, p')
  | .rename _, .moved, p =>
    (.answered ((renameAnswer owner type newId).run.run p).1,
      ((renameAnswer owner type newId).run.run p).2)
  | _, s, p => (s, p)

end IdClaim

/-- Claims on `newId` served at once: at each turn of the schedule the claim it names makes its
next call. -/
def claimAll {ι : Type} [DecidableEq ι] (owner : Owner) (type : ConnectorType) (newId : String)
    (req : ι → IdClaim) : List ι → (ι → ClaimStage) → Plane → (ι → ClaimStage) × Plane
  | [], s, p => (s, p)
  | i :: sched, s, p =>
    claimAll owner type newId req sched
      (Function.update s i ((req i).step owner type newId (s i) p).1)
      ((req i).step owner type newId (s i) p).2

/-! ## What holds while claims are served -/

/-- What a claim's stage says of it: a rename that has read, found the id free or written is a
rename, of the connector it read; and a create that has found the id free inserts under the
claimed key. -/
def ClaimStage.Fits (owner : Owner) (type : ConnectorType) (newId : String) (q : IdClaim) :
    ClaimStage → Prop
  | .loaded a | .cleared a => ∃ name, q = .rename name ∧ Names.connectorId name = .ok a
  | .claimed c => (∃ dn desc conf, q = .create dn desc conf) ∧
      c.naturalKey = (newId, owner.permalink, type)
  | .moved => ∃ name, q = .rename name
  | _ => True

section Kept

variable {ι : Type} [DecidableEq ι] {owner : Owner} {type : ConnectorType} {x : String}
  {req : ι → IdClaim} {P₀ : Plane}

theorem IdClaim.rank_step {q : IdClaim} {s : ClaimStage} (p : Plane)
    (hfit : s.Fits owner type x q) : min 4 (s.rank + 1) ≤ (q.step owner type x s p).1.rank := by
  cases s with
  | ready => cases q <;> simp only [IdClaim.step] <;> split <;> simp [ClaimStage.rank]
  | loaded a =>
    obtain ⟨name, rfl, -⟩ := hfit
    simp only [IdClaim.step]
    split <;> simp [ClaimStage.rank]
  | cleared a =>
    obtain ⟨name, rfl, -⟩ := hfit
    simp only [IdClaim.step]
    split <;> simp [ClaimStage.rank]
  | claimed c =>
    obtain ⟨⟨dn, desc, conf, rfl⟩, -⟩ := hfit
    simp only [IdClaim.step]
    split <;> simp [ClaimStage.rank]
  | moved =>
    obtain ⟨name, rfl⟩ := hfit
    simp [IdClaim.step, ClaimStage.rank]
  | refused e => cases q <;> simp [IdClaim.step, ClaimStage.rank]
  | answered r => cases q <;> simp [IdClaim.step, ClaimStage.rank]

variable (owner type x P₀) in
/-- Why claim `i` can have been refused with `e`, among claims at stages `s` served from the plane
`P₀`, the tables now `t`: the id is held and `e` is `alreadyExists`; or `e` is the store's
internal failure, and another claim has written, or the row under the id from the start does not
read back, or the store held from the start a uid the plane was to stamp. -/
def ClaimRefusal (s : ι → ClaimStage) (t : Tables) (i : ι) (e : ServiceError) : Prop :=
  e = .alreadyExists ("connectors/" ++ x) ∧ (t.rowAt x owner.permalink type).isSome ∨
    e = .internal "storage operation failed" ∧
      ((∃ j, j ≠ i ∧ (s j).wrote = true) ∨ P₀.tables.Unreadable x owner.permalink type ∨
        ∃ u ∈ P₀.tables.connectors.map (·.uid), P₀.Upcoming u)

omit [DecidableEq ι] in
theorem ClaimRefusal.mono {s s' : ι → ClaimStage} {t t' : Tables} {i : ι} {e : ServiceError}
    (h : ClaimRefusal owner type x P₀ s t i e)
    (hw : ∀ j, (s j).wrote = true → (s' j).wrote = true)
    (hheld : (t.rowAt x owner.permalink type).isSome → (t'.rowAt x owner.permalink type).isSome) :
    ClaimRefusal owner type x P₀ s' t' i e := by
  rcases h with ⟨he, hx⟩ | ⟨he, ⟨j, hji, hj⟩ | hcause⟩
  · exact .inl ⟨he, hheld hx⟩
  · exact .inr ⟨he, .inl ⟨j, hji, hw j hj⟩⟩
  · exact .inr ⟨he, .inr hcause⟩

variable (owner type x req P₀) in
/-- What holds at every point while claims `req` on `x` are served from the plane `P₀`: the
registry stays and the plane stamps on from `P₀`; the connectors keep distinct uids; until a
claim writes, the tables are `P₀`'s, and a rename finds the row it renames as it was; once a
claim has written the id is held; at most one claim has written; a claim that found the id free
found it so in `P₀` or after a write; a create's connector has a uid the plane was to stamp;
every refusal has its cause; and every stage fits its claim. -/
structure ClaimsKept (s : ι → ClaimStage) (p : Plane) : Prop where
  registry : p.registry = P₀.registry
  stamps : StampsFrom P₀ p
  uids : (p.tables.connectors.map (·.uid)).Nodup
  unwritten : p.tables = P₀.tables ∨ ∃ j, (s j).wrote = true
  sources : ∀ i name a, req i = .rename name → Names.connectorId name = .ok a →
    (s i).wrote = false →
      p.tables.rowAt a owner.permalink type = P₀.tables.rowAt a owner.permalink type
  held : ∀ i, (s i).wrote = true → (p.tables.rowAt x owner.permalink type).isSome
  single : ∀ i j, (s i).wrote = true → (s j).wrote = true → i = j
  free : ∀ i, (s i).foundFree = true →
    P₀.tables.rowAt x owner.permalink type = none ∨ ∃ j, (s j).wrote = true
  claimed : ∀ i c, s i = .claimed c → P₀.Upcoming c.uid
  refusals : ∀ i e, s i = .refused e → ClaimRefusal owner type x P₀ s p.tables i e
  fits : ∀ i, (s i).Fits owner type x (req i)

variable {s : ι → ClaimStage} {p p' : Plane} {i : ι} {s' : ClaimStage}

theorem forall_update {P : ι → ClaimStage → Prop} (hi : P i s') (hj : ∀ j, j ≠ i → P j (s j)) :
    ∀ j, P j (Function.update s i s' j) := by
  intro j
  by_cases hji : j = i
  · subst hji
    rw [Function.update_self]
    exact hi
  · rw [Function.update_of_ne hji]
    exact hj j hji

omit [DecidableEq ι] in
theorem ClaimsKept.fits_at (h : ClaimsKept owner type x req P₀ s p) {s₀ : ClaimStage}
    (hs : s i = s₀) : s₀.Fits owner type x (req i) :=
  hs ▸ h.fits i

omit [DecidableEq ι] in
theorem ClaimsKept.other_wrote (hi : (s i).wrote = false) (h : ∃ j, (s j).wrote = true) :
    ∃ j, j ≠ i ∧ (s j).wrote = true := by
  obtain ⟨j, hj⟩ := h
  refine ⟨j, ?_, hj⟩
  rintro rfl
  rw [hi] at hj
  cases hj

omit [DecidableEq ι] in
theorem ClaimsKept.clash (h : ClaimsKept owner type x req P₀ s p) (hi : (s i).foundFree = true)
    (hheld : (p.tables.rowAt x owner.permalink type).isSome) :
    ∃ j, j ≠ i ∧ (s j).wrote = true := by
  have hiw := ClaimStage.wrote_eq_false_of_foundFree hi
  rcases h.free i hi with hnone | hw
  · rcases h.unwritten with ht | hw
    · rw [ht, hnone] at hheld
      cases hheld
    · exact ClaimsKept.other_wrote hiw hw
  · exact ClaimsKept.other_wrote hiw hw

omit [DecidableEq ι] in
/-- A look-up's refusal has its cause: an unreadable row under the id is `P₀`'s or came with a
write. -/
theorem ClaimsKept.lookupRefusal (h : ClaimsKept owner type x req P₀ s p)
    (hi : (s i).wrote = false) {e : ServiceError}
    (he : LookupRefusal p.tables x owner.permalink type e) :
    ClaimRefusal owner type x P₀ s p.tables i e := by
  rcases he with hA | ⟨he, hun⟩
  · exact .inl hA
  · refine .inr ⟨he, ?_⟩
    rcases h.unwritten with ht | hw
    · exact .inr (.inl (ht ▸ hun))
    · exact .inl (ClaimsKept.other_wrote hi hw)

omit [DecidableEq ι] in
theorem ClaimsKept.free_of_rowAt (h : ClaimsKept owner type x req P₀ s p)
    (hnone : p.tables.rowAt x owner.permalink type = none) :
    P₀.tables.rowAt x owner.permalink type = none ∨ ∃ j, (s j).wrote = true := by
  rcases h.unwritten with ht | hw
  · exact .inl (ht ▸ hnone)
  · exact .inr hw

theorem ClaimsKept.rest (h : ClaimsKept owner type x req P₀ s p) (ht : p'.tables = p.tables)
    (hr : p'.registry = p.registry) (hst : StampsFrom p p') (hw : s'.wrote = (s i).wrote)
    (hf : s'.Fits owner type x (req i))
    (hfree : s'.foundFree = true →
      P₀.tables.rowAt x owner.permalink type = none ∨ ∃ j, (s j).wrote = true)
    (hclaimed : ∀ c, s' = .claimed c → P₀.Upcoming c.uid)
    (hrefused : ∀ e, s' = .refused e → ClaimRefusal owner type x P₀ s p.tables i e) :
    ClaimsKept owner type x req P₀ (Function.update s i s') p' := by
  have hwrote : ∀ j, (Function.update s i s' j).wrote = (s j).wrote :=
    forall_update (P := fun j st => st.wrote = (s j).wrote) hw fun _ _ => rfl
  have hsome : (∃ j, (s j).wrote = true) → ∃ j, (Function.update s i s' j).wrote = true :=
    fun ⟨j, hj⟩ => ⟨j, (hwrote j).trans hj⟩
  have hmono : ∀ r e, ClaimRefusal owner type x P₀ s p.tables r e →
      ClaimRefusal owner type x P₀ (Function.update s i s') p'.tables r e :=
    fun r e hre => hre.mono (fun j hj => (hwrote j).trans hj) (fun hx => ht ▸ hx)
  refine ⟨hr.trans h.registry, h.stamps.trans hst, ht ▸ h.uids,
    h.unwritten.imp (fun h₀ => ht.trans h₀) hsome, fun j name a hj hn hw' => ?_,
    fun j hj => ?_, fun j k hj hk => h.single j k (hwrote j ▸ hj) (hwrote k ▸ hk),
    forall_update (P := fun _ st => st.foundFree = true →
        P₀.tables.rowAt x owner.permalink type = none ∨
          ∃ j, (Function.update s i s' j).wrote = true)
      (fun hs => (hfree hs).imp_right hsome) (fun j _ hs => (h.free j hs).imp_right hsome),
    forall_update (P := fun _ st => ∀ c, st = .claimed c → P₀.Upcoming c.uid) hclaimed
      (fun j _ => h.claimed j),
    forall_update (P := fun j st => ∀ e, st = .refused e →
        ClaimRefusal owner type x P₀ (Function.update s i s') p'.tables j e)
      (fun e he => hmono i e (hrefused e he)) (fun j _ e he => hmono j e (h.refusals j e he)),
    forall_update hf fun j _ => h.fits j⟩
  · rw [ht]
    exact h.sources j name a hj hn (hwrote j ▸ hw')
  · rw [ht]
    exact h.held j (hwrote j ▸ hj)

section Valid

variable (hx : ConnectorId.check x = .ok ()) (hR : P₀.registry.Sound)
  (hcreate : ∀ i dn desc conf, req i = .create dn desc conf →
    conf.isObject = true ∧ ∃ did d, Names.definitionId dn = .ok did ∧
      P₀.registry.byId? did type = some d)
  (hrename : ∀ i name, req i = .rename name → ∃ a c, Names.connectorId name = .ok a ∧ a ≠ x ∧
    P₀.tables.getConnectorById a owner.permalink type .basic = .ok c)
  (hdistinct : ∀ i j name name', req i = .rename name → req j = .rename name' →
    Names.connectorId name = Names.connectorId name' → i = j)

omit [DecidableEq ι] in
include hrename in
theorem IdClaim.rename_source {name a : String} (hq : req i = .rename name)
    (hn : Names.connectorId name = .ok a) :
    a ≠ x ∧ ∃ c, P₀.tables.getConnectorById a owner.permalink type .basic = .ok c := by
  obtain ⟨a', c, hn', hax, hload⟩ := hrename i name hq
  rw [hn] at hn'
  cases hn'
  exact ⟨hax, c, hload⟩

include hrename hdistinct in
/-- **A write** of claim `i` that finds the id free, holds it after and leaves every other
rename's connector as it was keeps what holds: no claim had written before. -/
theorem ClaimsKept.write (h : ClaimsKept owner type x req P₀ s p)
    (hfree : p.tables.rowAt x owner.permalink type = none)
    (hheld : (p'.tables.rowAt x owner.permalink type).isSome)
    (huids : (p'.tables.connectors.map (·.uid)).Nodup) (hr : p'.registry = p.registry)
    (hst : StampsFrom p p')
    (hrest : ∀ b, b ≠ x → (∀ name, req i = .rename name → Names.connectorId name ≠ .ok b) →
      p'.tables.rowAt b owner.permalink type = p.tables.rowAt b owner.permalink type)
    (hw : s'.wrote = true) (hf : s'.Fits owner type x (req i)) :
    ClaimsKept owner type x req P₀ (Function.update s i s') p' := by
  have hnone : ∀ j, (s j).wrote = false := by
    intro j
    cases hj : (s j).wrote with
    | false => rfl
    | true =>
      have := h.held j hj
      rw [hfree] at this
      cases this
  have hwrote : ∀ j, (Function.update s i s' j).wrote = true → j = i := by
    intro j hj
    by_cases hji : j = i
    · exact hji
    · rw [Function.update_of_ne hji, hnone j] at hj
      cases hj
  have hiw : ∃ j, (Function.update s i s' j).wrote = true := ⟨i, by rw [Function.update_self, hw]⟩
  have hnot : ∀ st, s' = st → st.wrote = true := fun _ hst' => hst' ▸ hw
  refine ⟨hr.trans h.registry, h.stamps.trans hst, huids, .inr hiw, fun j name a hj hn hw' => ?_,
    fun _ _ => hheld, fun j k hj hk => (hwrote j hj).trans (hwrote k hk).symm,
    fun _ _ => .inr hiw,
    forall_update (P := fun _ st => ∀ c, st = .claimed c → P₀.Upcoming c.uid)
      (fun c hc => absurd (hnot _ hc) Bool.false_ne_true) (fun j _ => h.claimed j),
    forall_update (P := fun j st => ∀ e, st = .refused e →
        ClaimRefusal owner type x P₀ (Function.update s i s') p'.tables j e)
      (fun e he => absurd (hnot _ he) Bool.false_ne_true)
      (fun j _ e he => (h.refusals j e he).mono (fun k hk => by rw [hnone k] at hk; cases hk)
        (fun _ => hheld)),
    forall_update hf fun j _ => h.fits j⟩
  -- a rename that has not written is not claim `i`, and renames neither `x` nor `i`'s connector
  have hji : j ≠ i := by
    rintro rfl
    rw [Function.update_self, hw] at hw'
    cases hw'
  rw [Function.update_of_ne hji] at hw'
  obtain ⟨hax, -⟩ := IdClaim.rename_source hrename hj hn
  rw [hrest a hax fun name' hi hn'' => hji (hdistinct j i name name' hj hi (hn.trans hn''.symm))]
  exact h.sources j name a hj hn hw'

variable {dn desc name a : String} {conf : Json} {c : Connector}

include hx hR hcreate in
/-- **A create's first call** keeps what holds: it passes a connector under the claimed key, or
it is refused by its look-up. -/
theorem ClaimsKept.create_ready (h : ClaimsKept owner type x req P₀ s p)
    (hq : req i = .create dn desc conf) (hs : s i = .ready) :
    ClaimsKept owner type x req P₀
      (Function.update s i ((IdClaim.create dn desc conf).step owner type x .ready p).1)
      ((IdClaim.create dn desc conf).step owner type x .ready p).2 := by
  obtain ⟨hobj, did, d, hdn, hd⟩ := hcreate i dn desc conf hq
  obtain ⟨-, htype, -⟩ := hR.byId?_routed hd
  have hiw : (s i).wrote = false := by rw [hs]; rfl
  obtain ⟨r, p', hrun, ht, hr, hst, ⟨c, rfl, hc, hu, hnone⟩ | ⟨e, rfl, he⟩⟩ :=
    createClaim_run owner desc hx hobj hdn (h.registry ▸ hd)
  · simp only [IdClaim.step, hrun]
    exact h.rest ht hr hst hiw.symm ⟨⟨dn, desc, conf, hq⟩, htype ▸ hc⟩
      (fun _ => h.free_of_rowAt hnone)
      (fun c' hc' => by cases hc'; exact Upcoming.of_stampsFrom h.stamps hu)
      (fun _ he' => by cases he')
  · simp only [IdClaim.step, hrun]
    exact h.rest ht hr hst hiw.symm trivial (fun hf => by cases hf) (fun _ hc' => by cases hc')
      (fun e' he' => by cases he'; exact h.lookupRefusal hiw he)

include hrename hdistinct in
/-- **A create's insert** keeps what holds: it takes the id when the id is free, and it is
refused as internal when another claim has taken the id or the store holds its uid. -/
theorem ClaimsKept.create_claimed (h : ClaimsKept owner type x req P₀ s p)
    (hs : s i = .claimed c) :
    ClaimsKept owner type x req P₀
      (Function.update s i ((IdClaim.create dn desc conf).step owner type x (.claimed c) p).1)
      ((IdClaim.create dn desc conf).step owner type x (.claimed c) p).2 := by
  obtain ⟨-, hkey⟩ := h.fits_at hs
  obtain ⟨c', q, hkey', huid, hqt, hqr, hst, hres⟩ := insertConnector_run (p := p) c
  have hk : c'.naturalKey = (x, owner.permalink, type) := hkey'.trans hkey
  simp only [Connector.naturalKey, Prod.mk.injEq] at hk
  obtain ⟨hid, how, hty⟩ := hk
  rcases hres with ⟨t', hc, hrun⟩ | ⟨e, hc, hrun⟩
  · simp only [IdClaim.step, hrun, masked_state]
    obtain ⟨hfree, hheld, hrest⟩ := Tables.createConnector_rowAt hc
    rw [hid, how, hty] at hfree hheld hrest
    exact h.write hrename hdistinct hfree hheld (Tables.createConnector_uids hc h.uids) hqr
      ⟨hst.stamping, hst.inserted, hst.draws⟩ (fun b hb _ => hrest b hb) rfl trivial
  · simp only [IdClaim.step, hrun]
    have hff : (s i).foundFree = true := by rw [hs]; rfl
    refine h.rest hqt hqr hst (by rw [hs]; rfl) trivial (fun hf => by cases hf)
      (fun _ hc' => by cases hc') (fun e' he' => ?_)
    cases he'
    rcases Tables.createConnector_error hc with ⟨rfl, hclash⟩ | ⟨rfl, hmem⟩
    · -- the key is held now, so another claim took it
      rw [hid, how, hty] at hclash
      exact .inr ⟨rfl, .inl (h.clash hff hclash)⟩
    · -- the uid is a stored row's: one of `P₀`'s, unless a claim has written
      refine .inr ⟨rfl, ?_⟩
      rcases h.unwritten with ht | hw
      · refine .inr (.inr ⟨c'.uid, ht ▸ hmem, ?_⟩)
        rcases huid with heq | hup
        · exact heq ▸ h.claimed i c hs
        · exact Upcoming.of_stampsFrom h.stamps hup
      · exact .inl (ClaimsKept.other_wrote (ClaimStage.wrote_eq_false_of_foundFree hff) hw)

include hx hrename in
/-- **A rename's first call** keeps what holds: it reads the connector it renames, which no
other claim has touched. -/
theorem ClaimsKept.rename_ready (h : ClaimsKept owner type x req P₀ s p)
    (hq : req i = .rename name) (hs : s i = .ready) :
    ClaimsKept owner type x req P₀
      (Function.update s i ((IdClaim.rename name).step owner type x .ready p).1)
      ((IdClaim.rename name).step owner type x .ready p).2 := by
  obtain ⟨a, c, hn, -, hload⟩ := hrename i name hq
  have hload' : p.tables.getConnectorById a owner.permalink type .basic = .ok c := by
    rw [Tables.getConnectorById_congr (h.sources i name a hq hn (by rw [hs]; rfl))]
    exact hload
  simp only [IdClaim.step, renameLoad_run hn hx hload']
  exact h.rest rfl rfl (StampsFrom.refl p) (by rw [hs]; rfl) ⟨name, hq, hn⟩
    (fun hf => by cases hf) (fun _ hc' => by cases hc') (fun _ he => by cases he)

include hrename in
/-- **A rename's look-up** keeps what holds: it finds the id free, or it is refused. -/
theorem ClaimsKept.rename_loaded (h : ClaimsKept owner type x req P₀ s p)
    (hs : s i = .loaded a) :
    ClaimsKept owner type x req P₀
      (Function.update s i ((IdClaim.rename name).step owner type x (.loaded a) p).1)
      ((IdClaim.rename name).step owner type x (.loaded a) p).2 := by
  obtain ⟨name', hq', hn⟩ := h.fits_at hs
  obtain ⟨hax, -⟩ := IdClaim.rename_source hrename hq' hn
  have hiw : (s i).wrote = false := by rw [hs]; rfl
  obtain ⟨r, hrun, ⟨rfl, hnone⟩ | ⟨e, rfl, he⟩⟩ := renameCheck_run (p := p) owner type hax
  · simp only [IdClaim.step, hrun]
    exact h.rest rfl rfl (StampsFrom.refl p) hiw.symm ⟨name', hq', hn⟩
      (fun _ => h.free_of_rowAt hnone) (fun _ hc' => by cases hc') (fun _ he' => by cases he')
  · simp only [IdClaim.step, hrun]
    exact h.rest rfl rfl (StampsFrom.refl p) hiw.symm trivial (fun hf => by cases hf)
      (fun _ hc' => by cases hc') (fun e' he' => by cases he'; exact h.lookupRefusal hiw he)

include hrename hdistinct in
/-- **A rename's write** keeps what holds: it takes the id when the id is free, and it is
refused as internal when another claim has taken the id. -/
theorem ClaimsKept.rename_cleared (h : ClaimsKept owner type x req P₀ s p)
    (hs : s i = .cleared a) :
    ClaimsKept owner type x req P₀
      (Function.update s i ((IdClaim.rename name).step owner type x (.cleared a) p).1)
      ((IdClaim.rename name).step owner type x (.cleared a) p).2 := by
  obtain ⟨name', hq', hn⟩ := h.fits_at hs
  obtain ⟨hax, c, hload⟩ := IdClaim.rename_source hrename hq' hn
  obtain ⟨r₀, hr₀⟩ := Tables.rowAt_of_getConnectorById hload
  have hr₀' : p.tables.rowAt a owner.permalink type = some r₀ :=
    (h.sources i name' a hq' hn (by rw [hs]; rfl)).trans hr₀
  obtain ⟨p', hr, hst, ⟨t', hren, hrun, hpt⟩ | ⟨e, hren, hrun, hpt⟩⟩ :=
    renameMove_run (p := p) owner type x a
  · simp only [IdClaim.step, hrun]
    obtain ⟨hfree, hheld, hrest⟩ := Tables.renameConnector_rowAt hr₀' h.uids hax hren
    refine h.write hrename hdistinct hfree (hpt ▸ hheld)
      (by rw [hpt, Tables.renameConnector_uids hren]; exact h.uids) hr hst
      (fun b hbx hbi => ?_) rfl ⟨name', hq'⟩
    rw [hpt]
    exact hrest b (fun hba => hbi name' hq' (hba ▸ hn)) hbx
  · simp only [IdClaim.step, hrun]
    obtain ⟨rfl, hclash⟩ := Tables.renameConnector_error hren
    exact h.rest hpt hr hst (by rw [hs]; rfl) trivial (fun hf => by cases hf)
      (fun _ hc' => by cases hc')
      (fun e' he' => by cases he'; exact .inr ⟨rfl, .inl (h.clash (by rw [hs]; rfl) hclash)⟩)

/-- **A rename's answer** reads, and keeps what holds. -/
theorem ClaimsKept.rename_moved (h : ClaimsKept owner type x req P₀ s p) (hs : s i = .moved) :
    ClaimsKept owner type x req P₀
      (Function.update s i ((IdClaim.rename name).step owner type x .moved p).1)
      ((IdClaim.rename name).step owner type x .moved p).2 := by
  have hst : ((renameAnswer owner type x).run.run p).2 = p := load_masked_state x owner type .full
  simp only [IdClaim.step, hst]
  exact h.rest rfl rfl (StampsFrom.refl p) (by rw [hs]; rfl) trivial (fun hf => by cases hf)
    (fun _ hc' => by cases hc') (fun _ he => by cases he)

theorem ClaimsKept.stay (h : ClaimsKept owner type x req P₀ s p) {s₀ : ClaimStage}
    (hs : s i = s₀) : ClaimsKept owner type x req P₀ (Function.update s i s₀) p := by
  rw [← hs, Function.update_eq_self]
  exact h

include hx hR hcreate hrename hdistinct in
/-- **Each call** of any claim keeps what holds. -/
theorem ClaimsKept.step (h : ClaimsKept owner type x req P₀ s p) (i : ι) :
    ClaimsKept owner type x req P₀
      (Function.update s i ((req i).step owner type x (s i) p).1)
      ((req i).step owner type x (s i) p).2 := by
  cases hq : req i with
  | create dn desc conf =>
    cases hs : s i with
    | ready => exact h.create_ready hx hR hcreate hq hs
    | claimed c => exact h.create_claimed hrename hdistinct hs
    | loaded a => exact h.stay hs
    | cleared a => exact h.stay hs
    | moved => exact h.stay hs
    | refused e => exact h.stay hs
    | answered r => exact h.stay hs
  | rename name =>
    cases hs : s i with
    | ready => exact h.rename_ready hx hrename hq hs
    | loaded a => exact h.rename_loaded hrename hs
    | cleared a => exact h.rename_cleared hrename hdistinct hs
    | moved => exact h.rename_moved hs
    | claimed c => exact h.stay hs
    | refused e => exact h.stay hs
    | answered r => exact h.stay hs

include hx hR hcreate hrename hdistinct in
/-- **Every schedule** of the claims keeps what holds. -/
theorem ClaimsKept.schedule (h : ClaimsKept owner type x req P₀ s p) (sched : List ι) :
    ClaimsKept owner type x req P₀ (claimAll owner type x req sched s p).1
      (claimAll owner type x req sched s p).2 := by
  induction sched generalizing s p with
  | nil => exact h
  | cons i sched ih => exact ih (h.step hx hR hcreate hrename hdistinct i)

include hx hR hcreate hrename hdistinct in
/-- **Progress**: a claim ends after four turns of the schedule. -/
theorem ClaimsKept.rank_claimAll (h : ClaimsKept owner type x req P₀ s p) (sched : List ι)
    (i : ι) :
    min 4 ((s i).rank + sched.count i) ≤ ((claimAll owner type x req sched s p).1 i).rank := by
  induction sched generalizing s p with
  | nil => exact Nat.min_le_right _ _
  | cons j sched ih =>
    refine le_trans ?_ (ih (h.step hx hR hcreate hrename hdistinct j))
    by_cases hji : j = i
    · subst hji
      have := IdClaim.rank_step p (h.fits j)
      rw [Function.update_self, List.count_cons_self]
      omega
    · rw [Function.update_of_ne (Ne.symm hji), List.count_cons_of_ne hji]

end Valid

end Kept

/-- **Claims on one id.** Serve at once, in the order of any schedule, creates of new connectors
under the id `x` and renames of connectors to `x`, all of one owner and type, each call to the
store atomic. Each claim is valid on its own: `x` passes the id check, a create sends an object
and names a registered definition, and a rename names a connector that reads back and is not
under `x`; no two renames rename one connector; the tables are as the store keeps them and the
registry as it is built. Then at most one claim writes, and once one has the id is held. A claim
refused with `alreadyExists` found the id held, and it is held. A claim refused with the store's
internal failure lost the id to another claim's write after finding it free, unless the store
was at fault from the start: its row under `x` does not read back, or it holds a uid the plane
was to stamp. Every claim given four turns of the schedule has ended. -/
theorem claims_on_one_id_single_writer {ι : Type} [DecidableEq ι] {owner : Owner}
    {type : ConnectorType} {x : String} {req : ι → IdClaim} {p : Plane} (hsound : p.tables.Sound)
    (hR : p.registry.Sound) (hx : ConnectorId.check x = .ok ())
    (hcreate : ∀ i dn desc conf, req i = .create dn desc conf → conf.isObject = true ∧
      ∃ did d, Names.definitionId dn = .ok did ∧ p.registry.byId? did type = some d)
    (hrename : ∀ i name, req i = .rename name → ∃ a c, Names.connectorId name = .ok a ∧ a ≠ x ∧
      p.tables.getConnectorById a owner.permalink type .basic = .ok c)
    (hdistinct : ∀ i j name name', req i = .rename name → req j = .rename name' →
      Names.connectorId name = Names.connectorId name' → i = j)
    (sched : List ι) {s : ι → ClaimStage} {q : Plane}
    (hrun : claimAll owner type x req sched (fun _ => .ready) p = (s, q)) :
    (∀ i j, (s i).wrote = true → (s j).wrote = true → i = j) ∧
      (∀ i, (s i).wrote = true → (q.tables.rowAt x owner.permalink type).isSome) ∧
      (∀ i e, (s i).refusal? = some e →
        e = .alreadyExists ("connectors/" ++ x) ∧
            (q.tables.rowAt x owner.permalink type).isSome ∨
          e = .internal "storage operation failed" ∧
            ((∃ j, j ≠ i ∧ (s j).wrote = true) ∨ p.tables.Unreadable x owner.permalink type ∨
              ∃ u ∈ p.tables.connectors.map (·.uid), p.Upcoming u)) ∧
      (∀ i, 4 ≤ sched.count i → (s i).ended = true) := by
  have h₀ : ClaimsKept owner type x req p (fun _ => .ready) p :=
    ⟨rfl, StampsFrom.refl p, hsound.connectors.uids_nodup, .inl rfl, fun _ _ _ _ _ _ => rfl,
      fun _ h => (by cases h), fun _ _ h => (by cases h), fun _ h => (by cases h),
      fun _ _ h => (by cases h), fun _ _ h => (by cases h), fun _ => trivial⟩
  have h := h₀.schedule hx hR hcreate hrename hdistinct sched
  have hr := h₀.rank_claimAll hx hR hcreate hrename hdistinct sched
  rw [hrun] at h hr
  dsimp only at h hr
  refine ⟨h.single, h.held, fun i e he => h.refusals i e (ClaimStage.refusal?_eq_some.1 he),
    fun i hi => ?_⟩
  apply ClaimStage.ended_of_four_le_rank
  have := hr i
  rw [show ClaimStage.ready.rank = 0 from rfl] at this
  omega

/-! ## A create and a rename racing for one id -/

/-- A create of a connector of `passwordDefinition` (`true`) and a rename of `notedConnector`
(`false`), both claiming the id `db2`. -/
def db2Claims (b : Bool) : IdClaim :=
  if b then .create "connector-definitions/pg" "" (.obj []) else .rename "connectors/db"

/-- The create looks `db2` up, the rename reads its connector and looks `db2` up, the create
inserts, and the rename writes. -/
def db2Race : List Bool := [true, false, false, true, false, false]

/-- The two claims served along `db2Race` from `notedPlane`. -/
def db2Served : (Bool → ClaimStage) × Plane :=
  claimAll notedOwner .destination "db2" db2Claims db2Race (fun _ => .ready) notedPlane

/-- The rename loses the race: it found `db2` free, but the create took it before the rename's
write, and the store's refusal reaches the caller as an internal failure, not as
`alreadyExists`. -/
theorem rename_losing_race_fails_internally :
    (db2Served.1 false).refusal? = some (.internal "storage operation failed") := by
  decide +kernel

/-- The race meets every condition of `claims_on_one_id_single_writer`, and one claim writes. -/
theorem db2_race_single_writer :
    notedPlane.tables.Sound ∧ notedPlane.registry.Sound ∧ ConnectorId.check "db2" = .ok () ∧
      (∀ i dn desc conf, db2Claims i = .create dn desc conf → conf.isObject = true ∧
        ∃ did d, Names.definitionId dn = .ok did ∧
          notedPlane.registry.byId? did .destination = some d) ∧
      (∀ i name, db2Claims i = .rename name → ∃ a c, Names.connectorId name = .ok a ∧
        a ≠ "db2" ∧ notedPlane.tables.getConnectorById a notedOwner.permalink .destination .basic =
          .ok c) ∧
      (∀ i j name name', db2Claims i = .rename name → db2Claims j = .rename name' →
        Names.connectorId name = Names.connectorId name' → i = j) ∧
      (db2Served.1 true).wrote = true ∧
      ((∀ i j, (db2Served.1 i).wrote = true → (db2Served.1 j).wrote = true → i = j) ∧
        (∀ i, (db2Served.1 i).wrote = true →
          (db2Served.2.tables.rowAt "db2" notedOwner.permalink .destination).isSome) ∧
        (∀ i e, (db2Served.1 i).refusal? = some e →
          e = .alreadyExists ("connectors/" ++ "db2") ∧
              (db2Served.2.tables.rowAt "db2" notedOwner.permalink .destination).isSome ∨
            e = .internal "storage operation failed" ∧
              ((∃ j, j ≠ i ∧ (db2Served.1 j).wrote = true) ∨
                notedPlane.tables.Unreadable "db2" notedOwner.permalink .destination ∨
                ∃ u ∈ notedPlane.tables.connectors.map (·.uid), notedPlane.Upcoming u)) ∧
        (∀ i, 4 ≤ db2Race.count i → (db2Served.1 i).ended = true)) := by
  have hsound : notedPlane.tables.Sound := by
    have hc : ({} : Tables).createConnector notedConnector = .ok notedPlane.tables := rfl
    exact (Tables.Write.createConnector notedConnector hc).sound
      Tables.sound_empty
  have hR : notedPlane.registry.Sound :=
    Registry.sound_of_build passwordFamily_wellFormed build_passwordFamily
  have hx : ConnectorId.check "db2" = .ok () := by decide +kernel
  have hcreate : ∀ i dn desc conf, db2Claims i = .create dn desc conf → conf.isObject = true ∧
      ∃ did d, Names.definitionId dn = .ok did ∧
        notedPlane.registry.byId? did .destination = some d := by
    intro i dn desc conf h
    cases i with
    | false => cases h
    | true =>
      cases h
      exact ⟨rfl, "pg", passwordDefinition, by decide, rfl⟩
  have hrename : ∀ i name, db2Claims i = .rename name → ∃ a c, Names.connectorId name = .ok a ∧
      a ≠ "db2" ∧ notedPlane.tables.getConnectorById a notedOwner.permalink .destination .basic =
        .ok c := by
    intro i name h
    cases i with
    | true => cases h
    | false =>
      cases h
      have hok : (notedPlane.tables.getConnectorById "db" notedOwner.permalink .destination
          .basic).isOk = true := by decide +kernel
      cases hg : notedPlane.tables.getConnectorById "db" notedOwner.permalink .destination
          .basic with
      | error e =>
        rw [hg] at hok
        cases hok
      | ok c => exact ⟨"db", c, by decide, by decide, hg⟩
  have hdistinct : ∀ i j name name', db2Claims i = .rename name → db2Claims j = .rename name' →
      Names.connectorId name = Names.connectorId name' → i = j := by
    intro i j name name' hi hj _
    cases i with
    | true => cases hi
    | false =>
      cases j with
      | true => cases hj
      | false => rfl
  exact ⟨hsound, hR, hx, hcreate, hrename, hdistinct, by decide +kernel,
    claims_on_one_id_single_writer hsound hR hx hcreate hrename hdistinct db2Race rfl⟩

end Plane

end ConnectorPlane
