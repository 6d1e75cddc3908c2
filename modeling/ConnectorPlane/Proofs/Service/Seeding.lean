import ConnectorPlane.Proofs.Service.Effects
import ConnectorPlane.Service.Definitions

/-! # Seeding the definitions table

A seed upserts the registry's definitions one after another. An upsert rewrites the row of its
uid, keeping the row's creation time, or appends a row; but the table also keeps no
(id, type) twice, so an upsert is refused when a row of another uid holds its definition's
key. The seed then stops there, keeping the upserts before it: the upserts are not one
transaction.

* `Tables.DefinitionsKeyed`: no uid and no (type, id) twice among the definition rows, what
  every seed keeps;
* `Tables.Upserted`: the rows upserting some definitions leaves, whichever rows came before;
  `Tables.upsertedRow`: each definition's row, keeping the creation time stored for its uid;
* `Tables.Clash`, `Tables.Fits`: when an upsert is refused, and when none of a catalog is;
* `Tables.upsertAll_upserted`: the upserts in turn, up to the first refused one;
* `Plane.seed_upserts_catalog_until_a_key_is_taken`: a seed succeeds exactly when the catalog
  fits the table; it upserts the catalog, or the part of it before a definition whose key a
  stored row of another uid holds, and every upserted definition reads back from its row.
-/

namespace ConnectorPlane

def Definition.key (d : Definition) : ConnectorType × String := (d.connectorType, d.id)

def DefinitionRow.key (r : DefinitionRow) : ConnectorType × String := (r.connectorType, r.id)

namespace Tables

/-- The definitions table as the database's constraints keep it: no uid and no key twice. -/
structure DefinitionsKeyed (t : Tables) : Prop where
  uids : (t.definitions.map (·.uid)).Nodup
  keys : (t.definitions.map DefinitionRow.key).Nodup

def definitionRow? (t : Tables) (uid : Uuid) : Option DefinitionRow :=
  t.definitions.find? (·.uid == uid)

/-- The row an upsert of `d` leaves: `d`'s, with the creation time stored for its uid. -/
def upsertedRow (t : Tables) (d : Definition) : DefinitionRow :=
  { d.toRow with
    createTime := ((t.definitionRow? d.uid).map (·.createTime)).getD d.toRow.createTime }

/-- `t'`'s definitions are `t`'s with `ds` upserted: the rows of other uids as they were, and
for each of `ds` the row an upsert of it leaves. -/
def Upserted (t : Tables) (ds : List Definition) (t' : Tables) : Prop :=
  ∀ r, r ∈ t'.definitions ↔
    (r ∈ t.definitions ∧ r.uid ∉ ds.map (·.uid)) ∨ ∃ d ∈ ds, r = t.upsertedRow d

/-- After upserting `ds`, an upsert of `d` meets a row of `t` of another uid, none of `ds`, that
holds `d`'s key. -/
def Clash (t : Tables) (ds : List Definition) (d : Definition) : Prop :=
  ∃ r ∈ t.definitions, r.key = d.key ∧ r.uid ≠ d.uid ∧ r.uid ∉ ds.map (·.uid)

/-- Upserting `ds` in turn on `t` meets no clash: a row of `t` holding a definition's key is
that definition's, or that of one upserted before it. -/
def Fits (t : Tables) (ds : List Definition) : Prop :=
  ∀ P d S, ds = P ++ d :: S → ∀ r ∈ t.definitions, r.key = d.key →
    r.uid = d.uid ∨ r.uid ∈ P.map (·.uid)

/-- The upserts of `ds` in turn on `t`: the tables they leave, and the error of the one refused,
after which none is tried. -/
def upsertAll (t : Tables) : List Definition → Tables × Option StoreError
  | [] => (t, none)
  | d :: ds =>
    match t.upsertDefinition d with
    | .ok t' => t'.upsertAll ds
    | .error e => (t, some e)

variable {t u u' : Tables} {P ds : List Definition} {d : Definition}

@[simp] theorem upsertedRow_uid : (t.upsertedRow d).uid = d.uid := rfl

@[simp] theorem upsertedRow_key : (t.upsertedRow d).key = d.key := rfl

theorem fits_iff : t.Fits ds ↔ ∀ P d S, ds = P ++ d :: S → ¬ t.Clash P d := by
  refine forall_congr' fun P => forall_congr' fun d => forall_congr' fun S =>
    forall_congr' fun _ => ?_
  simp only [Clash, not_exists, not_and, not_not]
  refine ⟨fun h r hr hk hne => (h r hr hk).resolve_left hne, fun h r hr hk => ?_⟩
  by_cases hu : r.uid = d.uid
  · exact .inl hu
  · exact .inr (h r hr hk hu)

theorem DefinitionsKeyed.definitionRow?_eq (h : t.DefinitionsKeyed) {r : DefinitionRow}
    (hr : r ∈ t.definitions) : t.definitionRow? r.uid = some r := by
  have hsome : (t.definitions.find? (·.uid == r.uid)).isSome :=
    List.find?_isSome.2 ⟨r, hr, by simp⟩
  obtain ⟨r', hr'⟩ := Option.isSome_iff_exists.1 hsome
  have hsame : r'.uid = r.uid := by simpa using List.find?_some hr'
  rw [definitionRow?, hr', List.inj_on_of_nodup_map h.uids (List.mem_of_find?_eq_some hr') hr
    hsame]

theorem definitionRow?_eq_none (h : uid ∉ t.definitions.map (·.uid)) :
    t.definitionRow? uid = none :=
  List.find?_eq_none.2 fun r hr he => h (List.mem_map.2 ⟨r, hr, by simpa using he⟩)

/-! ## One upsert -/

/-- Rewriting the row of `d`'s uid to `d`'s row keeps a table keyed when no row of another uid
holds `d`'s key. -/
theorem DefinitionsKeyed.rewrite (hk : u.DefinitionsKeyed)
    (hfree : ∀ r ∈ u.definitions, r.uid ≠ d.uid → r.key ≠ d.key) :
    DefinitionsKeyed { u with definitions := u.definitions.map fun r =>
      if r.uid == d.uid then { d.toRow with createTime := r.createTime } else r } := by
  have hsame : ∀ x ∈ u.definitions, ∀ y ∈ u.definitions, x.uid = d.uid → y.uid = d.uid → x = y :=
    fun x hx y hy hx' hy' => List.inj_on_of_nodup_map hk.uids hx hy (hx'.trans hy'.symm)
  constructor
  · -- the rewrite keeps every uid
    have huids : (u.definitions.map fun r => if r.uid == d.uid then
        { d.toRow with createTime := r.createTime } else r).map (·.uid) =
        u.definitions.map (·.uid) := by
      rw [List.map_map]
      refine List.map_congr_left fun r _ => ?_
      by_cases h : r.uid = d.uid <;> simp [h, Definition.toRow]
    show (List.map _ (List.map _ u.definitions)).Nodup
    rw [huids]
    exact hk.uids
  · -- the rewritten row takes `d`'s key, which no other row holds
    rw [List.map_map]
    refine (List.Nodup.of_map _ hk.uids).map_on fun x hx y hy hxy => ?_
    simp only [Function.comp_apply] at hxy
    by_cases hx' : x.uid = d.uid <;> by_cases hy' : y.uid = d.uid
    · exact hsame x hx y hy hx' hy'
    · rw [if_pos (beq_iff_eq.2 hx'), if_neg (by simpa using hy')] at hxy
      exact absurd hxy.symm (hfree y hy hy')
    · rw [if_neg (by simpa using hx'), if_pos (beq_iff_eq.2 hy')] at hxy
      exact absurd hxy (hfree x hx hx')
    · rw [if_neg (by simpa using hx'), if_neg (by simpa using hy')] at hxy
      exact List.inj_on_of_nodup_map hk.keys hx hy hxy

theorem DefinitionsKeyed.append (hk : u.DefinitionsKeyed)
    (habsent : ∀ r ∈ u.definitions, r.uid ≠ d.uid)
    (hfree : ∀ r ∈ u.definitions, r.uid ≠ d.uid → r.key ≠ d.key) :
    DefinitionsKeyed { u with definitions := u.definitions ++ [d.toRow] } := by
  constructor
  · rw [List.map_append, List.map_singleton, List.nodup_append]
    refine ⟨hk.uids, List.nodup_singleton _, fun a ha b hb => ?_⟩
    rw [List.mem_singleton.1 hb]
    obtain ⟨r, hr, rfl⟩ := List.mem_map.1 ha
    exact habsent r hr
  · rw [List.map_append, List.map_singleton, List.nodup_append]
    refine ⟨hk.keys, List.nodup_singleton _, fun a ha b hb => ?_⟩
    rw [List.mem_singleton.1 hb]
    obtain ⟨r, hr, rfl⟩ := List.mem_map.1 ha
    exact hfree r hr (habsent r hr)

section Step

variable (hu : t.Upserted P u) (ht : t.DefinitionsKeyed) (hk : u.DefinitionsKeyed)
  (hdu : d.uid ∉ P.map (·.uid)) (hdk : d.key ∉ P.map Definition.key)

include hu hdk in
/-- A row of the upserted table of another uid than `d`'s holding `d`'s key is a row of `t`
that none of `P` rewrote. -/
theorem clash_of_mem {r : DefinitionRow} (hr : r ∈ u.definitions) (hkey : r.key = d.key)
    (hne : r.uid ≠ d.uid) : t.Clash P d := by
  rcases (hu r).1 hr with ⟨hr, hnot⟩ | ⟨e, he, rfl⟩
  · exact ⟨r, hr, hkey, hne, hnot⟩
  · exact absurd (List.mem_map.2 ⟨e, he, hkey⟩) hdk

include hu hdu in
theorem mem_of_uid {r : DefinitionRow} (hr : r ∈ u.definitions) (huid : r.uid = d.uid) :
    r ∈ t.definitions := by
  rcases (hu r).1 hr with ⟨hr, -⟩ | ⟨e, he, rfl⟩
  · exact hr
  · exact absurd (List.mem_map.2 ⟨e, he, huid⟩) hdu

include hu ht hk hdu hdk

omit hdk in
theorem upserted_rewrite {r₀ : DefinitionRow} (hr₀ : r₀ ∈ u.definitions)
    (hr₀uid : r₀.uid = d.uid) :
    t.Upserted (P ++ [d]) { u with definitions := u.definitions.map fun r =>
      if r.uid == d.uid then { d.toRow with createTime := r.createTime } else r } := by
  have hr₀t := mem_of_uid hu hdu hr₀ hr₀uid
  have hrow : { d.toRow with createTime := r₀.createTime } = t.upsertedRow d := by
    rw [upsertedRow, ← hr₀uid, ht.definitionRow?_eq hr₀t]
    rfl
  have hsame : ∀ r ∈ u.definitions, r.uid = d.uid → r = r₀ := fun r hr he =>
    List.inj_on_of_nodup_map hk.uids hr hr₀ (he.trans hr₀uid.symm)
  intro r
  rw [List.mem_map]
  simp only [List.map_append, List.map_singleton, List.mem_append, List.mem_singleton, not_or]
  constructor
  · rintro ⟨x, hx, rfl⟩
    by_cases hxd : x.uid = d.uid
    · rw [if_pos (beq_iff_eq.2 hxd), hsame x hx hxd, hrow]
      exact .inr ⟨d, .inr rfl, rfl⟩
    · rw [if_neg (by simpa using hxd)]
      rcases (hu x).1 hx with ⟨hx, hnot⟩ | ⟨e, he, rfl⟩
      · exact .inl ⟨hx, hnot, hxd⟩
      · exact .inr ⟨e, .inl he, rfl⟩
  · rintro (⟨hr, hnot, hrd⟩ | ⟨e, he | rfl, rfl⟩)
    · exact ⟨r, (hu r).2 (.inl ⟨hr, hnot⟩), by simp [hrd]⟩
    · have hne : e.uid ≠ d.uid := fun h => hdu (List.mem_map.2 ⟨e, he, h⟩)
      exact ⟨t.upsertedRow e, (hu _).2 (.inr ⟨e, he, rfl⟩), by simp [hne]⟩
    · exact ⟨r₀, hr₀, by rw [if_pos (beq_iff_eq.2 hr₀uid), hrow]⟩

omit ht hk hdk in
theorem upserted_append (habsent : ∀ r ∈ u.definitions, r.uid ≠ d.uid) :
    t.Upserted (P ++ [d]) { u with definitions := u.definitions ++ [d.toRow] } := by
  -- `t` holds no row of `d`'s uid either, so `d`'s row keeps its own creation time
  have hnot : d.uid ∉ t.definitions.map (·.uid) := fun h => by
    obtain ⟨r, hr, hru⟩ := List.mem_map.1 h
    exact habsent r ((hu r).2 (.inl ⟨hr, hru ▸ hdu⟩)) hru
  have hrow : d.toRow = t.upsertedRow d := by
    rw [upsertedRow, definitionRow?_eq_none hnot]
    rfl
  intro r
  simp only [List.mem_append, List.mem_singleton, List.map_append, List.map_singleton, not_or]
  constructor
  · rintro (hr | rfl)
    · rcases (hu r).1 hr with ⟨hr', hnot'⟩ | ⟨e, he, rfl⟩
      · exact .inl ⟨hr', hnot', habsent r hr⟩
      · exact .inr ⟨e, .inl he, rfl⟩
    · exact .inr ⟨d, .inr rfl, hrow⟩
  · rintro (⟨hr, hnot', -⟩ | ⟨e, he | he, rfl⟩)
    · exact .inl ((hu r).2 (.inl ⟨hr, hnot'⟩))
    · exact .inl ((hu _).2 (.inr ⟨e, he, rfl⟩))
    · exact .inr (by rw [he, hrow])

/-- **One upsert**: refused exactly on a clash, and otherwise leaving the table upserted with
`d` too, keyed again. -/
theorem upsertDefinition_step :
    (u.upsertDefinition d = .error definitionClash ∧ t.Clash P d) ∨
      (¬ t.Clash P d ∧ ∃ u', u.upsertDefinition d = .ok u' ∧ t.Upserted (P ++ [d]) u' ∧
        u'.DefinitionsKeyed) := by
  have hclash_iff : t.Clash P d ↔
      u.definitions.any (fun r => r.uid != d.toRow.uid && r.id == d.toRow.id &&
        r.connectorType == d.toRow.connectorType) = true := by
    rw [List.any_eq_true]
    constructor
    · rintro ⟨r, hr, hkey, hne, hnot⟩
      refine ⟨r, (hu r).2 (.inl ⟨hr, hnot⟩), ?_⟩
      simp only [DefinitionRow.key, Definition.key, Prod.mk.injEq] at hkey
      simp [Definition.toRow, hne, hkey.1, hkey.2]
    · rintro ⟨r, hr, hrd⟩
      simp only [Definition.toRow, Bool.and_eq_true, bne_iff_ne, ne_eq, beq_iff_eq] at hrd
      exact clash_of_mem hu hdk hr (by simp [DefinitionRow.key, Definition.key, hrd.1.2,
        hrd.2]) hrd.1.1
  unfold upsertDefinition
  dsimp only
  by_cases hc : t.Clash P d
  · rw [if_pos (hclash_iff.1 hc)]
    exact .inl ⟨rfl, hc⟩
  · rw [if_neg (mt hclash_iff.2 hc)]
    have hfree : ∀ r ∈ u.definitions, r.uid ≠ d.uid → r.key ≠ d.key :=
      fun r hr hne hkey => hc (clash_of_mem hu hdk hr hkey hne)
    refine .inr ⟨hc, ?_⟩
    split
    · rename_i hany
      obtain ⟨r₀, hr₀, hr₀uid⟩ := List.any_eq_true.1 hany
      have hr₀uid' : r₀.uid = d.uid := by simpa [Definition.toRow] using hr₀uid
      exact ⟨_, rfl, upserted_rewrite hu ht hk hdu hr₀ hr₀uid', hk.rewrite hfree⟩
    · rename_i hany
      have habsent : ∀ r ∈ u.definitions, r.uid ≠ d.uid := fun r hr he =>
        hany (List.any_eq_true.2 ⟨r, hr, by simp [Definition.toRow, he]⟩)
      exact ⟨_, rfl, upserted_append hu hdu habsent, hk.append habsent hfree⟩

end Step

/-! ## Upserts in turn -/

theorem definitionsKeyed_empty : ({} : Tables).DefinitionsKeyed := ⟨List.nodup_nil, List.nodup_nil⟩

theorem upserted_nil (t : Tables) : t.Upserted [] t := fun r => by
  simp

/-- **Upserts in turn**, from a table upserted with `P`, of definitions of distinct uids and
keys: they upsert a part `Q` of `ds`, all of it exactly when no clash meets them, and otherwise
up to the definition `d` an upsert of which is refused on a clash. -/
theorem upsertAll_upserted (ht : t.DefinitionsKeyed) :
    ∀ (ds P : List Definition) (u : Tables), ((P ++ ds).map (·.uid)).Nodup →
      ((P ++ ds).map Definition.key).Nodup → t.Upserted P u → u.DefinitionsKeyed →
      ∃ Q R, ds = Q ++ R ∧ t.Upserted (P ++ Q) (u.upsertAll ds).1 ∧
        (u.upsertAll ds).1.DefinitionsKeyed ∧
        ((R = [] ∧ (u.upsertAll ds).2 = none ∧ ∀ Q' d S, ds = Q' ++ d :: S → ¬ t.Clash (P ++ Q') d) ∨
          ∃ d S, R = d :: S ∧ (u.upsertAll ds).2 = some definitionClash ∧ t.Clash (P ++ Q) d)
  | [], P, u, _, _, hu, hk => ⟨[], [], rfl, by simpa [upsertAll] using hu, hk, .inl ⟨rfl, rfl,
      fun Q' d S h => absurd h (by simp)⟩⟩
  | d :: ds, P, u, huids, hkeys, hu, hk => by
    have hdu : d.uid ∉ P.map (·.uid) := by
      rw [List.map_append, List.map_cons] at huids
      exact fun h => List.disjoint_of_nodup_append huids h List.mem_cons_self
    have hdk : d.key ∉ P.map Definition.key := by
      rw [List.map_append, List.map_cons] at hkeys
      exact fun h => List.disjoint_of_nodup_append hkeys h List.mem_cons_self
    rcases upsertDefinition_step hu ht hk hdu hdk with ⟨herr, hc⟩ | ⟨hc, u', hok, hu', hk'⟩
    · -- the first upsert is refused: nothing more is tried
      refine ⟨[], d :: ds, rfl, by simpa [upsertAll, herr] using hu, ?_,
        .inr ⟨d, ds, rfl, ?_, by simpa using hc⟩⟩
      · simp only [upsertAll, herr]
        exact hk
      · simp [upsertAll, herr]
    · have hrest := upsertAll_upserted ht ds (P ++ [d]) u' (by simpa using huids)
        (by simpa using hkeys) hu' hk'
      obtain ⟨Q, R, hds, hQ, hkQ, hend⟩ := hrest
      have hrun : u.upsertAll (d :: ds) = u'.upsertAll ds := by simp [upsertAll, hok]
      rw [hrun]
      refine ⟨d :: Q, R, by rw [hds, List.cons_append], by simpa using hQ, hkQ, ?_⟩
      rcases hend with ⟨hR, hnone, hall⟩ | ⟨e, S, hR, hsome, hce⟩
      · refine .inl ⟨hR, hnone, fun Q' e S h => ?_⟩
        cases Q' with
        | nil =>
          obtain ⟨rfl, rfl⟩ := List.cons.inj h
          simpa using hc
        | cons x Q' =>
          rw [List.cons_append, List.cons.injEq] at h
          obtain ⟨rfl, h⟩ := h
          simpa using hall Q' e S h
      · exact .inr ⟨e, S, hR, hsome, by simpa using hce⟩

theorem definitionRow?_upserted (hu : t.Upserted ds u) (hk : u.DefinitionsKeyed)
    (hd : d ∈ ds) : u.definitionRow? d.uid = some (t.upsertedRow d) :=
  hk.definitionRow?_eq ((hu _).2 (.inr ⟨d, hd, rfl⟩))

theorem upsertAll_connectors : ∀ (ds : List Definition) (t : Tables),
    (t.upsertAll ds).1.connectors = t.connectors
  | [], _ => rfl
  | d :: ds, t => by
    cases h : t.upsertDefinition d with
    | ok t' =>
      simp only [upsertAll, h]
      rw [upsertAll_connectors ds t', (upsertDefinition_eq_ok h).1]
    | error e => simp [upsertAll, h]

theorem getDefinitionByUid_eq {uid : Uuid} {r : DefinitionRow} (h : t.definitionRow? uid = some r)
    (view : View) : t.getDefinitionByUid uid view = r.read view := by
  rw [getDefinitionByUid, show t.definitions.find? (·.uid == uid) = some r from h]

end Tables

namespace Registry

theorem definitions_of_build {fs : List Family} {r : Registry} (hfs : ∀ f ∈ fs, f.WellFormed)
    (hb : build fs = .ok r) : r.definitions = r.families.flatMap Family.definitions := by
  have hr := sound_of_build hfs hb
  obtain ⟨-, -, hrfl⟩ := build_eq_ok_iff.1 hb
  have huids : r.uids = r.families.flatMap Family.uids := by rw [hrfl]
  rw [definitions, huids, List.filterMap_flatMap]
  refine List.flatMap_congr fun f hf => ?_
  rw [Family.uids, List.filterMap_map]
  conv_rhs => rw [← List.filterMap_some (l := f.definitions)]
  exact List.filterMap_congr fun d hd => byUid?_eq_some hr.uids hf hd

end Registry

namespace Plane

/-- A definition as the plane stamps it for an upsert: with pinned stamping, a time read from
the clock becomes the fixed definition time. -/
def stamped (p : Plane) (d : Definition) : Definition :=
  let stamp := fun (t : Instant) => match p.stamping with
    | .pinned => if p.clock.isRecent t then Stamping.definitionTime else t
    | .fresh _ => t
  { d with createTime := stamp d.createTime, updateTime := stamp d.updateTime }

/-- The registry's definitions as the plane stamps them, in the order a seed upserts them. -/
def catalog (p : Plane) : List Definition := p.registry.definitions.map p.stamped

variable {p : Plane}

@[simp] theorem stamped_uid (d : Definition) : (p.stamped d).uid = d.uid := rfl

@[simp] theorem stamped_key (d : Definition) : (p.stamped d).key = d.key := rfl

section Catalog

variable {fs : List Family} (hfs : ∀ f ∈ fs, f.WellFormed) (hb : Registry.build fs = .ok p.registry)
include hfs hb

theorem catalog_map {β : Type} (f : Definition → β) (hf : ∀ d, f (p.stamped d) = f d) :
    p.catalog.map f = p.registry.families.flatMap fun fam => fam.definitions.map f := by
  rw [catalog, List.map_map, Registry.definitions_of_build hfs hb, List.map_flatMap,
    show f ∘ p.stamped = f from funext hf]

theorem catalog_uids_nodup : (p.catalog.map (·.uid)).Nodup := by
  rw [catalog_map hfs hb _ stamped_uid]
  exact (Registry.sound_of_build hfs hb).uids

theorem catalog_keys_nodup : (p.catalog.map Definition.key).Nodup := by
  rw [catalog_map hfs hb _ stamped_key]
  exact (Registry.sound_of_build hfs hb).keys

end Catalog

theorem run_upsertDefinition (d : Definition) :
    (upsertDefinition d).run.run p = (write (·.upsertDefinition (p.stamped d))).run.run p := by
  -- past the `get`, the two writes differ only in how the stamping is spelled
  rw [upsertDefinition, run_bind_ok run_get]
  rfl

theorem run_forIn_upserts : ∀ (ds : List Definition) (p : Plane),
    (forIn ds PUnit.unit fun d _ => do
        upsertDefinition d
        pure (ForInStep.yield PUnit.unit) : PlaneM PUnit).run.run p =
      ((p.tables.upsertAll (ds.map p.stamped)).2.elim (.ok PUnit.unit) fun e => .error (.ofStore e),
        { p with tables := (p.tables.upsertAll (ds.map p.stamped)).1 })
  | [], p => rfl
  | d :: ds, p => by
    rw [List.forIn_cons]
    cases h : p.tables.upsertDefinition (p.stamped d) with
    | ok t' =>
      rw [run_bind_ok (by rw [run_bind_ok ((run_upsertDefinition d).trans (run_write_ok h))]; rfl)]
      rw [run_forIn_upserts ds]
      simp [Tables.upsertAll, h]
      rfl
    | error e =>
      rw [run_bind_error (by rw [run_bind_error ((run_upsertDefinition d).trans
        (run_write_error h))])]
      simp [Tables.upsertAll, h]

theorem run_seed : seed.run.run p =
    ((p.tables.upsertAll p.catalog).2.elim (.ok p.registry.definitions.length)
        fun e => .error (.ofStore e),
      { p with tables := (p.tables.upsertAll p.catalog).1 }) := by
  unfold seed
  rw [run_bind_ok run_get]
  have hloop := run_forIn_upserts p.registry.definitions p
  rw [show p.registry.definitions.map p.stamped = p.catalog from rfl] at hloop
  cases h : (p.tables.upsertAll p.catalog).2 with
  | none =>
    rw [h, Option.elim_none] at hloop
    rw [run_bind_ok hloop]
    rfl
  | some e =>
    rw [h, Option.elim_some] at hloop
    rw [run_bind_error hloop]
    rfl

/-- **A seed from a keyed definitions table.** Seeding a built catalog upserts its definitions
in turn, each read back with its row's first creation time, until one is refused because
another uid already holds its (type, id): the seed succeeds exactly when the catalog fits the
table, and a refused seed keeps the upserts made before it. The table stays keyed, so seeds
chain, and the connectors are left as they were. -/
theorem seed_upserts_catalog_until_a_key_is_taken {fs : List Family}
    (hfs : ∀ f ∈ fs, f.WellFormed) (hb : Registry.build fs = .ok p.registry)
    (ht : p.tables.DefinitionsKeyed) :
    (seed.run.run p).2.tables.DefinitionsKeyed ∧
      (seed.run.run p).2.tables.connectors = p.tables.connectors ∧
      ∃ Q R, p.catalog = Q ++ R ∧ p.tables.Upserted Q (seed.run.run p).2.tables ∧
        (∀ d ∈ Q, ∀ view, (seed.run.run p).2.tables.getDefinitionByUid d.uid view =
          (p.tables.upsertedRow d).read view) ∧
        ((R = [] ∧ (seed.run.run p).1 = .ok p.registry.definitions.length ∧
            p.tables.Fits p.catalog) ∨
          (∃ d S, R = d :: S ∧ (seed.run.run p).1 = .error (.ofStore Tables.definitionClash) ∧
            p.tables.Clash Q d ∧ ¬ p.tables.Fits p.catalog)) := by
  obtain ⟨Q, R, hcat, hQ, hkQ, hend⟩ := Tables.upsertAll_upserted ht p.catalog [] p.tables
    (by simpa using catalog_uids_nodup hfs hb) (by simpa using catalog_keys_nodup hfs hb)
    (Tables.upserted_nil _) ht
  rw [run_seed]
  refine ⟨hkQ, Tables.upsertAll_connectors _ _, Q, R, hcat, by simpa using hQ,
    fun d hd view => ?_, ?_⟩
  · exact Tables.getDefinitionByUid_eq
      (Tables.definitionRow?_upserted (by simpa using hQ) hkQ hd) view
  rcases hend with ⟨hR, hnone, hall⟩ | ⟨d, S, hR, hsome, hc⟩
  · -- every upsert went through: no definition of the catalog clashes
    refine .inl ⟨hR, by rw [hnone]; rfl, Tables.fits_iff.2 fun P d S h => ?_⟩
    simpa using hall P d S h
  · -- the upsert of `d` was refused, and its clash is one the catalog cannot fit
    have hc' : p.tables.Clash Q d := by simpa using hc
    refine .inr ⟨d, S, hR, by rw [hsome]; rfl, hc', fun hfit => ?_⟩
    exact Tables.fits_iff.1 hfit Q d S (by rw [hcat, hR]) hc'

/-- Seeding `passwordPlane`'s catalog into its empty store. -/
theorem password_catalog_seeds :
    (∀ f ∈ [passwordFamily], f.WellFormed) ∧
      Registry.build [passwordFamily] = .ok passwordPlane.registry ∧
      passwordPlane.tables.DefinitionsKeyed ∧
      (seed.run.run passwordPlane).2.tables.DefinitionsKeyed ∧
      (seed.run.run passwordPlane).2.tables.connectors = passwordPlane.tables.connectors :=
  have h := seed_upserts_catalog_until_a_key_is_taken passwordFamily_wellFormed
    build_passwordFamily Tables.definitionsKeyed_empty
  ⟨passwordFamily_wellFormed, build_passwordFamily, Tables.definitionsKeyed_empty, h.1, h.2.1⟩

/-- `passwordFamily` with `pg` declared under another uid. -/
def movedFamily : Family :=
  ⟨.destination, [{ passwordDefinition with uid := Uuid.ofNat 8 }], [("pg", ["password"])]⟩

def movedRegistry : Registry := ⟨[movedFamily], [Uuid.ofNat 8]⟩

/-- Both catalogs build, yet after seeding the first, the second is refused: its `pg` is a new
uid whose (type, id) the first seed's row holds. -/
theorem reseed_with_moved_id_is_refused :
    Registry.build [passwordFamily] = .ok passwordPlane.registry ∧
      Registry.build [movedFamily] = .ok movedRegistry ∧
      (seed.run.run { (seed.run.run passwordPlane).2 with registry := movedRegistry }).1 =
        .error (.ofStore Tables.definitionClash) :=
  ⟨build_passwordFamily, Registry.build_eq_ok_iff.2 ⟨by decide, by decide, rfl⟩, rfl⟩

end Plane

end ConnectorPlane
