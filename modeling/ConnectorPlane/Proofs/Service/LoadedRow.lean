import ConnectorPlane.Proofs.Service.Writes

/-! # Where the writes of the services land

`update`, `disconnect` and the check task each read a connector, and then, in a second call to
the store, write the row that holds the read connector's natural key: its id, owner and type
(`Plane.update_writes_loaded`, `Plane.disconnect_writes_loaded`,
`Plane.checkConnector_writes_loaded`). Each call to the store is atomic, but nothing holds the
row between the two calls, and other operations' writes (`Tables.Write`) may land in between.

* `Tables.Write.uniqueKeys`: every write of the store keeps the connectors' keys distinct, as it
  keeps their uids distinct (`Tables.Write.sound`).
* `Tables.updateConnector_touchesOnly`: so a write by key rewrites the one row that holds the key
  when it lands, and nothing when no row does.
* `Tables.WriteSparing.holds`: only a rename or a delete of its key takes a row off its key.
* `writes_land_on_row_holding_loaded_key`: the write of each of the three operations rewrites
  the row that holds the read connector's key when the write lands; that is the read
  connector's own row when no rename or delete of that key lands in between, and always when
  an operation runs alone.
* `write_follows_key_to_new_connector`: a rename of the read connector and a create of another
  under its old id, between the two calls, make the write land on the other connector.
-/

namespace ConnectorPlane

/-- A connector row's natural key: its id, owner and type. -/
def ConnectorRow.naturalKey (r : ConnectorRow) : String × String × ConnectorType :=
  (r.id, r.owner, r.connectorType)

/-- A connector's natural key: its id, owner and type. -/
def Connector.naturalKey (c : Connector) : String × String × ConnectorType :=
  (c.id, c.owner, c.connectorType)

namespace ConnectorRow

@[simp] theorem naturalKey_apply (u : ConnectorUpdate) (now : Instant) (r : ConnectorRow) :
    (r.apply u now).naturalKey = r.naturalKey := rfl

theorem isAt_eq_true_iff {r : ConnectorRow} {id owner : String} {type : ConnectorType} :
    r.isAt id owner type = true ↔ r.naturalKey = (id, owner, type) := by
  simp [isAt, naturalKey, and_assoc]

theorem read_naturalKey {r : ConnectorRow} {view : View} {c : Connector} (h : r.read view = .ok c) :
    c.uid = r.uid ∧ c.naturalKey = r.naturalKey := by
  unfold ConnectorRow.read at h
  split at h <;>
  · obtain ⟨_, -, h⟩ := Listing.bind_eq_ok_iff.1 h
    obtain ⟨_, -, h⟩ := Listing.bind_eq_ok_iff.1 h
    obtain ⟨_, -, h⟩ := Listing.bind_eq_ok_iff.1 h
    cases h
    exact ⟨rfl, rfl⟩

end ConnectorRow

namespace Tables

/-- No owner has two connectors of one type under one id. -/
def UniqueKeys (t : Tables) : Prop := (t.connectors.map ConnectorRow.naturalKey).Nodup

/-- The tables still keep the row of `c`'s uid under `c`'s natural key. -/
def Holds (t : Tables) (c : Connector) : Prop :=
  ∃ r ∈ t.connectors, r.uid = c.uid ∧ r.naturalKey = c.naturalKey

/-- `t'` is `t` with at most the connector row of `uid` rewritten. -/
def TouchesOnly (t t' : Tables) (uid : Uuid) : Prop :=
  t'.definitions = t.definitions ∧
    ∃ f : ConnectorRow → ConnectorRow, t'.connectors = t.connectors.map fun r =>
      if r.uid = uid then f r else r

variable {t t' : Tables}

/-! ## Reading a connector -/

theorem findConnector_eq_ok {p : ConnectorRow → Bool} {what : String} {view : View}
    {c : Connector} (h : t.findConnector p what view = .ok c) :
    ∃ r ∈ t.connectors, p r = true ∧ r.read view = .ok c := by
  unfold findConnector at h
  split at h
  · rename_i r hr
    exact ⟨r, List.mem_of_find?_eq_some hr, List.find?_some hr, h⟩
  · cases h

theorem getConnectorById_holds {id owner : String} {type : ConnectorType} {view : View}
    {c : Connector} (h : t.getConnectorById id owner type view = .ok c) :
    t.Holds c ∧ c.naturalKey = (id, owner, type) := by
  obtain ⟨r, hr, hat, hread⟩ := findConnector_eq_ok h
  obtain ⟨huid, hkey₀⟩ := ConnectorRow.read_naturalKey hread
  exact ⟨⟨r, hr, huid.symm, hkey₀.symm⟩, hkey₀.trans (ConnectorRow.isAt_eq_true_iff.1 hat)⟩

theorem lookupConnector_holds {uid : Uuid} {owner : String} {view : View} {c : Connector}
    (h : t.lookupConnector uid owner view = .ok c) :
    t.Holds c ∧ c.uid = uid ∧ c.owner = owner := by
  obtain ⟨r, hr, hat, hread⟩ := findConnector_eq_ok h
  obtain ⟨huid, hkey₀⟩ := ConnectorRow.read_naturalKey hread
  simp only [Bool.and_eq_true, beq_iff_eq] at hat
  have howner : c.owner = r.owner := by
    simp only [Connector.naturalKey, ConnectorRow.naturalKey, Prod.mk.injEq] at hkey₀
    exact hkey₀.2.1
  exact ⟨⟨r, hr, huid.symm, hkey₀.symm⟩, huid.trans hat.1, howner.trans hat.2⟩

/-! ## Every write keeps the keys distinct -/

theorem updateConnector_naturalKeys (id owner : String) (type : ConnectorType) (u : ConnectorUpdate)
    (now : Instant) :
    (t.updateConnector id owner type u now).connectors.map ConnectorRow.naturalKey =
      t.connectors.map ConnectorRow.naturalKey := by
  simp only [updateConnector, List.map_map]
  refine List.map_congr_left fun r _ => ?_
  simp only [Function.comp_apply]
  split <;> rfl

theorem createConnector_naturalKey_fresh {c : Connector} (h : t.createConnector c = .ok t') :
    c.toRow.naturalKey ∉ t.connectors.map ConnectorRow.naturalKey := by
  dsimp only [createConnector] at h
  split at h
  · cases h
  · rename_i hno
    intro hmem
    obtain ⟨r, hr, he⟩ := List.mem_map.1 hmem
    exact hno (List.any_eq_true.2 ⟨r, hr, ConnectorRow.isAt_eq_true_iff.2 he⟩)

theorem createConnector_uniqueKeys {c : Connector} (h : t.createConnector c = .ok t')
    (hn : t.UniqueKeys) : t'.UniqueKeys := by
  obtain ⟨-, hc, -⟩ := createConnector_eq_ok h
  unfold UniqueKeys
  rw [hc, List.map_append, List.map_singleton, List.nodup_append]
  exact ⟨hn, List.nodup_singleton _, fun a ha b hb => by
    rw [List.mem_singleton.1 hb]
    exact fun he => createConnector_naturalKey_fresh h (he ▸ ha)⟩

theorem renameConnector_uniqueKeys {id owner : String} {type : ConnectorType} {newId : String}
    {now : Instant} (huids : (t.connectors.map (·.uid)).Nodup) (hn : t.UniqueKeys)
    (h : t.renameConnector id owner type newId now = .ok t') : t'.UniqueKeys := by
  unfold renameConnector at h
  split at h
  · cases h
    exact hn
  · rename_i found hfound
    split at h
    · cases h
    · rename_i hfree
      cases h
      have hfound_mem := List.mem_of_find?_eq_some hfound
      have hfound_at := ConnectorRow.isAt_eq_true_iff.1 (List.find?_some hfound)
      -- a row of another uid never holds the renamed row's new key
      have hclash : ∀ y ∈ t.connectors, y.uid ≠ found.uid →
          y.naturalKey ≠ (newId, found.owner, found.connectorType) := by
        intro y hy hne he
        have hat : y.naturalKey = (newId, owner, type) := by
          simp only [ConnectorRow.naturalKey, Prod.mk.injEq] at hfound_at he ⊢
          exact ⟨he.1, he.2.1.trans hfound_at.2.1, he.2.2.trans hfound_at.2.2⟩
        exact hfree (List.any_eq_true.2 ⟨y, hy, by
          simp [hne, ConnectorRow.isAt_eq_true_iff.2 hat]⟩)
      have hsame : ∀ x ∈ t.connectors, x.uid = found.uid → x = found := fun x hx he =>
        List.inj_on_of_nodup_map huids hx hfound_mem he
      have hkey : ∀ r : ConnectorRow,
          (if r.uid == found.uid then { r with id := newId, updateTime := now.text }
            else r).naturalKey =
            if r.uid = found.uid then (newId, r.owner, r.connectorType) else r.naturalKey := by
        intro r
        by_cases h : r.uid = found.uid <;> simp [h, ConnectorRow.naturalKey]
      unfold UniqueKeys
      rw [List.map_map]
      refine (List.Nodup.of_map _ huids).map_on fun x hx y hy hxy => ?_
      simp only [Function.comp_apply, hkey] at hxy
      by_cases hx' : x.uid = found.uid <;> by_cases hy' : y.uid = found.uid
      · exact (hsame x hx hx').trans (hsame y hy hy').symm
      · rw [if_pos hx', if_neg hy', hsame x hx hx'] at hxy
        exact absurd hxy.symm (hclash y hy hy')
      · rw [if_neg hx', if_pos hy', hsame y hy hy'] at hxy
        exact absurd hxy (hclash x hx hx')
      · rw [if_neg hx', if_neg hy'] at hxy
        exact List.inj_on_of_nodup_map hn hx hy hxy

/-- **Every write keeps the keys distinct.** -/
theorem Write.uniqueKeys (hw : Write t t') (hs : t.Sound) (hn : t.UniqueKeys) :
    t'.UniqueKeys := by
  cases hw with
  | upsertDefinition d h =>
    unfold UniqueKeys
    rw [(upsertDefinition_eq_ok h).1]
    exact hn
  | createConnector c h => exact createConnector_uniqueKeys h hn
  | updateConnector id owner type u now =>
    unfold UniqueKeys
    rw [updateConnector_naturalKeys]
    exact hn
  | renameConnector id owner type newId now h =>
    exact renameConnector_uniqueKeys hs.connectors.uids_nodup hn h
  | deleteConnector id owner type h =>
    exact hn.sublist ((deleteConnector_eq_ok h).2.map _)

theorem Write.run_sound {t t' : Tables} (hrun : Relation.ReflTransGen Write t t')
    (hs : t.Sound) (hn : t.UniqueKeys) : t'.Sound ∧ t'.UniqueKeys := by
  induction hrun with
  | refl => exact ⟨hs, hn⟩
  | tail _ hw ih => exact ⟨hw.sound ih.1, hw.uniqueKeys ih.1 ih.2⟩

/-! ## A write by key -/

/-- **A write by key** rewrites only the row that holds the key, when one does. -/
theorem updateConnector_touchesOnly {id owner : String} {type : ConnectorType}
    {r₀ : ConnectorRow} (u : ConnectorUpdate) (now : Instant) (hs : t.Sound)
    (hn : t.UniqueKeys) (hr₀ : r₀ ∈ t.connectors) (hkey₀ : r₀.naturalKey = (id, owner, type)) :
    t.TouchesOnly (t.updateConnector id owner type u now) r₀.uid := by
  refine ⟨rfl, fun r => r.apply u now, List.map_congr_left fun r hr => ?_⟩
  -- among rows with distinct keys and uids, holding the key is having `r₀`'s uid
  have hiff : r.isAt id owner type = true ↔ r.uid = r₀.uid := by
    rw [ConnectorRow.isAt_eq_true_iff]
    constructor
    · intro h
      rw [List.inj_on_of_nodup_map hn hr hr₀ (h.trans hkey₀.symm)]
    · intro h
      rw [List.inj_on_of_nodup_map hs.connectors.uids_nodup hr hr₀ h, hkey₀]
  by_cases h : r.uid = r₀.uid
  · simp [h, hiff.2 h]
  · simp [h, mt hiff.1 h]

theorem updateConnector_of_not_held {id owner : String} {type : ConnectorType}
    (u : ConnectorUpdate) (now : Instant)
    (h : ∀ r ∈ t.connectors, r.naturalKey ≠ (id, owner, type)) :
    t.updateConnector id owner type u now = t := by
  unfold updateConnector
  rw [List.map_congr_left fun r hr => if_neg (mt ConnectorRow.isAt_eq_true_iff.1 (h r hr)),
    List.map_id']

theorem touchesOnly_of_holds {c : Connector} {id owner : String} {type : ConnectorType}
    (u : ConnectorUpdate) (now : Instant) (hs : t.Sound) (hn : t.UniqueKeys) (hh : t.Holds c)
    (hkey : c.naturalKey = (id, owner, type)) :
    t.TouchesOnly (t.updateConnector id owner type u now) c.uid := by
  obtain ⟨r, hr, huid, hrkey⟩ := hh
  rw [← huid]
  exact updateConnector_touchesOnly u now hs hn hr (hrkey.trans hkey)

theorem holds_of_read {c : Connector}
    (h : (∃ id owner type view, t.getConnectorById id owner type view = .ok c) ∨
      ∃ uid owner view, t.lookupConnector uid owner view = .ok c) : t.Holds c := by
  rcases h with ⟨_, _, _, _, h⟩ | ⟨_, _, _, h⟩
  · exact (getConnectorById_holds h).1
  · exact (lookupConnector_holds h).1

/-! ## Writes that spare a key -/

/-- A write of the store that is neither a rename nor a delete of the connector of `key`. -/
def WriteSparing (key : String × String × ConnectorType) (t t' : Tables) : Prop :=
  Write t t' ∧ (∀ newId now, t.renameConnector key.1 key.2.1 key.2.2 newId now ≠ .ok t') ∧
    t.deleteConnector key.1 key.2.1 key.2.2 ≠ .ok t'

/-- Only a rename or a delete of its key takes a row off its key: every other write keeps the
row of `c`'s uid under `c`'s key. -/
theorem WriteSparing.holds {c : Connector} (hw : WriteSparing c.naturalKey t t') (hs : t.Sound)
    (hh : t.Holds c) : t'.Holds c := by
  obtain ⟨hw, hrename, hdelete⟩ := hw
  obtain ⟨r, hr, huid, hkey⟩ := hh
  cases hw with
  | upsertDefinition d h => exact ⟨r, (upsertDefinition_eq_ok h).1 ▸ hr, huid, hkey⟩
  | createConnector c' h =>
    exact ⟨r, (createConnector_eq_ok h).2.1 ▸ List.mem_append_left _ hr, huid, hkey⟩
  | updateConnector id owner type u now =>
    refine ⟨if r.isAt id owner type then r.apply u now else r, List.mem_map_of_mem hr, ?_, ?_⟩
    · split <;> exact huid
    · split <;> exact hkey
  | renameConnector id owner type newId now h =>
    have hk : (id, owner, type) ≠ c.naturalKey := fun hk => by
      simp only [Connector.naturalKey, Prod.mk.injEq] at hk
      obtain ⟨rfl, rfl, rfl⟩ := hk
      exact hrename newId now h
    unfold renameConnector at h
    split at h
    · cases h
      exact ⟨r, hr, huid, hkey⟩
    · rename_i found hfound
      split at h
      · cases h
      · cases h
        have hne : r.uid ≠ found.uid := fun he => by
          have hrf := List.inj_on_of_nodup_map hs.connectors.uids_nodup hr
            (List.mem_of_find?_eq_some hfound) he
          have hat := ConnectorRow.isAt_eq_true_iff.1 (List.find?_some hfound)
          exact hk (hat.symm.trans (hrf ▸ hkey))
        refine ⟨r, List.mem_map.2 ⟨r, hr, ?_⟩, huid, hkey⟩
        simp [hne]
  | deleteConnector id owner type h =>
    have hk : (id, owner, type) ≠ c.naturalKey := fun hk => by
      simp only [Connector.naturalKey, Prod.mk.injEq] at hk
      obtain ⟨rfl, rfl, rfl⟩ := hk
      exact hdelete h
    unfold deleteConnector at h
    split at h
    · cases h
      refine ⟨r, List.mem_filter.2 ⟨hr, ?_⟩, huid, hkey⟩
      rw [Bool.not_eq_true', Bool.eq_false_iff]
      exact fun hat => hk ((ConnectorRow.isAt_eq_true_iff.1 hat).symm.trans hkey)
    · cases h

theorem WriteSparing.run_holds {c : Connector}
    (hrun : Relation.ReflTransGen (WriteSparing c.naturalKey) t t') (hs : t.Sound)
    (hn : t.UniqueKeys) (hh : t.Holds c) : t'.Sound ∧ t'.UniqueKeys ∧ t'.Holds c := by
  induction hrun with
  | refl => exact ⟨hs, hn, hh⟩
  | tail _ hw ih =>
    exact ⟨hw.1.sound ih.1, hw.1.uniqueKeys ih.1 ih.2.1, hw.holds ih.1 ih.2.2⟩

/-- A create spares every key: it adds a row, where a rename keeps the number of rows and a
delete does not add one. -/
theorem writeSparing_of_createConnector {c : Connector} (key : String × String × ConnectorType)
    (h : t.createConnector c = .ok t') :
    WriteSparing key t t' := by
  have hlen : t'.connectors.length = t.connectors.length + 1 := by
    rw [(createConnector_eq_ok h).2.1, List.length_append, List.length_singleton]
  refine ⟨.createConnector c h, fun newId now hr => ?_, fun hd => ?_⟩
  · have := congrArg List.length (renameConnector_eq_ok hr).2
    simp only [List.length_map] at this
    omega
  · have := (deleteConnector_eq_ok hd).2.length_le
    omega

end Tables

/-! ## The writes of the services -/

/-- **Where the writes land.** Between reading a connector `c`, by its id or by its uid, and
writing the row of its key, any writes of the store may land. The tables stay sound, with
distinct keys; the write rewrites only the row that holds `c`'s key when the write lands, and
nothing when no row does; and it rewrites only `c`'s own row when the writes in between neither
renamed nor deleted the connector of that key. Run alone, every run of `update`, `disconnect`
and the check task from sound tables with distinct keys leaves the tables as they were or
rewrites only the row of the connector it read. -/
theorem writes_land_on_row_holding_loaded_key :
    (∀ (t t' : Tables) (c : Connector) (u : ConnectorUpdate) (now : Instant),
      t.Sound → t.UniqueKeys →
      ((∃ id owner type view, t.getConnectorById id owner type view = .ok c) ∨
        ∃ uid owner view, t.lookupConnector uid owner view = .ok c) →
      Relation.ReflTransGen Tables.Write t t' →
      t'.Sound ∧ t'.UniqueKeys ∧
      (∀ r₀ ∈ t'.connectors, r₀.naturalKey = c.naturalKey →
        t'.TouchesOnly (t'.updateConnector c.id c.owner c.connectorType u now) r₀.uid) ∧
      ((∀ r ∈ t'.connectors, r.naturalKey ≠ c.naturalKey) →
        t'.updateConnector c.id c.owner c.connectorType u now = t')) ∧
    (∀ (t t' : Tables) (c : Connector) (u : ConnectorUpdate) (now : Instant),
      t.Sound → t.UniqueKeys →
      ((∃ id owner type view, t.getConnectorById id owner type view = .ok c) ∨
        ∃ uid owner view, t.lookupConnector uid owner view = .ok c) →
      Relation.ReflTransGen (Tables.WriteSparing c.naturalKey) t t' →
      t'.TouchesOnly (t'.updateConnector c.id c.owner c.connectorType u now) c.uid) ∧
    (∀ (p : Plane) (owner : Owner) (type : ConnectorType) (name : String)
        (description : Option String) (configuration : Option Json),
      p.tables.Sound → p.tables.UniqueKeys →
      ((Plane.update owner type name description configuration).run.run p).2.tables = p.tables ∨
        ∃ id c, Names.connectorId name = .ok id ∧
          p.tables.getConnectorById id owner.permalink type .full = .ok c ∧
          p.tables.TouchesOnly
            ((Plane.update owner type name description configuration).run.run p).2.tables c.uid) ∧
    (∀ (p : Plane) (owner : Owner) (type : ConnectorType) (name : String),
      p.tables.Sound → p.tables.UniqueKeys →
      ((Plane.disconnect owner type name).run.run p).2.tables = p.tables ∨
        ∃ id c, Names.connectorId name = .ok id ∧
          p.tables.getConnectorById id owner.permalink type .basic = .ok c ∧
          p.tables.TouchesOnly ((Plane.disconnect owner type name).run.run p).2.tables c.uid) ∧
    (∀ (p : Plane) (ownerPermalink connectorPermalink : String),
      p.tables.Sound → p.tables.UniqueKeys →
      ((Plane.checkConnector ownerPermalink connectorPermalink).run.run p).2.tables = p.tables ∨
        ∃ uid c, Names.uid connectorPermalink = .ok uid ∧
          p.tables.lookupConnector uid ownerPermalink .full = .ok c ∧
          p.tables.TouchesOnly
            ((Plane.checkConnector ownerPermalink connectorPermalink).run.run p).2.tables c.uid) := by
  refine ⟨?interleaved, ?sparing, ?update, ?disconnect, ?check⟩
  case interleaved =>
    intro t t' c u now hs hn _ hrun
    obtain ⟨hs', hn'⟩ := Tables.Write.run_sound hrun hs hn
    exact ⟨hs', hn', fun r₀ hr₀ hkey => Tables.updateConnector_touchesOnly u now hs' hn' hr₀ hkey,
      fun hnone => Tables.updateConnector_of_not_held u now hnone⟩
  case sparing =>
    intro t t' c u now hs hn hread hrun
    obtain ⟨hs', hn', hh⟩ := Tables.WriteSparing.run_holds hrun hs hn (Tables.holds_of_read hread)
    exact Tables.touchesOnly_of_holds u now hs' hn' hh rfl
  case update =>
    intro p owner type name description configuration hs hn
    obtain h | ⟨id, e, u, hid, hload, h⟩ :=
      @Plane.update_writes_loaded p owner type name description configuration
    · exact .inl h
    · obtain ⟨hh, hkey⟩ := Tables.getConnectorById_holds hload
      refine .inr ⟨id, e, hid, hload, ?_⟩
      rw [h]
      exact Tables.touchesOnly_of_holds u _ hs hn hh hkey
  case disconnect =>
    intro p owner type name hs hn
    obtain h | ⟨id, e, hid, hload, h⟩ :=
      @Plane.disconnect_writes_loaded p owner type name
    · exact .inl h
    · obtain ⟨hh, hkey⟩ := Tables.getConnectorById_holds hload
      refine .inr ⟨id, e, hid, hload, ?_⟩
      rw [h]
      exact Tables.touchesOnly_of_holds _ _ hs hn hh hkey
  case check =>
    intro p ownerPermalink connectorPermalink hs hn
    obtain h | ⟨uid, c, st, huid, hload, h⟩ :=
      @Plane.checkConnector_writes_loaded p ownerPermalink connectorPermalink
    · exact .inl h
    · obtain ⟨hh, -, howner⟩ := Tables.lookupConnector_holds hload
      have hkey : c.naturalKey = (c.id, ownerPermalink, c.connectorType) := by
        rw [Connector.naturalKey, howner]
      refine .inr ⟨uid, c, huid, hload, ?_⟩
      rw [h]
      exact Tables.touchesOnly_of_holds _ _ hs hn hh hkey

/-- The only connector of `storedTables`, under `users/x`, destination `a`. -/
def storedTables : Tables := ⟨[], [storedConnector.toRow]⟩

/-- Another connector of `users/x`, destination `z`. -/
def otherConnector : Connector :=
  { storedConnector with uid := Uuid.ofNat 0x33333333333343338333333333333333, id := "z" }

/-- A connector created under `storedTables`' key while the read connector sits elsewhere: written
the next day, destination `a` again. -/
def newcomer : Connector :=
  { storedConnector with uid := Uuid.ofNat 0x33333333333343338333333333333333,
                         createTime := Instant.ofParts 19724 0 0,
                         updateTime := Instant.ofParts 19724 0 0 }

theorem storedTables_sound : storedTables.Sound ∧ storedTables.UniqueKeys := by
  have hcreate : ({} : Tables).createConnector storedConnector = .ok storedTables := rfl
  have hw := Tables.Write.createConnector storedConnector hcreate
  exact ⟨hw.sound Tables.sound_empty, hw.uniqueKeys Tables.sound_empty List.nodup_nil⟩

theorem storedTables_read :
    storedTables.getConnectorById "a" "users/x" .destination .basic =
      .ok (storedConnector.inView .basic) := by
  have hcreate : ({} : Tables).createConnector storedConnector = .ok storedTables := rfl
  have hjson : Json.read (Json.obj [("k", .num (.int 1))]).compact =
      .ok (.obj [("k", .num (.int 1))]) := by
    with_unfolding_all rfl
  have hr : (Instant.ofParts 19723 0 0).InRange := by decide
  rw [Tables.getConnectorById, Tables.findConnector_createConnector hcreate (by decide)
    (by simp) _ _]
  exact (Connector.read_toRow rfl hjson .basic _).2 ⟨rfl, hr, hr⟩

/-- `storedTables` with `otherConnector` created. -/
def storedAndOther : Tables := ⟨[], [storedConnector.toRow, otherConnector.toRow]⟩

/-- A connector read by key, then another created elsewhere, before a write by the read key:
the write rewrites only the read connector's row. -/
theorem loaded_row_kept_past_other_create :
    storedTables.Sound ∧ storedTables.UniqueKeys ∧
    storedTables.getConnectorById "a" "users/x" .destination .basic =
      .ok (storedConnector.inView .basic) ∧
    storedTables.createConnector otherConnector = .ok storedAndOther ∧
    storedAndOther.TouchesOnly
      (storedAndOther.updateConnector "a" "users/x" .destination { state := some .connected }
        (Instant.ofParts 19724 0 0)) storedConnector.uid := by
  have hcreate : storedTables.createConnector otherConnector = .ok storedAndOther := rfl
  have hrun : Relation.ReflTransGen (Tables.WriteSparing (storedConnector.inView .basic).naturalKey)
      storedTables storedAndOther :=
    .single (Tables.writeSparing_of_createConnector _ hcreate)
  exact ⟨storedTables_sound.1, storedTables_sound.2, storedTables_read, hcreate,
    writes_land_on_row_holding_loaded_key.2.1 _ _ (storedConnector.inView .basic)
      { state := some .connected } (Instant.ofParts 19724 0 0) storedTables_sound.1
          storedTables_sound.2
      (.inl ⟨_, _, _, _, storedTables_read⟩) hrun⟩

/-- `storedTables` with its connector renamed from `a` to `b` one hour later. -/
def renamedTables : Tables :=
  ⟨[], [{ storedConnector.toRow with
    id := "b", updateTime := (Instant.ofParts 19723 3600 0).text }]⟩

/-- `renamedTables` with `newcomer` created under `a`. -/
def retakenTables : Tables := ⟨[], renamedTables.connectors ++ [newcomer.toRow]⟩

/-- A connector read by key `a`, renamed to `b`, and a new connector created under `a`, before
the write by `a`: the write sets the state of the new connector, of another uid. -/
theorem write_follows_key_to_new_connector :
    storedTables.getConnectorById "a" "users/x" .destination .basic =
      .ok (storedConnector.inView .basic) ∧
    storedTables.renameConnector "a" "users/x" .destination "b" (Instant.ofParts 19723 3600 0) =
      .ok renamedTables ∧
    renamedTables.createConnector newcomer = .ok retakenTables ∧
    ¬ retakenTables.TouchesOnly
      (retakenTables.updateConnector "a" "users/x" .destination { state := some .connected }
        (Instant.ofParts 19724 3600 0)) storedConnector.uid := by
  refine ⟨storedTables_read, rfl, rfl, ?_⟩
  rintro ⟨-, f, hf⟩
  have hlast : (retakenTables.updateConnector "a" "users/x" .destination
      { state := some .connected } (Instant.ofParts 19724 3600 0)).connectors.getLast? =
      some (newcomer.toRow.apply { state := some .connected } (Instant.ofParts 19724 3600 0)) := by
    simp [retakenTables, renamedTables, Tables.updateConnector, ConnectorRow.isAt, newcomer,
      storedConnector, Connector.toRow]
  rw [hf, List.getLast?_map] at hlast
  have hne : newcomer.toRow.uid ≠ storedConnector.uid := by decide
  simp only [retakenTables, List.getLast?_append, List.getLast?_singleton, Option.some_or,
    Option.map_some, hne, if_false, Option.some.injEq] at hlast
  exact absurd (congrArg ConnectorRow.state hlast) (by decide)

end ConnectorPlane
