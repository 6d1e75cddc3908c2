import ConnectorPlane.Proofs.Catalog.Families
import ConnectorPlane.Proofs.Json.KeptSecrets
import ConnectorPlane.Proofs.Listing.Store

/-! # Credential fields of catalog definitions

A definition's credential paths are the ones its catalog entry lists and the ones its
specification marks. A specification marks the path `n₁.n₂.….nₖ` (`k ≥ 1`) when its
`connection_specification.properties.n₁.properties.n₂.….properties.nₖ` exists and holds
`credential_field` or `airbyte_secret` equal to the JSON `true` (`Catalog.SpecMarks`); the
properties on the way need no flag of their own.

* `Catalog.mem_schemaPaths_iff`: the walk of a schema whose objects list each key once finds
  exactly the marked chains below it, at any depth.
* `TomlValue.canonical_toJson`: a specification read from TOML is such a schema.
* `Family.credentialFields_addEntries`: adding entries gives each entry's id its listed paths and
  the paths its specification marks, and leaves every other id as it was.
* `Family.credential_fields_of_catalog`: so for a family read from catalog text, an entry's
  id has exactly those credential paths, and an id the family does not define has none.
-/

namespace ConnectorPlane

namespace Catalog

/-- The property reached from a schema by a chain of names: the schema itself for no name,
otherwise the named member of its `properties` object, and so on down. -/
def propertyAt : Json → List String → Option Json
  | schema, [] => some schema
  | schema, n :: ns => ((schema.get? "properties").bind (·.get? n)).bind (propertyAt · ns)

/-- A property flagged as a credential: `credential_field` or `airbyte_secret` is `true`. -/
def Flagged (prop : Json) : Prop :=
  prop.get? "credential_field" = some (.bool true) ∨ prop.get? "airbyte_secret" = some (.bool true)

/-- A path a specification marks: names `n₁ … nₖ`, `k ≥ 1`, joined by dots, whose property
under `connection_specification` is flagged. -/
def SpecMarks (spec : Json) (path : String) : Prop :=
  ∃ ns, ns ≠ [] ∧ path = ".".intercalate ns ∧
    ∃ q, (spec.get? "connection_specification").bind (propertyAt · ns) = some q ∧ Flagged q

/-! ## Flags -/

theorem beq_bool_true_iff {v : Json} : (v == .bool true) = true ↔ v = .bool true := by
  cases v with
  | bool b => cases b <;> simp [BEq.beq, Json.beq]
  | _ => simp [BEq.beq, Json.beq]

theorem beq_some_bool_true_iff {o : Option Json} :
    (o == some (.bool true)) = true ↔ o = some (.bool true) := by
  cases o with
  | none => simp
  | some v => simpa using beq_bool_true_iff

theorem isMarked_iff {prop : Json} : isMarked prop = true ↔ Flagged prop := by
  simp [isMarked, Flagged, beq_some_bool_true_iff]

/-! ## The walk of a schema -/

@[simp] theorem propertyAt_nil (schema : Json) : propertyAt schema [] = some schema := rfl

theorem propertyAt_cons (schema : Json) (n : String) (ns : List String) :
    propertyAt schema (n :: ns) =
      ((schema.get? "properties").bind (·.get? n)).bind (propertyAt · ns) := rfl

theorem memberPaths_eq (pre : String) : ∀ fs : List (String × Json),
    memberPaths pre fs = ((Json.Fields.get? fs "properties").map (propertyPaths pre)).getD []
  | [] => rfl
  | (k, v) :: rest => by
    rw [memberPaths.eq_2, Json.Fields.get?_cons]
    by_cases hk : k = "properties"
    · simp [hk]
    · simp [hk, memberPaths_eq pre rest]

theorem mem_propertyListPaths_iff {pre path : String} : ∀ {ps : List (String × Json)},
    path ∈ propertyListPaths pre ps ↔
      ∃ m ∈ ps, (path = pre ++ m.1 ∧ Flagged m.2) ∨ path ∈ schemaPaths (pre ++ m.1 ++ ".") m.2
  | [] => by simp [propertyListPaths]
  | (k, v) :: rest => by
    rw [propertyListPaths.eq_2, List.mem_append, List.mem_append, mem_propertyListPaths_iff]
    by_cases hm : isMarked v = true
    · simp [hm, isMarked_iff.1 hm, or_assoc]
    · simp [hm, mt isMarked_iff.2 hm]

theorem get?_eq_some_of_mem {ps : List (String × Json)} (hs : Json.Fields.Sorted ps) {n : String}
    {prop : Json} (hm : (n, prop) ∈ ps) : Json.Fields.get? ps n = some prop := by
  have hin : (n, prop) ∈ ps.filter (·.1 == n) := List.mem_filter.2 ⟨hm, by simp⟩
  rcases Json.Fields.filter_key_of_sorted hs n with ⟨-, hnil⟩ | ⟨v, hv, hone⟩
  · rw [hnil] at hin
    simp at hin
  · rw [hone, List.mem_singleton, Prod.mk.injEq] at hin
    rw [hv, hin.2]

/-- A chain of names below a `properties` object listing each name once: a first name with its
property, and the rest of the chain below that property. -/
theorem propertyAt_properties {fs ps : List (String × Json)}
    (hp : Json.Fields.get? fs "properties" = some (.obj ps)) (hs : Json.Fields.Sorted ps)
    {n : String} {ns : List String} {q : Json} :
    propertyAt (.obj fs) (n :: ns) = some q ↔ ∃ prop, (n, prop) ∈ ps ∧ propertyAt prop ns = some q := by
  rw [propertyAt_cons]
  simp only [Json.get?, hp, Option.bind_some]
  constructor
  · intro h
    obtain ⟨prop, hprop, hq⟩ := Option.bind_eq_some_iff.1 h
    exact ⟨prop, Json.Fields.mem_of_get?_eq_some hprop, hq⟩
  · rintro ⟨prop, hm, hq⟩
    rw [get?_eq_some_of_mem hs hm, Option.bind_some, hq]

theorem propertyAt_cons_eq_none {s : Json}
    (h : ∀ ps, s.get? "properties" ≠ some (.obj ps)) (n : String) (ns : List String) :
    propertyAt s (n :: ns) = none := by
  rw [propertyAt_cons]
  cases hp : s.get? "properties" with
  | none => rfl
  | some v =>
    cases v with
    | obj ps => exact absurd hp (h ps)
    | _ => rfl

theorem intercalate_cons (n : String) (ns : List String) :
    ".".intercalate (n :: ns) = if ns = [] then n else n ++ "." ++ ".".intercalate ns := by
  split
  · rename_i h
    rw [h, String.intercalate_singleton]
  · rename_i h
    rw [String.intercalate_cons_of_ne_nil h]

theorem exists_chain_cons {pre n path : String} {prop : Json}
    (ih : path ∈ schemaPaths (pre ++ n ++ ".") prop ↔ ∃ ns, ns ≠ [] ∧
      path = pre ++ n ++ "." ++ ".".intercalate ns ∧ ∃ q, propertyAt prop ns = some q ∧ Flagged q) :
    ((path = pre ++ n ∧ Flagged prop) ∨ path ∈ schemaPaths (pre ++ n ++ ".") prop) ↔
      ∃ ns, path = pre ++ ".".intercalate (n :: ns) ∧ ∃ q, propertyAt prop ns = some q ∧ Flagged q := by
  rw [ih]
  constructor
  · rintro (⟨rfl, hf⟩ | ⟨ns, hne, rfl, hq⟩)
    · exact ⟨[], by simp, prop, rfl, hf⟩
    · exact ⟨ns, by rw [intercalate_cons, if_neg hne]; simp [String.append_assoc], hq⟩
  · rintro ⟨ns, rfl, q, hq, hf⟩
    by_cases hne : ns = []
    · subst hne
      cases hq
      exact .inl ⟨by simp, hf⟩
    · exact .inr ⟨ns, hne, by rw [intercalate_cons, if_neg hne]; simp [String.append_assoc],
        q, hq, hf⟩

/-- The chains below a schema start with a name of its `properties` object: a schema without
one has none. -/
theorem no_chain_of_no_properties {s : Json} (h : ∀ ps, s.get? "properties" ≠ some (.obj ps))
    (pre path : String) :
    ¬ ∃ ns, ns ≠ [] ∧ path = pre ++ ".".intercalate ns ∧ ∃ q, propertyAt s ns = some q ∧ Flagged q := by
  rintro ⟨ns, hne, -, q, hq, -⟩
  obtain ⟨n, ns, rfl⟩ := List.exists_cons_of_ne_nil hne
  rw [propertyAt_cons_eq_none h] at hq
  cases hq

/-- **The walk of a schema finds exactly its marked chains**: in a schema whose objects list
each key once, the paths the walk under the prefix `pre` collects are `pre` followed by the
chains `n₁.….nₖ` of the flagged properties `properties.n₁.….properties.nₖ`, at any depth. -/
theorem mem_schemaPaths_iff (s : Json) (hs : Json.Canonical s) (pre path : String) :
    path ∈ schemaPaths pre s ↔ ∃ ns, ns ≠ [] ∧ path = pre ++ ".".intercalate ns ∧
      ∃ q, propertyAt s ns = some q ∧ Flagged q := by
  -- strong induction on the size: a property lies two levels below its schema
  induction hsize : sizeOf s using Nat.strong_induction_on generalizing s pre with
  | _ size ih =>
  cases s with
  | obj fs =>
    rw [schemaPaths.eq_1, memberPaths_eq]
    cases hp : Json.Fields.get? fs "properties" with
    | none =>
      simp only [Option.map_none, Option.getD_none, List.not_mem_nil, false_iff]
      exact no_chain_of_no_properties (fun ps h => by simp [Json.get?, hp] at h) pre path
    | some v =>
      cases v with
      | obj ps =>
        obtain ⟨-, hmem⟩ := Json.canonical_obj_iff.1 hs
        obtain ⟨hps, hmems⟩ := Json.canonical_obj_iff.1 (hmem _ (Json.Fields.mem_of_get?_eq_some hp))
        simp only [Option.map_some, Option.getD_some, propertyPaths, mem_propertyListPaths_iff]
        have hlt : ∀ m ∈ ps, sizeOf m.2 < size := by
          rintro ⟨n, prop⟩ hm
          have h1 := List.sizeOf_lt_of_mem (Json.Fields.mem_of_get?_eq_some hp)
          have h2 := List.sizeOf_lt_of_mem hm
          simp only [Prod.mk.sizeOf_spec, Json.obj.sizeOf_spec] at h1 h2 hsize ⊢
          omega
        constructor
        · rintro ⟨⟨n, prop⟩, hm, h⟩
          obtain ⟨ns, rfl, hq⟩ :=
            (exists_chain_cons (ih _ (hlt _ hm) prop (hmems _ hm) _ rfl)).1 h
          obtain ⟨q, hq, hf⟩ := hq
          exact ⟨n :: ns, by simp, rfl, q, (propertyAt_properties hp hps).2 ⟨prop, hm, hq⟩, hf⟩
        · rintro ⟨ns, hne, rfl, q, hq, hf⟩
          obtain ⟨n, ns, rfl⟩ := List.exists_cons_of_ne_nil hne
          obtain ⟨prop, hm, hq⟩ := (propertyAt_properties hp hps).1 hq
          exact ⟨(n, prop), hm,
            (exists_chain_cons (ih _ (hlt _ hm) prop (hmems _ hm) _ rfl)).2 ⟨ns, rfl, q, hq, hf⟩⟩
      | _ =>
        simp only [Option.map_some, Option.getD_some, propertyPaths, List.not_mem_nil, false_iff]
        exact no_chain_of_no_properties (fun ps h => by simp [Json.get?, hp] at h) pre path
  | _ =>
    simp only [schemaPaths, List.not_mem_nil, false_iff]
    exact no_chain_of_no_properties (fun ps h => by simp [Json.get?] at h) pre path

theorem mem_specCredentials_iff {spec : Json} (hs : Json.Canonical spec) (path : String) :
    path ∈ specCredentials spec ↔ SpecMarks spec path := by
  unfold specCredentials SpecMarks
  cases hc : spec.get? "connection_specification" with
  | none => simp
  | some conn =>
    -- the connection specification is a member of the object, so its objects list keys once
    have hconn : Json.Canonical conn := by
      cases spec with
      | obj fs => exact (Json.canonical_obj_iff.1 hs).2 _ (Json.Fields.mem_of_get?_eq_some hc)
      | _ => cases hc
    simpa using mem_schemaPaths_iff conn hconn "" path

end Catalog

/-! ## Specifications read from TOML -/

namespace TomlValue

theorem toJson_go (items : List TomlValue) : toJson.go items = items.map toJson := by
  induction items with
  | nil => rfl
  | cons v vs ih => rw [toJson.go.eq_2, ih, List.map_cons]

theorem toJson_goFields (entries : List (String × TomlValue)) :
    toJson.goFields entries = entries.map fun e => (e.1, e.2.toJson) := by
  induction entries with
  | nil => rfl
  | cons e es ih =>
    obtain ⟨k, v⟩ := e
    rw [toJson.goFields.eq_2, ih, List.map_cons]

/-- **Every JSON document of a TOML value lists each key of its objects once, in order.** -/
theorem canonical_toJson : ∀ v : TomlValue, Json.Canonical v.toJson
  | .string s => .str s
  | .integer n => .num _
  | .float bits => by
    rw [toJson]
    split
    · exact .num _
    · exact .null
  | .boolean b => .bool b
  | .datetime d => Json.canonical_ofFields (by simp [Json.Canonical.str])
  | .array items => by
    rw [toJson, toJson_go]
    refine .arr fun x hx => ?_
    obtain ⟨v, hv, rfl⟩ := List.mem_map.1 hx
    exact canonical_toJson v
  | .table entries => by
    rw [toJson, toJson_goFields]
    refine Json.canonical_ofFields fun m hm => ?_
    obtain ⟨⟨k, v⟩, hv, rfl⟩ := List.mem_map.1 hm
    exact canonical_toJson v
termination_by v => sizeOf v
decreasing_by
  · have := List.sizeOf_lt_of_mem hv
    simp only [array.sizeOf_spec]
    omega
  · have := List.sizeOf_lt_of_mem hv
    simp only [table.sizeOf_spec, Prod.mk.sizeOf_spec] at this ⊢
    omega

end TomlValue

namespace Catalog

theorem Entry.decode_spec {t : TomlValue} {e : Entry} (h : Entry.decode t = .ok e) {spec : Json}
    (hs : e.spec = some spec) : Json.Canonical spec := by
  unfold Entry.decode at h
  split at h
  · cases h
  · simp only [Listing.bind_eq_ok_iff] at h
    obtain ⟨_, -, _, -, _, -, _, -, _, -, _, -, spec', hspec, _, -, _, -, h⟩ := h
    cases h
    subst hs
    unfold TomlValue.field? at hspec
    split at hspec
    · cases hspec
    · cases hspec
      exact TomlValue.canonical_toJson _

end Catalog

/-! ## Credentials recorded by the family -/

theorem mem_insertSorted {s q : String} : ∀ {xs : List String},
    q ∈ insertSorted s xs ↔ q = s ∨ q ∈ xs
  | [] => by simp [insertSorted]
  | x :: xs => by
    rw [insertSorted]
    split_ifs with hlt heq
    · simp
    · subst heq
      simp
    · rw [List.mem_cons, mem_insertSorted, List.mem_cons]
      tauto

theorem mem_foldl_insertSorted {q : String} : ∀ (ps acc : List String),
    q ∈ ps.foldl (fun acc p => insertSorted p acc) acc ↔ q ∈ ps ∨ q ∈ acc
  | [], acc => by simp
  | p :: ps, acc => by
    rw [List.foldl_cons, mem_foldl_insertSorted ps, mem_insertSorted, List.mem_cons]
    tauto

namespace Family

/-- The credentials a family records are keyed by its definitions' ids, in order. -/
def CredentialsKeyed (f : Family) : Prop := f.credentials.map (·.1) = f.definitions.map (·.id)

variable {f f' : Family} {kind : FamilyKind} {loadedAt : Instant}

theorem credentialFields_eq_nil (hk : f.CredentialsKeyed) {j : String}
    (hj : j ∉ f.definitions.map (·.id)) : f.credentialFields j = [] := by
  have hnone : f.credentials.find? (·.1 == j) = none := List.find?_eq_none.2 fun c hc hcj => by
    refine hj ?_
    rw [← hk]
    exact List.mem_map.2 ⟨c, hc, by simpa using hcj⟩
  simp [credentialFields, hnone]

/-- **Adding entries records each entry's credential paths under its id**: its listed paths
and the paths its specification marks. The credentials stay keyed by the definitions' ids, the
entries' ids are appended to the family's, and the credentials only grow. -/
theorem credentialFields_addEntries : ∀ (es : List Catalog.Entry) (f f' : Family),
    f.CredentialsKeyed → addEntries kind loadedAt f es = .ok f' →
      f'.CredentialsKeyed ∧ f'.definitions.map (·.id) = f.definitions.map (·.id) ++ es.map (·.id) ∧
        (∃ more, f'.credentials = f.credentials ++ more) ∧
        ∀ e ∈ es, ∀ path, path ∈ f'.credentialFields e.id ↔ path ∈ e.credentialFields ∨
          ∃ spec, e.spec = some spec ∧ path ∈ Catalog.specCredentials spec
  | [], f, f', hk, h => by
    cases h
    exact ⟨hk, by simp, ⟨[], by simp⟩, by simp⟩
  | e :: rest, f, f', hk, h => by
    rw [addEntries] at h
    split at h
    · cases h
    · split at h
      · cases h
      · rename_i hid
        have hk0 : f.credentials.map (·.1) = f.definitions.map (·.id) := hk
        have hnew : e.id ∉ f.definitions.map (·.id) := fun hm => hid (byId?_isSome_iff.2 hm)
        obtain ⟨hk', hids, ⟨more, hmore⟩, hrest⟩ := credentialFields_addEntries rest _ f' (by
          simp only [CredentialsKeyed, List.map_append, List.map_cons, List.map_nil, hk0]) h
        have hnone : f.credentials.find? (·.1 == e.id) = none := List.find?_eq_none.2 fun c hc hce => by
          refine hnew ?_
          rw [← hk0]
          exact List.mem_map.2 ⟨c, hc, by simpa using hce⟩
        refine ⟨hk', by simp [hids], ⟨_ :: more, by rw [hmore, List.append_assoc]; rfl⟩, ?_⟩
        intro e' he' path
        rcases List.mem_cons.1 he' with rfl | he'
        · simp only [credentialFields, hmore, List.find?_append, hnone, Option.none_or,
            List.find?_singleton, beq_self_eq_true, if_true, Option.some_or, Option.map_some,
            Option.getD_some]
          rw [mem_foldl_insertSorted, List.mem_append]
          cases e'.spec <;> simp
        · exact hrest e' he' path

theorem decodeEntries_mem {doc : TomlValue} {es : List Catalog.Entry}
    (h : Catalog.decodeEntries doc = .ok es) {e : Catalog.Entry} (he : e ∈ es) :
    ∃ t, Catalog.Entry.decode t = .ok e := by
  unfold Catalog.decodeEntries at h
  obtain ⟨items, -, h⟩ := Listing.bind_eq_ok_iff.1 h
  obtain ⟨t, -, ht⟩ := Forall₂.exists_of_mem_right (Listing.mapM_eq_ok_iff.1 h) he
  exact ⟨t, ht⟩

/-- **The credential fields of a catalog family.** For a family read from catalog text, the
text declares entries whose ids are the family's definitions' ids, in order; the id of each
entry has as credential paths exactly the ones the entry lists and the ones its specification
marks (`Catalog.SpecMarks`: a flagged property `properties.n₁.….properties.nₖ` under
`connection_specification`, at any depth, flagged or not on the way, gives `n₁.….nₖ`); and an
id the family does not define has none. -/
theorem credential_fields_of_catalog {text origin : String} (h : ofToml kind text origin loadedAt = .ok f) :
    ∃ es : List Catalog.Entry,
      (∃ doc, TomlValue.read text = .ok doc ∧ Catalog.decodeEntries doc = .ok es) ∧
      f.definitions.map (·.id) = es.map (·.id) ∧
      (∀ e ∈ es, ∀ path, f.isCredential e.id path = true ↔
        path ∈ e.credentialFields ∨ ∃ spec, e.spec = some spec ∧ Catalog.SpecMarks spec path) ∧
      ∀ j, f.byId? j = none → ∀ path, f.isCredential j path = false := by
  unfold ofToml at h
  cases hdoc : TomlValue.read text with
  | error err => simp [hdoc, bind, Except.bind] at h
  | ok doc =>
    cases hes : Catalog.decodeEntries doc with
    | error err =>
      simp only [hdoc, hes, pure_bind] at h
      cases h
    | ok es =>
      simp only [hdoc, hes, pure_bind] at h
      obtain ⟨hk, hids, -, hcred⟩ := credentialFields_addEntries es (empty kind) f rfl h
      refine ⟨es, ⟨doc, rfl, hes⟩, by simpa [empty] using hids, fun e he path => ?_, fun j hj path => ?_⟩
      · -- the entry's specification is read from TOML, so its walk finds the marked chains
        obtain ⟨t, ht⟩ := decodeEntries_mem hes he
        rw [isCredential, List.contains_iff_mem, hcred e he path]
        refine or_congr Iff.rfl (exists_congr fun spec => and_congr_right fun hs => ?_)
        exact Catalog.mem_specCredentials_iff (Catalog.Entry.decode_spec ht hs) path
      · have hnot : j ∉ f.definitions.map (·.id) := fun hm => by
          have := byId?_isSome_iff.2 hm
          rw [hj] at this
          cases this
        rw [isCredential, credentialFields_eq_nil hk hnot]
        rfl

/-- A destination catalog with one Postgres definition: it declares `api.token` a credential,
and its specification marks the password `airbyte_secret`. -/
def postgresCatalog : String :=
  "[[definitions]]
uid = \"2b7e4f4e-0b7a-4d0c-9a51-6c3b9d9f1c01\"
id = \"pg\"
docker_repository = \"conduit/pg\"
docker_image_tag = \"0.3.0\"
credential_fields = [\"api.token\"]

[definitions.spec.connection_specification.properties.password]
airbyte_secret = true
"

/-- The Postgres catalog is read, and its family's credentials are those the theorem gives. -/
theorem postgres_catalog_credentials :
    ∃ f, ofToml .destination postgresCatalog "destination.toml" (Instant.ofParts 0 0 0) = .ok f ∧
      ∃ es : List Catalog.Entry,
        (∃ doc, TomlValue.read postgresCatalog = .ok doc ∧ Catalog.decodeEntries doc = .ok es) ∧
        f.definitions.map (·.id) = es.map (·.id) ∧
        (∀ e ∈ es, ∀ path, f.isCredential e.id path = true ↔
          path ∈ e.credentialFields ∨ ∃ spec, e.spec = some spec ∧ Catalog.SpecMarks spec path) ∧
        ∀ j, f.byId? j = none → ∀ path, f.isCredential j path = false := by
  have hok : (ofToml .destination postgresCatalog "destination.toml"
      (Instant.ofParts 0 0 0)).toBool = true := by
    decide +kernel
  cases hc : ofToml .destination postgresCatalog "destination.toml" (Instant.ofParts 0 0 0) with
  | error err =>
    rw [hc] at hok
    cases hok
  | ok f => exact ⟨f, rfl, credential_fields_of_catalog hc⟩

end Family

end ConnectorPlane
