import ConnectorPlane.Proofs.Catalog.Families
import ConnectorPlane.Proofs.Service.Writes

/-! # Routing in a built registry

A registry reaches the family of a uid two ways: by its route table (`familyOf?`, behind
`byUid?`, the credential predicate, `mask` and `strip`) and by the first family, in order, that
declares the uid (`dispatch`). When its families declare no uid twice, both reach the one
family that declares the uid (`familyOf?_eq_some`, `find?_hasUid_eq_some`), and a uid that no
family declares is refused by every look-up (`familyOf?_eq_none`, `find?_hasUid_eq_none`). When
no (type, id) key is declared twice, the look-up by id within a connector type finds the one
definition of that key (`byId?_eq_some_iff`). A build gives such a registry
(`registry_build_and_routing_agree`).
-/

namespace ConnectorPlane

namespace Registry

/-! ## The route table -/

section Routes

variable {r : Registry} {u : Uuid} {i j : Nat} {f g : Family}

theorem mem_routes_iff : (u, i) ∈ r.routes ↔ ∃ f, r.families[i]? = some f ∧ u ∈ f.uids := by
  simp [routes, List.mem_zipIdx_iff_getElem?]

theorem index_unique (h : (r.families.flatMap Family.uids).Nodup)
    (hf : r.families[i]? = some f) (hg : r.families[j]? = some g) (hu : u ∈ f.uids)
    (hu' : u ∈ g.uids) : i = j := by
  obtain ⟨-, hdisj⟩ := List.nodup_flatMap.1 h
  obtain ⟨hi, rfl⟩ := List.getElem?_eq_some_iff.1 hf
  obtain ⟨hj, rfl⟩ := List.getElem?_eq_some_iff.1 hg
  by_contra hne
  rcases Nat.lt_or_gt_of_ne hne with hlt | hlt
  · exact List.pairwise_iff_getElem.1 hdisj i j hi hj hlt hu hu'
  · exact List.pairwise_iff_getElem.1 hdisj j i hj hi hlt hu' hu

theorem family_unique (h : (r.families.flatMap Family.uids).Nodup) (hf : f ∈ r.families)
    (hg : g ∈ r.families) (hu : u ∈ f.uids) (hu' : u ∈ g.uids) : f = g := by
  obtain ⟨i, hi⟩ := List.mem_iff_getElem?.1 hf
  obtain ⟨j, hj⟩ := List.mem_iff_getElem?.1 hg
  have hij := index_unique h hi hj hu hu'
  subst hij
  exact Option.some.inj (hi.symm.trans hj)

theorem route?_eq_some (h : (r.families.flatMap Family.uids).Nodup)
    (hf : r.families[i]? = some f) (hu : u ∈ f.uids) : r.route? u = some i := by
  -- the table holds `(u, i)`, so its search for `u` stops at an entry of `u`, which has
  -- the same position
  have hmem : (u, i) ∈ r.routes := mem_routes_iff.2 ⟨f, hf, hu⟩
  have hsome : (r.routes.find? (·.1 == u)).isSome := List.find?_isSome.2 ⟨_, hmem, by simp⟩
  obtain ⟨⟨v, j⟩, hfind⟩ := Option.isSome_iff_exists.1 hsome
  have hv : v = u := by simpa using List.find?_some hfind
  subst hv
  obtain ⟨g, hg, hug⟩ := mem_routes_iff.1 (List.mem_of_find?_eq_some hfind)
  rw [route?, hfind, Option.map_some, index_unique h hg hf hug hu]

theorem route?_eq_none (hu : ∀ f ∈ r.families, u ∉ f.uids) : r.route? u = none := by
  rw [route?, Option.map_eq_none_iff, List.find?_eq_none]
  rintro ⟨v, j⟩ hmem hv
  obtain ⟨g, hg, hvg⟩ := mem_routes_iff.1 hmem
  have hvu : v = u := beq_iff_eq.1 hv
  rw [hvu] at hvg
  exact hu g (List.mem_of_getElem? hg) hvg

/-- **The route table** leads a declared uid to the family that declares it. -/
theorem familyOf?_eq_some (h : (r.families.flatMap Family.uids).Nodup) (hf : f ∈ r.families)
    (hu : u ∈ f.uids) : r.familyOf? u = some f := by
  obtain ⟨i, hi⟩ := List.mem_iff_getElem?.1 hf
  rw [familyOf?, route?_eq_some h hi hu, Option.bind_some, hi]

theorem familyOf?_eq_none (hu : ∀ f ∈ r.families, u ∉ f.uids) : r.familyOf? u = none := by
  rw [familyOf?, route?_eq_none hu, Option.bind_none]

/-- **The search in order** finds the family that declares a uid. -/
theorem find?_hasUid_eq_some (h : (r.families.flatMap Family.uids).Nodup)
    (hf : f ∈ r.families) (hu : u ∈ f.uids) : r.families.find? (·.hasUid u) = some f := by
  have hsome : (r.families.find? (·.hasUid u)).isSome :=
    List.find?_isSome.2 ⟨f, hf, Family.hasUid_iff.2 hu⟩
  obtain ⟨g, hfind⟩ := Option.isSome_iff_exists.1 hsome
  have hg := List.mem_of_find?_eq_some hfind
  have hug := List.find?_some hfind
  rw [hfind, family_unique h hg hf (Family.hasUid_iff.1 hug) hu]

theorem find?_hasUid_eq_none (hu : ∀ f ∈ r.families, u ∉ f.uids) :
    r.families.find? (·.hasUid u) = none :=
  List.find?_eq_none.2 fun g hg hgu => hu g hg (Family.hasUid_iff.1 hgu)

end Routes

/-! ## Look-ups of a definition -/

section Definitions

variable {r : Registry} {u : Uuid} {f : Family} {d : Definition} {e : RegistryError}
  {P : String → Bool}

theorem isCredential_eq_ok (hP : r.credentialPredicate u = .ok P) (path : String) :
    r.isCredential u path = .ok (P path) := by
  rw [isCredential, hP]
  rfl

theorem isCredential_eq_error (he : r.credentialPredicate u = .error e) (path : String) :
    r.isCredential u path = .error e := by
  rw [isCredential, he]
  rfl

theorem mask_eq_error (he : r.credentialPredicate u = .error e) (C : Json) :
    r.mask u C = .error e := by
  rw [mask, he]
  rfl

theorem strip_eq_error (he : r.credentialPredicate u = .error e) (C : Json) :
    r.strip u C = .error e := by
  rw [strip, he]
  rfl

variable (h : (r.families.flatMap Family.uids).Nodup) (hf : f ∈ r.families)
  (hd : d ∈ f.definitions)
include h hf hd

theorem family_byUid?_eq_some : f.byUid? d.uid = some d :=
  Family.byUid?_self ((List.nodup_flatMap.1 h).1 f hf) hd

theorem byUid?_eq_some : r.byUid? d.uid = some d := by
  rw [byUid?, familyOf?_eq_some h hf (List.mem_map_of_mem hd), Option.bind_some,
    family_byUid?_eq_some h hf hd]

theorem byUid_eq_ok : r.byUid d.uid = .ok d := by
  rw [byUid, byUid?_eq_some h hf hd]
  rfl

theorem credentialPredicate_eq_ok :
    r.credentialPredicate d.uid = .ok (f.isCredential d.id) := by
  rw [credentialPredicate, familyOf?_eq_some h hf (List.mem_map_of_mem hd),
    byUid?_eq_some h hf hd]
  rfl

/-- **A connection** of a declared uid is made from its definition, with the configuration as
given. -/
theorem dispatch_eq_ok (C : Json) : r.dispatch d.uid C = .ok (Connection.ofDefinition d C) := by
  rw [dispatch, find?_hasUid_eq_some h hf (List.mem_map_of_mem hd)]
  dsimp only
  rw [Family.connect, family_byUid?_eq_some h hf hd]
  rfl

end Definitions

/-! ## A uid no family declares -/

section Unknown

variable {r : Registry} {u : Uuid} (hu : ∀ f ∈ r.families, u ∉ f.uids)
include hu

theorem byUid?_eq_none : r.byUid? u = none := by
  rw [byUid?, familyOf?_eq_none hu, Option.bind_none]

theorem byUid_eq_error : r.byUid u = .error (.unknownDefinition u.text) := by
  rw [byUid, byUid?_eq_none hu]
  rfl

theorem credentialPredicate_eq_error :
    r.credentialPredicate u = .error (.unknownDefinition u.text) := by
  rw [credentialPredicate, familyOf?_eq_none hu]
  rfl

theorem dispatch_eq_error (C : Json) : r.dispatch u C = .error (.unknownDefinition u.text) := by
  rw [dispatch, find?_hasUid_eq_none hu]
  rfl

end Unknown

/-! ## Look-up by id -/

section ById

variable {r : Registry} {id : String} {t : ConnectorType} {d : Definition}
  (hw : ∀ f ∈ r.families, f.WellFormed)
include hw

theorem byId?_sound (h : r.byId? id t = some d) :
    (∃ f ∈ r.families, d ∈ f.definitions) ∧ d.id = id ∧ d.connectorType = t := by
  obtain ⟨f, hf, hfd⟩ := List.exists_of_findSome?_eq_some h
  obtain ⟨hfr, hft⟩ := List.mem_filter.1 hf
  obtain ⟨hd, hid⟩ := (Family.byId?_eq_some_iff (hw f hfr).ids_nodup).1 hfd
  refine ⟨⟨f, hfr, hd⟩, hid, ?_⟩
  rw [(hw f hfr).typed d hd]
  exact beq_iff_eq.1 hft

/-- **The look-up by id** within a connector type finds the one definition of that key, when
no key is declared twice. -/
theorem byId?_eq_some_iff (hk : (r.families.flatMap Family.keys).Nodup) :
    r.byId? id t = some d ↔
      (∃ f ∈ r.families, d ∈ f.definitions) ∧ d.id = id ∧ d.connectorType = t := by
  refine ⟨byId?_sound hw, ?_⟩
  rintro ⟨⟨f, hf, hd⟩, rfl, rfl⟩
  -- the family of `d` is searched and has a definition of its id, so the search finds some
  -- definition of the same key, which is `d` since the key is declared once
  have hft : f ∈ r.families.filter (·.kind.connectorType == d.connectorType) :=
    List.mem_filter.2 ⟨hf, by rw [(hw f hf).typed d hd, beq_self_eq_true]⟩
  have hsome : (r.byId? d.id d.connectorType).isSome :=
    List.findSome?_isSome_iff.2 ⟨f, hft, Family.byId?_isSome_iff.2 (List.mem_map_of_mem hd)⟩
  obtain ⟨d', hd'⟩ := Option.isSome_iff_exists.1 hsome
  obtain ⟨⟨g, hg, hgd⟩, hid, ht⟩ := byId?_sound hw hd'
  rw [Family.flatMap_keys] at hk
  have hsame : d' = d := List.inj_on_of_nodup_map hk (List.mem_flatMap.2 ⟨g, hg, hgd⟩)
    (List.mem_flatMap.2 ⟨f, hf, hd⟩) (by rw [hid, ht])
  rw [hd', hsame]

end ById

/-! ## A built registry -/

section Build

variable {fs : List Family}

theorem nodup_flatMap_orderFamilies {β : Type} (g : Family → List β) :
    ((orderFamilies fs).flatMap g).Nodup ↔ (fs.flatMap g).Nodup :=
  ((orderFamilies_perm fs).flatMap_right g).nodup_iff

/-- A build succeeds exactly when no uid and no (type, id) key is declared twice, in whatever
order the families are given. -/
theorem build_isOk_iff :
    (∃ r, build fs = .ok r) ↔ (fs.flatMap Family.uids).Nodup ∧ (fs.flatMap Family.keys).Nodup := by
  constructor
  · rintro ⟨r, hb⟩
    obtain ⟨hu, hk, -⟩ := build_eq_ok_iff.1 hb
    exact ⟨(nodup_flatMap_orderFamilies _).1 hu, (nodup_flatMap_orderFamilies _).1 hk⟩
  · rintro ⟨hu, hk⟩
    exact ⟨_, build_eq_ok_iff.2
      ⟨(nodup_flatMap_orderFamilies _).2 hu, (nodup_flatMap_orderFamilies _).2 hk, rfl⟩⟩

/-- **Build and routing agree.** Families, each with no uid and no id twice and every definition
of its kind's type, build exactly when no uid and no (type, id) key is declared twice. The
built registry holds the families stably sorted by kind, and their uids in that order. For a
declared uid, the search in order (`dispatch`) and the route table (`familyOf?`, `byUid`, the
credential look-ups) reach the one family that declares it, and the connection is made from
its definition with the configuration as given; a uid no family declares is refused by all of
them. The look-up by id within a type finds the one definition of that key. -/
theorem registry_build_and_routing_agree (fs : List Family) (hfs : ∀ f ∈ fs, f.WellFormed) :
    ((∃ r, build fs = .ok r) ↔
      (fs.flatMap Family.uids).Nodup ∧ (fs.flatMap Family.keys).Nodup) ∧
    ∀ r, build fs = .ok r →
      r.families = fs.mergeSort (fun a b => decide (a.kind.rank ≤ b.kind.rank)) ∧
      r.uids = (fs.mergeSort fun a b => decide (a.kind.rank ≤ b.kind.rank)).flatMap Family.uids ∧
      (∀ f ∈ fs, ∀ d ∈ f.definitions, ∀ (C : Json) (path : String),
        r.families.find? (·.hasUid d.uid) = some f ∧ r.familyOf? d.uid = some f ∧
        r.byUid d.uid = .ok d ∧ r.isCredential d.uid path = .ok (f.isCredential d.id path) ∧
        r.mask d.uid C = .ok (C.mask (f.isCredential d.id)) ∧
        r.strip d.uid C = .ok (C.strip (f.isCredential d.id)) ∧
        r.dispatch d.uid C = .ok (Connection.ofDefinition d C)) ∧
      (∀ u, (∀ f ∈ fs, u ∉ f.uids) → ∀ (C : Json) (path : String),
        r.families.find? (·.hasUid u) = none ∧ r.familyOf? u = none ∧
        r.byUid u = .error (.unknownDefinition u.text) ∧
        r.isCredential u path = .error (.unknownDefinition u.text) ∧
        r.mask u C = .error (.unknownDefinition u.text) ∧
        r.strip u C = .error (.unknownDefinition u.text) ∧
        r.dispatch u C = .error (.unknownDefinition u.text)) ∧
      ∀ id t d, r.byId? id t = some d ↔
        (∃ f ∈ fs, d ∈ f.definitions) ∧ d.id = id ∧ d.connectorType = t := by
  refine ⟨build_isOk_iff, fun r hb => ?_⟩
  obtain ⟨hu, hk, hr⟩ := build_eq_ok_iff.1 hb
  -- the built registry holds the given families reordered: what holds of `fs` holds of it
  have hmem : ∀ f, f ∈ r.families ↔ f ∈ fs := fun f => by
    rw [hr]
    exact (orderFamilies_perm fs).mem_iff
  have huids : (r.families.flatMap Family.uids).Nodup := by rw [hr]; exact hu
  have hkeys : (r.families.flatMap Family.keys).Nodup := by rw [hr]; exact hk
  have hw : ∀ f ∈ r.families, f.WellFormed := fun f hf => hfs f ((hmem f).1 hf)
  refine ⟨by rw [hr, orderFamilies_eq_mergeSort], by rw [hr, orderFamilies_eq_mergeSort],
    ?known, ?unknown, ?byId⟩
  case known =>
    intro f hf d hd C path
    have hf' := (hmem f).2 hf
    have hdu : d.uid ∈ f.uids := List.mem_map_of_mem hd
    have hcp := credentialPredicate_eq_ok huids hf' hd
    exact ⟨find?_hasUid_eq_some huids hf' hdu, familyOf?_eq_some huids hf' hdu,
      byUid_eq_ok huids hf' hd, isCredential_eq_ok hcp path, mask_eq_ok hcp C,
      strip_eq_ok hcp C, dispatch_eq_ok huids hf' hd C⟩
  case unknown =>
    intro u hu C path
    have hu' : ∀ f ∈ r.families, u ∉ f.uids := fun f hf => hu f ((hmem f).1 hf)
    have hcp := credentialPredicate_eq_error hu'
    exact ⟨find?_hasUid_eq_none hu', familyOf?_eq_none hu', byUid_eq_error hu',
      isCredential_eq_error hcp path, mask_eq_error hcp C, strip_eq_error hcp C,
      dispatch_eq_error hu' C⟩
  case byId =>
    intro id t d
    rw [byId?_eq_some_iff hw hkeys]
    simp only [hmem]

/-- A destination definition of id `pg`. -/
def pgDestination : Definition where
  uid := Uuid.ofNat 1
  id := "pg"
  title := ""
  connectorType := .destination
  dockerRepository := ""
  dockerImageTag := ""
  documentationUrl := ""
  spec := none
  createTime := Instant.ofParts 0 0 0
  updateTime := Instant.ofParts 0 0 0

/-- A source definition of the same id. -/
def pgSource : Definition := { pgDestination with uid := Uuid.ofNat 2, connectorType := .source }

/-- The destination family of `pgDestination`, whose password is a credential. -/
def pgDestinations : Family := ⟨.destination, [pgDestination], [("pg", ["password"])]⟩

/-- The source family of `pgSource`. -/
def pgSources : Family := ⟨.source, [pgSource], []⟩

/-- A source family given before a destination family, each with a definition `pg`: they
build, the source uid connects to the source definition and `pg` among destinations is the
destination definition. -/
theorem pg_families_build_and_route :
    (∀ f ∈ [pgSources, pgDestinations], f.WellFormed) ∧
      ∃ r, build [pgSources, pgDestinations] = .ok r ∧
        r.dispatch pgSource.uid .null = .ok (Connection.ofDefinition pgSource .null) ∧
        r.byId? "pg" .destination = some pgDestination := by
  have hw : ∀ f ∈ [pgSources, pgDestinations], f.WellFormed := by
    intro f hf
    simp only [List.mem_cons, List.not_mem_nil, or_false] at hf
    rcases hf with rfl | rfl
    · exact ⟨by decide, List.nodup_singleton _,
        by simp [pgSources, pgSource, pgDestination, FamilyKind.connectorType]⟩
    · exact ⟨by decide, List.nodup_singleton _,
        by simp [pgDestinations, pgDestination, FamilyKind.connectorType]⟩
  obtain ⟨hok, hrun⟩ := registry_build_and_routing_agree _ hw
  obtain ⟨r, hb⟩ := hok.2 ⟨by decide, by decide⟩
  obtain ⟨-, -, hknown, -, hbyId⟩ := hrun r hb
  obtain ⟨-, -, -, -, -, -, hdispatch⟩ :=
    hknown pgSources (by simp) pgSource (by simp [pgSources]) .null ""
  exact ⟨hw, r, hb, hdispatch,
    (hbyId _ _ _).2 ⟨⟨pgDestinations, by simp, by simp [pgDestinations]⟩, rfl, rfl⟩⟩

end Build

end Registry

end ConnectorPlane
