import ConnectorPlane.Catalog.Directory
import ConnectorPlane.Catalog.Registry
import Mathlib.Data.List.Nodup
import Mathlib.Data.List.Perm.Basic

/-! # Families and the registry build

A catalog file gives a family with no uid and no id twice, every definition of the family's
connector type (`Family.WellFormed`, `Family.ofToml_wellFormed`, `Family.load_wellFormed`).

The build orders the families by kind, stably (`Registry.orderFamilies_eq_mergeSort`), and
registers their definitions in turn; it succeeds exactly when no uid and no (type, id) key occurs
twice among all the families' definitions, and then lists the uids of the ordered families one
family after another (`Registry.build_eq_ok_iff`).
-/

namespace ConnectorPlane

namespace Family

/-- The (type, id) keys of a family's definitions, in declaration order. -/
def keys (f : Family) : List (ConnectorType × String) :=
  f.definitions.map fun d => (d.connectorType, d.id)

/-- A family as a catalog file gives it: no uid and no id twice, and every definition of the
family's connector type. -/
structure WellFormed (f : Family) : Prop where
  uids_nodup : f.uids.Nodup
  ids_nodup : (f.definitions.map (·.id)).Nodup
  typed : ∀ d ∈ f.definitions, d.connectorType = f.kind.connectorType

variable {f : Family} {uid : Uuid} {id : String} {d : Definition}

theorem byUid?_isSome_iff : (f.byUid? uid).isSome ↔ uid ∈ f.uids := by
  simp [byUid?, uids, List.find?_isSome]

theorem hasUid_iff : f.hasUid uid = true ↔ uid ∈ f.uids := byUid?_isSome_iff

theorem byId?_isSome_iff : (f.byId? id).isSome ↔ id ∈ f.definitions.map (·.id) := by
  simp [byId?, List.find?_isSome]

theorem find?_key_eq_some_iff {β : Type} [BEq β] [LawfulBEq β] {key : Definition → β}
    {ds : List Definition} {k : β} (h : (ds.map key).Nodup) :
    ds.find? (key · == k) = some d ↔ d ∈ ds ∧ key d = k := by
  constructor
  · intro hd
    exact ⟨List.mem_of_find?_eq_some hd, by simpa using List.find?_some hd⟩
  · rintro ⟨hd, rfl⟩
    -- the search finds some definition of the key, which is `d` since keys are distinct
    have hsome : (ds.find? (key · == key d)).isSome := List.find?_isSome.2 ⟨d, hd, by simp⟩
    obtain ⟨d', hd'⟩ := Option.isSome_iff_exists.1 hsome
    have hkey : key d' = key d := by simpa using List.find?_some hd'
    rw [hd', List.inj_on_of_nodup_map h (List.mem_of_find?_eq_some hd') hd hkey]

theorem byUid?_eq_some_iff (h : f.uids.Nodup) :
    f.byUid? uid = some d ↔ d ∈ f.definitions ∧ d.uid = uid :=
  find?_key_eq_some_iff h

theorem byUid?_self (h : f.uids.Nodup) (hd : d ∈ f.definitions) : f.byUid? d.uid = some d :=
  (byUid?_eq_some_iff h).2 ⟨hd, rfl⟩

theorem byId?_eq_some_iff (h : (f.definitions.map (·.id)).Nodup) :
    f.byId? id = some d ↔ d ∈ f.definitions ∧ d.id = id :=
  find?_key_eq_some_iff h

theorem flatMap_keys (fs : List Family) :
    fs.flatMap keys = (fs.flatMap definitions).map fun d => (d.connectorType, d.id) := by
  rw [List.map_flatMap]
  rfl

theorem WellFormed.append (hw : f.WellFormed) (hu : d.uid ∉ f.uids)
    (hi : d.id ∉ f.definitions.map (·.id)) (ht : d.connectorType = f.kind.connectorType)
    (credentials : List (String × List String)) :
    ({ f with definitions := f.definitions ++ [d], credentials } : Family).WellFormed where
  uids_nodup := by
    simp only [uids, List.map_append, List.map_singleton]
    exact List.nodup_append.2 ⟨hw.uids_nodup, List.nodup_singleton _,
      fun a ha b hb => by rw [List.mem_singleton.1 hb]; exact fun he => hu (he ▸ ha)⟩
  ids_nodup := by
    simp only [List.map_append, List.map_singleton]
    exact List.nodup_append.2 ⟨hw.ids_nodup, List.nodup_singleton _,
      fun a ha b hb => by rw [List.mem_singleton.1 hb]; exact fun he => hi (he ▸ ha)⟩
  typed e he := by
    rcases List.mem_append.1 he with he | he
    · exact hw.typed e he
    · rw [List.mem_singleton.1 he]
      exact ht

theorem empty_wellFormed (kind : FamilyKind) : (empty kind).WellFormed :=
  ⟨List.nodup_nil, List.nodup_nil, fun _ h => by cases h⟩

/-- Adding declared definitions, each refused when its uid or id is taken, keeps a family of
kind `kind` well formed. -/
theorem addEntries_wellFormed {kind : FamilyKind} {loadedAt : Instant} :
    ∀ (es : List Catalog.Entry) (f f' : Family), f.WellFormed → f.kind = kind →
      addEntries kind loadedAt f es = .ok f' → f'.WellFormed ∧ f'.kind = kind
  | [], f, f', hw, hk, h => by
    cases h
    exact ⟨hw, hk⟩
  | e :: rest, f, f', hw, hk, h => by
    rw [addEntries] at h
    split at h
    · cases h
    · rename_i hu
      split at h
      · cases h
      · rename_i hi
        refine addEntries_wellFormed rest _ f' (hw.append ?_ ?_ ?_ _) hk h
        · exact fun hmem => hu (byUid?_isSome_iff.2 hmem)
        · exact fun hmem => hi (byId?_isSome_iff.2 hmem)
        · rw [hk]

/-- **A catalog file gives a well-formed family** of the kind it was read as. -/
theorem ofToml_wellFormed {kind : FamilyKind} {text origin : String} {loadedAt : Instant}
    (h : ofToml kind text origin loadedAt = .ok f) : f.WellFormed ∧ f.kind = kind := by
  unfold ofToml at h
  cases hdoc : TomlValue.read text with
  | error e => simp [hdoc, bind, Except.bind] at h
  | ok doc =>
    cases hes : Catalog.decodeEntries doc with
    | error e =>
      simp only [hdoc, hes, pure_bind] at h
      cases h
    | ok es =>
      simp only [hdoc, hes, pure_bind] at h
      exact addEntries_wellFormed es _ f (empty_wellFormed kind) rfl h

/-- A family loaded from a directory, from its file or empty when there is none, is well
formed. -/
theorem load_wellFormed {files : Files} {kind : FamilyKind} {path : String} {clock clock' : Clock}
    (h : load files kind path clock = .ok (f, clock')) : f.WellFormed ∧ f.kind = kind := by
  unfold load at h
  split at h
  · cases h
    exact ⟨empty_wellFormed kind, rfl⟩
  · cases h
    exact ⟨empty_wellFormed kind, rfl⟩
  · -- a regular file: its text is read as a catalog
    split at h
    · cases h
    · split at h
      cases hof : ofToml kind _ path _ with
      | error e =>
        rw [hof] at h
        cases h
      | ok f' =>
        rw [hof] at h
        cases h
        exact ofToml_wellFormed hof

end Family

namespace Registry

/-! ## Registering the definitions -/

variable {kind : FamilyKind}

/-- A registration step succeeds exactly on a definition of a fresh uid and a fresh key, and
adds both. -/
theorem addDefinition_eq_ok_iff
    {acc acc' : List (Uuid × FamilyKind) × List (ConnectorType × String)} {d : Definition} :
    addDefinition kind acc d = .ok acc' ↔
      d.uid ∉ acc.1.map (·.1) ∧ (d.connectorType, d.id) ∉ acc.2 ∧
        acc' = ((d.uid, kind) :: acc.1, (d.connectorType, d.id) :: acc.2) := by
  unfold addDefinition
  split
  · rename_i hfind
    have hmem : d.uid ∈ acc.1.map (·.1) := List.mem_map.2
      ⟨_, List.mem_of_find?_eq_some hfind, by simpa using List.find?_some hfind⟩
    exact ⟨fun h => (by cases h), fun h => absurd hmem h.1⟩
  · rename_i hfind
    have hfresh : d.uid ∉ acc.1.map (·.1) := by
      rw [List.mem_map]
      rintro ⟨x, hx, he⟩
      exact List.find?_eq_none.1 hfind x hx (by simp [he])
    split
    · rename_i hc
      exact ⟨fun h => (by cases h), fun h => absurd (List.contains_iff_mem.1 hc) h.2.1⟩
    · rename_i hc
      have hkey : (d.connectorType, d.id) ∉ acc.2 := fun hm => hc (List.contains_iff_mem.2 hm)
      exact ⟨fun h => (by cases h; exact ⟨hfresh, hkey, rfl⟩), fun ⟨_, _, h⟩ => (by rw [h]; rfl)⟩

/-- Registering the definitions of a family succeeds exactly when, with the uids and keys taken
before, no uid and no key occurs twice; it adds them all. -/
theorem foldlM_addDefinition_eq_ok_iff : ∀ (ds : List Definition)
    (acc acc' : List (Uuid × FamilyKind) × List (ConnectorType × String)),
    (acc.1.map (·.1)).Nodup → acc.2.Nodup →
    (ds.foldlM (addDefinition kind) acc = .ok acc' ↔
      ((ds.map (·.uid)).reverse ++ acc.1.map (·.1)).Nodup ∧
      ((ds.map fun d => (d.connectorType, d.id)).reverse ++ acc.2).Nodup ∧
      acc' = ((ds.map fun d => (d.uid, kind)).reverse ++ acc.1,
        (ds.map fun d => (d.connectorType, d.id)).reverse ++ acc.2))
  | [], acc, acc', hU, hK => by
    simp only [List.foldlM_nil, List.map_nil, List.reverse_nil, List.nil_append]
    exact ⟨fun h => (by cases h; exact ⟨hU, hK, rfl⟩), fun ⟨_, _, h⟩ => (by rw [h]; rfl)⟩
  | d :: ds, acc, acc', hU, hK => by
    rw [List.foldlM_cons]
    have hsplit : ∀ {β : Type} (f : Definition → β) (l : List β),
        ((d :: ds).map f).reverse ++ l = (ds.map f).reverse ++ f d :: l := by
      intro β f l
      simp
    simp only [hsplit]
    cases hstep : addDefinition kind acc d with
    | error e =>
      refine ⟨fun h => (by cases h), fun ⟨hu, hk, _⟩ => ?_⟩
      have hok : addDefinition kind acc d = .ok _ := addDefinition_eq_ok_iff.2
        ⟨(List.nodup_cons.1 (List.nodup_append.1 hu).2.1).1,
          (List.nodup_cons.1 (List.nodup_append.1 hk).2.1).1, rfl⟩
      rw [hstep] at hok
      cases hok
    | ok acc₁ =>
      obtain ⟨hu, hk, rfl⟩ := addDefinition_eq_ok_iff.1 hstep
      exact foldlM_addDefinition_eq_ok_iff ds _ acc' (List.nodup_cons.2 ⟨hu, hU⟩)
        (List.nodup_cons.2 ⟨hk, hK⟩)

/-- Registering the families in turn succeeds exactly when, with the uids and keys taken before,
no uid and no key occurs twice among all their definitions; it lists the uids taken before, then
those of each family in turn. -/
theorem register_eq_ok_iff : ∀ (fs : List Family) (routes : List (Uuid × FamilyKind))
    (ids : List (ConnectorType × String)) (out : List Uuid),
    (routes.map (·.1)).Nodup → ids.Nodup →
    (register fs routes ids = .ok out ↔
      ((routes.map (·.1)).reverse ++ fs.flatMap Family.uids).Nodup ∧
      (ids.reverse ++ fs.flatMap Family.keys).Nodup ∧
      out = (routes.map (·.1)).reverse ++ fs.flatMap Family.uids)
  | [], routes, ids, out, hU, hK => by
    simp only [register, List.flatMap_nil, List.append_nil, List.nodup_reverse]
    exact ⟨fun h => (by cases h; exact ⟨hU, hK, rfl⟩), fun ⟨_, _, h⟩ => (by rw [h]; rfl)⟩
  | f :: rest, routes, ids, out, hU, hK => by
    rw [register]
    have huids : ((f.definitions.map fun d => (d.uid, f.kind)).reverse ++ routes).map (·.1) =
        (f.uids.reverse ++ routes.map (·.1)) := by
      simp [Family.uids, List.map_reverse]
    have hpre : ∀ {β : Type} (a b c : List β), (a ++ b ++ c).Nodup →
        (b.reverse ++ a.reverse).Nodup := fun a b c h => by
        rw [← List.reverse_append, List.nodup_reverse]
        exact h.sublist (List.sublist_append_left _ _)
    cases hfold : f.definitions.foldlM (addDefinition f.kind) (routes, ids) with
    | error e =>
      refine ⟨fun h => (by cases h), fun ⟨hu, hk, _⟩ => ?_⟩
      rw [List.flatMap_cons, ← List.append_assoc] at hu hk
      have hok : f.definitions.foldlM (addDefinition f.kind) (routes, ids) = .ok _ :=
        (foldlM_addDefinition_eq_ok_iff f.definitions (routes, ids) _ hU hK).2
        ⟨by simpa [Family.uids] using hpre _ _ _ hu,
          by simpa [Family.keys] using hpre _ _ _ hk, rfl⟩
      rw [hfold] at hok
      cases hok
    | ok acc =>
      obtain ⟨hu, hk, rfl⟩ :=
        (foldlM_addDefinition_eq_ok_iff f.definitions (routes, ids) acc hU hK).1 hfold
      have hU' :
          (((f.definitions.map fun d => (d.uid, f.kind)).reverse ++ routes).map (·.1)).Nodup := by
        rw [huids]
        simpa [Family.uids] using hu
      have hK' : ((f.definitions.map fun d => (d.connectorType, d.id)).reverse ++ ids).Nodup := hk
      simp only [bind, Except.bind]
      rw [register_eq_ok_iff rest _ _ out hU' hK', huids]
      simp only [List.reverse_append, List.reverse_reverse, List.flatMap_cons, List.append_assoc,
        Family.keys]

/-- **The build** succeeds exactly when no uid and no (type, id) key occurs twice among the
definitions of the ordered families, and then keeps the ordered families with their uids, one
family after another. -/
theorem build_eq_ok_iff {fs : List Family} {r : Registry} :
    build fs = .ok r ↔
      ((orderFamilies fs).flatMap Family.uids).Nodup ∧
      ((orderFamilies fs).flatMap Family.keys).Nodup ∧
      r = ⟨orderFamilies fs, (orderFamilies fs).flatMap Family.uids⟩ := by
  have hreg : ∀ out, register (orderFamilies fs) [] [] = .ok out ↔
      ((orderFamilies fs).flatMap Family.uids).Nodup ∧
      ((orderFamilies fs).flatMap Family.keys).Nodup ∧
      out = (orderFamilies fs).flatMap Family.uids := fun out => by
    simpa using register_eq_ok_iff (orderFamilies fs) [] [] out List.nodup_nil List.nodup_nil
  unfold build
  cases h : register (orderFamilies fs) [] [] with
  | error e =>
    refine ⟨fun hb => (by simp [h, bind, Except.bind] at hb), fun ⟨hu, hk, _⟩ => ?_⟩
    have hok := (hreg _).2 ⟨hu, hk, rfl⟩
    rw [h] at hok
    cases hok
  | ok out =>
    obtain ⟨hu, hk, rfl⟩ := (hreg out).1 h
    simp only [h, bind, Except.bind, pure, Except.pure, Except.ok.injEq]
    exact ⟨fun hr => ⟨hu, hk, hr.symm⟩, fun ⟨_, _, hr⟩ => hr.symm⟩

/-! ## The order of the families -/

theorem rank_le_trans (a b c : Family) (hab : decide (a.kind.rank ≤ b.kind.rank) = true)
    (hbc : decide (b.kind.rank ≤ c.kind.rank) = true) :
    decide (a.kind.rank ≤ c.kind.rank) = true := by
  simp only [decide_eq_true_eq] at *
  omega

theorem rank_le_total (a b : Family) :
    (decide (a.kind.rank ≤ b.kind.rank) || decide (b.kind.rank ≤ a.kind.rank)) = true := by
  simp only [Bool.or_eq_true, decide_eq_true_eq]
  omega

theorem filter_kind_eq_nil {f : Family} {l : List Family} {k : FamilyKind}
    (h : ∀ g ∈ l, f.kind.rank ≤ g.kind.rank) (hk : k.rank < f.kind.rank) :
    l.filter (·.kind == k) = [] := by
  rw [List.filter_eq_nil_iff]
  intro g hg hgk
  have hle := h g hg
  rw [beq_iff_eq.1 hgk] at hle
  omega

theorem orderFamilies_cons {f : Family} {l : List Family}
    (h : ∀ g ∈ l, f.kind.rank ≤ g.kind.rank) : orderFamilies (f :: l) = f :: orderFamilies l := by
  -- the kinds ranked before `f`'s have no family in `l`, and `f` heads the block of its kind
  have hd := filter_kind_eq_nil (k := .destination) h
  have hs := filter_kind_eq_nil (k := .source) h
  have hb := filter_kind_eq_nil (k := .blockchain) h
  cases hk : f.kind <;> simp only [hk, FamilyKind.rank] at hd hs hb <;>
    simp [orderFamilies, FamilyKind.order, List.filter_cons, hk, hd, hs, hb]

theorem orderFamilies_of_sorted : ∀ {l : List Family},
    l.Pairwise (fun a b => a.kind.rank ≤ b.kind.rank) → orderFamilies l = l
  | [], _ => by simp [orderFamilies, FamilyKind.order]
  | f :: l, h => by
    rw [List.pairwise_cons] at h
    rw [orderFamilies_cons h.1, orderFamilies_of_sorted h.2]

theorem filter_mergeSort_kind (fs : List Family) (k : FamilyKind) :
    (fs.mergeSort fun a b => decide (a.kind.rank ≤ b.kind.rank)).filter (·.kind == k) =
      fs.filter (·.kind == k) := by
  -- the families of one kind are sorted among themselves, so the sort keeps them as a sublist
  have hsorted : (fs.filter (·.kind == k)).Pairwise
      fun a b => decide (a.kind.rank ≤ b.kind.rank) = true := by
    rw [List.pairwise_filter]
    exact List.pairwise_of_forall fun a b ha hb => by
      simp only [beq_iff_eq] at ha hb
      simp [ha, hb]
  have hsub := (List.sublist_mergeSort rank_le_trans rank_le_total hsorted
    List.filter_sublist).filter (·.kind == k)
  simp only [List.filter_filter, Bool.and_self] at hsub
  exact (hsub.eq_of_length ((List.mergeSort_perm _ _).filter _).length_eq.symm).symm

/-- **The order of the build** is the stable sort of the families by the rank of their kind. -/
theorem orderFamilies_eq_mergeSort (fs : List Family) :
    orderFamilies fs = fs.mergeSort fun a b => decide (a.kind.rank ≤ b.kind.rank) := by
  calc orderFamilies fs
      = orderFamilies (fs.mergeSort fun a b => decide (a.kind.rank ≤ b.kind.rank)) := by
        simp only [orderFamilies, filter_mergeSort_kind]
    _ = _ := orderFamilies_of_sorted (by
        simpa using List.pairwise_mergeSort rank_le_trans rank_le_total fs)

theorem orderFamilies_perm (fs : List Family) : (orderFamilies fs).Perm fs := by
  rw [orderFamilies_eq_mergeSort]
  exact List.mergeSort_perm _ _

end Registry

end ConnectorPlane
