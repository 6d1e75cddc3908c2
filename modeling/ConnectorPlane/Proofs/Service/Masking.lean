import ConnectorPlane.Proofs.Json.Mask
import ConnectorPlane.Service.Connectors

/-! # The services return connectors with their credentials masked

A connector is masked by a registry (`Registry.Masked`) when it was read without its
configuration, or when every leaf of its configuration whose path the registry calls a credential
of the connector's own definition holds exactly the sentinel.

`Plane.Keeps R x Q` is the frame every step of the services is checked against: run from a plane
whose registry is `R`, `x` leaves the registry `R`, and what it returns satisfies `Q`. No step
writes the registry, so the registry a connector is masked by is the one the caller reads.

* `Plane.keeps_bind`, `Plane.keeps_seq`: the frame composes along a `do` block.
* `Plane.keeps_masked`: `masked` returns a connector masked by the registry of the plane.
* `services_return_masked_connectors`: every connector that `create`, `list`, `getConnector`,
  `lookup`, `update`, `rename`, `connect` and `disconnect` return is masked.
-/

namespace ConnectorPlane

/-- A connector as the services may return it: read without its configuration, or with every
leaf whose path its definition's credential paths name holding the sentinel. -/
def Registry.Masked (R : Registry) (c : Connector) : Prop :=
  ∀ conf, c.configuration = some conf →
    Json.LeavesMasked (fun path => R.isCredential c.definitionUid path = .ok true) conf

theorem Registry.isCredential_eq_ok_true_iff {R : Registry} {uid : Uuid} {pred : String → Bool}
    (h : R.credentialPredicate uid = .ok pred) (path : String) :
    R.isCredential uid path = .ok true ↔ pred path = true := by
  simp [Registry.isCredential, h, bind, Except.bind, pure, Except.pure]

theorem Registry.mask_leavesMasked {R : Registry} {uid : Uuid} {conf conf' : Json}
    (h : R.mask uid conf = .ok conf') :
    Json.LeavesMasked (fun path => R.isCredential uid path = .ok true) conf' := by
  unfold Registry.mask at h
  cases hpred : R.credentialPredicate uid with
  | error e => simp [hpred, bind, Except.bind] at h
  | ok pred =>
    simp only [hpred, bind, Except.bind, pure, Except.pure, Except.ok.injEq] at h
    subst h
    have hP : (fun path => R.isCredential uid path = .ok true) = fun path => pred path = true :=
      funext fun path => propext (Registry.isCredential_eq_ok_true_iff hpred path)
    rw [hP]
    exact Json.mask_leavesMasked conf

namespace Plane

/-- From a plane whose registry is `R`, the operation leaves the registry `R`, and whatever it
returns satisfies `Q`. -/
def Keeps {α : Type} (R : Registry) (x : PlaneM α) (Q : α → Prop) : Prop :=
  ∀ p : Plane, p.registry = R →
    (x.run.run p).2.registry = R ∧ ∀ a, (x.run.run p).1 = .ok a → Q a

section Rules

variable {α β : Type} {R : Registry} {Q : β → Prop}

theorem keeps_pure {b : β} (h : Q b) : Keeps R (pure b) Q :=
  fun _ hp => ⟨hp, fun a ha => by cases ha; exact h⟩

theorem keeps_throw (e : ServiceError) : Keeps R (throw e : PlaneM β) Q :=
  fun _ hp => ⟨hp, fun a ha => by cases ha⟩

theorem keeps_bind {P : α → Prop} {x : PlaneM α} {f : α → PlaneM β} (hx : Keeps R x P)
    (hf : ∀ a, P a → Keeps R (f a) Q) : Keeps R (x >>= f) Q := by
  intro p hp
  obtain ⟨hreg, hP⟩ := hx p hp
  simp only [ExceptT.run_bind, StateT.run_bind]
  generalize hq : x.run.run p = q at hreg hP
  obtain ⟨r, p'⟩ := q
  cases r with
  | error e => exact ⟨hreg, fun a ha => by cases ha⟩
  | ok a => exact hf a (hP a rfl) p' hreg

theorem keeps_seq {P : α → Prop} {x : PlaneM α} {f : α → PlaneM β} (hx : Keeps R x P)
    (hf : ∀ a, Keeps R (f a) Q) : Keeps R (x >>= f) Q :=
  keeps_bind hx fun a _ => hf a

theorem keeps_fail (e : ServiceError) : Keeps R (fail e : PlaneM β) Q :=
  keeps_throw e

theorem keeps_fail_bind {γ : Type} (e : ServiceError) (f : γ → PlaneM β) :
    Keeps R (fail e >>= f) Q :=
  fun _ hp => ⟨hp, fun a ha => by cases ha⟩

theorem keeps_get : Keeps R (get : PlaneM Plane) fun p => p.registry = R :=
  fun _ hp => ⟨hp, fun a ha => by cases ha; exact hp⟩

theorem keeps_modify {f : Plane → Plane} (hf : ∀ p, (f p).registry = p.registry) :
    Keeps R (modify f : PlaneM Unit) fun _ => True :=
  fun p hp => ⟨(hf p).trans hp, fun _ _ => trivial⟩

theorem keeps_set {q : Plane} (hq : q.registry = R) : Keeps R (set q : PlaneM Unit) fun _ => True :=
  fun _ _ => ⟨hq, fun _ _ => trivial⟩

theorem keeps_ofExcept (e : Except ServiceError α) : Keeps R (ofExcept e) fun _ => True := by
  intro p hp
  cases e <;> exact ⟨hp, fun _ _ => trivial⟩

theorem keeps_ofStore (e : Except StoreError α) : Keeps R (ofStore e) fun _ => True := by
  intro p hp
  cases e <;> exact ⟨hp, fun _ _ => trivial⟩

theorem keeps_ofRegistry (e : Except RegistryError α) :
    Keeps R (ofRegistry e) fun a => e = .ok a := by
  intro p hp
  cases e with
  | error e => exact ⟨hp, fun _ ha => by cases ha⟩
  | ok a => exact ⟨hp, fun b hb => by cases hb; rfl⟩

end Rules

/-! ## The steps of the services -/

section Steps

variable {R : Registry}

theorem keeps_now : Keeps R (liftM now : PlaneM Instant) fun _ => True :=
  fun _ hp => ⟨hp, fun _ _ => trivial⟩

theorem keeps_tables : Keeps R tables? fun _ => True :=
  keeps_seq keeps_get fun _ => keeps_pure trivial

theorem keeps_load (id : String) (owner : Owner) (type : ConnectorType) (view : View) :
    Keeps R (load id owner type view) fun _ => True :=
  keeps_seq keeps_tables fun _ => keeps_ofStore _

theorem keeps_find (id ownerPermalink : String) (type : ConnectorType) :
    Keeps R (find id ownerPermalink type) fun _ => True := by
  refine keeps_seq keeps_tables fun t => ?_
  split
  · exact keeps_pure trivial
  · exact keeps_pure trivial
  · exact keeps_throw _

theorem keeps_write (f : Tables → Except StoreError Tables) : Keeps R (write f) fun _ => True :=
  keeps_seq keeps_get fun _ => keeps_seq (keeps_ofStore _) fun _ => keeps_modify fun _ => rfl

theorem keeps_newConnectorUid : Keeps R newConnectorUid fun _ => True := by
  refine keeps_seq keeps_get fun p => ?_
  split
  · exact keeps_pure trivial
  · exact fun _ hp => ⟨hp, fun _ _ => trivial⟩

theorem keeps_insertConnector (c : Connector) : Keeps R (insertConnector c) fun _ => True :=
  keeps_bind keeps_get fun _ hp => keeps_seq (keeps_set hp) fun _ => keeps_write _

theorem keeps_submit (options : StartOptions) (params : WorkflowParams) :
    Keeps R (submit options params) fun _ => True := by
  refine keeps_seq (fun _ hp => ⟨hp, fun _ _ => trivial⟩) fun r => ?_
  split
  · exact keeps_pure trivial
  · exact keeps_throw _

/-- **Masking**: what `masked` returns is masked by the plane's registry. -/
theorem keeps_masked (c : Connector) : Keeps R (masked c) R.Masked := by
  unfold masked
  split
  · rename_i hnone
    exact keeps_pure fun conf hc => by simp [hnone] at hc
  · refine keeps_bind keeps_get fun p hp => ?_
    refine keeps_bind (keeps_ofRegistry _) fun conf' hconf' => keeps_pure ?_
    intro conf hc
    cases hc
    have hmasked := Registry.mask_leavesMasked hconf'
    rw [hp] at hmasked
    exact hmasked

theorem keeps_mapM_masked : ∀ cs : List Connector,
    Keeps R (cs.mapM masked) fun cs' => ∀ c ∈ cs', R.Masked c
  | [] => keeps_pure (by simp)
  | c :: cs => by
    rw [List.mapM_cons]
    refine keeps_bind (keeps_masked c) fun c' hc' => ?_
    refine keeps_bind (keeps_mapM_masked cs) fun cs' hcs' => keeps_pure ?_
    intro d hd
    rcases List.mem_cons.1 hd with rfl | hd
    · exact hc'
    · exact hcs' d hd

theorem keeps_load_masked (id : String) (owner : Owner) (type : ConnectorType) (view : View) :
    Keeps R (load id owner type view >>= masked) R.Masked :=
  keeps_seq (keeps_load _ _ _ _) keeps_masked

end Steps

/-! ## The operations that return connectors -/

section Operations

variable {R : Registry} (owner : Owner) (type : ConnectorType)

theorem keeps_create (id definitionName description : String) (configuration : Json) :
    Keeps R (create owner type id definitionName description configuration) R.Masked := by
  unfold create
  dsimp only
  refine keeps_seq (keeps_ofExcept _) fun _ => ?_
  split
  · refine keeps_seq (keeps_ofExcept _) fun definitionId => ?_
    refine keeps_seq keeps_get fun p => ?_
    split
    · refine keeps_seq keeps_newConnectorUid fun uid => ?_
      refine keeps_seq keeps_now fun t => ?_
      refine keeps_seq (keeps_find _ _ _) fun found => ?_
      split
      · exact keeps_fail_bind _ _
      · exact keeps_seq (keeps_insertConnector _) fun _ => keeps_masked _
    · exact keeps_fail _
  · exact keeps_fail_bind _ _

theorem keeps_list (pageSize : Nat) (pageToken : String) (view : View) :
    Keeps R (list owner type pageSize pageToken view) fun page => ∀ c ∈ page.items, R.Masked c := by
  unfold list
  refine keeps_seq keeps_tables fun t => ?_
  refine keeps_seq (keeps_ofStore _) fun page => ?_
  exact keeps_bind (keeps_mapM_masked _) fun items h => keeps_pure h

theorem keeps_getConnector (name : String) (view : View) :
    Keeps R (getConnector owner type name view) R.Masked :=
  keeps_seq (keeps_ofExcept _) fun id => keeps_load_masked id owner type view

theorem keeps_lookup (permalink : String) (view : View) :
    Keeps R (lookup owner type permalink view) R.Masked := by
  unfold lookup
  refine keeps_seq (keeps_ofExcept _) fun uid => ?_
  refine keeps_seq keeps_tables fun t => ?_
  exact keeps_seq (keeps_ofStore _) keeps_masked

theorem keeps_update (name : String) (description : Option String) (configuration : Option Json) :
    Keeps R (update owner type name description configuration) R.Masked := by
  unfold update
  refine keeps_seq (keeps_ofExcept _) fun id => ?_
  refine keeps_seq (keeps_load _ _ _ _) fun existing => ?_
  extract_lets finish
  -- what follows once the new configuration is known: refuse an empty change, or stamp and reload
  have hfinish : ∀ conf, Keeps R (finish conf) R.Masked := by
    intro conf
    simp only [finish]
    split
    · exact keeps_fail_bind _ _
    · refine keeps_seq keeps_now fun t => ?_
      refine keeps_seq (keeps_modify fun _ => rfl) fun _ => ?_
      exact keeps_load_masked _ _ _ _
  split
  · rw [pure_bind]
    exact hfinish none
  · extract_lets merge
    split
    · simp only [merge]
      refine keeps_seq keeps_get fun p => ?_
      refine keeps_seq (keeps_ofRegistry _) fun patch => ?_
      rw [pure_bind]
      exact hfinish _
    · exact keeps_fail_bind _ _

theorem keeps_rename (name newId : String) : Keeps R (rename owner type name newId) R.Masked := by
  unfold rename
  refine keeps_seq (keeps_ofExcept _) fun id => ?_
  refine keeps_seq (keeps_ofExcept _) fun _ => ?_
  refine keeps_seq (keeps_load _ _ _ _) fun _ => ?_
  extract_lets finish
  have hfinish : ∀ u, Keeps R (finish u) R.Masked := by
    intro u
    simp only [finish]
    refine keeps_seq keeps_now fun t => ?_
    refine keeps_seq (keeps_write _) fun _ => ?_
    exact keeps_load_masked _ _ _ _
  split
  · refine keeps_seq (keeps_find _ _ _) fun found => ?_
    split
    · exact keeps_fail_bind _ _
    · exact hfinish ()
  · exact hfinish ()

theorem keeps_connect (name : String) :
    Keeps R (connect owner type name) fun r => R.Masked r.1 := by
  unfold connect
  refine keeps_seq (keeps_ofExcept _) fun id => ?_
  refine keeps_seq (keeps_load _ _ _ _) fun connector => ?_
  refine keeps_seq keeps_get fun p => ?_
  refine keeps_seq (keeps_ofRegistry _) fun definition => ?_
  refine keeps_seq keeps_get fun p => ?_
  refine keeps_seq (keeps_submit _ _) fun run => ?_
  exact keeps_bind (keeps_masked _) fun c h => keeps_pure h

theorem keeps_disconnect (name : String) : Keeps R (disconnect owner type name) R.Masked := by
  unfold disconnect
  refine keeps_seq (keeps_ofExcept _) fun id => ?_
  refine keeps_seq (keeps_load _ _ _ _) fun _ => ?_
  refine keeps_seq keeps_now fun t => ?_
  refine keeps_seq (keeps_modify fun _ => rfl) fun _ => ?_
  exact keeps_load_masked _ _ _ _

/-- **No service returns a stored secret.** From any plane, every connector that `create`,
`list`, `getConnector`, `lookup`, `update`, `rename`, `connect` and `disconnect` return is masked
by the plane's registry, by the credential paths of the connector's own definition. -/
theorem services_return_masked_connectors (p : Plane) :
    (∀ id definitionName description configuration c,
      ((create owner type id definitionName description configuration).run.run p).1 = .ok c →
        p.registry.Masked c) ∧
    (∀ pageSize pageToken view page,
      ((list owner type pageSize pageToken view).run.run p).1 = .ok page →
        ∀ c ∈ page.items, p.registry.Masked c) ∧
    (∀ name view c, ((getConnector owner type name view).run.run p).1 = .ok c →
      p.registry.Masked c) ∧
    (∀ permalink view c, ((lookup owner type permalink view).run.run p).1 = .ok c →
      p.registry.Masked c) ∧
    (∀ name description configuration c,
      ((update owner type name description configuration).run.run p).1 = .ok c →
        p.registry.Masked c) ∧
    (∀ name newId c, ((rename owner type name newId).run.run p).1 = .ok c →
      p.registry.Masked c) ∧
    (∀ name r, ((connect owner type name).run.run p).1 = .ok r → p.registry.Masked r.1) ∧
    (∀ name c, ((disconnect owner type name).run.run p).1 = .ok c → p.registry.Masked c) :=
  ⟨fun id d desc conf c h => (keeps_create owner type id d desc conf p rfl).2 c h,
    fun n token view page h => (keeps_list owner type n token view p rfl).2 page h,
    fun name view c h => (keeps_getConnector owner type name view p rfl).2 c h,
    fun permalink view c h => (keeps_lookup owner type permalink view p rfl).2 c h,
    fun name desc conf c h => (keeps_update owner type name desc conf p rfl).2 c h,
    fun name newId c h => (keeps_rename owner type name newId p rfl).2 c h,
    fun name r h => (keeps_connect owner type name p rfl).2 r h,
    fun name c h => (keeps_disconnect owner type name p rfl).2 c h⟩

end Operations

/-- A destination definition whose one credential is `password`. -/
def passwordDefinition : Definition where
  uid := Uuid.ofNat 7
  id := "pg"
  title := ""
  connectorType := .destination
  dockerRepository := ""
  dockerImageTag := ""
  documentationUrl := ""
  spec := none
  createTime := Instant.ofParts 0 0 0
  updateTime := Instant.ofParts 0 0 0

/-- No connectors yet, and a registry holding only `passwordDefinition`. -/
def passwordPlane : Plane where
  tables := {}
  registry := ⟨[⟨.destination, [passwordDefinition], [("pg", ["password"])]⟩], [Uuid.ofNat 7]⟩
  dispatcher := ⟨"", 0⟩
  engine := .disabled
  clock := ⟨Instant.ofParts 19723 0 0, 0⟩
  stamping := .fresh 0

/-- Creating a connector with a password succeeds, and what it returns is masked. -/
theorem create_returns_masked_connector :
    ∃ c, ((create ⟨Uuid.ofNat 1, "x"⟩ .destination "db" "connector-definitions/pg" ""
        (.obj [("password", .str "hunter2"), ("host", .str "db")])).run.run passwordPlane).1 =
        .ok c ∧ passwordPlane.registry.Masked c := by
  have hok : ((create ⟨Uuid.ofNat 1, "x"⟩ .destination "db" "connector-definitions/pg" ""
      (.obj [("password", .str "hunter2"), ("host", .str "db")])).run.run passwordPlane).1.isOk =
      true := by decide +kernel
  cases h : ((create ⟨Uuid.ofNat 1, "x"⟩ .destination "db" "connector-definitions/pg" ""
      (.obj [("password", .str "hunter2"), ("host", .str "db")])).run.run passwordPlane).1 with
  | error e => rw [h] at hok; cases hok
  | ok c => exact ⟨c, rfl, (services_return_masked_connectors _ _ passwordPlane).1 _ _ _ _ c h⟩

end Plane

end ConnectorPlane
