import ConnectorPlane.Catalog.Registry
import ConnectorPlane.Connector.Id
import ConnectorPlane.Store.Tables
import ConnectorPlane.Time.Clock
import ConnectorPlane.Workflow.Engine

/-! # The connector plane

The services work on a `Plane`: the store's tables, the registry of definitions, the dispatcher
and the engine it submits to, the wall clock, and how new records get the values the services
would otherwise draw from randomness and the clock. They run in `PlaneM`, where a failure ends
the operation but keeps what was done before it: a connector deleted before its teardown
submission fails stays deleted.

Names are taken apart here: `connectors/<id>`, `connector-definitions/<id>`, and permalinks whose
last segment must read as a uuid.
-/

namespace ConnectorPlane

/-- How new records get the values drawn from randomness and the wall clock. -/
inductive Stamping where
  /-- New connectors get uids from the draw sequence `seed`; times are stored as read. -/
  | fresh (seed : Nat)
  /-- Reproducible values: the n-th connector inserted is stored under uid
  `c0000000-0000-4000-8000-<n as 12 decimal digits>` with both times
  `2024-01-01T00:00:00Z` plus n seconds, and a definition time read from the clock is stored as
  `2023-06-01T00:00:00Z`. -/
  | pinned
deriving DecidableEq, Repr

namespace Stamping

/-- The number whose hexadecimal digits are the decimal digits of `n`. -/
def decimalAsHex (n : Nat) : Nat :=
  if h : n < 10 then n else decimalAsHex (n / 10) * 16 + n % 10
termination_by n
decreasing_by omega

/-- The uid of the n-th connector inserted under reproducible stamping. -/
def pinnedUid (n : Nat) : Uuid :=
  Uuid.ofNat (0xc0000000000040008000000000000000 + decimalAsHex n % Nat.pow 2 48)

/-- The stored time of the n-th connector inserted under reproducible stamping. -/
def pinnedTime (n : Nat) : Instant := (Instant.ofParts 19723 0 0).addNanos (n * 1000000000)

/-- The stored time of a definition whose time was read from the clock. -/
def definitionTime : Instant := Instant.ofParts 19509 0 0

end Stamping

/-- Everything the services read and change. -/
structure Plane where
  tables : Tables
  registry : Registry
  dispatcher : Dispatcher
  engine : Engine
  clock : Clock
  stamping : Stamping
  /-- Connectors inserted by the services so far. -/
  inserted : Nat := 0
  /-- Random draws taken so far. -/
  draws : Nat := 0
deriving Repr

/-- Service operations: failures end the operation and keep the plane as it was left. -/
abbrev PlaneM := ExceptT ServiceError (StateM Plane)

namespace Plane

/-- Fails with a service error. -/
def fail {α : Type} (e : ServiceError) : PlaneM α := throw e

/-- A store outcome as a service outcome. -/
def ofStore {α : Type} : Except StoreError α → PlaneM α
  | .ok a => pure a
  | .error e => throw (.ofStore e)

/-- A registry outcome as a service outcome. -/
def ofRegistry {α : Type} : Except RegistryError α → PlaneM α
  | .ok a => pure a
  | .error e => throw (.ofRegistry e)

/-- A name outcome as a service outcome. -/
def ofResource {α : Type} : Except ResourceError α → PlaneM α
  | .ok a => pure a
  | .error e => throw (.ofResource e)

/-- A pure service outcome. -/
def ofExcept {α : Type} : Except ServiceError α → PlaneM α
  | .ok a => pure a
  | .error e => throw e

/-- Reads the wall clock. -/
def now : StateM Plane Instant :=
  modifyGet fun p => let (t, c) := p.clock.read; (t, { p with clock := c })

/-- Draws a random uuid. -/
def drawUid : StateM Plane Uuid :=
  modifyGet fun p =>
    let seed := match p.stamping with
      | .fresh s => s
      | .pinned => 0
    (Uuid.fresh seed p.draws, { p with draws := p.draws + 1 })

/-- The tables. -/
def tables? : PlaneM Tables := return (← get).tables

/-- Runs a write on the tables, keeping them when it fails. -/
def write (f : Tables → Except StoreError Tables) : PlaneM Unit := do
  let t ← ofStore (f (← get).tables)
  modify fun p => { p with tables := t }

/-- The uid a connector created now will be stored under. -/
def newConnectorUid : PlaneM Uuid := do
  let p ← get
  match p.stamping with
  | .pinned => pure (Stamping.pinnedUid (p.inserted + 1))
  | .fresh _ => drawUid

/-- Inserts a connector, stamped as the plane stamps new records. -/
def insertConnector (c : Connector) : PlaneM Unit := do
  let p ← get
  let n := p.inserted + 1
  set { p with inserted := n }
  let stored := match p.stamping with
    | .pinned => { c with uid := Stamping.pinnedUid n, createTime := Stamping.pinnedTime n,
                          updateTime := Stamping.pinnedTime n }
    | .fresh _ => c
  write (·.createConnector stored)

/-- Upserts a definition, stamped as the plane stamps new records. -/
def upsertDefinition (d : Definition) : PlaneM Unit := do
  let p ← get
  let stamp := fun (t : Instant) => match p.stamping with
    | .pinned => if p.clock.isRecent t then Stamping.definitionTime else t
    | .fresh _ => t
  write (·.upsertDefinition { d with createTime := stamp d.createTime,
                                     updateTime := stamp d.updateTime })

/-- An owner's connector of an id and type. -/
def load (id : String) (owner : Owner) (type : ConnectorType) (view : View) : PlaneM Connector := do
  ofStore ((← tables?).getConnectorById id owner.permalink type view)

/-- The connector of an id and type, if the owner has one. -/
def find (id ownerPermalink : String) (type : ConnectorType) : PlaneM (Option Connector) := do
  match (← tables?).getConnectorById id ownerPermalink type .basic with
  | .ok c => pure (some c)
  | .error (.notFound _) => pure none
  | .error e => throw (.ofStore e)

/-- A connector with its definition's credentials masked; one read without its configuration
stays as it is. -/
def masked (c : Connector) : PlaneM Connector := do
  match c.configuration with
  | none => pure c
  | some conf => pure { c with configuration := some (← ofRegistry ((← get).registry.mask c.definitionUid conf)) }

/-- Starts a workflow on the engine; the run gets a drawn id if the engine accepts it. -/
def startWorkflow (options : StartOptions) (kind : WorkflowKind) (payload : Json) :
    StateM Plane (Except WorkflowError WorkflowRun) := do
  let runId := (← drawUid).text
  modifyGet fun p =>
    let (outcome, engine) := p.engine.start options kind payload runId
    (outcome, { p with engine })

/-- Submits a workflow through the dispatcher's engine. -/
def submit (options : StartOptions) (params : WorkflowParams) : PlaneM WorkflowRun := do
  match ← startWorkflow options params.kind params.toJson with
  | .ok run => pure run
  | .error e => throw (.ofWorkflow e)

end Plane

namespace Names

/-- The id of a name in a collection; a name in another collection is refused with `what`. -/
def idIn (collection what name : String) : Except ServiceError String := do
  let c ← (Resource.collection name).mapError ServiceError.ofResource
  if c ≠ collection then throw (.invalidArgument ("'" ++ name ++ "' is not a " ++ what))
  (Resource.id name).mapError ServiceError.ofResource

/-- The id of `connectors/<id>`. -/
def connectorId (name : String) : Except ServiceError String :=
  idIn "connectors" "connector name" name

/-- The id of `connector-definitions/<id>`. -/
def definitionId (name : String) : Except ServiceError String :=
  idIn "connector-definitions" "connector definition name" name

/-- The uid a permalink ends in. -/
def uid (permalink : String) : Except ServiceError Uuid := do
  let text ← (Resource.uid permalink).mapError ServiceError.ofResource
  match Uuid.parse? text with
  | some u => pure u
  | none => throw (.malformedPermalink permalink)

end Names

end ConnectorPlane
