import ConnectorPlane.Catalog.Directory
import ConnectorPlane.Config.Discovery
import ConnectorPlane.Console.Process
import ConnectorPlane.Identity
import ConnectorPlane.Service.Definitions
import ConnectorPlane.Service.Runs
import ConnectorPlane.Store.Repository

/-! # A session on the connector plane

The catalog and connector commands start a session first, in this order, the first failure
ending the program:

1. open the store at the configured database path (`opening store at <path>`);
2. load the catalog directory (`loading catalog from <dir>`) and build the registry;
3. set up the owner resolver from the identity section;
4. start the embedded workflow engine on its database, unless the pipeline is disabled;
5. copy the catalog's definitions into the store.

Relative paths are taken from the data directory, and that from the working directory.
Everything a session writes to the store stays there when the session ends, a failure
included; submitted runs are waited for only when the engine runs in the session.
-/

namespace ConnectorPlane

namespace Console

/-- What a started session works with. -/
structure Session where
  plane : Plane
  resolver : Resolver
  pipeline : PipelineSection
  repository : Repository
  /-- What the session wrote to standard output. -/
  out : String := ""
deriving Repr

/-- Steps of a session; a failure ends it and keeps what was done. -/
abbrev SessionM := ExceptT Failure (StateM Session)

namespace Session

/-- Writes to standard output. -/
def say (s : String) : SessionM Unit := modify fun p => { p with out := p.out ++ s }

/-- Runs a service operation on the plane. -/
def onPlane {α : Type} (m : PlaneM α) : SessionM α := do
  let s ← get
  let (r, plane) := m.run.run s.plane
  set { s with plane }
  match r with
  | .ok a => pure a
  | .error e => throw e.toFailure

/-- The owner a request's metadata names. -/
def owner (md : Metadata) : SessionM Owner := do
  match (← get).resolver.resolve md with
  | .ok o => pure o
  | .error e => throw e.toFailure

/-- Waits for a submitted run when the engine runs in the session, for at most the pipeline's
timeout. -/
def wait (run : WorkflowRun) : SessionM Unit := do
  let s ← get
  if s.pipeline.enabled then
    let (r, plane) := (Plane.waitRun run.workflowId (s.pipeline.pipelineTimeoutSecs * 1000)).run s.plane
    set { s with plane }
    match r with
    | .ok _ => pure ()
    | .error e => throw e.toFailure

/-- Writes the session's store back to its file and its output to the process. -/
def close (s : Session) : ProcessM Unit :=
  modify fun p => { p with
    out := p.out ++ s.out,
    host := { p.host with
      files := { s.repository with tables := s.plane.tables }.close p.host.files,
      clock := s.plane.clock } }

/-- Starts a session on a configuration. -/
def start (c : Config) : ProcessM Session := do
  let h ← Process.currentHost
  let dataDir := Config.dataDir h.env
  let dbPath := c.databasePath dataDir
  let (repository, files) ← Process.orFail ((Repository.openIn h.files h.cwd dbPath).mapError
    fun e => e.toFailure.within ("opening store at " ++ dbPath))
  Process.setFiles files
  let catalogDir := c.catalogDir dataDir
  let (families, clock) ← Process.orFail ((Catalog.loadDir files (HostPath.join h.cwd catalogDir)
    h.clock).mapError fun e => e.toFailure.within ("loading catalog from " ++ catalogDir))
  let registry ← Process.orFail ((Registry.build families).mapError RegistryError.toFailure)
  let resolver ← Process.orFail ((Resolver.ofConfig c.identityOrDefault).mapError
    ServiceError.toFailure)
  let pipeline := c.pipelineOrDefault
  let engine ← if pipeline.enabled then
      match Pipeline.openAt files (HostPath.join h.cwd (c.pipelineDatabasePath dataDir))
          pipeline.taskQueue true with
      | .ok (p, fs) => do
        Process.setFiles fs
        pure (Engine.pipeline p)
      | .error e => throw e.toFailure
    else pure Engine.disabled
  let plane : Plane :=
    { tables := repository.tables, registry, engine, clock, stamping := .fresh h.seed,
      dispatcher := ⟨pipeline.taskQueue, clock.current.unixNanos⟩ }
  let (r, plane) := Plane.seed.run.run plane
  let s : Session := { plane, resolver, pipeline, repository }
  match r with
  | .ok _ => pure s
  | .error e => do
    close s
    throw e.toFailure

/-- Runs steps in a session started on a configuration, and closes it. -/
def within (c : Config) (body : SessionM Unit) : ProcessM Unit := do
  let s ← start c
  let (r, s) := body.run.run s
  close s
  Process.orFail r

end Session

end Console

end ConnectorPlane
