import ConnectorPlane.Config.Basic
import ConnectorPlane.Connector.Record
import ConnectorPlane.Request.Metadata
import ConnectorPlane.Service.Error
import ConnectorPlane.Url

/-! # Who is calling

A request names its owner by uid in the `jwt-sub` header or by id in `owner-id`; a directory of
users turns either into an owner record.

* `resolveCaller`: a single non-empty `jwt-sub` wins; it must be the uuid of a known user, or the
  owner is not found. Without it, `owner-id` must be a single non-empty value, or the request
  is unauthenticated; an unknown id is not found.
* `Resolver.resolve` first names the configured default owner when the request names no owner
  id.
* A static directory keeps, of the users sharing a uid or an id, the last one configured.
* A remote directory is a management service reached over HTTP. This library has no network:
  every remote lookup fails as an unreachable service does, which resolution reports as an owner
  not found.
-/

namespace ConnectorPlane

/-- Where owners are looked up. -/
inductive Directory where
  /-- Users known up front, in the order configured. -/
  | static (users : List Owner)
  /-- A management service at a base URL. -/
  | remote (base : String)
deriving Repr

namespace Directory

/-- The owner of an id. -/
def getUser : Directory → String → Option Owner
  | .static users, id => users.reverse.find? (·.id == id)
  | .remote _, _ => none

/-- The owner of a uid. -/
def lookupUser : Directory → Uuid → Option Owner
  | .static users, uid => users.reverse.find? (·.uid == uid)
  | .remote _, _ => none

/-- The kind of directory, as configured. -/
def backend : Directory → IdentityBackend
  | .static _ => .static
  | .remote _ => .http

end Directory

/-- The owner a request names, looked up in a directory. -/
def resolveCaller (d : Directory) (md : Metadata) : Except ServiceError Owner :=
  let notFound := ServiceError.notFound "owner not found"
  match md.single headerOwnerUid with
  | some text =>
    match Uuid.parse? text with
    | some uid => (d.lookupUser uid).elim (.error notFound) .ok
    | none => .error notFound
  | none =>
    match md.single headerOwnerId with
    | some id => (d.getUser id).elim (.error notFound) .ok
    | none => .error (.unauthenticated "no owner identity in request")

/-- A directory with the owner id used when a request names none. -/
structure Resolver where
  directory : Directory
  defaultOwnerId : String
deriving Repr

namespace Resolver

/-- The resolver an identity section configures. -/
def ofConfig (c : IdentityConfig) : Except ServiceError Resolver := do
  let directory ← match c.backend with
    | .static =>
      Directory.static <$> c.users.mapM fun u =>
        match Uuid.parse? u.uid with
        | some uid => pure ⟨uid, u.id⟩
        | none => throw (.config ("identity user '" ++ u.id ++ "' has invalid uid"))
    | .http =>
      match c.url with
      | none => throw (.config "identity.url is required for the http backend")
      | some url =>
        match Url.check url with
        | .ok () => pure (.remote url)
        | .error f => throw (.config ("invalid identity url: " ++ f.text))
  pure ⟨directory, c.defaultOwnerId⟩

/-- The owner of a request, the default owner id applied first. -/
def resolve (r : Resolver) (md : Metadata) : Except ServiceError Owner :=
  resolveCaller r.directory (md.withDefaultOwner r.defaultOwnerId)

end Resolver

end ConnectorPlane
