import ConnectorPlane.Catalog.Error
import ConnectorPlane.Connector.Record
import ConnectorPlane.Toml.Read
import ConnectorPlane.Toml.Decode
import ConnectorPlane.Time.Rfc3339
import ConnectorPlane.Json.Redact

/-! # Catalog families

A catalog file declares the definitions of one family as a TOML array `definitions` of tables,
each with a `uid`, an `id`, a `docker_repository` and a `docker_image_tag`, and optionally a
`title`, a `documentation_url`, a `spec`, `credential_fields` and a `create_time` (a date-time
string). A definition without a creation time takes the time the file was loaded. Within a
family uids and ids are unique.

A definition's credential fields are those it lists and every property of its
`spec.connection_specification`, nested through `properties`, that is marked
`credential_field = true` or `airbyte_secret = true`; a property's path joins the names on
the way with dots.

A connection pairs a definition with a configuration. Its pre-check fails when the
configuration is not an object or lacks a key that `connection_specification.required` names.
-/

namespace ConnectorPlane

/-- The definitions of one family, with each definition's credential paths. -/
structure Family where
  kind : FamilyKind
  definitions : List Definition
  /-- Sorted credential paths per definition id. -/
  credentials : List (String × List String)
deriving Repr

/-- Inserts a text into a sorted list without duplicates. -/
def insertSorted (s : String) : List String → List String
  | [] => [s]
  | x :: xs => if s < x then s :: x :: xs else if s = x then x :: xs else x :: insertSorted s xs

namespace Catalog

/-- Whether a property is marked as a credential. -/
def isMarked (prop : Json) : Bool :=
  prop.get? "credential_field" == some (.bool true) || prop.get? "airbyte_secret" == some (.bool true)

mutual

/-- The marked properties under a schema's `properties`, prefixed by `pre`. -/
def schemaPaths (pre : String) : Json → List String
  | .obj fs => memberPaths pre fs
  | _ => []

/-- Looks for `properties` among a schema's members. -/
def memberPaths (pre : String) : List (String × Json) → List String
  | [] => []
  | (k, v) :: rest => if k == "properties" then propertyPaths pre v else memberPaths pre rest

/-- The marked properties of a `properties` object. -/
def propertyPaths (pre : String) : Json → List String
  | .obj fs => propertyListPaths pre fs
  | _ => []

/-- The marked properties among named properties, each followed by those nested in it. -/
def propertyListPaths (pre : String) : List (String × Json) → List String
  | [] => []
  | (name, prop) :: rest =>
    let path := pre ++ name
    (if isMarked prop then [path] else []) ++ schemaPaths (path ++ ".") prop ++
      propertyListPaths pre rest

end

/-- The credential paths a specification marks. -/
def specCredentials (spec : Json) : List String :=
  match spec.get? "connection_specification" with
  | some conn => schemaPaths "" conn
  | none => []

/-- The string entries of `connection_specification.required`. -/
def requiredFields (spec : Option Json) : List String :=
  match spec.bind (·.get? "connection_specification") |>.bind (·.get? "required") with
  | some (.arr items) => items.filterMap Json.getStr?
  | _ => []

/-- A creation time given as a string. -/
def timeField (v : TomlValue) : Option Instant :=
  match v with
  | .string s => match Instant.parseRelaxed s with
    | .ok t => some t
    | .error _ => none
  | _ => none

/-- One declared definition, as written. -/
structure Entry where
  uid : Uuid
  id : String
  title : String
  dockerRepository : String
  dockerImageTag : String
  documentationUrl : String
  spec : Option Json
  credentialFields : List String
  createTime : Option Instant

/-- Reads a declared definition from its table. -/
def Entry.decode (t : TomlValue) : Except DecodeError Entry := do
  if t.asTable?.isNone then throw (.invalidValue "definitions")
  let uid ← t.field "uid" fun v => v.asString?.bind Uuid.parse?
  let id ← t.field "id" TomlValue.asString?
  let title ← t.fieldOr "title" TomlValue.asString? ""
  let repo ← t.field "docker_repository" TomlValue.asString?
  let tag ← t.field "docker_image_tag" TomlValue.asString?
  let doc ← t.fieldOr "documentation_url" TomlValue.asString? ""
  let spec ← t.field? "spec" fun v => some v.toJson
  let creds ← t.fieldOr "credential_fields" TomlValue.asStrings? []
  let created ← t.field? "create_time" timeField
  pure ⟨uid, id, title, repo, tag, doc, spec, creds, created⟩

/-- Reads the declared definitions of a catalog document. -/
def decodeEntries (doc : TomlValue) : Except DecodeError (List Entry) := do
  let items ← doc.fieldOr "definitions" TomlValue.asArray? []
  items.mapM Entry.decode

end Catalog

namespace Family

/-- A family with no definitions. -/
def empty (kind : FamilyKind) : Family := ⟨kind, [], []⟩

/-- The definition of a uid. -/
def byUid? (f : Family) (uid : Uuid) : Option Definition := f.definitions.find? (·.uid == uid)

/-- The definition of an id. -/
def byId? (f : Family) (id : String) : Option Definition := f.definitions.find? (·.id == id)

/-- The uids in declaration order. -/
def uids (f : Family) : List Uuid := f.definitions.map (·.uid)

/-- The credential paths of a definition id. -/
def credentialFields (f : Family) (id : String) : List String :=
  ((f.credentials.find? (·.1 == id)).map (·.2)).getD []

/-- Whether a path is a credential of a definition id. -/
def isCredential (f : Family) (id path : String) : Bool := (f.credentialFields id).contains path

/-- Adds the declared definitions in order, refusing a repeated uid or id. -/
def addEntries (kind : FamilyKind) (loadedAt : Instant) :
    Family → List Catalog.Entry → Except RegistryError Family
  | f, [] => pure f
  | f, e :: rest =>
    if (f.byUid? e.uid).isSome then throw (.duplicateUid e.uid kind kind)
    else if (f.byId? e.id).isSome then throw (.duplicateId e.id kind.connectorType)
    else
      let fromSpec := match e.spec with
        | some s => Catalog.specCredentials s
        | none => []
      let fields := (e.credentialFields ++ fromSpec).foldl (fun acc p => insertSorted p acc) []
      let created := e.createTime.getD loadedAt
      let d : Definition := ⟨e.uid, e.id, e.title, kind.connectorType, e.dockerRepository,
        e.dockerImageTag, e.documentationUrl, e.spec, created, created⟩
      addEntries kind loadedAt
        { f with definitions := f.definitions ++ [d], credentials := f.credentials ++ [(e.id, fields)] }
        rest

/-- Reads a family from catalog text; `origin` names the text in errors and `loadedAt` dates
the definitions that give no creation time. -/
def ofToml (kind : FamilyKind) (text origin : String) (loadedAt : Instant) :
    Except RegistryError Family := do
  let doc ← match TomlValue.read text with
    | .ok d => pure d
    | .error _ => throw (.invalidCatalog origin "TOML parse error")
  let entries ← match Catalog.decodeEntries doc with
    | .ok es => pure es
    | .error _ => throw (.invalidCatalog origin "TOML parse error")
  addEntries kind loadedAt (empty kind) entries

end Family

/-- A definition paired with a configuration to check. -/
structure Connection where
  definitionUid : Uuid
  required : List String
  configuration : Json

namespace Connection

/-- The connection of a definition and a configuration. -/
def ofDefinition (d : Definition) (configuration : Json) : Connection :=
  ⟨d.uid, Catalog.requiredFields d.spec, configuration⟩

/-- The required keys the configuration lacks, in the order required; all of them when the
configuration is not an object. -/
def missingFields (c : Connection) : List String :=
  match c.configuration with
  | .obj fs => c.required.filter fun k => !Json.Fields.contains fs k
  | _ => c.required

/-- The pre-check: connected when the configuration is an object with every required key. -/
def test (c : Connection) : ConnectorState :=
  if !c.configuration.isObject then .error
  else if !c.missingFields.isEmpty then .error
  else .connected

end Connection

namespace Family

/-- Whether the family declares a uid. -/
def hasUid (f : Family) (uid : Uuid) : Bool := (f.byUid? uid).isSome

/-- The connection of one of the family's definitions and a configuration. -/
def connect (f : Family) (uid : Uuid) (configuration : Json) : Except RegistryError Connection :=
  match f.byUid? uid with
  | some d => pure (Connection.ofDefinition d configuration)
  | none => throw (.unknownDefinition uid.text)

end Family

end ConnectorPlane
