import ConnectorPlane.Catalog.Family

/-! # The connector registry

The registry joins the families: destination, source, blockchain and AI, in that order, and
families of one kind in the order given. Every uid belongs to one family and every
`(kind, id)` to one definition; a build that would break this fails at the first definition that
does, in that order. Look-ups by uid go through the route table to the family that declared it;
credentials of a configuration are masked and stripped by its definition's credential paths. A
connection is made by the first family, in order, that declares the uid.
-/

namespace ConnectorPlane

/-- The families of connector definitions, routed by uid. -/
structure Registry where
  families : List Family
  uids : List Uuid
deriving Repr

namespace Registry

/-- Families of each kind in turn, keeping the given order within a kind. -/
def orderFamilies (families : List Family) : List Family :=
  FamilyKind.order.flatMap fun k => families.filter (·.kind == k)

/-- Registers one definition of a family of kind `kind`, given the routes and the (type, id)
keys taken so far: refused when its uid is routed already or its key is taken. -/
def addDefinition (kind : FamilyKind)
    (acc : List (Uuid × FamilyKind) × List (ConnectorType × String)) (d : Definition) :
    Except RegistryError (List (Uuid × FamilyKind) × List (ConnectorType × String)) :=
  match acc.1.find? (·.1 == d.uid) with
  | some (_, first) => throw (RegistryError.duplicateUid d.uid first kind)
  | none =>
    if acc.2.contains (d.connectorType, d.id) then
      throw (RegistryError.duplicateId d.id d.connectorType)
    else pure ((d.uid, kind) :: acc.1, (d.connectorType, d.id) :: acc.2)

/-- Registers the definitions of the families in turn. -/
def register : List Family → List (Uuid × FamilyKind) → List (ConnectorType × String) →
    Except RegistryError (List Uuid)
  | [], routes, _ => pure (routes.map (·.1)).reverse
  | f :: rest, routes, ids => do
    let (routes, ids) ← f.definitions.foldlM (addDefinition f.kind) (routes, ids)
    register rest routes ids

/-- Builds the registry of some families. -/
def build (families : List Family) : Except RegistryError Registry := do
  let families := orderFamilies families
  let uids ← register families [] []
  pure ⟨families, uids⟩

/-- The number of definitions. -/
def size (r : Registry) : Nat := r.uids.length

/-- The route table: each declared uid with the position of its family, in registration order. -/
def routes (r : Registry) : List (Uuid × Nat) :=
  r.families.zipIdx.flatMap fun (f, i) => f.uids.map (·, i)

/-- The position of the family a uid is routed to. -/
def route? (r : Registry) (uid : Uuid) : Option Nat :=
  (r.routes.find? (·.1 == uid)).map (·.2)

/-- The family that declares a uid, by the route table. -/
def familyOf? (r : Registry) (uid : Uuid) : Option Family :=
  (r.route? uid).bind fun i => r.families[i]?

/-- The definition of a uid. -/
def byUid? (r : Registry) (uid : Uuid) : Option Definition :=
  (r.familyOf? uid).bind (·.byUid? uid)

/-- The definition of a uid, or the error naming it. -/
def byUid (r : Registry) (uid : Uuid) : Except RegistryError Definition :=
  match r.byUid? uid with
  | some d => pure d
  | none => throw (.unknownDefinition uid.text)

/-- The definitions in registration order. -/
def definitions (r : Registry) : List Definition := r.uids.filterMap r.byUid?

/-- The definition of an id among the families of a kind. -/
def byId? (r : Registry) (id : String) (t : ConnectorType) : Option Definition :=
  (r.families.filter (·.kind.connectorType == t)).findSome? (·.byId? id)

/-- The credential predicate of a definition. -/
def credentialPredicate (r : Registry) (uid : Uuid) : Except RegistryError (String → Bool) :=
  match r.familyOf? uid, r.byUid? uid with
  | some f, some d => pure (f.isCredential d.id)
  | _, _ => throw (.unknownDefinition uid.text)

/-- Whether a path is a credential of a definition. -/
def isCredential (r : Registry) (uid : Uuid) (path : String) : Except RegistryError Bool := do
  pure ((← r.credentialPredicate uid) path)

/-- A configuration with the definition's credentials masked. -/
def mask (r : Registry) (uid : Uuid) (configuration : Json) : Except RegistryError Json := do
  pure (configuration.mask (← r.credentialPredicate uid))

/-- A configuration without the masked credentials of the definition. -/
def strip (r : Registry) (uid : Uuid) (configuration : Json) : Except RegistryError Json := do
  pure (configuration.strip (← r.credentialPredicate uid))

/-- The connection of a definition and a configuration, made by the first family, in order,
that declares the uid. -/
def dispatch (r : Registry) (uid : Uuid) (configuration : Json) :
    Except RegistryError Connection :=
  match r.families.find? (·.hasUid uid) with
  | some f => f.connect uid configuration
  | none => throw (.unknownDefinition uid.text)

end Registry

end ConnectorPlane
