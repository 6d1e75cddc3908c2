import ConnectorPlane.Catalog.Family
import ConnectorPlane.Host.Files
import ConnectorPlane.Time.Clock

/-! # Catalog directories

A catalog directory holds a file `<kind>.toml` for each family, read in the family order
destination, source, blockchain, ai. A family whose file is missing, or is not a regular file,
is empty. A file that is not UTF-8 fails with the operating system's words, and a file that is
not a valid catalog fails the whole directory. The clock is read once for each file that
parses, so that definitions of a later family are loaded later.
-/

namespace ConnectorPlane

namespace Family

/-- The family a catalog file gives, read at the clock; a path that holds no regular file gives
an empty family. -/
def load (fs : Files) (kind : FamilyKind) (path : String) (clock : Clock) :
    Except RegistryError (Family × Clock) :=
  match fs.lookup path with
  | .ok .directory | .error _ => .ok (empty kind, clock)
  | .ok _ =>
    match fs.readText path with
    | .error f => .error (.readCatalog path f.text)
    | .ok text =>
      let (loadedAt, clock) := clock.read
      (ofToml kind text path loadedAt).map fun f => (f, clock)

end Family

namespace Catalog

/-- The families of a catalog directory, in the family order. -/
def loadDir (fs : Files) (dir : String) (clock : Clock) :
    Except RegistryError (List Family × Clock) :=
  FamilyKind.order.foldlM (fun (acc : List Family × Clock) kind => do
    let (f, clock) ← Family.load fs kind (HostPath.join dir kind.catalogFile) acc.2
    pure (acc.1 ++ [f], clock)) ([], clock)

end Catalog

end ConnectorPlane
