import ConnectorPlane.Json.Basic

/-! # JSON merge patches

A merge patch (RFC 7386) describes a change to a document by example. A patch that is not an
object replaces the target. An object patch turns a non-object target into `{}` and then, for
each of its members in key order, removes the member when the patch value is `null` and
otherwise patches the target's member (or `null` when it has none) with it.
-/

namespace ConnectorPlane

namespace Json

/-- Applies a merge patch to a target. -/
def mergePatch : Json → Json → Json
  | target, .obj patch =>
    let base := match target with
      | .obj fs => fs
      | _ => []
    .obj (applyMembers base patch)
  | _, patch => patch
where
  /-- Applies patch members to the members of an object. -/
  applyMembers (acc : List (String × Json)) : List (String × Json) → List (String × Json)
    | [] => acc
    | (k, .null) :: rest => applyMembers (Fields.erase k acc) rest
    | (k, v) :: rest =>
      applyMembers (Fields.insert k (mergePatch ((Fields.get? acc k).getD .null) v) acc) rest

end Json

end ConnectorPlane
