import ConnectorPlane.Json.Basic

/-! # Hiding credentials in configurations

A configuration names its values by dotted paths: the member `host` of the object under
`tunnel` is `tunnel.host`. Objects are walked in key order, depth first; every value that is not
an object is a *leaf*, and a predicate on paths says which leaves are credentials.

* `Json.mask` replaces every credential leaf by `maskSentinel`, whatever its type.
* `Json.strip` removes the credential leaves that hold exactly the sentinel, so a masked
  configuration sent back unchanged does not overwrite the stored secrets.
* `Json.leafPaths` lists the leaves in walking order; both operations consult the predicate
  on exactly these paths, in this order.

A document that is not an object has no paths and is left as it is.
-/

namespace ConnectorPlane

/-- The text that stands in for a hidden credential. -/
def maskSentinel : String := "*****MASK*****"

namespace Json

/-- The paths of the leaves under an object's members, each prefixed by `pre`. -/
def leafPathsIn (pre : String) : List (String × Json) → List String
  | [] => []
  | (k, .obj child) :: rest => leafPathsIn (pre ++ k ++ ".") child ++ leafPathsIn pre rest
  | (k, _) :: rest => (pre ++ k) :: leafPathsIn pre rest
termination_by fs => sizeOf fs
decreasing_by
  all_goals simp only [List.cons.sizeOf_spec, Prod.mk.sizeOf_spec, Json.obj.sizeOf_spec]
  all_goals omega

/-- The paths of the leaves of a document, in walking order. -/
def leafPaths : Json → List String
  | .obj fs => leafPathsIn "" fs
  | _ => []

/-- Masks the credential leaves among an object's members. -/
def maskIn (isCredential : String → Bool) (pre : String) :
    List (String × Json) → List (String × Json)
  | [] => []
  | (k, .obj child) :: rest =>
    (k, .obj (maskIn isCredential (pre ++ k ++ ".") child)) :: maskIn isCredential pre rest
  | (k, v) :: rest =>
    (k, if isCredential (pre ++ k) then .str maskSentinel else v) :: maskIn isCredential pre rest
termination_by fs => sizeOf fs
decreasing_by
  all_goals simp only [List.cons.sizeOf_spec, Prod.mk.sizeOf_spec, Json.obj.sizeOf_spec]
  all_goals omega

/-- Replaces every credential leaf by the sentinel. -/
def mask (isCredential : String → Bool) : Json → Json
  | .obj fs => .obj (maskIn isCredential "" fs)
  | v => v

/-- Whether a value is exactly the sentinel string. -/
def isSentinel : Json → Bool
  | .str s => s == maskSentinel
  | _ => false

/-- Drops the masked credential leaves among an object's members. -/
def stripIn (isCredential : String → Bool) (pre : String) :
    List (String × Json) → List (String × Json)
  | [] => []
  | (k, .obj child) :: rest =>
    (k, .obj (stripIn isCredential (pre ++ k ++ ".") child)) :: stripIn isCredential pre rest
  | (k, v) :: rest =>
    if isCredential (pre ++ k) && isSentinel v then stripIn isCredential pre rest
    else (k, v) :: stripIn isCredential pre rest
termination_by fs => sizeOf fs
decreasing_by
  all_goals simp only [List.cons.sizeOf_spec, Prod.mk.sizeOf_spec, Json.obj.sizeOf_spec]
  all_goals omega

/-- Removes every credential leaf that holds the sentinel. -/
def strip (isCredential : String → Bool) : Json → Json
  | .obj fs => .obj (stripIn isCredential "" fs)
  | v => v

end Json

end ConnectorPlane
