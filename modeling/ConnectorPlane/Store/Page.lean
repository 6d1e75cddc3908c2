import ConnectorPlane.Time.Rfc3339
import ConnectorPlane.Uuid
import ConnectorPlane.Text.Base64
import ConnectorPlane.Text.Utf8

/-! # Pages of a listing

A listing returns at most a page of rows, newest first. A page size of zero asks for the
default of ten rows; more than a hundred is cut to a hundred.

A page token names the last row of the previous page by its creation time and uid. It is the
URL-safe unpadded base64 of `v1|<time>|<uid>`, the time with nine fraction digits and `Z`, the
uid hyphenated. `PageToken.decode` accepts only what `PageToken.encode` writes: after the
pieces are read, the token is written again and must come out the same, so a token cut short or
spelled another way is refused rather than read as a different position.
-/

namespace ConnectorPlane

/-- Rows per page when none is asked for. -/
def defaultPageSize : Nat := 10

/-- The most rows one page holds. -/
def maxPageSize : Nat := 100

/-- The page size served for a requested one. -/
def clampPageSize (requested : Nat) : Nat :=
  if requested = 0 then defaultPageSize
  else if requested > maxPageSize then maxPageSize
  else requested

/-- The position after which the next page starts. -/
structure PageToken where
  createTime : Instant
  uid : Uuid
deriving DecidableEq, Repr

/-- Why a page token was refused, in the order the checks run. -/
inductive TokenFault where
  | notBase64
  | notUtf8
  | wrongFieldCount
  | unsupportedVersion
  | badTimestamp
  | badUid
  | notCanonical
deriving DecidableEq, Repr

/-- The reason given for a refused token. -/
def TokenFault.text : TokenFault → String
  | .notBase64 => "not base64"
  | .notUtf8 => "not utf-8"
  | .wrongFieldCount => "wrong number of fields"
  | .unsupportedVersion => "unsupported version"
  | .badTimestamp => "bad timestamp"
  | .badUid => "bad uid"
  | .notCanonical => "not in canonical form"

namespace PageToken

/-- The text inside a token. -/
def plain (t : PageToken) : String := "v1|" ++ t.createTime.text ++ "|" ++ t.uid.text

/-- The token of a position. -/
def encode (t : PageToken) : String := Base64.encodeUrl (Utf8.encode t.plain)

/-- Reads a token back, refusing any text that `encode` would not write. -/
def decode (token : String) : Except TokenFault PageToken := do
  let bytes ← (Base64.decodeUrl token).elim (throw .notBase64) pure
  let raw ← (Utf8.decode bytes).elim (throw .notUtf8) pure
  match (raw.toList.splitOn '|').map String.ofList with
  | [version, ts, uid] =>
    if version ≠ "v1" then throw .unsupportedVersion
    let createTime ← match Instant.parseStrict ts with
      | .ok t => pure t
      | .error _ => throw .badTimestamp
    let uid ← (Uuid.parse? uid).elim (throw .badUid) pure
    let t : PageToken := ⟨createTime, uid⟩
    if t.encode ≠ token then throw .notCanonical
    pure t
  | _ => throw .wrongFieldCount

end PageToken

end ConnectorPlane
