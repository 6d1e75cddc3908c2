import ConnectorPlane.Store.Error
import ConnectorPlane.Store.Page

/-! # Listing a scope page by page

The rows of a scope are listed newest first: by creation time, then by uid, both compared as
the stored text, largest first. A token resumes strictly after the position it names, so rows
added or removed between two requests neither repeat nor shift a page. The total counts the
whole scope, whatever the token. A page that comes back full carries the token of its last row,
unless that row is the oldest of the scope: then no further page exists and none is offered.
-/

namespace ConnectorPlane

/-- Where a row stands in a listing: its stored creation time and its uid, as text. -/
structure Position where
  time : String
  uid : String
deriving DecidableEq, Repr

namespace Position

/-- Text order on the time, then on the uid. -/
def lt (a b : Position) : Bool :=
  decide (a.time < b.time) || (a.time == b.time && decide (a.uid < b.uid))

/-- The position a page token names, written as the rows are. -/
def ofToken (t : PageToken) : Position := ⟨t.createTime.text, t.uid.text⟩

end Position

/-- One page of a listing. -/
structure Page (α : Type) where
  items : List α
  totalSize : Nat
  nextPageToken : String

namespace Listing

/-- The rows newest first. -/
def newestFirst {α : Type} (pos : α → Position) (rows : List α) : List α :=
  rows.mergeSort (fun a b => !(pos a).lt (pos b))

/-- The oldest row. -/
def oldest? {α : Type} (pos : α → Position) : List α → Option α
  | [] => none
  | r :: rest => some (rest.foldl (fun o x => if (pos x).lt (pos o) then x else o) r)

/-- The cursor a token names; the empty token names none. -/
def cursor (token : String) : Except StoreError (Option PageToken) :=
  if token.isEmpty then .ok none
  else match PageToken.decode token with
    | .ok t => .ok (some t)
    | .error f => .error (.invalidPageToken f.text)

end Listing

/-- A page of the rows of a scope: rows are read back by `read`, and a read item names its own
position through `resume`. -/
def listPage {α β : Type} (rows : List α) (pos : α → Position) (read : α → Except StoreError β)
    (resume : β → PageToken) (pageSize : Nat) (token : String) : Except StoreError (Page β) := do
  let cursor ← Listing.cursor token
  let limit := clampPageSize pageSize
  let after := match cursor with
    | none => rows
    | some t => rows.filter (fun r => (pos r).lt (Position.ofToken t))
  let items ← ((Listing.newestFirst pos after).take limit).mapM read
  let next := match items.getLast?, Listing.oldest? pos rows with
    | some last, some o =>
      let p := resume last
      if items.length = limit ∧ (pos o).uid ≠ p.uid.text then p.encode else ""
    | _, _ => ""
  pure ⟨items, rows.length, next⟩

end ConnectorPlane
