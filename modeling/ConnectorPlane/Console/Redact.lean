import ConnectorPlane.Store.Page

/-! # Redacting transcripts

Two runs of the program differ where it writes values of the moment: the scratch directory it
runs in, the current time, fresh uids, and page tokens that carry both. Redaction replaces
them by stable marks so that transcripts can be compared, applying these rules in order:

1. the scratch directory becomes `$TMP`;
2. a run of at least 40 characters from `A-Z a-z 0-9 _ -` that reads as URL-safe base64 of the
   text `v1|<time>|<uid>` becomes `<token v1|<time'>|<uid'>>`, its time and uid redacted by
   rules 3 and 5;
3. an RFC 3339 time between the start of the session and now becomes `<NOW>`;
4. a 19-digit number standing alone whose value, as nanoseconds since the epoch, lies in that
   window becomes `<NOW_NS>`;
5. a uuid that the request does not name becomes `<uuid-N>`, numbered by first appearance.

Matches are found from left to right without overlapping. Redaction remembers the uuids it
labelled and the last page token it saw, so that a later request can name them by their marks
(`Redaction.restore`).
-/

namespace ConnectorPlane

namespace Console

/-- What redaction keeps across the transcripts of one session. -/
structure Redaction where
  /-- The scratch directory, written `$TMP`. -/
  root : String
  /-- The start of the window of current times. -/
  since : Instant
  /-- Uuids that stay as written, in lowercase: those the request names. -/
  kept : List String
  /-- The uuids labelled so far, in label order. -/
  labels : List String := []
  /-- The last page token seen, as written. -/
  lastToken : Option String := none
deriving Repr

namespace Redaction

/-- Recognizes a match at the head of a text, given the character before it: the number of
characters of the match after its first. -/
abbrev Matcher := Option Char → List Char → Option Nat

/-- Rewrites every match, leftmost first and without overlaps, through `f`, which may update
the redaction. -/
def rewrite (m : Matcher) (f : Redaction → List Char → List Char × Redaction) :
    Option Char → List Char → Redaction → List Char × Redaction
  | _, [], r => ([], r)
  | prev, c :: rest, r =>
    match m prev (c :: rest) with
    | some k =>
      let hit := c :: rest.take k
      let (out, r) := f r hit
      let (more, r) := rewrite m f hit.getLast? (rest.drop k) r
      (out ++ more, r)
    | none =>
      let (more, r) := rewrite m f (some c) rest r
      (c :: more, r)
termination_by _ cs => cs.length
decreasing_by
  all_goals simp only [List.length_drop, List.length_cons]
  all_goals omega

/-- Whether a character belongs to a word. -/
def isWordChar (c : Char) : Bool := c.isAlphanum || c == '_'

/-- Whether a character may be part of a page token. -/
def isTokenChar (c : Char) : Bool := c.isAlphanum || c == '_' || c == '-'

/-- Whether a text starts with the shape of a pattern: `d` a digit, `h` a hex digit, any other
character itself. -/
def fitsShape (shape : List Char) (cs : List Char) : Bool :=
  cs.length ≥ shape.length && (shape.zip cs).all fun (s, c) =>
    if s = 'd' then c.isDigit
    else if s = 'h' then c.isDigit || ('a' ≤ c.toLower && c.toLower ≤ 'f')
    else c = s

/-- A run of at least 40 token characters. -/
def tokenAt : Matcher := fun _ cs =>
  let n := (cs.takeWhile isTokenChar).length
  if n ≥ 40 then some (n - 1) else none

/-- `dddd-dd-ddTdd:dd:dd`, an optional fraction, then `Z` or an offset `+dd:dd`/`-dd:dd`. -/
def timestampAt : Matcher := fun _ cs =>
  if !fitsShape "dddd-dd-ddTdd:dd:dd".toList cs then none
  else
    let rest := cs.drop 19
    let fraction := match rest with
      | '.' :: r => let n := (r.takeWhile Char.isDigit).length; if n = 0 then 0 else n + 1
      | _ => 0
    match rest.drop fraction with
    | 'Z' :: _ => some (19 + fraction)
    | c :: more =>
      if (c = '+' || c = '-') && fitsShape "dd:dd".toList more then some (24 + fraction) else none
    | [] => none

/-- Nineteen digits with no word character on either side. -/
def nanosAt : Matcher := fun prev cs =>
  if prev.any isWordChar then none
  else if fitsShape (List.replicate 19 'd') cs && !((cs.drop 19).head?.any isWordChar) then some 18
  else none

/-- A hyphenated uuid in hex digits of either case. -/
def uuidAt : Matcher := fun _ cs =>
  if fitsShape "hhhhhhhh-hhhh-hhhh-hhhh-hhhhhhhhhhhh".toList cs then some 35 else none

/-- Whether an instant lies in the window, from the start of the session to `now`. -/
def inWindow (r : Redaction) (now t : Instant) : Bool := !(t.lt r.since) && !(now.lt t)

/-- Rule 3 on a text. -/
def times (now : Instant) (cs : List Char) (r : Redaction) : List Char × Redaction :=
  rewrite timestampAt (fun r hit =>
    match Instant.parseStrict (String.ofList hit) with
    | .ok t => (if r.inWindow now t then "<NOW>".toList else hit, r)
    | .error _ => (hit, r)) none cs r

/-- Rule 4 on a text. -/
def nanos (now : Instant) (cs : List Char) (r : Redaction) : List Char × Redaction :=
  rewrite nanosAt (fun r hit =>
    let n : Int := ((String.ofList hit).toNat?).getD 0
    (if r.since.unixNanos ≤ n && n ≤ now.unixNanos then "<NOW_NS>".toList else hit, r)) none cs r

/-- The mark of a uuid, labelling it when it is new. -/
def label (r : Redaction) (hit : List Char) : List Char × Redaction :=
  let lower := (String.ofList hit).toLower
  if r.kept.contains lower then (hit, r)
  else match r.labels.findIdx? (· == lower) with
    | some i => (("<uuid-" ++ toString (i + 1) ++ ">").toList, r)
    | none =>
      (("<uuid-" ++ toString (r.labels.length + 1) ++ ">").toList, { r with labels := r.labels ++ [lower] })

/-- Rule 5 on a text. -/
def uuids (cs : List Char) (r : Redaction) : List Char × Redaction :=
  rewrite uuidAt label none cs r

/-- The redacted form of a page token, if the run reads as one. -/
def token (now : Instant) (r : Redaction) (hit : List Char) : List Char × Redaction :=
  let raw := String.ofList hit
  match (Base64.decodeUrl raw).bind Utf8.decode with
  | some plain =>
    match plain.splitOn "|" with
    | ["v1", t, u] =>
      let (t', r) := times now t.toList r
      let (u', r) := uuids u.toList r
      (("<token v1|" ++ String.ofList t' ++ "|" ++ String.ofList u' ++ ">").toList,
        { r with lastToken := some raw })
    | _ => (hit, r)
  | none => (hit, r)

/-- Redacts a text written by the time `now`. -/
def apply (r : Redaction) (now : Instant) (text : String) : String × Redaction :=
  let cs := (text.replace r.root "$TMP").toList
  let (cs, r) := rewrite tokenAt (token now) none cs r
  let (cs, r) := times now cs r
  let (cs, r) := nanos now cs r
  let (cs, r) := uuids cs r
  (String.ofList cs, r)

/-- The uuids a text names, in lowercase: those that stay as written. -/
def uuidsIn (text : String) : List String :=
  (rewrite uuidAt (fun r hit => (hit, { r with kept := r.kept ++ [(String.ofList hit).toLower] }))
    none text.toList ⟨"", Instant.epoch, [], [], none⟩).2.kept

/-- Puts back what marks stand for: `{tmp}` the scratch directory, `{token}` the last page token,
and `{uuid-N}` the uuid labelled N. -/
def restore (r : Redaction) (text : String) : String :=
  let text := text.replace "\x7btmp\x7d" r.root
  let text := match r.lastToken with
    | some t => text.replace "\x7btoken\x7d" t
    | none => text
  r.labels.zipIdx.foldl (fun acc (u, i) => acc.replace ("\x7buuid-" ++ toString (i + 1) ++ "\x7d") u) text

end Redaction

end Console

end ConnectorPlane
