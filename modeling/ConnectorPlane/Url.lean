/-! # Absolute URLs

An identity service is named by an absolute URL. `Url.check` tells whether a text is one, and
if not, why, following the WHATWG URL standard for a text read without a base:

* leading and trailing controls and spaces are ignored, and tabs and newlines anywhere;
* a scheme comes first: a letter, then letters, digits, `+`, `-` or `.`, then `:`;
* the special schemes `http`, `https`, `ws`, `wss` and `ftp` need a host after their slashes and
  after any user information (up to the last `@`); another scheme has a host only after `//`;
* a port, if given, is a decimal number up to 65535;
* a host in brackets must be an IPv6 address; the host of a special scheme is percent-decoded
  and must then be a domain free of the forbidden code points, and if its last label is a
  number the whole host must be an IPv4 address (parts in decimal, octal after `0` or
  hexadecimal after `0x`, the last part filling the bytes the others leave).

International domain names are taken as given: only their ASCII letters are folded.
-/

namespace ConnectorPlane

/-- Why a text is not an absolute URL. -/
inductive UrlFault where
  | relativeWithoutBase
  | emptyHost
  | invalidPort
  | invalidIpv4
  | invalidIpv6
  | invalidDomain
  | invalidDomainCharacter
deriving DecidableEq, Repr

/-- The wording of a fault. -/
def UrlFault.text : UrlFault → String
  | .relativeWithoutBase => "relative URL without a base"
  | .emptyHost => "empty host"
  | .invalidPort => "invalid port number"
  | .invalidIpv4 => "invalid IPv4 address"
  | .invalidIpv6 => "invalid IPv6 address"
  | .invalidDomain => "invalid international domain name"
  | .invalidDomainCharacter => "invalid domain character"

namespace Url

/-- The text without leading and trailing controls and spaces, and without tabs and newlines. -/
def clean (s : String) : List Char :=
  let edge := fun (c : Char) => c.toNat ≤ 0x20
  let cs := ((s.toList.dropWhile edge).reverse.dropWhile edge).reverse
  cs.filter fun c => !(c = '\t' || c = '\n' || c = '\r')

/-- The lowercased scheme and what follows its colon. -/
def scheme? : List Char → Option (String × List Char)
  | c :: rest =>
    if c.isAlpha then
      let body := rest.takeWhile fun d => d.isAlphanum || d = '+' || d = '-' || d = '.'
      match rest.drop body.length with
      | ':' :: after => some (String.ofList ((c :: body).map Char.toLower), after)
      | _ => none
    else none
  | [] => none

/-- Schemes whose URLs always have a host. -/
def specialSchemes : List String := ["http", "https", "ws", "wss", "ftp"]

/-- Whether a character ends the authority. -/
def endsAuthority (special : Bool) (c : Char) : Bool :=
  c = '/' || c = '?' || c = '#' || (special && c = '\\')

/-- Code points no host may hold. -/
def isForbiddenHost (c : Char) : Bool :=
  c.toNat = 0 || c = '\t' || c = '\n' || c = '\r' || c = ' ' || c = '#' || c = '/' ||
  c = ':' || c = '<' || c = '>' || c = '?' || c = '@' || c = '[' || c = '\\' || c = ']' ||
  c = '^' || c = '|'

/-- Code points no domain may hold. -/
def isForbiddenDomain (c : Char) : Bool :=
  isForbiddenHost c || c.toNat ≤ 0x1F || c = '%' || c.toNat = 0x7F

/-- The value of a hexadecimal digit. -/
def hexDigit? (c : Char) : Option Nat :=
  if c.isDigit then some (c.toNat - 48)
  else if 'a' ≤ c ∧ c ≤ 'f' then some (c.toNat - 87)
  else if 'A' ≤ c ∧ c ≤ 'F' then some (c.toNat - 55)
  else none

/-- The bytes of a text with each `%` and two hexadecimal digits read as one byte. -/
def percentDecode : List UInt8 → List UInt8
  | 37 :: h :: l :: rest =>
    match hexDigit? (Char.ofNat h.toNat), hexDigit? (Char.ofNat l.toNat) with
    | some a, some b => (a * 16 + b).toUInt8 :: percentDecode rest
    | _, _ => 37 :: percentDecode (h :: l :: rest)
  | b :: rest => b :: percentDecode rest
  | [] => []

/-- Checks a port: decimal digits up to 65535, or nothing. -/
def checkPort (cs : List Char) : Except UrlFault Unit :=
  let step := fun (n : Nat) (c : Char) =>
    if c.isDigit then
      let m := n * 10 + (c.toNat - 48)
      if m > 65535 then Except.error UrlFault.invalidPort else Except.ok m
    else Except.error UrlFault.invalidPort
  (cs.foldlM step 0).map fun _ => ()

/-- A number of an IPv4 address: `none` when it overflows 32 bits; an error when it is not a
number in its base. -/
def ipv4Number (cs : List Char) : Except Unit (Option Nat) :=
  if cs.isEmpty then .error () else
  let (digits, radix) := match cs with
    | '0' :: 'x' :: r => (r, 16)
    | '0' :: 'X' :: r => (r, 16)
    | '0' :: r@(_ :: _) => (r, 8)
    | r => (r, 10)
  let values := digits.map fun c => (hexDigit? c).filter (· < radix)
  if values.all Option.isSome then
    let n := values.foldl (fun acc v => acc * radix + v.getD 0) 0
    .ok (if n < Nat.pow 2 32 then some n else none)
  else .error ()

/-- The labels of a host, a trailing empty label dropped. -/
def labels (host : List Char) : List (List Char) :=
  let parts := (String.ofList host).splitOn "." |>.map String.toList
  if parts.getLast? = some [] then parts.dropLast else parts

/-- Whether the last label of a host is a number, so that the host must be an IPv4 address. -/
def endsInNumber (host : List Char) : Bool :=
  match (labels host).getLast? with
  | some last => (!last.isEmpty && last.all Char.isDigit) || (ipv4Number last).toBool
  | none => false

/-- Checks an IPv4 address. -/
def checkIpv4 (host : List Char) : Except UrlFault Unit := do
  let parts := labels host
  if parts.length > 4 || parts.isEmpty then throw .invalidIpv4
  let numbers ← parts.mapM fun p => match ipv4Number p with
    | .ok (some n) => pure n
    | _ => throw .invalidIpv4
  let last := numbers.getLastD 0
  if last ≥ Nat.pow 256 (5 - numbers.length) then throw .invalidIpv4
  if numbers.dropLast.any (· > 255) then throw .invalidIpv4

/-- The dotted IPv4 tail of an IPv6 address, from its first digit. -/
def ipv6Tail (cs : List Char) : Bool :=
  let parts := (String.ofList cs).splitOn "." |>.map String.toList
  parts.length = 4 && parts.all fun p =>
    !p.isEmpty && p.all Char.isDigit && (p.length = 1 || p.head? ≠ some '0') &&
    p.foldl (fun n c => n * 10 + (c.toNat - 48)) 0 ≤ 255

/-- Whether groups of an IPv6 address read so far, `pieces` of them, make a whole address:
eight groups, or fewer with a `::` standing for the rest. -/
def ipv6Complete (pieces : Nat) (compressed : Bool) : Bool := compressed || pieces = 8

/-- Reads the groups of an IPv6 address after the first: up to four hexadecimal digits each,
separated by `:`, one `::` at most, and possibly a dotted IPv4 tail counting as two groups. -/
def ipv6Groups : Nat → List Char → Nat → Bool → Bool
  | 0, _, _, _ => false
  | _, [], pieces, compressed => ipv6Complete pieces compressed
  | fuel + 1, c :: rest, pieces, compressed =>
    if pieces = 8 then false
    else if c = ':' then
      !compressed && ipv6Groups fuel rest (pieces + 1) true
    else
      let group := ((c :: rest).takeWhile fun d => (hexDigit? d).isSome).take 4
      match (c :: rest).drop group.length with
      | '.' :: _ => !group.isEmpty && pieces ≤ 6 && ipv6Tail (c :: rest) &&
          ipv6Complete (pieces + 2) compressed
      | ':' :: [] => false
      | ':' :: more => ipv6Groups fuel more (pieces + 1) compressed
      | [] => !group.isEmpty && ipv6Complete (pieces + 1) compressed
      | _ => false

/-- Whether a text is an IPv6 address. -/
def isIpv6 (cs : List Char) : Bool :=
  match cs with
  | ':' :: ':' :: rest => ipv6Groups (rest.length + 1) rest 1 true
  | ':' :: _ => false
  | _ => ipv6Groups (cs.length + 1) cs 0 false

/-- Checks the host of a special scheme. -/
def checkSpecialHost (host : List Char) : Except UrlFault Unit := do
  if host.isEmpty then throw .emptyHost
  if host.head? = some '[' then
    if host.getLast? ≠ some ']' || !isIpv6 ((host.drop 1).dropLast) then throw .invalidIpv6
    return
  let decoded := percentDecode (String.ofList host).toUTF8.toList
  let some domain := String.fromUTF8? ⟨decoded.toArray⟩ | throw .invalidDomain
  let domain := domain.toList.map fun c => if 'A' ≤ c ∧ c ≤ 'Z' then c.toLower else c
  if domain.any isForbiddenDomain then throw .invalidDomain
  if domain.isEmpty then throw .emptyHost
  if endsInNumber domain then checkIpv4 domain

/-- Checks the host of another scheme. -/
def checkOpaqueHost (host : List Char) : Except UrlFault Unit := do
  if host.head? = some '[' then
    if host.getLast? ≠ some ']' || !isIpv6 ((host.drop 1).dropLast) then throw .invalidIpv6
    return
  if host.any isForbiddenHost then throw .invalidDomainCharacter

/-- Splits a host from its port at the first colon outside brackets. -/
def splitPort (cs : List Char) : List Char × Option (List Char) :=
  go false [] cs
where
  go (inBrackets : Bool) (acc : List Char) : List Char → List Char × Option (List Char)
    | [] => (acc.reverse, none)
    | ':' :: rest => if inBrackets then go inBrackets (':' :: acc) rest else (acc.reverse, some rest)
    | '[' :: rest => go true ('[' :: acc) rest
    | ']' :: rest => go false (']' :: acc) rest
    | c :: rest => go inBrackets (c :: acc) rest

/-- Checks an authority: user information up to the last `@`, a host, a port. -/
def checkAuthority (special : Bool) (authority : List Char) : Except UrlFault Unit := do
  let hostPort := match authority.reverse.span (· ≠ '@') with
    | (afterAt, _) => afterAt.reverse
  let (host, port) := splitPort hostPort
  if special then checkSpecialHost host else checkOpaqueHost host
  if let some p := port then checkPort p

/-- Checks that a text is an absolute URL. -/
def check (s : String) : Except UrlFault Unit := do
  let some (scheme, rest) := scheme? (clean s) | throw .relativeWithoutBase
  if scheme = "file" then return
  let special := specialSchemes.contains scheme
  if special then
    let afterSlashes := rest.dropWhile fun c => c = '/' || c = '\\'
    checkAuthority true (afterSlashes.takeWhile fun c => !endsAuthority true c)
  else match rest with
    | '/' :: '/' :: more => checkAuthority false (more.takeWhile fun c => !endsAuthority false c)
    | _ => pure ()

end Url

end ConnectorPlane
