/-! # Base64

Bytes are written six bits to a symbol, most significant bits first. The URL-safe alphabet
uses `-` and `_` for 62 and 63 and writes no padding; the standard alphabet uses `+` and `/`
and pads to a multiple of four with `=`.

Reading the unpadded form accepts exactly what writing produces: a symbol outside the
alphabet, any `=`, a length of `1 mod 4`, or a last symbol whose unused low bits are not zero
is refused. This makes `decode` a left inverse of `encode` and `encode` a left inverse of
`decode` on its domain.
-/

namespace ConnectorPlane

namespace Base64

/-- The alphabet of an encoding: symbols for 62 and 63. -/
structure Alphabet where
  sym62 : Char
  sym63 : Char

/-- The URL-safe alphabet. -/
def urlSafe : Alphabet := ⟨'-', '_'⟩

/-- The standard alphabet. -/
def standard : Alphabet := ⟨'+', '/'⟩

/-- The symbol of a six-bit value. -/
def Alphabet.symbol (a : Alphabet) (n : Nat) : Char :=
  if n < 26 then Char.ofNat (65 + n)
  else if n < 52 then Char.ofNat (71 + n)
  else if n < 62 then Char.ofNat (n - 4)
  else if n = 62 then a.sym62
  else a.sym63

/-- The six-bit value of a symbol. -/
def Alphabet.value (a : Alphabet) (c : Char) : Option Nat :=
  if 'A' ≤ c ∧ c ≤ 'Z' then some (c.toNat - 65)
  else if 'a' ≤ c ∧ c ≤ 'z' then some (c.toNat - 71)
  else if '0' ≤ c ∧ c ≤ '9' then some (c.toNat + 4)
  else if c = a.sym62 then some 62
  else if c = a.sym63 then some 63
  else none

/-- Symbols for bytes, three bytes to four symbols; a last group of one or two bytes gives
two or three symbols. -/
def encodeWith (a : Alphabet) : List UInt8 → List Char
  | [] => []
  | [x] =>
    let n := x.toNat
    [a.symbol (n / 4), a.symbol (n % 4 * 16)]
  | [x, y] =>
    let n := x.toNat * 256 + y.toNat
    [a.symbol (n / 1024), a.symbol (n / 16 % 64), a.symbol (n % 16 * 4)]
  | x :: y :: z :: rest =>
    let n := x.toNat * 65536 + y.toNat * 256 + z.toNat
    a.symbol (n / 262144) :: a.symbol (n / 4096 % 64) :: a.symbol (n / 64 % 64) ::
      a.symbol (n % 64) :: encodeWith a rest

/-- Bytes for symbols, refusing anything `encodeWith` would not write. -/
def decodeWith (a : Alphabet) : List Char → Option (List UInt8)
  | [] => some []
  | [_] => none
  | [c, d] => do
    let p ← a.value c
    let q ← a.value d
    if q % 16 ≠ 0 then none else some [(p * 4 + q / 16).toUInt8]
  | [c, d, e] => do
    let p ← a.value c
    let q ← a.value d
    let r ← a.value e
    if r % 4 ≠ 0 then none
    else
      let n := p * 4096 + q * 64 + r
      some [(n / 1024).toUInt8, (n / 4 % 256).toUInt8]
  | c :: d :: e :: f :: rest => do
    let p ← a.value c
    let q ← a.value d
    let r ← a.value e
    let s ← a.value f
    let n := p * 262144 + q * 4096 + r * 64 + s
    let tail ← decodeWith a rest
    some ((n / 65536).toUInt8 :: (n / 256 % 256).toUInt8 :: (n % 256).toUInt8 :: tail)

/-- URL-safe text without padding. -/
def encodeUrl (bytes : List UInt8) : String := String.ofList (encodeWith urlSafe bytes)

/-- Bytes of URL-safe text without padding. -/
def decodeUrl (text : String) : Option (List UInt8) := decodeWith urlSafe text.toList

/-- Bytes of standard text, padded or not. -/
def decodeStandard (text : String) : Option (List UInt8) :=
  let cs := text.toList
  let body := cs.reverse.dropWhile (· = '=') |>.reverse
  if cs.length % 4 = 0 ∨ cs.length = body.length then decodeWith standard body else none

end Base64

end ConnectorPlane
