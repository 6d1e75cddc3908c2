/-! # UUIDs

A UUID is a 128-bit number. It is written as 32 lowercase hex digits in groups of 8, 4, 4, 4
and 12 joined by hyphens.

`Uuid.parse?` reads four spellings of the same digits: hyphenated (36 bytes), simple (32 hex
digits), braced `{…}` (38 bytes) and `urn:uuid:…` (45 bytes), with hex digits of either case.
-/

namespace ConnectorPlane

/-- A 128-bit UUID. -/
structure Uuid where
  value : Nat
  isLt : value < Nat.pow 2 128
deriving DecidableEq, Repr

namespace Uuid

/-- The uuid holding the low 128 bits of `n`. -/
def ofNat (n : Nat) : Uuid := ⟨n % Nat.pow 2 128, Nat.mod_lt _ (Nat.two_pow_pos 128)⟩

/-- The value of a hex digit of either case. -/
def hexValue? (c : Char) : Option Nat :=
  if '0' ≤ c ∧ c ≤ '9' then some (c.toNat - 48)
  else if 'a' ≤ c ∧ c ≤ 'f' then some (c.toNat - 87)
  else if 'A' ≤ c ∧ c ≤ 'F' then some (c.toNat - 55)
  else none

/-- The number that a list of hex digits spells, if every character is one. -/
def ofHexDigits? (cs : List Char) : Option Nat :=
  cs.foldl (fun acc c => do let a ← acc; let d ← hexValue? c; pure (a * 16 + d)) (some 0)

/-- The positions of the hyphens in the hyphenated form. -/
def hyphenPositions : List Nat := [8, 13, 18, 23]

/-- Reads the 36-character hyphenated form. -/
def ofHyphenated? (cs : List Char) : Option Uuid :=
  if cs.length ≠ 36 then none
  else
    let ok := (List.range 36).all fun i =>
      if i ∈ hyphenPositions then cs[i]? = some '-' else cs[i]? ≠ some '-'
    if ok then (ofHexDigits? (cs.filter (· ≠ '-'))).map ofNat else none

/-- Reads any of the four accepted spellings; lengths count bytes. -/
def parse? (s : String) : Option Uuid :=
  let cs := s.toList
  match s.utf8ByteSize with
  | 32 => if cs.length = 32 then (ofHexDigits? cs).map ofNat else none
  | 36 => ofHyphenated? cs
  | 38 =>
    if cs.head? = some '{' ∧ cs.getLast? = some '}' then ofHyphenated? ((cs.drop 1).dropLast)
    else none
  | 45 =>
    if cs.take 9 = "urn:uuid:".toList then ofHyphenated? (cs.drop 9) else none
  | _ => none

/-- A lowercase hex digit. -/
def hexChar (n : Nat) : Char :=
  if n < 10 then Char.ofNat (48 + n) else Char.ofNat (87 + n)

/-- `n` as exactly `width` lowercase hex digits (the lowest ones). -/
def hexWidth (width n : Nat) : List Char :=
  (List.range width).reverse.map fun i => hexChar (n / Nat.pow 16 i % 16)

/-- The hyphenated lowercase text. -/
def text (u : Uuid) : String :=
  let ds := hexWidth 32 u.value
  String.ofList (ds.take 8 ++ '-' :: (ds.drop 8).take 4 ++ '-' :: (ds.drop 12).take 4 ++
    '-' :: (ds.drop 16).take 4 ++ '-' :: ds.drop 20)

/-- The nil UUID. -/
def nil : Uuid := ⟨0, Nat.two_pow_pos 128⟩

instance : Inhabited Uuid := ⟨nil⟩

/-- The version-4 uuid holding 122 random bits: the top 48 bits, the version nibble `4`, 12 more
bits, the variant bits `10`, and the last 62 bits. -/
def ofRandomBits (bits : Nat) : Uuid :=
  let v := bits % Nat.pow 2 122
  let hi := v / Nat.pow 2 62
  let lo := v % Nat.pow 2 62
  ofNat ((hi / Nat.pow 2 12) * Nat.pow 2 80 + 4 * Nat.pow 2 76 + (hi % Nat.pow 2 12) * Nat.pow 2 64 +
    2 * Nat.pow 2 62 + lo)

/-- The `n`-th uuid of the draw sequence `seed`. Bits are scattered by multiplying with an odd
constant modulo `2^122`, which is one-to-one, so distinct draws (`n < 2^32`) give distinct
uuids. -/
def fresh (seed n : Nat) : Uuid :=
  ofRandomBits ((seed * Nat.pow 2 32 + n + 1) * 0x2545F4914F6CDD1D9E3779B97F4A7C15 % Nat.pow 2 122)

end Uuid

end ConnectorPlane
