import ConnectorPlane.Json.Basic

/-! # Reading JSON text

The reader accepts RFC 8259 text and reports the first fault it meets, with the line and the
column (counted in UTF-8 bytes) where it noticed it, as in `expected ident at line 1 column 2`.

Numbers keep the reader's own arithmetic, which a decimal-to-double rounding would not
reproduce:

* an integer without fraction or exponent that fits `[0, 2^64)` (or `[-2^63, 0)` when
  negative) stays an integer; `-0` and larger negatives become doubles;
* otherwise the first digits that fit a 64-bit significand `s` are kept, the rest only move
  the decimal exponent `x`, and the double is `s` converted once and then multiplied or
  divided by the double nearest to `10^|x|` (dividing by `1e308` first while `|x| > 308`).
  A result beyond the largest double is `number out of range`.

Arrays and objects nest at most 127 deep. A key that occurs twice keeps its last value.
-/

namespace ConnectorPlane

/-- Why a JSON text was refused. -/
inductive ReadFault where
  | eofWhileParsingList
  | eofWhileParsingObject
  | eofWhileParsingString
  | eofWhileParsingValue
  | expectedColon
  | expectedListCommaOrEnd
  | expectedObjectCommaOrEnd
  | expectedSomeIdent
  | expectedSomeValue
  | invalidEscape
  | invalidNumber
  | numberOutOfRange
  | controlCharacterWhileParsingString
  | keyMustBeAString
  | loneLeadingSurrogateInHexEscape
  | trailingComma
  | trailingCharacters
  | unexpectedEndOfHexEscape
  | recursionLimitExceeded
deriving DecidableEq, Repr

/-- The wording of a fault. -/
def ReadFault.text : ReadFault → String
  | .eofWhileParsingList => "EOF while parsing a list"
  | .eofWhileParsingObject => "EOF while parsing an object"
  | .eofWhileParsingString => "EOF while parsing a string"
  | .eofWhileParsingValue => "EOF while parsing a value"
  | .expectedColon => "expected `:`"
  | .expectedListCommaOrEnd => "expected `,` or `]`"
  | .expectedObjectCommaOrEnd => "expected `,` or `\x7d`"
  | .expectedSomeIdent => "expected ident"
  | .expectedSomeValue => "expected value"
  | .invalidEscape => "invalid escape"
  | .invalidNumber => "invalid number"
  | .numberOutOfRange => "number out of range"
  | .controlCharacterWhileParsingString =>
    "control character (\\u0000-\\u001F) found while parsing a string"
  | .keyMustBeAString => "key must be a string"
  | .loneLeadingSurrogateInHexEscape => "lone leading surrogate in hex escape"
  | .trailingComma => "trailing comma"
  | .trailingCharacters => "trailing characters"
  | .unexpectedEndOfHexEscape => "unexpected end of hex escape"
  | .recursionLimitExceeded => "recursion limit exceeded"

/-- A refusal with the place where it was noticed. -/
structure ReadError where
  fault : ReadFault
  line : Nat
  column : Nat
deriving Repr

/-- `<fault> at line <l> column <c>`. -/
def ReadError.message (e : ReadError) : String :=
  e.fault.text ++ " at line " ++ toString e.line ++ " column " ++ toString e.column

namespace JsonReader

/-- The unread rest of the text and the position reached. -/
structure Cursor where
  rest : List Char
  line : Nat
  column : Nat

/-- Steps over one character. -/
def Cursor.advance (c : Cursor) : Cursor :=
  match c.rest with
  | [] => c
  | ch :: tl =>
    if ch = '\n' then ⟨tl, c.line + 1, 0⟩ else ⟨tl, c.line, c.column + ch.utf8Size⟩

/-- The next character. -/
def Cursor.peek (c : Cursor) : Option Char := c.rest.head?

/-- A fault at the position reached. -/
def Cursor.fail {α : Type} (c : Cursor) (f : ReadFault) : Except ReadError α :=
  .error ⟨f, c.line, c.column⟩

/-- A fault one byte further, where the next character was looked at. -/
def Cursor.failPeek {α : Type} (c : Cursor) (f : ReadFault) : Except ReadError α :=
  match c.rest with
  | [] => .error ⟨f, c.line, c.column⟩
  | ch :: _ => if ch = '\n' then .error ⟨f, c.line + 1, 0⟩ else .error ⟨f, c.line, c.column + 1⟩

/-- Whitespace between tokens. -/
def isBlank (c : Char) : Bool := c = ' ' || c = '\n' || c = '\t' || c = '\r'

/-- Skips whitespace. -/
def skipBlank : Cursor → Cursor
  | ⟨ch :: tl, l, col⟩ =>
    if isBlank ch then
      skipBlank (if ch = '\n' then ⟨tl, l + 1, 0⟩ else ⟨tl, l, col + 1⟩)
    else ⟨ch :: tl, l, col⟩
  | c => c
termination_by c => c.rest.length
decreasing_by all_goals (split <;> simp)

/-- The doubles `10^0 … 10^308`, each the nearest double to the power. -/
def pow10 (k : Nat) : Float := Float.ofScientific 1 false k

/-- The value of a decimal digit. -/
def digit (c : Char) : Nat := c.toNat - 48

/-- The double `± s · 10^x` by the reader's arithmetic. -/
def floatOfParts (c : Cursor) (positive : Bool) (s : Nat) (x : Int) : Except ReadError Float :=
  let rec go : Nat → Float → Int → Except ReadError Float
    | 0, f, _ => .ok f
    | fuel + 1, f, x =>
      if x.natAbs ≤ 308 then
        if x ≥ 0 then
          let g := f * pow10 x.toNat
          if g.isInf then c.fail .numberOutOfRange else .ok g
        else .ok (f / pow10 x.natAbs)
      else if f == 0.0 then .ok f
      else if x ≥ 0 then c.fail .numberOutOfRange
      else go fuel (f / pow10 308) (x + 308)
  match go (x.natAbs / 308 + 2) (s.toUInt64.toFloat) x with
  | .ok f => .ok (if positive then f else -f)
  | .error e => .error e

/-- The largest 64-bit unsigned value. -/
def maxU64 : Nat := Nat.pow 2 64 - 1

/-- Whether `s · 10 + d` leaves the 64-bit range. -/
def overflows (s d : Nat) : Bool := s * 10 + d > maxU64

/-- A number as an integer when it fits, a double otherwise. -/
def Number.ofFloat (f : Float) : Number := .float f.toBits

/-- The exponent part after `e`, giving the final double. -/
def readExponent (c : Cursor) (positive : Bool) (s : Nat) (start : Int) :
    Except ReadError (Number × Cursor) :=
  let c := c.advance
  let (expPositive, c) :=
    match c.peek with
    | some '+' => (true, c.advance)
    | some '-' => (false, c.advance)
    | _ => (true, c)
  match c.peek with
  | none => c.fail .eofWhileParsingValue
  | some ch =>
    if ch.isDigit then
      let c := c.advance
      let ds := c.rest.takeWhile Char.isDigit
      let cEnd : Cursor := ⟨c.rest.drop ds.length, c.line, c.column + ds.length⟩
      -- the exponent is read while it fits 31 bits; `overflowAt` is the digit that breaks it
      let rec scan : List Char → Nat → Nat → Option Nat × Nat
        | [], v, _ => (none, v)
        | d :: rest, v, i =>
          if v * 10 + digit d > 2147483647 then (some i, v) else scan rest (v * 10 + digit d) (i + 1)
      match scan ds (digit ch) 0 with
      | (some i, _) =>
        if s != 0 && expPositive then
          (⟨c.rest.drop (i + 1), c.line, c.column + i + 1⟩ : Cursor).fail .numberOutOfRange
        else .ok (Number.ofFloat (if positive then 0.0 else -0.0), cEnd)
      | (none, value) =>
        let final : Int := if expPositive then start + value else start - value
        let final := max (-2147483648) (min 2147483647 final)
        match floatOfParts cEnd positive s final with
        | .ok f => .ok (Number.ofFloat f, cEnd)
        | .error e => .error e
    else (c.advance).fail .invalidNumber

/-- Digits after the point; digits that no longer fit the significand only count as read. -/
def readFraction (c : Cursor) (positive : Bool) (s : Nat) (before : Int) :
    Except ReadError (Number × Cursor) :=
  let c := c.advance
  let ds := c.rest.takeWhile Char.isDigit
  if ds.isEmpty then
    match c.peek with
    | some _ => c.failPeek .invalidNumber
    | none => c.failPeek .eofWhileParsingValue
  else
    -- keep digits while the significand fits
    let rec keep : List Char → Nat → Int → Nat × Int
      | [], s, x => (s, x)
      | d :: rest, s, x => if overflows s (digit d) then (s, x) else keep rest (s * 10 + digit d) (x - 1)
    let (s', x) := keep ds s before
    let c : Cursor := ⟨c.rest.drop ds.length, c.line, c.column + ds.length⟩
    match c.peek with
    | some 'e' => readExponent c positive s' x
    | some 'E' => readExponent c positive s' x
    | _ =>
      match floatOfParts c positive s' x with
      | .ok f => .ok (Number.ofFloat f, c)
      | .error e => .error e

/-- A number whose sign was already read. -/
def readNumber (c : Cursor) (positive : Bool) : Except ReadError (Number × Cursor) :=
  match c.peek with
  | none => c.fail .eofWhileParsingValue
  | some ch =>
    let c := c.advance
    if ch = '0' then
      match c.peek with
      | some d =>
        if d.isDigit then c.failPeek .invalidNumber
        else afterInteger c positive 0
      | none => afterInteger c positive 0
    else if ch.isDigit then
      let ds := c.rest.takeWhile Char.isDigit
      -- digits that fit 64 bits form the significand; further ones raise the exponent
      let rec keep : List Char → Nat → Nat → Nat × Nat
        | [], s, n => (s, n)
        | d :: rest, s, n => if overflows s (digit d) then (s, n) else keep rest (s * 10 + digit d) (n + 1)
      let (s, used) := keep ds (digit ch) 0
      let c : Cursor := ⟨c.rest.drop ds.length, c.line, c.column + ds.length⟩
      if used = ds.length then afterInteger c positive s
      else
        let extra : Int := (ds.length - used : Nat)
        match c.peek with
        | some '.' => readFraction c positive s extra
        | some 'e' => readExponent c positive s extra
        | some 'E' => readExponent c positive s extra
        | _ =>
          match floatOfParts c positive s extra with
          | .ok f => .ok (Number.ofFloat f, c)
          | .error e => .error e
    else c.fail .invalidNumber
where
  afterInteger (c : Cursor) (positive : Bool) (s : Nat) : Except ReadError (Number × Cursor) :=
    match c.peek with
    | some '.' => readFraction c positive s 0
    | some 'e' => readExponent c positive s 0
    | some 'E' => readExponent c positive s 0
    | _ =>
      if positive then .ok (.int s, c)
      else if s = 0 || s > Nat.pow 2 63 then .ok (Number.ofFloat (-(s.toUInt64.toFloat)), c)
      else .ok (.int (-(s : Int)), c)

/-- The value of a hex digit. -/
def hexValue (c : Char) : Option Nat :=
  if c.isDigit then some (c.toNat - 48)
  else if 'a' ≤ c ∧ c ≤ 'f' then some (c.toNat - 87)
  else if 'A' ≤ c ∧ c ≤ 'F' then some (c.toNat - 55)
  else none

/-- Four hex digits after `\u`. -/
def readHex4 (c : Cursor) : Except ReadError (Nat × Cursor) :=
  match c.rest with
  | a :: b :: d :: e :: tl =>
    let c' : Cursor := ⟨tl, c.line, c.column + a.utf8Size + b.utf8Size + d.utf8Size + e.utf8Size⟩
    match hexValue a, hexValue b, hexValue d, hexValue e with
    | some x, some y, some z, some w => .ok (x * 4096 + y * 256 + z * 16 + w, c')
    | _, _, _, _ => c'.fail .invalidEscape
  | rest =>
    let c' : Cursor := ⟨[], c.line, rest.foldl (fun n ch => n + ch.utf8Size) c.column⟩
    c'.fail .eofWhileParsingString

/-- The character an escape after `\u` stands for, pairing surrogates. -/
def readUnicodeEscape (c : Cursor) : Except ReadError (Char × Cursor) :=
  match readHex4 c with
  | .error e => .error e
  | .ok (n, c) =>
    if 0xDC00 ≤ n ∧ n ≤ 0xDFFF then c.fail .loneLeadingSurrogateInHexEscape
    else if n < 0xD800 ∨ n > 0xDBFF then .ok (Char.ofNat n, c)
    else
      match c.peek with
      | none => c.fail .eofWhileParsingString
      | some '\\' =>
        let c := c.advance
        match c.peek with
        | none => c.fail .eofWhileParsingString
        | some 'u' =>
          match readHex4 c.advance with
          | .error e => .error e
          | .ok (n2, c) =>
            if n2 < 0xDC00 ∨ n2 > 0xDFFF then c.fail .loneLeadingSurrogateInHexEscape
            else .ok (Char.ofNat ((n - 0xD800) * 1024 + (n2 - 0xDC00) + 0x10000), c)
        | some _ => c.advance.fail .unexpectedEndOfHexEscape
      | some _ => c.advance.fail .unexpectedEndOfHexEscape

/-- The body of a string literal after its opening quote. -/
def readString (c : Cursor) : Except ReadError (String × Cursor) :=
  go (c.rest.length + 1) c []
where
  go : Nat → Cursor → List Char → Except ReadError (String × Cursor)
    | 0, c, _ => c.fail .eofWhileParsingString
    | fuel + 1, c, acc =>
      match c.rest with
      | [] => c.fail .eofWhileParsingString
      | ch :: _ =>
        if ch = '"' then .ok (String.ofList acc.reverse, c.advance)
        else if ch = '\\' then
          let c := c.advance
          match c.rest with
          | [] => c.fail .eofWhileParsingString
          | e :: _ =>
            let c := c.advance
            match e with
            | '"' => go fuel c ('"' :: acc)
            | '\\' => go fuel c ('\\' :: acc)
            | '/' => go fuel c ('/' :: acc)
            | 'b' => go fuel c (Char.ofNat 8 :: acc)
            | 'f' => go fuel c (Char.ofNat 12 :: acc)
            | 'n' => go fuel c ('\n' :: acc)
            | 'r' => go fuel c ('\r' :: acc)
            | 't' => go fuel c ('\t' :: acc)
            | 'u' =>
              match readUnicodeEscape c with
              | .ok (u, c) => go fuel c (u :: acc)
              | .error err => .error err
            | _ => c.fail .invalidEscape
        else if ch.toNat < 32 then c.advance.fail .controlCharacterWhileParsingString
        else go fuel c.advance (ch :: acc)

/-- Reads the letters of `null`, `true` or `false` after their first one. -/
def readIdent (c : Cursor) : List Char → Except ReadError Cursor
  | [] => .ok c
  | x :: xs =>
    match c.rest with
    | [] => c.fail .eofWhileParsingValue
    | ch :: _ => if ch = x then readIdent c.advance xs else c.advance.fail .expectedSomeIdent

mutual

/-- A value; `depth` counts the nesting levels still allowed. -/
def readValue (fuel depth : Nat) (c : Cursor) : Except ReadError (Json × Cursor) :=
  match fuel with
  | 0 => c.fail .recursionLimitExceeded
  | fuel + 1 =>
    let c := skipBlank c
    match c.peek with
    | none => c.failPeek .eofWhileParsingValue
    | some 'n' => (readIdent c.advance ['u', 'l', 'l']).map (fun c => (.null, c))
    | some 't' => (readIdent c.advance ['r', 'u', 'e']).map (fun c => (.bool true, c))
    | some 'f' => (readIdent c.advance ['a', 'l', 's', 'e']).map (fun c => (.bool false, c))
    | some '-' => (readNumber c.advance false).map (fun (n, c) => (.num n, c))
    | some '"' => (readString c.advance).map (fun (s, c) => (.str s, c))
    | some '[' =>
      if depth ≤ 1 then c.failPeek .recursionLimitExceeded
      else
        match readItems fuel (depth - 1) c.advance true [] with
        | .error e => .error e
        | .ok (items, c) =>
          let c := skipBlank c
          match c.peek with
          | some ']' => .ok (.arr items, c.advance)
          | some ',' =>
            let c := skipBlank c.advance
            match c.peek with
            | some ']' => c.failPeek .trailingComma
            | _ => c.failPeek .trailingCharacters
          | some _ => c.failPeek .trailingCharacters
          | none => c.failPeek .eofWhileParsingList
    | some '{' =>
      if depth ≤ 1 then c.failPeek .recursionLimitExceeded
      else
        match readMembers fuel (depth - 1) c.advance true [] with
        | .error e => .error e
        | .ok (members, c) =>
          let c := skipBlank c
          match c.peek with
          | some '}' => .ok (Json.ofFields members, c.advance)
          | some ',' => c.failPeek .trailingComma
          | some _ => c.failPeek .trailingCharacters
          | none => c.failPeek .eofWhileParsingObject
    | some ch =>
      if ch.isDigit then (readNumber c true).map (fun (n, c) => (.num n, c))
      else c.failPeek .expectedSomeValue

/-- The items of an array up to, not including, its closing bracket. -/
def readItems (fuel depth : Nat) (c : Cursor) (first : Bool) (acc : List Json) :
    Except ReadError (List Json × Cursor) :=
  match fuel with
  | 0 => c.fail .recursionLimitExceeded
  | fuel + 1 =>
    let c := skipBlank c
    match c.peek with
    | none => c.failPeek .eofWhileParsingList
    | some ']' => .ok (acc.reverse, c)
    | some ch =>
      let next : Except ReadError Cursor :=
        if ch = ',' ∧ !first then .ok (skipBlank c.advance)
        else if first then .ok c
        else c.failPeek .expectedListCommaOrEnd
      match next with
      | .error e => .error e
      | .ok c =>
        match c.peek with
        | some ']' => c.failPeek .trailingComma
        | none => c.failPeek .eofWhileParsingValue
        | some _ =>
          match readValue fuel depth c with
          | .error e => .error e
          | .ok (v, c) => readItems fuel depth c false (v :: acc)

/-- The members of an object up to, not including, its closing brace. -/
def readMembers (fuel depth : Nat) (c : Cursor) (first : Bool) (acc : List (String × Json)) :
    Except ReadError (List (String × Json) × Cursor) :=
  match fuel with
  | 0 => c.fail .recursionLimitExceeded
  | fuel + 1 =>
    let c := skipBlank c
    match c.peek with
    | none => c.failPeek .eofWhileParsingObject
    | some '}' => .ok (acc.reverse, c)
    | some ch =>
      let next : Except ReadError Cursor :=
        if ch = ',' ∧ !first then .ok (skipBlank c.advance)
        else if first then .ok c
        else c.failPeek .expectedObjectCommaOrEnd
      match next with
      | .error e => .error e
      | .ok c =>
        match c.peek with
        | some '"' =>
          match readString c.advance with
          | .error e => .error e
          | .ok (key, c) =>
            let c := skipBlank c
            match c.peek with
            | some ':' =>
              match readValue fuel depth c.advance with
              | .error e => .error e
              | .ok (v, c) => readMembers fuel depth c false ((key, v) :: acc)
            | some _ => c.failPeek .expectedColon
            | none => c.failPeek .eofWhileParsingObject
        | some '}' => c.failPeek .trailingComma
        | some _ => c.failPeek .keyMustBeAString
        | none => c.failPeek .eofWhileParsingValue

end

end JsonReader

namespace Json

/-- Reads a whole text as one JSON value; only whitespace may follow it. -/
def read (text : String) : Except ReadError Json :=
  let c : JsonReader.Cursor := ⟨text.toList, 1, 0⟩
  match JsonReader.readValue (text.length + 2) 128 c with
  | .error e => .error e
  | .ok (v, c) =>
    let c := JsonReader.skipBlank c
    match c.peek with
    | some _ => c.failPeek .trailingCharacters
    | none => .ok v

end Json

end ConnectorPlane
