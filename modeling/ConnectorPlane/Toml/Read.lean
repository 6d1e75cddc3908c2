import ConnectorPlane.Toml.Value
import ConnectorPlane.Decimal.Nearest

/-! # Reading TOML documents

`TomlValue.read` reads a TOML 1.0 document into its root table, or says that the text is not
one.

Values are strings of the four kinds, 64-bit integers in decimal, hex, octal or binary, doubles
(`inf` and `nan` included), booleans, date-times, arrays that may span lines and hold comments,
and inline tables on one line. A double is the nearest to its decimal; a positive one that
overflows is refused.

Tables follow the document's rules on defining things once:

* a key is defined once per table;
* a `[header]` may name a table that only other headers created on the way, but not one defined
  by a header, by dotted keys or as a value;
* dotted keys extend only tables that dotted keys created, in the section being read;
* `[[header]]` appends a table to an array of tables, and a header through such an array
  continues its last table;
* an inline table is complete as written.

Nesting of arrays and inline tables, and the parts of a dotted key, stop at 80.
-/

namespace ConnectorPlane

/-- Why a text is not a TOML document. -/
inductive TomlFault where
  /-- The text does not follow the grammar. -/
  | malformed
  /-- A key or table is defined twice. -/
  | duplicate
  /-- A key path runs through a value that is not a table. -/
  | wrongType
  /-- A number, date or time is outside its range. -/
  | outOfRange
  /-- Arrays, inline tables or key parts are nested too deeply. -/
  | tooDeep
deriving DecidableEq, Repr

namespace TomlReader

/-- The nesting at which the reader stops. -/
def depthLimit : Nat := 80

/-- A table entry while a document is read: tables remember how they were made. -/
inductive Item where
  /-- A scalar or an array. -/
  | value (v : TomlValue)
  /-- An inline table; `dotted` when dotted keys inside an inline table made it. -/
  | inline (entries : List (String × Item)) (dotted : Bool)
  /-- A table; `implicit` when only a path to something else made it, `dotted` when dotted
  keys made it. -/
  | table (entries : List (String × Item)) (implicit dotted : Bool)
  /-- An array of tables, each made by a `[[header]]`. -/
  | tables (elems : List (List (String × Item)))
deriving Inhabited

/-- The entries of a table being read. -/
abbrev Entries := List (String × Item)

/-- The value an entry stands for. -/
def Item.toValue : Item → TomlValue
  | .value v => v
  | .inline es _ => .table (entriesValue es)
  | .table es _ _ => .table (entriesValue es)
  | .tables ts => .array (tablesValue ts)
where
  entriesValue : List (String × Item) → List (String × TomlValue)
    | [] => []
    | (k, i) :: rest => (k, Item.toValue i) :: entriesValue rest
  tablesValue : List (List (String × Item)) → List TomlValue
    | [] => []
    | es :: rest => .table (entriesValue es) :: tablesValue rest

/-- The entry under a key. -/
def lookup (es : Entries) (k : String) : Option Item := (es.find? (·.1 == k)).map (·.2)

/-- Replaces the entry under a key. -/
def replace (es : Entries) (k : String) (i : Item) : Entries :=
  es.map fun p => if p.1 == k then (k, i) else p

/-- Removes the entry under a key. -/
def remove (es : Entries) (k : String) : Entries := es.filter (·.1 != k)

/-- Follows a key path down from a table, creating implicit tables (dotted ones when `dotted`),
continuing the last table of an array of tables, and applies `f` to the table reached, with
that table's own `dotted` mark. Dotted keys may not enter a table that a header defined. -/
def descend {α : Type} (dotted : Bool) (f : Bool → Entries → Except TomlFault (Entries × α))
    (selfDotted : Bool) : List String → Entries → Except TomlFault (Entries × α)
  | [], es => f selfDotted es
  | k :: ks, es =>
    match lookup es k with
    | none => do
      let (sub, a) ← descend dotted f dotted ks []
      pure (es ++ [(k, .table sub true dotted)], a)
    | some (.table sub imp dot) =>
      if dotted && !imp then throw .duplicate
      else do
        let (sub', a) ← descend dotted f dot ks sub
        pure (replace es k (.table sub' imp dot), a)
    | some (.tables elems) =>
      match elems.getLast? with
      | none => throw .duplicate
      | some last => do
        let (last', a) ← descend dotted f false ks last
        pure (replace es k (.tables (elems.dropLast ++ [last'])), a)
    | some _ => throw .wrongType

/-- Follows a dotted key path inside an inline table, creating dotted inline tables. -/
def descendInline (f : Bool → Entries → Except TomlFault Entries) (selfDotted : Bool) :
    List String → Entries → Except TomlFault Entries
  | [], es => f selfDotted es
  | k :: ks, es =>
    match lookup es k with
    | none => do
      let sub ← descendInline f true ks []
      pure (es ++ [(k, .inline sub true)])
    | some (.inline sub dot) => do
      let sub' ← descendInline f dot ks sub
      pure (replace es k (.inline sub' dot))
    | some _ => throw .wrongType

/-- Adds a key at the end of a path unless it is there already; a plain key may not go into a
dotted table, nor a dotted key into one that was not made by dotted keys. -/
def addKey (path : List String) (key : String) (item : Item) (selfDotted : Bool)
    (es : Entries) : Except TomlFault Entries :=
  if selfDotted == path.isEmpty then throw .duplicate
  else if (lookup es key).isSome then throw .duplicate
  else pure (es ++ [(key, item)])

/-! ## Characters -/

/-- Blank inside a line: space or tab. -/
def isBlank (c : Char) : Bool := c = ' ' || c = '\t'

/-- Skips blanks. -/
def skipBlank (cs : List Char) : List Char := cs.dropWhile isBlank

/-- A line break: LF or CR LF. -/
def newline? : List Char → Option (List Char)
  | '\n' :: r => some r
  | '\r' :: '\n' :: r => some r
  | _ => none

/-- A character that may stand in a comment. -/
def isCommentChar (c : Char) : Bool :=
  c = '\t' || (0x20 ≤ c.toNat && c.toNat ≤ 0x7E) || c.toNat ≥ 0x80

/-- The end of a line: a line break or the end of the text. -/
def lineEnd (cs : List Char) : Except TomlFault (List Char) :=
  match cs with
  | [] => pure []
  | _ => match newline? cs with
    | some r => pure r
    | none => throw .malformed

/-- Blanks, an optional comment and the end of the line. -/
def lineTrailing (cs : List Char) : Except TomlFault (List Char) :=
  match skipBlank cs with
  | '#' :: r => lineEnd (r.dropWhile isCommentChar)
  | r => lineEnd r

/-- Blanks, line breaks and comments, each comment ending its line. -/
def skipBlankLines : Nat → List Char → Except TomlFault (List Char)
  | 0, cs => pure cs
  | fuel + 1, cs =>
    match skipBlank cs with
    | '#' :: r =>
      match newline? (r.dropWhile isCommentChar) with
      | some r => skipBlankLines fuel r
      | none => throw .malformed
    | r => match newline? r with
      | some r' => skipBlankLines fuel r'
      | none => pure r

/-! ## Strings -/

/-- The value of a hex digit. -/
def hexValue? (c : Char) : Option Nat :=
  if '0' ≤ c ∧ c ≤ '9' then some (c.toNat - 48)
  else if 'a' ≤ c ∧ c ≤ 'f' then some (c.toNat - 87)
  else if 'A' ≤ c ∧ c ≤ 'F' then some (c.toNat - 55)
  else none

/-- Exactly `n` hex digits naming a Unicode scalar value. -/
def hexChar (n : Nat) (cs : List Char) : Except TomlFault (Char × List Char) :=
  let ds := (cs.take n).takeWhile (hexValue? · |>.isSome)
  if ds.length ≠ n then throw .malformed
  else
    let v := ds.foldl (fun acc c => acc * 16 + (hexValue? c).getD 0) 0
    if v < 0xD800 ∨ (0xDFFF < v ∧ v ≤ 0x10FFFF) then pure (Char.ofNat v, cs.drop n)
    else throw .outOfRange

/-- The character of an escape, after its backslash. -/
def escape (cs : List Char) : Except TomlFault (Char × List Char) :=
  match cs with
  | 'b' :: r => pure (Char.ofNat 8, r)
  | 'f' :: r => pure (Char.ofNat 12, r)
  | 'n' :: r => pure ('\n', r)
  | 'r' :: r => pure ('\r', r)
  | 't' :: r => pure ('\t', r)
  | 'u' :: r => hexChar 4 r
  | 'U' :: r => hexChar 8 r
  | '\\' :: r => pure ('\\', r)
  | '"' :: r => pure ('"', r)
  | _ => throw .malformed

/-- A character that stands for itself in a basic string. -/
def isBasicPlain (c : Char) : Bool :=
  c = '\t' || (0x20 ≤ c.toNat && c.toNat ≤ 0x7E && c ≠ '"' && c ≠ '\\') || c.toNat ≥ 0x80

/-- A character that may stand in a literal string. -/
def isLiteralPlain (c : Char) : Bool :=
  c = '\t' || (0x20 ≤ c.toNat && c.toNat ≤ 0x7E && c ≠ '\'') || c.toNat ≥ 0x80

/-- The rest of a one-line basic string after its opening quote. -/
def basicString : Nat → List Char → List Char → Except TomlFault (String × List Char)
  | 0, _, _ => throw .malformed
  | fuel + 1, acc, cs =>
    match cs with
    | '"' :: r => pure (String.ofList acc.reverse, r)
    | '\\' :: r => do
      let (c, r) ← escape r
      basicString fuel (c :: acc) r
    | c :: r => if isBasicPlain c then basicString fuel (c :: acc) r else throw .malformed
    | [] => throw .malformed

/-- The rest of a one-line literal string after its opening quote. -/
def literalString : Nat → List Char → List Char → Except TomlFault (String × List Char)
  | 0, _, _ => throw .malformed
  | fuel + 1, acc, cs =>
    match cs with
    | '\'' :: r => pure (String.ofList acc.reverse, r)
    | c :: r => if isLiteralPlain c then literalString fuel (c :: acc) r else throw .malformed
    | [] => throw .malformed

/-- Skips blanks and line breaks. -/
def skipBlankAndBreaks : Nat → List Char → List Char
  | 0, cs => cs
  | fuel + 1, cs =>
    match skipBlank cs with
    | r => match newline? r with
      | some r' => skipBlankAndBreaks fuel r'
      | none => r

/-- The body of a multi-line string after its opening delimiter and optional line break: `q` is
the quote, `escapes` whether backslash escapes apply. A run of quotes shorter than three is
text; a longer run closes the string, its first one or two extra quotes belonging to the
text. -/
def multiline (q : Char) (escapes : Bool) :
    Nat → List Char → List Char → Except TomlFault (String × List Char)
  | 0, _, _ => throw .malformed
  | fuel + 1, acc, cs =>
    match cs with
    | c :: _ =>
      if c = q then
        let run := (cs.takeWhile (· = q)).length
        if run ≥ 3 then
          let extra := min (run - 3) 2
          pure (String.ofList (acc.reverse ++ List.replicate extra q), cs.drop (3 + extra))
        else multiline q escapes fuel (List.replicate run q ++ acc) (cs.drop run)
      else if escapes && c = '\\' then
        let r := cs.drop 1
        match newline? (skipBlank r) with
        | some r' => multiline q escapes fuel acc (skipBlankAndBreaks r'.length r')
        | none => do
          let (e, r) ← escape r
          multiline q escapes fuel (e :: acc) r
      else match newline? cs with
        | some r => multiline q escapes fuel ('\n' :: acc) r
        | none =>
          let plain := if escapes then isBasicPlain c else isLiteralPlain c || c = q
          if plain then multiline q escapes fuel (c :: acc) (cs.drop 1) else throw .malformed
    | [] => throw .malformed

/-- A multi-line string after its opening delimiter. -/
def multilineString (q : Char) (escapes : Bool) (cs : List Char) :
    Except TomlFault (String × List Char) :=
  let cs := (newline? cs).getD cs
  multiline q escapes (cs.length + 1) [] cs

/-! ## Keys -/

/-- A character of a bare key. -/
def isBareKeyChar (c : Char) : Bool :=
  ('A' ≤ c && c ≤ 'Z') || ('a' ≤ c && c ≤ 'z') || ('0' ≤ c && c ≤ '9') || c = '_' || c = '-'

/-- One part of a key: bare, basic-quoted or literal-quoted. -/
def simpleKey (cs : List Char) : Except TomlFault (String × List Char) :=
  match cs with
  | '"' :: r => basicString (r.length + 1) [] r
  | '\'' :: r => literalString (r.length + 1) [] r
  | _ =>
    let k := cs.takeWhile isBareKeyChar
    if k.isEmpty then throw .malformed else pure (String.ofList k, cs.drop k.length)

/-- A dotted key, with the blanks around its parts. -/
def dottedKey : Nat → List String → List Char → Except TomlFault (List String × List Char)
  | 0, _, _ => throw .malformed
  | fuel + 1, acc, cs => do
    let (k, r) ← simpleKey (skipBlank cs)
    let r := skipBlank r
    let acc := k :: acc
    match r with
    | '.' :: r' => dottedKey fuel acc r'
    | _ =>
      if acc.length ≥ depthLimit then throw .tooDeep else pure (acc.reverse, r)

/-- A key: its parts in order. -/
def key (cs : List Char) : Except TomlFault (List String × List Char) :=
  dottedKey (cs.length + 1) [] cs

/-! ## Numbers and date-times -/

/-- The outcome of one alternative of the grammar. -/
inductive Scan (α : Type) where
  /-- The alternative matched. -/
  | ok (a : α) (rest : List Char)
  /-- The alternative does not apply; another may. -/
  | miss
  /-- The text went wrong inside the alternative. -/
  | fail (f : TomlFault)

/-- Digits with single underscores between them, after a first digit: the digits, and the
rest. An underscore not followed by a digit is an error. -/
def digitRun (isDigit : Char → Bool) : Nat → List Char → List Char → Scan (List Char)
  | 0, _, _ => .fail .malformed
  | fuel + 1, acc, cs =>
    match cs with
    | '_' :: c :: r => if isDigit c then digitRun isDigit fuel (c :: acc) r else .fail .malformed
    | ['_'] => .fail .malformed
    | c :: r => if isDigit c then digitRun isDigit fuel (c :: acc) r else .ok acc.reverse cs
    | [] => .ok acc.reverse []

/-- Whether a character is an ASCII digit. -/
def isDigitChar (c : Char) : Bool := '0' ≤ c && c ≤ '9'

/-- A signed decimal integer without leading zeros: the sign, the digits and the rest. -/
def decimalInt (cs : List Char) : Scan (Bool × List Char) :=
  let (negative, body) := match cs with
    | '+' :: r => (false, r)
    | '-' :: r => (true, r)
    | _ => (false, cs)
  match body with
  | '0' :: r => .ok (negative, ['0']) r
  | c :: r =>
    if '1' ≤ c ∧ c ≤ '9' then
      match digitRun isDigitChar (r.length + 1) [c] r with
      | .ok ds rest => .ok (negative, ds) rest
      | .miss => .miss
      | .fail f => .fail f
    else .miss
  | [] => .miss

/-- Digits that may start with zeros, with underscores between digits. -/
def zeroPrefixable (cs : List Char) : Scan (List Char) :=
  match cs with
  | c :: r => if isDigitChar c then digitRun isDigitChar (r.length + 1) [c] r else .miss
  | [] => .miss

/-- The number that decimal digits spell. -/
def digitsValue (ds : List Char) : Nat := ds.foldl (fun acc c => acc * 10 + (c.toNat - 48)) 0

/-- An exponent after its `e`: the signed power of ten, and the rest. -/
def exponent (cs : List Char) : Scan Int :=
  let (negative, body) := match cs with
    | '+' :: r => (false, r)
    | '-' :: r => (true, r)
    | _ => (false, cs)
  match zeroPrefixable body with
  | .ok ds r => .ok (if negative then -(digitsValue ds : Int) else digitsValue ds) r
  | _ => .fail .malformed

/-- The bits of positive infinity. -/
def positiveInfinity : UInt64 := 0x7FF0000000000000

/-- `inf` or `nan`, with an optional sign. -/
def specialFloat (cs : List Char) : Scan UInt64 :=
  let (negative, body) := match cs with
    | '+' :: r => (false, r)
    | '-' :: r => (true, r)
    | _ => (false, cs)
  let sign : UInt64 := if negative then 0x8000000000000000 else 0
  match body with
  | 'i' :: 'n' :: 'f' :: r => .ok (sign ||| positiveInfinity) r
  | 'n' :: 'a' :: 'n' :: r => .ok (sign ||| 0x7FF8000000000000) r
  | _ => .miss

/-- A double: an integer part with a fraction, an exponent or both, or a special value. -/
def float (cs : List Char) : Scan UInt64 :=
  match decimalInt cs with
  | .fail f => .fail f
  | .miss => specialFloat cs
  | .ok (negative, intDigits) r =>
    let finish (fracDigits : List Char) (e : Int) (rest : List Char) : Scan UInt64 :=
      let bits := Decimal.nearestBits negative (digitsValue (intDigits ++ fracDigits))
        (e - fracDigits.length)
      if bits == positiveInfinity then .fail .outOfRange else .ok bits rest
    match r with
    | c :: r' =>
      if c = 'e' ∨ c = 'E' then
        match exponent r' with
        | .ok e rest => finish [] e rest
        | .miss => .fail .malformed
        | .fail f => .fail f
      else if c = '.' then
        match zeroPrefixable r' with
        | .ok fracDigits rest =>
          match rest with
          | x :: rest' =>
            if x = 'e' ∨ x = 'E' then
              match exponent rest' with
              | .ok e rest'' => finish fracDigits e rest''
              | .miss => .fail .malformed
              | .fail f => .fail f
            else finish fracDigits 0 rest
          | [] => finish fracDigits 0 []
        | _ => .fail .malformed
      else specialFloat cs
    | [] => specialFloat cs

/-- The largest 64-bit signed integer. -/
def int64Max : Int := 9223372036854775807

/-- Digits in a base after a `0x`, `0o` or `0b` prefix. -/
def radixInt (base : Nat) (isDigit : Char → Bool) (cs : List Char) : Scan Int :=
  match cs with
  | c :: r =>
    if isDigit c then
      match digitRun isDigit (r.length + 1) [c] r with
      | .ok ds rest =>
        let v := ds.foldl (fun acc d => acc * base + (hexValue? d).getD 0) 0
        if (v : Int) > int64Max then .fail .outOfRange else .ok v rest
      | .miss => .fail .malformed
      | .fail f => .fail f
    else .fail .malformed
  | [] => .fail .malformed

/-- An integer in decimal, hex, octal or binary that fits 64 signed bits. -/
def integer (cs : List Char) : Scan Int :=
  match cs with
  | '0' :: 'x' :: r => radixInt 16 (fun c => (hexValue? c).isSome) r
  | '0' :: 'o' :: r => radixInt 8 (fun c => '0' ≤ c && c ≤ '7') r
  | '0' :: 'b' :: r => radixInt 2 (fun c => c = '0' || c = '1') r
  | _ =>
    match decimalInt cs with
    | .ok (negative, ds) rest =>
      let v : Int := if negative then -(digitsValue ds : Int) else digitsValue ds
      if v > int64Max ∨ v < -int64Max - 1 then .fail .outOfRange else .ok v rest
    | .miss => .miss
    | .fail f => .fail f

/-- Exactly `n` digits: their value and the rest. -/
def fixedDigits (n : Nat) (cs : List Char) : Option (Nat × List Char) :=
  let ds := cs.take n
  if ds.length = n ∧ ds.all isDigitChar then some (digitsValue ds, cs.drop n) else none

/-- The days of a month. -/
def monthDays (year month : Nat) : Nat :=
  let leap := year % 4 = 0 ∧ (year % 100 ≠ 0 ∨ year % 400 = 0)
  match month with
  | 2 => if leap then 29 else 28
  | 4 | 6 | 9 | 11 => 30
  | _ => 31

/-- A date `YYYY-MM-DD`; once `YYYY-` is read the rest must follow. -/
def fullDate (cs : List Char) : Scan TomlDate :=
  match fixedDigits 4 cs with
  | some (year, '-' :: r) =>
    match fixedDigits 2 r with
    | some (month, '-' :: r) =>
      if month < 1 ∨ month > 12 then .fail .outOfRange
      else match fixedDigits 2 r with
        | some (day, r) =>
          if day < 1 ∨ day > 31 ∨ day > monthDays year month then .fail .outOfRange
          else .ok ⟨year, month, day⟩ r
        | none => .fail .malformed
    | some (month, _) => if month < 1 ∨ month > 12 then .fail .outOfRange else .fail .malformed
    | none => .fail .malformed
  | _ => .miss

/-- A fraction of a second after its point: at least one digit, the first nine counted. -/
def secondFraction (cs : List Char) : Option (Nat × List Char) :=
  let ds := cs.takeWhile isDigitChar
  if ds.isEmpty then none
  else
    let used := ds.take 9
    some (digitsValue used * Nat.pow 10 (9 - used.length), cs.drop ds.length)

/-- A time `hh:mm:ss` with an optional fraction; once `hh:` is read the rest must follow. -/
def partialTime (cs : List Char) : Scan TomlTime :=
  match fixedDigits 2 cs with
  | some (hour, ':' :: r) =>
    if hour > 23 then .miss
    else match fixedDigits 2 r with
      | some (minute, ':' :: r) =>
        if minute > 59 then .fail .outOfRange
        else match fixedDigits 2 r with
          | some (second, r) =>
            if second > 60 then .fail .outOfRange
            else match r with
              | '.' :: r' => match secondFraction r' with
                | some (nano, r'') => .ok ⟨hour, minute, second, nano⟩ r''
                | none => .ok ⟨hour, minute, second, 0⟩ r
              | _ => .ok ⟨hour, minute, second, 0⟩ r
          | none => .fail .malformed
      | some (minute, _) => if minute > 59 then .fail .outOfRange else .fail .malformed
      | none => .fail .malformed
  | _ => .miss

/-- An offset `Z`, `z` or `±hh:mm`, if one follows. -/
def timeOffset (cs : List Char) : Scan TomlOffset :=
  match cs with
  | 'Z' :: r => .ok .utc r
  | 'z' :: r => .ok .utc r
  | c :: r =>
    if c = '+' ∨ c = '-' then
      match fixedDigits 2 r with
      | some (h, ':' :: r') =>
        if h > 23 then .fail .outOfRange
        else match fixedDigits 2 r' with
          | some (m, r'') =>
            if m > 59 then .fail .outOfRange
            else .ok (.minutes (if c = '-' then -((h * 60 + m : Nat) : Int) else (h * 60 + m : Nat))) r''
          | none => .fail .malformed
      | some (h, _) => if h > 23 then .fail .outOfRange else .fail .malformed
      | none => .fail .malformed
    else .miss
  | [] => .miss

/-- An offset or local date-time, a local date, or a local time. -/
def dateTime (cs : List Char) : Scan TomlDatetime :=
  match fullDate cs with
  | .fail f => .fail f
  | .ok d r =>
    let dateOnly : Scan TomlDatetime := .ok ⟨some d, none, none⟩ r
    match r with
    | c :: r' =>
      if c = 'T' ∨ c = 't' ∨ c = ' ' then
        match partialTime r' with
        | .ok t r'' =>
          match timeOffset r'' with
          | .ok o rest => .ok ⟨some d, some t, some o⟩ rest
          | .miss => .ok ⟨some d, some t, none⟩ r''
          | .fail f => .fail f
        | .miss => dateOnly
        | .fail f => .fail f
      else dateOnly
    | [] => dateOnly
  | .miss =>
    match partialTime cs with
    | .ok t r => .ok ⟨none, some t, none⟩ r
    | .miss => .miss
    | .fail f => .fail f

/-- A value that starts like a number: a date-time, a double or an integer, in that order. -/
def numberLike (cs : List Char) : Except TomlFault (TomlValue × List Char) :=
  match dateTime cs with
  | .ok d r => pure (.datetime d, r)
  | .fail f => throw f
  | .miss =>
    match float cs with
    | .ok b r => pure (.float b, r)
    | .fail f => throw f
    | .miss =>
      match integer cs with
      | .ok n r => pure (.integer n, r)
      | .fail f => throw f
      | .miss => throw .malformed

/-! ## Values -/

mutual

/-- A value at a nesting depth. -/
def value : Nat → Nat → List Char → Except TomlFault (Item × List Char)
  | 0, _, _ => throw .malformed
  | fuel + 1, depth, cs =>
    match cs with
    | '"' :: '"' :: '"' :: r => do
      let (s, r) ← multilineString '"' true r
      pure (.value (.string s), r)
    | '"' :: r => do
      let (s, r) ← basicString (r.length + 1) [] r
      pure (.value (.string s), r)
    | '\'' :: '\'' :: '\'' :: r => do
      let (s, r) ← multilineString '\'' false r
      pure (.value (.string s), r)
    | '\'' :: r => do
      let (s, r) ← literalString (r.length + 1) [] r
      pure (.value (.string s), r)
    | '[' :: r =>
      if depth + 1 ≥ depthLimit then throw .tooDeep
      else do
        let (items, r) ← arrayItems fuel (depth + 1) [] r
        pure (.value (.array items), r)
    | '{' :: r =>
      if depth + 1 ≥ depthLimit then throw .tooDeep
      else match skipBlank r with
        | '}' :: r' => pure (.inline [] false, r')
        | r' => do
          let (es, r) ← inlineMembers fuel (depth + 1) [] r'
          pure (.inline es false, r)
    | 't' :: 'r' :: 'u' :: 'e' :: r => pure (.value (.boolean true), r)
    | 'f' :: 'a' :: 'l' :: 's' :: 'e' :: r => pure (.value (.boolean false), r)
    | 'i' :: 'n' :: 'f' :: r => pure (.value (.float positiveInfinity), r)
    | 'n' :: 'a' :: 'n' :: r => pure (.value (.float 0x7FF8000000000000), r)
    | c :: _ =>
      if c = '+' ∨ c = '-' ∨ isDigitChar c then do
        let (v, r) ← numberLike cs
        pure (.value v, r)
      else throw .malformed
    | [] => throw .malformed

/-- The items of an array after its opening bracket (or after a comma). -/
def arrayItems : Nat → Nat → List TomlValue → List Char →
    Except TomlFault (List TomlValue × List Char)
  | 0, _, _, _ => throw .malformed
  | fuel + 1, depth, acc, cs => do
    let cs ← skipBlankLines (cs.length + 1) cs
    match cs with
    | ']' :: r => pure (acc.reverse, r)
    | _ =>
      let (item, cs) ← value fuel depth cs
      let cs ← skipBlankLines (cs.length + 1) cs
      match cs with
      | ',' :: r => arrayItems fuel depth (item.toValue :: acc) r
      | ']' :: r => pure ((item.toValue :: acc).reverse, r)
      | _ => throw .malformed

/-- The members of an inline table, one `key = value` at a time, up to its closing brace. -/
def inlineMembers : Nat → Nat → Entries → List Char → Except TomlFault (Entries × List Char)
  | 0, _, _, _ => throw .malformed
  | fuel + 1, depth, acc, cs => do
    let (path, cs) ← key cs
    match cs with
    | '=' :: r =>
      let (item, r) ← value fuel depth (skipBlank r)
      let r := skipBlank r
      let parents := path.dropLast
      let k := path.getLastD ""
      let acc ← descendInline (addKey parents k item) false parents acc
      match r with
      | ',' :: r' => inlineMembers fuel depth acc r'
      | '}' :: r' => pure (acc, r')
      | _ => throw .malformed
    | _ => throw .malformed

end

/-! ## Documents -/

/-- The reader's place in a document: the tables finished so far, and the section being read. -/
structure DocState where
  root : Entries := []
  current : Entries := []
  path : List String := []
  isArray : Bool := false

/-- Puts the section being read into the document. -/
def DocState.finish (s : DocState) : Except TomlFault Entries :=
  match s.path.getLast? with
  | none => pure s.current
  | some k =>
    let parents := s.path.dropLast
    if s.isArray then do
      let (root, _) ← descend false (fun _ es =>
        match lookup es k with
        | some (.tables ts) => pure (replace es k (.tables (ts ++ [s.current])), ())
        | none => pure (es ++ [(k, .tables [s.current])], ())
        | some _ => throw .duplicate) false parents s.root
      pure root
    else do
      let (root, _) ← descend false (fun _ es =>
        match lookup es k with
        | none => pure (es ++ [(k, .table s.current false false)], ())
        | some (.table _ true _) => pure (replace es k (.table s.current false false), ())
        | some _ => throw .duplicate) false parents s.root
      pure root

/-- Starts the section of a `[header]`, taking over a table that only headers created. -/
def DocState.startTable (s : DocState) (path : List String) : Except TomlFault DocState := do
  let root ← s.finish
  let k := path.getLastD ""
  let (root, existing) ← descend false (fun _ es =>
    match lookup es k with
    | none => pure (es, [])
    | some (.table sub true false) => pure (remove es k, sub)
    | some _ => throw .duplicate) false path.dropLast root
  pure { root := root, current := existing, path := path, isArray := false }

/-- Starts the section of a `[[header]]`. -/
def DocState.startArray (s : DocState) (path : List String) : Except TomlFault DocState := do
  let root ← s.finish
  let k := path.getLastD ""
  let (root, _) ← descend false (fun _ es =>
    match lookup es k with
    | none => pure (es ++ [(k, .tables [])], ())
    | some (.tables _) => pure (es, ())
    | some _ => throw .duplicate) false path.dropLast root
  pure { root := root, current := [], path := path, isArray := true }

/-- Adds `key = value` to the section being read. -/
def DocState.addValue (s : DocState) (path : List String) (item : Item) :
    Except TomlFault DocState := do
  let parents := path.dropLast
  let (current, _) ← descend true (fun dot es => do
    let es ← addKey parents (path.getLastD "") item dot es
    pure (es, ())) false parents s.current
  pure { s with current := current }

/-- A header's key and closing bracket(s), then the end of its line. -/
def header (close : List Char) (cs : List Char) : Except TomlFault (List String × List Char) := do
  let (path, r) ← key cs
  if r.take close.length = close then
    let r ← lineTrailing (r.drop close.length)
    pure (path, r)
  else throw .malformed

/-- Reads the lines of a document. -/
def lines : Nat → DocState → List Char → Except TomlFault DocState
  | 0, _, _ => throw .malformed
  | fuel + 1, s, cs =>
    match skipBlank cs with
    | [] => pure s
    | '#' :: r => do
      let r ← lineEnd (r.dropWhile isCommentChar)
      lines fuel s r
    | '[' :: '[' :: r => do
      let (path, r) ← header [']', ']'] r
      lines fuel (← s.startArray path) r
    | '[' :: r => do
      let (path, r) ← header [']'] r
      lines fuel (← s.startTable path) r
    | cs' =>
      match newline? cs' with
      | some r => lines fuel s r
      | none => do
        let (path, r) ← key cs'
        match r with
        | '=' :: r => do
          let (item, r) ← value (2 * r.length + 2) 0 (skipBlank r)
          let r ← lineTrailing r
          lines fuel (← s.addValue path item) r
        | _ => throw .malformed

end TomlReader

namespace TomlValue

/-- Reads a TOML document into its root table. -/
def read (text : String) : Except TomlFault TomlValue := do
  let cs := match text.toList with
    | '\uFEFF' :: r => r
    | cs => cs
  let s ← TomlReader.lines (cs.length + 1) {} cs
  let root ← s.finish
  pure (TomlReader.Item.toValue (.table root false false))

end TomlValue

end ConnectorPlane
