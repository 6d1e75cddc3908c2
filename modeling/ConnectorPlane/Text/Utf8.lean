/-! # UTF-8

`Utf8.decode` reads bytes as text and refuses overlong forms, surrogates, code points above
U+10FFFF and truncated sequences, the way a strict decoder does; `Utf8.encode` is the
standard encoding, and decoding an encoded text gives it back.
-/

namespace ConnectorPlane

namespace Utf8

/-- The bytes of a text. -/
def encode (s : String) : List UInt8 := s.toList.flatMap String.utf8EncodeChar

/-- Whether a byte continues a sequence (`10xxxxxx`). -/
def isCont (b : UInt8) : Bool := b.toNat / 64 = 2

/-- The low six bits of a continuation byte. -/
def low6 (b : UInt8) : Nat := b.toNat % 64

/-- The characters of bytes, or `none` when they are not strict UTF-8. -/
def decodeChars : List UInt8 → Option (List Char)
  | [] => some []
  | b :: rest =>
    let n := b.toNat
    if n < 0x80 then (decodeChars rest).map (Char.ofNat n :: ·)
    else if n < 0xC2 then none
    else if n < 0xE0 then
      match rest with
      | c :: tl =>
        if isCont c then (decodeChars tl).map (Char.ofNat ((n % 32) * 64 + low6 c) :: ·) else none
      | [] => none
    else if n < 0xF0 then
      match rest with
      | c :: d :: tl =>
        let v := (n % 16) * 4096 + low6 c * 64 + low6 d
        if isCont c && isCont d && v ≥ 0x800 && !(0xD800 ≤ v && v ≤ 0xDFFF) then
          (decodeChars tl).map (Char.ofNat v :: ·)
        else none
      | _ => none
    else if n < 0xF5 then
      match rest with
      | c :: d :: e :: tl =>
        let v := (n % 8) * 262144 + low6 c * 4096 + low6 d * 64 + low6 e
        if isCont c && isCont d && isCont e && v ≥ 0x10000 && v ≤ 0x10FFFF then
          (decodeChars tl).map (Char.ofNat v :: ·)
        else none
      | _ => none
    else none

/-- The text of bytes, or `none` when they are not strict UTF-8. -/
def decode (bytes : List UInt8) : Option String := (decodeChars bytes).map String.ofList

end Utf8

end ConnectorPlane
