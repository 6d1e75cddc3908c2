import ConnectorPlane.Proofs.Timestamp
import ConnectorPlane.Proofs.UuidText
import ConnectorPlane.Store.Page

/-! # Page tokens read back

A page token is the unpadded URL-safe base64 of the UTF-8 bytes of `v1|<time>|<uid>`.
`PageToken.decode` reads each layer and then writes the position again, refusing a token that
does not come out the same.

* `Base64.decodeWith_encodeWith`: reading base64 undoes writing it, for every alphabet whose
  symbols read back as their values (the URL-safe one does: `value_symbol_urlSafe`).
* `Utf8.decode_encode_ascii`: ASCII text reads back from its bytes.
* `splitOn_plain`: the time and uid texts hold no `|` (`fieldText_text`,
  `fieldText_uuidText`), so the plain text splits into exactly the three fields.
* `PageToken.decode_encode`: the token of a position reads back as that position when its
  time lies in years 0 to 9999 and is refused as a bad timestamp otherwise;
  `PageToken.encode_of_decode`: whatever reads back was written by `encode`.
* `PageToken.decode_eq_ok_iff`: together, a text reads back as a position exactly when it is
  that position's token and the time lies in years 0 to 9999.
* `PageToken.inRange_of_decode`: and every position read back is one a row can be listed at: an
  instant of those years.
-/

namespace ConnectorPlane

namespace Base64

theorem value_symbol_urlSafe : ∀ n, n < 64 → urlSafe.value (urlSafe.symbol n) = some n := by
  decide

theorem toUInt8_eq {n : Nat} {x : UInt8} (h : n = x.toNat) : n.toUInt8 = x := by
  apply UInt8.toNat.inj
  simp [h]

/-- **Reading base64 undoes writing it**, group by group of three bytes. -/
theorem decodeWith_encodeWith {a : Alphabet} (ha : ∀ n, n < 64 → a.value (a.symbol n) = some n) :
    ∀ bytes, decodeWith a (encodeWith a bytes) = some bytes
  | [] => rfl
  | [x] => by
    have hx := x.toNat_lt
    simp only [encodeWith, decodeWith, ha (x.toNat / 4) (by omega),
      ha (x.toNat % 4 * 16) (by omega), Option.bind_eq_bind, Option.bind_some]
    rw [if_neg (by omega), toUInt8_eq (x := x) (by omega)]
  | [x, y] => by
    have hx := x.toNat_lt
    have hy := y.toNat_lt
    simp only [encodeWith, decodeWith, ha ((x.toNat * 256 + y.toNat) / 1024) (by omega),
      ha ((x.toNat * 256 + y.toNat) / 16 % 64) (by omega),
      ha ((x.toNat * 256 + y.toNat) % 16 * 4) (by omega), Option.bind_eq_bind, Option.bind_some]
    rw [if_neg (by omega), toUInt8_eq (x := x) (by omega), toUInt8_eq (x := y) (by omega)]
  | x :: y :: z :: rest => by
    have hx := x.toNat_lt
    have hy := y.toNat_lt
    have hz := z.toNat_lt
    simp only [encodeWith, decodeWith,
      ha ((x.toNat * 65536 + y.toNat * 256 + z.toNat) / 262144) (by omega),
      ha ((x.toNat * 65536 + y.toNat * 256 + z.toNat) / 4096 % 64) (by omega),
      ha ((x.toNat * 65536 + y.toNat * 256 + z.toNat) / 64 % 64) (by omega),
      ha ((x.toNat * 65536 + y.toNat * 256 + z.toNat) % 64) (by omega),
      decodeWith_encodeWith ha rest, Option.bind_eq_bind, Option.bind_some]
    rw [toUInt8_eq (x := x) (by omega), toUInt8_eq (x := y) (by omega),
      toUInt8_eq (x := z) (by omega)]

theorem encodeWith_ne_nil {a : Alphabet} : ∀ {bytes : List UInt8}, bytes ≠ [] →
    encodeWith a bytes ≠ []
  | [], h => absurd rfl h
  | [_], _ => by simp [encodeWith]
  | [_, _], _ => by simp [encodeWith]
  | _ :: _ :: _ :: _, _ => by simp [encodeWith]

end Base64

namespace Utf8

theorem decodeChars_ascii :
    ∀ cs : List Char, (∀ c ∈ cs, c.toNat < 128) →
      decodeChars (cs.flatMap String.utf8EncodeChar) = some cs
  | [], _ => rfl
  | c :: cs, h => by
    have hc := h c List.mem_cons_self
    have hs : c.utf8Size = 1 := Char.utf8Size_eq_one_iff.2 (by
      rw [UInt32.le_iff_toNat_le]; exact Nat.le_of_lt_succ hc)
    have hb : c.val.toUInt8.toNat = c.toNat := by
      rw [UInt32.toNat_toUInt8, Char.toNat_val]
      exact Nat.mod_eq_of_lt (by omega)
    rw [List.flatMap_cons, String.utf8EncodeChar_eq_singleton hs, List.singleton_append]
    rw [decodeChars.eq_def]
    simp only [hb, if_pos hc]
    rw [decodeChars_ascii cs (fun d hd => h d (List.mem_cons_of_mem c hd)), Option.map_some,
      Char.ofNat_toNat]

theorem decode_encode_ascii {s : String} (h : ∀ c ∈ s.toList, c.toNat < 128) :
    decode (encode s) = some s := by
  rw [decode, encode, decodeChars_ascii _ h, Option.map_some, String.ofList_toList]

end Utf8

open Digits

/-- A character a token's field may hold: ASCII other than the separator `|`. -/
def FieldChar (c : Char) : Prop := c.toNat < 128 ∧ c ≠ '|'

instance : DecidablePred FieldChar := fun c => inferInstanceAs (Decidable (c.toNat < 128 ∧ c ≠ '|'))

/-- Text made of field characters. -/
def FieldText (s : String) : Prop := ∀ c ∈ s.toList, FieldChar c

theorem fieldText_append {s t : String} : FieldText (s ++ t) ↔ FieldText s ∧ FieldText t := by
  simp [FieldText, or_imp, forall_and]

theorem fieldChar_of_isDigit {c : Char} (h : c.isDigit) : FieldChar c := by
  have := digit_bounds h
  refine ⟨by omega, ?_⟩
  rintro rfl
  simp at this

theorem fieldText_pad (w n : Nat) : FieldText (Instant.pad w n) :=
  fun _ hc => fieldChar_of_isDigit (digits_pad w n _ hc)

theorem fieldText_text (t : Instant) : FieldText t.text := by
  simp only [Instant.text, Instant.stem, Instant.yearText, apply_ite FieldText, fieldText_append,
    fieldText_pad, and_true]
  simp [FieldText, FieldChar]

theorem fieldChar_hexChar : ∀ d, d < 16 → FieldChar (Uuid.hexChar d) := by
  decide

theorem fieldText_uuidText (u : Uuid) : FieldText u.text := by
  intro c hc
  rw [Uuid.text_toList] at hc
  rcases Uuid.mem_layout hc with rfl | hc
  · decide
  · obtain ⟨d, hd, rfl⟩ := mem_hexWidth hc
    exact fieldChar_hexChar d hd

namespace PageToken

theorem plain_toList (p : PageToken) : p.plain.toList =
    ['v', '1'] ++ '|' :: (p.createTime.text.toList ++ '|' :: p.uid.text.toList) := by
  simp [plain]

theorem splitOn_plain (p : PageToken) :
    (p.plain.toList.splitOn '|').map String.ofList = ["v1", p.createTime.text, p.uid.text] := by
  have hsep : ∀ {s : String}, FieldText s → ∀ c ∈ s.toList, (c == '|') = false := by
    intro s hs c hc
    simpa using (hs c hc).2
  rw [plain_toList, List.splitOn_eq_splitOnP,
    List.splitOnP_append_cons_of_forall_mem (by simp) _ rfl,
    List.splitOnP_append_cons_of_forall_mem (hsep (fieldText_text _)) _ rfl,
    List.splitOnP_eq_singleton (hsep (fieldText_uuidText _))]
  simp

theorem encode_ne_empty (p : PageToken) : p.encode ≠ "" := by
  intro h
  have hbytes : Utf8.encode p.plain ≠ [] := by simp [Utf8.encode, plain_toList]
  have hchars := congrArg String.toList h
  rw [encode, Base64.encodeUrl, String.toList_ofList, String.toList_empty] at hchars
  exact Base64.encodeWith_ne_nil hbytes hchars

theorem ascii_plain (p : PageToken) : ∀ c ∈ p.plain.toList, c.toNat < 128 := by
  intro c hc
  simp only [plain_toList, List.cons_append, List.nil_append, List.mem_cons,
    List.mem_append] at hc
  rcases hc with rfl | rfl | rfl | hc | rfl | hc
  · decide
  · decide
  · decide
  · exact (fieldText_text _ c hc).1
  · decide
  · exact (fieldText_uuidText _ c hc).1

/-- **The token of a position reads back as it exactly when the time lies in years 0 to 9999**;
otherwise the time text carries a sign and is refused. -/
theorem decode_encode (p : PageToken) :
    decode p.encode = if p.createTime.InRange then .ok p else .error .badTimestamp := by
  simp only [decode, encode, Base64.decodeUrl, Base64.encodeUrl, String.toList_ofList,
    Base64.decodeWith_encodeWith Base64.value_symbol_urlSafe,
    Utf8.decode_encode_ascii (ascii_plain p), splitOn_plain, Option.elim, bind, Except.bind,
    pure, Except.pure]
  rw [if_neg (by decide), Instant.parseStrict_text p.createTime]
  by_cases h : p.createTime.InRange
  · simp [h, Uuid.parse_text, Except.pure]
  · simp only [h, if_false]
    rfl

theorem encode_of_decode {s : String} {p : PageToken} (h : decode s = .ok p) : p.encode = s := by
  have hthrow : ∀ {α : Type} (e : TokenFault), (throw e : Except TokenFault α) = .error e :=
    fun _ => rfl
  simp only [decode, bind, Except.bind, pure, Except.pure, hthrow] at h
  repeat' split at h
  all_goals try (cases h; done)
  -- the one that succeeds has passed the check that the token is written again the same
  rename_i hcanon
  cases h
  exact not_not.1 hcanon

/-- **A text reads back as a position exactly when it is that position's token and the time
lies in years 0 to 9999.** -/
theorem decode_eq_ok_iff {s : String} {p : PageToken} :
    decode s = .ok p ↔ s = p.encode ∧ p.createTime.InRange := by
  constructor
  · intro h
    obtain rfl := encode_of_decode h
    rw [decode_encode] at h
    by_cases hr : p.createTime.InRange
    · exact ⟨rfl, hr⟩
    · rw [if_neg hr] at h
      cases h
  · rintro ⟨rfl, hr⟩
    rw [decode_encode, if_pos hr]

/-- A leap second, half a second into second 60 of 1970-01-01, reads back from its token. -/
theorem decode_leap_second_token :
    decode (encode ⟨Instant.ofParts 0 59 1500000000,
        Uuid.ofNat 0x7d4448409dc011d1b2455ffdce74fad2⟩) =
      .ok ⟨Instant.ofParts 0 59 1500000000, Uuid.ofNat 0x7d4448409dc011d1b2455ffdce74fad2⟩ :=
  decode_eq_ok_iff.2 ⟨rfl, by decide⟩

/-- The token of 23:00 UTC on the last day of year -1 is refused as a bad timestamp. -/
theorem decode_token_before_year_zero :
    encode ⟨Instant.ofParts (-719529) 82800 0, Uuid.ofNat 0x7d4448409dc011d1b2455ffdce74fad2⟩ =
        "djF8LTAwMDEtMTItMzFUMjM6MDA6MDAuMDAwMDAwMDAwWnw3ZDQ0NDg0MC05ZGMwLTExZDEtYjI0NS01ZmZkY2U3NGZhZDI" ∧
      decode (encode ⟨Instant.ofParts (-719529) 82800 0,
          Uuid.ofNat 0x7d4448409dc011d1b2455ffdce74fad2⟩) =
        .error .badTimestamp := by
  refine ⟨by decide, ?_⟩
  rw [decode_encode, if_neg (by decide)]

/-- **A position read back from a token lies in the years 0 to 9999**, as every position a row is
listed at. -/
theorem inRange_of_decode {s : String} {p : PageToken} (h : decode s = .ok p) :
    p.createTime.InRange := by
  obtain rfl := encode_of_decode h
  rw [decode_encode] at h
  by_contra hr
  rw [if_neg hr] at h
  cases h

end PageToken

end ConnectorPlane
