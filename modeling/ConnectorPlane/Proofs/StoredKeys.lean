import ConnectorPlane.Proofs.ConnectorIds
import ConnectorPlane.Proofs.Timestamp
import ConnectorPlane.Proofs.UuidText
import ConnectorPlane.Store.Row

/-! # The keys a row is stored and sorted by

A row is sorted by its creation time and its uid, both as stored text compared byte by byte.
Both texts are ASCII, so their bytes compare as their characters (`Utf8.bytes_lt_iff`):

* `Instant.text_ascii`, `Uuid.text_ascii`: the text of an instant of the years 0 to 9999 and the
  hyphenated text of a uid are ASCII;
* `Stored.time_text`: the store reads an instant back from its text exactly when its year is
  0 to 9999, and refuses any other year's text, whose sign is no digit;
* `stored_keys_sort_as_values`: the stored texts compare as the instants (years 0 to 9999) and as
  the uids; `year_ten_thousand_breaks_stored_keys` is a pair of instants a day apart, at the end
  of year 9999, whose texts compare the other way round.
-/

namespace ConnectorPlane

namespace Utf8

open Digits

theorem toUInt8_lt_iff {c d : Char} (hc : c.toNat < 128) (hd : d.toNat < 128) :
    c.toUInt8 < d.toUInt8 ↔ c < d := by
  rw [UInt8.lt_iff_toNat_lt, toUInt8_toNat hc, toUInt8_toNat hd, char_lt_iff]

theorem toUInt8_inj {c d : Char} (hc : c.toNat < 128) (hd : d.toNat < 128) :
    c.toUInt8 = d.toUInt8 ↔ c = d := by
  rw [← UInt8.toNat_inj, toUInt8_toNat hc, toUInt8_toNat hd, Char.toNat_inj]

theorem map_toUInt8_lt_iff : ∀ {xs ys : List Char}, (∀ c ∈ xs, c.toNat < 128) →
    (∀ c ∈ ys, c.toNat < 128) → (xs.map (·.toUInt8) < ys.map (·.toUInt8) ↔ xs < ys)
  | [], [], _, _ => by simp [List.lt_irrefl]
  | [], _ :: _, _, _ => by simp
  | _ :: _, [], _, _ => by simp
  | c :: xs, d :: ys, hx, hy => by
    have hc := hx c List.mem_cons_self
    have hd := hy d List.mem_cons_self
    rw [List.map_cons, List.map_cons, List.cons_lt_cons_iff, List.cons_lt_cons_iff,
      toUInt8_lt_iff hc hd, toUInt8_inj hc hd,
      map_toUInt8_lt_iff (fun e he => hx e (List.mem_cons_of_mem c he))
        (fun e he => hy e (List.mem_cons_of_mem d he))]

/-- **ASCII texts compare byte by byte as they compare character by character.** -/
theorem bytes_lt_iff {s t : String} (hs : ∀ c ∈ s.toList, c.toNat < 128)
    (ht : ∀ c ∈ t.toList, c.toNat < 128) : s.toUTF8.toList < t.toUTF8.toList ↔ s < t := by
  rw [toUTF8_toList, toUTF8_toList, encode_ascii hs, encode_ascii ht, String.lt_iff]
  exact map_toUInt8_lt_iff hs ht

end Utf8

/-! ## The texts are ASCII -/

namespace Instant

open Digits

theorem ascii_of_digits {cs : List Char} (h : AllDigits cs) : ∀ c ∈ cs, c.toNat < 128 := by
  intro c hc
  have := digit_bounds (h c hc)
  omega

theorem text_ascii {t : Instant} (h : t.InRange) : ∀ c ∈ t.text.toList, c.toNat < 128 := by
  have hpad : ∀ w n, (∀ c ∈ (pad w n).toList, c.toNat < 128) = True := fun w n =>
    eq_true (ascii_of_digits (digits_pad w n))
  -- the padded fields are digits; what is left are the separators
  simp only [text_toList h, dateChars, clockChars, List.forall_mem_append, List.forall_mem_cons,
    hpad, true_and, and_true, List.not_mem_nil, false_imp_iff, imp_true_iff]
  decide

end Instant

namespace Uuid

theorem text_ascii (u : Uuid) : ∀ c ∈ u.text.toList, c.toNat < 128 := by
  have hhex : ∀ d, d < 16 → (hexChar d).toNat < 128 := by decide
  intro c hc
  rw [text_toList] at hc
  rcases mem_layout hc with rfl | hc
  · decide
  · obtain ⟨d, hd, rfl⟩ := Digits.mem_hexWidth hc
    exact hhex d hd

end Uuid

/-! ## Reading a time back -/

/-- **The store reads an instant back from its text exactly when its year is 0 to 9999**,
nanoseconds and leap seconds included; the text of any other year is refused as invalid data. -/
theorem Stored.time_text (t : Instant) :
    Stored.time t.text = if t.InRange then .ok t else
      .error (.invalidData ("timestamp '" ++ t.text ++ "': input contains invalid characters")) := by
  have hmsg : "': " ++ TimeFault.invalid.text = "': input contains invalid characters" := by decide
  unfold Stored.time
  rw [Instant.parseStrict_text t]
  split_ifs
  · rfl
  · simp only [String.append_assoc, hmsg]

/-! ## The order of stored keys -/

/-- **Stored keys sort like what they encode**: texts of instants of the years 0 to 9999 compare
byte by byte as the instants (`Instant.lt`, a leap second after the second it extends), an
instant reads back from its text exactly when its year is in that range, and the hyphenated
texts of uids compare byte by byte as the uids. -/
theorem stored_keys_sort_as_values (a b t : Instant) (u v : Uuid) (hra : a.InRange)
    (hrb : b.InRange) :
    (a.lt b = true ↔ a.text.toUTF8.toList < b.text.toUTF8.toList) ∧
    Stored.time t.text = (if t.InRange then .ok t else
      .error (.invalidData ("timestamp '" ++ t.text ++ "': input contains invalid characters"))) ∧
    (u.value < v.value ↔ u.text.toUTF8.toList < v.text.toUTF8.toList) := by
  refine ⟨?_, Stored.time_text t, ?_⟩
  · rw [Utf8.bytes_lt_iff (Instant.text_ascii hra) (Instant.text_ascii hrb),
      Instant.text_lt_iff hra hrb]
  · rw [Utf8.bytes_lt_iff (Uuid.text_ascii u) (Uuid.text_ascii v), Uuid.text_lt_iff]

/-- 2016-12-31T23:59:60.5Z, half way through a leap second. -/
def leapSecond : Instant := Instant.ofParts 17166 86399 1500000000

/-- 2017-01-01T00:00:00Z, the instant after that leap second. -/
def newYear2017 : Instant := Instant.ofParts 17167 0 0

/-- A leap second's key sorts before the next minute's, and reads back with its fraction. -/
theorem leap_second_key_sorts_before_new_year :
    leapSecond.InRange ∧ newYear2017.InRange ∧
      leapSecond.text.toUTF8.toList < newYear2017.text.toUTF8.toList ∧
      Stored.time leapSecond.text = .ok leapSecond ∧
      Uuid.nil.text.toUTF8.toList < (Uuid.ofNat 1).text.toUTF8.toList := by
  have hrl : leapSecond.InRange := by decide
  have hrn : newYear2017.InRange := by decide
  obtain ⟨horder, hread, huid⟩ := stored_keys_sort_as_values leapSecond newYear2017 leapSecond
    Uuid.nil (Uuid.ofNat 1) hrl hrn
  exact ⟨hrl, hrn, horder.1 (by decide), by rw [hread, if_pos hrl],
    huid.1 (by decide)⟩

/-- 9999-12-31T00:00:00Z. -/
def lastDayOf9999 : Instant := Instant.ofParts 2932896 0 0

/-- 10000-01-01T00:00:00Z, written with a sign. -/
def firstDayOf10000 : Instant := Instant.ofParts 2932897 0 0

/-- At the end of year 9999 the stored keys stop sorting like the instants: the later instant's
text starts with `+`, which sorts before every digit, and it does not read back. -/
theorem year_ten_thousand_breaks_stored_keys :
    lastDayOf9999.lt firstDayOf10000 = true ∧
      firstDayOf10000.text.toUTF8.toList < lastDayOf9999.text.toUTF8.toList ∧
      Stored.time firstDayOf10000.text = .error (.invalidData
        "timestamp '+10000-01-01T00:00:00.000000000Z': input contains invalid characters") := by
  have hlast : lastDayOf9999.text = "9999-12-31T00:00:00.000000000Z" := by decide
  have hfirst : firstDayOf10000.text = "+10000-01-01T00:00:00.000000000Z" := by decide
  refine ⟨by decide, ?_, ?_⟩
  · rw [Utf8.toUTF8_toList, Utf8.toUTF8_toList, hlast, hfirst]
    decide
  · rw [Stored.time_text firstDayOf10000, if_neg (by decide), hfirst]
    rfl

end ConnectorPlane
