import ConnectorPlane.Proofs.Digits
import ConnectorPlane.Proofs.Calendar
import ConnectorPlane.Time.Rfc3339

/-! # The stored timestamp text

`Instant.text` writes `YYYY-MM-DDThh:mm:ss.nnnnnnnnnZ`: zero-padded fields at fixed places for
the years 0 to 9999 (`Instant.InRange`); any other year gets a sign and as many digits as it
needs.

* `parseStrict_text`: an instant reads back from its text through the strict grammar exactly
  when its year is in range; the text of any other year starts with its sign, which the grammar
  refuses as an invalid character. The reading goes field by field (`number_pad`,
  `strictFields_text`) and the fields give the instant back (`toInstant_textFields`).
* `text_lt_iff`: texts of instants of years 0 to 9999 compare as the instants (`Instant.lt`), a
  leap second included; `text_inj`: distinct such instants have distinct texts.
-/

namespace ConnectorPlane

namespace Rfc3339

open Digits

theorem go_digits {min max : Nat} (rest : List Char) :
    ∀ (ds p : List Char), AllDigits (p ++ ds) → p.length + ds.length ≤ max → max ≤ 18 →
      number.go min max (ds ++ rest) p.length (value p) =
        number.go min max rest (p.length + ds.length) (value (p ++ ds))
  | [], p, _, _, _ => by simp
  | c :: ds, p, hd, hl, h18 => by
    have hc := digit_bounds (hd c (by simp))
    have hv := @value_lt (p ++ [c]) (fun x hx => hd x (by simp at hx ⊢; tauto))
    have hpow : 10 ^ (p ++ [c]).length ≤ 10 ^ 18 :=
      Nat.pow_le_pow_right (by decide) (by simp at hl ⊢; omega)
    have hval : value (p ++ [c]) = value p * 10 + (c.toNat - 48) := by
      simp [value, Nat.ofDigitChars_append, Nat.ofDigitChars_cons]; omega
    -- eighteen digits stay below the largest word, so no digit is refused
    have hn : (value p : Int) * 10 + ((c.toNat : Int) - 48) = (value (p ++ [c]) : Int) := by
      rw [hval]; push_cast; omega
    have hw : ¬ (value (p ++ [c]) : Int) > wordMax := by
      simp only [wordMax]; omega
    have ih := @go_digits min max rest ds (p ++ [c]) (by simpa using hd)
      (by simp at hl ⊢; omega) h18
    simp only [List.length_append, List.length_cons, List.length_nil, Nat.zero_add,
      List.append_assoc, List.singleton_append] at ih
    rw [List.cons_append, number.go]
    simp only [show ¬ p.length ≥ max by simp at hl; omega, if_false,
      if_pos (show c.isDigit = true from hd c (by simp))]
    rw [hn, if_neg hw, ih, List.length_cons, Nat.add_assoc, Nat.add_comm 1]

theorem go_full {min max : Nat} (rest : List Char) (v : Int) :
    number.go min max rest max v = .ok (v, rest) := by
  cases rest <;> simp [number.go]

theorem number_digits {ds : List Char} (rest : List Char) (min : Nat) (hd : AllDigits ds)
    (h0 : 0 < ds.length) (h18 : ds.length ≤ 18) :
    number (ds ++ rest) min ds.length = .ok (value ds, rest) := by
  have h := @go_digits min ds.length rest ds [] (by simpa using hd) (by simp) h18
  simp only [List.length_nil, List.nil_append, Nat.zero_add] at h
  have hne : (ds ++ rest).isEmpty = false := by
    cases ds with
    | nil => simp at h0
    | cons c cs => rfl
  rw [number, hne, Bool.false_and, if_neg Bool.false_ne_true]
  rw [show ((value [] : Nat) : Int) = 0 from rfl] at h
  rw [h, go_full]

/-- **A padded field reads back** when it has the width read. -/
theorem number_pad {w n : Nat} (rest : List Char) (min : Nat) (hw : 0 < w) (h18 : w ≤ 18)
    (hn : n < 10 ^ w) : number ((Instant.pad w n).toList ++ rest) min w = .ok (n, rest) := by
  have h := number_digits rest min (digits_pad w n) (by rw [length_pad hw hn]; exact hw)
    (by rw [length_pad hw hn]; exact h18)
  rwa [length_pad hw hn, value_pad] at h

theorem fraction_pad {n : Nat} (hn : n < 10 ^ 9) :
    fraction ((Instant.pad 9 n).toList ++ ['Z']) = .ok (n, ['Z']) := by
  have hl := length_pad (by decide) hn
  simp only [fraction, number_pad ['Z'] 1 (by decide) (by decide) hn]
  simp [hl]

theorem inRange_natCast {n : Nat} {lo hi : Int} (h : lo ≤ n ∧ (n : Int) ≤ hi) :
    inRange n lo hi = .ok n := by
  simp [inRange, h]

theorem strictFields_cons_of_not_digit {c : Char} (hc : c.isDigit = false) (rest : List Char) :
    strictFields (c :: rest) = .error .invalid := by
  simp [strictFields, number, number.go, hc, bind, Except.bind]

end Rfc3339

theorem Moment.isValid_iff {m : Moment} : m.isValid = true ↔ m.second < 86400 ∧
    m.nano < 2000000000 ∧ (m.nano < 1000000000 ∨ m.second % 60 = 59) ∧ m.date.isValid = true := by
  simp [Moment.isValid, and_assoc]

theorem Moment.shift_zero_of_lt {m : Moment} (h : m.second < 86400) : m.shift 0 = m := by
  have h1 : (m.second : Int).fdiv 86400 = 0 := by
    rw [Int.fdiv_eq_ediv_of_nonneg _ (by decide)]; omega
  have h2 : (m.second : Int).fmod 86400 = m.second := by
    rw [Int.fmod_eq_emod_of_nonneg _ (by decide)]; omega
  simp only [Moment.shift, Int.add_zero, h1, h2, Int.toNat_natCast]

namespace Instant

open Digits Rfc3339

/-- The year is one the fixed-width text covers. -/
def InRange (t : Instant) : Prop := 0 ≤ t.date.year ∧ t.date.year ≤ 9999

instance (t : Instant) : Decidable t.InRange :=
  inferInstanceAs (Decidable (0 ≤ t.date.year ∧ t.date.year ≤ 9999))

/-- The date part of the text. -/
def dateChars (t : Instant) : List Char :=
  (pad 4 t.date.year.toNat).toList ++ '-' :: ((pad 2 t.date.month).toList ++ '-' ::
    (pad 2 t.date.day).toList)

/-- The clock part of the text, after the date and its `T`. -/
def clockChars (t : Instant) : List Char :=
  (pad 2 (t.second / 3600)).toList ++ ':' :: ((pad 2 (t.second / 60 % 60)).toList ++ ':' ::
    ((pad 2 (t.second % 60 + t.nano / 1000000000)).toList ++ '.' ::
      ((pad 9 (t.nano % 1000000000)).toList ++ ['Z'])))

theorem text_toList {t : Instant} (h : t.InRange) :
    t.text.toList = dateChars t ++ 'T' :: clockChars t := by
  simp [text, stem, yearText, h.1, h.2, dateChars, clockChars]

theorem text_toList_of_not_inRange {t : Instant} (h : ¬ t.InRange) :
    ∃ rest, t.text.toList = (if t.date.year < 0 then '-' else '+') :: rest := by
  unfold InRange at h
  by_cases hneg : t.date.year < 0 <;> simp [text, stem, yearText, h, hneg]

/-! ## Reading the text back -/

/-- The fields the text writes: a leap second as second 60, the rest of its fraction below. -/
def textFields (t : Instant) : Fields :=
  ⟨t.date.year, t.date.month, t.date.day, t.second / 3600, t.second / 60 % 60,
    t.second % 60 + t.nano / 1000000000, t.nano % 1000000000, 0⟩

theorem strictFields_text {t : Instant} (h : t.InRange) :
    strictFields t.text.toList = .ok (t.textFields, []) := by
  obtain ⟨hsec, hnano, -, hdate⟩ := Moment.isValid_iff.1 t.valid
  rw [CivilDate.isValid_iff] at hdate
  have hml := CivilDate.monthLength_le t.date.year t.date.month
  have hy : t.date.year.toNat < 10 ^ 4 := by have := h.2; omega
  rw [text_toList h]
  simp (disch := omega) only [dateChars, clockChars, strictFields, List.append_assoc,
    List.cons_append, number_pad, fraction_pad, inRange_natCast, bind, Except.bind, pure,
    Except.pure, expect, dateTimeSeparator, offset, Int.toNat_of_nonneg h.1, ↓reduceIte, true_or]
  exact if_neg (by decide)

/-- The clock fields as the text writes them give back the second of the day and the fraction,
a leap second included. -/
theorem clock_fields {second nano : Nat} (hleap : nano < 1000000000 ∨ second % 60 = 59)
    (hnano : nano < 2000000000) :
    let p := if second % 60 + nano / 1000000000 = 60 then (59, nano % 1000000000 + 1000000000)
      else (second % 60 + nano / 1000000000, nano % 1000000000)
    second / 3600 * 3600 + second / 60 % 60 * 60 + p.1 = second ∧ p.2 = nano := by
  by_cases hl : nano < 1000000000
  · have : second % 60 + nano / 1000000000 ≠ 60 := by omega
    simp only [if_neg this]
    omega
  · have : second % 60 + nano / 1000000000 = 60 := by omega
    simp only [if_pos this]
    omega

theorem toInstant_textFields (t : Instant) : t.textFields.toInstant = .ok t := by
  obtain ⟨hsec, hnano, hleap, hdate⟩ := Moment.isValid_iff.1 t.valid
  have hdays : CivilDate.toDays ⟨t.date.year, t.date.month, t.date.day⟩ = t.day :=
    CivilDate.toDays_ofDays t.day
  obtain ⟨hs, hn⟩ := clock_fields hleap hnano
  rw [textFields]
  simp only [Fields.toInstant, hdate, hdays, Bool.not_true, Bool.false_eq_true,
    if_false, hs, hn, Int.neg_zero, Moment.shift_zero_of_lt hsec]
  rw [if_neg (by decide)]
  exact dif_pos t.valid

theorem parseStrict_text_of_inRange {t : Instant} (h : t.InRange) : parseStrict t.text = .ok t := by
  simp only [parseStrict, strictFields_text h, bind, Except.bind, List.isEmpty_nil,
    Bool.not_true, Bool.false_eq_true, if_false]
  exact toInstant_textFields t

/-- **An instant reads back from its text exactly when its year is 0 to 9999**; the text of any
other year starts with a sign, which the strict grammar refuses. -/
theorem parseStrict_text (t : Instant) :
    parseStrict t.text = if t.InRange then .ok t else .error .invalid := by
  by_cases h : t.InRange
  · rw [if_pos h, parseStrict_text_of_inRange h]
  · obtain ⟨rest, hrest⟩ := text_toList_of_not_inRange h
    have hsign : (if t.date.year < 0 then '-' else '+').isDigit = false := by split <;> rfl
    simp only [parseStrict, hrest, strictFields_cons_of_not_digit hsign, if_neg h, bind,
      Except.bind]

theorem text_inj {a b : Instant} (hra : a.InRange) (hrb : b.InRange) : a.text = b.text ↔ a = b := by
  constructor
  · intro h
    have hread := parseStrict_text_of_inRange hra
    rwa [h, parseStrict_text_of_inRange hrb, Except.ok.injEq, eq_comm] at hread
  · rintro rfl
    rfl

/-! ## Order -/

theorem clockChars_lt_iff (a b : Instant) :
    clockChars a < clockChars b ↔ a.second < b.second ∨ a.second = b.second ∧ a.nano < b.nano := by
  obtain ⟨has, han, hal, -⟩ := Moment.isValid_iff.1 a.valid
  obtain ⟨hbs, hbn, hbl, -⟩ := Moment.isValid_iff.1 b.valid
  simp only [clockChars]
  rw [pad_append_lt_iff _ (by decide) (by omega) (by omega),
    pad_append_lt_iff _ (by decide) (by omega) (by omega),
    pad_append_lt_iff _ (by decide) (by omega) (by omega),
    pad_append_lt_iff _ (by decide) (by omega) (by omega)]
  simp only [List.lt_irrefl, and_false, or_false]
  omega

/-- Fields compared one after another, the year as a natural number, are the calendar order
and then whatever follows the day. -/
theorem fields_lt_iff_before {A B : CivilDate} {X : Prop} (ha : 0 ≤ A.year) (hb : 0 ≤ B.year) :
    (A.year.toNat < B.year.toNat ∨ A.year.toNat = B.year.toNat ∧
      (A.month < B.month ∨ A.month = B.month ∧ (A.day < B.day ∨ A.day = B.day ∧ X))) ↔
      CivilDate.Before A B ∨ A = B ∧ X := by
  have hlt : A.year.toNat < B.year.toNat ↔ A.year < B.year := by omega
  have heq : A.year.toNat = B.year.toNat ↔ A.year = B.year := by omega
  obtain ⟨y, m, d⟩ := A
  obtain ⟨y', m', d'⟩ := B
  simp only [hlt, heq, CivilDate.Before, CivilDate.mk.injEq]
  tauto

/-- **Texts of instants of years 0 to 9999 compare as the instants.** -/
theorem text_lt_iff {a b : Instant} (hra : a.InRange) (hrb : b.InRange) :
    a.text < b.text ↔ a.lt b = true := by
  have hda := (Moment.isValid_iff.1 a.valid).2.2.2
  have hdb := (Moment.isValid_iff.1 b.valid).2.2.2
  have hma := (CivilDate.isValid_iff _).1 hda
  have hmb := (CivilDate.isValid_iff _).1 hdb
  have hla := CivilDate.monthLength_le a.date.year a.date.month
  have hlb := CivilDate.monthLength_le b.date.year b.date.month
  have hbefore : a.date.Before b.date ↔ a.day < b.day := CivilDate.ofDays_before_iff hda hdb
  have heq : a.date = b.date ↔ a.day = b.day :=
    ⟨CivilDate.ofDays_injective, fun h => congrArg CivilDate.ofDays h⟩
  rw [String.lt_iff, text_toList hra, text_toList hrb]
  simp only [dateChars, List.append_assoc, List.cons_append]
  rw [pad_append_lt_iff _ (by decide) (by have := hra.2; omega) (by have := hrb.2; omega),
    pad_append_lt_iff _ (by decide) (by omega) (by omega),
    pad_append_lt_iff _ (by decide) (by omega) (by omega),
    clockChars_lt_iff a b, fields_lt_iff_before hra.1 hrb.1, hbefore, heq]
  simp [lt]

end Instant

end ConnectorPlane
