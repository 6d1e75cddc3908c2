import ConnectorPlane.Time.Instant
import ConnectorPlane.Uuid
import Mathlib.Tactic.IntervalCases
import Mathlib.Tactic.Ring

/-! # Fixed-width digit text

Times and uids are stored as text of a fixed layout: zero-padded decimal fields
(`Instant.pad`) and 32 lowercase hex digits (`Uuid.hexWidth`), with separators at fixed places.
Such text compares, character by character, as the numbers it spells.

* `append_lt_append_iff`: after prefixes of one length, the prefixes decide first.
* `lt_iff_value_lt`: decimal digit lists of one length compare as their values; `value_pad`,
  `length_pad` and `digits_pad` give a padded field's value, width and digits.
* `hexWidth_lt_iff`: hex digit lists of one width compare as the numbers modulo the width;
  `foldl_hexWidth` reads them back.
-/

namespace ConnectorPlane

namespace Digits

theorem char_lt_iff {a b : Char} : a < b ↔ a.toNat < b.toNat := UInt32.lt_iff_toNat_lt

/-- Lists compared after prefixes of one length: the prefixes decide, and only when they agree
do the rests. -/
theorem append_lt_append_iff {xs ys us vs : List Char} (h : xs.length = ys.length) :
    xs ++ us < ys ++ vs ↔ xs < ys ∨ xs = ys ∧ us < vs := by
  induction xs generalizing ys with
  | nil =>
    obtain rfl : ys = [] := List.eq_nil_of_length_eq_zero h.symm
    simp
  | cons a xs ih =>
    obtain ⟨b, ys, rfl⟩ := List.exists_cons_of_length_eq_add_one h.symm
    simp only [List.cons_append, List.cons_lt_cons_iff, List.cons.injEq, ih (Nat.succ.inj h)]
    constructor
    · rintro (h1 | ⟨rfl, h2 | ⟨rfl, h3⟩⟩)
      · exact .inl (.inl h1)
      · exact .inl (.inr ⟨rfl, h2⟩)
      · exact .inr ⟨⟨rfl, rfl⟩, h3⟩
    · rintro ((h1 | ⟨rfl, h2⟩) | ⟨⟨rfl, rfl⟩, h3⟩)
      · exact .inl h1
      · exact .inr ⟨rfl, .inl h2⟩
      · exact .inr ⟨rfl, .inr ⟨rfl, h3⟩⟩

/-! ## Decimal fields -/

/-- Every character is a decimal digit. -/
def AllDigits (cs : List Char) : Prop := ∀ c ∈ cs, c.isDigit

/-- The number a list of decimal digits spells. -/
abbrev value (cs : List Char) : Nat := Nat.ofDigitChars 10 cs 0

theorem value_cons (c : Char) (cs : List Char) :
    value (c :: cs) = (c.toNat - 48) * 10 ^ cs.length + value cs := by
  simp only [value, Nat.ofDigitChars_cons]
  rw [Nat.ofDigitChars_eq_ofDigitChars_zero]
  simp [Nat.mul_comm]

theorem digit_bounds {c : Char} (h : c.isDigit) : 48 ≤ c.toNat ∧ c.toNat ≤ 57 := by
  simpa using Char.isDigit_iff_toNat.1 h

theorem AllDigits.tail {c : Char} {cs : List Char} (h : AllDigits (c :: cs)) : AllDigits cs :=
  fun d hd => h d (List.mem_cons_of_mem c hd)

theorem value_lt {cs : List Char} (h : AllDigits cs) : value cs < 10 ^ cs.length := by
  induction cs with
  | nil => simp
  | cons c cs ih =>
    rw [value_cons]
    have hc := digit_bounds (h c List.mem_cons_self)
    have := ih h.tail
    have : (c.toNat - 48) * 10 ^ cs.length ≤ 9 * 10 ^ cs.length :=
      Nat.mul_le_mul_right _ (by omega)
    simp only [List.length_cons, Nat.pow_succ]
    omega

/-- **Digit lists of one length compare as the numbers they spell.** -/
theorem lt_iff_value_lt {xs ys : List Char} (hx : AllDigits xs) (hy : AllDigits ys)
    (h : xs.length = ys.length) : xs < ys ↔ value xs < value ys := by
  induction xs generalizing ys with
  | nil =>
    obtain rfl : ys = [] := List.eq_nil_of_length_eq_zero h.symm
    simp
  | cons a xs ih =>
    obtain ⟨b, ys, rfl⟩ := List.exists_cons_of_length_eq_add_one h.symm
    have hl : xs.length = ys.length := Nat.succ.inj h
    have ha := digit_bounds (hx a List.mem_cons_self)
    have hb := digit_bounds (hy b List.mem_cons_self)
    have vx := value_lt hx.tail
    have vy := value_lt hy.tail
    rw [← hl] at vy
    rw [List.cons_lt_cons_iff, ih hx.tail hy.tail hl, value_cons, value_cons, char_lt_iff, ← hl,
      ← Char.toNat_inj]
    -- the leading digits decide unless they agree
    constructor
    · rintro (h1 | ⟨h1, h2⟩)
      · have : (a.toNat - 48 + 1) * 10 ^ xs.length ≤ (b.toNat - 48) * 10 ^ xs.length :=
          Nat.mul_le_mul_right _ (by omega)
        rw [Nat.add_mul] at this
        omega
      · rw [h1]
        omega
    · intro hlt
      rcases Nat.lt_trichotomy a.toNat b.toNat with h1 | h1 | h1
      · exact .inl h1
      · rw [h1] at hlt
        exact .inr ⟨h1, by omega⟩
      · have : (b.toNat - 48 + 1) * 10 ^ xs.length ≤ (a.toNat - 48) * 10 ^ xs.length :=
          Nat.mul_le_mul_right _ (by omega)
        rw [Nat.add_mul] at this
        omega

theorem pad_toList (w n : Nat) : (Instant.pad w n).toList =
    List.replicate (w - (Nat.toDigits 10 n).length) '0' ++ Nat.toDigits 10 n := by
  simp [Instant.pad, String.length]

theorem digits_pad (w n : Nat) : AllDigits (Instant.pad w n).toList := by
  intro c hc
  rw [pad_toList, List.mem_append, List.mem_replicate] at hc
  rcases hc with ⟨-, rfl⟩ | hc
  · rfl
  · exact Nat.isDigit_of_mem_toDigits (by decide) (by decide) hc

theorem length_pad {w n : Nat} (hw : 0 < w) (h : n < 10 ^ w) :
    (Instant.pad w n).toList.length = w := by
  have := (Nat.length_toDigits_le_iff (b := 10) (n := n) (by decide) hw).2 h
  simp [pad_toList]
  omega

@[simp]
theorem value_pad (w n : Nat) : value (Instant.pad w n).toList = n := by
  rw [pad_toList, value, Nat.ofDigitChars_append, Nat.ofDigitChars_replicate_zero]
  simp

theorem pad_lt_pad_iff {w a b : Nat} (hw : 0 < w) (ha : a < 10 ^ w) (hb : b < 10 ^ w) :
    (Instant.pad w a).toList < (Instant.pad w b).toList ↔ a < b := by
  rw [lt_iff_value_lt (digits_pad w a) (digits_pad w b)
    (by rw [length_pad hw ha, length_pad hw hb]), value_pad, value_pad]

theorem pad_inj {w a b : Nat} : (Instant.pad w a).toList = (Instant.pad w b).toList ↔ a = b := by
  constructor
  · intro h
    rw [← value_pad w a, h, value_pad]
  · rintro rfl
    rfl

/-- A padded field followed by a separator: the fields decide, and only when they agree do the
rests. -/
theorem pad_append_lt_iff {w a b : Nat} {R S : List Char} (c : Char) (hw : 0 < w)
    (ha : a < 10 ^ w) (hb : b < 10 ^ w) :
    (Instant.pad w a).toList ++ c :: R < (Instant.pad w b).toList ++ c :: S ↔
      a < b ∨ a = b ∧ R < S := by
  rw [append_lt_append_iff (by rw [length_pad hw ha, length_pad hw hb]), pad_lt_pad_iff hw ha hb,
    pad_inj, List.cons_lt_cons_self]

/-! ## Hex digits -/

theorem hexValue_hexChar : ∀ d, d < 16 → Uuid.hexValue? (Uuid.hexChar d) = some d := by
  decide

theorem hexChar_ne_hyphen : ∀ d, d < 16 → Uuid.hexChar d ≠ '-' := by
  decide

theorem utf8Size_hexChar : ∀ d, d < 16 → (Uuid.hexChar d).utf8Size = 1 := by
  decide

theorem hexChar_lt_iff : ∀ d, d < 16 → ∀ e, e < 16 → (Uuid.hexChar d < Uuid.hexChar e ↔ d < e) := by
  decide

theorem hexWidth_succ (w n : Nat) :
    Uuid.hexWidth (w + 1) n = Uuid.hexChar (n / 16 ^ w % 16) :: Uuid.hexWidth w n := by
  simp [Uuid.hexWidth, List.range_succ, Nat.pow_eq]

@[simp]
theorem length_hexWidth (w n : Nat) : (Uuid.hexWidth w n).length = w := by
  simp [Uuid.hexWidth]

theorem mem_hexWidth {w n : Nat} {c : Char} (h : c ∈ Uuid.hexWidth w n) :
    ∃ d, d < 16 ∧ c = Uuid.hexChar d := by
  simp only [Uuid.hexWidth, List.mem_map, List.mem_reverse] at h
  obtain ⟨i, -, rfl⟩ := h
  exact ⟨_, Nat.mod_lt _ (by decide), rfl⟩

theorem foldl_hexWidth (w n a : Nat) :
    (Uuid.hexWidth w n).foldl
      (fun acc c => do let a ← acc; let d ← Uuid.hexValue? c; pure (a * 16 + d)) (some a) =
      some (a * 16 ^ w + n % 16 ^ w) := by
  induction w generalizing a with
  | zero => simp [Uuid.hexWidth, Nat.mod_one]
  | succ w ih =>
    rw [hexWidth_succ, List.foldl_cons,
      hexValue_hexChar _ (Nat.mod_lt _ (by decide))]
    have step : (do let a ← some a; let d ← some (n / 16 ^ w % 16); pure (a * 16 + d) :
        Option Nat) = some (a * 16 + n / 16 ^ w % 16) := rfl
    rw [step, ih, Nat.mod_pow_succ]
    congr 1
    ring

/-- **Hex digit lists of one width compare as the numbers modulo the width.** -/
theorem hexWidth_lt_iff (w a b : Nat) :
    Uuid.hexWidth w a < Uuid.hexWidth w b ↔ a % 16 ^ w < b % 16 ^ w := by
  induction w with
  | zero => simp [Uuid.hexWidth, Nat.mod_one]
  | succ w ih =>
    rw [hexWidth_succ, hexWidth_succ, List.cons_lt_cons_iff, ih, Nat.mod_pow_succ,
      Nat.mod_pow_succ]
    have ha := Nat.mod_lt (a / 16 ^ w) (show 16 > 0 by decide)
    have hb := Nat.mod_lt (b / 16 ^ w) (show 16 > 0 by decide)
    have ra := Nat.mod_lt a (Nat.pow_pos (show 0 < 16 by decide) (n := w))
    have rb := Nat.mod_lt b (Nat.pow_pos (show 0 < 16 by decide) (n := w))
    have hinj : Uuid.hexChar (a / 16 ^ w % 16) = Uuid.hexChar (b / 16 ^ w % 16) ↔
        a / 16 ^ w % 16 = b / 16 ^ w % 16 := by
      constructor
      · intro h
        have := congrArg Uuid.hexValue? h
        rwa [hexValue_hexChar _ ha, hexValue_hexChar _ hb, Option.some.injEq] at this
      · intro h
        rw [h]
    rw [hexChar_lt_iff _ ha _ hb, hinj]
    generalize a / 16 ^ w % 16 = da at *
    generalize b / 16 ^ w % 16 = db at *
    generalize a % 16 ^ w = ra' at *
    generalize b % 16 ^ w = rb' at *
    constructor
    · rintro (h1 | ⟨rfl, h2⟩)
      · have : 16 ^ w * (da + 1) ≤ 16 ^ w * db := Nat.mul_le_mul_left _ h1
        rw [Nat.mul_add] at this
        omega
      · omega
    · intro hlt
      rcases Nat.lt_trichotomy da db with h1 | h1 | h1
      · exact .inl h1
      · subst h1
        exact .inr ⟨rfl, by omega⟩
      · have : 16 ^ w * (db + 1) ≤ 16 ^ w * da := Nat.mul_le_mul_left _ h1
        rw [Nat.mul_add] at this
        omega

end Digits

end ConnectorPlane
