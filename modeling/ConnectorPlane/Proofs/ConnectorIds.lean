import Mathlib.Data.List.Basic
import ConnectorPlane.Connector.Id
import ConnectorPlane.Text.Utf8

/-! # The ids a connector may have

`ConnectorId.isValid` reads an id as UTF-8 bytes. An id of bytes that are all lowercase ASCII
letters, digits and hyphens is ASCII, one byte a character, so the byte checks say the same
as the documented pattern `^[a-z]([a-z0-9-]...[a-z0-9])?$` over the characters:

* `Utf8.toUTF8_toList`, `Utf8.encode_ascii`, `Utf8.ascii_of_idBytes`: an id's bytes, and when
  they are a character each;
* `ConnectorId.Matches`: the pattern, stated over characters;
* `ConnectorId.isValid_iff`, `ConnectorId.check_eq_ok_iff`: the check accepts exactly the ids
  the pattern matches;
* `ConnectorId.InPattern`: the pattern's language over bytes, read off its parts;
  `ConnectorId.check_accepts_exactly_its_pattern`: the check passes exactly the ids whose bytes
  it holds, and refuses every other one as an invalid argument.
-/

namespace ConnectorPlane

namespace Utf8

theorem toList_loop_eq (bs : ByteArray) (i : Nat) (r : List UInt8) :
    ByteArray.toList.loop bs i r = r.reverse ++ bs.data.toList.drop i := by
  fun_induction ByteArray.toList.loop bs i r with
  | case1 i r hlt ih =>
    have hi : i < bs.data.toList.length := by simpa using hlt
    rw [ih, List.drop_eq_getElem_cons (l := bs.data.toList) hi]
    simp [ByteArray.get!, hlt]
  | case2 i r hlt =>
    rw [List.drop_eq_nil_of_le (by simpa using Nat.le_of_not_lt hlt)]
    simp

theorem toUTF8_toList (s : String) : s.toUTF8.toList = encode s := by
  rw [ByteArray.toList, toList_loop_eq, List.reverse_nil, List.nil_append, List.drop_zero,
    String.toUTF8_eq_toByteArray, ← String.utf8Encode_toList, List.utf8Encode,
    List.toList_data_toByteArray, encode]

theorem utf8Size_eq_one_iff {c : Char} : c.utf8Size = 1 ↔ c.toNat < 128 := by
  rw [Char.utf8Size_eq_one_iff, UInt32.le_iff_toNat_le]
  exact Nat.lt_succ_iff.symm

theorem toUInt8_toNat {c : Char} (hc : c.toNat < 128) : c.toUInt8.toNat = c.toNat := by
  rw [Char.toUInt8, UInt32.toNat_toUInt8, Char.toNat_val]
  exact Nat.mod_eq_of_lt (by omega)

theorem flatMap_utf8EncodeChar_ascii : ∀ {cs : List Char}, (∀ c ∈ cs, c.toNat < 128) →
    cs.flatMap String.utf8EncodeChar = cs.map (·.toUInt8)
  | [], _ => rfl
  | c :: cs, h => by
    rw [List.flatMap_cons,
      String.utf8EncodeChar_eq_singleton (utf8Size_eq_one_iff.2 (h c List.mem_cons_self)),
      flatMap_utf8EncodeChar_ascii fun d hd => h d (List.mem_cons_of_mem c hd)]
    rfl

theorem encode_ascii {s : String} (h : ∀ c ∈ s.toList, c.toNat < 128) :
    encode s = s.toList.map (·.toUInt8) :=
  flatMap_utf8EncodeChar_ascii h

end Utf8

namespace ConnectorId

theorem isIdByte_lt {b : UInt8} (h : isIdByte b = true) : b.toNat < 128 := by
  simp only [isIdByte, Bool.or_eq_true, Bool.and_eq_true, decide_eq_true_eq] at h
  omega

theorem isIdByte_or_0x80 (x : UInt8) : isIdByte (x ||| 0x80) = false := by
  have h : 128 ≤ (x ||| 0x80).toNat := by
    rw [UInt8.toNat_or]
    exact Nat.right_le_or
  cases hb : isIdByte (x ||| 0x80)
  · rfl
  · exact absurd (isIdByte_lt hb) (by omega)

/-- A character encoded in id bytes only is ASCII: the last byte of a longer encoding has its
high bit set. -/
theorem utf8Size_eq_one {c : Char} (h : ∀ b ∈ String.utf8EncodeChar c, isIdByte b = true) :
    c.utf8Size = 1 := by
  have hlast : c.val.toUInt8 &&& 0x3f ||| 0x80 ∉ String.utf8EncodeChar c := fun hb => by
    have hid := h _ hb
    rw [isIdByte_or_0x80] at hid
    cases hid
  obtain hc | hc | hc | hc := c.utf8Size_eq
  · exact hc
  · exact absurd (by simp [String.utf8EncodeChar_eq_cons_cons hc]) hlast
  · exact absurd (by simp [String.utf8EncodeChar_eq_cons_cons_cons hc]) hlast
  · exact absurd (by simp [String.utf8EncodeChar_eq_cons_cons_cons_cons hc]) hlast

theorem ascii_of_idBytes {s : String} (h : ∀ b ∈ Utf8.encode s, isIdByte b = true) :
    ∀ c ∈ s.toList, c.toNat < 128 := fun c hc =>
  Utf8.utf8Size_eq_one_iff.1 (utf8Size_eq_one fun b hb =>
    h b (List.mem_flatMap.2 ⟨c, hc, hb⟩))

/-- A character an id may hold after its first: a lowercase ASCII letter, a digit or a hyphen. -/
def IsInner (c : Char) : Prop := ('a' ≤ c ∧ c ≤ 'z') ∨ ('0' ≤ c ∧ c ≤ '9') ∨ c = '-'

/-- The ids the pattern `^[a-z]([a-z0-9-]...[a-z0-9])?$` matches, with at most 61 characters
in place of the dots: a lowercase letter, then at most 62 letters, digits and hyphens, the
last of them no hyphen. -/
def Matches (id : String) : Prop :=
  ∃ first rest, id.toList = first :: rest ∧ 'a' ≤ first ∧ first ≤ 'z' ∧ rest.length ≤ 62 ∧
    (∀ c ∈ rest, IsInner c) ∧ rest.getLast? ≠ some '-'

theorem char_le_iff {a c : Char} : a ≤ c ↔ a.toNat ≤ c.toNat := by
  rw [Char.le_def, UInt32.le_iff_toNat_le]
  rfl

theorem isIdByte_iff {c : Char} (hc : c.toNat < 128) : isIdByte c.toUInt8 = true ↔ IsInner c := by
  have h45 : c = '-' ↔ c.toNat = 45 := by
    rw [← Char.toNat_inj]
    rfl
  simp [isIdByte, IsInner, Utf8.toUInt8_toNat hc, char_le_iff, h45, or_assoc]

theorem isLower_iff {c : Char} (hc : c.toNat < 128) :
    (97 ≤ c.toUInt8.toNat ∧ c.toUInt8.toNat ≤ 122) ↔ 'a' ≤ c ∧ c ≤ 'z' := by
  rw [Utf8.toUInt8_toNat hc, char_le_iff, char_le_iff]
  rfl

theorem getLast?_bytes_eq_hyphen_iff {cs : List Char} (first : Char) (hfirst : first ≠ '-')
    (hascii : ∀ c ∈ first :: cs, c.toNat < 128) :
    ((first :: cs).map (·.toUInt8)).getLast? = some 45 ↔ cs.getLast? = some '-' := by
  have hbyte : ∀ c ∈ first :: cs, c.toUInt8 = 45 ↔ c = '-' := fun c hc => by
    rw [← UInt8.toNat_inj, Utf8.toUInt8_toNat (hascii c hc), ← Char.toNat_inj]
    rfl
  rw [List.getLast?_map, List.getLast?_cons]
  cases hl : cs.getLast? with
  | none => simpa using (hbyte first List.mem_cons_self).not.2 hfirst
  | some l =>
    have hmem : l ∈ first :: cs := List.mem_cons_of_mem _ (List.mem_of_getLast? hl)
    simpa using hbyte l hmem

/-- **The id check is the documented pattern.** An id passes `isValid` exactly when the
pattern matches it. -/
theorem isValid_iff (id : String) : isValid id = true ↔ Matches id := by
  unfold isValid
  rw [Utf8.toUTF8_toList]
  dsimp only
  constructor
  · intro h
    split at h
    · rename_i b hb
      simp only [Bool.and_eq_true, decide_eq_true_eq, List.all_eq_true, bne_iff_ne, ne_eq] at h
      obtain ⟨⟨⟨⟨hlo, hhi⟩, hlen⟩, hall⟩, hlast⟩ := h
      have hascii := ascii_of_idBytes hall
      rw [Utf8.encode_ascii hascii] at hb hlen hlast hall
      cases hcs : id.toList with
      | nil => simp [hcs] at hb
      | cons first rest =>
        rw [hcs] at hb hlen hlast hall hascii
        simp only [List.map_cons, List.head?_cons, Option.some.injEq] at hb
        subst hb
        have hfirst := (isLower_iff (hascii first List.mem_cons_self)).1 ⟨hlo, hhi⟩
        have hnot : first ≠ '-' := fun he => by
          rw [he] at hfirst
          exact absurd hfirst.1 (by decide)
        have hrest : rest.length ≤ 62 := by
          rw [List.length_map, List.length_cons] at hlen
          omega
        refine ⟨first, rest, hcs, hfirst.1, hfirst.2, hrest, fun c hc => ?_,
          fun hl => hlast ((getLast?_bytes_eq_hyphen_iff first hnot hascii).2 hl)⟩
        have hc' := List.mem_cons_of_mem first hc
        exact (isIdByte_iff (hascii c hc')).1 (hall _ (List.mem_map_of_mem hc'))
    · cases h
  · rintro ⟨first, rest, hcs, hlo, hhi, hlen, hinner, hlast⟩
    -- every character of a matched id is ASCII, so its bytes are the characters' codes
    have hnot : first ≠ '-' := fun he => by
      rw [he] at hlo
      exact absurd hlo (by decide)
    have hascii : ∀ c ∈ first :: rest, c.toNat < 128 := by
      intro c hc
      rcases List.mem_cons.1 hc with rfl | hc
      · have : c ≤ 'z' := hhi
        rw [char_le_iff] at this
        exact Nat.lt_of_le_of_lt this (by decide)
      · rcases hinner c hc with ⟨-, h⟩ | ⟨-, h⟩ | rfl <;>
          first | (rw [char_le_iff] at h; exact Nat.lt_of_le_of_lt h (by decide)) | decide
    rw [Utf8.encode_ascii (hcs ▸ hascii), hcs]
    simp only [List.map_cons, List.head?_cons, List.length_map, List.length_cons,
      Bool.and_eq_true, decide_eq_true_eq, List.all_eq_true, bne_iff_ne, ne_eq]
    refine ⟨⟨⟨(isLower_iff (hascii first List.mem_cons_self)).2 ⟨hlo, hhi⟩, by omega⟩, ?_⟩,
      fun h => hlast ((getLast?_bytes_eq_hyphen_iff first hnot hascii).1 h)⟩
    intro b hb
    obtain ⟨c, hc, rfl⟩ := List.mem_map.1 (show b ∈ (first :: rest).map (·.toUInt8) from hb)
    rcases List.mem_cons.1 hc with rfl | hc'
    · exact (isIdByte_iff (hascii c hc)).2 (.inl ⟨hlo, hhi⟩)
    · exact (isIdByte_iff (hascii c hc)).2 (hinner c hc')

theorem check_eq_ok_iff {id : String} : check id = .ok () ↔ Matches id := by
  rw [← isValid_iff]
  unfold check
  cases isValid id <;> simp

/-! ## The pattern over bytes -/

/-- A byte of `[a-z]`. -/
def IsLowerByte (b : UInt8) : Prop := 97 ≤ b.toNat ∧ b.toNat ≤ 122

/-- A byte of `[a-z0-9]`. -/
def IsAlnumByte (b : UInt8) : Prop := IsLowerByte b ∨ (48 ≤ b.toNat ∧ b.toNat ≤ 57)

/-- A byte of `[a-z0-9-]`. -/
def IsInnerByte (b : UInt8) : Prop := IsAlnumByte b ∨ b.toNat = 45

/-- The byte strings the pattern `^[a-z]([a-z0-9-]{0,61}[a-z0-9])?$` matches, part by part: a
byte of `[a-z]`, then nothing, or at most 61 bytes of `[a-z0-9-]` and one of `[a-z0-9]`. -/
def InPattern (bs : List UInt8) : Prop :=
  ∃ first, IsLowerByte first ∧ (bs = [first] ∨
    ∃ mid last, bs = first :: (mid ++ [last]) ∧ mid.length ≤ 61 ∧ (∀ b ∈ mid, IsInnerByte b) ∧
      IsAlnumByte last)

theorem isIdByte_iff_isInnerByte {b : UInt8} : isIdByte b = true ↔ IsInnerByte b := by
  simp only [isIdByte, IsInnerByte, IsAlnumByte, IsLowerByte, Bool.or_eq_true, Bool.and_eq_true,
    decide_eq_true_eq, or_assoc]

theorem isAlnumByte_iff {b : UInt8} : IsAlnumByte b ↔ IsInnerByte b ∧ b ≠ 45 := by
  have h45 : b = 45 ↔ b.toNat = 45 := by
    rw [← UInt8.toNat_inj]
    rfl
  simp only [IsInnerByte, IsAlnumByte, IsLowerByte, ne_eq, h45]
  omega

theorem inPattern_cons_iff {first : UInt8} {rest : List UInt8} :
    InPattern (first :: rest) ↔ IsLowerByte first ∧ (rest = [] ∨
      ∃ mid last, rest = mid ++ [last] ∧ mid.length ≤ 61 ∧ (∀ b ∈ mid, IsInnerByte b) ∧
        IsAlnumByte last) := by
  simp only [InPattern, List.cons.injEq]
  constructor
  · rintro ⟨f, hf, ⟨rfl, rfl⟩ | ⟨mid, last, ⟨rfl, rfl⟩, hrest⟩⟩
    · exact ⟨hf, .inl rfl⟩
    · exact ⟨hf, .inr ⟨mid, last, rfl, hrest⟩⟩
  · rintro ⟨hf, rfl | ⟨mid, last, rfl, hrest⟩⟩
    · exact ⟨first, hf, .inl ⟨rfl, rfl⟩⟩
    · exact ⟨first, hf, .inr ⟨mid, last, ⟨rfl, rfl⟩, hrest⟩⟩

/-- The four byte checks of `isValid` are the pattern's parts: the first byte, the length, the
bytes in between, and the last byte. -/
theorem isValid_iff_inPattern (id : String) : isValid id = true ↔ InPattern id.toUTF8.toList := by
  unfold isValid
  generalize id.toUTF8.toList = bs
  cases bs with
  | nil => simp [InPattern]
  | cons first rest =>
    rw [inPattern_cons_iff]
    simp only [List.head?_cons, List.length_cons, List.all_cons, Bool.and_eq_true,
      decide_eq_true_eq, List.all_eq_true, bne_iff_ne, ne_eq]
    rcases List.eq_nil_or_concat' rest with rfl | ⟨mid, last, rfl⟩
    · -- one byte: a lowercase letter, which is an id byte and no hyphen
      simp only [List.length_nil, List.not_mem_nil, List.getLast?_singleton, Option.some.injEq,
        true_or, and_true, IsEmpty.forall_iff, implies_true]
      constructor
      · rintro ⟨⟨⟨hf, -⟩, -⟩, -⟩
        exact hf
      · intro hf
        refine ⟨⟨⟨hf, by omega⟩, isIdByte_iff_isInnerByte.2 (.inl (.inl hf))⟩,
          fun h => ?_⟩
        have h45 : first.toNat = 45 := by rw [h]; rfl
        have hlo := hf.1
        omega
    · -- a longer id ends in its tail's last byte
      have hlast : (first :: (mid ++ [last])).getLast? = some last := by
        rw [← List.cons_append, List.getLast?_concat]
      have hsplit : ∀ m l, mid ++ [last] = m ++ [l] ↔ m = mid ∧ l = last := fun m l =>
        ⟨fun h => by
          obtain ⟨h1, h2⟩ := List.append_inj' h rfl
          simp only [List.cons.injEq, and_true] at h2
          exact ⟨h1.symm, h2.symm⟩,
         fun ⟨h1, h2⟩ => h1 ▸ h2 ▸ rfl⟩
      simp only [hlast, hsplit, List.length_append, List.length_singleton, List.mem_append,
        List.mem_singleton, Option.some.injEq, List.append_eq_nil_iff, List.cons_ne_nil, and_false,
        false_or, isIdByte_iff_isInnerByte, isAlnumByte_iff]
      constructor
      · rintro ⟨⟨⟨hf, hlen⟩, -, hall⟩, hne⟩
        exact ⟨hf, mid, last, ⟨rfl, rfl⟩, by omega, fun b hb => hall b (.inl hb),
          hall last (.inr rfl), hne⟩
      · rintro ⟨hf, _, _, ⟨rfl, rfl⟩, hlen, hmid, hinner, hne⟩
        refine ⟨⟨⟨hf, by omega⟩, .inl (.inl hf), ?_⟩, hne⟩
        rintro x (hx | rfl)
        · exact hmid x hx
        · exact hinner

/-- **The id check accepts exactly its pattern.** An id passes exactly when its UTF-8 bytes are
in the language of `^[a-z]([a-z0-9-]{0,61}[a-z0-9])?$`; any other id, a non-ASCII one included,
is refused as an invalid argument that names the id and the pattern. -/
theorem check_accepts_exactly_its_pattern (id : String) :
    (InPattern id.toUTF8.toList ∧ check id = .ok ()) ∨
    (¬ InPattern id.toUTF8.toList ∧ check id = .error (.invalidArgument
      ("connector id '" ++ id ++ "' must match ^[a-z]([a-z0-9-]\x7b0,61\x7d[a-z0-9])?$"))) := by
  unfold check
  by_cases h : InPattern id.toUTF8.toList
  · exact .inl ⟨h, by rw [if_pos ((isValid_iff_inPattern id).2 h)]⟩
  · exact .inr ⟨h, by rw [if_neg (mt (isValid_iff_inPattern id).1 h)]⟩

example : check "my-http-sink" = .ok () := by decide +kernel
example : check "dé" ≠ .ok () := by decide +kernel

end ConnectorId

end ConnectorPlane
