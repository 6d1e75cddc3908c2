import ConnectorPlane.Proofs.Digits

/-! # The hyphenated uid text

A uid is written as its 32 hex digits in groups of 8, 4, 4, 4 and 12 joined by hyphens
(`Uuid.text`). A uid carries its bound `value < 2 ^ 128`, so for every uid:

* `parse_text`: `Uuid.parse?` reads the text back.
* `text_lt_iff`: the texts compare as the numbers, so ordering uids by their stored text is
  ordering them numerically; `text_inj`: distinct uids have distinct texts.
-/

namespace ConnectorPlane

namespace Uuid

open Digits

theorem ext {u v : Uuid} (h : u.value = v.value) : u = v := by
  cases u
  cases v
  cases h
  rfl

@[simp]
theorem ofNat_value (u : Uuid) : ofNat u.value = u :=
  ext (Nat.mod_eq_of_lt u.isLt)

/-- The hyphenated layout of 32 digits, as `text` writes it. -/
def layout (ds : List Char) : List Char :=
  ds.take 8 ++ '-' :: (ds.drop 8).take 4 ++ '-' :: (ds.drop 12).take 4 ++ '-' ::
    (ds.drop 16).take 4 ++ '-' :: ds.drop 20

theorem text_toList (u : Uuid) : u.text.toList = layout (hexWidth 32 u.value) := by
  simp [text, layout]

theorem utf8ByteSize_ofList (cs : List Char) :
    (String.ofList cs).utf8ByteSize = (cs.map Char.utf8Size).sum := by
  induction cs with
  | nil => rfl
  | cons c cs ih =>
    simp [String.ofList_cons, String.utf8ByteSize_append, String.utf8ByteSize_singleton, ih]

theorem mem_layout {ds : List Char} {c : Char} (h : c ∈ layout ds) : c = '-' ∨ c ∈ ds := by
  simp only [layout, List.mem_append, List.mem_cons] at h
  grind [List.mem_of_mem_take, List.mem_of_mem_drop]

theorem length_layout {ds : List Char} (h : ds.length = 32) : (layout ds).length = 36 := by
  simp [layout, h]

theorem sum_map_eq_length {cs : List Char} {f : Char → Nat} (h : ∀ c ∈ cs, f c = 1) :
    (cs.map f).sum = cs.length := by
  induction cs with
  | nil => rfl
  | cons c cs ih =>
    simp only [List.map_cons, List.sum_cons, List.length_cons, h c List.mem_cons_self,
      ih (fun d hd => h d (List.mem_cons_of_mem c hd))]
    omega

theorem utf8ByteSize_text (u : Uuid) : u.text.utf8ByteSize = 36 := by
  have hsize : ∀ c ∈ layout (hexWidth 32 u.value), c.utf8Size = 1 := by
    intro c hc
    rcases mem_layout hc with rfl | hc
    · rfl
    · obtain ⟨d, hd, rfl⟩ := mem_hexWidth hc
      exact utf8Size_hexChar d hd
  have : u.text = String.ofList (layout (hexWidth 32 u.value)) := rfl
  rw [this, utf8ByteSize_ofList, sum_map_eq_length hsize, length_layout (length_hexWidth 32 _)]

theorem ofHyphenated_layout (ds : List Char) (hl : ds.length = 32) (hd : ∀ c ∈ ds, c ≠ '-') :
    ofHyphenated? (layout ds) = (ofHexDigits? ds).map ofNat := by
  -- on 32 named digits the position checks and the filter compute
  match ds, hl with
  | [c0, c1, c2, c3, c4, c5, c6, c7, c8, c9, c10, c11, c12, c13, c14, c15, c16, c17, c18, c19,
      c20, c21, c22, c23, c24, c25, c26, c27, c28, c29, c30, c31], _ =>
    simp only [List.mem_cons, List.not_mem_nil, or_false, forall_eq_or_imp, forall_eq] at hd
    simp [layout, ofHyphenated?, hyphenPositions, List.range_succ, hd]

theorem ofHexDigits_hexWidth (w n : Nat) : ofHexDigits? (hexWidth w n) = some (n % 16 ^ w) := by
  simpa [ofHexDigits?] using foldl_hexWidth w n 0

/-- **A uid reads back from its text.** -/
theorem parse_text (u : Uuid) : parse? u.text = some u := by
  have hd : ∀ c ∈ hexWidth 32 u.value, c ≠ '-' := by
    intro c hc
    obtain ⟨d, hd, rfl⟩ := mem_hexWidth hc
    exact hexChar_ne_hyphen d hd
  have hw : u.value % 16 ^ 32 = u.value := Nat.mod_eq_of_lt (by simpa using u.isLt)
  rw [parse?, utf8ByteSize_text, text_toList]
  simp only
  rw [ofHyphenated_layout _ (length_hexWidth 32 _) hd, ofHexDigits_hexWidth, hw]
  simp

/-! ## Order -/

/-- Inserting one separator after equal-length prefixes keeps the order, provided the rests
keep it. -/
theorem take_cons_lt_iff {xs ys R S : List Char} {n : Nat} (c : Char)
    (hl : xs.length = ys.length) (hn : n ≤ xs.length) (hR : R < S ↔ xs.drop n < ys.drop n) :
    xs.take n ++ c :: R < ys.take n ++ c :: S ↔ xs < ys := by
  rw [append_lt_append_iff (by simp; omega), List.cons_lt_cons_self, hR]
  conv_rhs => rw [← List.take_append_drop n xs, ← List.take_append_drop n ys]
  rw [append_lt_append_iff (by simp; omega)]

theorem layout_lt_iff {xs ys : List Char} (hx : xs.length = 32) (hy : ys.length = 32) :
    layout xs < layout ys ↔ xs < ys := by
  have l8 : (xs.drop 8).length = (ys.drop 8).length := by simp [hx, hy]
  have l12 : (xs.drop 12).length = (ys.drop 12).length := by simp [hx, hy]
  have l16 : (xs.drop 16).length = (ys.drop 16).length := by simp [hx, hy]
  simp only [layout, List.append_assoc, List.cons_append]
  refine take_cons_lt_iff (n := 8) '-' (hx.trans hy.symm) (by omega) ?_
  refine take_cons_lt_iff (n := 4) '-' l8 (by simp [hx]) ?_
  rw [List.drop_drop, List.drop_drop]
  refine take_cons_lt_iff (n := 4) '-' l12 (by simp [hx]) ?_
  rw [List.drop_drop, List.drop_drop]
  refine take_cons_lt_iff (n := 4) '-' l16 (by simp [hx]) ?_
  rw [List.drop_drop, List.drop_drop]

/-- **Uid texts compare as the uids.** -/
theorem text_lt_iff {u v : Uuid} : u.text < v.text ↔ u.value < v.value := by
  rw [String.lt_iff, text_toList, text_toList, layout_lt_iff (length_hexWidth _ _)
    (length_hexWidth _ _), hexWidth_lt_iff, Nat.mod_eq_of_lt (by simpa using u.isLt),
    Nat.mod_eq_of_lt (by simpa using v.isLt)]

theorem text_inj {u v : Uuid} : u.text = v.text ↔ u = v := by
  constructor
  · intro h
    have := parse_text u
    rwa [h, parse_text v, Option.some.injEq, eq_comm] at this
  · rintro rfl
    rfl

end Uuid

end ConnectorPlane
