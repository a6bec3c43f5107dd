import Proximity.Utf8
import Mathlib.Tactic.SplitIfs

/-! Two bytes as a text of their own. -/
namespace Proximity.Utf8

theorem encode_ofList (text : List Char) :
    encode (String.ofList text) = text.flatMap String.utf8EncodeChar := by
  rw [encode, String.toList_ofList]

theorem toUTF8_eq (text : String) : text.toUTF8.data.toList = encode text := by
  have hstored : text.toByteArray = text.toList.utf8Encode := by
    rw [← String.toByteArray_ofList, String.ofList_toList]
  rw [String.toUTF8_eq_toByteArray, hstored, List.utf8Encode, List.data_toByteArray]
  rfl

theorem toNat_val_ofNat {n : Nat} (h : n < 0xD800) : (Char.ofNat n).val.toNat = n := by
  rw [Char.ofNat, dif_pos (Or.inl h)]
  rfl

theorem encodeChar_ascii {b : UInt8} (h : b < 0x80) :
    String.utf8EncodeChar (Char.ofNat b.toNat) = [b] := by
  have hlt : b.toNat < 128 := UInt8.lt_iff_toNat_lt.mp h
  have hval : (Char.ofNat b.toNat).val.toNat = b.toNat := toNat_val_ofNat (by omega)
  have hle : b.toNat ≤ 127 := by omega
  simp only [String.utf8EncodeChar, hval, hle, if_true, UInt8.ofNat_toNat]

theorem not_ascii {n : Nat} (hlow : 128 ≤ n) (hhigh : n < 256) : ¬UInt8.ofNat n < 0x80 := by
  rw [UInt8.lt_iff_toNat_lt, UInt8.toNat_ofNat_of_lt' hhigh]
  exact Nat.not_lt.mpr hlow

/-- A byte below `80` stands for a character by itself. -/
theorem encodeChar_of_mem {b : UInt8} {c : Char} (hmem : b ∈ String.utf8EncodeChar c)
    (h : b < 0x80) : c = Char.ofNat b.toNat := by
  unfold String.utf8EncodeChar at hmem
  dsimp only at hmem
  split_ifs at hmem with hone htwo hthree
  · obtain rfl := List.mem_singleton.mp hmem
    have hval : (UInt8.ofNat c.val.toNat).toNat = c.val.toNat :=
      UInt8.toNat_ofNat_of_lt' (Nat.lt_of_le_of_lt hone (by decide))
    rw [hval]
    exact (Char.ofNat_toNat c).symm
  -- All bytes of longer characters are at least `80`.
  all_goals
    simp only [List.mem_cons, List.not_mem_nil, or_false] at hmem
    have hhigh : ∀ n, 128 ≤ n → n < 256 → b ≠ UInt8.ofNat n := by
      rintro n hlow hhigh rfl
      exact not_ascii hlow hhigh h
  · rcases hmem with hmem | hmem <;> exact absurd hmem (hhigh _ (by omega) (by omega))
  · rcases hmem with hmem | hmem | hmem <;> exact absurd hmem (hhigh _ (by omega) (by omega))
  · rcases hmem with hmem | hmem | hmem | hmem <;> exact absurd hmem (hhigh _ (by omega) (by omega))

theorem encodeChar_ne_nil (c : Char) : String.utf8EncodeChar c ≠ [] := by
  intro h
  have hpos := c.utf8Size_pos
  rw [← String.length_utf8EncodeChar, h] at hpos
  exact absurd hpos (Nat.lt_irrefl 0)

theorem encodeChar_eq_singleton_iff {c : Char} {b : UInt8} :
    String.utf8EncodeChar c = [b] ↔ b < 0x80 ∧ c = Char.ofNat b.toNat := by
  constructor
  · intro h
    have hsize : c.utf8Size = 1 := by
      rw [← String.length_utf8EncodeChar, h]
      rfl
    have hle : c.val.toNat ≤ 127 := UInt32.le_iff_toNat_le.mp (Char.utf8Size_eq_one_iff.mp hsize)
    have hlt : b < 0x80 := by
      unfold String.utf8EncodeChar at h
      dsimp only at h
      rw [if_pos hle] at h
      rw [← (List.cons.inj h).1, UInt8.lt_iff_toNat_lt,
        UInt8.toNat_ofNat_of_lt' (Nat.lt_of_le_of_lt hle (by decide))]
      exact Nat.lt_succ_of_le hle
    exact ⟨hlt, encodeChar_of_mem (h ▸ List.mem_singleton_self b) hlt⟩
  · rintro ⟨hlt, rfl⟩
    exact encodeChar_ascii hlt

theorem encodeChar_eq_pair_iff {c : Char} {first second : UInt8} :
    String.utf8EncodeChar c = [first, second] ↔
      (0xC2 ≤ first ∧ first ≤ 0xDF ∧ 0x80 ≤ second ∧ second ≤ 0xBF) ∧
        c = Char.ofNat ((first.toNat - 0xC0) * 64 + (second.toNat - 0x80)) := by
  have hrange : (0xC2 ≤ first ∧ first ≤ 0xDF ∧ 0x80 ≤ second ∧ second ≤ 0xBF) ↔
      194 ≤ first.toNat ∧ first.toNat ≤ 223 ∧ 128 ≤ second.toNat ∧ second.toNat ≤ 191 := by
    simp only [UInt8.le_iff_toNat_le]
    rfl
  rw [hrange]
  constructor
  · intro h
    have hsize : c.utf8Size = 2 := by
      rw [← String.length_utf8EncodeChar, h]
      rfl
    obtain ⟨hlow, hhigh⟩ := Char.utf8Size_eq_two_iff.mp hsize
    have hlow : 127 < c.val.toNat := UInt32.lt_iff_toNat_lt.mp hlow
    have hhigh : c.val.toNat ≤ 2047 := UInt32.le_iff_toNat_le.mp hhigh
    unfold String.utf8EncodeChar at h
    dsimp only at h
    rw [if_neg (Nat.not_le.mpr hlow), if_pos hhigh] at h
    obtain ⟨hfirst, h⟩ := List.cons.inj h
    obtain ⟨hsecond, -⟩ := List.cons.inj h
    have hfirst : c.val.toNat / 64 % 32 + 192 = first.toNat := by
      rw [← hfirst]
      exact (UInt8.toNat_ofNat_of_lt' (show _ < 256 by omega)).symm
    have hsecond : c.val.toNat % 64 + 128 = second.toNat := by
      rw [← hsecond]
      exact (UInt8.toNat_ofNat_of_lt' (show _ < 256 by omega)).symm
    have hval : (first.toNat - 0xC0) * 64 + (second.toNat - 0x80) = c.toNat := by
      change _ = c.val.toNat
      omega
    rw [hval, Char.ofNat_toNat]
    exact ⟨⟨by omega, by omega, by omega, by omega⟩, rfl⟩
  · rintro ⟨⟨hlow, hhigh, hlow', hhigh'⟩, hc⟩
    have hval := toNat_val_ofNat
      (show (first.toNat - 0xC0) * 64 + (second.toNat - 0x80) < 0xD800 by omega)
    have hfirst : ((first.toNat - 0xC0) * 64 + (second.toNat - 0x80)) / 64 % 32 + 192 =
        first.toNat := by omega
    have hsecond : ((first.toNat - 0xC0) * 64 + (second.toNat - 0x80)) % 64 + 128 =
        second.toNat := by omega
    unfold String.utf8EncodeChar
    dsimp only
    rw [hc, hval, if_neg (by omega), if_pos (by omega), hfirst, hsecond, UInt8.ofNat_toNat,
      UInt8.ofNat_toNat]

theorem eq_singleton_of_append {l m : Bytes} {a b : UInt8} (hl : l ≠ []) (hm : m ≠ [])
    (h : l ++ m = [a, b]) : l = [a] ∧ m = [b] := by
  obtain ⟨x, xs, rfl⟩ := List.exists_cons_of_ne_nil hl
  obtain ⟨rfl, hrest⟩ := List.cons.inj h
  rcases List.append_eq_singleton_iff.mp hrest with ⟨rfl, rfl⟩ | ⟨-, rfl⟩
  · exact ⟨rfl, rfl⟩
  · exact absurd rfl hm

/-- Two bytes encode one character of two bytes or two of one byte each. -/
theorem chars_of_pair {chars : List Char} {first second : UInt8}
    (h : chars.flatMap String.utf8EncodeChar = [first, second]) :
    (∃ c, chars = [c] ∧ String.utf8EncodeChar c = [first, second]) ∨
      ∃ c d, chars = [c, d] ∧ String.utf8EncodeChar c = [first] ∧
        String.utf8EncodeChar d = [second] := by
  cases chars with
  | nil => cases h
  | cons c chars =>
    rw [List.flatMap_cons] at h
    cases chars with
    | nil =>
      rw [List.flatMap_nil, List.append_nil] at h
      exact .inl ⟨c, rfl, h⟩
    | cons d chars =>
      have hmore : (d :: chars).flatMap String.utf8EncodeChar ≠ [] := by
        rw [List.flatMap_cons]
        exact List.append_ne_nil_of_left_ne_nil (encodeChar_ne_nil d) _
      obtain ⟨hc, hrest⟩ := eq_singleton_of_append (encodeChar_ne_nil c) hmore h
      rw [List.flatMap_cons] at hrest
      rcases List.append_eq_singleton_iff.mp hrest with ⟨hnil, -⟩ | ⟨hd, hnone⟩
      · exact absurd hnil (encodeChar_ne_nil d)
      · obtain rfl : chars = [] := by
          rw [List.eq_nil_iff_forall_not_mem]
          intro e he
          exact encodeChar_ne_nil e (List.flatMap_eq_nil_iff.mp hnone e he)
        exact .inr ⟨c, d, rfl, hc, hd⟩

/-- Two bytes spell a text of their own just when it is encoded by them. -/
theorem decodePair?_eq_some_iff {first second : UInt8} {text : String} :
    decodePair? first second = some text ↔ encode text = [first, second] := by
  constructor
  · intro h
    unfold decodePair? at h
    split_ifs at h with hfirst hsecond htwo
    · rw [← Option.some.inj h, encode_ofList, List.flatMap_cons, List.flatMap_cons,
        encodeChar_ascii hfirst, encodeChar_ascii hsecond]
      rfl
    · rw [← Option.some.inj h, encode, String.toList_singleton, List.flatMap_singleton]
      exact encodeChar_eq_pair_iff.mpr ⟨htwo, rfl⟩
  · intro h
    rw [← String.ofList_toList (s := text)]
    rcases chars_of_pair h with ⟨c, hchars, hc⟩ | ⟨c, d, hchars, hc, hd⟩
    · obtain ⟨htwo, hc⟩ := encodeChar_eq_pair_iff.mp hc
      have hfirst : ¬first < 0x80 := fun hlt =>
        absurd (UInt8.lt_of_le_of_lt htwo.1 hlt) (by decide)
      rw [hchars, decodePair?, if_neg hfirst, if_pos htwo, ← hc]
      rfl
    · obtain ⟨hfirst, hc⟩ := encodeChar_eq_singleton_iff.mp hc
      obtain ⟨hsecond, hd⟩ := encodeChar_eq_singleton_iff.mp hd
      rw [hchars, decodePair?, if_pos hfirst, if_pos hsecond, ← hc, ← hd]

theorem decodePair?_eq_none_iff {first second : UInt8} :
    decodePair? first second = none ↔ ∀ text, encode text ≠ [first, second] := by
  rw [Option.eq_none_iff_forall_ne_some]
  exact forall_congr' fun text => not_congr decodePair?_eq_some_iff

end Proximity.Utf8
