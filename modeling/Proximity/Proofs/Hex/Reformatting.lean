import Proximity.Proofs.Hex.Language
import Mathlib.Logic.Relation

/-! Texts that differ in their blanks and in the case of their letters only are read alike. -/
namespace Proximity.Hex

/-- Tab, line feed, form feed, carriage return and space. -/
def blanks : List Char :=
  ['\t', '\n', Char.ofNat 0x0C, '\r', ' ']

inductive Edit : List Char → List Char → Prop where
  | insertBlank (front back : List Char) {c : Char} (h : c ∈ blanks) :
    Edit (front ++ back) (front ++ c :: back)
  | removeBlank (front back : List Char) {c : Char} (h : c ∈ blanks) :
    Edit (front ++ c :: back) (front ++ back)
  | changeCase (front back : List Char) {c d : Char} (h : d.toLower = c.toLower) :
    Edit (front ++ c :: back) (front ++ d :: back)

def Reformatted (text other : String) : Prop :=
  Relation.ReflTransGen Edit text.toList other.toList

/-- The bytes of some characters, without blanks and with small letters for capital ones. -/
def folded (chars : List Char) : Bytes :=
  ((chars.flatMap String.utf8EncodeChar).filter (!isBlank ·)).map lower

theorem map_lower_digits (text : String) : (digits text).map lower = folded text.toList := rfl

theorem folded_append (front back : List Char) :
    folded (front ++ back) = folded front ++ folded back := by
  simp [folded]

theorem folded_cons (c : Char) (chars : List Char) :
    folded (c :: chars) = folded [c] ++ folded chars :=
  folded_append [c] chars

theorem folded_blank {c : Char} (h : c ∈ blanks) : folded [c] = [] := by
  have hall : blanks.all (fun c => folded [c] == []) = true := by decide
  exact eq_of_beq (List.all_eq_true.mp hall c h)

/-- Only capital ASCII letters have another case to go to. -/
theorem folded_toLower (c : Char) : folded [c.toLower] = folded [c] := by
  have hcapital : ∀ n < 26, folded [(Char.ofNat (65 + n)).toLower] = folded [Char.ofNat (65 + n)] := by
    decide
  by_cases h : c.val ≥ 'A'.val ∧ c.val ≤ 'Z'.val
  · have hlow : 65 ≤ c.toNat := UInt32.le_iff_toNat_le.mp h.1
    have hhigh : c.toNat ≤ 90 := UInt32.le_iff_toNat_le.mp h.2
    have hc : Char.ofNat (65 + (c.toNat - 65)) = c := by
      rw [Nat.add_sub_cancel' hlow, Char.ofNat_toNat]
    rw [← hc]
    exact hcapital (c.toNat - 65) (by omega)
  · have hsame : c.toLower = c := dif_neg h
    rw [hsame]

theorem Edit.folded_eq {chars others : List Char} (h : Edit chars others) :
    folded others = folded chars := by
  cases h with
  | insertBlank front back h =>
    rw [folded_append, folded_cons, folded_blank h, folded_append, List.nil_append]
  | removeBlank front back h =>
    rw [folded_append, folded_append, folded_cons, folded_blank h, List.nil_append]
  | @changeCase front back c d h =>
    have hsame : folded [d] = folded [c] := by rw [← folded_toLower d, h, folded_toLower]
    rw [folded_append, folded_append, folded_cons d back, folded_cons c back, hsame]

theorem folded_of_edits {chars others : List Char} (h : Relation.ReflTransGen Edit chars others) :
    folded others = folded chars := by
  induction h with
  | refl => rfl
  | tail _ hedit ih => rw [hedit.folded_eq, ih]

theorem digitValue?_lower (b : UInt8) : digitValue? (lower b) = digitValue? b := by
  have hall : ∀ n < 256, digitValue? (lower (.ofNat n)) = digitValue? (.ofNat n) := by
    decide +kernel
  rw [← UInt8.ofNat_toNat (x := b)]
  exact hall b.toNat b.toNat_lt

/-- What is a digit in small letters was a digit before, in one case or the other. -/
theorem exists_code_of_lower {b : UInt8} {n : Nat} (hn : n < 16) (h : lower b = code .lower n) :
    ∃ letters, b = code letters n := by
  have hvalue : digitValue? b = some (.ofNat n) := by
    rw [← digitValue?_lower, h, (reads_digit .lower hn).value]
  have hnat : (UInt8.ofNat n).toNat = n := UInt8.toNat_ofNat_of_lt' (Nat.lt_trans hn (by decide))
  obtain ⟨-, letters, hcode⟩ := digitValue?_eq_some_iff.mp hvalue
  exact ⟨letters, hnat ▸ hcode⟩

theorem readPairs_of_lower {d bytes : Bytes} (h : d.map lower = bytes.flatMap (codes .lower)) :
    readPairs d = .ok bytes := by
  induction bytes generalizing d with
  | nil =>
    obtain rfl : d = [] := List.map_eq_nil_iff.mp h
    rfl
  | cons b bytes ih =>
    change d.map lower = code .lower _ :: code .lower _ :: bytes.flatMap (codes .lower) at h
    obtain ⟨first, d, rfl, hfirst, h⟩ := List.map_eq_cons_iff.mp h
    obtain ⟨second, rest, rfl, hsecond, hrest⟩ := List.map_eq_cons_iff.mp h
    obtain ⟨high, rfl⟩ := exists_code_of_lower (div_lt b) hfirst
    obtain ⟨low, rfl⟩ := exists_code_of_lower (mod_lt b) hsecond
    have hspells : Spells (code high (b.toNat / 16), code low (b.toNat % 16)) b :=
      .inl ⟨high, low, rfl, rfl⟩
    have hpair : readPair (code high (b.toNat / 16)) (code low (b.toNat % 16)) = .ok b :=
      readPair_eq_ok_iff.mpr hspells
    rw [readPairs_cons, hpair, ih hrest]
    rfl

theorem parse_of_folded {text : String} {bytes : Bytes}
    (h : folded text.toList = bytes.flatMap (codes .lower)) : parse text = .ok bytes := by
  rw [← map_lower_digits] at h
  have hlength : (digits text).length = 2 * bytes.length := by
    rw [← List.length_map lower, h, length_codes]
  rw [parse_of_even (by omega), readPairs_of_lower h]

theorem map_lower_codes (letters : Letters) (bytes : Bytes) :
    (bytes.flatMap (codes letters)).map lower = bytes.flatMap (codes .lower) := by
  have hcodes : ∀ b, (codes letters b).map lower = codes .lower b := by
    intro b
    rw [codes, List.map_cons, List.map_singleton, lower_code _ (div_lt b), lower_code _ (mod_lt b)]
    rfl
  rw [List.map_flatMap]
  simp only [hcodes]

theorem digits_compact (bytes : Bytes) : digits (compact bytes) = bytes.flatMap (codes .lower) := by
  rw [digits, compact, Utf8.encode_ofList, List.flatMap_assoc, List.filter_flatMap]
  simp only [digits_pair]

theorem folded_written {bytes : Bytes} {text : String}
    (h : text = compact bytes ∨ text = spaced bytes) :
    folded text.toList = bytes.flatMap (codes .lower) := by
  rw [← map_lower_digits]
  rcases h with rfl | rfl
  · rw [digits_compact, map_lower_codes]
  · rw [digits_spaced, map_lower_codes]

/-- What is written is read back after any change to its blanks and to the case of its letters. -/
theorem parse_reformatted {bytes : Bytes} {text other : String}
    (written : text = compact bytes ∨ text = spaced bytes) (h : Reformatted text other) :
    parse other = .ok bytes := by
  have hfolded : folded other.toList = bytes.flatMap (codes .lower) := by
    rw [folded_of_edits h, folded_written written]
  exact parse_of_folded hfolded

theorem parse_reformatted_broken :
    Reformatted (spaced [0xDE, 0xAD]) "D\neAD" ∧ parse "D\neAD" = .ok [0xDE, 0xAD] := by
  have hspace : Edit "DE AD".toList "DEAD".toList := .removeBlank ['D', 'E'] ['A', 'D'] (by decide)
  have hline : Edit "DEAD".toList "D\nEAD".toList :=
    .insertBlank ['D'] ['E', 'A', 'D'] (by decide)
  have hcase : Edit "D\nEAD".toList "D\neAD".toList :=
    .changeCase ['D', '\n'] ['A', 'D'] (by decide)
  have hsteps : Reformatted (spaced [0xDE, 0xAD]) "D\neAD" :=
    .tail (.tail (.tail .refl hspace) hline) hcase
  exact ⟨hsteps, parse_reformatted (.inr rfl) hsteps⟩

end Proximity.Hex
