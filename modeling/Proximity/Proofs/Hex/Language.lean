import Proximity.Error
import Proximity.Proofs.Hex.RoundTrip
import Mathlib.Data.List.Forall2

/-! The language that is read. The first pair of bytes that spells none decides the error. -/
namespace Proximity.Hex

/-- Two bytes spell a byte by its two digits, in either case, or by a plus sign and one digit. -/
def Spells (p : UInt8 × UInt8) (b : UInt8) : Prop :=
  (∃ high low, p.1 = code high (b.toNat / 16) ∧ p.2 = code low (b.toNat % 16)) ∨
    (p.1 = 0x2B ∧ b.toNat < 16 ∧ ∃ letters, p.2 = code letters b.toNat)

/-- The error of two bytes that spell no byte: one for bytes that are no text on their own, and
one that quotes the text that they are. -/
inductive Refused (p : UInt8 × UInt8) : Error → Prop where
  | nonText (h : ∀ text, Utf8.encode text ≠ [p.1, p.2]) :
      Refused p (.invalidHex "non-ascii input")
  | badDigit (text : String) (h : Utf8.encode text = [p.1, p.2]) :
      Refused p (.invalidHex s!"'{text}': invalid digit found in string")

/-- Bytes two by two. A last one by itself is left out. -/
def pairs : Bytes → List (UInt8 × UInt8)
  | [] => []
  | [_] => []
  | first :: second :: rest => (first, second) :: pairs rest

/-- A capital ASCII letter as the small one. -/
def lower (b : UInt8) : UInt8 :=
  if 0x41 ≤ b ∧ b ≤ 0x5A then b + 0x20 else b

theorem digitValue?_eq_some_iff {c v : UInt8} :
    digitValue? c = some v ↔ v.toNat < 16 ∧ ∃ letters, c = code letters v.toNat := by
  constructor
  · have hall : ∀ n < 256, ∀ v ∈ digitValue? (.ofNat n), v.toNat < 16 ∧
        (UInt8.ofNat n = code .lower v.toNat ∨ UInt8.ofNat n = code .upper v.toNat) := by
      decide +kernel
    intro h
    rw [← UInt8.ofNat_toNat (x := c)] at h
    obtain ⟨hlt, hcode⟩ := hall c.toNat c.toNat_lt v h
    rw [UInt8.ofNat_toNat] at hcode
    exact ⟨hlt, hcode.elim (fun hlower => ⟨.lower, hlower⟩) fun hupper => ⟨.upper, hupper⟩⟩
  · rintro ⟨hlt, letters, rfl⟩
    rw [(reads_digit letters hlt).value, UInt8.ofNat_toNat]

theorem pairValue?_eq_some_iff {first second b : UInt8} :
    pairValue? first second = some b ↔ Spells (first, second) b := by
  constructor
  · intro h
    obtain ⟨low, hlow, h⟩ := Option.bind_eq_some_iff.mp h
    obtain ⟨hltlow, hlow⟩ := digitValue?_eq_some_iff.mp hlow
    split_ifs at h with hsign
    · obtain rfl := Option.some.inj h
      exact .inr ⟨hsign, hltlow, hlow⟩
    · obtain ⟨high, hhigh, h⟩ := Option.bind_eq_some_iff.mp h
      obtain ⟨hlthigh, lettersHigh, hhigh⟩ := digitValue?_eq_some_iff.mp hhigh
      obtain ⟨lettersLow, hlow⟩ := hlow
      obtain rfl := Option.some.inj h
      have hvalue : (high * 16 + low).toNat = high.toNat * 16 + low.toNat := by
        rw [UInt8.toNat_add, UInt8.toNat_mul]
        change (high.toNat * 16 % 256 + low.toNat) % 256 = _
        omega
      have hdiv : (high * 16 + low).toNat / 16 = high.toNat := by omega
      have hmod : (high * 16 + low).toNat % 16 = low.toNat := by omega
      exact .inl ⟨lettersHigh, lettersLow, by rw [hdiv]; exact hhigh, by rw [hmod]; exact hlow⟩
  · rintro (⟨lettersHigh, lettersLow, hhigh, hlow⟩ | ⟨hsign, hlt, letters, hlow⟩)
    · have hreads := reads_digit lettersHigh (div_lt b)
      dsimp only at hhigh hlow
      rw [pairValue?, hhigh, hlow, (reads_digit lettersLow (mod_lt b)).value, hreads.value]
      simp [hreads.sign, halves]
    · dsimp only at hsign hlow
      rw [pairValue?, hsign, hlow, (reads_digit letters hlt).value]
      simp

theorem Spells.ascii {p : UInt8 × UInt8} {b : UInt8} (h : Spells p b) :
    p.1 < 0x80 ∧ p.2 < 0x80 := by
  rcases h with ⟨lettersHigh, lettersLow, hhigh, hlow⟩ | ⟨hsign, hlt, letters, hlow⟩
  · rw [hhigh, hlow]
    exact ⟨(reads_digit lettersHigh (div_lt b)).ascii, (reads_digit lettersLow (mod_lt b)).ascii⟩
  · rw [hsign, hlow]
    exact ⟨by decide, (reads_digit letters hlt).ascii⟩

theorem readPair_eq_ok_iff {p : UInt8 × UInt8} {b : UInt8} :
    readPair p.1 p.2 = .ok b ↔ Spells p b := by
  constructor
  · intro h
    unfold readPair at h
    split at h
    · cases h
    · split at h
      · next hvalue =>
        obtain rfl := Except.ok.inj h
        exact pairValue?_eq_some_iff.mp hvalue
      · cases h
  · intro h
    obtain ⟨hfirst, hsecond⟩ := h.ascii
    rw [readPair, Utf8.decodePair?, if_pos hfirst, if_pos hsecond, pairValue?_eq_some_iff.mpr h]

theorem Spells.readPair_ne_error {p : UInt8 × UInt8} {b : UInt8} (h : Spells p b) (e : Fault) :
    readPair p.1 p.2 ≠ .error e := by
  rw [readPair_eq_ok_iff.mpr h]
  exact fun hsame => nomatch hsame

/-- A pair is refused for one reason only. -/
theorem readPair_eq_error_iff {p : UInt8 × UInt8} {e : Error} :
    (∃ fault, readPair p.1 p.2 = .error fault ∧ e = .ofHexFault fault) ↔
      (¬∃ b, Spells p b) ∧ Refused p e := by
  constructor
  · rintro ⟨fault, h, rfl⟩
    refine ⟨not_exists.mpr fun b hspells => hspells.readPair_ne_error fault h, ?_⟩
    unfold readPair at h
    split at h
    · next hnone =>
      obtain rfl := Except.error.inj h
      exact .nonText (Utf8.decodePair?_eq_none_iff.mp hnone)
    · next text hsome =>
      split at h
      · cases h
      · obtain rfl := Except.error.inj h
        exact .badDigit text (Utf8.decodePair?_eq_some_iff.mp hsome)
  · rintro ⟨hspells, hrefused⟩
    cases hrefused with
    | nonText hnone =>
      exact ⟨.nonText, by rw [readPair, Utf8.decodePair?_eq_none_iff.mpr hnone], rfl⟩
    | badDigit text htext =>
      have hvalue : pairValue? p.1 p.2 = none := by
        rw [Option.eq_none_iff_forall_ne_some]
        exact fun b hb => hspells ⟨b, pairValue?_eq_some_iff.mp hb⟩
      refine ⟨.badPair text, ?_, rfl⟩
      rw [readPair, Utf8.decodePair?_eq_some_iff.mpr htext, hvalue]

theorem readPairs_cons (first second : UInt8) (rest : Bytes) :
    readPairs (first :: second :: rest) =
      (readPair first second).bind fun b => (readPairs rest).map (b :: ·) := by
  rw [readPairs]
  cases readPair first second with
  | error e => rfl
  | ok b => cases readPairs rest <;> rfl

theorem first_cons_iff {α : Type} {good bad : α → Prop} {x : α} {l : List α} :
    (∃ before y after, x :: l = before ++ y :: after ∧ (∀ z ∈ before, good z) ∧ bad y) ↔
      bad x ∨ good x ∧
        ∃ before y after, l = before ++ y :: after ∧ (∀ z ∈ before, good z) ∧ bad y := by
  constructor
  · rintro ⟨before, y, after, hsplit, hgood, hbad⟩
    rcases List.cons_eq_append_iff.mp hsplit with ⟨-, hhead⟩ | ⟨front, rfl, htail⟩
    · obtain ⟨rfl, -⟩ := List.cons.inj hhead
      exact .inl hbad
    · obtain ⟨hhead, hbefore⟩ := List.forall_mem_cons.mp hgood
      exact .inr ⟨hhead, front, y, after, htail, hbefore, hbad⟩
  · rintro (hbad | ⟨hhead, before, y, after, rfl, hbefore, hbad⟩)
    · exact ⟨[], x, l, rfl, List.forall_mem_nil _, hbad⟩
    · exact ⟨x :: before, y, after, rfl, List.forall_mem_cons.mpr ⟨hhead, hbefore⟩, hbad⟩

section

variable {d : Bytes} (h : d.length % 2 = 0)

include h

theorem flatMap_pairs : (pairs d).flatMap (fun p => [p.1, p.2]) = d := by
  fun_induction pairs d with
  | case1 => rfl
  | case2 last => cases h
  | case3 first second rest ih =>
    rw [List.length_cons, List.length_cons, Nat.add_assoc, Nat.add_mod_right] at h
    rw [List.flatMap_cons, ih h]
    rfl

theorem readPairs_eq_ok_iff {bytes : Bytes} :
    readPairs d = .ok bytes ↔ List.Forall₂ Spells (pairs d) bytes := by
  fun_induction pairs d generalizing bytes with
  | case1 =>
    rw [List.forall₂_nil_left_iff, readPairs]
    exact ⟨fun h => (Except.ok.inj h).symm, fun h => h ▸ rfl⟩
  | case2 last => cases h
  | case3 first second rest ih =>
    rw [List.length_cons, List.length_cons, Nat.add_assoc, Nat.add_mod_right] at h
    rw [readPairs_cons, List.forall₂_cons_left_iff]
    constructor
    · intro hread
      cases hpair : readPair first second with
      | error e => rw [hpair] at hread; cases hread
      | ok b =>
        cases hrest : readPairs rest with
        | error e => rw [hpair, hrest] at hread; cases hread
        | ok others =>
          rw [hpair, hrest] at hread
          exact ⟨b, others, readPair_eq_ok_iff.mp hpair, (ih h).mp hrest,
            (Except.ok.inj hread).symm⟩
    · rintro ⟨b, others, hspells, hothers, rfl⟩
      have hpair : readPair first second = .ok b := readPair_eq_ok_iff.mpr hspells
      rw [hpair, (ih h).mpr hothers]
      rfl

theorem readPairs_eq_error_iff {fault : Fault} :
    readPairs d = .error fault ↔ ∃ before bad after, pairs d = before ++ bad :: after ∧
      (∀ p ∈ before, ∃ b, Spells p b) ∧ readPair bad.1 bad.2 = .error fault := by
  fun_induction pairs d with
  | case1 => simp [readPairs]
  | case2 last => cases h
  | case3 first second rest ih =>
    rw [List.length_cons, List.length_cons, Nat.add_assoc, Nat.add_mod_right] at h
    rw [readPairs_cons, first_cons_iff, ← ih h]
    -- Reading stops at the first pair that fails, so the rest counts only once the head is read.
    cases hpair : readPair first second with
    | error e =>
      have hspells : ¬∃ b, Spells (first, second) b :=
        not_exists.mpr fun b hb => hb.readPair_ne_error e hpair
      simp [hspells, Except.bind]
    | ok b =>
      have hspells : ∃ b, Spells (first, second) b := ⟨b, readPair_eq_ok_iff.mp hpair⟩
      cases readPairs rest <;> simp [hspells, Except.bind, Except.map]

end

theorem lower_code (letters : Letters) {n : Nat} (h : n < 16) :
    lower (code letters n) = code .lower n := by
  have hall : ∀ n < 16, lower (code letters n) = code .lower n := by
    cases letters <;> decide
  exact hall n h

theorem Spells.lower_eq {p : UInt8 × UInt8} {b : UInt8} (h : Spells p b) (hsign : p.1 ≠ 0x2B) :
    [p.1, p.2].map lower = codes .lower b := by
  rcases h with ⟨lettersHigh, lettersLow, hhigh, hlow⟩ | ⟨hplus, -, -⟩
  · rw [hhigh, hlow, List.map_cons, List.map_singleton, lower_code _ (div_lt b),
      lower_code _ (mod_lt b)]
    rfl
  · exact absurd hplus hsign

theorem lower_flatMap {ps : List (UInt8 × UInt8)} {bytes : Bytes}
    (h : List.Forall₂ Spells ps bytes) (hsign : ∀ p ∈ ps, p.1 ≠ 0x2B) :
    (ps.flatMap fun p => [p.1, p.2]).map lower = bytes.flatMap (codes .lower) := by
  induction h with
  | nil => rfl
  | cons hspells _ ih =>
    obtain ⟨hfirst, hrest⟩ := List.forall_mem_cons.mp hsign
    rw [List.flatMap_cons, List.flatMap_cons, List.map_append, hspells.lower_eq hfirst, ih hrest]

/-- A plus sign is written by itself and occurs in no other character. -/
theorem sign_notMem_digits {text : String} (h : '+' ∉ text.toList) : 0x2B ∉ digits text := by
  intro hmem
  obtain ⟨c, hc, hbyte⟩ := List.mem_flatMap.mp (List.mem_of_mem_filter hmem)
  have hplus : c = '+' := Utf8.encodeChar_of_mem hbyte (by decide)
  exact h (hplus ▸ hc)

theorem encode_compact (bytes : Bytes) :
    Utf8.encode (compact bytes) = bytes.flatMap (codes .lower) := by
  rw [compact, Utf8.encode_ofList, List.flatMap_assoc]
  simp only [encode_pair]

theorem exists_forall₂_iff {ps : List (UInt8 × UInt8)} :
    (∃ bytes, List.Forall₂ Spells ps bytes) ↔ ∀ p ∈ ps, ∃ b, Spells p b := by
  induction ps with
  | nil => exact ⟨fun _ => List.forall_mem_nil _, fun _ => ⟨[], .nil⟩⟩
  | cons p ps ih =>
    rw [List.forall_mem_cons, ← ih]
    constructor
    · rintro ⟨_, hspells⟩
      cases hspells with
      | cons hb hbytes => exact ⟨⟨_, hb⟩, _, hbytes⟩
    · rintro ⟨⟨b, hb⟩, bytes, hbytes⟩
      exact ⟨b :: bytes, .cons hb hbytes⟩

theorem isBlank_iff {b : UInt8} :
    isBlank b = true ↔ b ∈ ([0x09, 0x0A, 0x0C, 0x0D, 0x20] : Bytes) := by
  simp only [isBlank, Bool.or_eq_true, beq_iff_eq, List.mem_cons, List.not_mem_nil, or_false]
  tauto

theorem parse_of_even {text : String} (h : (digits text).length % 2 = 0) :
    parse text = readPairs (digits text) := by
  rw [parse, if_neg (by omega)]

theorem even_of_parse {text : String} {bytes : Bytes} (h : parse text = .ok bytes) :
    (digits text).length % 2 = 0 := by
  unfold parse at h
  split_ifs at h with hodd
  exact Nat.mod_two_ne_one.mp hodd

theorem mapError_eq_ok_iff {text : String} {bytes : Bytes} :
    (parse text).mapError Error.ofHexFault = .ok bytes ↔ parse text = .ok bytes := by
  cases parse text <;> simp [Except.mapError]

theorem mapError_eq_error_iff {text : String} {e : Error} :
    (parse text).mapError Error.ofHexFault = .error e ↔
      ∃ fault, parse text = .error fault ∧ e = .ofHexFault fault := by
  cases parse text <;> simp [Except.mapError, eq_comm]

theorem parse_eq_ok_iff {text : String} (h : (digits text).length % 2 = 0) {bytes : Bytes} :
    (parse text).mapError Error.ofHexFault = .ok bytes ↔
      List.Forall₂ Spells (pairs (digits text)) bytes := by
  rw [mapError_eq_ok_iff, parse_of_even h, readPairs_eq_ok_iff h]

theorem parse_eq_error_iff {text : String} (h : (digits text).length % 2 = 0) {e : Error} :
    (parse text).mapError Error.ofHexFault = .error e ↔
      ∃ before bad after, pairs (digits text) = before ++ bad :: after ∧
        (∀ p ∈ before, ∃ b, Spells p b) ∧ (¬∃ b, Spells bad b) ∧ Refused bad e := by
  rw [mapError_eq_error_iff, parse_of_even h]
  simp only [readPairs_eq_error_iff h]
  constructor
  · rintro ⟨fault, ⟨before, bad, after, hsplit, hbefore, hbad⟩, rfl⟩
    obtain ⟨hnone, hrefused⟩ := readPair_eq_error_iff.mp ⟨fault, hbad, rfl⟩
    exact ⟨before, bad, after, hsplit, hbefore, hnone, hrefused⟩
  · rintro ⟨before, bad, after, hsplit, hbefore, hbad⟩
    obtain ⟨fault, hfault, rfl⟩ := readPair_eq_error_iff.mpr hbad
    exact ⟨fault, ⟨before, bad, after, hsplit, hbefore, hfault⟩, rfl⟩

/-- What is read of a text without a sign is written as the digits of the text in small letters. -/
theorem encode_compact_of_parse {text : String} {bytes : Bytes}
    (h : (parse text).mapError Error.ofHexFault = .ok bytes) (hplus : '+' ∉ text.toList) :
    Utf8.encode (compact bytes) = (digits text).map lower := by
  have heven := even_of_parse (mapError_eq_ok_iff.mp h)
  have hsign : ∀ p ∈ pairs (digits text), p.1 ≠ 0x2B := by
    intro p hp hsign
    refine sign_notMem_digits hplus ?_
    rw [← flatMap_pairs heven, ← hsign]
    exact List.mem_flatMap.mpr ⟨p, hp, List.mem_cons_self⟩
  rw [encode_compact, ← lower_flatMap ((parse_eq_ok_iff heven).mp h) hsign, flatMap_pairs heven]

/-- The language that is read, what is read of it, and the error of every text outside of it. -/
theorem parse_language (text : String) :
    let d := digits text
    let read := (parse text).mapError Error.ofHexFault
    d = text.toUTF8.data.toList.filter (· ∉ ([0x09, 0x0A, 0x0C, 0x0D, 0x20] : Bytes)) ∧
      (d.length % 2 = 1 → read = .error (.invalidHex "odd number of digits")) ∧
      (d.length % 2 = 0 →
        (pairs d).flatMap (fun p => [p.1, p.2]) = d ∧
        ((∃ bytes, read = .ok bytes) ↔ ∀ p ∈ pairs d, ∃ b, Spells p b) ∧
        (∀ bytes, read = .ok bytes ↔ List.Forall₂ Spells (pairs d) bytes) ∧
        ∀ e, read = .error e ↔ ∃ before bad after, pairs d = before ++ bad :: after ∧
          (∀ p ∈ before, ∃ b, Spells p b) ∧ (¬∃ b, Spells bad b) ∧ Refused bad e) ∧
      ('+' ∉ text.toList → ∀ bytes, read = .ok bytes →
        Utf8.encode (compact bytes) = d.map lower) := by
  intro d read
  refine ⟨?_, fun hodd => ?_, fun heven => ⟨flatMap_pairs heven, ?_, fun bytes => ?_, fun e => ?_⟩,
    fun hplus bytes hread => encode_compact_of_parse hread hplus⟩
  · rw [Utf8.toUTF8_eq]
    refine List.filter_congr fun b _ => ?_
    rw [Bool.not_eq_eq_eq_not, decide_not, Bool.not_not]
    exact Bool.eq_iff_iff.mpr (isBlank_iff.trans decide_eq_true_iff.symm)
  · change (parse text).mapError Error.ofHexFault = _
    rw [parse, if_pos hodd]
    rfl
  · rw [← exists_forall₂_iff]
    exact exists_congr fun bytes => parse_eq_ok_iff heven
  · exact parse_eq_ok_iff heven
  · exact parse_eq_error_iff heven

theorem parse_language_mixed :
    (digits "a b\tc").length % 2 = 1 ∧
      (parse "a b\tc").mapError Error.ofHexFault = .error (.invalidHex "odd number of digits") ∧
    (digits "+b 0A").length % 2 = 0 ∧
      (parse "+b 0A").mapError Error.ofHexFault = .ok [0x0B, 0x0A] ∧
    (digits "0aa\u00E9b").length % 2 = 0 ∧
      (parse "0aa\u00E9b").mapError Error.ofHexFault = .error (.invalidHex "non-ascii input") ∧
    '+' ∉ "DE\nad".toList ∧ (parse "DE\nad").mapError Error.ofHexFault = .ok [0xDE, 0xAD] ∧
      Utf8.encode (compact [0xDE, 0xAD]) = (digits "DE\nad").map lower := by
  have hodd : (digits "a b\tc").length % 2 = 1 := by decide
  have hsign : (digits "+b 0A").length % 2 = 0 := by decide
  have hcut : (digits "0aa\u00E9b").length % 2 = 0 := by decide
  have hplus : '+' ∉ "DE\nad".toList := by decide
  have hread : (parse "DE\nad").mapError Error.ofHexFault = .ok [0xDE, 0xAD] := by rfl
  have hfirst : Spells (0x2B, 0x62) 0x0B := .inr ⟨rfl, by decide, .lower, by decide⟩
  have hsecond : Spells (0x30, 0x41) 0x0A := .inl ⟨.lower, .upper, by decide, by decide⟩
  have hlower : Spells (0x30, 0x61) 0x0A := .inl ⟨.lower, .lower, by decide, by decide⟩
  have hnone : ¬∃ b, Spells (0x61, 0xC3) b :=
    not_exists.mpr fun _ hb => absurd hb.ascii.2 (by decide)
  have hrefused : Refused (0x61, 0xC3) (.invalidHex "non-ascii input") :=
    .nonText (Utf8.decodePair?_eq_none_iff.mp (by decide))
  obtain ⟨-, hcount, -, -⟩ := parse_language "a b\tc"
  obtain ⟨-, -, hspelled, -⟩ := parse_language "+b 0A"
  obtain ⟨-, -, hpairs, -⟩ := parse_language "0aa\u00E9b"
  obtain ⟨-, -, -, hcases⟩ := parse_language "DE\nad"
  obtain ⟨-, -, hok, -⟩ := hspelled hsign
  obtain ⟨-, -, -, herror⟩ := hpairs hcut
  refine ⟨hodd, hcount hodd, hsign, (hok _).mpr (.cons hfirst (.cons hsecond .nil)), hcut,
    (herror _).mpr ⟨[(0x30, 0x61)], (0x61, 0xC3), [(0xA9, 0x62)], by decide, ?_, hnone, hrefused⟩,
    hplus, hread, hcases hplus _ hread⟩
  exact List.forall_mem_singleton.mpr ⟨_, hlower⟩

end Proximity.Hex
