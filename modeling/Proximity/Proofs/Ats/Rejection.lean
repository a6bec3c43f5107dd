import Proximity.Proofs.Ats.Grammar

/-! How strings that are no answers to select are refused, and which lengths are reported. -/
namespace Proximity.Ats

/-- Why a string is no answer to select, by the lengths that are reported. -/
inductive Rejected (bytes : Bytes) : LengthError → Prop where
  | uncounted (h : bytes = [] ∨ bytes[0]? = some 0) : Rejected bytes ⟨1, 0⟩
  | cutOff {tl : UInt8} (first : bytes[0]? = some tl) (h : bytes.length < tl.toNat) :
    Rejected bytes ⟨tl.toNat, bytes.length⟩
  | crowded {tl t0 : UInt8} (first : bytes[0]? = some tl) (whole : tl.toNat ≤ bytes.length)
      (format : 2 ≤ tl.toNat) (second : bytes[1]? = some t0) (h : tl.toNat < 2 + announced t0) :
    Rejected bytes ⟨tl.toNat + 1, tl.toNat⟩

theorem Body.parse_of_room {t0 : UInt8} {left : Bytes} (h : announced t0 ≤ left.length)
    (tl : UInt8) : ∃ body, Body.parse (tl :: t0 :: left) t0 = .ok body := by
  rcases Body.parse_cases tl t0 left with ⟨body, rfl, hagrees, rfl⟩ | ⟨hless, -⟩
  · exact ⟨body, Body.parse_toBytes hagrees tl⟩
  · exact absurd h (Nat.not_le.mpr hless)

theorem Body.parse_of_crowded {tl t0 : UInt8} {left : Bytes}
    (hcount : (tl :: t0 :: left).length = tl.toNat) (h : tl.toNat < 2 + announced t0) :
    Body.parse (tl :: t0 :: left) t0 = .error ⟨tl.toNat + 1, tl.toNat⟩ := by
  rw [← hcount] at h ⊢
  rcases Body.parse_cases tl t0 left with ⟨body, rfl, hagrees, rfl⟩ | ⟨-, hmissing⟩
  · have hannounced := hagrees.announced_add
    simp only [List.length_cons] at h
    omega
  · exact hmissing

/-- An interface byte is missing only where the counted bytes end, whichever it is. -/
theorem eq_length_of_interfaceByte {counted : Bytes} {t0 flag : UInt8} {i : Nat} {e : LengthError}
    (within : i ≤ counted.length) (h : interfaceByte counted t0 flag i = .error e) :
    i = counted.length ∧ e = ⟨counted.length + 1, counted.length⟩ := by
  unfold interfaceByte Bytes.byteAt at h
  split at h
  · cases h
  · cases hb : counted[i]? with
    | some b =>
      rw [hb] at h
      cases h
    | none =>
      rw [hb] at h
      have hend : counted.length ≤ i := List.getElem?_eq_none_iff.mp hb
      obtain rfl : i = counted.length := Nat.le_antisymm within hend
      exact ⟨rfl, (Except.error.inj h).symm⟩

theorem sliceAt_of_interfaceBytes {counted : Bytes} {t0 : UInt8} {ta? tb? tc? : Option UInt8}
    {i j k : Nat} (format : 2 ≤ counted.length)
    (hta : interfaceByte counted t0 taFlag 2 = .ok (ta?, i))
    (htb : interfaceByte counted t0 tbFlag i = .ok (tb?, j))
    (htc : interfaceByte counted t0 tcFlag j = .ok (tc?, k)) :
    k ≤ counted.length ∧ Bytes.sliceAt counted k (counted.length - k) = .ok (counted.drop k) := by
  have hi : i ≤ counted.length := le_of_interfaceByte hta format
  have hj : j ≤ counted.length := le_of_interfaceByte htb hi
  have hk : k ≤ counted.length := le_of_interfaceByte htc hj
  exact ⟨hk, sliceAt_rest hk⟩

section
variable {bytes : Bytes} {tl : UInt8} (first : bytes[0]? = some tl)

include first

theorem exists_counted (positive : 1 ≤ tl.toNat) (whole : tl.toNat ≤ bytes.length) :
    ∃ rest more : Bytes, bytes = tl :: rest ++ more ∧ (tl :: rest).length = tl.toNat := by
  rcases counted_cases bytes with rfl | ⟨rest, rfl⟩ | ⟨tl, rest, rfl, hshort⟩ |
    ⟨tl, rest, more, rfl, hcount⟩
  · cases first
  · cases first
    cases positive
  · cases first
    exact absurd whole (Nat.not_le.mpr hshort)
  · cases first
    exact ⟨rest, more, rfl, hcount⟩

/-- Nothing behind the counted bytes matters, neither to what is read nor to a refusal. -/
theorem parse_take_append (positive : 1 ≤ tl.toNat) (whole : tl.toNat ≤ bytes.length)
    (more : Bytes) : parse (bytes.take tl.toNat ++ more) = parse bytes := by
  obtain ⟨rest, others, rfl, hcount⟩ := exists_counted first positive whole
  have htake : (tl :: rest ++ others).take tl.toNat = tl :: rest := by
    rw [← hcount, List.take_left]
  rw [htake, parse_of_counted hcount, parse_of_counted hcount]

theorem parse_of_cutOff (h : bytes.length < tl.toNat) :
    parse bytes = .error ⟨tl.toNat, bytes.length⟩ := by
  cases bytes with
  | nil => cases first
  | cons _ rest =>
    cases first
    exact parse_of_short h

theorem parse_of_crowded {t0 : UInt8} (whole : tl.toNat ≤ bytes.length) (format : 2 ≤ tl.toNat)
    (second : bytes[1]? = some t0) (h : tl.toNat < 2 + announced t0) :
    parse bytes = .error ⟨tl.toNat + 1, tl.toNat⟩ := by
  obtain ⟨rest, more, rfl, hcount⟩ := exists_counted first (Nat.le_of_succ_le format) whole
  rw [parse_of_counted hcount]
  cases rest with
  | nil =>
    have hone : tl.toNat = 1 := hcount.symm
    omega
  | cons _ left =>
    cases second
    dsimp only
    rw [Body.parse_of_crowded hcount h]
    rfl

end

theorem parse_of_uncounted {bytes : Bytes} (h : bytes = [] ∨ bytes[0]? = some 0) :
    parse bytes = .error ⟨1, 0⟩ := by
  cases bytes with
  | nil => rfl
  | cons tl rest =>
    obtain rfl : tl = 0 := by simpa using h
    rfl

theorem Rejected.parse_eq {bytes : Bytes} {e : LengthError} (h : Rejected bytes e) :
    parse bytes = .error e := by
  cases h with
  | uncounted h => exact parse_of_uncounted h
  | cutOff first h => exact parse_of_cutOff first h
  | crowded first whole format second h => exact parse_of_crowded first whole format second h

theorem parse_or_rejected (bytes : Bytes) :
    (∃ ats, parse bytes = .ok ats) ∨ ∃ e, Rejected bytes e := by
  rcases counted_cases bytes with rfl | ⟨rest, rfl⟩ | ⟨tl, rest, rfl, hshort⟩ |
    ⟨tl, rest, more, rfl, hcount⟩
  · exact .inr ⟨_, .uncounted (.inl rfl)⟩
  · exact .inr ⟨_, .uncounted (.inr rfl)⟩
  · exact .inr ⟨_, .cutOff rfl hshort⟩
  · cases rest with
    | nil => exact .inl ⟨_, parse_of_counted hcount more⟩
    | cons t0 left =>
      have hcounted : left.length + 2 = tl.toNat := hcount
      rcases Nat.lt_or_ge left.length (announced t0) with hcrowded | hroom
      · have hwhole : tl.toNat ≤ (tl :: t0 :: left ++ more).length := by
          rw [List.length_append, hcount]
          exact Nat.le_add_right _ _
        exact .inr ⟨_, .crowded rfl hwhole (by omega) rfl (by omega)⟩
      · obtain ⟨body, hbody⟩ := Body.parse_of_room hroom tl
        refine .inl ⟨⟨tl, some body⟩, ?_⟩
        rw [parse_of_counted hcount]
        dsimp only
        rw [hbody]
        rfl

/-- A string is refused for one of three reasons, and the reason gives the lengths. -/
theorem parse_eq_error_iff {bytes : Bytes} {e : LengthError} :
    parse bytes = .error e ↔ Rejected bytes e := by
  constructor
  · intro h
    rcases parse_or_rejected bytes with ⟨ats, hread⟩ | ⟨reason, hrejected⟩
    · rw [h] at hread
      cases hread
    · have hreason := hrejected.parse_eq
      rw [h] at hreason
      cases hreason
      exact hrejected
  · exact Rejected.parse_eq

/-- A refusal gives two lengths, which depend on the counted bytes alone and not on the field that
is missing first. The historical bytes are never missing. -/
theorem parse_rejections :
    (∀ bytes e, (parse bytes).mapError Error.invalidLength = .error e ↔
      ∃ lengths, Rejected bytes lengths ∧ e = .invalidLength lengths) ∧
    (∀ (bytes : Bytes) (tl : UInt8), bytes[0]? = some tl → 1 ≤ tl.toNat → tl.toNat ≤ bytes.length →
      ∀ more, parse (bytes.take tl.toNat ++ more) = parse bytes) ∧
    (∀ counted t0 flag i e, i ≤ counted.length → interfaceByte counted t0 flag i = .error e →
      i = counted.length ∧ e = ⟨counted.length + 1, counted.length⟩) ∧
    ∀ counted t0 ta? tb? tc? i j k, 2 ≤ counted.length →
      interfaceByte counted t0 taFlag 2 = .ok (ta?, i) →
      interfaceByte counted t0 tbFlag i = .ok (tb?, j) →
      interfaceByte counted t0 tcFlag j = .ok (tc?, k) →
      k ≤ counted.length ∧
        Bytes.sliceAt counted k (counted.length - k) = .ok (counted.drop k) := by
  refine ⟨fun bytes e => ?_, fun bytes tl first positive whole more => ?_,
    fun counted t0 flag i e within h => ?_, fun counted t0 ta? tb? tc? i j k format hta htb htc => ?_⟩
  · simp only [← parse_eq_error_iff]
    cases parse bytes <;> simp [Except.mapError, eq_comm]
  · exact parse_take_append first positive whole more
  · exact eq_length_of_interfaceByte within h
  · exact sliceAt_of_interfaceBytes format hta htb htc

theorem parse_rejections_crowded :
    let bytes : Bytes := [0x03, 0x70, 0x11, 0xFF]
    let counted := bytes.take 3
    let full : Bytes := [0x06, 0x75, 0x77, 0x81, 0x02, 0x80]
    (parse bytes).mapError Error.invalidLength = .error (.invalidLength ⟨4, 3⟩) ∧
      bytes[0]? = some 0x03 ∧ parse (counted ++ [0xAA, 0xBB]) = parse bytes ∧
      interfaceByte counted 0x70 tbFlag 3 = .error ⟨4, 3⟩ ∧ counted.length = 3 ∧
      interfaceByte full 0x75 taFlag 2 = .ok (some 0x77, 3) ∧
      interfaceByte full 0x75 tbFlag 3 = .ok (some 0x81, 4) ∧
      interfaceByte full 0x75 tcFlag 4 = .ok (some 0x02, 5) ∧
      Bytes.sliceAt full 5 1 = .ok [0x80] := by
  intro bytes counted full
  have first : bytes[0]? = some 0x03 := rfl
  have second : bytes[1]? = some 0x70 := rfl
  have hcrowded : Rejected bytes ⟨4, 3⟩ :=
    .crowded first (by decide) (by decide) second (by decide)
  have hmissing : interfaceByte counted 0x70 tbFlag 3 = .error ⟨4, 3⟩ := by decide
  have hta : interfaceByte full 0x75 taFlag 2 = .ok (some 0x77, 3) := by decide
  have htb : interfaceByte full 0x75 tbFlag 3 = .ok (some 0x81, 4) := by decide
  have htc : interfaceByte full 0x75 tcFlag 4 = .ok (some 0x02, 5) := by decide
  obtain ⟨hrefused, hbehind, hend, hslice⟩ := parse_rejections
  obtain ⟨hat, -⟩ := hend _ _ _ _ _ (by decide) hmissing
  obtain ⟨-, hhistorical⟩ := hslice full 0x75 _ _ _ _ _ _ (by decide) hta htb htc
  exact ⟨(hrefused bytes _).mpr ⟨_, hcrowded, rfl⟩, first,
    hbehind bytes 0x03 first (by decide) (by decide) [0xAA, 0xBB], hmissing, hat.symm, hta, htb, htc,
    hhistorical⟩

end Proximity.Ats
