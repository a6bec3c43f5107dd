import Proximity.Proofs.Ats.Checked
import Proximity.Proofs.Ats.Fields

/-! Which strings are answers to select, and what is read from them. -/
namespace Proximity.Ats

def toBytes (ats : Ats) : Bytes :=
  [ats.tl] ++ ats.t0?.toList ++ ats.ta?.toList ++ ats.tb?.toList ++ ats.tc?.toList ++ ats.historical

theorem toBytes_some (tl : UInt8) (body : Body) :
    toBytes ⟨tl, some body⟩ = tl :: body.toBytes := by
  simp [toBytes, t0?, ta?, tb?, tc?, historical, Body.toBytes, Body.fields]

/-- The length byte counts all bytes, itself included, and the format byte announces the fields. -/
structure WellFormed (ats : Ats) : Prop where
  length : ats.toBytes.length = ats.tl.toNat
  agrees : ∀ body, ats.body? = some body → body.Agrees

theorem wellFormed_none_iff {tl : UInt8} : WellFormed ⟨tl, none⟩ ↔ tl.toNat = 1 :=
  ⟨fun h => h.length.symm, fun h => ⟨h.symm, by rintro body ⟨⟩⟩⟩

theorem wellFormed_some_iff {tl : UInt8} {body : Body} :
    WellFormed ⟨tl, some body⟩ ↔ body.fields.length + 2 = tl.toNat ∧ body.Agrees := by
  constructor
  · rintro ⟨hlength, hagrees⟩
    rw [toBytes_some] at hlength
    exact ⟨hlength, hagrees body rfl⟩
  · rintro ⟨hlength, hagrees⟩
    refine ⟨?_, ?_⟩
    · rw [toBytes_some]
      exact hlength
    · rintro other ⟨⟩
      exact hagrees

theorem parse_of_counted {tl : UInt8} {rest : Bytes} (h : (tl :: rest).length = tl.toNat)
    (more : Bytes) :
    parse (tl :: rest ++ more) = match rest with
      | [] => .ok ⟨tl, none⟩
      | t0 :: left => (Body.parse (tl :: t0 :: left) t0).map fun body => ⟨tl, some body⟩ := by
  have hpositive : ¬tl = 0 := by
    rintro rfl
    cases h
  have henough : Bytes.require (tl :: rest ++ more) tl.toNat = .ok () := by
    refine if_neg (Nat.not_lt.mpr ?_)
    rw [List.length_append, h]
    exact Nat.le_add_right _ _
  have hcounted : (tl :: rest ++ more).take tl.toNat = tl :: rest := by
    rw [← h, List.take_left]
  have hfirst : Bytes.byteAt (tl :: rest ++ more) 0 = .ok tl := rfl
  simp only [parse, hfirst, henough, hcounted, hpositive, if_false, bind, Except.bind, pure,
    Except.pure]
  cases rest with
  | nil => rfl
  | cons t0 left =>
    dsimp only [List.tail_cons, List.head?_cons]
    cases Body.parse (tl :: t0 :: left) t0 <;> rfl

theorem parse_of_short {tl : UInt8} {rest : Bytes} (h : (tl :: rest).length < tl.toNat) :
    parse (tl :: rest) = .error ⟨tl.toNat, (tl :: rest).length⟩ := by
  have hpositive : ¬tl = 0 := by
    rintro rfl
    exact absurd h (Nat.not_lt_zero _)
  have hfirst : Bytes.byteAt (tl :: rest) 0 = .ok tl := rfl
  have hmissing : Bytes.require (tl :: rest) tl.toNat = .error ⟨tl.toNat, (tl :: rest).length⟩ :=
    if_pos h
  simp only [parse, hfirst, hmissing, hpositive, if_false, bind, Except.bind]

/-- A string has no length byte, or one that counts nothing, too much, or a front of it. -/
theorem counted_cases (bytes : Bytes) :
    bytes = [] ∨ (∃ rest, bytes = 0 :: rest) ∨
    (∃ tl rest, bytes = tl :: rest ∧ (tl :: rest).length < tl.toNat) ∨
    ∃ (tl : UInt8) (rest more : Bytes), bytes = tl :: rest ++ more ∧
      (tl :: rest).length = tl.toNat := by
  cases bytes with
  | nil => exact .inl rfl
  | cons tl rest =>
    by_cases hzero : tl = 0
    · exact .inr (.inl ⟨rest, congrArg (· :: rest) hzero⟩)
    · rcases Nat.lt_or_ge (tl :: rest).length tl.toNat with hshort | hlong
      · exact .inr (.inr (.inl ⟨tl, rest, rfl, hshort⟩))
      · have hpositive : tl.toNat ≠ 0 := fun h => hzero (UInt8.toNat_inj.mp h)
        rw [List.length_cons] at hlong
        refine .inr (.inr (.inr ⟨tl, rest.take (tl.toNat - 1), rest.drop (tl.toNat - 1), ?_, ?_⟩))
        · rw [List.cons_append, List.take_append_drop]
        · rw [List.length_cons, List.length_take]
          omega

/-- Reading accepts what a well-formed answer writes, with anything behind it. -/
theorem parse_eq_ok_iff {bytes : Bytes} {ats : Ats} :
    parse bytes = .ok ats ↔ ats.WellFormed ∧ ats.toBytes <+: bytes := by
  constructor
  · intro h
    rcases counted_cases bytes with rfl | ⟨rest, rfl⟩ | ⟨tl, rest, rfl, hshort⟩ |
      ⟨tl, rest, more, rfl, hcount⟩
    · cases h
    · cases h
    · rw [parse_of_short hshort] at h
      cases h
    · rw [parse_of_counted hcount] at h
      cases rest with
      | nil =>
        cases h
        exact ⟨wellFormed_none_iff.mpr hcount.symm, more, rfl⟩
      | cons t0 left =>
        rcases Body.parse_cases tl t0 left with ⟨body, rfl, hagrees, rfl⟩ | ⟨-, hmissing⟩
        · change (Body.parse (tl :: body.toBytes) body.t0).map _ = _ at h
          rw [Body.parse_toBytes hagrees] at h
          cases h
          refine ⟨wellFormed_some_iff.mpr ⟨hcount, hagrees⟩, more, ?_⟩
          rw [toBytes_some]
          rfl
        · dsimp only at h
          rw [hmissing] at h
          cases h
  · rintro ⟨hwell, more, rfl⟩
    obtain ⟨tl, body?⟩ := ats
    cases body? with
    | none => exact parse_of_counted hwell.length more
    | some body =>
      have hcount := hwell.length
      rw [toBytes_some] at hcount ⊢
      rw [parse_of_counted hcount]
      change (Body.parse (tl :: body.toBytes) body.t0).map _ = _
      rw [Body.parse_toBytes (hwell.agrees body rfl)]
      rfl

/-- A string is accepted just when it counts enough bytes for all that its format byte announces. -/
theorem exists_parse_iff (bytes : Bytes) :
    (∃ ats, parse bytes = .ok ats) ↔
      ∃ tl, bytes[0]? = some tl ∧ 1 ≤ tl.toNat ∧ tl.toNat ≤ bytes.length ∧
        (tl.toNat = 1 ∨ ∃ t0, bytes[1]? = some t0 ∧ 2 + announced t0 ≤ tl.toNat) := by
  constructor
  · rintro ⟨ats, h⟩
    obtain ⟨hwell, more, rfl⟩ := parse_eq_ok_iff.mp h
    have hle : ats.tl.toNat ≤ (ats.toBytes ++ more).length := by
      rw [List.length_append, hwell.length]
      exact Nat.le_add_right _ _
    obtain ⟨tl, body?⟩ := ats
    cases body? with
    | none =>
      have hone := wellFormed_none_iff.mp hwell
      exact ⟨tl, rfl, hone.ge, hle, .inl hone⟩
    | some body =>
      obtain ⟨hlength, hagrees⟩ := wellFormed_some_iff.mp hwell
      have hannounced := hagrees.announced_add
      rw [toBytes_some] at hle ⊢
      exact ⟨tl, rfl, by omega, hle, .inr ⟨body.t0, rfl, by omega⟩⟩
  · rintro ⟨tl, hfirst, hpositive, hle, hroom⟩
    rcases counted_cases bytes with rfl | ⟨rest, rfl⟩ | ⟨tl, rest, rfl, hshort⟩ |
      ⟨tl, rest, more, rfl, hcount⟩
    · cases hfirst
    · cases hfirst
      cases hpositive
    · cases hfirst
      exact absurd hle (Nat.not_le.mpr hshort)
    · cases hfirst
      cases rest with
      | nil => exact ⟨_, parse_of_counted hcount more⟩
      | cons t0 left =>
        have hcounted : left.length + 2 = tl.toNat := hcount
        rcases hroom with hone | ⟨t0, ht0, hroom⟩
        · omega
        · cases ht0
          rcases Body.parse_cases tl t0 left with ⟨body, rfl, hagrees, rfl⟩ | ⟨hless, -⟩
          · refine ⟨⟨tl, some body⟩, parse_eq_ok_iff.mpr
              ⟨wellFormed_some_iff.mpr ⟨hcount, hagrees⟩, more, ?_⟩⟩
            rw [toBytes_some]
            rfl
          · omega

theorem WellFormed.presence {ats : Ats} (h : ats.WellFormed) :
    (ats.t0? = none ↔ ats.tl.toNat = 1) ∧
      ∀ field ∈ [((0x10 : UInt8), ats.ta?), (0x20, ats.tb?), (0x40, ats.tc?)],
        (field.2.isSome ↔ ∃ t0, ats.t0? = some t0 ∧ t0 &&& field.1 ≠ 0) := by
  obtain ⟨tl, body?⟩ := ats
  cases body? with
  | none =>
    refine ⟨⟨fun _ => wellFormed_none_iff.mp h, fun _ => rfl⟩, ?_⟩
    simp [t0?, ta?, tb?, tc?]
  | some body =>
    obtain ⟨hlength, hagrees⟩ := wellFormed_some_iff.mp h
    refine ⟨⟨fun hnone => (nomatch hnone), fun hone => ?_⟩, ?_⟩
    · dsimp only at hone
      omega
    · have hfield : ∀ {b? : Option UInt8} {flag : UInt8}, (b?.isSome ↔ body.t0 &&& flag ≠ 0) →
          (b?.isSome ↔ ∃ t0, some body.t0 = some t0 ∧ t0 &&& flag ≠ 0) := by
        intro b? flag h
        rw [h]
        simp
      intro field hmem
      simp only [List.mem_cons, List.not_mem_nil, or_false] at hmem
      rcases hmem with rfl | rfl | rfl
      · exact hfield hagrees.ta
      · exact hfield hagrees.tb
      · exact hfield hagrees.tc

/-- Reading and writing answers to select are inverse to each other. A string is accepted just when
its length byte leaves room for what the format byte announces, and nothing behind matters. -/
theorem parse_exact :
    (∀ bytes, (∃ ats, parse bytes = .ok ats) ↔
      ∃ tl, bytes[0]? = some tl ∧ 1 ≤ tl.toNat ∧ tl.toNat ≤ bytes.length ∧
        (tl.toNat = 1 ∨ ∃ t0, bytes[1]? = some t0 ∧ 2 + announced t0 ≤ tl.toNat)) ∧
    (∀ bytes ats, parse bytes = .ok ats →
      ats.toBytes = bytes.take ats.tl.toNat ∧ ats.toBytes.length = ats.tl.toNat ∧
      (ats.t0? = none ↔ ats.tl.toNat = 1) ∧
      (∀ field ∈ [((0x10 : UInt8), ats.ta?), (0x20, ats.tb?), (0x40, ats.tc?)],
        (field.2.isSome ↔ ∃ t0, ats.t0? = some t0 ∧ t0 &&& field.1 ≠ 0)) ∧
      ∀ more, parse (bytes.take ats.tl.toNat ++ more) = .ok ats) ∧
    (∀ body : Body, body.Agrees → body.toBytes.length + 1 ≤ 255 → ∀ more,
      let tl : UInt8 := .ofNat (body.toBytes.length + 1)
      parse (tl :: body.toBytes ++ more) = .ok ⟨tl, some body⟩) ∧
    (∀ more, parse (1 :: more) = .ok ⟨1, none⟩) ∧
    ∀ bytes, (Checked.ats bytes).run = .ok (parse bytes) := by
  refine ⟨exists_parse_iff, fun bytes ats h => ?_, fun body hagrees hlength more => ?_,
    fun more => ?_, Checked.ats_eq⟩
  · obtain ⟨hwell, more, rfl⟩ := parse_eq_ok_iff.mp h
    have htake : (ats.toBytes ++ more).take ats.tl.toNat = ats.toBytes := by
      rw [← hwell.length, List.take_left]
    refine ⟨htake.symm, hwell.length, hwell.presence.1, hwell.presence.2, fun other => ?_⟩
    rw [htake]
    exact parse_eq_ok_iff.mpr ⟨hwell, other, rfl⟩
  · intro tl
    have htl : tl.toNat = body.toBytes.length + 1 :=
      UInt8.toNat_ofNat_of_lt' (Nat.lt_succ_of_le hlength)
    refine parse_eq_ok_iff.mpr ⟨⟨?_, ?_⟩, more, ?_⟩
    · rw [toBytes_some, htl]
      rfl
    · rintro other ⟨⟩
      exact hagrees
    · rw [toBytes_some]
  · have hcounted : [(1 : UInt8)].length = (1 : UInt8).toNat := rfl
    exact parse_of_counted hcounted more

theorem parse_exact_all_fields :
    let bytes : Bytes := [0x06, 0x75, 0x77, 0x81, 0x02, 0x80, 0xAA]
    let body : Body := ⟨0x75, some 0x77, some 0x81, some 0x02, [0x80]⟩
    parse bytes = .ok ⟨6, some body⟩ ∧ toBytes ⟨6, some body⟩ = bytes.take 6 ∧
      parse (bytes.take 6 ++ [0xBB]) = .ok ⟨6, some body⟩ ∧
      (0x40, some 0x02) ∈
        [((0x10 : UInt8), some (0x77 : UInt8)), (0x20, some 0x81), (0x40, some 0x02)] ∧
      (∃ t0, some (0x75 : UInt8) = some t0 ∧ t0 &&& 0x40 ≠ 0) ∧
      body.Agrees ∧ body.toBytes.length + 1 ≤ 255 ∧
      parse (6 :: body.toBytes ++ [0xBB]) = .ok ⟨6, some body⟩ := by
  intro bytes body
  have hread : parse bytes = .ok ⟨6, some body⟩ := by decide
  have hmem : (0x40, some 0x02) ∈
      [((0x10 : UInt8), some (0x77 : UInt8)), (0x20, some 0x81), (0x40, some 0x02)] := by decide
  have hagrees : body.Agrees := ⟨by decide, by decide, by decide⟩
  have hlength : body.toBytes.length + 1 ≤ 255 := by decide
  obtain ⟨-, hfields, hwritten, -, -⟩ := parse_exact
  obtain ⟨hfront, -, -, hpresent, hbehind⟩ := hfields bytes _ hread
  exact ⟨hread, hfront, hbehind [0xBB], hmem, (hpresent (0x40, some 0x02) hmem).mp rfl, hagrees,
    hlength, hwritten body hagrees hlength [0xBB]⟩

end Proximity.Ats
