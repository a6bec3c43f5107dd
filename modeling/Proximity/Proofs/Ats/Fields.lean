import Proximity.Ats
import Mathlib.Tactic.SplitIfs

/-! Reading the fields behind the length byte, each off the front of what is left at the cursor. -/
namespace Proximity.Ats

def announced (t0 : UInt8) : Nat :=
  [0x10, 0x20, 0x40].countP fun flag => t0 &&& flag ≠ 0

namespace Body

/-- An interface byte is there just where its flag is set. -/
structure Agrees (body : Body) : Prop where
  ta : body.ta?.isSome ↔ body.t0 &&& taFlag ≠ 0
  tb : body.tb?.isSome ↔ body.t0 &&& tbFlag ≠ 0
  tc : body.tc?.isSome ↔ body.t0 &&& tcFlag ≠ 0

def fields (body : Body) : Bytes :=
  body.ta?.toList ++ (body.tb?.toList ++ (body.tc?.toList ++ body.historical))

def toBytes (body : Body) : Bytes :=
  body.t0 :: body.fields

end Body

section
variable {t0 flag : UInt8} {counted later : Bytes} {b? : Option UInt8} {i : Nat}

theorem length_field (h : b?.isSome ↔ t0 &&& flag ≠ 0) :
    b?.toList.length = if t0 &&& flag = 0 then 0 else 1 := by
  cases b? <;> simp_all

/-- What is left at the cursor begins with the byte that a flag announces, or it is used up. -/
theorem exists_field (t0 flag : UInt8) (left : Bytes) :
    (∃ (b? : Option UInt8) (later : Bytes),
      (b?.isSome ↔ t0 &&& flag ≠ 0) ∧ left = b?.toList ++ later) ∨
    (t0 &&& flag ≠ 0 ∧ left = []) := by
  by_cases h : t0 &&& flag = 0
  · exact .inl ⟨none, left, by simp [h], rfl⟩
  · cases left with
    | nil => exact .inr ⟨h, rfl⟩
    | cons b later => exact .inl ⟨some b, later, by simp [h], rfl⟩

theorem interfaceByte_of_drop (h : b?.isSome ↔ t0 &&& flag ≠ 0)
    (left : counted.drop i = b?.toList ++ later) :
    interfaceByte counted t0 flag i = .ok (b?, i + b?.toList.length) := by
  cases b? with
  | none =>
    have hclear : t0 &&& flag = 0 := by simpa using h
    rw [interfaceByte, if_pos hclear]
    rfl
  | some b =>
    have hset : ¬t0 &&& flag = 0 := by simpa using h
    have hbyte : counted[i]? = some b := by
      rw [← List.head?_drop, left]
      rfl
    rw [interfaceByte, if_neg hset, Bytes.byteAt, hbyte]
    rfl

theorem interfaceByte_of_used_up (h : t0 &&& flag ≠ 0) (left : counted.drop i = []) :
    interfaceByte counted t0 flag i = .error ⟨i + 1, counted.length⟩ := by
  have hnone : counted[i]? = none := by rw [← List.head?_drop, left, List.head?_nil]
  rw [interfaceByte, if_neg h, Bytes.byteAt, hnone]
  rfl

theorem drop_field (left : counted.drop i = b?.toList ++ later) :
    counted.drop (i + b?.toList.length) = later := by
  rw [← List.drop_drop, left, List.drop_left]

theorem sliceAt_rest (h : i ≤ counted.length) :
    Bytes.sliceAt counted i (counted.length - i) = .ok (counted.drop i) := by
  have henough : ¬counted.length < i + (counted.length - i) := by omega
  have hall : (counted.drop i).take (counted.length - i) = counted.drop i := by
    rw [← List.length_drop, List.take_length]
  rw [Bytes.sliceAt, Bytes.require, if_neg henough, hall]
  rfl

end

theorem announced_eq (t0 : UInt8) :
    announced t0 = (if t0 &&& taFlag = 0 then 0 else 1) + (if t0 &&& tbFlag = 0 then 0 else 1) +
      (if t0 &&& tcFlag = 0 then 0 else 1) := by
  simp only [announced, taFlag, tbFlag, tcFlag, List.countP_cons, List.countP_nil]
  split_ifs <;> simp_all

namespace Body

theorem Agrees.announced_add {body : Body} (h : body.Agrees) :
    announced body.t0 + body.historical.length = body.fields.length := by
  rw [announced_eq, ← length_field h.ta, ← length_field h.tb, ← length_field h.tc]
  simp [fields]
  omega

/-- Fields that agree with the format byte are read back. -/
theorem parse_toBytes {body : Body} (h : body.Agrees) (tl : UInt8) :
    Body.parse (tl :: body.toBytes) body.t0 = .ok body := by
  have hleft : (tl :: body.toBytes).drop 2 = body.fields := rfl
  have hlength : (tl :: body.toBytes).length = body.fields.length + 2 := rfl
  have hta := interfaceByte_of_drop h.ta hleft
  have htb := interfaceByte_of_drop h.tb (drop_field hleft)
  have htc := interfaceByte_of_drop h.tc (drop_field (drop_field hleft))
  have hrest := drop_field (drop_field (drop_field hleft))
  have hreached : 2 + body.ta?.toList.length + body.tb?.toList.length + body.tc?.toList.length ≤
      (tl :: body.toBytes).length := by
    rw [hlength, fields]
    simp only [List.length_append]
    omega
  have hend := sliceAt_rest hreached
  rw [hrest] at hend
  simp only [Body.parse, hta, htb, htc, hend, bind, Except.bind]
  rfl

/-- Behind the format byte stand all the fields that it announces, up to one that is missing. -/
theorem parse_cases (tl t0 : UInt8) (left : Bytes) :
    (∃ body : Body, body.t0 = t0 ∧ body.Agrees ∧ body.fields = left) ∨
    (left.length < announced t0 ∧
      Body.parse (tl :: t0 :: left) t0 = .error ⟨left.length + 3, left.length + 2⟩) := by
  have hleft : (tl :: t0 :: left).drop 2 = left := rfl
  have hlength : (tl :: t0 :: left).length = left.length + 2 := rfl
  generalize tl :: t0 :: left = counted at hleft hlength ⊢
  rw [announced_eq]
  rcases exists_field t0 taFlag left with ⟨ta?, left, hta, rfl⟩ | ⟨hset, rfl⟩
  · have hreadTa := interfaceByte_of_drop hta hleft
    have hleft := drop_field hleft
    rw [← length_field hta]
    rcases exists_field t0 tbFlag left with ⟨tb?, left, htb, rfl⟩ | ⟨hset, rfl⟩
    · have hreadTb := interfaceByte_of_drop htb hleft
      have hleft := drop_field hleft
      rw [← length_field htb]
      rcases exists_field t0 tcFlag left with ⟨tc?, historical, htc, rfl⟩ | ⟨hset, rfl⟩
      · exact .inl ⟨⟨t0, ta?, tb?, tc?, historical⟩, rfl, ⟨hta, htb, htc⟩, rfl⟩
      · have hmissing := interfaceByte_of_used_up hset hleft
        rw [List.append_nil, List.length_append] at hlength ⊢
        have hexpected : 2 + ta?.toList.length + tb?.toList.length + 1 =
            ta?.toList.length + tb?.toList.length + 3 := by omega
        rw [if_neg hset]
        refine .inr ⟨by omega, ?_⟩
        simp only [Body.parse, hreadTa, hreadTb, hmissing, bind, Except.bind, hlength, hexpected]
    · have hmissing := interfaceByte_of_used_up hset hleft
      rw [List.append_nil] at hlength ⊢
      have hexpected : 2 + ta?.toList.length + 1 = ta?.toList.length + 3 := by omega
      rw [if_neg hset]
      refine .inr ⟨by omega, ?_⟩
      simp only [Body.parse, hreadTa, hmissing, bind, Except.bind, hlength, hexpected]
  · have hmissing := interfaceByte_of_used_up hset hleft
    rw [List.length_nil] at hlength ⊢
    rw [if_neg hset]
    refine .inr ⟨by omega, ?_⟩
    simp only [Body.parse, hmissing, bind, Except.bind, hlength]

end Body
end Proximity.Ats
