import Proximity.Checked.Ats
import Proximity.Proofs.Session.Checked

/-!
No fault in reading an answer to select: the cursor never passes the end of the counted bytes.
-/
namespace Proximity

theorem Ats.le_of_interfaceByte {counted : Bytes} {t0 flag : UInt8} {i j : Nat} {b? : Option UInt8}
    (h : interfaceByte counted t0 flag i = .ok (b?, j)) (within : i ≤ counted.length) :
    j ≤ counted.length := by
  unfold interfaceByte Bytes.byteAt at h
  split at h
  · cases h
    exact within
  · cases hb : counted[i]? with
    | none =>
      rw [hb] at h
      cases h
    | some b =>
      rw [hb] at h
      cases h
      obtain ⟨hlt, -⟩ := List.getElem?_eq_some_iff.mp hb
      exact hlt

namespace Checked

section
variable {α β : Type}

/-- A checked reading does what a plain one does when each of its parts does. -/
theorem run_bind {x : Reading α} {plain : Except LengthError α} {f : α → Reading β}
    {g : α → Except LengthError β} (hx : x.run = .ok plain)
    (hf : ∀ a, plain = .ok a → (f a).run = .ok (g a)) : (x >>= f).run = .ok (plain >>= g) := by
  cases plain with
  | error e =>
    rw [ExceptT.run_bind, hx]
    rfl
  | ok a =>
    rw [ExceptT.run_bind, hx]
    exact hf a rfl

theorem run_lift_bind {x : Except Fault α} {a : α} (h : x = .ok a) (f : α → Reading β) :
    ((liftM x : Reading α) >>= f).run = (f a).run := by
  subst h
  rfl

end

theorem require_eq (bytes : Bytes) (n : Nat) : (require bytes n).run = .ok (bytes.require n) := by
  unfold require Bytes.require
  split <;> rfl

theorem le_of_require {bytes : Bytes} {n : Nat} (h : bytes.require n = .ok ()) :
    n ≤ bytes.length := by
  unfold Bytes.require at h
  split at h
  · cases h
  · next hlong => exact Nat.not_lt.mp hlong

theorem byteWithin_eq (bytes : Bytes) (i : Nat) :
    (byteWithin bytes i).run = .ok (Bytes.byteAt bytes i) := by
  unfold byteWithin require Bytes.byteAt
  cases hb : bytes[i]? with
  | none =>
    have hshort : bytes.length < i + 1 := Nat.lt_succ_of_le (List.getElem?_eq_none_iff.mp hb)
    rw [if_pos hshort]
    rfl
  | some b =>
    obtain ⟨hlt, -⟩ := List.getElem?_eq_some_iff.mp hb
    rw [if_neg (Nat.not_lt.mpr hlt)]
    exact congrArg (fun read => (liftM read : Reading UInt8).run) (byteAt_of_getElem? hb)

theorem sliceWithin_eq (bytes : Bytes) (i n : Nat) :
    (sliceWithin bytes i n).run = .ok (bytes.sliceAt i n) := by
  refine run_bind (require_eq _ _) fun _ h => ?_
  have hle : i + n ≤ bytes.length := le_of_require h
  have hback : i ≤ (bytes.take (i + n)).length := by
    rw [List.length_take]
    omega
  rw [run_lift_bind (front_of_le hle), back_of_le hback, List.drop_take, Nat.add_sub_cancel_left]
  rfl

theorem interfaceByte_eq (counted : Bytes) (t0 flag : UInt8) (i : Nat) :
    (interfaceByte counted t0 flag i).run = .ok (Ats.interfaceByte counted t0 flag i) := by
  unfold interfaceByte Ats.interfaceByte
  split
  · rfl
  · exact run_bind (byteWithin_eq _ _) fun _ _ => rfl

/-- With a length byte and a format byte in front, no difference falls below zero. -/
theorem atsBody_eq {counted : Bytes} (h : 2 ≤ counted.length) (t0 : UInt8) :
    (atsBody counted t0).run = .ok (Ats.Body.parse counted t0) := by
  refine run_bind (interfaceByte_eq _ _ _ _) fun (ta?, i) hta => ?_
  refine run_bind (interfaceByte_eq _ _ _ _) fun (tb?, j) htb => ?_
  refine run_bind (interfaceByte_eq _ _ _ _) fun (tc?, k) htc => ?_
  have hi : i ≤ counted.length := Ats.le_of_interfaceByte hta h
  have hj : j ≤ counted.length := Ats.le_of_interfaceByte htb hi
  have hk : k ≤ counted.length := Ats.le_of_interfaceByte htc hj
  rw [run_lift_bind (minus_of_le hk)]
  exact run_bind (sliceWithin_eq _ _ _) fun _ _ => rfl

/-- Reading an answer to select never faults: it ends with what the plain reading ends with. -/
theorem ats_eq (bytes : Bytes) : (ats bytes).run = .ok (Ats.parse bytes) := by
  refine run_bind (byteWithin_eq _ _) fun tl _ => ?_
  split
  · rfl
  · next hpositive =>
    refine run_bind (require_eq _ _) fun _ h => ?_
    have hle : tl.toNat ≤ bytes.length := le_of_require h
    have hlength : (bytes.take tl.toNat).length = tl.toNat := List.length_take_of_le hle
    rw [run_lift_bind (front_of_le hle)]
    dsimp only
    cases hcounted : bytes.take tl.toNat with
    | nil =>
      rw [hcounted] at hlength
      exact absurd (UInt8.toNat_inj.mp hlength.symm) hpositive
    | cons first rest =>
      cases rest with
      | nil => rfl
      | cons t0 left =>
        have hmore : ¬(first :: t0 :: left).length = 1 := by simp
        have ht0 : byteAt (first :: t0 :: left) 1 = .ok t0 := rfl
        rw [if_neg hmore, run_lift_bind ht0]
        exact run_bind (atsBody_eq (by simp) t0) fun _ _ => rfl

end Checked

end Proximity
