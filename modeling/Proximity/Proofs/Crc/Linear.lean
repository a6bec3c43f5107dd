import Proximity.Crc
import Proximity.Crc.Serial
import Mathlib.Tactic.ByContra
import Mathlib.Tactic.SplitIfs

/-! Maps of registers that respect exclusive or, and are decided by single bits. -/
namespace Proximity.Crc

/-- Keeps `x` where the bit is set. -/
def scale {w : Nat} (bit : Bool) (x : BitVec w) : BitVec w :=
  if bit then x else 0#w

theorem getLsbD_scale {w : Nat} (bit : Bool) (x : BitVec w) (i : Nat) :
    (scale bit x).getLsbD i = (bit && x.getLsbD i) := by
  cases bit <;> simp [scale]

theorem setWidth_succ {w : Nat} (r : BitVec w) (n : Nat) :
    (r.setWidth (n + 1)).setWidth w =
      (r.setWidth n).setWidth w ^^^ scale (r.getLsbD n) (.twoPow w n) := by
  apply BitVec.eq_of_getLsbD_eq
  intro i hi
  simp only [BitVec.getLsbD_xor, BitVec.getLsbD_setWidth, getLsbD_scale, BitVec.getLsbD_twoPow, hi]
  rcases Nat.lt_trichotomy i n with h | rfl | h
  · simp [h, Nat.lt_succ_of_lt h, Nat.ne_of_gt h]
  · simp [hi]
  · simp [Nat.not_lt.mpr h, Nat.not_lt.mpr (Nat.le_of_lt h), Nat.ne_of_lt h]

/-- Respects exclusive or, as every map does that only moves bits and adds them up. -/
def XorLinear {w v : Nat} (f : BitVec w → BitVec v) : Prop :=
  ∀ a b, f (a ^^^ b) = f a ^^^ f b

namespace XorLinear

variable {w v : Nat} {f g : BitVec w → BitVec v}

protected theorem id : XorLinear fun r : BitVec w => r := fun _ _ => rfl

theorem comp {u : Nat} {g : BitVec v → BitVec u} (hg : XorLinear g) (hf : XorLinear f) :
    XorLinear (g ∘ f) := fun a b => by
  rw [Function.comp_apply, hf a b, hg]
  rfl

theorem add (hf : XorLinear f) (hg : XorLinear g) : XorLinear fun r => f r ^^^ g r := by
  intro a b
  simp only [hf a b, hg a b]
  ac_rfl

theorem shiftLeft (hf : XorLinear f) (n : Nat) : XorLinear fun r => f r <<< n := fun a b => by
  simp only [hf a b, BitVec.shiftLeft_xor_distrib]

theorem shiftRight (hf : XorLinear f) (n : Nat) : XorLinear fun r => f r >>> n := fun a b => by
  simp only [hf a b, BitVec.ushiftRight_xor_distrib]

theorem setWidth (hf : XorLinear f) (u : Nat) : XorLinear fun r => (f r).setWidth u :=
  fun a b => by simp only [hf a b, BitVec.setWidth_xor]

theorem scale (i : Nat) (x : BitVec v) : XorLinear fun r : BitVec w => scale (r.getLsbD i) x := by
  intro a b
  simp only [BitVec.getLsbD_xor]
  cases a.getLsbD i <;> cases b.getLsbD i <;> simp [Crc.scale]

theorem iterate {f : BitVec w → BitVec w} (hf : XorLinear f) (n : Nat) :
    XorLinear (Nat.repeat f n) := by
  induction n with
  | zero => exact XorLinear.id
  | succ n ih => exact hf.comp ih

theorem map_zero (hf : XorLinear f) : f 0#w = 0#v := by
  have h := hf 0#w 0#w
  rw [BitVec.xor_self, BitVec.xor_self] at h
  exact h

theorem map_scale (hf : XorLinear f) (bit : Bool) (x : BitVec w) :
    f (Crc.scale bit x) = Crc.scale bit (f x) := by
  cases bit with
  | false => exact hf.map_zero
  | true => rfl

theorem injective (hf : XorLinear f) (h : ∀ r, f r = 0#v → r = 0#w) : Function.Injective f := by
  intro a b hab
  rw [← BitVec.xor_eq_zero_iff]
  apply h
  rw [hf, hab, BitVec.xor_self]

/-- Two maps that agree on single bits agree everywhere. -/
theorem eq_of_eq_twoPow (hf : XorLinear f) (hg : XorLinear g)
    (h : ∀ i < w, f (.twoPow w i) = g (.twoPow w i)) : f = g := by
  funext r
  -- The induction lets the bits of `r` in one by one, from below.
  have low : ∀ n ≤ w, f ((r.setWidth n).setWidth w) = g ((r.setWidth n).setWidth w) := by
    intro n hn
    induction n with
    | zero =>
      rw [BitVec.eq_nil (r.setWidth 0)]
      exact hf.map_zero.trans hg.map_zero.symm
    | succ n ih =>
      rw [setWidth_succ, hf, hg, ih (Nat.le_of_succ_le hn), hf.map_scale, hg.map_scale, h n hn]
  simpa using low w (Nat.le_refl w)

end XorLinear

/-- The sum of the columns that the bits of `r` select. -/
def select {w v : Nat} (column : Nat → BitVec v) (r : BitVec w) : BitVec v :=
  (List.range w).foldr (fun i sum => scale (r.getLsbD i) (column i) ^^^ sum) 0#v

theorem xorLinear_select {w v : Nat} (column : Nat → BitVec v) :
    XorLinear (select column : BitVec w → BitVec v) := by
  unfold select
  induction List.range w with
  | nil => exact fun _ _ => BitVec.xor_self.symm
  | cons i indices ih => exact (XorLinear.scale i (column i)).add ih

theorem foldr_scale_eq {v : Nat} (column : Nat → BitVec v) (i : Nat) {indices : List Nat}
    (h : indices.Nodup) :
    indices.foldr (fun j sum => scale (decide (i = j)) (column j) ^^^ sum) 0#v =
      scale (decide (i ∈ indices)) (column i) := by
  induction indices with
  | nil => rfl
  | cons j indices ih =>
    obtain ⟨hj, hrest⟩ := List.nodup_cons.mp h
    rw [List.foldr_cons, ih hrest]
    by_cases hij : i = j
    · subst hij
      simp [hj, scale]
    · simp [hij, scale]

theorem select_twoPow {w v : Nat} (column : Nat → BitVec v) {i : Nat} (hi : i < w) :
    select column (.twoPow w i) = column i := by
  have hbit : ∀ j, (BitVec.twoPow w i).getLsbD j = decide (i = j) := by simp [hi]
  simp only [select, hbit]
  rw [foldr_scale_eq column i List.nodup_range]
  simp [scale, hi]

theorem shift_eq (r : BitVec 16) :
    Serial.shift r = r >>> 1 ^^^ scale (r.getLsbD 0) 0x8408#16 := by
  unfold Serial.shift scale
  split_ifs
  · rfl
  · exact BitVec.xor_zero.symm

theorem xorLinear_shift : XorLinear Serial.shift := by
  rw [funext shift_eq]
  exact (XorLinear.id.shiftRight 1).add (.scale 0 _)

theorem shift_twoPow {i : Nat} (hi : i + 1 < 16) :
    Serial.shift (.twoPow 16 (i + 1)) = .twoPow 16 i := by
  have hall : ∀ i < 15, Serial.shift (.twoPow 16 (i + 1)) = .twoPow 16 i := by decide
  exact hall i (Nat.lt_of_succ_lt_succ hi)

/-- A set bit moves down by one place or, from the bottom, back to the top. -/
theorem exists_getLsbD_shift {r : BitVec 16} {i : Nat} (h : r.getLsbD i = true) :
    ∃ j, i - 1 ≤ j ∧ (Serial.shift r).getLsbD j = true := by
  have hi : i < 16 := BitVec.lt_of_getLsbD h
  cases hlow : r.getLsbD 0 with
  | true =>
    refine ⟨15, by omega, ?_⟩
    rw [shift_eq, hlow, scale, BitVec.getLsbD_xor, BitVec.getLsbD_ushiftRight]
    simp
  | false =>
    cases i with
    | zero => exact absurd h (by rw [hlow]; decide)
    | succ i =>
      refine ⟨i, Nat.le_refl i, ?_⟩
      rw [shift_eq, hlow, scale, BitVec.getLsbD_xor, BitVec.getLsbD_ushiftRight, Nat.add_comm, h]
      simp

theorem shift_eq_zero {r : BitVec 16} (h : Serial.shift r = 0#16) : r = 0#16 := by
  apply BitVec.eq_of_getLsbD_eq
  intro i _
  rw [BitVec.getLsbD_zero]
  by_contra hi
  obtain ⟨j, -, hj⟩ := exists_getLsbD_shift (eq_true_of_ne_false hi)
  rw [h, BitVec.getLsbD_zero] at hj
  cases hj

theorem shift_injective : Function.Injective Serial.shift :=
  xorLinear_shift.injective fun _ => shift_eq_zero

/-- What a byte that is mixed with the low half of the register leaves there. -/
def spread (mixed : BitVec 8) : BitVec 16 :=
  let folded := (mixed ^^^ mixed <<< 4).setWidth 16
  folded <<< 8 ^^^ folded <<< 3 ^^^ folded >>> 4

theorem step_eq (r : BitVec 16) (b : UInt8) :
    step r b = r >>> 8 ^^^ spread (b.toBitVec ^^^ r.setWidth 8) := by
  simp only [step, spread, BitVec.xor_assoc]

theorem xorLinear_spread : XorLinear spread := by
  have hfolded : XorLinear fun mixed : BitVec 8 => (mixed ^^^ mixed <<< 4).setWidth 16 :=
    (XorLinear.id.add (XorLinear.id.shiftLeft 4)).setWidth 16
  exact ((hfolded.shiftLeft 8).add (hfolded.shiftLeft 3)).add (hfolded.shiftRight 4)

/-- Takes a byte into the register and respects exclusive or in both together. -/
def Intake (f : BitVec 16 → UInt8 → BitVec 16) : Prop :=
  ∀ r s a b, f (r ^^^ s) (a ^^^ b) = f r a ^^^ f s b

/-- Register and byte act apart, and single bits decide each. -/
theorem Intake.eq_of_eq_twoPow {f g : BitVec 16 → UInt8 → BitVec 16} (hf : Intake f)
    (hg : Intake g) (hregister : ∀ i < 16, f (.twoPow 16 i) 0 = g (.twoPow 16 i) 0)
    (hbyte : ∀ i < 8, f 0#16 ⟨.twoPow 8 i⟩ = g 0#16 ⟨.twoPow 8 i⟩) : f = g := by
  have hleft : (f · 0) = (g · 0) :=
    XorLinear.eq_of_eq_twoPow (fun r s => hf r s 0 0) (fun r s => hg r s 0 0) hregister
  have hright : (fun x : BitVec 8 => f 0#16 ⟨x⟩) = fun x => g 0#16 ⟨x⟩ :=
    XorLinear.eq_of_eq_twoPow (fun x y => hf 0#16 0#16 ⟨x⟩ ⟨y⟩) (fun x y => hg 0#16 0#16 ⟨x⟩ ⟨y⟩)
      hbyte
  have hapart {k : BitVec 16 → UInt8 → BitVec 16} (hk : Intake k) (r : BitVec 16) (b : UInt8) :
      k r b = k r 0 ^^^ k 0#16 b := by
    rw [← hk, BitVec.xor_zero, UInt8.zero_xor]
  funext r b
  calc
    f r b = f r 0 ^^^ f 0#16 b := hapart hf r b
    _ = g r 0 ^^^ g 0#16 b :=
      congr (congrArg HXor.hXor (congrFun hleft r)) (congrFun hright b.toBitVec)
    _ = g r b := (hapart hg r b).symm

theorem intake_step : Intake step := by
  intro r s a b
  have hmixed : (a ^^^ b).toBitVec ^^^ (r ^^^ s).setWidth 8 =
      (a.toBitVec ^^^ r.setWidth 8) ^^^ (b.toBitVec ^^^ s.setWidth 8) := by
    rw [UInt8.toBitVec_xor, BitVec.setWidth_xor]
    ac_rfl
  rw [step_eq, step_eq, step_eq, hmixed, xorLinear_spread, BitVec.ushiftRight_xor_distrib]
  ac_rfl

end Proximity.Crc
