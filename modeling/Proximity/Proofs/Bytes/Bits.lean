import Proximity.Bytes
import Mathlib.Data.List.Basic

/-! Byte strings as the bits they are on the wire: bytes in order, each from its lowest bit up. -/
namespace Proximity.Bytes

def bitsOf (b : UInt8) : List Bool :=
  (List.range 8).map b.toBitVec.getLsbD

def bits (bytes : Bytes) : List Bool :=
  bytes.flatMap bitsOf

/-- Two strings of one length laid over each other. -/
def xor (left right : Bytes) : Bytes :=
  List.zipWith (· ^^^ ·) left right

/-- The string with its bit `p` inverted, in wire order. -/
def flip (bytes : Bytes) (p : Nat) : Bytes :=
  bytes.modify (p / 8) (· ^^^ 1 <<< UInt8.ofNat (p % 8))

theorem length_xor {left right : Bytes} (h : left.length = right.length) :
    (xor left right).length = left.length := by
  rw [xor, List.length_zipWith, h, Nat.min_self]

@[simp] theorem length_flip (bytes : Bytes) (p : Nat) : (flip bytes p).length = bytes.length :=
  List.length_modify ..

@[simp] theorem length_bitsOf (b : UInt8) : (bitsOf b).length = 8 := by
  rw [bitsOf, List.length_map, List.length_range]

@[simp] theorem bits_cons (b : UInt8) (bytes : Bytes) :
    bits (b :: bytes) = bitsOf b ++ bits bytes := rfl

@[simp] theorem length_bits (bytes : Bytes) : bytes.bits.length = 8 * bytes.length := by
  induction bytes with
  | nil => rfl
  | cons b bytes ih =>
    rw [bits_cons, List.length_append, length_bitsOf, ih, List.length_cons]
    omega

theorem bitsOf_xor (a b : UInt8) :
    bitsOf (a ^^^ b) = List.zipWith Bool.xor (bitsOf a) (bitsOf b) := by
  simp only [bitsOf, List.zipWith_map, List.zipWith_self, UInt8.toBitVec_xor]
  exact List.map_congr_left fun i _ => BitVec.getLsbD_xor

theorem bits_xor {left right : Bytes} (h : left.length = right.length) :
    (xor left right).bits = List.zipWith Bool.xor left.bits right.bits := by
  induction left generalizing right with
  | nil => rfl
  | cons a left ih =>
    cases right with
    | nil => cases h
    | cons b right =>
      have hhead : (bitsOf a).length = (bitsOf b).length := by rw [length_bitsOf, length_bitsOf]
      rw [bits_cons, bits_cons, List.zipWith_append hhead, ← bitsOf_xor, ← ih (Nat.succ.inj h)]
      rfl

/-- Which bit stands where: eight to a byte. -/
theorem getElem?_bits (bytes : Bytes) (p : Nat) :
    bytes.bits[p]? = bytes[p / 8]?.map (·.toBitVec.getLsbD (p % 8)) := by
  induction bytes generalizing p with
  | nil => rfl
  | cons b bytes ih =>
    rw [bits_cons, List.getElem?_append, length_bitsOf]
    by_cases hp : p < 8
    · have hdiv : p / 8 = 0 := by omega
      have hmod : p % 8 = p := by omega
      simp [hp, hdiv, hmod, bitsOf]
    · have hdiv : p / 8 = (p - 8) / 8 + 1 := by omega
      have hmod : p % 8 = (p - 8) % 8 := by omega
      rw [if_neg hp, ih, hdiv, hmod, List.getElem?_cons_succ]

theorem getLsbD_flip (b : UInt8) {i j : Nat} (hi : i < 8) (hj : j < 8) :
    (b ^^^ 1 <<< UInt8.ofNat i).toBitVec.getLsbD j =
      if i = j then !b.toBitVec.getLsbD j else b.toBitVec.getLsbD j := by
  have hone : ∀ i < 8, ∀ j < 8,
      ((1 : UInt8) <<< UInt8.ofNat i).toBitVec.getLsbD j = decide (i = j) := by decide
  rw [UInt8.toBitVec_xor, BitVec.getLsbD_xor, hone i hi j hj]
  split_ifs with h <;> simp [h]

theorem bits_flip (bytes : Bytes) (p : Nat) : (flip bytes p).bits = bytes.bits.modify p not := by
  apply List.ext_getElem?
  intro q
  rw [getElem?_bits, flip, List.getElem?_modify, List.getElem?_modify, getElem?_bits]
  simp only [Option.map_eq_map, Option.map_map]
  congr 1
  funext b
  simp only [Function.comp_apply]
  by_cases hbyte : p / 8 = q / 8
  · rw [if_pos hbyte, getLsbD_flip b (Nat.mod_lt p (by decide)) (Nat.mod_lt q (by decide))]
    have hbit : p % 8 = q % 8 ↔ p = q := by omega
    simp only [hbit]
  · have hne : p ≠ q := by
      rintro rfl
      exact hbyte rfl
    rw [if_neg hbyte, if_neg hne]

end Proximity.Bytes
