import Proximity.Apdu
import Proximity.Proofs.Frame.Image

/-! Splitting a response and putting it together again. -/
namespace Proximity

theorem Bytes.wordAt_append_pair (front : Bytes) (a b : UInt8) :
    wordAt (front ++ [a, b]) front.length = .ok (a.toUInt16 <<< 8 ||| b.toUInt16) := by
  rw [wordAt, List.drop_left]

namespace ResponseApdu

theorem parse_of_short {bytes : Bytes} (h : bytes.length < 2) :
    parse bytes = .error ⟨2, bytes.length⟩ := by
  unfold parse
  split
  · next sw1 sw2 hdrop =>
    have hlength := congrArg List.length hdrop
    rw [List.length_drop, List.length_cons, List.length_singleton] at hlength
    omega
  · rfl

theorem parse_append (data : Bytes) (sw1 sw2 : UInt8) :
    parse (data ++ [sw1, sw2]) = .ok ⟨data, ⟨sw1, sw2⟩⟩ := by
  have hcut : (data ++ [sw1, sw2]).length - 2 = data.length := by
    rw [List.length_append, List.length_cons, List.length_singleton, Nat.add_sub_cancel]
  rw [parse, hcut, List.drop_left, List.take_left]

theorem isSuccess_iff (data : Bytes) (sw1 sw2 : UInt8) :
    (⟨data, ⟨sw1, sw2⟩⟩ : ResponseApdu).isSuccess = true ↔ [0x90, 0x00] <:+ data ++ [sw1, sw2] := by
  rw [isSuccess, StatusWord.isSuccess, StatusWord.success, beq_iff_eq, StatusWord.mk.injEq]
  constructor
  · rintro ⟨rfl, rfl⟩
    exact List.suffix_append data [0x90, 0x00]
  · rintro ⟨front, h⟩
    obtain ⟨-, hpair⟩ := List.append_inj' h rfl
    obtain ⟨hsw1, hsw2⟩ := List.cons.inj hpair
    exact ⟨hsw1.symm, (List.cons.inj hsw2).1.symm⟩

end ResponseApdu

end Proximity
