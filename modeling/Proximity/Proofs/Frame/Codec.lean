import Proximity.Block
import Proximity.Proofs.Frame.ControlByte

/-! Reading back the frames that are written. -/
namespace Proximity

namespace Frame

@[simp] theorem length_toBytes (frame : Frame) :
    frame.toBytes.length = frame.inf.length + overhead := by
  simp [toBytes, Crc.Trailer.toBytes, overhead]

theorem take_toBytes (frame : Frame) :
    frame.toBytes.take (frame.toBytes.length - 2) = frame.pcb :: frame.inf := by
  have hcut : frame.toBytes.length - 2 = (frame.pcb :: frame.inf).length := by simp [overhead]
  rw [hcut]
  exact List.take_left

theorem drop_toBytes (frame : Frame) :
    frame.toBytes.drop (frame.toBytes.length - 2) = frame.trailer.toBytes := by
  have hcut : frame.toBytes.length - 2 = (frame.pcb :: frame.inf).length := by simp [overhead]
  rw [hcut]
  exact List.drop_left

theorem ofBytes?_toBytes (frame : Frame) : ofBytes? frame.toBytes = some frame := by
  unfold ofBytes?
  rw [take_toBytes, drop_toBytes]
  rfl

theorem information_of_le {payload : Bytes} {limit : Nat} (h : payload.length ≤ limit)
    (n : BlockNumber) :
    information n payload limit = .ok (sealed (Pcb.information n) payload) :=
  if_neg (Nat.not_lt.mpr h)

end Frame

namespace Block

theorem decode_toBytes (frame : Frame) :
    decode frame.toBytes =
      if frame.trailer = frame.checksum then .ok (ofFrame frame)
      else .error (.crcMismatch frame.checksum frame.trailer) := by
  rw [decode, Frame.ofBytes?_toBytes]

/-- A frame that carries its own checksum is intact. -/
theorem decode_sealed (pcb : Pcb) (inf : Bytes) :
    decode (Frame.sealed pcb inf).toBytes = .ok (ofFrame (Frame.sealed pcb inf)) :=
  (decode_toBytes _).trans (if_pos rfl)

theorem decode_sealed_information {pcb : Pcb} (hk : pcb &&& Pcb.kindMask = Pcb.informationBits)
    (inf : Bytes) : decode (Frame.sealed pcb inf).toBytes = .ok (.information pcb inf) := by
  have hkind : pcb.kind = .information := if_pos hk
  rw [decode_sealed]
  simp only [ofFrame, Frame.sealed, hkind]

theorem decode_information (n : BlockNumber) (inf : Bytes) :
    decode (Frame.sealed (Pcb.information n) inf).toBytes = .ok (.information (.information n) inf) :=
  decode_sealed_information (by cases n <;> rfl) inf

/-- Requests for extension and their acknowledgements read alike. -/
theorem decode_extension (inf : Bytes) :
    decode (Frame.sealed Pcb.extension inf).toBytes = .ok (.supervisory Pcb.extension inf) := by
  have hkind : Pcb.extension.kind = .supervisory := by decide
  rw [decode_sealed]
  simp only [ofFrame, Frame.sealed, hkind]

theorem kind_of_decode_supervisory {raw payload : Bytes} {pcb : Pcb}
    (h : decode raw = .ok (.supervisory pcb payload)) : pcb.kind = .supervisory := by
  unfold decode at h
  split at h
  · cases h
  · next frame _ =>
    split_ifs at h
    unfold ofFrame at h
    split at h <;> cases h
    assumption

end Block

end Proximity
