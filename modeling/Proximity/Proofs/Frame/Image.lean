import Proximity.Proofs.Frame.Codec
import Mathlib.Data.List.Basic

/-! Reading accepts exactly what sealing writes, and says why it refuses anything else. -/
namespace Proximity

/-- What ends in a checksum or a status word is cut before its last two bytes. -/
theorem Bytes.exists_append_pair {bytes : Bytes} (h : 2 ≤ bytes.length) :
    ∃ front a b, bytes = front ++ [a, b] := by
  have hback : (bytes.drop (bytes.length - 2)).length = 2 := by
    rw [List.length_drop]
    omega
  obtain ⟨a, b, hdrop⟩ := List.length_eq_two.mp hback
  refine ⟨bytes.take (bytes.length - 2), a, b, ?_⟩
  rw [← hdrop, List.take_append_drop]

namespace Frame

theorem ofBytes?_eq_some_iff {raw : Bytes} {frame : Frame} :
    ofBytes? raw = some frame ↔ raw = frame.toBytes := by
  constructor
  · intro h
    unfold ofBytes? at h
    split at h
    · next pcb inf low high htake hdrop =>
      cases h
      have hraw := List.take_append_drop (raw.length - 2) raw
      rw [htake, hdrop] at hraw
      exact hraw.symm
    · cases h
  · rintro rfl
    exact ofBytes?_toBytes frame

theorem toBytes_injective : Function.Injective toBytes := by
  intro frame other h
  exact Option.some.inj ((ofBytes?_eq_some_iff.mpr h).symm.trans (ofBytes?_toBytes frame)).symm

theorem exists_toBytes_iff {raw : Bytes} : (∃ frame : Frame, raw = frame.toBytes) ↔ 3 ≤ raw.length := by
  constructor
  · rintro ⟨frame, rfl⟩
    rw [length_toBytes, overhead]
    exact Nat.le_add_left 3 _
  · intro h
    obtain ⟨front, low, high, rfl⟩ := Bytes.exists_append_pair (Nat.le_of_succ_le h)
    have hfront : 0 < front.length := by
      rw [List.length_append, List.length_cons, List.length_singleton] at h
      omega
    obtain ⟨pcb, inf, rfl⟩ := List.exists_cons_of_length_pos hfront
    exact ⟨⟨pcb, inf, ⟨low, high⟩⟩, rfl⟩

theorem eq_sealed {frame : Frame} (h : frame.trailer = frame.checksum) :
    frame = sealed frame.pcb frame.inf := by
  rw [sealed, ← checksum, ← h]

theorem inf_eq_take_drop (frame : Frame) :
    frame.inf = (frame.toBytes.drop 1).take (frame.toBytes.length - 3) := by
  have hlength : frame.toBytes.length - 3 = frame.inf.length := by
    rw [length_toBytes, overhead]
    omega
  rw [hlength]
  exact List.take_left.symm

end Frame

namespace Block

/-- What a frame of this content says. Its kind stands in the two top bits of the control byte, and
only information and supervisory blocks hand the field on. -/
def Conveys (pcb : Pcb) (inf : Bytes) (block : Block) : Prop :=
  match block with
  | .information p payload => p = pcb ∧ payload = inf ∧ pcb.toNat / 64 = 0 ∧
    ∃ n, block.number? = some n ∧ n.toNat = pcb.toNat % 2
  | .reserved p => p = pcb ∧ pcb.toNat / 64 = 1
  | .acknowledge p => p = pcb ∧ pcb.toNat / 64 = 2
  | .supervisory p payload => p = pcb ∧ payload = inf ∧ pcb.toNat / 64 = 3 ∧
    ∃ asks, block.isExtension? = some asks ∧ (asks = true ↔ pcb = 0xF2)

theorem conveys_ofFrame (frame : Frame) : (ofFrame frame).Conveys frame.pcb frame.inf := by
  have hbits := frame.pcb.toNat_div_eq
  unfold ofFrame
  cases hk : frame.pcb.kind with
  | information =>
    rw [hk] at hbits
    exact ⟨rfl, rfl, hbits, _, rfl, frame.pcb.toNat_number⟩
  | acknowledge =>
    rw [hk] at hbits
    exact ⟨rfl, hbits⟩
  | supervisory =>
    rw [hk] at hbits
    exact ⟨rfl, rfl, hbits, _, rfl, Pcb.isExtension_iff hk⟩
  | reserved =>
    rw [hk] at hbits
    exact ⟨rfl, hbits⟩

theorem decode_of_length_lt {raw : Bytes} (h : raw.length < 3) :
    decode raw = .error (.tooShort raw.length) := by
  unfold decode
  cases hcut : Frame.ofBytes? raw with
  | none => rfl
  | some frame =>
    have hlong := Frame.exists_toBytes_iff.mp ⟨frame, Frame.ofBytes?_eq_some_iff.mp hcut⟩
    omega

/-- What is accepted was sealed. -/
theorem decode_eq_ok_iff {raw : Bytes} {block : Block} :
    decode raw = .ok block ↔
      ∃ pcb inf, raw = (Frame.sealed pcb inf).toBytes ∧ block = ofFrame (Frame.sealed pcb inf) := by
  constructor
  · intro h
    have hlong : 3 ≤ raw.length := by
      by_contra hshort
      rw [decode_of_length_lt (Nat.not_le.mp hshort)] at h
      cases h
    obtain ⟨frame, rfl⟩ := Frame.exists_toBytes_iff.mpr hlong
    rw [decode_toBytes] at h
    split_ifs at h with hcheck
    have hsealed : frame = Frame.sealed frame.pcb frame.inf := Frame.eq_sealed hcheck
    cases h
    exact ⟨frame.pcb, frame.inf, congrArg Frame.toBytes hsealed, congrArg ofFrame hsealed⟩
  · rintro ⟨pcb, inf, rfl, rfl⟩
    exact decode_sealed pcb inf

theorem ofFrame_eq_information_iff {frame : Frame} {pcb : Pcb} {payload : Bytes} :
    ofFrame frame = .information pcb payload ↔
      frame.pcb.kind = .information ∧ frame.pcb = pcb ∧ frame.inf = payload := by
  unfold ofFrame
  cases frame.pcb.kind <;> simp

theorem ofFrame_eq_supervisory_iff {frame : Frame} {pcb : Pcb} {payload : Bytes} :
    ofFrame frame = .supervisory pcb payload ↔
      frame.pcb.kind = .supervisory ∧ frame.pcb = pcb ∧ frame.inf = payload := by
  unfold ofFrame
  cases frame.pcb.kind <;> simp

/-- A block that tells all the content of its frame is read of the one string that seals it. -/
theorem decode_eq_ok_iff_sealed {raw inf : Bytes} {block : Block} {pcb : Pcb} {kind : Kind}
    (h : ∀ frame, ofFrame frame = block ↔
      frame.pcb.kind = kind ∧ frame.pcb = pcb ∧ frame.inf = inf) :
    decode raw = .ok block ↔ pcb.kind = kind ∧ raw = (Frame.sealed pcb inf).toBytes := by
  constructor
  · intro hd
    obtain ⟨other, field, rfl, hblock⟩ := decode_eq_ok_iff.mp hd
    obtain ⟨hkind, rfl, rfl⟩ := (h _).mp hblock.symm
    exact ⟨hkind, rfl⟩
  · rintro ⟨hkind, rfl⟩
    rw [decode_sealed]
    exact congrArg Except.ok ((h _).mpr ⟨hkind, rfl, rfl⟩)

theorem decode_eq_information_iff {raw inf : Bytes} {pcb : Pcb} :
    decode raw = .ok (.information pcb inf) ↔
      pcb.kind = .information ∧ raw = (Frame.sealed pcb inf).toBytes :=
  decode_eq_ok_iff_sealed fun _ => ofFrame_eq_information_iff

theorem decode_eq_supervisory_iff {raw inf : Bytes} {pcb : Pcb} :
    decode raw = .ok (.supervisory pcb inf) ↔
      pcb.kind = .supervisory ∧ raw = (Frame.sealed pcb inf).toBytes :=
  decode_eq_ok_iff_sealed fun _ => ofFrame_eq_supervisory_iff

theorem field_of_decode {raw inf : Bytes} {pcb : Pcb}
    (h : decode raw = .ok (.information pcb inf)) :
    raw.length = inf.length + 3 ∧ inf = (raw.drop 1).take (raw.length - 3) := by
  obtain ⟨-, rfl⟩ := decode_eq_information_iff.mp h
  exact ⟨Frame.length_toBytes _, Frame.inf_eq_take_drop (Frame.sealed pcb inf)⟩

/-- A refusal tells the length, or the checksum that is due and the other one that is there. -/
theorem refusal_of_decode_eq_error {raw : Bytes} {e : FrameError} (h : decode raw = .error e) :
    (raw.length < 3 ∧ e = .tooShort raw.length) ∨
      3 ≤ raw.length ∧ ∃ actual : Crc.Trailer, actual.toBytes = raw.drop (raw.length - 2) ∧
        Crc.trailer (raw.take (raw.length - 2)) ≠ actual ∧
        e = .crcMismatch (Crc.trailer (raw.take (raw.length - 2))) actual := by
  rcases Nat.lt_or_ge raw.length 3 with hshort | hlong
  · rw [decode_of_length_lt hshort] at h
    cases h
    exact .inl ⟨hshort, rfl⟩
  · obtain ⟨frame, rfl⟩ := Frame.exists_toBytes_iff.mpr hlong
    rw [decode_toBytes] at h
    split_ifs at h with hcheck
    cases h
    rw [Frame.take_toBytes, Frame.drop_toBytes]
    exact .inr ⟨hlong, frame.trailer, rfl, Ne.symm hcheck, rfl⟩

/-- Reading and sealing are inverse to each other, and a refusal gives its reason. -/
theorem decode_exact :
    (∀ raw, (∃ block, decode raw = .ok block) ↔
      ∃! content : Pcb × Bytes, raw = Crc.append (content.1 :: content.2)) ∧
    (∀ pcb inf, ∃ block, decode (Frame.sealed pcb inf).toBytes = .ok block ∧
      block.Conveys pcb inf) ∧
    (∀ (n : BlockNumber) (payload : Bytes) (limit : Nat), payload.length ≤ limit →
      ∃ frame pcb, Frame.information n payload limit = .ok frame ∧
        decode frame.toBytes = .ok (.information pcb payload) ∧
        pcb.toNat = 2 ||| n.toNat ∧ (information pcb payload).number? = some n) ∧
    (∀ raw pcb payload limit, decode raw = .ok (.information pcb payload) →
      pcb = 0x02 ∨ pcb = 0x03 → payload.length ≤ limit →
      ∃ n frame, (information pcb payload).number? = some n ∧
        Frame.information n payload limit = .ok frame ∧ raw = frame.toBytes) ∧
    ∀ raw e, decode raw = .error e →
      (raw.length < 3 ∧ e = .tooShort raw.length) ∨
        3 ≤ raw.length ∧ ∃ actual : Crc.Trailer, actual.toBytes = raw.drop (raw.length - 2) ∧
          Crc.trailer (raw.take (raw.length - 2)) ≠ actual ∧
          e = .crcMismatch (Crc.trailer (raw.take (raw.length - 2))) actual := by
  refine ⟨fun raw => ⟨?_, ?_⟩, ?_, ?_, ?_, fun raw e h => refusal_of_decode_eq_error h⟩
  · rintro ⟨block, h⟩
    obtain ⟨pcb, inf, rfl, -⟩ := decode_eq_ok_iff.mp h
    refine ⟨(pcb, inf), Frame.toBytes_sealed pcb inf, ?_⟩
    rintro ⟨other, field⟩ hother
    obtain ⟨rfl, rfl, -⟩ := Frame.mk.inj (Frame.toBytes_injective hother)
    rfl
  · rintro ⟨⟨pcb, inf⟩, rfl, -⟩
    exact ⟨_, decode_sealed pcb inf⟩
  · intro pcb inf
    exact ⟨_, decode_sealed pcb inf, conveys_ofFrame (Frame.sealed pcb inf)⟩
  · intro n payload limit fits
    refine ⟨_, Pcb.information n, Frame.information_of_le fits n, decode_information n payload, ?_⟩
    cases n <;> exact ⟨rfl, rfl⟩
  · intro raw pcb payload limit h hpcb fits
    obtain ⟨other, inf, rfl, hblock⟩ := decode_eq_ok_iff.mp h
    have hcontent := conveys_ofFrame (Frame.sealed other inf)
    rw [← hblock] at hcontent
    obtain ⟨rfl, rfl, -⟩ := hcontent
    refine ⟨pcb.number, _, rfl, Frame.information_of_le fits pcb.number, ?_⟩
    rcases hpcb with rfl | rfl <;> rfl

theorem decode_exact_answer :
    let answer : Bytes := [0x02, 0x90, 0x00, 0xF1, 0x09]
    let garbled : Bytes := [0x02, 0x90, 0x00, 0xF1, 0xF6]
    decode answer = .ok (.information 0x02 [0x90, 0x00]) ∧
      (∃! content : Pcb × Bytes, answer = Crc.append (content.1 :: content.2)) ∧
      (∃ n frame, (information 0x02 [0x90, 0x00]).number? = some n ∧
        Frame.information n [0x90, 0x00] 2 = .ok frame ∧ answer = frame.toBytes) ∧
      decode garbled = .error (.crcMismatch ⟨0xF1, 0x09⟩ ⟨0xF1, 0xF6⟩) ∧
      (⟨0xF1, 0x09⟩ : Crc.Trailer) ≠ ⟨0xF1, 0xF6⟩ := by
  intro answer garbled
  have hanswer : decode answer = .ok (.information 0x02 [0x90, 0x00]) := by decide
  have hgarbled : decode garbled = .error (.crcMismatch ⟨0xF1, 0x09⟩ ⟨0xF1, 0xF6⟩) := by decide
  refine ⟨hanswer, (decode_exact.1 answer).mp ⟨_, hanswer⟩,
    decode_exact.2.2.2.1 answer 0x02 [0x90, 0x00] 2 hanswer (.inl rfl) (by decide), hgarbled, ?_⟩
  rcases decode_exact.2.2.2.2 garbled _ hgarbled with ⟨hshort, -⟩ | ⟨-, actual, -, hne, he⟩
  · exact absurd hshort (by decide)
  · obtain ⟨hexpected, hactual⟩ := FrameError.crcMismatch.inj he
    rw [hexpected, hactual]
    exact hne

end Block

end Proximity
