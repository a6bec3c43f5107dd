import Proximity.Checked
import Proximity.Proofs.Apdu.Split
import Proximity.Proofs.Session.Atomicity

/-! No fault in a session but the one that is announced, for requests that fit no frame. -/
namespace Proximity

theorem Crc.Trailer.toBytes_inj {t u : Crc.Trailer} : t.toBytes = u.toBytes ↔ t = u := by
  obtain ⟨low, high⟩ := t
  obtain ⟨low', high'⟩ := u
  simp [Crc.Trailer.toBytes]

namespace Session

variable {σ : Type} [Link σ]

theorem request_eq_requestInto (s : Session .active σ) (bytes : Bytes) :
    s.request bytes =
      (s.requestInto bytes (Bytes.zeros s.config.maxResponse)).map Checked.response := by
  rw [request, requestInto, Bytes.length_zeros]
  generalize s.transact bytes s.config.maxResponse = turn
  obtain ⟨result, session, log⟩ := turn
  cases result with
  | error e => rfl
  | ok payload =>
    change _ = (⟨.ok ((Bytes.overwrite _ payload).take payload.length), session, log⟩ :
      Turn σ (Except Failure Bytes))
    rw [Bytes.take_overwrite]

theorem request_of_oversized (s : Session .active σ) {bytes : Bytes}
    (h : s.config.maxPayload < bytes.length) :
    s.request bytes = ⟨.error (.oversized ⟨bytes.length, s.config.maxPayload⟩), s, []⟩ :=
  s.transact_of_oversized h _

theorem requestApdu_of_oversized (s : Session .active σ) {bytes : Bytes}
    (h : s.config.maxPayload < bytes.length) :
    s.requestApdu bytes =
      ⟨.error (.attempt (.oversized ⟨bytes.length, s.config.maxPayload⟩)), s, []⟩ := by
  rw [requestApdu, s.request_of_oversized h]
  rfl

end Session

namespace Checked

section
variable {α β : Type}

@[simp] theorem ok_bind (a : α) (f : α → Except Fault β) :
    ((.ok a : Except Fault α) >>= f) = f a := rfl

@[simp] theorem pure_eq (a : α) : (pure a : Except Fault α) = .ok a := rfl

/-- What is guarded by a single condition faults on that condition. -/
theorem exists_fault_iff {c : Prop} [Decidable c] {announced : Fault} {a : α} :
    (∃ fault, (if c then .error announced else .ok a : Except Fault α) = .error fault) ↔ c := by
  by_cases h : c
  · rw [if_pos h]
    exact ⟨fun _ => h, fun _ => ⟨announced, rfl⟩⟩
  · rw [if_neg h]
    refine ⟨?_, fun hc => absurd hc h⟩
    rintro ⟨fault, hfault⟩
    cases hfault

end

theorem minus_of_le {a b : Nat} (h : b ≤ a) : minus a b = .ok (a - b) :=
  if_neg (Nat.not_lt.mpr h)

theorem front_of_le {bytes : Bytes} {i : Nat} (h : i ≤ bytes.length) :
    front bytes i = .ok (bytes.take i) :=
  if_neg (Nat.not_lt.mpr h)

theorem back_of_le {bytes : Bytes} {i : Nat} (h : i ≤ bytes.length) :
    back bytes i = .ok (bytes.drop i) :=
  if_neg (Nat.not_lt.mpr h)

theorem copy_of_le {buffer bytes : Bytes} (h : bytes.length ≤ buffer.length) :
    copy buffer bytes = .ok (Bytes.overwrite buffer bytes) :=
  if_neg (Nat.not_lt.mpr h)

theorem byteAt_of_getElem? {bytes : Bytes} {i : Nat} {b : UInt8} (h : bytes[i]? = some b) :
    byteAt bytes i = .ok b := by
  rw [byteAt, h]

/-- Three bytes are enough for every cut, and fewer are not cut at all. -/
theorem decode_eq (raw : Bytes) : decode raw = .ok (Block.decode raw) := by
  unfold decode Frame.minLength
  by_cases hshort : raw.length < 3
  · rw [if_pos hshort, Block.decode_of_length_lt hshort]
  · rw [if_neg hshort]
    obtain ⟨frame, rfl⟩ := Frame.exists_toBytes_iff.mpr (Nat.not_lt.mp hshort)
    have hcut : minus frame.toBytes.length 2 = .ok (frame.toBytes.length - 2) :=
      minus_of_le (by omega)
    have hbody : front frame.toBytes (frame.toBytes.length - 2) = .ok (frame.pcb :: frame.inf) := by
      rw [front_of_le (Nat.sub_le _ _), Frame.take_toBytes]
    have htrailer : back frame.toBytes (frame.toBytes.length - 2) = .ok frame.trailer.toBytes := by
      rw [back_of_le (Nat.sub_le _ _), Frame.drop_toBytes]
    have hinf : back (frame.pcb :: frame.inf) 1 = .ok frame.inf :=
      back_of_le (Nat.le_add_left 1 _)
    have hpcb : byteAt (frame.pcb :: frame.inf) 0 = .ok frame.pcb := rfl
    have hlow : byteAt frame.trailer.toBytes 0 = .ok frame.trailer.low := rfl
    have hhigh : byteAt frame.trailer.toBytes 1 = .ok frame.trailer.high := rfl
    rw [hcut, ok_bind, hbody, ok_bind, htrailer, ok_bind, Block.decode_toBytes]
    change (if frame.trailer.toBytes = frame.checksum.toBytes then _ else _) = _
    by_cases hcheck : frame.trailer = frame.checksum
    · have hframe : (⟨frame.pcb, frame.inf, Crc.trailer (frame.pcb :: frame.inf)⟩ : Frame) = frame :=
        (Frame.eq_sealed hcheck).symm
      rw [if_pos (Crc.Trailer.toBytes_inj.mpr hcheck), if_pos hcheck, hpcb, ok_bind, hinf, ok_bind,
        hframe]
      rfl
    · rw [if_neg (fun h => hcheck (Crc.Trailer.toBytes_inj.mp h)), if_neg hcheck, hlow, ok_bind,
        hhigh, ok_bind]
      rfl

/-- What is recorded is cut at or before its end, and what is copied was found to fit. -/
theorem exchange_eq (card : ScriptedCard) (frame : Bytes) (bits : Nat) (buffer : Bytes)
    (wait : UInt64) :
    exchange card frame bits buffer wait = .ok (Link.exchange card frame bits buffer wait) := by
  have hsent : front frame (min ((bits + 7) / 8) frame.length) =
      .ok (ScriptedCard.transmitted frame bits) := by
    rw [front_of_le (Nat.min_le_right _ _), ScriptedCard.transmitted, ← List.take_eq_take_min]
  unfold exchange
  rw [hsent, ok_bind]
  change _ = Except.ok (⟨(ScriptedCard.receive buffer card.next?).1, _, _⟩ : Exchanged ScriptedCard)
  cases card.next? with
  | none => rfl
  | some reply =>
    cases reply with
    | fail e => rfl
    | answer answer bits =>
      by_cases hroom : buffer.length < answer.length
      · simp [ScriptedCard.receive, hroom]
      · simp [ScriptedCard.receive, hroom, copy_of_le (Nat.not_lt.mp hroom)]

theorem listen_eq (link : Handle ScriptedCard) (frame buffer : Bytes) (wait : UInt64) :
    listen link frame buffer wait = .ok (Attempt.listen link frame buffer wait) := by
  have hpassed : Link.exchangeBytes link frame buffer wait =
      (Link.exchange link.link frame (8 * frame.length) buffer wait).map Handle.mk := rfl
  unfold listen Attempt.listen
  rw [exchange_eq, ok_bind, hpassed]
  generalize Link.exchange link.link frame (8 * frame.length) buffer wait = done
  obtain ⟨outcome, received, card⟩ := done
  cases outcome with
  | error e => rfl
  | ok bits =>
    dsimp only [Exchanged.map]
    split
    · rfl
    · rw [front_of_le (Nat.min_le_right _ _), ← List.take_eq_take_min]
      rfl

theorem reaction_decode (raw : Bytes) : reaction (Block.decode raw) = Attempt.react raw := rfl

theorem converse_eq (wait : UInt64) (left granted : Nat)
    (heard : Attempt.Heard (Handle ScriptedCard)) :
    converse wait left granted heard = .ok (Attempt.converse wait left granted heard) := by
  induction left generalizing granted heard with
  | zero =>
    unfold converse Attempt.converse
    cases heard.outcome with
    | error e => rfl
    | ok raw =>
      simp only [decode_eq, ok_bind, reaction_decode]
      cases Attempt.react raw <;> rfl
  | succ left ih =>
    unfold converse Attempt.converse
    cases heard.outcome with
    | error e => rfl
    | ok raw =>
      simp only [decode_eq, ok_bind, reaction_decode, listen_eq, ih]
      cases Attempt.react raw <;> rfl

theorem run_eq (config : Config) (number : BlockNumber) (link : Handle ScriptedCard)
    (frame : Bytes) : run config number link frame = .ok (Attempt.run config number link frame) := by
  rw [run, listen_eq, ok_bind, converse_eq, ok_bind]
  rfl

/-- Nothing but the size of the request decides between a fault and the ordinary turn. -/
theorem requestInto_eq (s : Session .active ScriptedCard) (request buffer : Bytes) :
    requestInto s request buffer =
      if s.config.maxPayload < request.length then
        .error (.oversized ⟨request.length, s.config.maxPayload⟩)
      else .ok (s.requestInto request buffer) := by
  by_cases hlong : s.config.maxPayload < request.length
  · rw [if_pos hlong]
    unfold requestInto Frame.information
    rw [if_pos hlong]
  · have fits : request.length ≤ s.config.maxPayload := Nat.not_lt.mp hlong
    rw [if_neg hlong, s.requestInto_eq fits]
    have hrun : run s.config s.number s.link
        (Frame.sealed (Pcb.information s.number) request).toBytes = .ok (s.attempt request) :=
      run_eq _ _ _ _
    unfold requestInto
    rw [Frame.information_of_le fits]
    dsimp only
    rw [hrun, ok_bind]
    generalize s.attempt request = report
    obtain ⟨outcome, link, log⟩ := report
    cases outcome with
    | error e => rfl
    | ok payload =>
      by_cases hroom : buffer.length < payload.length
      · simp [BlockNumber.following, Filled.ofOutcome, hroom, Nat.not_le.mpr hroom]
      · have hcopy := copy_of_le (Nat.not_lt.mp hroom)
        simp [BlockNumber.following, Filled.ofOutcome, hroom, Nat.not_lt.mp hroom, hcopy]

theorem request_eq (s : Session .active ScriptedCard) (bytes : Bytes) :
    request s bytes =
      if s.config.maxPayload < bytes.length then
        .error (.oversized ⟨bytes.length, s.config.maxPayload⟩)
      else .ok (s.request bytes) := by
  rw [request, requestInto_eq, s.request_eq_requestInto]
  split
  · rfl
  · rfl

theorem statusAt_eq {bytes : Bytes} {i : Nat} {sw1 sw2 : UInt8} (h : bytes.drop i = [sw1, sw2]) :
    statusAt bytes i = .ok (.ok ⟨sw1, sw2⟩) := by
  have hlength : bytes.length - i = 2 := by
    rw [← List.length_drop, h]
    rfl
  have hsw1 : bytes[i]? = some sw1 := by
    rw [← List.head?_drop, h]
    rfl
  have hsw2 : bytes[i + 1]? = some sw2 := by
    rw [← List.getElem?_drop, h]
    rfl
  unfold statusAt
  rw [if_neg (by omega), byteAt_of_getElem? hsw1, ok_bind, byteAt_of_getElem? hsw2, ok_bind]
  rfl

theorem parse_eq (bytes : Bytes) : parse bytes = .ok (ResponseApdu.parse bytes) := by
  unfold parse
  by_cases hshort : bytes.length < 2
  · rw [if_pos hshort, ResponseApdu.parse_of_short hshort]
  · obtain ⟨data, sw1, sw2, rfl⟩ := Bytes.exists_append_pair (Nat.not_lt.mp hshort)
    have hcut : minus (data ++ [sw1, sw2]).length 2 = .ok data.length := by
      rw [minus_of_le (Nat.not_lt.mp hshort), List.length_append, List.length_cons,
        List.length_singleton, Nat.add_sub_cancel]
    have hstatus : statusAt (data ++ [sw1, sw2]) data.length = .ok (.ok ⟨sw1, sw2⟩) :=
      statusAt_eq List.drop_left
    have hdata : front (data ++ [sw1, sw2]) data.length = .ok data := by
      rw [front_of_le (by simp), List.take_left]
    rw [if_neg hshort, hcut, ok_bind, hstatus, ok_bind, hdata, ResponseApdu.parse_append]
    rfl

theorem requestApdu_eq (s : Session .active ScriptedCard) (bytes : Bytes) :
    requestApdu s bytes =
      if s.config.maxPayload < bytes.length then
        .error (.oversized ⟨bytes.length, s.config.maxPayload⟩)
      else .ok (s.requestApdu bytes) := by
  rw [requestApdu, request_eq, Session.requestApdu]
  split
  · rfl
  · generalize s.request bytes = turn
    obtain ⟨result, session, log⟩ := turn
    cases result with
    | error e => rfl
    | ok payload =>
      rw [ok_bind]
      dsimp only
      rw [parse_eq, ok_bind]
      rfl

theorem deselect_eq (s : Session .active ScriptedCard) : deselect s = .ok s.deselect := by
  unfold deselect Session.deselect
  dsimp only
  rw [listen_eq, ok_bind]
  generalize Attempt.listen s.link _ _ _ = heard
  obtain ⟨outcome, link, buffer, log⟩ := heard
  cases outcome with
  | error e => rfl
  | ok raw =>
    dsimp only
    rw [decode_eq]
    rfl

/-- A request stops the machine just when it fits no frame, and then nothing was done. All else runs
without a fault. -/
theorem faults_iff_oversized (s : Session .active ScriptedCard) (bytes buffer : Bytes) :
    let e : Oversized := ⟨bytes.length, s.config.maxPayload⟩
    ((∃ fault, requestInto s bytes buffer = .error fault) ↔ s.config.maxPayload < bytes.length) ∧
    ((∃ fault, request s bytes = .error fault) ↔ s.config.maxPayload < bytes.length) ∧
    ((∃ fault, requestApdu s bytes = .error fault) ↔ s.config.maxPayload < bytes.length) ∧
    (s.config.maxPayload < bytes.length →
      requestInto s bytes buffer = .error (.oversized e) ∧
        s.requestInto bytes buffer = ⟨⟨.error (.oversized e), buffer⟩, s, []⟩ ∧
      request s bytes = .error (.oversized e) ∧
        s.request bytes = ⟨.error (.oversized e), s, []⟩ ∧
      requestApdu s bytes = .error (.oversized e) ∧
        s.requestApdu bytes = ⟨.error (.attempt (.oversized e)), s, []⟩) ∧
    (bytes.length ≤ s.config.maxPayload →
      requestInto s bytes buffer = .ok (s.requestInto bytes buffer) ∧
      request s bytes = .ok (s.request bytes) ∧
      requestApdu s bytes = .ok (s.requestApdu bytes)) ∧
    deselect s = .ok s.deselect := by
  intro e
  rw [requestInto_eq, request_eq, requestApdu_eq]
  refine ⟨exists_fault_iff, exists_fault_iff, exists_fault_iff, fun hlong => ?_, fun fits => ?_,
    deselect_eq s⟩
  · rw [if_pos hlong, if_pos hlong, if_pos hlong]
    exact ⟨rfl, s.requestInto_of_oversized hlong buffer, rfl, s.request_of_oversized hlong, rfl,
      s.requestApdu_of_oversized hlong⟩
  · have hshort : ¬s.config.maxPayload < bytes.length := Nat.not_lt.mpr fits
    rw [if_neg hshort, if_neg hshort, if_neg hshort]
    exact ⟨rfl, rfl, rfl⟩

/-- In frames of two bytes the empty request runs, and any other stops the machine. -/
theorem faults_iff_oversized_narrow :
    let s : Session .active ScriptedCard :=
      ⟨⟨{ queue := [.answer [0x02] (2 ^ 64 - 1)] }⟩, { frameCapacity := 2 }, .one⟩
    ([] : Bytes).length ≤ s.config.maxPayload ∧
      requestInto s [] [0xEE] = .ok (s.requestInto [] [0xEE]) ∧
      (s.requestInto [] [0xEE]).result.length = .error (.frameTooShort 16) ∧
      s.config.maxPayload < ([0xA2] : Bytes).length ∧
      requestInto s [0xA2] [0xEE] = .error (.oversized ⟨1, 0⟩) ∧
      (s.requestInto [0xA2] [0xEE]).session = s := by
  intro s
  have fits : ([] : Bytes).length ≤ s.config.maxPayload := by decide
  have oversized : s.config.maxPayload < ([0xA2] : Bytes).length := by decide
  have hshort : (s.requestInto [] [0xEE]).result.length = .error (.frameTooShort 16) := by decide
  obtain ⟨-, -, -, -, hok, -⟩ := faults_iff_oversized s [] [0xEE]
  obtain ⟨-, -, -, hfault, -, -⟩ := faults_iff_oversized s [0xA2] [0xEE]
  obtain ⟨hstopped, hturn, -⟩ := hfault oversized
  exact ⟨fits, (hok fits).1, hshort, oversized, hstopped, congrArg Turn.session hturn⟩

end Checked

end Proximity
