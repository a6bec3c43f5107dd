import Proximity.Proofs.Frame.Image
import Proximity.Proofs.Session.Atomicity

/-! The receive buffer that the exchanges of an attempt share, against buffers of their own. -/
namespace Proximity

/-- No more whole bytes are reported than are delivered. -/
def Reply.Honest : Reply → Prop
  | .answer frame bits => bits / 8 ≤ frame.length
  | .fail _ => True

instance (reply : Reply) : Decidable reply.Honest :=
  match reply with
  | .answer frame bits => inferInstanceAs (Decidable (bits / 8 ≤ frame.length))
  | .fail _ => .isTrue trivial

/-- A link whose exchanges do not receive into the buffer that is handed to them, but each into one of
its own. The `i`-th from now holds `buffers i` at first. -/
structure Rebuffered (σ : Type) where
  inner : σ
  buffers : Nat → Bytes

instance {σ : Type} [Link σ] : Link (Rebuffered σ) where
  exchange link frame bits _ wait :=
    (Link.exchange link.inner frame bits (link.buffers 0) wait).map fun inner =>
      ⟨inner, fun i => link.buffers (i + 1)⟩

namespace ScriptedCard

/-- A card on an honest link. -/
structure Honest (card : ScriptedCard) : Prop where
  queue : ∀ reply ∈ card.queue, reply.Honest
  fallback : ∀ reply ∈ card.fallback?, reply.Honest

theorem Honest.reply {card : ScriptedCard} (h : card.Honest) {i : Nat} {reply : Reply}
    (hr : card.reply? i = some reply) : reply.Honest := by
  rcases Option.or_eq_some_iff.mp hr with hqueue | ⟨-, hfallback⟩
  · exact h.queue reply (List.mem_of_getElem? hqueue)
  · exact h.fallback reply hfallback

theorem Honest.next {card : ScriptedCard} (h : card.Honest) {reply : Reply}
    (hr : card.next? = some reply) : reply.Honest := by
  rw [next?, List.head?_eq_getElem?] at hr
  exact h.reply hr

theorem Honest.advance {card : ScriptedCard} (h : card.Honest) (t : Transmission) :
    (card.advance t).Honest where
  queue reply hr := h.queue reply (List.mem_of_mem_tail hr)
  fallback := h.fallback

/-- An honest report reads nothing that was in the buffer before. -/
theorem receive_honest {buffer other : Bytes} {reply? : Option Reply}
    (hlength : other.length = buffer.length) (honest : ∀ reply ∈ reply?, reply.Honest) :
    (receive other reply?).1 = (receive buffer reply?).1 ∧
      ∀ bits, (receive buffer reply?).1 = .ok bits →
        (receive other reply?).2.take (bits / 8) = (receive buffer reply?).2.take (bits / 8) := by
  cases reply? with
  | none => exact ⟨rfl, fun bits h => by cases h⟩
  | some reply =>
    cases reply with
    | fail e => exact ⟨rfl, fun bits h => by cases h⟩
    | answer frame bits =>
      have hle : bits / 8 ≤ frame.length := honest _ rfl
      by_cases hroom : buffer.length < frame.length
      · simp [receive, hlength, hroom]
      · simp [receive, hlength, hroom, Bytes.overwrite, List.take_append_of_le_length hle]

/-- What an honest link brings is the front of one reply. -/
theorem Honest.exists_reply {card : ScriptedCard} (honest : card.Honest) {capacity k : Nat}
    {raw : Bytes} (h : card.hearing capacity k = .ok raw) :
    ∃ frame bits, card.reply? k = some (.answer frame bits) ∧ raw = frame.take (bits / 8) ∧
      raw.length = bits / 8 ∧ raw.length ≤ frame.length := by
  unfold hearing at h
  cases hr : card.reply? k with
  | none =>
    rw [hr] at h
    cases h
  | some reply =>
    cases reply with
    | fail e =>
      rw [hr] at h
      cases h
    | answer frame bits =>
      have hle : bits / 8 ≤ frame.length := honest.reply hr
      by_cases hroom : capacity < frame.length
      · simp [hr, receive, hroom] at h
      · by_cases hbits : bits < 24
        · simp [hr, receive, hroom, hbits] at h
        · have hcapacity : min (bits / 8) capacity = bits / 8 := by omega
          simp only [hr, receive, card.length_bufferBefore, hroom, hbits, if_false, hcapacity,
            Bytes.overwrite, List.take_append_of_le_length hle, Except.ok.injEq] at h
          have hlength : raw.length = bits / 8 := by
            rw [← h, List.length_take_of_le hle]
          exact ⟨frame, bits, rfl, h.symm, hlength, hlength ▸ hle⟩

end ScriptedCard

namespace Attempt

theorem outcome_listen_congr {σ τ : Type} [Link σ] [Link τ] {link : σ} {other : τ}
    {frame buffer frame' buffer' : Bytes} {wait wait' : UInt64}
    (hreport : (Link.exchangeBytes other frame' buffer' wait').outcome =
      (Link.exchangeBytes link frame buffer wait).outcome)
    (hbytes : ∀ bits, (Link.exchangeBytes link frame buffer wait).outcome = .ok bits →
      (Link.exchangeBytes other frame' buffer' wait').buffer.take (bits / 8) =
        (Link.exchangeBytes link frame buffer wait).buffer.take (bits / 8)) :
    (listen other frame' buffer' wait').outcome = (listen link frame buffer wait).outcome := by
  rw [outcome_listen, outcome_listen, hreport]
  cases hr : (Link.exchangeBytes link frame buffer wait).outcome with
  | error e => rfl
  | ok bits => simp only [hbytes bits hr]

/-- A link with the buffer that its exchanges share, and the same card on buffers of its own. -/
structure Paired (capacity : Nat) (shared : Handle ScriptedCard) (buffer : Bytes)
    (own : Handle (Rebuffered ScriptedCard)) : Prop where
  card : own.link.inner = shared.link
  honest : shared.link.Honest
  length : buffer.length = capacity
  lengths : ∀ i, (own.link.buffers i).length = capacity

structure Heard.Agrees (capacity : Nat) (shared : Heard (Handle ScriptedCard))
    (own : Heard (Handle (Rebuffered ScriptedCard))) : Prop where
  outcome : own.outcome = shared.outcome
  log : own.log = shared.log
  paired : Paired capacity shared.link shared.buffer own.link

theorem Paired.listen {capacity : Nat} {shared : Handle ScriptedCard} {buffer : Bytes}
    {own : Handle (Rebuffered ScriptedCard)} (h : Paired capacity shared buffer own)
    (frame other : Bytes) (wait : UInt64) :
    (listen shared frame buffer wait).Agrees capacity (listen own frame other wait) := by
  obtain ⟨card⟩ := shared
  obtain ⟨⟨inner, buffers⟩⟩ := own
  obtain ⟨rfl, honest, hlength, hlengths⟩ := h
  have hequal : (buffers 0).length = buffer.length := (hlengths 0).trans hlength.symm
  obtain ⟨hreport, hbytes⟩ := ScriptedCard.receive_honest hequal fun reply hr => honest.next hr
  have houtcome : (Attempt.listen (⟨⟨inner, buffers⟩⟩ : Handle (Rebuffered ScriptedCard)) frame other
      wait).outcome = (Attempt.listen (⟨inner⟩ : Handle ScriptedCard) frame buffer wait).outcome :=
    outcome_listen_congr hreport hbytes
  refine ⟨houtcome, ?_, ?_⟩
  · rw [log_of_listened ⟨_, _, _, _, rfl⟩, log_of_listened ⟨_, _, _, _, rfl⟩, houtcome]
  · rw [link_listen, link_listen, buffer_listen]
    refine ⟨rfl, honest.advance _, ?_, fun i => hlengths (i + 1)⟩
    exact (ScriptedCard.length_receive buffer inner.next?).trans hlength

theorem Heard.Agrees.grant {capacity : Nat} {shared : Heard (Handle ScriptedCard)}
    {own : Heard (Handle (Rebuffered ScriptedCard))} (h : shared.Agrees capacity own)
    (wait : UInt64) (multiplier : UInt8) :
    (Attempt.grant wait shared multiplier).Agrees capacity (Attempt.grant wait own multiplier) :=
  h.paired.listen _ _ _

structure Report.Agrees (shared : Report (Handle ScriptedCard))
    (own : Report (Handle (Rebuffered ScriptedCard))) : Prop where
  outcome : own.outcome = shared.outcome
  log : own.log = shared.log
  card : own.link.link.inner = shared.link.link

theorem Report.Agrees.after {shared : Report (Handle ScriptedCard)}
    {own : Report (Handle (Rebuffered ScriptedCard))} (h : shared.Agrees own)
    (earlier : List Event) : (shared.after earlier).Agrees (own.after earlier) where
  outcome := h.outcome
  log := congrArg (earlier ++ ·) h.log
  card := h.card

theorem Heard.Agrees.ending {capacity : Nat} {shared : Heard (Handle ScriptedCard)}
    {own : Heard (Handle (Rebuffered ScriptedCard))} (h : shared.Agrees capacity own)
    (granted : Nat) : (Attempt.ending granted shared).Agrees (Attempt.ending granted own) := by
  unfold Attempt.ending
  rw [h.outcome]
  cases requested? shared.outcome <;> exact ⟨rfl, rfl, h.paired.card⟩

/-- What agrees at one exchange agrees to the end. -/
theorem Heard.Agrees.converse {capacity : Nat} {shared : Heard (Handle ScriptedCard)}
    {own : Heard (Handle (Rebuffered ScriptedCard))} (h : shared.Agrees capacity own)
    (wait : UInt64) (left granted : Nat) :
    (Attempt.converse wait left granted shared).Agrees
      (Attempt.converse wait left granted own) := by
  induction left generalizing granted shared own with
  | zero =>
    rw [converse_zero, converse_zero, h.log]
    exact (h.ending granted).after shared.log
  | succ left ih =>
    cases hr : requested? shared.outcome with
    | none =>
      have hr' : requested? own.outcome = none := by rw [h.outcome, hr]
      rw [converse_of_not_requested hr, converse_of_not_requested hr', h.log]
      exact (h.ending granted).after shared.log
    | some m =>
      have hr' : requested? own.outcome = some m := by rw [h.outcome, hr]
      rw [converse_succ hr, converse_succ hr', h.log]
      exact (ih (h.grant wait m) (granted + 1)).after _

end Attempt

namespace Session

def rebuffered {σ : Type} (s : Session .active σ) (buffers : Nat → Bytes) :
    Session .active (Rebuffered σ) :=
  ⟨⟨⟨s.link.link, buffers⟩⟩, s.config, s.number⟩

theorem attempt_rebuffered (s : Session .active ScriptedCard) (honest : s.link.link.Honest)
    {buffers : Nat → Bytes} (sized : ∀ i, (buffers i).length = s.config.frameCapacity)
    (request : Bytes) :
    (s.attempt request).Agrees ((s.rebuffered buffers).attempt request) := by
  have hstart : Attempt.Paired s.config.frameCapacity s.link (Bytes.zeros s.config.frameCapacity)
      (s.rebuffered buffers).link := ⟨rfl, honest, Bytes.length_zeros _, sized⟩
  exact ((hstart.listen _ _ _).converse _ _ _).after _

theorem requestInto_agrees (s : Session .active ScriptedCard) (honest : s.link.link.Honest)
    {buffers : Nat → Bytes} (sized : ∀ i, (buffers i).length = s.config.frameCapacity)
    (request buffer : Bytes) :
    let turn := s.requestInto request buffer
    let own := (s.rebuffered buffers).requestInto request buffer
    own.result = turn.result ∧ own.session.link.link.inner = turn.session.link.link ∧
      own.session.config = turn.session.config ∧ own.session.number = turn.session.number ∧
      own.log = turn.log := by
  intro turn own
  by_cases fits : request.length ≤ s.config.maxPayload
  · have hagrees := s.attempt_rebuffered honest sized request
    have hturn : turn = _ := s.requestInto_eq fits buffer
    have hown : own = _ := (s.rebuffered buffers).requestInto_eq fits buffer
    rw [hturn, hown, hagrees.outcome]
    exact ⟨rfl, hagrees.card, rfl, rfl, hagrees.log⟩
  · have hturn : turn = _ := s.requestInto_of_oversized (Nat.not_le.mp fits) buffer
    have hown : own = _ :=
      (s.rebuffered buffers).requestInto_of_oversized (Nat.not_le.mp fits) buffer
    rw [hturn, hown]
    exact ⟨rfl, rfl, rfl, rfl, rfl⟩

/-- All that a response holds stands in the reply that was used up last. -/
theorem exists_reply_of_ok (s : Session .active ScriptedCard) (honest : s.link.link.Honest)
    {request buffer : Bytes} {n : Nat}
    (h : (s.requestInto request buffer).result.length = .ok n) :
    let turn := s.requestInto request buffer
    ∃ k frame bits pcb,
      turn.session.link.link.sent.length = s.link.link.sent.length + (k + 1) ∧
      s.link.link.reply? k = some (.answer frame bits) ∧
      Block.decode (frame.take (bits / 8)) = .ok (.information pcb (turn.result.buffer.take n)) ∧
      n + 3 ≤ frame.length ∧ turn.result.buffer.take n = (frame.drop 1).take n := by
  intro turn
  obtain ⟨k, raw, pcb, payload, hsent, hraw, hd, rfl, -, hbuffer⟩ := s.exists_hearing_of_ok h
  obtain ⟨frame, bits, hreply, rfl, hlength, hle⟩ := honest.exists_reply hraw
  obtain ⟨hframe, hfield⟩ := Block.field_of_decode hd
  have htaken : turn.result.buffer.take payload.length = payload := by
    rw [hbuffer, Bytes.take_overwrite]
  have hplace : payload = (frame.drop 1).take payload.length := by
    nth_rewrite 1 [hfield]
    rw [List.drop_take, List.take_take]
    congr 1
    omega
  rw [htaken]
  exact ⟨k, frame, bits, pcb, hsent, hreply, hd, by omega, hplace⟩

/-- On an honest link each exchange may have a buffer of its own, whatever that holds. -/
theorem requestInto_rebuffered (s : Session .active ScriptedCard) (request buffer : Bytes)
    (honest : s.link.link.Honest) :
    let turn := s.requestInto request buffer
    (∀ buffers : Nat → Bytes, (∀ i, (buffers i).length = s.config.frameCapacity) →
      let own := (s.rebuffered buffers).requestInto request buffer
      own.result = turn.result ∧ own.session.link.link.inner = turn.session.link.link ∧
        own.session.config = turn.session.config ∧ own.session.number = turn.session.number ∧
        own.log = turn.log) ∧
    ∀ n, turn.result.length = .ok n →
      ∃ k frame bits pcb,
        turn.session.link.link.sent.length = s.link.link.sent.length + (k + 1) ∧
        s.link.link.reply? k = some (.answer frame bits) ∧
        Block.decode (frame.take (bits / 8)) = .ok (.information pcb (turn.result.buffer.take n)) ∧
        n + 3 ≤ frame.length ∧ turn.result.buffer.take n = (frame.drop 1).take n := by
  intro turn
  constructor
  · intro buffers sized
    exact s.requestInto_agrees honest sized request buffer
  · intro n hn
    exact s.exists_reply_of_ok honest hn

/-- A long request for time leaves nothing in the short answer behind it. -/
theorem requestInto_rebuffered_extended_once :
    let s : Session .active ScriptedCard :=
      ⟨⟨{ queue := [.whole [0xF2, 0x03, 0x11, 0x22, 0x33, 0x44, 0xF9, 0x13],
            .answer [0x02, 0x90, 0x00, 0xF1, 0x09] 44] }⟩,
        { frameCapacity := 16, maxResponse := 13 }, .zero⟩
    let buffers : Nat → Bytes := fun i => List.replicate 16 (UInt8.ofNat i)
    s.link.link.Honest ∧ (∀ i, (buffers i).length = s.config.frameCapacity) ∧
      (s.requestInto [0xA2] [0xEE, 0xEE, 0xEE]).result = ⟨.ok 2, [0x90, 0x00, 0xEE]⟩ ∧
      ((s.rebuffered buffers).requestInto [0xA2] [0xEE, 0xEE, 0xEE]).result =
        ⟨.ok 2, [0x90, 0x00, 0xEE]⟩ ∧
      ∃ k frame bits, s.link.link.reply? k = some (.answer frame bits) ∧
        [0x90, 0x00] = (frame.drop 1).take 2 := by
  intro s buffers
  have honest : s.link.link.Honest := ⟨by decide, by decide⟩
  have sized : ∀ i, (buffers i).length = s.config.frameCapacity := fun i => List.length_replicate
  have hlength : (s.requestInto [0xA2] [0xEE, 0xEE, 0xEE]).result.length = .ok 2 := by decide
  have hbuffer : (s.requestInto [0xA2] [0xEE, 0xEE, 0xEE]).result.buffer = [0x90, 0x00, 0xEE] := by
    decide
  have hresult : (s.requestInto [0xA2] [0xEE, 0xEE, 0xEE]).result = ⟨.ok 2, [0x90, 0x00, 0xEE]⟩ :=
    congrArg₂ Filled.mk hlength hbuffer
  obtain ⟨hown, hlast⟩ := s.requestInto_rebuffered [0xA2] [0xEE, 0xEE, 0xEE] honest
  obtain ⟨hsame, -⟩ := hown buffers sized
  obtain ⟨k, frame, bits, -, -, hreply, -, -, hplace⟩ := hlast 2 hlength
  rw [hbuffer] at hplace
  exact ⟨honest, sized, hresult, hsame.trans hresult, k, frame, bits, hreply, hplace⟩

end Session

end Proximity
