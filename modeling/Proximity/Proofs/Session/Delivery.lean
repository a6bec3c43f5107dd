import Proximity.Proofs.Frame.Image
import Proximity.Proofs.Session.Transact
import Proximity.Proofs.Setup.Build

/-!
Requests one after another to a card that answers each, asking for more time within the budget.
-/
namespace Proximity
open Attempt

theorem ScriptedCard.hearing_whole {card : ScriptedCard} {capacity i : Nat} {frame : Frame}
    (hr : card.reply? i = some (.whole frame.toBytes))
    (hle : frame.toBytes.length ≤ capacity) : card.hearing capacity i = .ok frame.toBytes := by
  have hlong := Frame.exists_toBytes_iff.mp ⟨frame, rfl⟩
  rw [hearing_of_whole hr, if_neg (Nat.not_lt.mpr hle), if_neg (Nat.not_lt.mpr hlong)]

/-- What a card says to one request: it asks for time, each time with a multiplier and some bytes
behind it, and then gives a payload. -/
structure Segment (config : Config) where
  asked : List (UInt8 × Bytes)
  pcb : Pcb
  payload : Bytes
  granted : asked.length ≤ config.maxExtensions
  fit : ∀ ask ∈ asked, (Frame.sealed Pcb.extension (ask.1 :: ask.2)).toBytes.length ≤
    config.frameCapacity
  isInformation : pcb &&& Pcb.kindMask = Pcb.informationBits
  taken : payload.length ≤ config.maxResponse

namespace Segment

variable {config : Config}

def frames (segment : Segment config) : List Frame :=
  segment.asked.map (fun ask => .sealed Pcb.extension (ask.1 :: ask.2)) ++
    [.sealed segment.pcb segment.payload]

def replies (segment : Segment config) : List Reply :=
  segment.frames.map fun frame => .whole frame.toBytes

def exchanged (wait : UInt64) (pcb : Pcb) (request : Bytes) (segment : Segment config) :
    List Transmission :=
  .whole (Crc.append (pcb :: request)) wait ::
    segment.asked.map fun ask => acknowledgement wait ask.1

theorem length_replies (segment : Segment config) :
    segment.replies.length = segment.asked.length + 1 := by
  simp [replies, frames]

theorem length_exchanged (wait : UInt64) (pcb : Pcb) (request : Bytes) (segment : Segment config) :
    (segment.exchanged wait pcb request).length = segment.asked.length + 1 := by
  simp [exchanged]

theorem fits_answer (segment : Segment config) (hvalid : config.validate = .ok ()) :
    (Frame.sealed segment.pcb segment.payload).toBytes.length ≤ config.frameCapacity := by
  obtain ⟨hroom, -, hresponse⟩ := Config.validate_eq_ok_iff.mp hvalid
  have htaken := segment.taken
  rw [Frame.length_toBytes]
  change segment.payload.length + Frame.overhead ≤ config.frameCapacity
  unfold Config.maxPayload at hresponse
  omega

/-- A card at the head of whose queue the segment stands. -/
structure Heads (segment : Segment config) (card : ScriptedCard) : Prop where
  asks : ∀ i m, (segment.asked.map Prod.fst)[i]? = some m →
    requested? (card.hearing config.frameCapacity i) = some m
  answers : card.hearing config.frameCapacity segment.asked.length =
    .ok (Frame.sealed segment.pcb segment.payload).toBytes

theorem reply?_of_queue {segment : Segment config} {card : ScriptedCard} {later : List Reply}
    (hq : card.queue = segment.replies ++ later) {i : Nat} {frame : Frame}
    (hf : segment.frames[i]? = some frame) : card.reply? i = some (.whole frame.toBytes) := by
  have hreply : segment.replies[i]? = some (.whole frame.toBytes) := by
    rw [replies, List.getElem?_map, hf]
    rfl
  have hi : i < segment.replies.length := (List.getElem?_eq_some_iff.mp hreply).1
  rw [ScriptedCard.reply?, hq, List.getElem?_append_left hi, hreply]
  rfl

theorem heads_of_queue (segment : Segment config) (hvalid : config.validate = .ok ())
    {card : ScriptedCard} {later : List Reply} (hq : card.queue = segment.replies ++ later) :
    segment.Heads card := by
  constructor
  · intro i m hm
    rw [List.getElem?_map, Option.map_eq_some_iff] at hm
    obtain ⟨⟨m', rest⟩, hask, rfl⟩ := hm
    have hframe : segment.frames[i]? = some (.sealed Pcb.extension (m' :: rest)) := by
      have hi : i < segment.asked.length := (List.getElem?_eq_some_iff.mp hask).1
      rw [frames, List.getElem?_append_left (by rwa [List.length_map]), List.getElem?_map, hask]
      rfl
    have hfit := segment.fit _ (List.mem_of_getElem? hask)
    rw [ScriptedCard.hearing_whole (reply?_of_queue hq hframe) hfit]
    exact requested?_eq_some_iff.mpr ⟨_, rest, rfl, Block.decode_extension _⟩
  · have hframe : segment.frames[segment.asked.length]? =
        some (.sealed segment.pcb segment.payload) := by
      rw [frames, List.getElem?_append_right (by rw [List.length_map]), List.length_map, Nat.sub_self]
      rfl
    exact ScriptedCard.hearing_whole (reply?_of_queue hq hframe) (segment.fits_answer hvalid)

theorem Heads.leadingRequests {segment : Segment config} {card : ScriptedCard}
    (h : segment.Heads card) :
    card.leadingRequests config.frameCapacity = segment.asked.length := by
  refine (card.leadingRequests_eq_iff _ _).mpr ⟨?_, fun i hi => ?_⟩
  · rw [h.answers, requested?, Block.decode_sealed_information segment.isInformation]
  · have hlen : i < (segment.asked.map Prod.fst).length := by rwa [List.length_map]
    rw [h.asks i _ (List.getElem?_eq_getElem hlen)]
    exact Option.some_ne_none _

theorem Heads.conclusion {segment : Segment config} {card : ScriptedCard} (h : segment.Heads card) :
    conclusion (card.hearing config.frameCapacity segment.asked.length) = .ok segment.payload := by
  rw [h.answers]
  simp only [Attempt.conclusion, Block.decode_sealed_information segment.isInformation]

end Segment

namespace Session

/-- A request takes the segment at the head of the queue, all of it and nothing behind it. -/
theorem request_segment {config : Config} {s : Session .active ScriptedCard}
    (hconfig : s.config = config) {segment : Segment config} (h : segment.Heads s.link.link)
    {request : Bytes} (fits : request.length ≤ config.maxPayload) :
    (s.request request).result = .ok segment.payload ∧
      (s.request request).session =
        { s with
          link := ⟨s.link.link.after
            (segment.exchanged config.frameWait (Pcb.information s.number) request)⟩
          number := s.number.toggle } := by
  subst hconfig
  obtain ⟨ms, hms, hlink, hend⟩ := s.attempt_scripted request
  have hleading := h.leadingRequests
  have hbudget := segment.granted
  rcases hend with ⟨hlt, -, -⟩ | ⟨hk, -, hout⟩
  · rw [hleading] at hlt
    exact absurd (by exact_mod_cast hlt) (Nat.not_lt.mpr hbudget)
  · have hlen : ms.length = segment.asked.length := by
      rw [hleading] at hk
      exact_mod_cast hk.symm
    have hasked : ms = segment.asked.map Prod.fst := by
      refine List.ext_getElem (by rw [hlen, List.length_map]) fun i hi hi' => ?_
      have hm := hms i ms[i] (List.getElem?_eq_getElem hi)
      rw [h.asks i _ (List.getElem?_eq_getElem hi')] at hm
      exact (Option.some.inj hm).symm
    rw [hlen, h.conclusion] at hout
    have hsent : (s.attempt request).link.link = s.link.link.after
        (segment.exchanged s.config.frameWait (Pcb.information s.number) request) := by
      rw [hlink, hasked, List.map_map]
      rfl
    have htaken : ¬s.config.maxResponse < segment.payload.length := Nat.not_lt.mpr segment.taken
    rw [Session.request, s.transact_eq fits, hout, ← hsent]
    exact ⟨if_neg htaken, rfl⟩

def requests {σ : Type} [Link σ] (s : Session .active σ) :
    List Bytes → List (Except Failure Bytes) × Session .active σ
  | [] => ([], s)
  | request :: later =>
    let turn := s.request request
    let (results, last) := turn.session.requests later
    (turn.result :: results, last)

/-- What the reader sends in all, when `k` requests were answered before. -/
def transcribed {config : Config} (k : Nat) (talks : List (Bytes × Segment config)) :
    List Transmission :=
  (talks.mapIdx fun i talk =>
    talk.2.exchanged config.frameWait (if (k + i) % 2 = 0 then 0x02 else 0x03) talk.1).flatten

theorem transcribed_cons {config : Config} (k : Nat) (talk : Bytes × Segment config)
    (talks : List (Bytes × Segment config)) :
    transcribed k (talk :: talks) =
      talk.2.exchanged config.frameWait (if k % 2 = 0 then 0x02 else 0x03) talk.1 ++
        transcribed (k + 1) talks := by
  simp only [transcribed, List.mapIdx_cons, List.flatten_cons, Nat.add_zero, Nat.add_assoc,
    Nat.add_comm 1]

theorem length_transcribed {config : Config} (k : Nat) (talks : List (Bytes × Segment config)) :
    (transcribed k talks).length = (talks.map fun talk => 1 + talk.2.asked.length).sum := by
  induction talks generalizing k with
  | nil => rfl
  | cons talk talks ih =>
    rw [transcribed_cons, List.length_append, ih, Segment.length_exchanged, List.map_cons,
      List.sum_cons, Nat.add_comm 1]

theorem length_flatMap_replies {config : Config} (talks : List (Bytes × Segment config)) :
    (talks.flatMap fun talk => talk.2.replies).length =
      (talks.map fun talk => 1 + talk.2.asked.length).sum := by
  simp only [List.length_flatMap, Segment.length_replies, Nat.add_comm 1]

/-- As many requests as segments, begun when `k` requests were answered before. -/
theorem requests_segments {config : Config} (hvalid : config.validate = .ok ())
    (talks : List (Bytes × Segment config)) {s : Session .active ScriptedCard} {k : Nat}
    (hconfig : s.config = config) (hnumber : s.number.toNat = k % 2)
    (hqueue : s.link.link.queue = talks.flatMap fun talk => talk.2.replies)
    (fits : ∀ talk ∈ talks, talk.1.length ≤ config.maxPayload) :
    (s.requests (talks.map Prod.fst)).1 = talks.map (fun talk => .ok talk.2.payload) ∧
      (s.requests (talks.map Prod.fst)).2.link.link = s.link.link.after (transcribed k talks) ∧
      (s.requests (talks.map Prod.fst)).2.number.toNat = (k + talks.length) % 2 := by
  induction talks generalizing s k with
  | nil => exact ⟨rfl, ScriptedCard.eq_after rfl rfl (List.append_nil _).symm, hnumber⟩
  | cons talk talks ih =>
    obtain ⟨request, segment⟩ := talk
    rw [List.flatMap_cons] at hqueue
    obtain ⟨hresult, hsession⟩ := request_segment hconfig (segment.heads_of_queue hvalid hqueue)
      (fits _ List.mem_cons_self)
    have hpcb : Pcb.information s.number = if k % 2 = 0 then 0x02 else 0x03 := by
      rw [← hnumber]
      cases s.number <;> rfl
    have hrest : (s.request request).session.link.link.queue =
        talks.flatMap fun talk => talk.2.replies := by
      rw [hsession]
      change s.link.link.queue.drop _ = _
      rw [hqueue, Segment.length_exchanged, ← segment.length_replies, List.drop_left]
    have hnext : (s.request request).session.number.toNat = (k + 1) % 2 := by
      rw [hsession, BlockNumber.toNat_toggle, hnumber, Nat.mod_add_mod]
    obtain ⟨hresults, hlast, hcount⟩ := ih (by rw [hsession, hconfig]) hnext hrest
      fun talk ht => fits talk (List.mem_cons_of_mem _ ht)
    refine ⟨?_, ?_, ?_⟩
    · change (s.request request).result :: _ = _
      rw [hresult, hresults]
      rfl
    · refine hlast.trans ?_
      rw [transcribed_cons, hsession, hpcb, ScriptedCard.after_append]
    · refine hcount.trans ?_
      rw [List.length_cons, Nat.add_assoc, Nat.add_comm 1]

/-- Requests on a built session are answered in order and without loss. -/
theorem requests_delivered_in_order {setup : Setup ScriptedCard} {idle : Session .idle ScriptedCard}
    (built : setup.build = .ok idle) (talks : List (Bytes × Segment idle.config))
    (queued : idle.link.link.queue = talks.flatMap fun talk => talk.2.replies)
    (fits : ∀ talk ∈ talks, talk.1.length ≤ idle.config.maxPayload) :
    let run := idle.activate.requests (talks.map Prod.fst)
    let card := run.2.link.link
    run.1 = talks.map (fun talk => .ok talk.2.payload) ∧
      card.queue = [] ∧
      card.sent = idle.link.link.sent ++
        (talks.mapIdx fun i talk =>
          .whole (Crc.append ((if i % 2 = 0 then 0x02 else 0x03) :: talk.1)) idle.config.frameWait ::
            talk.2.asked.map fun ask => acknowledgement idle.config.frameWait ask.1).flatten ∧
      card.sent.length =
        idle.link.link.sent.length + (talks.map fun talk => 1 + talk.2.asked.length).sum ∧
      run.2.number.toNat = talks.length % 2 := by
  intro run card
  have hnumber : idle.activate.number.toNat = 0 % 2 := rfl
  have hvalid := Setup.validate_of_build built
  obtain ⟨hresults, hcard, hcount⟩ := requests_segments hvalid talks rfl hnumber queued fits
  have hsent : card.sent = idle.link.link.sent ++ transcribed 0 talks :=
    congrArg ScriptedCard.sent hcard
  have hqueue : card.queue = idle.link.link.queue.drop (transcribed 0 talks).length :=
    congrArg ScriptedCard.queue hcard
  refine ⟨hresults, ?_, ?_, ?_, ?_⟩
  · rw [hqueue, queued, length_transcribed, ← length_flatMap_replies, List.drop_length]
  · rw [hsent]
    simp only [transcribed, Nat.zero_add]
    rfl
  · rw [hsent, List.length_append, length_transcribed]
  · rw [hcount, Nat.zero_add]

theorem requests_delivered_in_order_two :
    let config : Config := { frameCapacity := 16, maxResponse := 13 }
    let idle : Session .idle ScriptedCard :=
      .start ⟨{ queue := [.whole [0xF2, 0x03, 0x83, 0x63], .whole [0x02, 0x90, 0x00, 0xF1, 0x09],
        .whole [0x03, 0x90, 0x00, 0x2D, 0x53]] }⟩ config
    let setup : Setup ScriptedCard := ⟨some idle.link, config⟩
    let run := idle.activate.requests [[0xA2], [0xB0]]
    setup.build = .ok idle ∧ run.1 = [.ok [0x90, 0x00], .ok [0x90, 0x00]] ∧
      run.2.link.link.queue = [] ∧ run.2.link.link.sent.length = 3 ∧ run.2.number.toNat = 0 := by
  intro config idle setup run
  have built : setup.build = .ok idle := rfl
  let delayed : Segment idle.config :=
    ⟨[(0x03, [])], 0x02, [0x90, 0x00], by decide, by decide, by decide, by decide⟩
  let prompt : Segment idle.config :=
    ⟨[], 0x03, [0x90, 0x00], by decide, by decide, by decide, by decide⟩
  have queued : idle.link.link.queue = delayed.replies ++ (prompt.replies ++ []) := by decide
  have fits : ∀ talk ∈ [(([0xA2] : Bytes), delayed), ([0xB0], prompt)],
      talk.1.length ≤ idle.config.maxPayload := by decide
  obtain ⟨hresults, hqueue, -, hcount, hnumber⟩ :=
    requests_delivered_in_order built [([0xA2], delayed), ([0xB0], prompt)] queued fits
  exact ⟨built, hresults, hqueue, hcount, hnumber.trans (Nat.mod_self 2)⟩

end Session

end Proximity
