import Proximity.Proofs.Link.Recording
import Mathlib.Data.ENat.Lattice

/-! What a card's script makes of an attempt, read off the script alone. -/
namespace Proximity

theorem Bytes.length_overwrite {back front : Bytes} (h : front.length ≤ back.length) :
    (Bytes.overwrite back front).length = back.length := by
  rw [overwrite, List.length_append, List.length_drop]
  omega

namespace ScriptedCard

/-- The reply to the `i`-th exchange from now, counted from zero. -/
def reply? (card : ScriptedCard) (i : Nat) : Option Reply :=
  card.queue[i]?.or card.fallback?

/-- The receive buffer before the `i`-th exchange of an attempt. -/
def bufferBefore (card : ScriptedCard) (capacity : Nat) : Nat → Bytes
  | 0 => Bytes.zeros capacity
  | i + 1 => (receive (card.bufferBefore capacity i) (card.reply? i)).2

/-- What the `i`-th exchange of an attempt brings, if all requests for time before it were granted:
the whole bytes that are reported, as far as the buffer goes. -/
def hearing (card : ScriptedCard) (capacity i : Nat) : Except Failure Bytes :=
  match receive (card.bufferBefore capacity i) (card.reply? i) with
  | (.error e, _) => .error (.link e)
  | (.ok bits, buffer) =>
    if bits < 24 then .error (.frameTooShort bits)
    else .ok (buffer.take (min (bits / 8) capacity))

/-- How many exchanges bring a request for time before one brings anything else. -/
noncomputable def leadingRequests (card : ScriptedCard) (capacity : Nat) : ℕ∞ :=
  ⨅ i : {i : ℕ // Attempt.requested? (card.hearing capacity i) = none}, (i.val : ℕ∞)

theorem leadingRequests_eq_iff (card : ScriptedCard) (capacity n : Nat) :
    card.leadingRequests capacity = n ↔
      Attempt.requested? (card.hearing capacity n) = none ∧
        ∀ i < n, Attempt.requested? (card.hearing capacity i) ≠ none := by
  rw [leadingRequests, ENat.iInf_eq_natCast_iff]
  constructor
  · rintro ⟨⟨⟨i, hi⟩, hin⟩, hle⟩
    obtain rfl : i = n := by exact_mod_cast hin
    refine ⟨hi, fun j hj hn => ?_⟩
    have hij : i ≤ j := by exact_mod_cast hle ⟨j, hn⟩
    omega
  · rintro ⟨hn, hlt⟩
    refine ⟨⟨⟨n, hn⟩, rfl⟩, fun ⟨i, hi⟩ => ?_⟩
    by_contra hc
    exact hlt i (by exact_mod_cast not_le.mp hc) hi

theorem lt_leadingRequests_iff (card : ScriptedCard) (capacity n : Nat) :
    (n : ℕ∞) < card.leadingRequests capacity ↔
      ∀ i ≤ n, Attempt.requested? (card.hearing capacity i) ≠ none := by
  rw [leadingRequests, ← ENat.natCast_add_one_le_iff, le_iInf_iff]
  constructor
  · intro h i hi hn
    have hni : n + 1 ≤ i := by exact_mod_cast h ⟨i, hn⟩
    omega
  · rintro h ⟨i, hn⟩
    by_contra hc
    have hin : i < n + 1 := by exact_mod_cast not_le.mp hc
    exact h i (by omega) hn

/-- The card once it was sent `ts` and has answered each. -/
def after (card : ScriptedCard) (ts : List Transmission) : ScriptedCard :=
  { card with queue := card.queue.drop ts.length, sent := card.sent ++ ts }

theorem eq_after {card later : ScriptedCard} {ts : List Transmission}
    (hq : later.queue = card.queue.drop ts.length) (hf : later.fallback? = card.fallback?)
    (hs : later.sent = card.sent ++ ts) : later = card.after ts := by
  obtain ⟨queue, fallback?, sent⟩ := later
  simp only at hq hf hs
  rw [hq, hf, hs]
  rfl

theorem after_append (card : ScriptedCard) (ts us : List Transmission) :
    card.after (ts ++ us) = (card.after ts).after us := by
  simp only [after, List.drop_drop, List.length_append, List.append_assoc]

@[simp] theorem length_receive (buffer : Bytes) (reply? : Option Reply) :
    (receive buffer reply?).2.length = buffer.length := by
  unfold receive
  split
  · rfl
  · rfl
  · split_ifs with h
    · rfl
    · exact Bytes.length_overwrite (Nat.le_of_not_lt h)

@[simp] theorem length_bufferBefore (card : ScriptedCard) (capacity i : Nat) :
    (card.bufferBefore capacity i).length = capacity := by
  induction i with
  | zero => exact List.length_replicate
  | succ i ih => rw [bufferBefore, length_receive, ih]

/-- An exchange brings bytes when its answer fits the buffer and enough bits are reported. -/
theorem hearing_eq_ok_iff {card : ScriptedCard} {capacity i : Nat} {raw : Bytes} :
    card.hearing capacity i = .ok raw ↔
      ∃ frame bits, card.reply? i = some (.answer frame bits) ∧ frame.length ≤ capacity ∧
        24 ≤ bits ∧
        raw = (Bytes.overwrite (card.bufferBefore capacity i) frame).take
          (min (bits / 8) capacity) := by
  unfold hearing receive
  rw [length_bufferBefore]
  constructor
  · intro h
    cases hr : card.reply? i with
    | none => simp [hr] at h
    | some reply =>
      cases reply with
      | fail e => simp [hr] at h
      | answer frame bits =>
        by_cases hroom : capacity < frame.length
        · simp [hr, hroom] at h
        · by_cases hshort : bits < 24
          · simp [hr, hroom, hshort] at h
          · simp only [hr, hroom, hshort, if_false] at h
            exact ⟨frame, bits, rfl, Nat.not_lt.mp hroom, Nat.not_lt.mp hshort,
              (Except.ok.inj h).symm⟩
  · rintro ⟨frame, bits, hr, hroom, hlong, rfl⟩
    simp only [hr, Nat.not_lt.mpr hroom, Nat.not_lt.mpr hlong, if_false]

/-- A reply of its true length is heard as it is, if it fits and is long enough for a frame. -/
theorem hearing_of_whole {card : ScriptedCard} {i : Nat} {frame : Bytes}
    (hr : card.reply? i = some (.whole frame)) (capacity : Nat) :
    card.hearing capacity i =
      if capacity < frame.length then .error (.link .overflow)
      else if frame.length < 3 then .error (.frameTooShort (8 * frame.length))
      else .ok frame := by
  simp only [hearing, hr, Reply.whole, receive, length_bufferBefore]
  by_cases hroom : capacity < frame.length
  · simp [hroom]
  · have hshort : 8 * frame.length < 24 ↔ frame.length < 3 := by omega
    have hbytes : min (8 * frame.length / 8) capacity = frame.length := by omega
    simp only [hroom, hshort, hbytes, if_false, Bytes.overwrite, List.take_left]

end ScriptedCard

namespace Attempt

/-- What was heard is what the `i`-th exchange with `card` leaves behind. -/
structure Heard.IsAt (card : ScriptedCard) (capacity i : Nat) (heard : Heard (Handle ScriptedCard)) :
    Prop where
  outcome : heard.outcome = card.hearing capacity i
  buffer : heard.buffer = card.bufferBefore capacity (i + 1)
  queue : heard.link.link.queue = card.queue.drop (i + 1)
  fallback : heard.link.link.fallback? = card.fallback?

theorem listen_isAt {card : ScriptedCard} {capacity i : Nat} {handle : Handle ScriptedCard}
    (hq : handle.link.queue = card.queue.drop i) (hf : handle.link.fallback? = card.fallback?)
    (frame : Bytes) (wait : UInt64) :
    (listen handle frame (card.bufferBefore capacity i) wait).IsAt card capacity i := by
  have hnext : handle.link.next? = card.reply? i := by
    rw [ScriptedCard.next?, ScriptedCard.reply?, hq, hf, List.head?_drop]
  have htail : handle.link.queue.tail = card.queue.drop (i + 1) := by
    rw [hq, List.tail_drop]
  have hdone : Link.exchangeBytes handle frame (card.bufferBefore capacity i) wait =
      ⟨(ScriptedCard.receive (card.bufferBefore capacity i) (card.reply? i)).1,
        card.bufferBefore capacity (i + 1),
        ⟨handle.link.advance
          ⟨ScriptedCard.transmitted frame (8 * frame.length), 8 * frame.length, wait⟩⟩⟩ := by
    rw [ScriptedCard.bufferBefore, ← hnext]
    rfl
  constructor
  · have hlen := card.length_bufferBefore capacity (i + 1)
    rw [ScriptedCard.bufferBefore] at hlen
    rw [outcome_listen, hdone, ScriptedCard.hearing, ScriptedCard.bufferBefore]
    generalize ScriptedCard.receive (card.bufferBefore capacity i) (card.reply? i) = done at hlen ⊢
    obtain ⟨outcome, buffer⟩ := done
    cases outcome with
    | error e => rfl
    | ok bits =>
      have htake : buffer.take (bits / 8) = buffer.take (min (bits / 8) capacity) := by
        rw [List.take_eq_take_min, hlen]
      simp only [htake]
  · rw [buffer_listen, hdone]
  · rw [link_listen, hdone]
    exact htail
  · rw [link_listen, hdone]
    exact hf

/-- Along a course the multipliers are those of the requests that the script makes, one by one. -/
theorem Course.isAt {wait : UInt64} {heard last : Heard (Handle ScriptedCard)} {ms : List UInt8}
    {card : ScriptedCard} {capacity i : Nat} (h : Course wait heard ms last)
    (hat : heard.IsAt card capacity i) :
    last.IsAt card capacity (i + ms.length) ∧
      ∀ j m, ms[j]? = some m → requested? (card.hearing capacity (i + j)) = some m := by
  induction h generalizing i with
  | refl heard => exact ⟨hat, fun j m hj => by simp at hj⟩
  | @grant heard last multiplier rest hm _ ih =>
    have hnext : (Attempt.grant wait heard multiplier).IsAt card capacity (i + 1) := by
      rw [Attempt.grant, hat.buffer]
      exact listen_isAt hat.queue hat.fallback _ _
    obtain ⟨hlast, hrest⟩ := ih hnext
    refine ⟨?_, fun j m hj => ?_⟩
    · rw [List.length_cons, Nat.add_comm rest.length, ← Nat.add_assoc]
      exact hlast
    · cases j with
      | zero =>
        rw [List.getElem?_cons_zero, Option.some.injEq] at hj
        rw [Nat.add_zero, ← hat.outcome, hm, hj]
      | succ j =>
        rw [List.getElem?_cons_succ] at hj
        rw [Nat.add_comm j, ← Nat.add_assoc]
        exact hrest j m hj

end Attempt

end Proximity
