import Proximity.Proofs.Link.Recording
import Mathlib.Data.List.Basic
import Mathlib.Data.List.Induction

/-!
A scripted card under any handling. No reply is lost, none is used twice, and every exchange is
recorded.
-/
namespace Proximity.ScriptedCard

inductive Action where
  | enqueue (reply : Reply)
  /-- Sets what is played once the queue is empty, or takes it away. -/
  | fallBack (reply? : Option Reply)
  | exchange (frame : Bytes) (bits : Nat) (buffer : Bytes) (wait : UInt64)
  | exchangeBytes (frame buffer : Bytes) (wait : UInt64)

namespace Action

def queued? : Action → Option Reply
  | .enqueue reply => some reply
  | _ => none

def fallback? : Action → Option (Option Reply)
  | .fallBack reply? => some reply?
  | _ => none

/-- What an exchange sends, and the receive buffer that it is given. -/
def call? : Action → Option (Transmission × Bytes)
  | .exchange frame bits buffer wait =>
    some (⟨frame.take (min ((bits + 7) / 8) frame.length), bits, wait⟩, buffer)
  | .exchangeBytes frame buffer wait => some (⟨frame, 8 * frame.length, wait⟩, buffer)
  | _ => none

def sent? (action : Action) : Option Transmission :=
  action.call?.map Prod.fst

def exchanged? (card : ScriptedCard) : Action → Option (Exchanged ScriptedCard)
  | .exchange frame bits buffer wait => some (Link.exchange card frame bits buffer wait)
  | .exchangeBytes frame buffer wait => some (Link.exchangeBytes card frame buffer wait)
  | _ => none

end Action

def act (card : ScriptedCard) : Action → ScriptedCard
  | .enqueue reply => card.enqueue reply
  | .fallBack reply? => { card with fallback? := reply? }
  | .exchange frame bits buffer wait => (Link.exchange card frame bits buffer wait).link
  | .exchangeBytes frame buffer wait => (Link.exchangeBytes card frame buffer wait).link

def play (card : ScriptedCard) (actions : List Action) : ScriptedCard :=
  actions.foldl act card

/-- The replies that an action takes off the queue: one for an exchange, if there is any. -/
def taken (card : ScriptedCard) (action : Action) : List Reply :=
  if action.call?.isSome then card.queue.take 1 else []

def consumed : ScriptedCard → List Action → List Reply
  | _, [] => []
  | card, action :: later => card.taken action ++ (card.act action).consumed later

/-- What an exchange comes to: `reply?` is played, the head of the queue or else the fallback. Whatever
comes of it, it is recorded and uses up the head of the queue but never the fallback. -/
structure Plays (card : ScriptedCard) (reply? : Option Reply) (t : Transmission) (buffer : Bytes)
    (done : Exchanged ScriptedCard) : Prop where
  sent : done.link.sent = card.sent ++ [t]
  frames : done.link.frames = card.frames ++ [t.frame]
  bitCounts : done.link.bitCounts = card.bitCounts ++ [t.bits]
  waits : done.link.waits = card.waits ++ [t.wait]
  queue : done.link.queue = card.queue.drop 1
  fallback : done.link.fallback? = card.fallback?
  head : ∀ reply later, card.queue = reply :: later → reply? = some reply
  exhausted : card.queue = [] → reply? = card.fallback?
  silent : reply? = none → done.outcome = .error .timeout
  failed : ∀ e, reply? = some (.fail e) → done.outcome = .error e
  overflow : done.outcome = .error .overflow ↔ reply? = some (.fail .overflow) ∨
    ∃ frame bits, reply? = some (.answer frame bits) ∧ buffer.length < frame.length
  received : ∀ bits, done.outcome = .ok bits ↔
    ∃ frame, reply? = some (.answer frame bits) ∧ frame.length ≤ buffer.length
  written : ∀ frame bits, reply? = some (.answer frame bits) → frame.length ≤ buffer.length →
    done.buffer = frame ++ buffer.drop frame.length
  untouched : ∀ e, done.outcome = .error e → done.buffer = buffer

/-- What a reply does to a receive buffer, case by case. -/
inductive Receives (buffer : Bytes) : Option Reply → Except LinkError Nat × Bytes → Prop where
  | silent : Receives buffer none (.error .timeout, buffer)
  | failed (e : LinkError) : Receives buffer (some (.fail e)) (.error e, buffer)
  | overlong {frame : Bytes} {bits : Nat} (h : buffer.length < frame.length) :
    Receives buffer (some (.answer frame bits)) (.error .overflow, buffer)
  | fitting {frame : Bytes} {bits : Nat} (h : frame.length ≤ buffer.length) :
    Receives buffer (some (.answer frame bits)) (.ok bits, frame ++ buffer.drop frame.length)

theorem receives_receive (buffer : Bytes) (reply? : Option Reply) :
    Receives buffer reply? (receive buffer reply?) := by
  cases reply? with
  | none => exact .silent
  | some reply =>
    cases reply with
    | fail e => exact .failed e
    | answer frame bits =>
      by_cases hlong : buffer.length < frame.length
      · rw [receive, if_pos hlong]
        exact .overlong hlong
      · rw [receive, if_neg hlong]
        exact .fitting (Nat.not_lt.mp hlong)

section
variable {buffer : Bytes} {reply? : Option Reply} {received : Except LinkError Nat × Bytes}
  (h : Receives buffer reply? received)

include h

theorem Receives.ok_iff {bits : Nat} :
    received.1 = .ok bits ↔
      ∃ frame, reply? = some (.answer frame bits) ∧ frame.length ≤ buffer.length := by
  cases h with
  | silent => simp
  | failed e => simp
  | overlong hlong => simp [Nat.not_le.mpr hlong]
  | fitting hfits => simp [hfits]

theorem Receives.overflow_iff :
    received.1 = .error .overflow ↔ reply? = some (.fail .overflow) ∨
      ∃ frame bits, reply? = some (.answer frame bits) ∧ buffer.length < frame.length := by
  cases h with
  | silent => simp
  | failed e => simp
  | overlong hlong => simp [hlong]
  | fitting hfits => simp [Nat.not_lt.mpr hfits]

theorem Receives.written {frame : Bytes} {bits : Nat} (hreply : reply? = some (.answer frame bits))
    (hfits : frame.length ≤ buffer.length) : received.2 = frame ++ buffer.drop frame.length := by
  cases h with
  | silent => cases hreply
  | failed e => cases hreply
  | overlong hlong =>
    cases hreply
    exact absurd hfits (Nat.not_le.mpr hlong)
  | fitting _ =>
    cases hreply
    rfl

theorem Receives.untouched {e : LinkError} (he : received.1 = .error e) : received.2 = buffer := by
  cases h with
  | fitting _ => cases he
  | _ => rfl

end

theorem plays_exchange (card : ScriptedCard) (frame : Bytes) (bits : Nat) (buffer : Bytes)
    (wait : UInt64) :
    Plays card card.next? ⟨transmitted frame bits, bits, wait⟩ buffer
      (Link.exchange card frame bits buffer wait) where
  sent := rfl
  frames := List.map_append
  bitCounts := List.map_append
  waits := List.map_append
  queue := List.drop_one.symm
  fallback := rfl
  head reply later h := by rw [next?, h, List.head?_cons, Option.some_or]
  exhausted h := by rw [next?, h, List.head?_nil, Option.none_or]
  silent h := congrArg (fun reply? => (receive buffer reply?).1) h
  failed _ h := congrArg (fun reply? => (receive buffer reply?).1) h
  overflow := (receives_receive buffer card.next?).overflow_iff
  received _ := (receives_receive buffer card.next?).ok_iff
  written _ _ := (receives_receive buffer card.next?).written
  untouched _ := (receives_receive buffer card.next?).untouched

theorem plays_of_call? (card : ScriptedCard) {action : Action} {t : Transmission} {buffer : Bytes}
    (h : action.call? = some (t, buffer)) :
    ∃ done, action.exchanged? card = some done ∧ card.act action = done.link ∧
      Plays card card.next? t buffer done := by
  cases action with
  | enqueue reply => cases h
  | fallBack reply? => cases h
  | exchange frame bits buffer wait =>
    cases h
    refine ⟨_, rfl, rfl, ?_⟩
    rw [← List.take_eq_take_min]
    exact plays_exchange card frame bits buffer wait
  | exchangeBytes frame buffer wait =>
    cases h
    refine ⟨_, rfl, rfl, ?_⟩
    have hplays := plays_exchange card frame (8 * frame.length) buffer wait
    rw [transmitted_whole] at hplays
    exact hplays

theorem Action.script_of_call? {action : Action} {call : Transmission × Bytes}
    (h : action.call? = some call) : action.queued? = none ∧ action.fallback? = none := by
  cases action with
  | enqueue reply => cases h
  | fallBack reply? => cases h
  | _ => exact ⟨rfl, rfl⟩

theorem act_of_no_call (card : ScriptedCard) {action : Action} (h : action.call? = none) :
    action.exchanged? card = none ∧ (card.act action).sent = card.sent ∧
      (card.act action).queue = card.queue ++ action.queued?.toList ∧
      (card.act action).fallback? = action.fallback?.getD card.fallback? := by
  cases action with
  | enqueue reply => exact ⟨rfl, rfl, rfl, rfl⟩
  | fallBack reply? => exact ⟨rfl, rfl, (List.append_nil card.queue).symm, rfl⟩
  | _ => cases h

theorem taken_of_call? (card : ScriptedCard) {action : Action} {call : Transmission × Bytes}
    (h : action.call? = some call) : card.taken action = card.queue.take 1 := by
  rw [taken, h, if_pos Option.isSome_some]

theorem taken_of_no_call (card : ScriptedCard) {action : Action} (h : action.call? = none) :
    card.taken action = [] := by
  rw [taken, h, if_neg (by simp)]

theorem sent_act (card : ScriptedCard) (action : Action) :
    (card.act action).sent = card.sent ++ action.sent?.toList := by
  cases h : action.call? with
  | none =>
    obtain ⟨-, hsent, -, -⟩ := act_of_no_call card h
    rw [hsent, Action.sent?, h, Option.map_none, Option.toList_none, List.append_nil]
  | some call =>
    obtain ⟨done, -, hact, hplays⟩ := plays_of_call? card h
    rw [hact, hplays.sent, Action.sent?, h, Option.map_some, Option.toList_some]

/-- No action loses a reply: what was queued or is queued now is used up or still there. -/
theorem queue_act (card : ScriptedCard) (action : Action) :
    card.queue ++ action.queued?.toList = card.taken action ++ (card.act action).queue := by
  cases h : action.call? with
  | none =>
    obtain ⟨-, -, hqueue, -⟩ := act_of_no_call card h
    rw [hqueue, taken_of_no_call card h, List.nil_append]
  | some call =>
    obtain ⟨done, -, hact, hplays⟩ := plays_of_call? card h
    have hqueued : action.queued? = none := (Action.script_of_call? h).1
    rw [hact, hplays.queue, taken_of_call? card h, hqueued, List.take_append_drop,
      Option.toList_none, List.append_nil]

theorem fallback_act (card : ScriptedCard) (action : Action) :
    (card.act action).fallback? = action.fallback?.getD card.fallback? := by
  cases h : action.call? with
  | none =>
    obtain ⟨-, -, -, hfallback⟩ := act_of_no_call card h
    exact hfallback
  | some call =>
    obtain ⟨done, -, hact, hplays⟩ := plays_of_call? card h
    have hset : action.fallback? = none := (Action.script_of_call? h).2
    rw [hact, hplays.fallback, hset, Option.getD_none]

theorem play_cons (card : ScriptedCard) (action : Action) (later : List Action) :
    card.play (action :: later) = (card.act action).play later := rfl

theorem play_concat (card : ScriptedCard) (actions : List Action) (action : Action) :
    card.play (actions ++ [action]) = (card.play actions).act action := by
  rw [play, play, List.foldl_append, List.foldl_cons, List.foldl_nil]

theorem consumed_concat (card : ScriptedCard) (actions : List Action) (action : Action) :
    card.consumed (actions ++ [action]) =
      card.consumed actions ++ (card.play actions).taken action := by
  induction actions generalizing card with
  | nil => exact List.append_nil (card.taken action)
  | cons first later ih =>
    rw [List.cons_append, consumed, ih (card.act first), consumed, play_cons, List.append_assoc]

theorem filterMap_concat {α : Type} (f : Action → Option α) (actions : List Action)
    (action : Action) :
    (actions ++ [action]).filterMap f = actions.filterMap f ++ (f action).toList := by
  rw [List.filterMap_append, List.filterMap_eq_flatMap_toList f [action], List.flatMap_singleton]

/-- Every exchange is on the record, in turn, and nothing else is. -/
theorem sent_play (card : ScriptedCard) (actions : List Action) :
    (card.play actions).sent = card.sent ++ actions.filterMap Action.sent? := by
  induction actions using List.reverseRecOn with
  | nil => exact (List.append_nil card.sent).symm
  | append_singleton actions action ih =>
    rw [play_concat, sent_act, ih, filterMap_concat, List.append_assoc]

/-- All that was ever on the queue was used up or is still there, in order. -/
theorem queue_play (card : ScriptedCard) (actions : List Action) :
    card.queue ++ actions.filterMap Action.queued? =
      card.consumed actions ++ (card.play actions).queue := by
  induction actions using List.reverseRecOn with
  | nil => exact List.append_nil card.queue
  | append_singleton actions action ih =>
    let now := card.play actions
    calc card.queue ++ (actions ++ [action]).filterMap Action.queued?
        = card.consumed actions ++ (now.queue ++ action.queued?.toList) := by
          rw [filterMap_concat, ← List.append_assoc, ih, List.append_assoc]
      _ = card.consumed actions ++ (now.taken action ++ (now.act action).queue) := by
          rw [queue_act]
      _ = card.consumed (actions ++ [action]) ++ (card.play (actions ++ [action])).queue := by
          rw [consumed_concat, play_concat, List.append_assoc]

theorem fallback_play (card : ScriptedCard) (actions : List Action) :
    (card.play actions).fallback? =
      (actions.filterMap Action.fallback?).getLast?.getD card.fallback? := by
  induction actions using List.reverseRecOn with
  | nil => rfl
  | append_singleton actions action ih =>
    rw [play_concat, fallback_act, ih, filterMap_concat, List.getLast?_append]
    cases action.fallback? with
    | none => rfl
    | some reply? => rfl

/-- The reply that is due after some actions: the first one not yet used up of all that were ever
queued, or else the fallback that was set last. -/
def due (card : ScriptedCard) (actions : List Action) : Option Reply :=
  (card.queue ++ actions.filterMap Action.queued?)[(card.consumed actions).length]?.or
    ((actions.filterMap Action.fallback?).getLast?.getD card.fallback?)

theorem next?_play (card : ScriptedCard) (actions : List Action) :
    (card.play actions).next? = card.due actions := by
  rw [due, next?, fallback_play, queue_play, List.getElem?_append_right (Nat.le_refl _), Nat.sub_self,
    List.head?_eq_getElem?]

/-- A scripted card after any actions, and what one more action then does. -/
theorem play_accounted (card : ScriptedCard) (actions : List Action) :
    let sent := actions.filterMap Action.sent?
    (card.play actions).sent = card.sent ++ sent ∧
      (card.play actions).frames = card.frames ++ sent.map Transmission.frame ∧
      (card.play actions).bitCounts = card.bitCounts ++ sent.map Transmission.bits ∧
      (card.play actions).waits = card.waits ++ sent.map Transmission.wait ∧
      card.queue ++ actions.filterMap Action.queued? =
        card.consumed actions ++ (card.play actions).queue ∧
      (card.play actions).fallback? =
        (actions.filterMap Action.fallback?).getLast?.getD card.fallback? ∧
      ∀ action,
        (action.call? = none → action.exchanged? (card.play actions) = none ∧
          card.consumed (actions ++ [action]) = card.consumed actions) ∧
        ∀ t buffer, action.call? = some (t, buffer) →
          card.consumed (actions ++ [action]) =
            card.consumed actions ++ (card.play actions).queue.take 1 ∧
          ∃ done, action.exchanged? (card.play actions) = some done ∧
            card.play (actions ++ [action]) = done.link ∧
            Plays (card.play actions) (card.due actions) t buffer done := by
  intro sent
  have hsent : (card.play actions).sent = card.sent ++ sent := sent_play card actions
  have hrecord {α : Type} (f : Transmission → α) :
      (card.play actions).sent.map f = card.sent.map f ++ sent.map f := by
    rw [hsent, List.map_append]
  refine ⟨hsent, hrecord _, hrecord _, hrecord _, queue_play card actions,
    fallback_play card actions, ?_⟩
  intro action
  constructor
  · intro hcall
    obtain ⟨hdone, -, -, -⟩ := act_of_no_call (card.play actions) hcall
    have hconsumed := consumed_concat card actions action
    rw [taken_of_no_call _ hcall, List.append_nil] at hconsumed
    exact ⟨hdone, hconsumed⟩
  · intro t buffer hcall
    obtain ⟨done, hdone, hact, hplays⟩ := plays_of_call? (card.play actions) hcall
    have hconsumed := consumed_concat card actions action
    rw [taken_of_call? _ hcall] at hconsumed
    rw [next?_play] at hplays
    have hplay : card.play (actions ++ [action]) = done.link := by rw [play_concat, hact]
    exact ⟨hconsumed, done, hdone, hplay, hplays⟩

/-- An error and an answer that does not fit are both used up. -/
theorem play_accounted_overlong :
    let card : ScriptedCard := { queue := [.fail .parity] }
    let failing : Action := .exchange [0x26, 0xFF] 7 [0, 0] 10
    let whole : Action := .exchangeBytes [0x50] [0, 0] 20
    let actions : List Action :=
      [failing, .enqueue (.answer [1, 2, 3] 24), .fallBack (some (.whole [0xF2]))]
    whole.call? = some (⟨[0x50], 8, 20⟩, [0, 0]) ∧
      (∃ done, whole.exchanged? (card.play actions) = some done ∧
        done.outcome = .error .overflow ∧ done.buffer = [0, 0] ∧
        done.link.frames = [[0x26], [0x50]] ∧ done.link.bitCounts = [7, 8] ∧
        done.link.waits = [10, 20] ∧ done.link.queue = []) ∧
      ∃ done, whole.exchanged? (card.play (actions ++ [whole])) = some done ∧
        done.outcome = .ok 8 ∧ done.buffer = [0xF2, 0] := by
  intro card failing whole actions
  have hcall : whole.call? = some (⟨[0x50], 8, 20⟩, [0, 0]) := rfl
  refine ⟨hcall, ?_, ?_⟩
  · obtain ⟨-, hframes, hbits, hwaits, -, -, hnext⟩ := play_accounted card actions
    obtain ⟨-, done, hdone, -, hplays⟩ := (hnext whole).2 _ _ hcall
    have hdue : card.due actions = some (.answer [1, 2, 3] 24) := by decide
    have hoverflow : done.outcome = .error .overflow :=
      hplays.overflow.mpr (.inr ⟨[1, 2, 3], 24, hdue, by decide⟩)
    refine ⟨done, hdone, hoverflow, hplays.untouched _ hoverflow, ?_, ?_, ?_, hplays.queue⟩
    · rw [hplays.frames, hframes]
      decide
    · rw [hplays.bitCounts, hbits]
      decide
    · rw [hplays.waits, hwaits]
      decide
  · obtain ⟨-, -, -, -, -, -, hnext⟩ := play_accounted card (actions ++ [whole])
    obtain ⟨-, done, hdone, -, hplays⟩ := (hnext whole).2 _ _ hcall
    have hdue : card.due (actions ++ [whole]) = some (.answer [0xF2] 8) := by decide
    have hok : done.outcome = .ok 8 := (hplays.received 8).mpr ⟨[0xF2], hdue, by decide⟩
    exact ⟨done, hdone, hok, hplays.written [0xF2] 8 hdue (by decide)⟩

end Proximity.ScriptedCard
