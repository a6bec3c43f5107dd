import Proximity.Attempt
import Proximity.Proofs.Frame.Codec

/-!
The course of an attempt over any link. All that an attempt does is said once, in `converse_eq`.
-/
namespace Proximity.Attempt

/-- The multiplier, when what was heard is an intact request for more time. -/
def requested? : Except Failure Bytes → Option UInt8
  | .error _ => none
  | .ok raw =>
    match Block.decode raw with
    | .ok (.supervisory pcb (multiplier :: _)) =>
      if pcb = Pcb.extension then some multiplier else none
    | _ => none

/-- How an attempt ends with what was heard last, unless that is a request for more time. -/
def conclusion : Except Failure Bytes → Except Failure Bytes
  | .error e => .error e
  | .ok raw =>
    match Block.decode raw with
    | .error (.tooShort length) => .error (.frameTooShort (8 * length))
    | .error (.crcMismatch expected actual) => .error (.crcMismatch expected actual)
    | .ok (.information _ payload) => .ok payload
    | .ok block => .error (.unsupportedBlock block.pcb)

def remark : Except Failure Bytes → List Event
  | .error _ => []
  | .ok raw =>
    match conclusion (.ok raw) with
    | .error (.unsupportedBlock pcb) => [.unsupported pcb]
    | _ => []

theorem requested?_eq_some_iff {outcome : Except Failure Bytes} {m : UInt8} :
    requested? outcome = some m ↔
      ∃ raw rest, outcome = .ok raw ∧
        Block.decode raw = .ok (.supervisory Pcb.extension (m :: rest)) := by
  constructor
  · intro h
    unfold requested? at h
    split at h
    · cases h
    · next raw =>
      split at h
      · next pcb multiplier rest hd =>
        split_ifs at h with he
        cases h
        exact ⟨raw, rest, rfl, he ▸ hd⟩
      · cases h
  · rintro ⟨raw, rest, rfl, hd⟩
    simp [requested?, hd]

theorem conclusion_of_refusal {raw : Bytes} {e : FrameError} (h : Block.decode raw = .error e) :
    conclusion (.ok raw) = .error (.ofFrameError e) := by
  cases e <;> simp only [conclusion, h, Failure.ofFrameError]

theorem conclusion_eq_ok_iff {outcome : Except Failure Bytes} {payload : Bytes} :
    conclusion outcome = .ok payload ↔
      ∃ raw pcb, outcome = .ok raw ∧ Block.decode raw = .ok (.information pcb payload) := by
  constructor
  · intro h
    cases outcome with
    | error e => cases h
    | ok raw =>
      unfold conclusion at h
      dsimp only at h
      split at h
      · cases h
      · cases h
      · next pcb _ hd =>
        cases h
        exact ⟨raw, pcb, rfl, hd⟩
      · cases h
  · rintro ⟨raw, pcb, rfl, hd⟩
    simp only [conclusion, hd]

theorem react_of_requested {raw : Bytes} {m : UInt8} (h : requested? (.ok raw) = some m) :
    react raw = .extend m := by
  obtain ⟨_, rest, ho, hd⟩ := requested?_eq_some_iff.mp h
  cases ho
  have hx : Pcb.extension.isExtension = true := by decide
  simp only [react, hd, hx, if_true]

/-- A block that is no request either delivers or is not supported. -/
theorem react_of_not_requested {raw : Bytes} (h : requested? (.ok raw) = none) :
    react raw = match Block.decode raw with
      | .error e => .corrupt e
      | .ok (.information _ payload) => .deliver payload
      | .ok block => .unsupported block.pcb := by
  unfold react
  cases hd : Block.decode raw with
  | error e => rfl
  | ok block =>
    cases block with
    | information pcb payload => rfl
    | acknowledge pcb => rfl
    | reserved pcb => rfl
    | supervisory pcb payload =>
      cases payload with
      | nil => rfl
      | cons m rest =>
        have hne : pcb ≠ Pcb.extension := by
          intro he
          simp [requested?, hd, he] at h
        have hx : ¬pcb.isExtension = true := fun he =>
          hne ((Pcb.isExtension_iff (Block.kind_of_decode_supervisory hd)).mp he)
        simp only [hx]
        rfl

variable {σ : Type}

/-- The end of an attempt that has granted `granted` requests and grants no more. -/
def ending (granted : Nat) (last : Heard σ) : Report σ :=
  match requested? last.outcome with
  | some _ =>
    ⟨.error (.extensionsExceeded granted), last.link, [.extensionsExhausted granted]⟩
  | none => ⟨conclusion last.outcome, last.link, remark last.outcome⟩

@[simp] theorem link_ending (granted : Nat) (last : Heard σ) :
    (ending granted last).link = last.link := by
  unfold ending
  split <;> rfl

variable [Link σ]

theorem link_listen (link : σ) (frame buffer : Bytes) (wait : UInt64) :
    (listen link frame buffer wait).link = (Link.exchangeBytes link frame buffer wait).link := by
  unfold listen
  dsimp only
  split
  · rfl
  · split <;> rfl

theorem buffer_listen (link : σ) (frame buffer : Bytes) (wait : UInt64) :
    (listen link frame buffer wait).buffer = (Link.exchangeBytes link frame buffer wait).buffer := by
  unfold listen
  dsimp only
  split
  · rfl
  · split <;> rfl

theorem outcome_listen (link : σ) (frame buffer : Bytes) (wait : UInt64) :
    (listen link frame buffer wait).outcome =
      match (Link.exchangeBytes link frame buffer wait).outcome with
      | .error e => .error (.link e)
      | .ok bits =>
        if bits < 24 then .error (.frameTooShort bits)
        else .ok ((Link.exchangeBytes link frame buffer wait).buffer.take (bits / 8)) := by
  unfold listen
  generalize Link.exchangeBytes link frame buffer wait = done
  obtain ⟨outcome, received, link⟩ := done
  cases outcome with
  | error e => rfl
  | ok bits =>
    by_cases hb : bits < 24 <;> simp [Frame.minLength, hb]

def grant (wait : UInt64) (heard : Heard σ) (multiplier : UInt8) : Heard σ :=
  listen heard.link (Frame.extension multiplier).toBytes heard.buffer
    (WaitingTime.extended wait multiplier)

/-- After the first answer the card asks for time with these multipliers in turn, and once all are
granted the last answer is heard. -/
inductive Course (wait : UInt64) : Heard σ → List UInt8 → Heard σ → Prop
  | refl (heard : Heard σ) : Course wait heard [] heard
  | grant {heard last : Heard σ} {multiplier : UInt8} {rest : List UInt8} :
    requested? heard.outcome = some multiplier →
    Course wait (grant wait heard multiplier) rest last →
    Course wait heard (multiplier :: rest) last

/-- What is noted on the way, when `granted` requests were granted before. -/
def chronicle (wait : UInt64) : (granted : Nat) → Heard σ → List UInt8 → List Event
  | _, heard, [] => heard.log
  | granted, heard, multiplier :: rest =>
    heard.log ++ .extensionSent (granted + 1) multiplier (WaitingTime.extended wait multiplier)
        (Frame.extension multiplier).toBytes ::
      chronicle wait (granted + 1) (grant wait heard multiplier) rest

theorem converse_of_not_requested {heard : Heard σ} (h : requested? heard.outcome = none)
    (wait : UInt64) (left granted : Nat) :
    converse wait left granted heard = (ending granted heard).after heard.log := by
  unfold converse ending Report.after
  rw [h]
  cases ho : heard.outcome with
  | error e => simp [conclusion, remark]
  | ok raw =>
    rw [ho] at h
    simp only [react_of_not_requested h, conclusion, remark]
    cases hd : Block.decode raw with
    | error e => cases e <;> simp [Failure.ofFrameError]
    | ok block => cases block <;> simp

theorem converse_zero (wait : UInt64) (granted : Nat) (heard : Heard σ) :
    converse wait 0 granted heard = (ending granted heard).after heard.log := by
  cases hr : requested? heard.outcome with
  | none => exact converse_of_not_requested hr wait 0 granted
  | some m =>
    unfold converse ending Report.after
    cases ho : heard.outcome with
    | error e =>
      rw [ho] at hr
      cases hr
    | ok raw =>
      rw [ho] at hr
      simp only [react_of_requested hr, hr]

theorem converse_succ {heard : Heard σ} {m : UInt8} (h : requested? heard.outcome = some m)
    (wait : UInt64) (left granted : Nat) :
    converse wait (left + 1) granted heard =
      (converse wait left (granted + 1) (grant wait heard m)).after
        (heard.log ++ [.extensionSent (granted + 1) m (WaitingTime.extended wait m)
          (Frame.extension m).toBytes]) := by
  cases ho : heard.outcome with
  | error e =>
    rw [ho] at h
    cases h
  | ok raw =>
    rw [ho] at h
    rw [converse]
    simp only [ho, react_of_requested h]
    rfl

/-- An attempt follows a course of granted requests, and stops short of its budget only when no more
is requested. -/
theorem converse_eq (wait : UInt64) (left granted : Nat) (heard : Heard σ) :
    ∃ ms last, Course wait heard ms last ∧ ms.length ≤ left ∧
      (requested? last.outcome ≠ none → ms.length = left) ∧
      converse wait left granted heard =
        (ending (granted + ms.length) last).after (chronicle wait granted heard ms) := by
  induction left generalizing granted heard with
  | zero =>
    exact ⟨[], heard, .refl heard, Nat.le_refl 0, fun _ => rfl, converse_zero wait granted heard⟩
  | succ left ih =>
    cases h : requested? heard.outcome with
    | none =>
      exact ⟨[], heard, .refl heard, Nat.zero_le _, fun hn => absurd h hn,
        converse_of_not_requested h wait (left + 1) granted⟩
    | some m =>
      obtain ⟨ms, last, hcourse, hle, hstop, heq⟩ := ih (granted + 1) (grant wait heard m)
      refine ⟨m :: ms, last, .grant h hcourse, Nat.succ_le_succ hle, ?_, ?_⟩
      · intro hn
        rw [List.length_cons, hstop hn]
      · have hg : granted + 1 + ms.length = granted + (m :: ms).length := by
          rw [List.length_cons]
          omega
        rw [converse_succ h, heq, hg]
        simp [Report.after, chronicle]

def opened (config : Config) (link : σ) (frame : Bytes) : Heard σ :=
  listen link frame (Bytes.zeros config.frameCapacity) config.frameWait

theorem run_eq (config : Config) (number : BlockNumber) (link : σ) (frame : Bytes) :
    ∃ ms last, Course config.frameWait (opened config link frame) ms last ∧
      ms.length ≤ config.maxExtensions ∧
      (requested? last.outcome ≠ none → ms.length = config.maxExtensions) ∧
      run config number link frame = (ending ms.length last).after
        (.informationSent number frame ::
          chronicle config.frameWait 0 (opened config link frame) ms) := by
  obtain ⟨ms, last, hcourse, hle, hstop, heq⟩ :=
    converse_eq config.frameWait config.maxExtensions 0 (opened config link frame)
  refine ⟨ms, last, hcourse, hle, hstop, ?_⟩
  rw [Nat.zero_add] at heq
  unfold run
  change (converse config.frameWait config.maxExtensions 0 (opened config link frame)).after _ = _
  rw [heq]
  rfl

end Proximity.Attempt
