import Proximity.Event
import Proximity.Proofs.Hex.RoundTrip

/-!
Reading lines of a log. A line says by its beginning what it is about, and bytes stand behind an
arrow.
-/
namespace Proximity

namespace Log

/-- The text behind the first `mark` of a line. -/
def behind? (mark line : String) : Option String :=
  (line.toList.dropInfix? mark.toList).map fun cut => String.ofList cut.2

def sent? (line : String) : Option String :=
  if line.startsWith "DEBUG I(" || line.startsWith "DEBUG WTX #" ||
      line.startsWith "DEBUG DESELECT " then
    behind? "-> " line
  else none

def received? (line : String) : Option String :=
  if line.startsWith "TRACE " then behind? "<- " line else none

def decimal (text : String) : Nat :=
  Nat.ofDigitChars 10 (text.toList.takeWhile Char.isDigit) 0

/-- What a line says of the frame that it announces. -/
inductive Heading where
  | information (number : Nat)
  | extension (round wait : Nat)
  | deselect
deriving DecidableEq

def number? (line : String) : Option Nat :=
  (behind? "(" line).map decimal

def round? (line : String) : Option Nat :=
  (behind? "#" line).map decimal

/-- The wait's mark begins like the multiplier's, and so is looked for behind that. -/
def wait? (line : String) : Option Nat :=
  ((behind? "wtxm=" line).bind (behind? "wait=")).map decimal

def heading? (line : String) : Option Heading :=
  if line.startsWith "DEBUG I(" then (number? line).map .information
  else if line.startsWith "DEBUG WTX #" then do
    let round ← round? line
    let wait ← wait? line
    return .extension round wait
  else if line.startsWith "DEBUG DESELECT " then some .deselect
  else none

/-- Each frame of a log, with the bytes that the very next line notes as received. -/
def exchanges : List String → List (String × Option String)
  | [] => []
  | line :: later =>
    match sent? line with
    | some frame => (frame, later.head?.bind received?) :: exchanges later
    | none => exchanges later

def tellsExhausted (line : String) : Bool :=
  line.startsWith "WARN "

def tellsLinkError (line : String) : Bool :=
  line.startsWith "DEBUG link error"

def tellsUnsupported (line : String) : Bool :=
  line.startsWith "DEBUG unsupported "

theorem behind?_append {front mark : String} {c : Char} {rest : List Char}
    (hmark : mark.toList = c :: rest) (hc : c ∉ front.toList) (back : String) :
    behind? mark (front ++ (mark ++ back)) = some back := by
  have hcut : (front ++ (mark ++ back)).toList.dropInfix? mark.toList =
      some (front.toList, back.toList) := by
    refine List.dropInfix?_eq_some_iff.mpr ⟨⟨mark.toList, by simp, beq_self_eq_true _⟩, ?_⟩
    intro front' mark' back' heq hmark'
    obtain rfl := eq_of_beq hmark'
    -- An earlier `mark` would begin within `front`.
    by_contra hlt
    have hlt : front'.length < front.toList.length := Nat.lt_of_not_le hlt
    have hhere : (front.toList ++ (mark.toList ++ back.toList))[front'.length]? = some c := by
      rw [← String.toList_append, ← String.toList_append, heq, hmark]
      simp
    rw [List.getElem?_append_left hlt] at hhere
    exact hc (List.mem_of_getElem? hhere)
  rw [behind?, hcut, Option.map_some, String.ofList_toList]

/-- A number is read up to the first character that is no digit. -/
theorem decimal_append (n : Nat) {mark : String} {c : Char} {rest : List Char}
    (hmark : mark.toList = c :: rest) (hc : c.isDigit = false) (back : String) :
    decimal (n.repr ++ (mark ++ back)) = n := by
  have hdigits : ∀ d ∈ Nat.toDigits 10 n, d.isDigit = true := by
    intro d hd
    exact Nat.isDigit_of_mem_toDigits (by decide) (by decide) hd
  have hstop : ¬c.isDigit = true := by
    rw [hc]
    decide
  rw [decimal, String.toList_append, String.toList_append, Nat.toList_repr, hmark, List.cons_append,
    List.takeWhile_append_of_pos hdigits, List.takeWhile_cons_of_neg hstop, List.append_nil,
    Nat.ofDigitChars_ten_toDigits]

end Log

theorem Hex.notMem_literal {c : Char} (hmark : c ∉ "0x".toList) (hc : ∀ n < 16, c ≠ digit .lower n)
    (b : UInt8) : c ∉ (Hex.literal b).toList := by
  have hhigh := hc (b.toNat / 16) (div_lt b)
  have hlow := hc (b.toNat % 16) (mod_lt b)
  simpa [literal, compact, pair, hhigh, hlow] using hmark

theorem notMem_decimal {c : Char} (hc : c.isDigit = false) (n : Nat) : c ∉ Nat.toDigits 10 n := by
  intro h
  have hdigit : c.isDigit = true := Nat.isDigit_of_mem_toDigits (by decide) (by decide) h
  rw [hc] at hdigit
  cases hdigit

namespace Event

def announced? : Event → Option Bytes
  | .informationSent _ frame => some frame
  | .extensionSent _ _ _ frame => some frame
  | .deselectSent frame => some frame
  | _ => none

def heading? : Event → Option Log.Heading
  | .informationSent number _ => some (.information number.toNat)
  | .extensionSent round _ wait _ => some (.extension round wait.toNat)
  | .deselectSent _ => some .deselect
  | _ => none

def received? : Event → Option Bytes
  | .received raw => some raw
  | _ => none

def isExhausted : Event → Bool
  | .extensionsExhausted _ => true
  | _ => false

def isLinkFailed : Event → Bool
  | .linkFailed _ => true
  | _ => false

def isUnsupported : Event → Bool
  | .unsupported _ => true
  | _ => false

theorem silent_of_announced? {e : Event} {frame : Bytes} (h : e.announced? = some frame) :
    e.received? = none ∧
      e.isExhausted = false ∧ e.isLinkFailed = false ∧ e.isUnsupported = false := by
  cases e <;> first | exact ⟨rfl, rfl, rfl, rfl⟩ | cases h

@[simp] theorem line_informationSent (number : BlockNumber) (frame : Bytes) :
    (informationSent number frame).line =
      "DEBUG I(" ++ number.toNat.repr ++ ") " ++ ("-> " ++ Hex.spaced frame) := by
  change "DEBUG " ++ ("I(" ++ number.toNat.repr ++ ") -> " ++ Hex.spaced frame) = _
  simp [← String.toList_inj]

@[simp] theorem line_extensionSent (round : Nat) (multiplier : UInt8) (wait : UInt64)
    (frame : Bytes) :
    (extensionSent round multiplier wait frame).line =
      "DEBUG WTX #" ++ round.repr ++ " wtxm=" ++ Hex.literal multiplier ++ " wait=" ++
        wait.toNat.repr ++ "ms " ++ ("-> " ++ Hex.spaced frame) := by
  change "DEBUG " ++ ("WTX #" ++ round.repr ++ " wtxm=" ++ Hex.literal multiplier ++ " wait=" ++
    wait.toNat.repr ++ "ms -> " ++ Hex.spaced frame) = _
  simp [← String.toList_inj]

@[simp] theorem line_deselectSent (frame : Bytes) :
    (deselectSent frame).line = "DEBUG DESELECT " ++ ("-> " ++ Hex.spaced frame) := by
  change "DEBUG " ++ ("DESELECT -> " ++ Hex.spaced frame) = _
  simp [← String.toList_inj]

@[simp] theorem line_received (raw : Bytes) :
    (Event.received raw).line = "TRACE " ++ ("<- " ++ Hex.spaced raw) := rfl

@[simp] theorem line_linkFailed (e : LinkError) :
    (linkFailed e).line = "DEBUG link error: " ++ e.message := by
  change "DEBUG " ++ ("link error: " ++ e.message) = _
  simp [← String.toList_inj]

@[simp] theorem line_unsupported (pcb : Pcb) :
    (unsupported pcb).line =
      "DEBUG unsupported " ++ (pcb.kind.text ++ " pcb=" ++ Hex.literal pcb) := by
  change "DEBUG " ++ ("unsupported " ++ pcb.kind.text ++ " pcb=" ++ Hex.literal pcb) = _
  simp [← String.toList_inj]

@[simp] theorem line_extensionsExhausted (granted : Nat) :
    (extensionsExhausted granted).line =
      "WARN " ++ ("tag requested WTX after " ++ granted.repr ++ " rounds, giving up") := rfl

theorem sent?_line (e : Event) : Log.sent? e.line = e.announced?.map Hex.spaced := by
  cases e with
  | informationSent number frame =>
    have hfront : '-' ∉ ("DEBUG I(" ++ number.toNat.repr ++ ") ").toList := by
      simp [notMem_decimal]
    rw [line_informationSent, Log.sent?, if_pos (by simp), Log.behind?_append rfl hfront]
    rfl
  | extensionSent round multiplier wait frame =>
    have hfront : '-' ∉ ("DEBUG WTX #" ++ round.repr ++ " wtxm=" ++ Hex.literal multiplier ++
        " wait=" ++ wait.toNat.repr ++ "ms ").toList := by
      have hliteral : '-' ∉ (Hex.literal multiplier).toList :=
        Hex.notMem_literal (by decide) (by decide) multiplier
      simp [notMem_decimal, hliteral]
    rw [line_extensionSent, Log.sent?, if_pos (by simp), Log.behind?_append rfl hfront]
    rfl
  | deselectSent frame =>
    rw [line_deselectSent, Log.sent?, if_pos (by simp), Log.behind?_append rfl (by decide)]
    rfl
  | _ => simp [Log.sent?, announced?]

theorem number?_line (number : BlockNumber) (frame : Bytes) :
    Log.number? (informationSent number frame).line = some number.toNat := by
  have hline : (informationSent number frame).line =
      "DEBUG I" ++ ("(" ++ (number.toNat.repr ++ (")" ++ (" -> " ++ Hex.spaced frame)))) := by
    simp [← String.toList_inj]
  rw [Log.number?, hline, Log.behind?_append rfl (by decide), Option.map_some,
    Log.decimal_append number.toNat rfl (by decide)]

theorem round?_line (round : Nat) (multiplier : UInt8) (wait : UInt64) (frame : Bytes) :
    Log.round? (extensionSent round multiplier wait frame).line = some round := by
  have hline : (extensionSent round multiplier wait frame).line =
      "DEBUG WTX " ++ ("#" ++ (round.repr ++ (" " ++ ("wtxm=" ++ Hex.literal multiplier ++
        " wait=" ++ wait.toNat.repr ++ "ms -> " ++ Hex.spaced frame)))) := by
    simp [← String.toList_inj]
  rw [Log.round?, hline, Log.behind?_append rfl (by decide), Option.map_some,
    Log.decimal_append round rfl (by decide)]

theorem wait?_line (round : Nat) (multiplier : UInt8) (wait : UInt64) (frame : Bytes) :
    Log.wait? (extensionSent round multiplier wait frame).line = some wait.toNat := by
  have hline : (extensionSent round multiplier wait frame).line =
      "DEBUG WTX #" ++ round.repr ++ " " ++ ("wtxm=" ++ (Hex.literal multiplier ++ " " ++
        ("wait=" ++ (wait.toNat.repr ++ ("ms" ++ (" -> " ++ Hex.spaced frame)))))) := by
    simp [← String.toList_inj]
  have hround : 'w' ∉ ("DEBUG WTX #" ++ round.repr ++ " ").toList := by
    simp [notMem_decimal]
  have hmultiplier : 'w' ∉ (Hex.literal multiplier ++ " ").toList := by
    have hliteral : 'w' ∉ (Hex.literal multiplier).toList :=
      Hex.notMem_literal (by decide) (by decide) multiplier
    simp [hliteral]
  rw [Log.wait?, hline, Log.behind?_append rfl hround, Option.bind_some,
    Log.behind?_append rfl hmultiplier, Option.map_some,
    Log.decimal_append wait.toNat rfl (by decide)]

theorem heading?_line (e : Event) : Log.heading? e.line = e.heading? := by
  cases e with
  | informationSent number frame =>
    rw [Log.heading?, if_pos (by simp), number?_line]
    rfl
  | extensionSent round multiplier wait frame =>
    rw [Log.heading?, if_neg (by simp), if_pos (by simp), round?_line, wait?_line]
    rfl
  | deselectSent frame =>
    rw [Log.heading?, if_neg (by simp), if_neg (by simp), if_pos (by simp)]
    rfl
  | _ => simp [Log.heading?, heading?]

theorem received?_line (e : Event) : Log.received? e.line = e.received?.map Hex.spaced := by
  cases e with
  | received raw =>
    rw [line_received, Log.received?, if_pos (by simp), Log.behind?_append rfl (by decide)]
    rfl
  | _ => simp [Log.received?, received?]

theorem tellsExhausted_line (e : Event) : Log.tellsExhausted e.line = e.isExhausted := by
  cases e <;> simp [Log.tellsExhausted, isExhausted]

theorem tellsLinkError_line (e : Event) : Log.tellsLinkError e.line = e.isLinkFailed := by
  cases e <;> simp [Log.tellsLinkError, isLinkFailed]

theorem tellsUnsupported_line (e : Event) : Log.tellsUnsupported e.line = e.isUnsupported := by
  cases e <;> simp [Log.tellsUnsupported, isUnsupported]

end Event

namespace Log

theorem exists_line_iff {tells : String → Bool} {test : Event → Bool}
    (h : ∀ e, tells e.line = test e) {log : List Event} :
    (∃ line ∈ log.map Event.line, tells line = true) ↔ ∃ e ∈ log, test e = true := by
  simp [h]

theorem exchanges_of_announced {e : Event} {frame : Bytes} (h : e.announced? = some frame)
    (later : List Event) :
    exchanges ((e :: later).map Event.line) =
      (Hex.spaced frame, (later.head?.bind Event.received?).map Hex.spaced) ::
        exchanges (later.map Event.line) := by
  have hreply : (later.map Event.line).head?.bind received? =
      (later.head?.bind Event.received?).map Hex.spaced := by
    cases later with
    | nil => rfl
    | cons next _ => exact Event.received?_line next
  rw [List.map_cons, exchanges, Event.sent?_line, h, hreply]
  rfl

theorem exchanges_of_silent {e : Event} (h : e.announced? = none) (later : List Event) :
    exchanges ((e :: later).map Event.line) = exchanges (later.map Event.line) := by
  rw [List.map_cons, exchanges, Event.sent?_line, h]
  rfl

theorem exchanges_eq_nil {log : List Event} (h : ∀ e ∈ log, e.announced? = none) :
    exchanges (log.map Event.line) = [] := by
  induction log with
  | nil => rfl
  | cons e later ih =>
    rw [exchanges_of_silent (h e List.mem_cons_self)]
    exact ih fun next hnext => h next (List.mem_cons_of_mem _ hnext)

theorem filterMap_lines {α : Type} {read? : String → Option α} {value? : Event → Option α}
    (h : ∀ e, read? e.line = value? e) (log : List Event) :
    (log.map Event.line).filterMap read? = log.filterMap value? := by
  rw [List.filterMap_map]
  exact congrArg (List.filterMap · log) (funext h)

/-- Bytes that are read off lines as text are the bytes of the events. -/
theorem parse_lines {read? : String → Option String} {bytes? : Event → Option Bytes}
    (h : ∀ e, read? e.line = (bytes? e).map Hex.spaced) (log : List Event) :
    ((log.map Event.line).filterMap read?).map Hex.parse = (log.filterMap bytes?).map .ok := by
  rw [filterMap_lines h, List.map_filterMap, List.map_filterMap]
  refine congrArg (List.filterMap · log) (funext fun e => ?_)
  simp [Function.comp_def, Hex.parse_spaced]

end Log

end Proximity
