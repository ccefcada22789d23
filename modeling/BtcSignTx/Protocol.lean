import BtcSignTx.Session

/-!
# The protocol of a signing session

What a signing session must look like from outside, written as checks over the session log. Each
reads the log one event at a time and ends in a state that says whether the session kept to the
protocol so far; `monitors` runs them together.

* `hintMonitor` follows the reference schedule of hints: for each input, `Input(i)`, `PrevtxInit(i)`,
  then `PrevtxInput(i, k)` and `PrevtxOutput(i, k)` for the counts of the host's `PrevtxInit` reply;
  the outputs; for each input again `Input(i)`, and `HostNonce(i)` when the host's input carries a
  nonce commitment; then the `Done` response. It accepts a reply only of the variant the hint asks for
  (`NextType.demands`). After a reply of another variant only `sign_reset` may follow.
* `envelopeMonitor` checks that every message is wrapped exactly when the last request received was a
  `BtcRequest`.
* `sigMonitor` checks where the results of signing travel. Only `sign_input_pass2`, at the position
  its input's second-pass `Input` reply led to, stages one: the signer commitment of input `i`, which
  the `HostNonce(i)` hint must carry, or the signature of input `i`, which the `Input(i + 1)` hint
  must carry. Once the host answers the commitment with its nonce, `sign_antiklepto` stages the
  signature. Every other message carries nothing. The check records whose signatures were sent.
* `callMonitor` follows the reference order of the calls (`sign_init`, then `sign_input_pass1` and
  `handle_prevtx` per input, `sign_output` per output, `sign_input_pass2` and `sign_antiklepto` per
  input). Each signing native must get the record of the host's reply logged right before it, the
  reply to that call's own hint. It lets a failed call end the order, and ends at one `sign_reset`.

A position in a schedule is a `SchedulePos` or a `CallPos`; the `enter*` functions give the first
position at or after a loop's start, skipping loops with no iteration.
-/

set_option autoImplicit false
set_option relaxedAutoImplicit false

namespace BtcSignTx

/-- The request variant a hint of type `typ` asks for. -/
def NextType.demands : NextType → Request → Bool
  | .input, .btcSignInput _ => true
  | .output, .btcSignOutput _ => true
  | .prevtxInit, .btc (.prevtxInit _) => true
  | .prevtxInput, .btc (.prevtxInput _) => true
  | .prevtxOutput, .btc (.prevtxOutput _) => true
  | .hostNonce, .btc (.antikleptoSignature _) => true
  | _, _ => false

/-! ### The schedule of hints -/

/-- A position in the reference schedule of hints: the hint the device sends next, or the final
`Done` response. `prevtxInput i k a b` is the `k`-th input of input `i`'s previous transaction, whose
header announced `a` inputs and `b` outputs. -/
inductive SchedulePos
  | firstInput (i : Nat)
  | prevtxInit (i : Nat)
  | prevtxInput (i k a b : Nat)
  | prevtxOutput (i k b : Nat)
  | output (j : Nat)
  | secondInput (i : Nat)
  | hostNonce (i : Nat)
  | done
  deriving DecidableEq, Repr

/-- The hint sent at a position: its type, index and previous index. -/
def SchedulePos.hint : SchedulePos → Option (NextType × Nat × Nat)
  | .firstInput i => some (.input, i, 0)
  | .prevtxInit i => some (.prevtxInit, i, 0)
  | .prevtxInput i k _ _ => some (.prevtxInput, i, k)
  | .prevtxOutput i k _ => some (.prevtxOutput, i, k)
  | .output j => some (.output, j, 0)
  | .secondInput i => some (.input, i, 0)
  | .hostNonce i => some (.hostNonce, i, 0)
  | .done => none

section Schedule

variable (numInputs numOutputs : Nat)

/-- The second pass from input `i` on. -/
def enterSecondPass (i : Nat) : SchedulePos :=
  if i < numInputs then .secondInput i else .done

/-- The outputs from output `j` on. -/
def enterOutputs (j : Nat) : SchedulePos :=
  if j < numOutputs then .output j else enterSecondPass numInputs 0

/-- The first pass from input `i` on. -/
def enterFirstPass (i : Nat) : SchedulePos :=
  if i < numInputs then .firstInput i else enterOutputs numInputs numOutputs 0

/-- The outputs of input `i`'s previous transaction from output `k` on, of `b`. -/
def enterPrevtxOutputs (i k b : Nat) : SchedulePos :=
  if k < b then .prevtxOutput i k b else enterFirstPass numInputs numOutputs (i + 1)

/-- The inputs of input `i`'s previous transaction from input `k` on, of `a`, then its `b` outputs. -/
def enterPrevtxInputs (i k a b : Nat) : SchedulePos :=
  if k < a then .prevtxInput i k a b else enterPrevtxOutputs numInputs numOutputs i 0 b

/-- The position after the host answered the hint at `pos` with `request` of the variant asked for:
the counts of a `PrevtxInit` reply and the nonce commitment of a second-pass `Input` reply choose
what comes next. -/
def SchedulePos.advance : SchedulePos → Request → SchedulePos
  | .firstInput i, _ => .prevtxInit i
  | .prevtxInit i, .btc (.prevtxInit init) =>
    enterPrevtxInputs numInputs numOutputs i 0 init.numInputs.toNat init.numOutputs.toNat
  | .prevtxInput i k a b, _ => enterPrevtxInputs numInputs numOutputs i (k + 1) a b
  | .prevtxOutput i k b, _ => enterPrevtxOutputs numInputs numOutputs i (k + 1) b
  | .output j, _ => enterOutputs numInputs numOutputs (j + 1)
  | .secondInput i, .btcSignInput input =>
    if input.hostNonceCommitment.isSome then .hostNonce i else enterSecondPass numInputs (i + 1)
  | .hostNonce i, _ => enterSecondPass numInputs (i + 1)
  | pos, _ => pos

theorem enterSecondPass_of_lt {i : Nat} (h : i < numInputs) :
    enterSecondPass numInputs i = .secondInput i := if_pos h

theorem enterFirstPass_of_lt {i : Nat} (h : i < numInputs) :
    enterFirstPass numInputs numOutputs i = .firstInput i := if_pos h

theorem enterOutputs_of_lt {j : Nat} (h : j < numOutputs) :
    enterOutputs numInputs numOutputs j = .output j := if_pos h

@[simp] theorem enterSecondPass_self : enterSecondPass numInputs numInputs = .done :=
  if_neg (Nat.lt_irrefl _)

@[simp] theorem enterOutputs_self :
    enterOutputs numInputs numOutputs numOutputs = enterSecondPass numInputs 0 :=
  if_neg (Nat.lt_irrefl _)

@[simp] theorem enterFirstPass_self :
    enterFirstPass numInputs numOutputs numInputs = enterOutputs numInputs numOutputs 0 :=
  if_neg (Nat.lt_irrefl _)

@[simp] theorem enterPrevtxInputs_self (i a b : Nat) :
    enterPrevtxInputs numInputs numOutputs i a a b = enterPrevtxOutputs numInputs numOutputs i 0 b :=
  if_neg (Nat.lt_irrefl a)

@[simp] theorem enterPrevtxOutputs_self (i b : Nat) :
    enterPrevtxOutputs numInputs numOutputs i b b = enterFirstPass numInputs numOutputs (i + 1) :=
  if_neg (Nat.lt_irrefl b)

end Schedule

/-- The state of the hint check: a position of the schedule; `stopped` after a failed round trip;
`rejected` after a reply of a variant the hint did not ask for, and `closed` after the `sign_reset`
that must follow it; `violated` once the log left the protocol. -/
inductive HintStage
  | at (pos : SchedulePos)
  | stopped
  | rejected
  | closed
  | violated
  deriving DecidableEq, Repr

/-- One event of the hint check. A message must carry the hint of the current position; a reply of
the variant it asks for advances the schedule. After a rejected reply the only events allowed are
the log entry of the `handle_prevtx` call it ended and `sign_reset`. -/
def hintStep (request : BtcSignInitRequest) (stage : HintStage) : Event → HintStage
  | .exchange response reply =>
    match stage with
    | .at pos =>
      match pos.hint with
      | some (typ, index, prevIndex) =>
        if response.next.type = typ ∧ response.next.index.toNat = index ∧
            response.next.prevIndex.toNat = prevIndex then
          match reply with
          | .ok r =>
            if typ.demands r then .at (pos.advance request.numInputs.toNat request.numOutputs.toNat r)
            else .rejected
          | .error _ => .stopped
        else .violated
      | none => .violated
    | _ => .violated
  | .signReset =>
    match stage with
    | .rejected => .closed
    | .closed => .violated
    | stage => stage
  | .handlePrevtx _ _ _ =>
    match stage with
    | .closed => .violated
    | stage => stage
  | _ =>
    match stage with
    | .rejected => .violated
    | .closed => .violated
    | stage => stage

/-- The hint check over a log, from the first position of the schedule. -/
def hintMonitor (request : BtcSignInitRequest) (log : List Event) : HintStage :=
  log.foldl (hintStep request) (.at (enterFirstPass request.numInputs.toNat request.numOutputs.toNat 0))

/-! ### Envelopes -/

/-- One event of the envelope check, whose state is whether the next message must be wrapped:
a message must be in that envelope, and a request received sets it to whether the request is a
`BtcRequest`. `none` once a message was in the wrong envelope. -/
def envelopeStep (wrap : Option Bool) : Event → Option Bool
  | .exchange response reply =>
    wrap.bind fun wrap ↦
      if response.isWrapped = wrap then
        some (match reply with
          | .ok request => request.isBtc
          | .error _ => wrap)
      else none
  | _ => wrap

/-- The envelope check over a log. The first message answers `BtcSignInit`, which is not a
`BtcRequest`. -/
def envelopeMonitor (log : List Event) : Option Bool :=
  log.foldl envelopeStep (some false)

/-! ### Signatures -/

/-- What the next message must carry: nothing; the signature of input `i`; the signer commitment of
input `i`; or, once the host has answered that commitment with its nonce, nothing until
`sign_antiklepto` has signed input `i`. -/
inductive Waiting
  | idle
  | signature (i : Nat) (bytes : Bytes)
  | commitment (i : Nat) (bytes : Bytes)
  | nonce (i : Nat)
  deriving DecidableEq, Repr

/-- The reset hint carrying what waits: `has_signature` and the signature for a signature, the
commitment alone for a commitment. -/
def Waiting.toNext : Waiting → BtcSignNextResponse
  | .signature _ bytes => { emptyNext with hasSignature := true, signature := bytes }
  | .commitment _ bytes => { emptyNext with antiKleptoSignerCommitment := some ⟨bytes⟩ }
  | _ => emptyNext

/-- A hint carries exactly what waits. -/
def Waiting.Carried (waiting : Waiting) (next : BtcSignNextResponse) : Prop :=
  next.hasSignature = waiting.toNext.hasSignature ∧ next.signature = waiting.toNext.signature ∧
    next.antiKleptoSignerCommitment = waiting.toNext.antiKleptoSignerCommitment

instance (waiting : Waiting) (next : BtcSignNextResponse) : Decidable (waiting.Carried next) :=
  inferInstanceAs (Decidable (_ ∧ _ ∧ _))

/-- The position of the hint that must carry what waits: `Input(i + 1)` for the signature of input
`i`, `HostNonce(i)` for its commitment. No hint may be sent while `sign_antiklepto` is due. -/
def Waiting.DueAt : Waiting → SchedulePos → Prop
  | .idle, _ => True
  | .signature i _, pos => pos = .secondInput (i + 1)
  | .commitment i _, pos => pos = .hostNonce i
  | .nonce _, _ => False

instance (waiting : Waiting) (pos : SchedulePos) : Decidable (waiting.DueAt pos) := by
  cases waiting <;> unfold Waiting.DueAt <;> infer_instance

/-- Whether what waits must go out with the very next event: a commitment in the next message, and
the call of `sign_antiklepto` right after the host's nonce. -/
def Waiting.Pending : Waiting → Bool
  | .commitment _ _ | .nonce _ => true
  | _ => false

/-- The signature of input `i`, when it is what waits. -/
def Waiting.signed : Waiting → List Nat
  | .signature i _ => [i]
  | _ => []

/-- The state of the signature check: what waits, and the inputs whose signature a message
carried, in the order sent. -/
structure SigState where
  waiting : Waiting
  sent : List Nat
  deriving DecidableEq, Repr

/-- Nothing waits and nothing was sent. -/
def SigState.initial : SigState := ⟨.idle, []⟩

/-- After a message carried what waited, with the host's reply to it: a signature is sent, and a
commitment that the host answered with a nonce makes `sign_antiklepto` due. -/
def SigState.sendOn (s : SigState) (reply : Except Error Request) : SigState :=
  match s.waiting, reply with
  | .signature i _, _ => ⟨.idle, s.sent ++ [i]⟩
  | .commitment i _, .ok (.btc (.antikleptoSignature _)) => ⟨.nonce i, s.sent⟩
  | _, _ => ⟨.idle, s.sent⟩

/-- The signature check after the second pass signed `k` inputs: the signature of input `k - 1`
waits, and those of the inputs before it were sent, in input order. -/
def SignedUpTo : Nat → SigState → Prop
  | 0, s => s = .initial
  | k + 1, s => ∃ signature, s = ⟨.signature k signature, List.range k⟩

/-- What `sign_input_pass2` may stage at `pos`, the position its input's second-pass `Input` reply
led to: the commitment of input `i` at `HostNonce(i)` for an input with a host nonce commitment,
and otherwise the signature of input `i` at `Input(i + 1)`, or of the last input at `Done`. `none`
anywhere else. -/
def SchedulePos.staged (numInputs : Nat) (antiklepto : Bool) (signature commitment : Bytes) :
    SchedulePos → Option Waiting
  | .hostNonce i => if antiklepto then some (.commitment i commitment) else none
  | .secondInput (i + 1) => if antiklepto then none else some (.signature i signature)
  | .done =>
    if !antiklepto && 0 < numInputs then some (.signature (numInputs - 1) signature) else none
  | _ => none

/-- One event of the signature check, read at the hint stage before the event. A message must be at
the position where what waits is due and carry exactly that. `sign_input_pass2` may stage a result
only when nothing waits (`SchedulePos.staged`), and `sign_antiklepto` only when it is due. While a
commitment or a call of `sign_antiklepto` is pending, nothing else may happen. `none` once
violated. -/
def sigStep (numInputs : Nat) (stage : HintStage) (state : Option SigState) (event : Event) :
    Option SigState :=
  state.bind fun s ↦
    match event, s.waiting with
    | .exchange response reply, waiting =>
      match stage with
      | .at pos =>
        if waiting.Carried response.next ∧ waiting.DueAt pos then some (s.sendOn reply) else none
      | _ => none
    | .signInputPass2 input _ (.ok (signature, commitment)), .idle =>
      match stage with
      | .at pos => (pos.staged numInputs input.hostNonceCommitment.isSome signature commitment).map
          fun waiting ↦ { s with waiting := waiting }
      | _ => none
    | .signInputPass2 _ _ (.error _), .idle => some s
    | .signAntiklepto _ (.ok signature), .nonce i => some { s with waiting := .signature i signature }
    | .signAntiklepto _ (.error _), .nonce _ => some { s with waiting := .idle }
    | .signInputPass2 _ _ _, _ => none
    | .signAntiklepto _ _, _ => none
    | _, waiting => if waiting.Pending then none else some s

/-- Whether an event is a message with `has_signature` set. -/
def Event.carriesSignature : Event → Bool
  | .exchange response _ => response.next.hasSignature
  | _ => false

/-- The number of messages in a log that carry a signature. -/
def signedMessages (log : List Event) : Nat :=
  log.countP Event.carriesSignature

/-! ### Calls -/

/-- A position in the reference order of calls after `sign_init`: the call that comes next. -/
inductive CallPos
  | pass1 (i : Nat)
  | prevtx (i : Nat) (input : BtcSignInputRequest)
  | output (j : Nat)
  | pass2 (i : Nat)
  | antiklepto (i : Nat)
  | complete
  deriving DecidableEq, Repr

section CallSchedule

variable (numInputs numOutputs : Nat)

/-- The second pass from input `i` on. -/
def enterCallPass2 (i : Nat) : CallPos :=
  if i < numInputs then .pass2 i else .complete

/-- The outputs from output `j` on. -/
def enterCallOutputs (j : Nat) : CallPos :=
  if j < numOutputs then .output j else enterCallPass2 numInputs 0

/-- The first pass from input `i` on. -/
def enterCallPass1 (i : Nat) : CallPos :=
  if i < numInputs then .pass1 i else enterCallOutputs numInputs numOutputs 0

theorem enterCallPass2_of_lt {i : Nat} (h : i < numInputs) :
    enterCallPass2 numInputs i = .pass2 i := if_pos h

theorem enterCallPass1_of_lt {i : Nat} (h : i < numInputs) :
    enterCallPass1 numInputs numOutputs i = .pass1 i := if_pos h

theorem enterCallOutputs_of_lt {j : Nat} (h : j < numOutputs) :
    enterCallOutputs numInputs numOutputs j = .output j := if_pos h

@[simp] theorem enterCallPass2_self : enterCallPass2 numInputs numInputs = .complete :=
  if_neg (Nat.lt_irrefl _)

@[simp] theorem enterCallOutputs_self :
    enterCallOutputs numInputs numOutputs numOutputs = enterCallPass2 numInputs 0 :=
  if_neg (Nat.lt_irrefl _)

@[simp] theorem enterCallPass1_self :
    enterCallPass1 numInputs numOutputs numInputs = enterCallOutputs numInputs numOutputs 0 :=
  if_neg (Nat.lt_irrefl _)

end CallSchedule

/-- The reply a log entry received and the message it answered, when the entry is a round trip
that the host answered. -/
def Event.answered : Event → Option (Response × Request)
  | .exchange response (.ok request) => some (response, request)
  | _ => none

/-- Whether `last` is the host's answer to the hint of type `typ` and index `index`, carrying
`record`. -/
def answers : Option (Response × Request) → NextType → Nat → Request → Bool
  | some (response, request), typ, index, record =>
    response.next.type == typ && response.next.index.toNat == index && request == record
  | none, _, _, _ => false

/-- The state of the call check: before the keystore check, before `sign_init`, a position of the
call order; `failed` once a call failed; `reset` after `sign_reset`, recording whether every call of
the order was made; `violated` once the log left the order. -/
inductive CallStage
  | isLocked
  | signInit
  | at (pos : CallPos)
  | failed
  | reset (complete : Bool)
  | violated
  deriving DecidableEq, Repr

/-- The stage after a call that returned `result`: `next` when it returned `Ok`. -/
def CallStage.after {α : Type} (result : Except Error α) (next : CallStage) : CallStage :=
  match result with
  | .ok _ => next
  | .error _ => .failed

/-- One event of the call check, where `last` is what the previous log entry received (see
`Event.answered`). A call must be the one the order expects, with `last` set exactly for the last
input or output. A signing native must receive the record that `last` carries, in the host's answer
to the hint of that call: `Input(i)` for both passes of input `i`, `Output(j)` for output `j`,
`HostNonce(i)` for the anti-klepto call of input `i`. `handle_prevtx` must receive the record
`sign_input_pass1` received. Round trips, progress updates and status screens are not calls.
`sign_reset` may come once, at any point. -/
def callStep (request : BtcSignInitRequest) (last : Option (Response × Request)) (stage : CallStage) :
    Event → CallStage
  | .exchange _ _ => stage
  | .progressSet _ => stage
  | .status _ _ => stage
  | .isLocked locked =>
    match stage with
    | .isLocked => if locked then .failed else .signInit
    | _ => .violated
  | .signInit r result =>
    match stage with
    | .signInit =>
      if r = request then
        .after result (.at (enterCallPass1 request.numInputs.toNat request.numOutputs.toNat 0))
      else .violated
    | _ => .violated
  | .signInputPass1 input lastInput result =>
    match stage with
    | .at (.pass1 i) =>
      if lastInput = (i + 1 == request.numInputs.toNat) ∧ answers last .input i (.btcSignInput input)
      then .after result (.at (.prevtx i input))
      else .violated
    | _ => .violated
  | .handlePrevtx index input result =>
    match stage with
    | .at (.prevtx i x) =>
      if index.toNat = i ∧ input = x then
        .after result (.at (enterCallPass1 request.numInputs.toNat request.numOutputs.toNat (i + 1)))
      else .violated
    | _ => .violated
  | .signOutput output lastOutput result =>
    match stage with
    | .at (.output j) =>
      if lastOutput = (j + 1 == request.numOutputs.toNat) ∧
          answers last .output j (.btcSignOutput output) then
        .after result (.at (enterCallOutputs request.numInputs.toNat request.numOutputs.toNat (j + 1)))
      else .violated
    | _ => .violated
  | .signInputPass2 input lastInput result =>
    match stage with
    | .at (.pass2 i) =>
      if lastInput = (i + 1 == request.numInputs.toNat) ∧ answers last .input i (.btcSignInput input)
      then
        .after result (.at (if input.hostNonceCommitment.isSome then .antiklepto i
          else enterCallPass2 request.numInputs.toNat (i + 1)))
      else .violated
    | _ => .violated
  | .signAntiklepto nonce result =>
    match stage with
    | .at (.antiklepto i) =>
      if answers last .hostNonce i (.btc (.antikleptoSignature nonce)) then
        .after result (.at (enterCallPass2 request.numInputs.toNat (i + 1)))
      else .violated
    | _ => .violated
  | .signReset =>
    match stage with
    | .reset _ => .violated
    | .violated => .violated
    | .at .complete => .reset true
    | _ => .reset false

/-! ### The checks together -/

/-- The states of the checks, with what the last log entry received and the number of messages that
carried a signature. -/
structure Monitors where
  hint : HintStage
  wrap : Option Bool
  sig : Option SigState
  last : Option (Response × Request)
  call : CallStage
  signed : Nat
  deriving DecidableEq

/-- One event of all checks. -/
def Monitors.step (request : BtcSignInitRequest) (m : Monitors) (event : Event) : Monitors :=
  ⟨hintStep request m.hint event, envelopeStep m.wrap event,
    sigStep request.numInputs.toNat m.hint m.sig event, event.answered,
    callStep request m.last m.call event, m.signed + if event.carriesSignature then 1 else 0⟩

/-- The checks at the start of a session. -/
def Monitors.initial (request : BtcSignInitRequest) : Monitors :=
  ⟨.at (enterFirstPass request.numInputs.toNat request.numOutputs.toNat 0), some false,
    some .initial, none, .isLocked, 0⟩

/-- The checks over a log. -/
def monitors (request : BtcSignInitRequest) (log : List Event) : Monitors :=
  log.foldl (Monitors.step request) (Monitors.initial request)

/-- The call check over a log. -/
def callMonitor (request : BtcSignInitRequest) (log : List Event) : CallStage :=
  (monitors request log).call

theorem monitors_append (request : BtcSignInitRequest) (log : List Event) (event : Event) :
    monitors request (log ++ [event]) = (monitors request log).step request event := by
  simp [monitors]

theorem foldl_step_hint (request : BtcSignInitRequest) :
    ∀ (log : List Event) (m : Monitors),
      (log.foldl (Monitors.step request) m).hint = log.foldl (hintStep request) m.hint ∧
      (log.foldl (Monitors.step request) m).wrap = log.foldl envelopeStep m.wrap ∧
      (log.foldl (Monitors.step request) m).signed = m.signed + signedMessages log
  | [], _ => ⟨rfl, rfl, rfl⟩
  | event :: log, m => by
    obtain ⟨hhint, hwrap, hsigned⟩ := foldl_step_hint request log (m.step request event)
    refine ⟨hhint, hwrap, ?_⟩
    rw [List.foldl_cons, hsigned]
    simp only [Monitors.step, signedMessages, List.countP_cons]
    omega

/-- The hint check, the envelope check and the count of signed messages each read the log alone. -/
theorem monitors_eq (request : BtcSignInitRequest) (log : List Event) :
    (monitors request log).hint = hintMonitor request log ∧
    (monitors request log).wrap = envelopeMonitor log ∧
    (monitors request log).signed = signedMessages log := by
  obtain ⟨hhint, hwrap, hsigned⟩ := foldl_step_hint request log (Monitors.initial request)
  exact ⟨hhint, hwrap, hsigned.trans (Nat.zero_add _)⟩

end BtcSignTx
