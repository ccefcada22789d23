import BtcSignTx.Process
import BtcSignTx.HonestHost
import BtcSignTx.LogFacts

/-!
# The signing flow, walked once

A walk through the code of `process` shows where the checks of `Protocol` stand at every point of a
session, and which facts of `LogFacts` hold of the log there, for every host and every outcome of
the native calls. It is the only walk of the code: every result about whole sessions is read off
its final statement, `runProcess_protocol`.

Between two round trips the session is `Ready`: the checks sit at known positions, the
`NextResponse` holds exactly what waits at the signature check, no step has failed, the facts of
every session hold (`Facts`), and so do the gates of the phase the call order is in
(`PhaseFacts`). The walk has one rule per kind of step: a round trip (`getTyped_ready`, whatever
the accessor), a log entry that is not a message (`Ready.append_call` when it succeeds,
`Ready.append_failure` when it fails), and the log entry of a failed `handle_prevtx`
(`FailedAt.append_handlePrevtx`). Where each call leaves the call check is one lemma per call
(`callStep_signInputPass1` and its siblings). From them come one lemma for `handle_prevtx` and one
per loop body, and `process_ready` for `_process`.

Every failure ends in `Failed`: the log stopped at its first failure, no check is violated, nothing
is pending at the signature check, the error is explained, and some collaborator misbehaved. The
last comes from what the failing step received: an honest host answers every hint of the schedule
with a record of the variant asked for (`HostTx.Honest.reply_input` and its siblings), and accepting
natives fail no call.

Read one check at a time, `runProcess_protocol` gives the results of this module:

* `runProcess_follows_hint_schedule`: the hints follow the reference schedule, a reply of the wrong
  variant ends the session with `InvalidState`, and a returned session ends with `Done(0, 0)`;
* `runProcess_wraps_like_request`: every message is in the envelope of the request it answers;
* `runProcess_delivers_each_signature_once`: every result of signing travels in the message the
  signature check names, and a returned session sent every signature in input order, the last one
  in the `Done` response;
* `runProcess_calls_in_order`: the calls follow the reference order, each signing native getting the
  record of the host's answer to its own hint, and end with one `sign_reset`.
-/

set_option autoImplicit false
set_option relaxedAutoImplicit false

namespace BtcSignTx

open Session

/-! ### What waits at the signature check -/

@[simp] theorem Waiting.toNext_prevIndex (waiting : Waiting) : waiting.toNext.prevIndex = 0 := by
  cases waiting <;> rfl

@[simp] theorem Waiting.toNext_index (waiting : Waiting) : waiting.toNext.index = 0 := by
  cases waiting <;> rfl

theorem Waiting.signed_length (waiting : Waiting) :
    waiting.signed.length = if waiting.toNext.hasSignature then 1 else 0 := by
  cases waiting <;> rfl

theorem SigState.sendOn_toNext (s : SigState) (reply : Except Error Request) :
    (s.sendOn reply).waiting.toNext = emptyNext := by
  unfold SigState.sendOn; split <;> rfl

theorem SigState.sendOn_sent (s : SigState) (reply : Except Error Request) :
    (s.sendOn reply).sent = s.sent ++ s.waiting.signed := by
  obtain ⟨waiting, sent⟩ := s
  cases waiting <;> unfold SigState.sendOn <;> split <;> simp_all [Waiting.signed]

/-- A message leaves something pending only when it carried a commitment that the host answered
with its nonce. -/
theorem SigState.sendOn_pending (s : SigState) {reply : Except Error Request}
    (h : (s.sendOn reply).waiting.Pending = true) :
    ∃ i bytes nonce, s.waiting = .commitment i bytes ∧ reply = .ok (.btc (.antikleptoSignature nonce)) := by
  obtain ⟨waiting, sent⟩ := s
  unfold SigState.sendOn at h
  split at h <;> simp_all [Waiting.Pending]

theorem SignedUpTo.not_pending {k : Nat} {s : SigState} (h : SignedUpTo k s) :
    s.waiting.Pending = false := by
  cases k with
  | zero => rw [h]; rfl
  | succ k => obtain ⟨_, rfl⟩ := h; rfl

/-- The signature check before the second-pass `Input(k)` hint: what waits is due there. -/
theorem SignedUpTo.dueAt {k : Nat} {s : SigState} (h : SignedUpTo k s) :
    s.waiting.DueAt (.secondInput k) := by
  cases k with
  | zero => rw [h]; trivial
  | succ k => obtain ⟨_, rfl⟩ := h; rfl

/-- After the second-pass `Input(k)` hint, every signature of the inputs before `k` was sent. -/
theorem SignedUpTo.sendOn {k : Nat} {s : SigState} (h : SignedUpTo k s) (reply : Except Error Request) :
    s.sendOn reply = ⟨.idle, List.range k⟩ := by
  cases k with
  | zero => rw [h]; rfl
  | succ k => obtain ⟨_, rfl⟩ := h; simp [SigState.sendOn, List.range_succ]

/-- The message a round trip sends from a `NextResponse` that holds what waits in `s`. -/
def hintMessage (s : SigState) (wrap : Bool) (typ : NextType) (index : UInt32)
    (prevIndex : Option UInt32) : Response :=
  (NextResponse.withHint ⟨s.waiting.toNext, wrap⟩ typ index prevIndex).toProtobuf

@[simp] theorem hintMessage_next (s : SigState) (wrap : Bool) (typ : NextType) (index : UInt32)
    (prevIndex : Option UInt32) :
    (hintMessage s wrap typ index prevIndex).next =
      { s.waiting.toNext with type := typ, index := index, prevIndex := prevIndex.getD 0 } := by
  simp [hintMessage]

@[simp] theorem hintMessage_isWrapped (s : SigState) (wrap : Bool) (typ : NextType) (index : UInt32)
    (prevIndex : Option UInt32) : (hintMessage s wrap typ index prevIndex).isWrapped = wrap := by
  simp [hintMessage]

/-- The call check reads the host's reply to a hint message as the answer to that hint. -/
theorem answers_hintMessage (s : SigState) (wrap : Bool) (typ : NextType) {index : UInt32} {i : Nat}
    (prevIndex : Option UInt32) (record : Request) (hindex : index.toNat = i) :
    answers (some (hintMessage s wrap typ index prevIndex, record)) typ i record = true := by
  simp [answers, hindex]

/-! ### One step of the checks -/

section Steps

variable {request : BtcSignInitRequest} {pos : SchedulePos} {wrap : Bool} {s : SigState}
  {last : Option (Response × Request)} {call : CallStage}

/-- A message carrying the hint of `pos` and what waits, sent where it is due: the hint check moves
as the reply says, the envelope is the reply's, and what waited is sent. -/
theorem step_hintMessage {typ : NextType} {index : UInt32} {prevIndex : Option UInt32}
    (hhint : pos.hint = some (typ, index.toNat, (prevIndex.getD 0).toNat))
    (hdue : s.waiting.DueAt pos) (reply : Except Error Request) :
    (⟨.at pos, some wrap, some s, last, call, s.sent.length⟩ : Monitors).step request
        (.exchange (hintMessage s wrap typ index prevIndex) reply) =
      ⟨match reply with
        | .ok r =>
          if typ.demands r then .at (pos.advance request.numInputs.toNat request.numOutputs.toNat r)
          else .rejected
        | .error _ => .stopped,
       some (match reply with
        | .ok r => r.isBtc
        | .error _ => wrap),
       some (s.sendOn reply), (Event.exchange (hintMessage s wrap typ index prevIndex) reply).answered,
       call, (s.sendOn reply).sent.length⟩ := by
  have hcarried : s.waiting.Carried
      { s.waiting.toNext with type := typ, index := index, prevIndex := prevIndex.getD 0 } :=
    ⟨rfl, rfl, rfl⟩
  cases reply <;>
  simp only [Monitors.step, hintStep, hhint, hintMessage_next, Waiting.toNext_prevIndex,
    Option.getD_none, true_and, and_self, if_true, envelopeStep, Option.some_bind,
    hintMessage_isWrapped, sigStep, hcarried, hdue, callStep, Event.carriesSignature,
    SigState.sendOn_sent, List.length_append, Waiting.signed_length]

/-- An event that is not a message moves only the signature check and the call check, and
receives nothing. -/
theorem step_of_reply_none {event : Event} (hreply : event.reply? = none) (sig : Option SigState)
    (k : Nat) :
    (⟨.at pos, some wrap, sig, last, call, k⟩ : Monitors).step request event =
      ⟨.at pos, some wrap, sigStep request.numInputs.toNat (.at pos) sig event, none,
        callStep request last call event, k⟩ := by
  cases event <;> first | rfl | cases hreply

/-- `sign_input_pass2` with nothing waiting stages what `SchedulePos.staged` allows for its input. -/
theorem sigStep_signInputPass2 (sent : List Nat) (input : BtcSignInputRequest) (lastInput : Bool)
    (signature commitment : Bytes) :
    sigStep request.numInputs.toNat (.at pos) (some ⟨.idle, sent⟩)
        (.signInputPass2 input lastInput (.ok (signature, commitment))) =
      (pos.staged request.numInputs.toNat input.hostNonceCommitment.isSome signature commitment).map
        fun waiting ↦ ⟨waiting, sent⟩ :=
  rfl

/-- The checks after a locked keystore: only the call check moved, to the failure. -/
theorem monitors_locked (request : BtcSignInitRequest) :
    monitors request [.isLocked true] = { Monitors.initial request with call := .failed } :=
  rfl

/-- The checks after the keystore check and `sign_init`: only the call check moved. -/
theorem monitors_signInit (request : BtcSignInitRequest) (result : Except Error Unit) :
    monitors request [.isLocked false, .signInit request result] =
      { Monitors.initial request with
        call := .after result (.at (enterCallPass1 request.numInputs.toNat request.numOutputs.toNat 0)) } := by
  simp [monitors, Monitors.initial, Monitors.step, hintStep, envelopeStep, sigStep, callStep,
    SigState.initial, Waiting.Pending, Event.answered, Event.carriesSignature]

/-- `sign_reset` closes a rejected reply and keeps every other stage of the hint check but a
closed one. -/
theorem hintStep_signReset (request : BtcSignInitRequest) {stage : HintStage}
    (hviolated : stage ≠ .violated) (hclosed : stage ≠ .closed) :
    hintStep request stage .signReset ≠ .violated ∧ hintStep request stage .signReset ≠ .rejected ∧
      (hintStep request stage .signReset = .closed → stage = .rejected) := by
  cases stage <;> simp_all [hintStep]

/-- A status screen keeps every stage of the hint check but a rejected or closed one. -/
theorem hintStep_status {stage : HintStage} (hrejected : stage ≠ .rejected)
    (hclosed : stage ≠ .closed) (title : String) (success : Bool) :
    hintStep request stage (.status title success) = stage := by
  cases stage <;> simp_all [hintStep]

/-- Whether the signature check reads an event beyond what is pending: a message, or a call of
`sign_input_pass2` or `sign_antiklepto`. -/
def Event.readsSig : Event → Bool
  | .exchange _ _ | .signInputPass2 _ _ _ | .signAntiklepto _ _ => true
  | _ => false

/-- Any other event keeps the signature check when nothing is pending. -/
theorem sigStep_quiet (event : Event) (hevent : event.readsSig = false) (stage : HintStage)
    (hpending : s.waiting.Pending = false) :
    sigStep request.numInputs.toNat stage (some s) event = some s := by
  cases event <;> simp_all [sigStep, Event.readsSig]

end Steps

/-! ### Counters -/

theorem toNat_loopIndex_succ {i : Nat} {count : UInt32} (hi : i < count.toNat) :
    (UInt32.ofNat i + 1).toNat = i + 1 := by
  rw [UInt32.toNat_add, toNat_loopIndex hi]
  exact Nat.mod_eq_of_lt (Nat.lt_of_le_of_lt hi count.toNat_lt_size)

/-- The `last` flag a loop passes for index `i`, in the form the call check asks for. -/
theorem lastFlag_eq {i : Nat} {count : UInt32} (hi : i < count.toNat) :
    (UInt32.ofNat i == count - 1) = (i + 1 == count.toNat) := by
  rw [Bool.eq_iff_iff, beq_iff_eq, beq_iff_eq]
  exact ofNat_eq_sub_one_iff hi

/-- The `u32` sum of a count and a loop index below `bound`, when the count plus `bound` does not
wrap. -/
theorem toNat_add_loopIndex {x : UInt32} {k bound : Nat} (hk : k < bound)
    (hsum : x.toNat + bound < 2 ^ 32) : (x + UInt32.ofNat k).toNat = x.toNat + k := by
  rw [UInt32.toNat_add, UInt32.toNat_ofNat_of_lt (by show k < 2 ^ 32; omega)]
  exact Nat.mod_eq_of_lt (by show x.toNat + k < 2 ^ 32; omega)

theorem toNat_prevtxProgressTotal {init : BtcPrevTxInitRequest}
    (hsum : init.numInputs.toNat + init.numOutputs.toNat < 2 ^ 32) :
    (prevtxProgressTotal init).toNat = init.numInputs.toNat + init.numOutputs.toNat := by
  rw [prevtxProgressTotal, UInt32.toNat_add]
  exact Nat.mod_eq_of_lt hsum

/-- Without a host nonce commitment, `sign_input_pass2` for input `i` stages its signature, for
`Input(i + 1)` or, after the last input, for `Done`. -/
theorem staged_enterSecondPass {numInputs i : Nat} (hi : i < numInputs) (signature commitment : Bytes) :
    (enterSecondPass numInputs (i + 1)).staged numInputs false signature commitment =
      some (.signature i signature) := by
  unfold enterSecondPass
  split
  · rfl
  · simp only [SchedulePos.staged, Bool.not_false, Bool.true_and, decide_eq_true_eq]
    rw [if_pos (by omega), show numInputs - 1 = i by omega]

/-! ### The call check at each call -/

section Calls

variable {request : BtcSignInitRequest} {s : SigState} {wrap : Bool} {i : Nat}
  {last : Option (Response × Request)}

/-- `sign_input_pass1` of input `i`, with the loop's `last` flag and on the record the host
answered `Input(i)` with, is the call the order expects, and `handle_prevtx` of that record is
next. -/
theorem callStep_signInputPass1 (hi : i < request.numInputs.toNat) (input : BtcSignInputRequest)
    (result : Except Error Unit) :
    callStep request (some (hintMessage s wrap .input (UInt32.ofNat i) none, .btcSignInput input))
        (.at (.pass1 i)) (.signInputPass1 input (UInt32.ofNat i == request.numInputs - 1) result) =
      .after result (.at (.prevtx i input)) := by
  simp only [callStep, lastFlag_eq hi, answers_hintMessage _ _ _ _ _ (toNat_loopIndex hi), and_self,
    if_true]

/-- `handle_prevtx` of input `i`, on the record `sign_input_pass1` received, is the call the
order expects. -/
theorem callStep_handlePrevtx {index : UInt32} (hindex : index.toNat = i) (input : BtcSignInputRequest)
    (result : Except Error Unit) :
    callStep request last (.at (.prevtx i input)) (.handlePrevtx index input result) =
      .after result (.at (enterCallPass1 request.numInputs.toNat request.numOutputs.toNat (i + 1))) := by
  simp [callStep, hindex]

/-- `sign_output` of output `j`, with the loop's `last` flag and on the record the host answered
`Output(j)` with, is the call the order expects. -/
theorem callStep_signOutput {j : Nat} (hj : j < request.numOutputs.toNat)
    (output : BtcSignOutputRequest) (result : Except Error Unit) :
    callStep request (some (hintMessage s wrap .output (UInt32.ofNat j) none, .btcSignOutput output))
        (.at (.output j)) (.signOutput output (UInt32.ofNat j == request.numOutputs - 1) result) =
      .after result
        (.at (enterCallOutputs request.numInputs.toNat request.numOutputs.toNat (j + 1))) := by
  simp only [callStep, lastFlag_eq hj, answers_hintMessage _ _ _ _ _ (toNat_loopIndex hj), and_self,
    if_true]

/-- `sign_input_pass2` of input `i`, with the loop's `last` flag and on the record the host
answered the second-pass `Input(i)` with, is the call the order expects; `sign_antiklepto` is
next for an input with a host nonce commitment. -/
theorem callStep_signInputPass2 (hi : i < request.numInputs.toNat) (input : BtcSignInputRequest)
    (result : Except Error (Bytes × Bytes)) :
    callStep request (some (hintMessage s wrap .input (UInt32.ofNat i) none, .btcSignInput input))
        (.at (.pass2 i)) (.signInputPass2 input (UInt32.ofNat i == request.numInputs - 1) result) =
      .after result (.at (if input.hostNonceCommitment.isSome then .antiklepto i
        else enterCallPass2 request.numInputs.toNat (i + 1))) := by
  simp only [callStep, lastFlag_eq hi, answers_hintMessage _ _ _ _ _ (toNat_loopIndex hi), and_self,
    if_true]

/-- `sign_antiklepto` of input `i`, on the nonce the host answered `HostNonce(i)` with, is the
call the order expects. -/
theorem callStep_signAntiklepto (hi : i < request.numInputs.toNat)
    (nonce : AntiKleptoSignatureRequest) (result : Except Error Bytes) :
    callStep request
        (some (hintMessage s wrap .hostNonce (UInt32.ofNat i) none, .btc (.antikleptoSignature nonce)))
        (.at (.antiklepto i)) (.signAntiklepto nonce result) =
      .after result (.at (enterCallPass2 request.numInputs.toNat (i + 1))) := by
  simp only [callStep, answers_hintMessage _ _ _ _ _ (toNat_loopIndex hi), if_true]

end Calls

/-! ### The states of the walk -/

section Walk

variable (env : Env) (request : BtcSignInitRequest)

/-- The gates of signing at each position of the call order. In the first pass, the previous
transactions of the inputs before it were checked and no output was accepted; among the outputs,
every previous transaction was checked and one output accepted per output before; from the second
pass on, both gates are open. -/
def PhaseFacts : CallPos → List Event → Prop
  | .pass1 i, log | .prevtx i _, log =>
    (∀ j < i, ContainsChecked env.sha256 (UInt32.ofNat j) log) ∧ acceptedOutputs log = 0
  | .output j, log => PrevtxsChecked env.sha256 request.numInputs log ∧ acceptedOutputs log = j
  | _, log => PastGates env request log

/-- Between two round trips, with the hint check at `pos`, the call check at `cpos`, the next
message to be wrapped as `wrap`, the signature check in state `s`, and `last` what the last log
entry received: the checks stand exactly there, the `NextResponse` holds what waits, no step failed,
and the facts of every session and the gates of the phase hold. -/
structure Ready (pos : SchedulePos) (cpos : CallPos) (wrap : Bool) (s : SigState)
    (last : Option (Response × Request)) (d : Device) : Prop where
  checks : monitors request d.log = ⟨.at pos, some wrap, some s, last, .at cpos, s.sent.length⟩
  next : d.nextResponse = ⟨s.waiting.toNext, wrap⟩
  clean : Clean d.log
  facts : Facts env request d.log
  phase : PhaseFacts env request cpos d.log

/-- After a failure `e`, with the call check at `call`: the hint check is neither violated nor
closed and a rejected reply failed with `InvalidState`, the envelope check holds, nothing is pending
at the signature check, the log stopped at its first failure, `e` is explained, and the facts of
every session hold. -/
structure FailedAt (e : Error) (call : CallStage) (log : List Event) : Prop where
  hint : (monitors request log).hint ≠ .violated ∧ (monitors request log).hint ≠ .closed ∧
    ((monitors request log).hint = .rejected → e = .invalidState)
  wrap : (monitors request log).wrap ≠ none
  sig : ∃ s, (monitors request log).sig = some s ∧ s.waiting.Pending = false
  calls : (monitors request log).call = call
  stopped : StoppedAt e log
  explained : Explained e log
  facts : Facts env request log

/-- A failure that `sign_reset` can still close, of a session behind which some collaborator
misbehaved. -/
def Failed (e : Error) (log : List Event) : Prop :=
  (∃ call, FailedAt env request e call log ∧ call ≠ .violated ∧ call ≠ .at .complete ∧
    ∀ complete, call ≠ .reset complete) ∧ Misbehaved env request

/-- Where a session ends when it returns, with the call check at `call`: the hint check is at
`Done` and the envelope check holds; the signature of the last input waits and those of all other
inputs were sent in input order; the last entry received nothing; no step failed; the facts of every
session hold; both gates were passed; and the response is `Done` carrying what waits. -/
structure Completed (call : CallStage) (response : Response) (log : List Event) : Prop where
  checks : ∃ wrap s, SignedUpTo request.numInputs.toNat s ∧
    monitors request log = ⟨.at .done, some wrap, some s, none, call, s.sent.length⟩ ∧
    response = (⟨{ s.waiting.toNext with type := .done }, wrap⟩ : NextResponse).toProtobuf
  clean : Clean log
  facts : Facts env request log
  gates : PastGates env request log

/-- Where a session ends when it fails, after `sign_reset`: no check is violated, a rejected reply
closed the hint check and failed with `InvalidState`, the envelope and signature checks hold, the
last entry received nothing, the call check records an order that was not complete, the log
stopped at its first failure, the error is explained, the facts of every session hold, and some
collaborator misbehaved. -/
structure Closed (e : Error) (log : List Event) : Prop where
  hint : (monitors request log).hint ≠ .violated ∧ (monitors request log).hint ≠ .rejected ∧
    ((monitors request log).hint = .closed → e = .invalidState)
  wrap : (monitors request log).wrap ≠ none
  sig : (monitors request log).sig ≠ none
  last : (monitors request log).last = none
  calls : (monitors request log).call = .reset false
  stopped : StoppedAt e log
  explained : Explained e log
  facts : Facts env request log
  misbehaved : Misbehaved env request

variable {env request} {pos : SchedulePos} {cpos : CallPos} {wrap : Bool} {s : SigState}
  {last : Option (Response × Request)} {d : Device}

theorem PhaseFacts.append {log : List Event} (h : PhaseFacts env request cpos log) {event : Event}
    (hevent : event.isAcceptedOutput = false) : PhaseFacts env request cpos (log ++ [event]) := by
  have hacc : acceptedOutputs (log ++ [event]) = acceptedOutputs log := by
    simp [acceptedOutputs_singleton, hevent]
  cases cpos with
  | pass1 i | prevtx i _ => exact ⟨fun j hj ↦ (h.1 j hj).append _, hacc.trans h.2⟩
  | output j => exact ⟨h.1.append _, hacc.trans h.2⟩
  | pass2 _ | antiklepto _ | complete => exact h.append _

theorem phaseFacts_enterCallPass2 {log : List Event} (h : PastGates env request log) (i : Nat) :
    PhaseFacts env request (enterCallPass2 request.numInputs.toNat i) log := by
  unfold enterCallPass2; split <;> exact h

theorem phaseFacts_enterCallOutputs {log : List Event} {j : Nat}
    (hj : j ≤ request.numOutputs.toNat) (hchecked : PrevtxsChecked env.sha256 request.numInputs log)
    (hacc : acceptedOutputs log = j) :
    PhaseFacts env request (enterCallOutputs request.numInputs.toNat request.numOutputs.toNat j) log := by
  unfold enterCallOutputs
  split
  · exact ⟨hchecked, hacc⟩
  · exact phaseFacts_enterCallPass2 ⟨hchecked, by omega⟩ 0

theorem phaseFacts_enterCallPass1 {log : List Event} {i : Nat} (hi : i ≤ request.numInputs.toNat)
    (hchecked : ∀ j < i, ContainsChecked env.sha256 (UInt32.ofNat j) log)
    (hacc : acceptedOutputs log = 0) :
    PhaseFacts env request (enterCallPass1 request.numInputs.toNat request.numOutputs.toNat i) log := by
  unfold enterCallPass1
  split
  · exact ⟨hchecked, hacc⟩
  · exact phaseFacts_enterCallOutputs (Nat.zero_le _) (fun j hj ↦ hchecked j (by omega)) hacc

theorem Ready.lastAnswered_eq (h : Ready env request pos cpos wrap s last d) :
    lastAnswered d.log = last := by
  rw [← monitors_last request, h.checks]

/-- Logging an event that is not a message from a `Ready` state, when the step succeeded: the hint
and envelope checks stay, the signature and call checks move as their steps say, and nothing was
received. The `NextResponse` may change with it, to hold what then waits. -/
theorem Ready.append_call (h : Ready env request pos cpos wrap s last d) {event : Event}
    {cpos' : CallPos} {s' : SigState} {next : NextResponse} (hreply : event.reply? = none)
    (hsig : sigStep request.numInputs.toNat (.at pos) (some s) event = some s')
    (hsent : s'.sent = s.sent) (hcall : callStep request last (.at cpos) event = .at cpos')
    (hnext : next = ⟨s'.waiting.toNext, wrap⟩) (hclean : event.failure? = none)
    (hfacts : Facts env request (d.log ++ [event]))
    (hphase : PhaseFacts env request cpos' (d.log ++ [event])) :
    Ready env request pos cpos' wrap s' none ⟨d.log ++ [event], next⟩ :=
  ⟨by rw [monitors_append, h.checks, step_of_reply_none hreply, hsig, hcall, hsent], hnext,
    h.clean.append hclean, hfacts, hphase⟩

/-- A progress update from a `Ready` state with nothing pending. -/
theorem Ready.progress (h : Ready env request pos cpos wrap s last d) (p : Progress)
    (hpending : s.waiting.Pending = false) (hunit : p.InUnit ∨ ReceivedWrappingCounts d.log)
    (htotal : ∀ response init, headerOf last = some (response, init) →
      Event.progressSet p = firstPrevtxProgress request.numInputs response init) :
    Ready env request pos cpos wrap s none { d with log := d.log ++ [.progressSet p] } :=
  h.append_call rfl (sigStep_quiet (.progressSet p) rfl _ hpending) rfl rfl h.next rfl
    (h.facts.append_progress hunit (by rwa [h.lastAnswered_eq])) (h.phase.append rfl)

/-- A status screen from a `Ready` state with nothing pending, after a log that does not end with a
header. -/
theorem Ready.status (h : Ready env request pos cpos wrap s last d) (title : String)
    (success : Bool) (hpending : s.waiting.Pending = false) (hsettled : headerOf last = none) :
    Ready env request pos cpos wrap s none { d with log := d.log ++ [.status title success] } :=
  h.append_call rfl (sigStep_quiet (.status title success) rfl _ hpending) rfl rfl
    h.next rfl (h.facts.append_quiet (by trivial) (by rwa [h.lastAnswered_eq])) (h.phase.append rfl)

/-- Logging a failed step that is not a message from a `Ready` state: the log stops there, and the
call check moves as its step says. -/
theorem Ready.append_failure (h : Ready env request pos cpos wrap s last d) (event : Event)
    {e : Error} (hreply : event.reply? = none)
    (hsig : ∃ s', sigStep request.numInputs.toNat (.at pos) (some s) event = some s' ∧
      s'.waiting.Pending = false)
    (hfailure : event.failure? = some e) (hexplained : Explained e (d.log ++ [event]))
    (hfacts : Facts env request (d.log ++ [event])) :
    FailedAt env request e (callStep request last (.at cpos) event) (d.log ++ [event]) := by
  obtain ⟨s', hsig, hpending⟩ := hsig
  have hstep := monitors_append request d.log event
  rw [h.checks, step_of_reply_none hreply, hsig] at hstep
  exact ⟨by simp [hstep], by simp [hstep], ⟨s', by simp [hstep], hpending⟩, by simp [hstep],
    h.clean.stoppedAt hfailure, hexplained, hfacts⟩

/-- The log entry of the `handle_prevtx` call a failure happened in keeps the failure, and fails the
call. -/
theorem FailedAt.append_handlePrevtx {e : Error} {i : Nat} {input : BtcSignInputRequest}
    {log : List Event} (h : FailedAt env request e (.at (.prevtx i input)) log) {index : UInt32}
    (hindex : index.toNat = i) :
    FailedAt env request e .failed (log ++ [.handlePrevtx index input (.error e)]) := by
  obtain ⟨⟨hviolated, hclosed, hrejected⟩, hwrap, ⟨s, hsig, hpending⟩, hcall, hstopped, hexplained,
    hfacts⟩ := h
  have hhint : hintStep request (monitors request log).hint (.handlePrevtx index input (.error e)) =
      (monitors request log).hint := by
    revert hclosed; cases (monitors request log).hint <;> simp [hintStep]
  refine ⟨?_, ?_, ⟨s, ?_, hpending⟩, ?_, hstopped.append rfl, hexplained.append _,
    hfacts.append_quiet (by trivial) hstopped.settled⟩ <;> rw [monitors_append]
  · exact ⟨by simpa [Monitors.step, hhint] using hviolated, by simpa [Monitors.step, hhint] using hclosed,
      by simpa [Monitors.step, hhint] using hrejected⟩
  · simpa [Monitors.step, envelopeStep] using hwrap
  · simp only [Monitors.step, hsig]
    exact sigStep_quiet (.handlePrevtx index input (.error e)) rfl _ hpending
  · simp only [Monitors.step, hcall, callStep_handlePrevtx hindex]; rfl

/-- A failure with the call check before the end of the order is one `sign_reset` can close. -/
theorem FailedAt.failed_of_at {e : Error} {log : List Event} (h : FailedAt env request e (.at cpos) log)
    (hcpos : cpos ≠ .complete) (hmisbehaved : Misbehaved env request) : Failed env request e log :=
  ⟨⟨_, h, nofun, fun h' ↦ hcpos (CallStage.at.inj h'), nofun⟩, hmisbehaved⟩

/-- A failed call is a failure `sign_reset` can close. -/
theorem FailedAt.failed_of_failed {e : Error} {log : List Event}
    (h : FailedAt env request e .failed log) (hmisbehaved : Misbehaved env request) :
    Failed env request e log :=
  ⟨⟨_, h, nofun, nofun, nofun⟩, hmisbehaved⟩

/-! ### One round trip -/

/-- A round trip from a `Ready` state whose position asks for the accessor's hint, where what waits
is due and may be sent. A reply of the variant asked for moves the hint check on, sets the envelope
to the accessor's `wrap'`, and sends what waited; any other reply, or a failed round trip, fails
with the call check where it was, and the host gave no reply the accessor accepts. -/
theorem getTyped_ready {α : Type} {typ : NextType} {index : UInt32} {prevIndex : Option UInt32}
    {wrap' : Bool} {select : Request → Option α} (embed : α → Request)
    (hselect : ∀ r a, select r = some a ↔ r = embed a)
    (hdemands : ∀ r, typ.demands r = (select r).isSome) (hwrap : ∀ a, (embed a).isBtc = wrap')
    (h : Ready env request pos cpos wrap s last d)
    (hhint : pos.hint = some (typ, index.toNat, (prevIndex.getD 0).toNat))
    (hdue : s.waiting.DueAt pos) (hsettled : headerOf last = none)
    (hgates : s.waiting.toNext.CarriesSignature → PastGates env request d.log) :
    (getTyped typ index prevIndex wrap' select).wp env
      (fun a d' ↦ d'.log = d.log ++ [.exchange (hintMessage s wrap typ index prevIndex) (.ok (embed a))] ∧
        env.nextRequest d.log (hintMessage s wrap typ index prevIndex) = .ok (embed a) ∧
        Ready env request (pos.advance request.numInputs.toNat request.numOutputs.toNat (embed a))
          cpos wrap' (s.sendOn (.ok (embed a))) (some (hintMessage s wrap typ index prevIndex, embed a))
          d')
      (fun e d' ↦ FailedAt env request e (.at cpos) d'.log ∧
        ∀ r, env.nextRequest d.log (hintMessage s wrap typ index prevIndex) = .ok r → select r = none)
      d := by
  rw [wp_getTyped]
  dsimp only
  rw [h.next, show (NextResponse.withHint ⟨s.waiting.toNext, wrap⟩ typ index prevIndex).toProtobuf =
    hintMessage s wrap typ index prevIndex from rfl]
  have hchecks : ∀ reply, monitors request
      (d.log ++ [.exchange (hintMessage s wrap typ index prevIndex) reply]) = _ := fun reply ↦ by
    rw [monitors_append, h.checks, step_hintMessage hhint hdue reply]
  have hfacts : ∀ reply, Facts env request
      (d.log ++ [.exchange (hintMessage s wrap typ index prevIndex) reply]) := fun _ ↦
    h.facts.append_exchange (by simpa using hgates) (by rw [h.lastAnswered_eq]; exact hsettled)
  -- after a reply that is not an anti-klepto nonce, nothing is pending
  have hsettles : ∀ reply, (∀ nonce, reply ≠ .ok (.btc (.antikleptoSignature nonce))) →
      (s.sendOn reply).waiting.Pending = false := fun reply hreply ↦ by
    cases hpending : (s.sendOn reply).waiting.Pending
    · rfl
    · obtain ⟨_, _, nonce, -, rfl⟩ := s.sendOn_pending hpending
      exact absurd rfl (hreply nonce)
  cases hreply : env.nextRequest d.log (hintMessage s wrap typ index prevIndex) with
  | error e =>
    refine ⟨⟨?_, ?_, ⟨s.sendOn (.error e), ?_, hsettles _ nofun⟩, ?_, h.clean.stoppedAt rfl,
      explained_of_error _ rfl, hfacts _⟩, nofun⟩ <;> rw [hchecks]
    exacts [⟨nofun, nofun, nofun⟩, nofun]
  | ok r =>
    dsimp only
    cases hsel : select r with
    | none =>
      have hreject : typ.demands r = false := by simp [hdemands, hsel]
      -- an anti-klepto nonce is the variant a commitment's hint asks for
      have hpending : (s.sendOn (.ok r)).waiting.Pending = false := by
        cases hp : (s.sendOn (.ok r)).waiting.Pending
        · rfl
        · obtain ⟨i, bytes, nonce, hwaiting, hr⟩ := s.sendOn_pending hp
          cases hr
          rw [hwaiting] at hdue
          obtain rfl : pos = .hostNonce i := hdue
          simp only [SchedulePos.hint, Option.some.injEq, Prod.mk.injEq] at hhint
          rw [← hhint.1] at hreject
          simp [NextType.demands] at hreject
      refine ⟨⟨?_, ?_, ⟨s.sendOn (.ok r), ?_, hpending⟩, ?_, h.clean.stoppedAt (by simp [Event.failure?,
        hintMessage_next, hreject]), .inl rfl, hfacts _⟩, fun r' hr' ↦ ?_⟩ <;> try rw [hchecks]
      · simp [hreject]
      · exact nofun
      · cases hr'; exact hsel
    | some a =>
      obtain rfl := (hselect r a).mp hsel
      have haccept : typ.demands (embed a) = true := by simp [hdemands, hsel]
      refine ⟨rfl, rfl, ⟨?_, ?_, h.clean.append (by simp [Event.failure?, haccept]), hfacts _,
        h.phase.append rfl⟩⟩
      · rw [hchecks]; simp [haccept, hwrap, Event.answered]
      · rw [SigState.sendOn_toNext]

/-! ### The six accessors -/

theorem demands_input (r : Request) : NextType.input.demands r = r.btcSignInput?.isSome := by
  cases r <;> rfl

theorem demands_output (r : Request) : NextType.output.demands r = r.btcSignOutput?.isSome := by
  cases r <;> rfl

theorem demands_prevtxInit (r : Request) : NextType.prevtxInit.demands r = r.prevtxInit?.isSome := by
  rcases r with _ | _ | (_ | _ | _ | _ | _) | _ <;> rfl

theorem demands_prevtxInput (r : Request) :
    NextType.prevtxInput.demands r = r.prevtxInput?.isSome := by
  rcases r with _ | _ | (_ | _ | _ | _ | _) | _ <;> rfl

theorem demands_prevtxOutput (r : Request) :
    NextType.prevtxOutput.demands r = r.prevtxOutput?.isSome := by
  rcases r with _ | _ | (_ | _ | _ | _ | _) | _ <;> rfl

theorem demands_hostNonce (r : Request) :
    NextType.hostNonce.demands r = r.antikleptoSignature?.isSome := by
  rcases r with _ | _ | (_ | _ | _ | _ | _) | _ <;> rfl

/-! ### `handle_prevtx` -/

/-- `handle_prevtx` for input `i`, from its `PrevtxInit(i)` position, with the number of inputs the
init request announced. When it returns, the hint check has moved past the whole previous
transaction and the log does not end with a header. When it fails, a round trip failed, or one of
its own checks raised `InvalidInput` between two round trips. On the way, every progress update lies
in `[0, 1]` unless the host sent counts whose sum wraps, and the first after the header reports the
header's total. -/
theorem handlePrevtx_ready {inputIndex : UInt32} {i : Nat} (input : BtcSignInputRequest)
    (hindex : inputIndex.toNat = i) (hi : i < request.numInputs.toNat)
    (h : Ready env request (.prevtxInit i) cpos wrap .initial none d) :
    (handlePrevtx inputIndex input request.numInputs).wp env
      (fun _ d' ↦ ∃ last, headerOf last = none ∧ Ready env request
        (enterFirstPass request.numInputs.toNat request.numOutputs.toNat (i + 1)) cpos true .initial
        last d')
      (fun e d' ↦ FailedAt env request e (.at cpos) d'.log ∨
        e = .invalidInput ∧ ∃ pos wrap last, headerOf last = none ∧
          Ready env request pos cpos wrap .initial last d') d := by
  rw [handlePrevtx, wp_bind, hashPrevtx, wp_bind, wp_getPrevtxInit]
  refine wp_mono (fun init d₁ h₁ ↦ ?_) (fun _ _ h' ↦ .inl h'.1)
    (getTyped_ready (fun init ↦ .btc (.prevtxInit init)) (fun _ _ ↦ prevtxInit?_eq_some)
      demands_prevtxInit (fun _ ↦ rfl) h (by simp [SchedulePos.hint, hindex]) trivial rfl
      (absurd · not_carriesSignature_emptyNext))
  obtain ⟨hlog₁, -, h₁⟩ := h₁
  simp only [wp_bind, wp_ite, wp_throw, wp_pure, wp_digest]
  split
  · -- the header announces no input or no output
    rename_i hcounts
    simp only [Bool.or_eq_true, decide_eq_true_eq, uint32_lt_one_iff] at hcounts
    refine .inr ⟨by trivial, _, _, _, ?_, h₁⟩
    simp only [headerOf]
    rw [if_neg (by omega)]
  rename_i hcounts
  simp only [Bool.or_eq_true, decide_eq_true_eq, uint32_lt_one_iff, not_or] at hcounts
  have hwrapped : init.numInputs.toNat + init.numOutputs.toNat < 2 ^ 32 ∨
      ReceivedWrappingCounts d₁.log := by
    by_cases hsum : init.numInputs.toNat + init.numOutputs.toNat < 2 ^ 32
    · exact .inl hsum
    · exact .inr ⟨hintMessage .initial wrap .prevtxInit inputIndex none, init, by rw [hlog₁]; simp,
        by omega⟩
  -- the inputs of the previous transaction; only the first progress update follows the header
  refine wp_mono (fun hasher d₂ h₂ ↦ ?_) (fun _ _ h' ↦ h')
    (wp_foldRange _ (fun k _ d' ↦
      (init.numInputs.toNat + init.numOutputs.toNat < 2 ^ 32 ∨ ReceivedWrappingCounts d'.log) ∧
      ∃ last, (∀ response init', headerOf last = some (response, init') →
          k = 0 ∧ response.next.index = inputIndex ∧ init' = init) ∧
        Ready env request (enterPrevtxInputs request.numInputs.toNat request.numOutputs.toNat i k
          init.numInputs.toNat init.numOutputs.toNat) cpos true .initial last d')
      0 _ (fun k _ d' hk ⟨hwrapped', last, hheader, h'⟩ ↦ ?_) _ _ ⟨hwrapped, _, ?_, h₁⟩)
  · obtain ⟨hwrapped₂, last₂, hheader₂, h₂⟩ := h₂
    rw [enterPrevtxInputs_self] at h₂
    have hsettled₂ : headerOf last₂ = none := by
      cases hh : headerOf last₂ with
      | none => rfl
      | some p => exact absurd (hheader₂ p.1 p.2 hh).1 (by omega)
    -- the outputs of the previous transaction
    refine wp_mono (fun hasher d₃ h₃ ↦ ?_) (fun _ _ h' ↦ h')
      (wp_foldRange _ (fun k _ d' ↦
        (init.numInputs.toNat + init.numOutputs.toNat < 2 ^ 32 ∨ ReceivedWrappingCounts d'.log) ∧
        ∃ last, headerOf last = none ∧
          Ready env request (enterPrevtxOutputs request.numInputs.toNat request.numOutputs.toNat i k
            init.numOutputs.toNat) cpos true .initial last d')
        0 _ (fun k _ d' hk ⟨hwrapped', last, hsettled', h'⟩ ↦ ?_) _ _ ⟨hwrapped₂, last₂, hsettled₂, h₂⟩)
    · -- the hash check
      obtain ⟨-, last₃, hsettled₃, h₃⟩ := h₃
      rw [enterPrevtxOutputs_self] at h₃
      split
      · exact .inr ⟨by trivial, _, _, last₃, hsettled₃, h₃⟩
      · exact ⟨last₃, hsettled₃, h₃⟩
    · -- one output, with the value check
      rw [show enterPrevtxOutputs request.numInputs.toNat request.numOutputs.toNat i k
        init.numOutputs.toNat = .prevtxOutput i k init.numOutputs.toNat from if_pos hk] at h'
      rw [Nat.zero_add]
      simp only [hashPrevtxOutput, progressSet, wp_bind, wp_emit]
      have h'' := h'.progress (.prevtx inputIndex request.numInputs
          (init.numInputs + UInt32.ofNat k) (prevtxProgressTotal init)) rfl
        (hwrapped'.imp_left fun hsum ↦ ⟨by omega, by
          rw [toNat_add_loopIndex hk (by omega), toNat_prevtxProgressTotal hsum]; omega⟩)
        (fun _ _ hh ↦ absurd (hsettled'.symm.trans hh) nofun)
      refine wp_mono (fun y d₄ h₄ ↦ ?_) (fun _ _ h' ↦ .inl h'.1)
        (getTyped_ready (fun y ↦ .btc (.prevtxOutput y)) (fun _ _ ↦ prevtxOutput?_eq_some)
          demands_prevtxOutput (fun _ ↦ rfl) h''
          (by simp [SchedulePos.hint, hindex, toNat_loopIndex hk]) trivial rfl
          (absurd · not_carriesSignature_emptyNext))
      obtain ⟨hlog₄, -, h₄⟩ := h₄
      split
      · exact .inr ⟨by trivial, _, _, _, by rfl, h₄⟩
      · exact ⟨hwrapped'.imp_right fun hw ↦ by rw [hlog₄]; exact (hw.append _).append _, _, by rfl,
          h₄⟩
  · -- one input
    rw [show enterPrevtxInputs request.numInputs.toNat request.numOutputs.toNat i k
      init.numInputs.toNat init.numOutputs.toNat = .prevtxInput i k init.numInputs.toNat
        init.numOutputs.toNat from if_pos hk] at h'
    rw [Nat.zero_add]
    simp only [hashPrevtxInput, progressSet, wp_bind, wp_emit]
    have h'' := h'.progress (.prevtx inputIndex request.numInputs (UInt32.ofNat k)
        (prevtxProgressTotal init)) rfl
      (hwrapped'.imp_left fun hsum ↦ ⟨by omega, by
        rw [toNat_loopIndex hk, toNat_prevtxProgressTotal hsum]; omega⟩)
      (fun response init' hh ↦ by
        obtain ⟨rfl, hresponse, rfl⟩ := hheader response init' hh
        rw [firstPrevtxProgress, hresponse]
        rfl)
    refine wp_mono (fun x d₄ h₄ ↦ ?_) (fun _ _ h' ↦ .inl h'.1)
      (getTyped_ready (fun x ↦ .btc (.prevtxInput x)) (fun _ _ ↦ prevtxInput?_eq_some)
        demands_prevtxInput (fun _ ↦ rfl) h''
        (by simp [SchedulePos.hint, hindex, toNat_loopIndex hk]) trivial rfl
        (absurd · not_carriesSignature_emptyNext))
    obtain ⟨hlog₄, -, h₄⟩ := h₄
    refine ⟨hwrapped'.imp_right fun hw ↦ by rw [hlog₄]; exact (hw.append _).append _, _, ?_, h₄⟩
    intro _ _ hh
    exact nomatch hh
  · -- the header opens the stream
    intro response init' hh
    simp only [headerOf] at hh
    rw [if_pos (by simp; omega)] at hh
    cases hh
    simp

/-! ### The first pass -/

/-- One input of the first pass, from `Input(i)`: the hint check and the call check move on to the
next input, or to the outputs after the last one, with the previous transaction of input `i`
checked. -/
theorem passOneInput_ready {i : Nat} (hi : i < request.numInputs.toNat)
    (h : Ready env request (.firstInput i) (.pass1 i) wrap .initial none d) :
    (passOneInput request (UInt32.ofNat (0 + i))).wp env
      (fun _ d' ↦ Ready env request
        (enterFirstPass request.numInputs.toNat request.numOutputs.toNat (i + 1))
        (enterCallPass1 request.numInputs.toNat request.numOutputs.toNat (i + 1)) true .initial none d')
      (fun e d' ↦ Failed env request e d'.log) d := by
  have hindex := toNat_loopIndex hi
  rw [Nat.zero_add, passOneInput, wp_bind, progressSet, wp_emit, wp_bind]
  have h₁ := h.progress (.ratio (UInt32.ofNat i) request.numInputs) rfl (.inl ⟨by omega, by omega⟩)
    (fun _ _ hh ↦ nomatch hh)
  refine wp_mono (fun input d₂ h₂ ↦ ?_) (fun e d₂ h₂ ↦ h₂.1.failed_of_at nofun fun tx hhost _ ↦ ?_)
    (getTyped_ready .btcSignInput (fun _ _ ↦ btcSignInput?_eq_some) demands_input (fun _ ↦ rfl) h₁
      (by simp [SchedulePos.hint, hindex]) trivial rfl (absurd · not_carriesSignature_emptyNext))
  rotate_left
  · -- an honest host answers `Input(i)` with an input
    obtain ⟨x, _, -, hreply⟩ := hhost.reply_input
      (show (hintMessage .initial wrap .input (UInt32.ofNat i) none).next.type = .input by simp)
      (by simp [hindex, hi])
      (d.log ++ [.progressSet (.ratio (UInt32.ofNat i) request.numInputs)])
    exact nomatch h₂.2 _ hreply
  obtain ⟨-, hreply₂, h₂⟩ := h₂
  have h₂ : Ready env request (.prevtxInit i) (.pass1 i) false .initial
      (some (hintMessage .initial wrap .input (UInt32.ofNat i) none, .btcSignInput input)) d₂ := h₂
  simp only [wp_bind, signInputPass1Wrapper, wp_call]
  cases hresult : env.signInputPass1 d₂.log input (UInt32.ofNat i == request.numInputs - 1) with
  | error e =>
    refine FailedAt.failed_of_failed ?_ fun _ _ hnatives ↦ ?_
    · have h₃ := h₂.append_failure
        (.signInputPass1 input (UInt32.ofNat i == request.numInputs - 1) (.error e)) rfl
        ⟨.initial, sigStep_quiet _ (by rfl) _ (by rfl), rfl⟩ rfl (explained_of_error _ rfl)
        (h₂.facts.append_native rfl rfl h₂.lastAnswered_eq)
      rwa [callStep_signInputPass1 hi] at h₃
    · have hok := hnatives.signInputPass1 d₂.log input (UInt32.ofNat i == request.numInputs - 1)
      rw [hresult] at hok
      exact nomatch hok
  | ok _ =>
  dsimp only
  have h₃ : Ready env request (.prevtxInit i) (.prevtx i input) false .initial none
      ⟨d₂.log ++ [.signInputPass1 input (UInt32.ofNat i == request.numInputs - 1) (.ok ())],
        d₂.nextResponse⟩ :=
    h₂.append_call rfl (sigStep_quiet _ (by rfl) _ (by rfl)) rfl
      (callStep_signInputPass1 hi input _) h₂.next rfl
      (h₂.facts.append_native rfl rfl h₂.lastAnswered_eq) (h₂.phase.append rfl)
  -- the host's record for input `i` carries the previous transaction `handle_prevtx` streams
  have hinput : ∀ tx : HostTx, tx.Honest env request → env.Accepts →
      ∃ prevtx, tx.inputs[(UInt32.ofNat i).toNat]? = some (input, prevtx) := fun tx hhost _ ↦ by
    obtain ⟨x, prevtx, hx, hreply⟩ := hhost.reply_input
      (show (hintMessage .initial wrap .input (UInt32.ofNat i) none).next.type = .input by simp)
      (by simp [hindex, hi])
      (d.log ++ [.progressSet (.ratio (UInt32.ofNat i) request.numInputs)])
    obtain rfl : input = x := by simpa [hreply₂] using hreply
    exact ⟨prevtx, by simpa using hx⟩
  rw [wp_recordCall]
  refine wp_mono (fun _ d₄ h₄ ↦ ?_) (fun e d₄ h₄ ↦ ?_)
    (wp_and (wp_and (handlePrevtx_ready input hindex hi h₃)
      (handlePrevtx_sound (UInt32.ofNat i) request.numInputs input _))
      (handlePrevtx_misbehaved request.numInputs hinput _))
  · obtain ⟨⟨⟨last, hsettled, h₄⟩, tx, seg, hlog₄, hreplies, hinputs, houtputs, hvalue, hhash⟩, -⟩ := h₄
    have hchecked : ∀ j < i + 1, ContainsChecked env.sha256 (UInt32.ofNat j)
        (d₄.log ++ [.handlePrevtx (UInt32.ofNat i) input (.ok ())]) := by
      rw [hlog₄, List.append_assoc]
      exact containsChecked_succ h₃.phase.1
        ⟨input, tx, [], seg, by simp, hreplies, hinputs, houtputs, hvalue, hhash⟩
    exact h₄.append_call rfl (sigStep_quiet _ (by rfl) _ (by rfl)) rfl
      (callStep_handlePrevtx hindex input _) h₄.next rfl
      (h₄.facts.append_quiet (by trivial) (by rw [h₄.lastAnswered_eq]; exact hsettled))
      (phaseFacts_enterCallPass1 (by omega) hchecked
        (by simp [acceptedOutputs_singleton, Event.isAcceptedOutput, h₄.phase.2]))
  · obtain ⟨⟨h₄ | ⟨rfl, pos, wrap₄, last, hsettled, h₄⟩, -⟩, hmisbehaved⟩ := h₄
    · exact (h₄.append_handlePrevtx hindex).failed_of_failed hmisbehaved
    · refine FailedAt.failed_of_failed ?_ hmisbehaved
      have h₅ := h₄.append_failure (.handlePrevtx (UInt32.ofNat i) input (.error .invalidInput)) rfl
        ⟨.initial, sigStep_quiet _ (by rfl) _ (by rfl), rfl⟩ rfl (.inr (.inl rfl))
        (h₄.facts.append_quiet (by trivial) (by rw [h₄.lastAnswered_eq]; exact hsettled))
      rwa [callStep_handlePrevtx hindex] at h₅

/-! ### The outputs -/

/-- One output, from `Output(j)`: the hint check and the call check move on to the next output, or
to the second pass after the last one, with one more output accepted. -/
theorem signOutput_ready {j : Nat} (hj : j < request.numOutputs.toNat)
    (h : Ready env request (.output j) (.output j) wrap .initial none d) :
    (signOutput request (UInt32.ofNat (0 + j))).wp env
      (fun _ d' ↦ Ready env request
        (enterOutputs request.numInputs.toNat request.numOutputs.toNat (j + 1))
        (enterCallOutputs request.numInputs.toNat request.numOutputs.toNat (j + 1)) false .initial none
        d')
      (fun e d' ↦ Failed env request e d'.log) d := by
  have hindex := toNat_loopIndex hj
  rw [Nat.zero_add, signOutput, wp_bind]
  refine wp_mono (fun output d₁ h₁ ↦ ?_) (fun e d₁ h₁ ↦ h₁.1.failed_of_at nofun fun tx hhost _ ↦ ?_)
    (getTyped_ready .btcSignOutput (fun _ _ ↦ btcSignOutput?_eq_some) demands_output (fun _ ↦ rfl) h
      (by simp [SchedulePos.hint, hindex]) trivial rfl (absurd · not_carriesSignature_emptyNext))
  rotate_left
  · -- an honest host answers `Output(j)` with an output
    obtain ⟨y, hreply⟩ := hhost.reply_output
      (show (hintMessage .initial wrap .output (UInt32.ofNat j) none).next.type = .output by simp)
      (by simp [hindex, hj]) d.log
    exact nomatch h₁.2 _ hreply
  obtain ⟨-, -, h₁⟩ := h₁
  have h₁ : Ready env request (enterOutputs request.numInputs.toNat request.numOutputs.toNat (j + 1))
      (.output j) false .initial
      (some (hintMessage .initial wrap .output (UInt32.ofNat j) none, .btcSignOutput output)) d₁ := h₁
  simp only [signOutputWrapper, wp_call]
  cases hresult : env.signOutput d₁.log output (UInt32.ofNat j == request.numOutputs - 1) with
  | error e =>
    refine FailedAt.failed_of_failed ?_ fun _ _ hnatives ↦ ?_
    · have h₂ := h₁.append_failure
        (.signOutput output (UInt32.ofNat j == request.numOutputs - 1) (.error e)) rfl
        ⟨.initial, sigStep_quiet _ (by rfl) _ (by rfl), rfl⟩ rfl (explained_of_error _ rfl)
        (h₁.facts.append_native rfl rfl h₁.lastAnswered_eq)
      rwa [callStep_signOutput hj] at h₂
    · have hok := hnatives.signOutput d₁.log output (UInt32.ofNat j == request.numOutputs - 1)
      rw [hresult] at hok
      exact nomatch hok
  | ok _ =>
    exact h₁.append_call rfl (sigStep_quiet _ (by rfl) _ (by rfl)) rfl
      (callStep_signOutput hj output _) h₁.next rfl
      (h₁.facts.append_native rfl rfl h₁.lastAnswered_eq)
      (phaseFacts_enterCallOutputs (by omega) (h₁.phase.1.append _)
        (by simp [acceptedOutputs_singleton, Event.isAcceptedOutput, h₁.phase.2]))

/-! ### The second pass -/

/-- One input of the second pass, from `Input(i)` with the signatures of the inputs before it
staged or sent: the message sends what waits; the input is signed, through the anti-klepto exchange
when it carries a host nonce commitment; and the hint check and the call check move on with its
signature waiting. -/
theorem passTwoInput_ready {i : Nat} (hi : i < request.numInputs.toNat) (hs : SignedUpTo i s)
    (h : Ready env request (.secondInput i) (.pass2 i) wrap s none d) :
    (passTwoInput request (UInt32.ofNat (0 + i))).wp env
      (fun _ d' ↦ ∃ wrap' s', SignedUpTo (i + 1) s' ∧
        Ready env request (enterSecondPass request.numInputs.toNat (i + 1))
          (enterCallPass2 request.numInputs.toNat (i + 1)) wrap' s' none d')
      (fun e d' ↦ Failed env request e d'.log) d := by
  have hindex := toNat_loopIndex hi
  rw [Nat.zero_add, passTwoInput, wp_bind]
  refine wp_mono (fun input d₁ h₁ ↦ ?_) (fun e d₁ h₁ ↦ h₁.1.failed_of_at nofun fun tx hhost _ ↦ ?_)
    (getTyped_ready .btcSignInput (fun _ _ ↦ btcSignInput?_eq_some) demands_input (fun _ ↦ rfl) h
      (by simp [SchedulePos.hint, hindex]) hs.dueAt rfl (fun _ ↦ h.phase))
  rotate_left
  · obtain ⟨x, _, -, hreply⟩ := hhost.reply_input
      (show (hintMessage s wrap .input (UInt32.ofNat i) none).next.type = .input by simp)
      (by simp [hindex, hi]) d.log
    exact nomatch h₁.2 _ hreply
  obtain ⟨-, -, h₁⟩ := h₁
  rw [hs.sendOn] at h₁
  -- the progress update that ends the iteration
  have htail : ∀ wrap' s' d', SignedUpTo (i + 1) s' →
      Ready env request (enterSecondPass request.numInputs.toNat (i + 1))
        (enterCallPass2 request.numInputs.toNat (i + 1)) wrap' s' none d' →
      (if request.numInputs > 2 then progressSet (.ratio (UInt32.ofNat i + 1) request.numInputs)
        else pure PUnit.unit).wp env
        (fun _ d' ↦ ∃ wrap' s', SignedUpTo (i + 1) s' ∧
          Ready env request (enterSecondPass request.numInputs.toNat (i + 1))
            (enterCallPass2 request.numInputs.toNat (i + 1)) wrap' s' none d')
        (fun e d' ↦ Failed env request e d'.log) d' := by
    intro wrap' s' d' hs' h'
    split
    · exact ⟨wrap', s', hs', h'.progress _ hs'.not_pending
        (.inl ⟨by rw [toNat_loopIndex_succ hi]; omega, by omega⟩) (fun _ _ hh ↦ nomatch hh)⟩
    · exact ⟨wrap', s', hs', h'⟩
  simp only [wp_bind, signInputPass2Wrapper, wp_call]
  cases hresult : env.signInputPass2 d₁.log input (UInt32.ofNat i == request.numInputs - 1) with
  | error e =>
    refine FailedAt.failed_of_failed ?_ fun _ _ hnatives ↦ ?_
    · have h₂ := h₁.append_failure
        (.signInputPass2 input (UInt32.ofNat i == request.numInputs - 1) (.error e)) rfl
        ⟨⟨.idle, List.range i⟩, rfl, rfl⟩ rfl (explained_of_error _ rfl)
        (h₁.facts.append_native rfl rfl h₁.lastAnswered_eq)
      rwa [callStep_signInputPass2 hi] at h₂
    · have hok := hnatives.signInputPass2 d₁.log input (UInt32.ofNat i == request.numInputs - 1)
      rw [hresult] at hok
      exact nomatch hok
  | ok result =>
  obtain ⟨signature, commitment⟩ := result
  dsimp only
  split
  · -- the anti-klepto exchange: the commitment goes out with `HostNonce(i)`
    rename_i hnonce
    rw [show SchedulePos.advance request.numInputs.toNat request.numOutputs.toNat (.secondInput i)
      (.btcSignInput input) = .hostNonce i by simp [SchedulePos.advance, hnonce]] at h₁
    simp only [wp_bind, wp_modifyNext]
    have h₂ : Ready env request (.hostNonce i) (.antiklepto i) false
        ⟨.commitment i commitment, List.range i⟩ none
        ⟨d₁.log ++ [.signInputPass2 input (UInt32.ofNat i == request.numInputs - 1)
            (.ok (signature, commitment))],
          { d₁.nextResponse with next := { d₁.nextResponse.next with
            antiKleptoSignerCommitment := some ⟨commitment⟩ } }⟩ :=
      h₁.append_call rfl (by rw [sigStep_signInputPass2, hnonce]; rfl) rfl
        (by rw [callStep_signInputPass2 hi, if_pos hnonce]; rfl)
        (by rw [h₁.next]; rfl) rfl (h₁.facts.append_native rfl rfl h₁.lastAnswered_eq)
        (h₁.phase.append rfl)
    refine wp_mono (fun nonce d₃ h₃ ↦ ?_)
      (fun e d₃ h₃ ↦ h₃.1.failed_of_at nofun fun tx hhost _ ↦ ?_)
      (getTyped_ready (fun nonce ↦ .btc (.antikleptoSignature nonce))
        (fun _ _ ↦ antikleptoSignature?_eq_some) demands_hostNonce (fun _ ↦ rfl) h₂
        (by simp [SchedulePos.hint, hindex]) rfl rfl (fun _ ↦ h₂.phase))
    rotate_left
    · obtain ⟨nonce, hreply⟩ := hhost.reply_hostNonce
        (show (hintMessage ⟨.commitment i commitment, List.range i⟩ false .hostNonce
          (UInt32.ofNat i) none).next.type = .hostNonce by simp) _
      exact nomatch h₃.2 _ hreply
    obtain ⟨hlog₃, -, h₃⟩ := h₃
    have h₃ : Ready env request (enterSecondPass request.numInputs.toNat (i + 1)) (.antiklepto i) true
        ⟨.nonce i, List.range i⟩
        (some (hintMessage ⟨.commitment i commitment, List.range i⟩ false .hostNonce (UInt32.ofNat i)
          none, .btc (.antikleptoSignature nonce))) d₃ := h₃
    -- `sign_antiklepto` follows the commitment and the host's nonce for it
    have hcommitted : CommittedBefore nonce d₃.log :=
      ⟨d₁.log, input, UInt32.ofNat i == request.numInputs - 1, signature, commitment,
        hintMessage ⟨.commitment i commitment, List.range i⟩ false .hostNonce (UInt32.ofNat i) none,
        by rw [hlog₃]; simp, hnonce, rfl, rfl, rfl, rfl⟩
    simp only [wp_bind, wp_modifyNext, signAntikleptoWrapper, wp_call]
    cases hresult' : env.signAntiklepto d₃.log nonce with
    | error e =>
      refine FailedAt.failed_of_failed ?_ fun _ _ hnatives ↦ ?_
      · have h₄ := h₃.append_failure (.signAntiklepto nonce (.error e)) rfl
          ⟨⟨.idle, List.range i⟩, rfl, rfl⟩ rfl (explained_of_error _ rfl)
          (h₃.facts.append_antiklepto hcommitted)
        rwa [callStep_signAntiklepto hi] at h₄
      · have hok := hnatives.signAntiklepto d₃.log nonce
        rw [hresult'] at hok
        exact nomatch hok
    | ok signature' =>
      -- the signature goes out with the next message
      simp only [wp_bind, wp_modifyNext]
      refine htail true ⟨.signature i signature', List.range i⟩ _ ⟨signature', rfl⟩ ?_
      exact h₃.append_call rfl rfl rfl
        (callStep_signAntiklepto hi nonce _) (by rw [h₃.next]; rfl) rfl
        (h₃.facts.append_antiklepto hcommitted)
        (phaseFacts_enterCallPass2 (PastGates.append h₃.phase _) _)
  · -- a plain signature goes out with the next message
    rename_i hnonce
    have hplain : input.hostNonceCommitment.isSome = false := by simpa using hnonce
    rw [show SchedulePos.advance request.numInputs.toNat request.numOutputs.toNat (.secondInput i)
      (.btcSignInput input) = enterSecondPass request.numInputs.toNat (i + 1) by
        simp [SchedulePos.advance, hplain]] at h₁
    simp only [wp_bind, wp_modifyNext]
    refine htail false ⟨.signature i signature, List.range i⟩ _ ⟨signature, rfl⟩ ?_
    exact h₁.append_call rfl
      (by rw [sigStep_signInputPass2, hplain, staged_enterSecondPass hi]; rfl) rfl
      (by rw [callStep_signInputPass2 hi, if_neg hnonce]; rfl) (by rw [h₁.next]; rfl) rfl
      (h₁.facts.append_native rfl rfl h₁.lastAnswered_eq)
      (phaseFacts_enterCallPass2 (PastGates.append h₁.phase _) _)

/-! ### The whole session -/

/-- `_process` from an empty log: it returns the `Done` response after the whole schedule, or
fails in a state that `sign_reset` can close. -/
theorem process_ready (next : NextResponse) :
    (_process request).wp env (fun response d' ↦ Completed env request (.at .complete) response d'.log)
      (fun e d' ↦ Failed env request e d'.log) ⟨[], next⟩ := by
  rw [_process, wp_bind, wp_isLocked]
  dsimp only
  split
  · -- the keystore is locked
    rename_i hlocked
    rw [wp_bind, wp_throw]
    refine FailedAt.failed_of_failed ?_ fun _ _ hnatives ↦ by
      rw [hnatives.unlocked] at hlocked; exact nomatch hlocked
    have hm : monitors request ([] ++ [.isLocked (env.isLocked [])]) =
        { Monitors.initial request with call := .failed } := by
      rw [hlocked]; exact monitors_locked request
    refine ⟨?_, ?_, ⟨.initial, ?_, rfl⟩, ?_, clean_nil.stoppedAt (by simp [Event.failure?, hlocked]),
      .inl rfl, (facts_nil env request).append_quiet (by trivial) rfl⟩ <;> rw [hm]
    exacts [⟨nofun, nofun, nofun⟩, nofun, rfl]
  rename_i hlocked
  replace hlocked : env.isLocked [] = false := Bool.eq_false_iff.mpr hlocked
  rw [wp_bind, wp_pure, wp_bind]
  simp only [signInitWrapper, wp_call]
  cases hresult : env.signInit ([] ++ [.isLocked (env.isLocked [])]) request with
  | error e =>
    refine FailedAt.failed_of_failed ?_ fun _ _ hnatives ↦ by
      have hok := hnatives.signInit ([] ++ [.isLocked (env.isLocked [])]) request
      rw [hresult] at hok
      exact nomatch hok
    have hm : monitors request ([] ++ [.isLocked (env.isLocked [])] ++ [.signInit request (.error e)]) =
        { Monitors.initial request with call := .failed } := by
      rw [hlocked]; exact monitors_signInit request (.error e)
    refine ⟨?_, ?_, ⟨.initial, ?_, rfl⟩, ?_,
      (clean_nil.append (by simp [Event.failure?, hlocked])).stoppedAt rfl, explained_of_error _ rfl,
      ((facts_nil env request).append_quiet (by trivial) rfl).append_quiet (by trivial) rfl⟩ <;> rw [hm]
    exacts [⟨nofun, nofun, nofun⟩, nofun, rfl]
  | ok _ =>
  have h₀ : Ready env request (enterFirstPass request.numInputs.toNat request.numOutputs.toNat 0)
      (enterCallPass1 request.numInputs.toNat request.numOutputs.toNat 0) false .initial none
      ⟨[] ++ [.isLocked (env.isLocked [])] ++ [.signInit request (.ok ())], initialNextResponse⟩ :=
    ⟨by rw [hlocked]; exact monitors_signInit request (.ok ()), rfl,
      (clean_nil.append (by simp [Event.failure?, hlocked])).append rfl,
      ((facts_nil env request).append_quiet (by trivial) rfl).append_quiet (by trivial) rfl,
      phaseFacts_enterCallPass1 (Nat.zero_le _) (fun _ h ↦ absurd h (Nat.not_lt_zero _)) rfl⟩
  simp only [wp_bind, wp_modifyNext]
  -- the first pass
  refine wp_mono (fun _ d₁ h₁ ↦ ?_) (fun _ _ h ↦ h)
    (wp_foldRange _ (fun i _ d ↦ ∃ wrap, Ready env request
      (enterFirstPass request.numInputs.toNat request.numOutputs.toNat i)
      (enterCallPass1 request.numInputs.toNat request.numOutputs.toNat i) wrap .initial none d) 0 _
      (fun i _ d hi ⟨wrap, h⟩ ↦ ?_) _ _ ⟨false, h₀⟩)
  · obtain ⟨wrap₁, h₁⟩ := h₁
    simp only [enterFirstPass_self, enterCallPass1_self] at h₁
    simp only [wp_bind, progressSet, wp_emit]
    -- the outputs
    refine wp_mono (fun _ d₂ h₂ ↦ ?_) (fun _ _ h ↦ h)
      (wp_foldRange _ (fun j _ d ↦ ∃ wrap, Ready env request
        (enterOutputs request.numInputs.toNat request.numOutputs.toNat j)
        (enterCallOutputs request.numInputs.toNat request.numOutputs.toNat j) wrap .initial none d) 0 _
        (fun j _ d hj ⟨wrap, h⟩ ↦ ?_) _ _
        ⟨wrap₁, h₁.progress .complete rfl (.inl trivial) (fun _ _ hh ↦ nomatch hh)⟩)
    · obtain ⟨wrap₂, h₂⟩ := h₂
      simp only [enterOutputs_self, enterCallOutputs_self] at h₂
      simp only [wp_bind, status, wp_emit]
      -- the second pass
      refine wp_mono (fun _ d₃ h₃ ↦ ?_) (fun _ _ h ↦ h)
        (wp_foldRange _ (fun i _ d ↦ ∃ wrap s, SignedUpTo i s ∧
          Ready env request (enterSecondPass request.numInputs.toNat i)
            (enterCallPass2 request.numInputs.toNat i) wrap s none d) 0 _
          (fun i _ d hi ⟨wrap, s, hs, h⟩ ↦ ?_) _ _
          ⟨wrap₂, .initial, rfl, h₂.status _ _ rfl rfl⟩)
      · obtain ⟨wrap₃, s₃, hs₃, h₃⟩ := h₃
        simp only [enterSecondPass_self, enterCallPass2_self] at h₃
        simp only [wp_bind, wp_modifyNext, wp_getNext, wp_pure]
        exact ⟨⟨wrap₃, s₃, hs₃, h₃.checks, by rw [h₃.next]⟩, h₃.clean, h₃.facts, h₃.phase⟩
      · rw [enterSecondPass_of_lt _ hi, enterCallPass2_of_lt _ hi] at h
        exact passTwoInput_ready hi hs h
    · rw [enterOutputs_of_lt _ _ hj, enterCallOutputs_of_lt _ _ hj] at h
      exact wp_mono (fun _ d' h' ↦ ⟨false, h'⟩) (fun _ _ h ↦ h) (signOutput_ready hj h)
  · rw [enterFirstPass_of_lt _ _ hi, enterCallPass1_of_lt _ _ hi] at h
    exact wp_mono (fun _ d' h' ↦ ⟨true, h'⟩) (fun _ _ h ↦ h) (passOneInput_ready hi h)

/-- `sign_reset`, and the cancel screen after a user abort, close a failure that `sign_reset` can
close. -/
theorem Failed.close {e : Error} {log : List Event} (h : Failed env request e log) :
    Closed env request e
      (if e = .userAbort then log ++ [.signReset] ++ [.status "Transaction\ncanceled" false]
        else log ++ [.signReset]) := by
  obtain ⟨⟨call, ⟨⟨hviolated, hclosed, hrejected⟩, hwrap, ⟨s, hsig, hpending⟩, hcall, hstopped,
    hexplained, hfacts⟩, hcallViolated, hcomplete, hreset⟩, hmisbehaved⟩ := h
  have hreset' : callStep request (monitors request log).last call .signReset = .reset false := by
    revert hcallViolated hcomplete hreset
    rcases call with _ | _ | (_ | _ | _ | _ | _ | _) | _ | _ | _ <;> simp [callStep]
  -- `sign_reset` moves the hint check and the call check, and receives nothing
  have hm₁ : monitors request (log ++ [.signReset]) =
      ⟨hintStep request (monitors request log).hint .signReset, (monitors request log).wrap, some s,
        none, .reset false, (monitors request log).signed⟩ := by
    rw [monitors_append]
    simp only [Monitors.step, hsig, hcall, hreset', sigStep_quiet .signReset rfl _ hpending,
      envelopeStep, Event.answered, Event.carriesSignature, Bool.false_eq_true, if_false, Nat.add_zero]
  obtain ⟨hviolated₁, hrejected₁, hclosed₁⟩ := hintStep_signReset request hviolated hclosed
  have hstopped₁ : StoppedAt e (log ++ [.signReset]) := hstopped.append trivial
  have hfacts₁ : Facts env request (log ++ [.signReset]) :=
    hfacts.append_quiet trivial hstopped.settled
  split_ifs with habort
  · -- after a user abort no rejected reply was closed, and the cancel screen moves no check
    subst habort
    have hm₂ : monitors request (log ++ [.signReset] ++ [.status "Transaction\ncanceled" false]) =
        monitors request (log ++ [.signReset]) := by
      rw [monitors_append, hm₁]
      simp only [Monitors.step, hintStep_status hrejected₁ (fun h ↦ nomatch hrejected (hclosed₁ h)),
        sigStep_quiet (.status _ _) rfl _ hpending,
        envelopeStep, Event.answered, callStep, Event.carriesSignature, Bool.false_eq_true, if_false,
        Nat.add_zero]
    refine ⟨?_, ?_, ?_, ?_, ?_, hstopped₁.append ⟨rfl, rfl⟩, (hexplained.append _).append _,
      hfacts₁.append_quiet (by trivial) hstopped₁.settled, hmisbehaved⟩ <;> rw [hm₂, hm₁]
    exacts [⟨hviolated₁, hrejected₁, fun h ↦ nomatch hrejected (hclosed₁ h)⟩, hwrap, nofun]
  · refine ⟨?_, ?_, ?_, ?_, ?_, hstopped₁, hexplained.append _, hfacts₁, hmisbehaved⟩ <;> rw [hm₁]
    exacts [⟨hviolated₁, hrejected₁, fun h ↦ hrejected (hclosed₁ h)⟩, hwrap, nofun]

end Walk

/-- A whole signing session, for every host and every outcome of the native calls. When it returns,
every check stands after the complete schedule and one `sign_reset`, and the `Done` response
carries the last signature. When it fails, no check is violated, `sign_reset` was called once, and
some collaborator misbehaved. -/
theorem runProcess_protocol (env : Env) (request : BtcSignInitRequest) :
    match runProcess env request with
    | (.ok response, log) => Completed env request (.reset true) response log
    | (.error e, log) => Closed env request e log := by
  have h : (process request).wp env
      (fun response d ↦ Completed env request (.reset true) response d.log)
      (fun e d ↦ Closed env request e d.log) ⟨[], initialNextResponse⟩ := by
    refine wp_process_of (wp_mono (fun response d₁ h₁ ↦ ?_) (fun e d₁ h₁ ↦ ?_)
      (process_ready initialNextResponse))
    · obtain ⟨⟨wrap, s, hs, hchecks, rfl⟩, hclean, hfacts, hgates⟩ := h₁
      have hsettled : headerOf (lastAnswered d₁.log) = none := by
        rw [← monitors_last request, hchecks]; rfl
      refine ⟨⟨wrap, s, hs, ?_, rfl⟩, hclean.append rfl, hfacts.append_quiet (by trivial) hsettled,
        hgates.append _⟩
      rw [monitors_append, hchecks]
      simp [Monitors.step, hintStep, envelopeStep, callStep, Event.answered, Event.carriesSignature,
        sigStep_quiet .signReset rfl _ hs.not_pending]
    · split_ifs with habort
      · simpa [habort] using h₁.close
      · simpa [habort] using h₁.close
  unfold Session.wp at h
  unfold runProcess
  split at h <;> rename_i hrun <;> simpa only [hrun] using h

/-- Every session sends a prefix of the reference schedule of hints and accepts only the replies of
the variant each hint asks for. After a reply of another variant the session only calls
`sign_reset` and fails with `InvalidState`; it returns only at the end of the schedule, with the
`Done` response for index `0` and previous index `0`. -/
theorem runProcess_follows_hint_schedule (env : Env) (request : BtcSignInitRequest) :
    match runProcess env request with
    | (.ok response, log) => hintMonitor request log = .at .done ∧ response.next.type = .done ∧
        response.next.index = 0 ∧ response.next.prevIndex = 0
    | (.error e, log) => hintMonitor request log ≠ .violated ∧ hintMonitor request log ≠ .rejected ∧
        (hintMonitor request log = .closed → e = .invalidState) := by
  have h := runProcess_protocol env request
  revert h
  rcases runProcess env request with ⟨e | response, log⟩
  · intro h
    simpa only [(monitors_eq request log).1] using h.hint
  · rintro ⟨⟨wrap, s, -, hchecks, rfl⟩, -⟩
    dsimp only
    rw [← (monitors_eq request log).1, hchecks]
    simp

/-- Every message is wrapped in a `BtcResponse` exactly when the last request received was a
`BtcRequest`, the `Done` response included. -/
theorem runProcess_wraps_like_request (env : Env) (request : BtcSignInitRequest) :
    match runProcess env request with
    | (.ok response, log) => envelopeMonitor log = some response.isWrapped
    | (.error _, log) => envelopeMonitor log ≠ none := by
  have h := runProcess_protocol env request
  revert h
  rcases runProcess env request with ⟨e | response, log⟩
  · intro h
    simpa only [(monitors_eq request log).2.1] using h.wrap
  · rintro ⟨⟨wrap, s, -, hchecks, rfl⟩, -⟩
    dsimp only
    rw [← (monitors_eq request log).2.1, hchecks]
    simp

/-- The calls of every session follow the reference order, each but the last returning `Ok`, each
signing native getting the record of the host's answer to its own hint; and they end with one
`sign_reset`. The order was complete exactly when the session returns. -/
theorem runProcess_calls_in_order (env : Env) (request : BtcSignInitRequest) :
    callMonitor request (runProcess env request).2 = .reset (runProcess env request).1.isOk := by
  have h := runProcess_protocol env request
  revert h
  rcases runProcess env request with ⟨e | response, log⟩
  · exact fun h ↦ h.calls
  · rintro ⟨⟨wrap, s, -, hchecks, -⟩, -⟩
    rw [callMonitor, hchecks]
    rfl

end BtcSignTx
