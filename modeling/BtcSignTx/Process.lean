import BtcSignTx.HandlePrevtx

/-!
# The signing flow

`_process` is the signing workflow of `signtx.rs`: after the keystore check and `sign_init`, the
first pass streams every input with its previous transaction, the second streams the outputs, which
the user confirms, and the third streams every input again and signs it, running the anti-klepto
exchange for an input that carries a host nonce commitment. A signature is sent with the next
message the device sends; the last one with the final `Done` response. `process` wraps it: it always
calls `sign_reset`, and shows a cancel screen when the user aborted.

The three loops are named by their bodies: `passOneInput`, `signOutput`, `passTwoInput`.
`handle_prevtx` is called through `recordCall`, which logs the call with its result.
-/

set_option autoImplicit false
set_option relaxedAutoImplicit false

namespace BtcSignTx

/-- Runs `x` and logs its outcome with `event`, then returns it: the log entry for a call of one
of this module's own functions. -/
def recordCall {α : Type} (event : Except Error α → Event) (x : Session α) : Session α := do
  let result ← attempt x
  emit (event result)
  liftExcept result

theorem wp_recordCall {α : Type} {env : Env} {post : α → Device → Prop}
    {fail : Error → Device → Prop} {d : Device} (event : Except Error α → Event) (x : Session α) :
    (recordCall event x).wp env post fail d ↔
      x.wp env (fun a d' ↦ post a { d' with log := d'.log ++ [event (.ok a)] })
        (fun e d' ↦ fail e { d' with log := d'.log ++ [event (.error e)] }) d := by
  simp only [recordCall, Session.wp_bind, wp_attempt, wp_emit, wp_liftExcept]

/-- The `NextResponse` `_process` starts with. -/
def initialNextResponse : NextResponse := ⟨emptyNext, false⟩

/-- One iteration of the first pass over the inputs. -/
def passOneInput (request : BtcSignInitRequest) (inputIndex : UInt32) : Session Unit := do
  progressSet (.ratio inputIndex request.numInputs)
  let txInput ← getTxInput inputIndex
  let last := inputIndex == request.numInputs - 1
  signInputPass1Wrapper txInput last
  recordCall (.handlePrevtx inputIndex txInput) (handlePrevtx inputIndex txInput request.numInputs)

/-- One iteration of the loop over the outputs. -/
def signOutput (request : BtcSignInitRequest) (outputIndex : UInt32) : Session Unit := do
  let txOutput ← getTxOutput outputIndex
  let last := outputIndex == request.numOutputs - 1
  signOutputWrapper txOutput last

/-- One iteration of the second pass over the inputs: sign, with the anti-klepto exchange when the
input carries a host nonce commitment, and stage the signature for the next message. -/
def passTwoInput (request : BtcSignInitRequest) (inputIndex : UInt32) : Session Unit := do
  let txInput ← getTxInput inputIndex
  let last := inputIndex == request.numInputs - 1
  let (signature, antiKleptoSignerCommitment) ← signInputPass2Wrapper txInput last
  if txInput.hostNonceCommitment.isSome then
    modifyNext fun response ↦ { response with
      next := { response.next with
        antiKleptoSignerCommitment := some ⟨antiKleptoSignerCommitment⟩ } }
    let antikleptoHostNonce ← getAntikleptoHostNonce inputIndex
    modifyNext fun response ↦ { response with next := { response.next with hasSignature := true } }
    let signature ← signAntikleptoWrapper antikleptoHostNonce
    modifyNext fun response ↦ { response with next := { response.next with signature := signature } }
  else
    modifyNext fun response ↦ { response with
      next := { response.next with hasSignature := true, signature := signature } }
  if request.numInputs > 2 then
    progressSet (.ratio (inputIndex + 1) request.numInputs)

/-- `_process`: the whole signing flow, returning the final `Done` response. -/
def _process (request : BtcSignInitRequest) : Session Response := do
  if ← isLocked then
    throw .invalidState
  signInitWrapper request
  modifyNext fun _ ↦ initialNextResponse
  forRange request.numInputs (passOneInput request)
  progressSet .complete
  forRange request.numOutputs (signOutput request)
  status "Transaction\nconfirmed" true
  forRange request.numInputs (passTwoInput request)
  modifyNext fun response ↦ { response with next := { response.next with type := .done } }
  pure (← getNext).toProtobuf

/-- `process`: `_process`, then `sign_reset` on every outcome, and the cancel screen after a user
abort. -/
def process (request : BtcSignInitRequest) : Session Response := do
  let result ← attempt (_process request)
  signReset
  if result = .error .userAbort then
    status "Transaction\ncanceled" false
  liftExcept result

/-- `process` from what `_process` leaves: `sign_reset` is logged after every outcome, and the
cancel screen after a user abort. -/
theorem wp_process_of {request : BtcSignInitRequest} {env : Env} {d : Device}
    {post : Response → Device → Prop} {fail : Error → Device → Prop}
    (h : (_process request).wp env (fun r d' ↦ post r { d' with log := d'.log ++ [.signReset] })
      (fun e d' ↦ fail e (if e = .userAbort then
          { d' with log := d'.log ++ [.signReset] ++ [.status "Transaction\ncanceled" false] }
        else { d' with log := d'.log ++ [.signReset] })) d) :
    (process request).wp env post fail d := by
  rw [process, Session.wp_bind, wp_attempt]
  refine Session.wp_mono (fun _ _ h ↦ ?_) (fun e _ h ↦ ?_) h
  · simpa only [Session.wp_bind, signReset, wp_emit, Session.wp_ite, wp_liftExcept, reduceCtorEq, if_false,
      Session.wp_pure]
  · simp only [Session.wp_bind, signReset, status, wp_emit, Session.wp_ite, wp_liftExcept, Session.wp_pure,
      Except.error.injEq] at h ⊢
    split_ifs at h ⊢ <;> exact h

/-- A signing session from the start: `process` run on an empty log. -/
def runProcess (env : Env) (request : BtcSignInitRequest) : Except Error Response × List Event :=
  let (result, device) := (process request).run env ⟨[], initialNextResponse⟩
  (result, device.log)

end BtcSignTx
