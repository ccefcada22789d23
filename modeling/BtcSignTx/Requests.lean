import BtcSignTx.Wp

/-!
# Asking the host for the next request

`get_request` sets the hint of the `NextResponse`, sends it in the envelope `wrap` selects, and
resets every field of the hint once the host has answered, so that a signature or a signer
commitment is sent at most once. The six accessors (`get_tx_input` to
`get_antiklepto_host_nonce`) share one body, `getTyped`: ask with a hint, set `wrap` to the envelope
of the reply asked for, and accept only that variant, failing with `InvalidState` on any other.
`get_prevtx_init` alone also writes the hint's type and index before `get_request` does; its lemma
`run_getPrevtxInit` shows the write is overwritten.

`run_getRequest` and `run_getTyped` say everything one round trip does: the one log entry it adds,
the state of the `NextResponse` after it, and the result.
-/

set_option autoImplicit false
set_option relaxedAutoImplicit false

namespace BtcSignTx

/-- The `NextResponse` with the hint `get_request` writes before sending: type, index, and the
previous index when one is given. -/
def NextResponse.withHint (response : NextResponse) (typ : NextType) (index : UInt32)
    (prevIndex : Option UInt32) : NextResponse :=
  { response with
    next := { response.next with
      type := typ, index := index, prevIndex := prevIndex.getD response.next.prevIndex } }

@[simp] theorem withHint_next (response : NextResponse) (typ : NextType) (index : UInt32)
    (prevIndex : Option UInt32) :
    (response.withHint typ index prevIndex).next =
      { response.next with
        type := typ, index := index, prevIndex := prevIndex.getD response.next.prevIndex } := rfl

@[simp] theorem withHint_wrap (response : NextResponse) (typ : NextType) (index : UInt32)
    (prevIndex : Option UInt32) : (response.withHint typ index prevIndex).wrap = response.wrap :=
  rfl

/-- `get_request`: sends the hint and returns the host's request, after which the hint is reset. -/
def getRequest (typ : NextType) (index : UInt32) (prevIndex : Option UInt32) : Session Request := do
  modifyNext fun response ↦ response.withHint typ index prevIndex
  let request ← nextRequest (← getNext).toProtobuf
  modifyNext fun response ↦ { response with next := emptyNext }
  pure request

/-- The body of the typed accessors: `get_request`, then `wrap` for the next response, then the one
variant of the request that is accepted. -/
def getTyped {α : Type} (typ : NextType) (index : UInt32) (prevIndex : Option UInt32) (wrap : Bool)
    (select : Request → Option α) : Session α := do
  let request ← getRequest typ index prevIndex
  modifyNext fun response ↦ { response with wrap := wrap }
  match select request with
  | some request => pure request
  | none => throw .invalidState

/-! ### The accepted variants -/

/-- `Request::BtcSignInput`. -/
def Request.btcSignInput? : Request → Option BtcSignInputRequest
  | .btcSignInput request => some request
  | _ => none

/-- `Request::BtcSignOutput`. -/
def Request.btcSignOutput? : Request → Option BtcSignOutputRequest
  | .btcSignOutput request => some request
  | _ => none

/-- `Request::Btc(BtcRequest { request: Some(PrevtxInit(..)) })`. -/
def Request.prevtxInit? : Request → Option BtcPrevTxInitRequest
  | .btc (.prevtxInit request) => some request
  | _ => none

/-- `Request::Btc(BtcRequest { request: Some(PrevtxInput(..)) })`. -/
def Request.prevtxInput? : Request → Option BtcPrevTxInputRequest
  | .btc (.prevtxInput request) => some request
  | _ => none

/-- `Request::Btc(BtcRequest { request: Some(PrevtxOutput(..)) })`. -/
def Request.prevtxOutput? : Request → Option BtcPrevTxOutputRequest
  | .btc (.prevtxOutput request) => some request
  | _ => none

/-- `Request::Btc(BtcRequest { request: Some(AntikleptoSignature(..)) })`. -/
def Request.antikleptoSignature? : Request → Option AntiKleptoSignatureRequest
  | .btc (.antikleptoSignature request) => some request
  | _ => none

@[simp] theorem btcSignInput?_eq_some {request : Request} {input : BtcSignInputRequest} :
    request.btcSignInput? = some input ↔ request = .btcSignInput input := by
  cases request <;> simp [Request.btcSignInput?]

@[simp] theorem btcSignOutput?_eq_some {request : Request} {output : BtcSignOutputRequest} :
    request.btcSignOutput? = some output ↔ request = .btcSignOutput output := by
  cases request <;> simp [Request.btcSignOutput?]

@[simp] theorem prevtxInit?_eq_some {request : Request} {init : BtcPrevTxInitRequest} :
    request.prevtxInit? = some init ↔ request = .btc (.prevtxInit init) := by
  rcases request with _ | _ | (_ | _ | _ | _ | _) | _ <;> simp [Request.prevtxInit?]

@[simp] theorem prevtxInput?_eq_some {request : Request} {input : BtcPrevTxInputRequest} :
    request.prevtxInput? = some input ↔ request = .btc (.prevtxInput input) := by
  rcases request with _ | _ | (_ | _ | _ | _ | _) | _ <;> simp [Request.prevtxInput?]

@[simp] theorem prevtxOutput?_eq_some {request : Request} {output : BtcPrevTxOutputRequest} :
    request.prevtxOutput? = some output ↔ request = .btc (.prevtxOutput output) := by
  rcases request with _ | _ | (_ | _ | _ | _ | _) | _ <;> simp [Request.prevtxOutput?]

@[simp] theorem antikleptoSignature?_eq_some {request : Request}
    {nonce : AntiKleptoSignatureRequest} :
    request.antikleptoSignature? = some nonce ↔ request = .btc (.antikleptoSignature nonce) := by
  rcases request with _ | _ | (_ | _ | _ | _ | _) | _ <;> simp [Request.antikleptoSignature?]

/-! ### The accessors -/

/-- `get_tx_input`. -/
def getTxInput (index : UInt32) : Session BtcSignInputRequest :=
  getTyped .input index none false Request.btcSignInput?

/-- `get_prevtx_init`, which writes the hint's type and index once more before `get_request`. -/
def getPrevtxInit (index : UInt32) : Session BtcPrevTxInitRequest := do
  modifyNext fun response ↦
    { response with next := { response.next with type := .prevtxInit, index := index } }
  getTyped .prevtxInit index none true Request.prevtxInit?

/-- `get_prevtx_input`. -/
def getPrevtxInput (inputIndex prevtxInputIndex : UInt32) : Session BtcPrevTxInputRequest :=
  getTyped .prevtxInput inputIndex (some prevtxInputIndex) true Request.prevtxInput?

/-- `get_prevtx_output`. -/
def getPrevtxOutput (outputIndex prevtxOutputIndex : UInt32) : Session BtcPrevTxOutputRequest :=
  getTyped .prevtxOutput outputIndex (some prevtxOutputIndex) true Request.prevtxOutput?

/-- `get_tx_output`. -/
def getTxOutput (index : UInt32) : Session BtcSignOutputRequest :=
  getTyped .output index none false Request.btcSignOutput?

/-- `get_antiklepto_host_nonce`. -/
def getAntikleptoHostNonce (index : UInt32) : Session AntiKleptoSignatureRequest :=
  getTyped .hostNonce index none true Request.antikleptoSignature?

/-! ### What one round trip does -/

section Run

variable {α : Type} (env : Env) (d : Device)

/-- `get_request` adds one exchange carrying the hint, and resets the hint when the host answers. -/
theorem run_getRequest (typ : NextType) (index : UInt32) (prevIndex : Option UInt32) :
    (getRequest typ index prevIndex).run env d =
      let sent := d.nextResponse.withHint typ index prevIndex
      let reply := env.nextRequest d.log sent.toProtobuf
      let log := d.log ++ [.exchange sent.toProtobuf reply]
      match reply with
      | .ok request => (.ok request, ⟨log, { sent with next := emptyNext }⟩)
      | .error e => (.error e, ⟨log, sent⟩) := by
  simp only [getRequest, Session.run_bind, run_modifyNext, run_getNext, nextRequest, run_call]
  cases env.nextRequest d.log (d.nextResponse.withHint typ index prevIndex).toProtobuf <;> rfl

/-- A typed accessor adds one exchange; it returns the accepted variant, with the hint reset and
`wrap` set, and fails with `InvalidState` on any other variant. -/
theorem run_getTyped (typ : NextType) (index : UInt32) (prevIndex : Option UInt32) (wrap : Bool)
    (select : Request → Option α) :
    (getTyped typ index prevIndex wrap select).run env d =
      let sent := d.nextResponse.withHint typ index prevIndex
      let reply := env.nextRequest d.log sent.toProtobuf
      let log := d.log ++ [.exchange sent.toProtobuf reply]
      match reply with
      | .ok request =>
        ((select request).elim (.error .invalidState) .ok, ⟨log, ⟨emptyNext, wrap⟩⟩)
      | .error e => (.error e, ⟨log, sent⟩) := by
  simp only [getTyped, Session.run_bind, run_getRequest]
  cases env.nextRequest d.log (d.nextResponse.withHint typ index prevIndex).toProtobuf with
  | ok request => cases h : select request <;> simp [h, Option.elim]
  | error e => rfl

/-- The extra write of `get_prevtx_init` is overwritten by `get_request`: it runs as the common
accessor body. -/
theorem run_getPrevtxInit (index : UInt32) :
    (getPrevtxInit index).run env d =
      (getTyped .prevtxInit index none true Request.prevtxInit?).run env d := by
  simp only [getPrevtxInit, Session.run_bind, run_modifyNext, run_getTyped]
  rfl

/-- `run_getTyped` as a weakest precondition. -/
theorem wp_getTyped (typ : NextType) (index : UInt32) (prevIndex : Option UInt32) (wrap : Bool)
    (select : Request → Option α) {post : α → Device → Prop} {fail : Error → Device → Prop} :
    (getTyped typ index prevIndex wrap select).wp env post fail d ↔
      let sent := d.nextResponse.withHint typ index prevIndex
      match env.nextRequest d.log sent.toProtobuf with
      | .ok request =>
        match select request with
        | some a => post a ⟨d.log ++ [.exchange sent.toProtobuf (.ok request)], ⟨emptyNext, wrap⟩⟩
        | none =>
          fail .invalidState ⟨d.log ++ [.exchange sent.toProtobuf (.ok request)], ⟨emptyNext, wrap⟩⟩
      | .error e => fail e ⟨d.log ++ [.exchange sent.toProtobuf (.error e)], sent⟩ := by
  unfold Session.wp
  rw [run_getTyped]
  dsimp only
  cases env.nextRequest d.log (d.nextResponse.withHint typ index prevIndex).toProtobuf with
  | ok request => dsimp only; cases select request <;> rfl
  | error e => rfl

theorem wp_getPrevtxInit (index : UInt32) {post : BtcPrevTxInitRequest → Device → Prop}
    {fail : Error → Device → Prop} :
    (getPrevtxInit index).wp env post fail d ↔
      (getTyped .prevtxInit index none true Request.prevtxInit?).wp env post fail d := by
  unfold Session.wp; rw [run_getPrevtxInit]

end Run

end BtcSignTx
