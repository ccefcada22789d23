import Mathlib

/-!
# The messages of BTC transaction signing

The protobuf messages `signtx.rs` exchanges with the host, as the generated Rust types hold them:
the host's requests (`Request`, with the `BtcRequest` variants nested in it), the device's
`BtcSignNextResponse` hint, and the two envelopes it is sent in (`Response`). Numeric fields keep
the widths of the `.proto` declarations (`u32` is `UInt32`, `u64` is `UInt64`), so a host can
send exactly the values it can put on the wire. Byte fields are lists of `UInt8`.

`NextResponse` is the device's one piece of mutable session state, and `NextResponse.toProtobuf`
is `NextResponse::to_protobuf`: the envelope is chosen by `wrap` alone.

Scope. Fields no function of `signtx.rs` reads and no native call depends on in this model are left
out: the init request's `script_configs`, and every `Request` or `BtcRequest` variant that signing
never asks for, which are `Request.other` and `BtcRequest.other`.
-/

set_option autoImplicit false
set_option relaxedAutoImplicit false

namespace BtcSignTx

/-- A protobuf `bytes` field or a `Vec<u8>`. -/
abbrev Bytes := List UInt8

instance instDecidableEqExcept {ε α : Type} [DecidableEq ε] [DecidableEq α] :
    DecidableEq (Except ε α)
  | .ok a, .ok b =>
    if h : a = b then isTrue (h ▸ rfl) else isFalse fun hab ↦ h (Except.ok.inj hab)
  | .error a, .error b =>
    if h : a = b then isTrue (h ▸ rfl) else isFalse fun hab ↦ h (Except.error.inj hab)
  | .ok _, .error _ => isFalse nofun
  | .error _, .ok _ => isFalse nofun

/-- `super::Error`. `InvalidInput`, `InvalidState` and `UserAbort` are the variants this module
produces or tests for; `other` is every variant that reaches it only from a collaborator, such as
a transport error of the host channel. -/
inductive Error
  | invalidInput
  | invalidState
  | userAbort
  | other (code : Nat)
  deriving DecidableEq, Repr

/-- `btc_sign_next_response::Type`: what the device asks the host for next. -/
inductive NextType
  | input
  | output
  | done
  | prevtxInit
  | prevtxInput
  | prevtxOutput
  | hostNonce
  deriving DecidableEq, Repr

/-! ### Requests from the host -/

/-- `AntiKleptoHostNonceCommitment`: the host's commitment to its nonce contribution. -/
structure AntiKleptoHostNonceCommitment where
  commitment : Bytes
  deriving DecidableEq, Repr

/-- `BtcSignInitRequest`, without its `script_configs`. -/
structure BtcSignInitRequest where
  coin : Int
  version : UInt32
  numInputs : UInt32
  numOutputs : UInt32
  locktime : UInt32
  deriving DecidableEq, Repr

/-- `BtcSignInputRequest`: an input of the transaction, streamed once in each pass. -/
structure BtcSignInputRequest where
  prevOutHash : Bytes
  prevOutIndex : UInt32
  prevOutValue : UInt64
  sequence : UInt32
  keypath : List UInt32
  scriptConfigIndex : UInt32
  hostNonceCommitment : Option AntiKleptoHostNonceCommitment
  deriving DecidableEq, Repr

/-- `BtcSignOutputRequest`: an output of the transaction. -/
structure BtcSignOutputRequest where
  ours : Bool
  type : Int
  value : UInt64
  payload : Bytes
  keypath : List UInt32
  scriptConfigIndex : UInt32
  deriving DecidableEq, Repr

/-- `BtcPrevTxInitRequest`: the header of an input's previous transaction. -/
structure BtcPrevTxInitRequest where
  version : UInt32
  numInputs : UInt32
  numOutputs : UInt32
  locktime : UInt32
  deriving DecidableEq, Repr

/-- `BtcPrevTxInputRequest`: an input of a previous transaction. -/
structure BtcPrevTxInputRequest where
  prevOutHash : Bytes
  prevOutIndex : UInt32
  signatureScript : Bytes
  sequence : UInt32
  deriving DecidableEq, Repr

/-- `BtcPrevTxOutputRequest`: an output of a previous transaction. -/
structure BtcPrevTxOutputRequest where
  value : UInt64
  pubkeyScript : Bytes
  deriving DecidableEq, Repr

/-- `AntiKleptoSignatureRequest`: the host's nonce, opening its commitment. -/
structure AntiKleptoSignatureRequest where
  hostNonce : Bytes
  deriving DecidableEq, Repr

/-- `btc_request::Request` inside a `BtcRequest`; `other` is every other variant and an empty
`request` field. -/
inductive BtcRequest
  | prevtxInit (request : BtcPrevTxInitRequest)
  | prevtxInput (request : BtcPrevTxInputRequest)
  | prevtxOutput (request : BtcPrevTxOutputRequest)
  | antikleptoSignature (request : AntiKleptoSignatureRequest)
  | other
  deriving DecidableEq, Repr

/-- `request::Request`, what `next_request` returns; `other` is every variant signing never asks
for. -/
inductive Request
  | btcSignInput (request : BtcSignInputRequest)
  | btcSignOutput (request : BtcSignOutputRequest)
  | btc (request : BtcRequest)
  | other
  deriving DecidableEq, Repr

/-! ### The device's hint and its envelopes -/

/-- `AntiKleptoSignerCommitment`: the device's commitment in the anti-klepto exchange. -/
structure AntiKleptoSignerCommitment where
  commitment : Bytes
  deriving DecidableEq, Repr

/-- `BtcSignNextResponse`: which request the device wants next, and a signature or signer
commitment when one is ready. -/
structure BtcSignNextResponse where
  type : NextType
  index : UInt32
  hasSignature : Bool
  signature : Bytes
  prevIndex : UInt32
  antiKleptoSignerCommitment : Option AntiKleptoSignerCommitment
  deriving DecidableEq, Repr

/-- The `BtcSignNextResponse` that `_process` starts from and `get_request` resets to: every field
at its default, `r#type: 0` being `Input`. -/
def emptyNext : BtcSignNextResponse where
  type := .input
  index := 0
  hasSignature := false
  signature := []
  prevIndex := 0
  antiKleptoSignerCommitment := none

/-- `response::Response` as this module sends it: `btcSignNext` is `Response::BtcSignNext(next)`,
`btc` is `Response::Btc(BtcResponse { response: Some(SignNext(next)) })`. -/
inductive Response
  | btcSignNext (next : BtcSignNextResponse)
  | btc (next : BtcSignNextResponse)
  deriving DecidableEq, Repr

/-- The hint a response carries, whichever its envelope. -/
def Response.next : Response → BtcSignNextResponse
  | .btcSignNext next => next
  | .btc next => next

/-- Whether a response is wrapped in a `BtcResponse`. -/
def Response.isWrapped : Response → Bool
  | .btcSignNext _ => false
  | .btc _ => true

/-- `NextResponse`: the hint sent after each request, and whether to wrap it in a `BtcResponse`. -/
structure NextResponse where
  next : BtcSignNextResponse
  wrap : Bool
  deriving DecidableEq, Repr

/-- `NextResponse::to_protobuf`. -/
def NextResponse.toProtobuf (response : NextResponse) : Response :=
  if response.wrap then .btc response.next else .btcSignNext response.next

@[simp] theorem next_toProtobuf (response : NextResponse) :
    response.toProtobuf.next = response.next := by
  unfold NextResponse.toProtobuf; split <;> rfl

@[simp] theorem isWrapped_toProtobuf (response : NextResponse) :
    response.toProtobuf.isWrapped = response.wrap := by
  unfold NextResponse.toProtobuf; split <;> simp_all [Response.isWrapped]

/-- Whether a request is nested in a `BtcRequest`, and so is answered with a wrapped response. -/
def Request.isBtc : Request → Bool
  | .btc _ => true
  | _ => false

end BtcSignTx
