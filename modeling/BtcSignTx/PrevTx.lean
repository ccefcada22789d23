import BtcSignTx.Encoding
import BtcSignTx.Session

/-!
# Previous transactions

The abstract side of `handle_prevtx`. A `PrevTx` is a previous transaction as a host can stream
it: a header and its inputs and outputs, with at most `2 ^ 32 - 1` of each because the counts are
`u32` fields of `BtcPrevTxInitRequest`. Its header `PrevTx.init` and its stream of replies
`PrevTx.replies` are what a host sends for it, and `StreamsPrevTx` says that a host answers the
device's requests with exactly those records.

`PrevTx.serialize` is the spec's canonical previous-transaction serialization, written from the
spec's words and not from the code, so that the code's hasher input can be compared with it: the
legacy transaction bytes whose double SHA-256 is the txid.
-/

set_option autoImplicit false
set_option relaxedAutoImplicit false

namespace BtcSignTx

/-- A previous transaction as a host streams it. -/
structure PrevTx where
  version : UInt32
  inputs : List BtcPrevTxInputRequest
  outputs : List BtcPrevTxOutputRequest
  locktime : UInt32
  inputs_length_lt : inputs.length < 2 ^ 32
  outputs_length_lt : outputs.length < 2 ^ 32

namespace PrevTx

/-- The header the host sends for `tx`. -/
def init (tx : PrevTx) : BtcPrevTxInitRequest :=
  ⟨tx.version, UInt32.ofNat tx.inputs.length, UInt32.ofNat tx.outputs.length, tx.locktime⟩

@[simp] theorem init_version (tx : PrevTx) : tx.init.version = tx.version := rfl

@[simp] theorem init_locktime (tx : PrevTx) : tx.init.locktime = tx.locktime := rfl

@[simp] theorem toNat_init_numInputs (tx : PrevTx) : tx.init.numInputs.toNat = tx.inputs.length :=
  UInt32.toNat_ofNat_of_lt tx.inputs_length_lt

@[simp] theorem toNat_init_numOutputs (tx : PrevTx) :
    tx.init.numOutputs.toNat = tx.outputs.length :=
  UInt32.toNat_ofNat_of_lt tx.outputs_length_lt

/-- The replies that stream `tx`: its header, its inputs, then its outputs. -/
def replies (tx : PrevTx) : List (Except Error Request) :=
  .ok (.btc (.prevtxInit tx.init)) :: (tx.inputs.map fun x ↦ .ok (.btc (.prevtxInput x))) ++
    tx.outputs.map fun y ↦ .ok (.btc (.prevtxOutput y))

/-- The spec's canonical serialization: `version_LE32 ‖ varint(n_in) ‖
(prev_hash ‖ prev_idx_LE32 ‖ varint(len(ss)) ‖ ss ‖ seq_LE32)×n_in ‖ varint(n_out) ‖
(value_LE64 ‖ varint(len(pk)) ‖ pk)×n_out ‖ locktime_LE32`. -/
def serialize (tx : PrevTx) : Bytes :=
  toLeBytes32 tx.version ++ serializeVarint tx.inputs.length ++
    (tx.inputs.map fun x ↦ x.prevOutHash ++ toLeBytes32 x.prevOutIndex ++
      serializeVarint x.signatureScript.length ++ x.signatureScript ++ toLeBytes32 x.sequence).flatten ++
    serializeVarint tx.outputs.length ++
    (tx.outputs.map fun y ↦
      toLeBytes64 y.value ++ serializeVarint y.pubkeyScript.length ++ y.pubkeyScript).flatten ++
    toLeBytes32 tx.locktime

@[simp] theorem length_replies (tx : PrevTx) :
    tx.replies.length = 1 + tx.inputs.length + tx.outputs.length := by
  simp [replies]; omega

/-- The reply of a host that streams `tx`: the record a hint asks for, and a transport error for
any other hint. -/
def hostReply (tx : PrevTx) (response : Response) : Except Error Request :=
  match response.next.type with
  | .prevtxInit => .ok (.btc (.prevtxInit tx.init))
  | .prevtxInput => match tx.inputs[response.next.prevIndex.toNat]? with
    | some x => .ok (.btc (.prevtxInput x))
    | none => .error .invalidInput
  | .prevtxOutput => match tx.outputs[response.next.prevIndex.toNat]? with
    | some y => .ok (.btc (.prevtxOutput y))
    | none => .error .invalidInput
  | _ => .error .invalidInput

end PrevTx

/-- The host answers the device's requests for the previous transaction of input `inputIndex` with
the records of `tx`, whatever happened before: the header for `PrevtxInit`, and the input or output
at the requested position for `PrevtxInput` and `PrevtxOutput`. -/
def StreamsPrevTx (env : Env) (inputIndex : UInt32) (tx : PrevTx) : Prop :=
  ∀ log response, response.next.index = inputIndex →
    (response.next.type = .prevtxInit →
      env.nextRequest log response = .ok (.btc (.prevtxInit tx.init))) ∧
    (∀ x, response.next.type = .prevtxInput → tx.inputs[response.next.prevIndex.toNat]? = some x →
      env.nextRequest log response = .ok (.btc (.prevtxInput x))) ∧
    (∀ y, response.next.type = .prevtxOutput →
      tx.outputs[response.next.prevIndex.toNat]? = some y →
      env.nextRequest log response = .ok (.btc (.prevtxOutput y)))

/-- A host that answers with `PrevTx.hostReply` streams `tx`, for every input index. -/
theorem streamsPrevTx_of_hostReply {env : Env} {tx : PrevTx}
    (h : ∀ log response, env.nextRequest log response = tx.hostReply response) (inputIndex : UInt32) :
    StreamsPrevTx env inputIndex tx := by
  intro log response _
  refine ⟨fun htype ↦ ?_, fun x htype hx ↦ ?_, fun y htype hy ↦ ?_⟩
  · simp [h, PrevTx.hostReply, htype]
  · simp [h, PrevTx.hostReply, htype, hx]
  · simp [h, PrevTx.hostReply, htype, hy]

end BtcSignTx
