import BtcSignTx.Encoding
import BtcSignTx.Requests

/-!
# Streaming and hashing a previous transaction

`handle_prevtx` streams the previous transaction of one input from the host, one record per round
trip, and feeds its legacy serialization to SHA-256; it then compares the double hash with the
input's `prev_out_hash`. On the way it rejects a header with no inputs or no outputs, and an output
at `input.prev_out_index` whose value is not `input.prev_out_value`.

A SHA-256 hasher is modelled by the bytes it has absorbed: `update` appends, and `finalize` hashes
them. `hashPrevtx` is `handle_prevtx` up to the last `update` and returns the hasher, and
`handlePrevtx` finishes with the double hash and the comparison. The two loop bodies are
`hashPrevtxInput` and `hashPrevtxOutput`, and what they feed the hasher for one record is
`prevtxInputBytes` and `prevtxOutputBytes`.
-/

set_option autoImplicit false
set_option relaxedAutoImplicit false

namespace BtcSignTx

/-- What `handle_prevtx` feeds the hasher for one streamed input of the previous transaction. -/
def prevtxInputBytes (prevtxInput : BtcPrevTxInputRequest) : Bytes :=
  prevtxInput.prevOutHash ++ toLeBytes32 prevtxInput.prevOutIndex ++
    serializeVarint prevtxInput.signatureScript.length ++ prevtxInput.signatureScript ++
    toLeBytes32 prevtxInput.sequence

/-- What `handle_prevtx` feeds the hasher for one streamed output of the previous transaction. -/
def prevtxOutputBytes (prevtxOutput : BtcPrevTxOutputRequest) : Bytes :=
  toLeBytes64 prevtxOutput.value ++ serializeVarint prevtxOutput.pubkeyScript.length ++
    prevtxOutput.pubkeyScript

/-- The denominator of the progress while streaming a previous transaction:
`prevtx_init.num_inputs + prevtx_init.num_outputs`, a `u32` sum. -/
def prevtxProgressTotal (prevtxInit : BtcPrevTxInitRequest) : UInt32 :=
  prevtxInit.numInputs + prevtxInit.numOutputs

/-- One iteration of the loop over the previous transaction's inputs. -/
def hashPrevtxInput (inputIndex numInputs : UInt32) (prevtxInit : BtcPrevTxInitRequest)
    (prevtxInputIndex : UInt32) (hasher : Bytes) : Session Bytes := do
  progressSet (.prevtx inputIndex numInputs prevtxInputIndex (prevtxProgressTotal prevtxInit))
  let prevtxInput ← getPrevtxInput inputIndex prevtxInputIndex
  pure (hasher ++ prevtxInputBytes prevtxInput)

/-- One iteration of the loop over the previous transaction's outputs, with the value check at
`input.prev_out_index`. -/
def hashPrevtxOutput (inputIndex : UInt32) (input : BtcSignInputRequest) (numInputs : UInt32)
    (prevtxInit : BtcPrevTxInitRequest) (prevtxOutputIndex : UInt32) (hasher : Bytes) :
    Session Bytes := do
  progressSet (.prevtx inputIndex numInputs (prevtxInit.numInputs + prevtxOutputIndex)
    (prevtxProgressTotal prevtxInit))
  let prevtxOutput ← getPrevtxOutput inputIndex prevtxOutputIndex
  if prevtxOutputIndex == input.prevOutIndex && input.prevOutValue != prevtxOutput.value then
    throw .invalidInput
  pure (hasher ++ prevtxOutputBytes prevtxOutput)

/-- `handle_prevtx` up to the final `update`: returns the bytes the hasher has absorbed. -/
def hashPrevtx (inputIndex : UInt32) (input : BtcSignInputRequest) (numInputs : UInt32) :
    Session Bytes := do
  let prevtxInit ← getPrevtxInit inputIndex
  if prevtxInit.numInputs < 1 || prevtxInit.numOutputs < 1 then
    throw .invalidInput
  let hasher := toLeBytes32 prevtxInit.version ++ serializeVarint prevtxInit.numInputs.toNat
  let hasher ← foldRange (hashPrevtxInput inputIndex numInputs prevtxInit) 0
    prevtxInit.numInputs.toNat hasher
  let hasher := hasher ++ serializeVarint prevtxInit.numOutputs.toNat
  let hasher ← foldRange (hashPrevtxOutput inputIndex input numInputs prevtxInit) 0
    prevtxInit.numOutputs.toNat hasher
  pure (hasher ++ toLeBytes32 prevtxInit.locktime)

/-- `handle_prevtx`: the previous transaction's double SHA-256 must be `input.prev_out_hash`. -/
def handlePrevtx (inputIndex : UInt32) (input : BtcSignInputRequest) (numInputs : UInt32) :
    Session Unit := do
  let hasher ← hashPrevtx inputIndex input numInputs
  let hash ← digest (← digest hasher)
  if hash != input.prevOutHash then
    throw .invalidInput

end BtcSignTx
