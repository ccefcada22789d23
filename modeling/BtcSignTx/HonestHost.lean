import BtcSignTx.PrevtxVerify

/-!
# An honest host

The host and natives under which a session must succeed. A host that answers every hint with the
records of one transaction (`HostTx.reply`), whose previous transactions are genuine and whose counts
the init request announces, is `HostTx.Honest`; natives that accept every call are `Env.Accepts`.

A session fails only when some collaborator left this behaviour: `Misbehaved` says that no honest
host with accepting natives is behind an `Env`. The walk of `SessionProtocol` shows it of every failed
session, from what each failing step received: an honest host answers every hint the schedule sends
with a record of the variant it asks for (`HostTx.Honest.reply_input` and its siblings), and
`handle_prevtx` never fails on the stream of a genuine previous transaction
(`handlePrevtx_misbehaved`, from `handlePrevtx_complete`).
-/

set_option autoImplicit false
set_option relaxedAutoImplicit false

namespace BtcSignTx

open Session

/-! ### An honest host -/

/-- A transaction as a host streams it: each input's record with its previous transaction, the
outputs, and the host nonce it sends for input `i`. -/
structure HostTx where
  inputs : List (BtcSignInputRequest × PrevTx)
  outputs : List BtcSignOutputRequest
  hostNonce : Nat → AntiKleptoSignatureRequest

/-- The reply of a host streaming `tx`: the record the hint asks for, and an error for a hint
outside `tx`. -/
def HostTx.reply (tx : HostTx) (response : Response) : Except Error Request :=
  match response.next.type, tx.inputs[response.next.index.toNat]?,
      tx.outputs[response.next.index.toNat]? with
  | .input, some (input, _), _ => .ok (.btcSignInput input)
  | .prevtxInit, some (_, prevtx), _ | .prevtxInput, some (_, prevtx), _
  | .prevtxOutput, some (_, prevtx), _ => prevtx.hostReply response
  | .output, _, some output => .ok (.btcSignOutput output)
  | .hostNonce, _, _ => .ok (.btc (.antikleptoSignature (tx.hostNonce response.next.index.toNat)))
  | _, _, _ => .error .invalidInput

/-- The host answers with `tx`, the init request announces `tx`'s counts, and every previous
transaction is genuine: it has an input and an output, double-hashes to its input's
`prev_out_hash`, and holds the input's value at `prev_out_index`. -/
structure HostTx.Honest (tx : HostTx) (env : Env) (request : BtcSignInitRequest) : Prop where
  reply : ∀ log response, env.nextRequest log response = tx.reply response
  numInputs : request.numInputs.toNat = tx.inputs.length
  numOutputs : request.numOutputs.toNat = tx.outputs.length
  prevtx : ∀ input prevtx, (input, prevtx) ∈ tx.inputs →
    1 ≤ prevtx.inputs.length ∧ 1 ≤ prevtx.outputs.length ∧
    env.sha256 (env.sha256 prevtx.serialize) = input.prevOutHash ∧
    ∀ y, prevtx.outputs[input.prevOutIndex.toNat]? = some y → y.value = input.prevOutValue

/-- Natives that accept every call: the keystore is unlocked, and `sign_init`, both signing passes,
`sign_output` and `sign_antiklepto` return `Ok`. -/
structure Env.Accepts (env : Env) : Prop where
  unlocked : ∀ log, env.isLocked log = false
  signInit : ∀ log request, (env.signInit log request).isOk
  signInputPass1 : ∀ log input last, (env.signInputPass1 log input last).isOk
  signOutput : ∀ log output last, (env.signOutput log output last).isOk
  signInputPass2 : ∀ log input last, (env.signInputPass2 log input last).isOk
  signAntiklepto : ∀ log request, (env.signAntiklepto log request).isOk

section Honest

variable {tx : HostTx} {env : Env} {request : BtcSignInitRequest}

theorem HostTx.Honest.streamsPrevTx (hhost : tx.Honest env request) {index : UInt32}
    {input : BtcSignInputRequest} {prevtx : PrevTx} (hi : tx.inputs[index.toNat]? = some (input, prevtx)) :
    StreamsPrevTx env index prevtx := by
  intro log response hindex
  refine ⟨fun htype ↦ ?_, fun x htype hx ↦ ?_, fun y htype hy ↦ ?_⟩ <;>
    simp [hhost.reply, HostTx.reply, PrevTx.hostReply, htype, hindex, hi, *]

/-- An input of `tx` for a hint of an index below the announced count. -/
theorem HostTx.Honest.reply_input (hhost : tx.Honest env request) {response : Response}
    (htype : response.next.type = .input) (hi : response.next.index.toNat < request.numInputs.toNat)
    (log : List Event) :
    ∃ input prevtx, tx.inputs[response.next.index.toNat]? = some (input, prevtx) ∧
      env.nextRequest log response = .ok (.btcSignInput input) := by
  have hi' : response.next.index.toNat < tx.inputs.length := hhost.numInputs ▸ hi
  refine ⟨_, _, List.getElem?_eq_getElem hi', ?_⟩
  simp [hhost.reply, HostTx.reply, htype, List.getElem?_eq_getElem hi']

/-- An output of `tx` for a hint of an index below the announced count. -/
theorem HostTx.Honest.reply_output (hhost : tx.Honest env request) {response : Response}
    (htype : response.next.type = .output) (hj : response.next.index.toNat < request.numOutputs.toNat)
    (log : List Event) : ∃ output, env.nextRequest log response = .ok (.btcSignOutput output) := by
  have hj' : response.next.index.toNat < tx.outputs.length := hhost.numOutputs ▸ hj
  exact ⟨tx.outputs[response.next.index.toNat],
    by simp [hhost.reply, HostTx.reply, htype, List.getElem?_eq_getElem hj']⟩

/-- The host nonce of `tx`, for every `HostNonce` hint. -/
theorem HostTx.Honest.reply_hostNonce (hhost : tx.Honest env request) {response : Response}
    (htype : response.next.type = .hostNonce) (log : List Event) :
    ∃ nonce, env.nextRequest log response = .ok (.btc (.antikleptoSignature nonce)) :=
  ⟨tx.hostNonce response.next.index.toNat, by simp [hhost.reply, HostTx.reply, htype]⟩

end Honest

/-- No honest host with natives that accept every call is behind `env`: some collaborator
misbehaved. -/
def Misbehaved (env : Env) (request : BtcSignInitRequest) : Prop :=
  ∀ tx : HostTx, tx.Honest env request → env.Accepts → False

/-- `handle_prevtx` on the record that an honest host sends for input `index` fails only if a
collaborator misbehaved: an honest host streams a genuine previous transaction. -/
theorem handlePrevtx_misbehaved {env : Env} {request : BtcSignInitRequest} {index : UInt32}
    {input : BtcSignInputRequest} (numInputs : UInt32)
    (hinput : ∀ tx : HostTx, tx.Honest env request → env.Accepts →
      ∃ prevtx, tx.inputs[index.toNat]? = some (input, prevtx))
    (d : Device) :
    (handlePrevtx index input numInputs).wp env (fun _ _ ↦ True) (fun _ _ ↦ Misbehaved env request)
      d := by
  unfold Session.wp
  split
  · trivial
  · rename_i hrun
    intro tx hhost hnatives
    obtain ⟨prevtx, hi⟩ := hinput tx hhost hnatives
    obtain ⟨hinputs, houtputs, hhash, hvalue⟩ := hhost.prevtx input prevtx (List.getElem?_mem hi)
    have h := handlePrevtx_complete index numInputs input prevtx (hhost.streamsPrevTx hi) hinputs
      houtputs hvalue hhash d
    unfold Session.wp at h
    rw [hrun] at h
    exact h

/-- A host streaming `tx`, with natives that accept every call and the constant hash `digest`. -/
def HostTx.hostEnv (tx : HostTx) (digest : Bytes) : Env where
  nextRequest _ response := tx.reply response
  isLocked _ := false
  signInit _ _ := .ok ()
  signInputPass1 _ _ _ := .ok ()
  signOutput _ _ _ := .ok ()
  signInputPass2 _ _ _ := .ok ([], [])
  signAntiklepto _ _ := .ok []
  sha256 _ := digest

/-- A transaction of one input, spending output `0` of `oneOutputTx`, and one output. -/
def oneInputTx : HostTx :=
  ⟨[(⟨[], 0, 5, 0, [], 0, none⟩, oneOutputTx)], [⟨false, 0, 5, [], [], 0⟩], fun _ ↦ ⟨[]⟩⟩

/-- The honest host and accepting natives of `oneInputTx`. -/
theorem oneInputTx_honest :
    oneInputTx.Honest (oneInputTx.hostEnv []) ⟨0, 1, 1, 1, 0⟩ ∧ (oneInputTx.hostEnv []).Accepts :=
  ⟨⟨fun _ _ ↦ rfl, rfl, rfl, fun input prevtx hmem ↦ by
      obtain ⟨rfl, rfl⟩ : input = _ ∧ prevtx = _ := by simpa [oneInputTx] using hmem
      exact ⟨by decide, by decide, rfl, fun y hy ↦ by cases hy; rfl⟩⟩,
    ⟨fun _ ↦ rfl, fun _ _ ↦ rfl, fun _ _ _ ↦ rfl, fun _ _ _ ↦ rfl, fun _ _ _ ↦ rfl, fun _ _ ↦ rfl⟩⟩

end BtcSignTx
