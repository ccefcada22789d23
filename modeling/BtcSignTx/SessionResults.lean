import BtcSignTx.SessionProtocol

/-!
# What every signing session guarantees

The results about whole sessions that go beyond the four checks of `Protocol`. Each is read off the
final statement of the one walk of the code, `runProcess_protocol`: a session that returns ends
`Completed`, one that fails ends `Closed`, and both carry the facts of every session (`Facts`).

* `runProcess_signs_honest_transaction`: against an honest host with accepting natives a session
  returns `Done` and has sent one signature per input. A failed session has a misbehaving
  collaborator (`Closed.misbehaved`), so this session cannot fail.
* `runProcess_stops_at_first_failure`, `runProcess_errors_explained`: fail-stop, and where errors
  come from.
* `runProcess_checks_every_prevtx`, `runProcess_signs_after_outputs`,
  `runProcess_signs_after_prevtx_checks`: the gates of signing, for every message and the `Done`
  response.
* `runProcess_natives_get_host_records`, `runProcess_antiklepto_commits_before_nonce`: the data the
  signing natives receive.
* `runProcess_progress_in_unit`, `runProcess_progress_total_wraps`: the progress values, which lie
  in `[0, 1]` unless the host sends counts whose `u32` sum wraps, and then the first progress update
  of that previous transaction divides by the wrapped sum.
-/

set_option autoImplicit false
set_option relaxedAutoImplicit false

namespace BtcSignTx

section Sessions

variable (env : Env) (request : BtcSignInitRequest)

/-- The facts of every session hold of every session's log. -/
theorem runProcess_facts : Facts env request (runProcess env request).2 := by
  have h := runProcess_protocol env request
  revert h
  rcases runProcess env request with ⟨e | response, log⟩
  · exact fun h ↦ h.facts
  · exact fun h ↦ h.facts

/-- A session's log ends with an entry that received nothing. -/
theorem runProcess_lastAnswered : lastAnswered (runProcess env request).2 = none := by
  have h := runProcess_protocol env request
  revert h
  rcases runProcess env request with ⟨e | response, log⟩
  · exact fun h ↦ (monitors_last request log).symm.trans h.last
  · rintro ⟨⟨wrap, s, -, hchecks, -⟩, -⟩
    rw [← monitors_last request log, hchecks]

variable {env request}

theorem runProcess_completed {response : Response} (hok : (runProcess env request).1 = .ok response) :
    Completed env request (.reset true) response (runProcess env request).2 := by
  have h := runProcess_protocol env request
  revert h hok
  rcases runProcess env request with ⟨e | response', log⟩
  · exact fun hok ↦ nomatch hok
  · rintro ⟨⟩ h
    exact h

theorem runProcess_closed {e : Error} (herror : (runProcess env request).1 = .error e) :
    Closed env request e (runProcess env request).2 := by
  have h := runProcess_protocol env request
  revert h herror
  rcases runProcess env request with ⟨e' | response, log⟩
  · rintro ⟨⟩ h
    exact h
  · exact fun herror ↦ nomatch herror

end Sessions

/-! ### An honest transaction is signed -/

/-- After `k` inputs of the second pass, the messages sent and what waits carry `k` signatures. -/
theorem SignedUpTo.count {k : Nat} {s : SigState} (h : SignedUpTo k s) :
    s.sent.length + (if s.waiting.toNext.hasSignature then 1 else 0) = k := by
  cases k with
  | zero => rw [h]; rfl
  | succ k => obtain ⟨_, rfl⟩ := h; simp [Waiting.toNext]

/-- Against a host streaming an honest transaction, with natives that accept every call, a session
returns the `Done` response, and one signature per input travelled in its messages and that
response. -/
theorem runProcess_signs_honest_transaction (tx : HostTx) (env : Env) (request : BtcSignInitRequest)
    (hhost : tx.Honest env request) (hnatives : env.Accepts) :
    ∃ response, (runProcess env request).1 = .ok response ∧ response.next.type = .done ∧
      signedMessages (runProcess env request).2 + (if response.next.hasSignature then 1 else 0) =
        tx.inputs.length := by
  have h := runProcess_protocol env request
  revert h
  rcases runProcess env request with ⟨e | response, log⟩
  · exact fun h ↦ (h.misbehaved tx hhost hnatives).elim
  · rintro ⟨⟨wrap, s, hs, hchecks, rfl⟩, -⟩
    refine ⟨_, rfl, by simp, ?_⟩
    rw [← (monitors_eq request log).2.2, hchecks, ← hhost.numInputs]
    simpa using hs.count

theorem runProcess_signs_honest_transaction_oneInputTx :
    (oneInputTx.Honest (oneInputTx.hostEnv []) ⟨0, 1, 1, 1, 0⟩ ∧ (oneInputTx.hostEnv []).Accepts) ∧
    ∃ response, (runProcess (oneInputTx.hostEnv []) ⟨0, 1, 1, 1, 0⟩).1 = .ok response ∧
      response.next.type = .done ∧
      signedMessages (runProcess (oneInputTx.hostEnv []) ⟨0, 1, 1, 1, 0⟩).2 +
        (if response.next.hasSignature then 1 else 0) = oneInputTx.inputs.length :=
  ⟨oneInputTx_honest,
    runProcess_signs_honest_transaction _ _ _ oneInputTx_honest.1 oneInputTx_honest.2⟩

/-! ### Failures -/

/-- Every session stops at its first failure: one that returns had no failed step, and after the
failure of one that fails the log holds only what wraps it up. -/
theorem runProcess_stops_at_first_failure (env : Env) (request : BtcSignInitRequest) :
    match runProcess env request with
    | (.ok _, log) => Clean log
    | (.error e, log) => StoppedAt e log := by
  have h := runProcess_protocol env request
  revert h
  rcases runProcess env request with ⟨e | response, log⟩
  · exact fun h ↦ h.stopped
  · exact fun h ↦ h.clean

/-- Every error of a session is one the code raises itself, or one the log shows a collaborator
returning. -/
theorem runProcess_errors_explained (env : Env) (request : BtcSignInitRequest) (e : Error)
    (herror : (runProcess env request).1 = .error e) : Explained e (runProcess env request).2 :=
  (runProcess_closed herror).explained

/-- A host that streams outputs and natives that accept every call but `sign_output`, which
returns `UserAbort` as when the user declines an output. -/
def decliningUserEnv : Env where
  nextRequest _ _ := .ok (.btcSignOutput ⟨false, 0, 5, [], [], 0⟩)
  isLocked _ := false
  signInit _ _ := .ok ()
  signInputPass1 _ _ _ := .ok ()
  signOutput _ _ _ := .error .userAbort
  signInputPass2 _ _ _ := .ok ([], [])
  signAntiklepto _ _ := .ok []
  sha256 _ := []

theorem runProcess_errors_explained_decliningUser :
    (runProcess decliningUserEnv ⟨0, 1, 0, 1, 0⟩).1 = .error .userAbort ∧
    Explained .userAbort (runProcess decliningUserEnv ⟨0, 1, 0, 1, 0⟩).2 :=
  ⟨rfl, runProcess_errors_explained _ _ _ rfl⟩

/-! ### The gates of signing -/

/-- A session that returns checked the previous transaction of every input. -/
theorem runProcess_checks_every_prevtx (env : Env) (request : BtcSignInitRequest) (response : Response)
    (hok : (runProcess env request).1 = .ok response) :
    ∀ i < request.numInputs.toNat,
      ContainsChecked env.sha256 (UInt32.ofNat i) (runProcess env request).2 :=
  (runProcess_completed hok).gates.1

theorem runProcess_checks_every_prevtx_oneInputTx :
    (runProcess (oneInputTx.hostEnv []) ⟨0, 1, 1, 1, 0⟩).1 =
      .ok (.btcSignNext { emptyNext with type := .done, hasSignature := true }) ∧
    ∀ i < (1 : UInt32).toNat,
      ContainsChecked (oneInputTx.hostEnv []).sha256 (UInt32.ofNat i)
        (runProcess (oneInputTx.hostEnv []) ⟨0, 1, 1, 1, 0⟩).2 :=
  ⟨rfl, runProcess_checks_every_prevtx (oneInputTx.hostEnv []) ⟨0, 1, 1, 1, 0⟩
    (.btcSignNext { emptyNext with type := .done, hasSignature := true }) rfl⟩

/-- Every message that carries a signing result is sent after every output was accepted, and a
session that returns, whose `Done` response carries the last signature, accepted every output. -/
theorem runProcess_signs_after_outputs (env : Env) (request : BtcSignInitRequest) :
    SentAfterOutputs request.numOutputs.toNat (runProcess env request).2 ∧
    ∀ response, (runProcess env request).1 = .ok response →
      request.numOutputs.toNat ≤ acceptedOutputs (runProcess env request).2 :=
  ⟨(runProcess_facts env request).outputs, fun _ hok ↦ (runProcess_completed hok).gates.2⟩

/-- Every message that carries a signing result is sent after the previous transaction of every
input was checked, and so is the `Done` response of a session that returns. -/
theorem runProcess_signs_after_prevtx_checks (env : Env) (request : BtcSignInitRequest) :
    SentAfter (PrevtxsChecked env.sha256 request.numInputs) (runProcess env request).2 ∧
    ∀ response, (runProcess env request).1 = .ok response →
      PrevtxsChecked env.sha256 request.numInputs (runProcess env request).2 :=
  ⟨(runProcess_facts env request).prevtxs, fun _ hok ↦ (runProcess_completed hok).gates.1⟩

/-! ### What the signing natives receive -/

/-- Every call of a signing native receives the record of the host reply logged right before it. -/
theorem runProcess_natives_get_host_records (env : Env) (request : BtcSignInitRequest) :
    RecordsServed (runProcess env request).2 :=
  (runProcess_facts env request).records

/-- Every call of `sign_antiklepto` directly follows the `sign_input_pass2` call that produced the
commitment and the host's nonce for the `HostNonce` hint carrying it. -/
theorem runProcess_antiklepto_commits_before_nonce (env : Env) (request : BtcSignInitRequest) :
    NoncesAfterCommitments (runProcess env request).2 :=
  (runProcess_facts env request).nonces

/-! ### Progress -/

/-- Every progress value lies in `[0, 1]`, unless the host sent a previous transaction's header
whose counts sum to `2^32` or more. -/
theorem runProcess_progress_in_unit (env : Env) (request : BtcSignInitRequest) :
    ReceivedWrappingCounts (runProcess env request).2 ∨
      ∀ p, .progressSet p ∈ (runProcess env request).2 → p.InUnit :=
  (runProcess_facts env request).progress

/-- A header whose counts pass the check of `handle_prevtx` but sum to `2^32` or more is followed,
in every session, by a progress update whose total is the sum wrapped to `u32`. -/
theorem runProcess_progress_total_wraps (env : Env) (request : BtcSignInitRequest)
    {pre post : List Event} {response : Response} {init : BtcPrevTxInitRequest}
    (hlog : (runProcess env request).2 =
      pre ++ .exchange response (.ok (.btc (.prevtxInit init))) :: post)
    (htype : response.next.type = .prevtxInit) (hinputs : 1 ≤ init.numInputs.toNat)
    (houtputs : 1 ≤ init.numOutputs.toNat)
    (hwraps : 2 ^ 32 ≤ init.numInputs.toNat + init.numOutputs.toNat) :
    ∃ total rest, post = .progressSet (.prevtx response.next.index request.numInputs 0 total) :: rest ∧
      total.toNat + 2 ^ 32 = init.numInputs.toNat + init.numOutputs.toNat := by
  obtain ⟨rest, hrest⟩ := (runProcess_facts env request).totals.follows
    (runProcess_lastAnswered env request) hlog
    (by simp only [Event.answered, headerOf]; rw [if_pos ⟨htype, hinputs, houtputs⟩])
  refine ⟨prevtxProgressTotal init, rest, hrest, ?_⟩
  have hsize : UInt32.size = 2 ^ 32 := rfl
  have hinputs' := init.numInputs.toNat_lt_size
  have houtputs' := init.numOutputs.toNat_lt_size
  rw [prevtxProgressTotal, UInt32.toNat_add]
  rw [hsize] at hinputs' houtputs' ⊢
  omega

/-- The input record of `overflowingHost`. -/
def overflowingInput : BtcSignInputRequest := ⟨[], 0, 5, 0, [], 0, none⟩

/-- A header that passes the check of `handle_prevtx` and whose counts sum to `2^32`. -/
def overflowingInit : BtcPrevTxInitRequest := ⟨1, 4294967295, 1, 0⟩

/-- A host that answers `Input(0)` with `overflowingInput`, answers `PrevtxInit(0)` with
`overflowingInit`, and fails every other hint, with natives that accept every call. -/
def overflowingHost : Env where
  nextRequest _ response :=
    match response.next.type with
    | .input => .ok (.btcSignInput overflowingInput)
    | .prevtxInit => .ok (.btc (.prevtxInit overflowingInit))
    | _ => .error .invalidInput
  isLocked _ := false
  signInit _ _ := .ok ()
  signInputPass1 _ _ _ := .ok ()
  signOutput _ _ _ := .ok ()
  signInputPass2 _ _ _ := .ok ([], [])
  signAntiklepto _ _ := .ok []
  sha256 _ := []

/-- The session of one input against `overflowingHost`: right after the header, the progress update
divides by a total of `0`. -/
theorem runProcess_progress_total_wraps_overflowingHost :
    (runProcess overflowingHost ⟨0, 1, 1, 1, 0⟩).2 =
      [.isLocked false, .signInit ⟨0, 1, 1, 1, 0⟩ (.ok ()), .progressSet (.ratio 0 1),
        .exchange (hintMessage .initial false .input 0 none) (.ok (.btcSignInput overflowingInput)),
        .signInputPass1 overflowingInput true (.ok ())] ++
      .exchange (hintMessage .initial false .prevtxInit 0 none)
        (.ok (.btc (.prevtxInit overflowingInit))) ::
      [.progressSet (.prevtx 0 1 0 0),
        .exchange (hintMessage .initial true .prevtxInput 0 (some 0)) (.error .invalidInput),
        .handlePrevtx 0 overflowingInput (.error .invalidInput), .signReset] ∧
    (hintMessage .initial false .prevtxInit 0 none).next.type = .prevtxInit ∧
    1 ≤ overflowingInit.numInputs.toNat ∧ 1 ≤ overflowingInit.numOutputs.toNat ∧
    2 ^ 32 ≤ overflowingInit.numInputs.toNat + overflowingInit.numOutputs.toNat ∧
    ∃ total rest,
      [Event.progressSet (.prevtx 0 1 0 0),
        .exchange (hintMessage .initial true .prevtxInput 0 (some 0)) (.error .invalidInput),
        .handlePrevtx 0 overflowingInput (.error .invalidInput), .signReset] =
        .progressSet (.prevtx (hintMessage .initial false .prevtxInit 0 none).next.index
          (1 : UInt32) 0 total) :: rest ∧
      total.toNat + 2 ^ 32 = overflowingInit.numInputs.toNat + overflowingInit.numOutputs.toNat := by
  refine ⟨?hlog, rfl, by decide, by decide, by decide,
    runProcess_progress_total_wraps overflowingHost ⟨0, 1, 1, 1, 0⟩ ?hlog rfl (by decide) (by decide)
      (by decide)⟩
  rfl

end BtcSignTx
