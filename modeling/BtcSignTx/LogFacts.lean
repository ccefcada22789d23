import BtcSignTx.Failures
import BtcSignTx.HandlePrevtx
import BtcSignTx.PrevTx

/-!
# Facts of a session log

What the session results say about the log, each as a predicate with its one-event lemma: logging one
more event keeps it when that event meets a condition. The walk of `SessionProtocol` meets these
conditions at every step of the code, and `SessionResults` states what they give.

* Data flow: every native signing call receives the record of the host reply logged right before
  it (`RecordsServed`), and every call of `sign_antiklepto` directly follows the signer commitment
  and the host nonce that answers it (`NoncesAfterCommitments`).
* Gates: every message carrying the result of signing an input is sent after a prefix of the log
  that satisfies a condition (`SentAfter`): every output accepted (`SentAfterOutputs`), every
  previous transaction checked (`PrevtxsChecked`).
* Progress: every progress value is in `[0, 1]` unless the host sent wrapping counts
  (`ProgressSound`), and every header of a previous transaction is followed by the first progress
  update of its stream, whose total is a `u32` sum (`TotalsReported`).

`Facts` bundles the facts that hold at every point of every session, failed or not.
-/

set_option autoImplicit false
set_option relaxedAutoImplicit false

namespace BtcSignTx

/-! ### The last answer -/

/-- What the last entry of `log` received, when it is a round trip that the host answered. -/
def lastAnswered (log : List Event) : Option (Response × Request) :=
  log.getLast?.bind Event.answered

@[simp] theorem lastAnswered_nil : lastAnswered [] = none := rfl

@[simp] theorem lastAnswered_append (log : List Event) (event : Event) :
    lastAnswered (log ++ [event]) = event.answered := by
  simp [lastAnswered]

/-- The check of the last answer reads the log's last entry. -/
theorem monitors_last (request : BtcSignInitRequest) (log : List Event) :
    (monitors request log).last = lastAnswered log := by
  induction log using List.reverseRecOn with
  | nil => rfl
  | append_singleton log event _ => rw [monitors_append, lastAnswered_append]; rfl

/-! ### Records served to the natives -/

/-- The host request whose record a native signing call received. -/
def Event.nativeRecord? : Event → Option Request
  | .signInputPass1 input _ _ => some (.btcSignInput input)
  | .signOutput output _ _ => some (.btcSignOutput output)
  | .signInputPass2 input _ _ => some (.btcSignInput input)
  | .signAntiklepto request _ => some (.btc (.antikleptoSignature request))
  | _ => none

/-- The last entry of `log` is a host reply carrying `record`. -/
def LastReply (record : Request) (log : List Event) : Prop :=
  ∃ response, log.getLast? = some (.exchange response (.ok record))

theorem Event.answered_eq_some {event : Event} {response : Response} {record : Request} :
    event.answered = some (response, record) ↔ event = .exchange response (.ok record) := by
  rcases event with _ | _ | _ | _ | _ | _ | _ | _ | _ | _ | _ <;> simp [Event.answered]
  split <;> simp_all

theorem lastReply_of_lastAnswered {log : List Event} {response : Response} {record : Request}
    (h : lastAnswered log = some (response, record)) : LastReply record log :=
  let ⟨_, hlast, hevent⟩ := Option.bind_eq_some.mp h
  ⟨response, by rw [hlast, Event.answered_eq_some.mp hevent]⟩

/-- Every native signing call in `log` received the record of the host reply logged right before
it. -/
def RecordsServed (log : List Event) : Prop :=
  ∀ pre event post record, log = pre ++ event :: post → event.nativeRecord? = some record →
    LastReply record pre

theorem recordsServed_nil : RecordsServed [] :=
  fun pre _ _ _ hsplit ↦ absurd hsplit.symm (by simp)

/-- Logging one more event keeps `RecordsServed` if, when it is a native signing call, the reply
logged last carries its record. -/
theorem RecordsServed.append {log : List Event} (h : RecordsServed log) {event : Event}
    (hevent : ∀ record, event.nativeRecord? = some record → LastReply record log) :
    RecordsServed (log ++ [event]) := by
  intro pre event' post record hsplit hrecord
  rcases split_append_singleton hsplit with ⟨rfl, rfl⟩ | ⟨post, hlog⟩
  · exact hevent record hrecord
  · exact h pre event' post record hlog hrecord

/-! ### Commitments before nonces -/

/-- Whether a log entry is a call of `sign_antiklepto`. -/
def Event.isSignAntiklepto : Event → Bool
  | .signAntiklepto _ _ => true
  | _ => false

/-- `log` ends with the two entries a call of `sign_antiklepto` on `nonce` must directly follow:
the `sign_input_pass2` call of an input with a host nonce commitment, which returned the signer
commitment, and the round trip whose message asked for the host nonce, carrying that commitment
and no signature, and whose reply carried `nonce`. -/
def CommittedBefore (nonce : AntiKleptoSignatureRequest) (log : List Event) : Prop :=
  ∃ pre input last signature commitment response,
    log = pre ++ [.signInputPass2 input last (.ok (signature, commitment)),
      .exchange response (.ok (.btc (.antikleptoSignature nonce)))] ∧
    input.hostNonceCommitment.isSome ∧ response.next.type = .hostNonce ∧
    response.next.antiKleptoSignerCommitment = some ⟨commitment⟩ ∧
    response.next.hasSignature = false ∧ response.next.signature = []

/-- Every call of `sign_antiklepto` in `log` directly follows the commitment and the host nonce
that answers it. -/
def NoncesAfterCommitments (log : List Event) : Prop :=
  ∀ pre nonce result post, log = pre ++ .signAntiklepto nonce result :: post →
    CommittedBefore nonce pre

theorem noncesAfterCommitments_nil : NoncesAfterCommitments [] :=
  fun pre _ _ _ hsplit ↦ absurd hsplit.symm (by simp)

/-- Logging one more event keeps `NoncesAfterCommitments` if, when it is a call of
`sign_antiklepto`, the log ends with the commitment and the nonce it receives. -/
theorem NoncesAfterCommitments.append {log : List Event} (h : NoncesAfterCommitments log)
    {event : Event} (hevent : ∀ nonce result, event = .signAntiklepto nonce result →
      CommittedBefore nonce log) :
    NoncesAfterCommitments (log ++ [event]) := by
  intro pre nonce result post hsplit
  rcases split_append_singleton hsplit with ⟨rfl, hlast⟩ | ⟨post, hlog⟩
  · exact hevent nonce result hlast.symm
  · exact h pre nonce result post hlog

/-! ### Messages sent after a gate -/

/-- A `BtcSignNextResponse` carries the result of signing an input: `has_signature`, a signature,
or an anti-klepto signer commitment. -/
def BtcSignNextResponse.CarriesSignature (next : BtcSignNextResponse) : Prop :=
  next.hasSignature = true ∨ next.signature ≠ [] ∨ next.antiKleptoSignerCommitment ≠ none

instance (next : BtcSignNextResponse) : Decidable next.CarriesSignature :=
  inferInstanceAs (Decidable (_ ∨ _ ∨ _))

theorem not_carriesSignature_emptyNext : ¬ emptyNext.CarriesSignature := by decide

/-- Every message in `log` that carries a signing result was sent after a prefix of `log` that
satisfies `P`. -/
def SentAfter (P : List Event → Prop) (log : List Event) : Prop :=
  ∀ pre response reply post, log = pre ++ .exchange response reply :: post →
    response.next.CarriesSignature → P pre

theorem sentAfter_nil {P : List Event → Prop} : SentAfter P [] :=
  fun pre _ _ _ hsplit ↦ absurd hsplit.symm (by simp)

/-- Logging one more event keeps `SentAfter P` if, when it is a message carrying a signing
result, the log before it satisfies `P`. -/
theorem SentAfter.append {P : List Event → Prop} {log : List Event} (h : SentAfter P log)
    {event : Event} (hevent : ∀ response reply, event = .exchange response reply →
      response.next.CarriesSignature → P log) :
    SentAfter P (log ++ [event]) := by
  intro pre response reply post hsplit hcarries
  rcases split_append_singleton hsplit with ⟨rfl, hlast⟩ | ⟨post, hlog⟩
  · exact hevent response reply hlast.symm hcarries
  · exact h pre response reply post hlog hcarries

/-- Whether a log entry is a call of `sign_output` that returned `Ok`. -/
def Event.isAcceptedOutput : Event → Bool
  | .signOutput _ _ (.ok _) => true
  | _ => false

/-- The number of calls of `sign_output` in a log that returned `Ok`. -/
def acceptedOutputs (log : List Event) : Nat := log.countP Event.isAcceptedOutput

@[simp] theorem acceptedOutputs_append (log log' : List Event) :
    acceptedOutputs (log ++ log') = acceptedOutputs log + acceptedOutputs log' :=
  List.countP_append _ _ _

theorem acceptedOutputs_singleton (event : Event) :
    acceptedOutputs [event] = if event.isAcceptedOutput then 1 else 0 := by
  simp [acceptedOutputs, List.countP_cons]

/-- Every message in `log` that carries a signing result was sent after `m` calls of `sign_output`
had returned `Ok`. -/
def SentAfterOutputs (m : Nat) (log : List Event) : Prop :=
  ∀ pre response reply post, log = pre ++ .exchange response reply :: post →
    response.next.CarriesSignature → m ≤ acceptedOutputs pre

/-! ### Checked previous transactions -/

/-- A log segment that ends with `handle_prevtx` for input `index` returning, right after the host
streamed a previous transaction `tx` with an input and an output, whose double hash is the input
record's `prev_out_hash` and whose output at `prev_out_index`, if any, has the input's value. -/
def PrevtxChecked (sha256 : Bytes → Bytes) (index : UInt32) (seg : List Event) : Prop :=
  ∃ input : BtcSignInputRequest, ∃ tx : PrevTx, ∃ pre stream,
    seg = pre ++ stream ++ [.handlePrevtx index input (.ok ())] ∧ replies stream = tx.replies ∧
    1 ≤ tx.inputs.length ∧ 1 ≤ tx.outputs.length ∧
    (∀ y, tx.outputs[input.prevOutIndex.toNat]? = some y → y.value = input.prevOutValue) ∧
    sha256 (sha256 tx.serialize) = input.prevOutHash

/-- `log` holds a segment in which the previous transaction of input `index` was checked. -/
def ContainsChecked (sha256 : Bytes → Bytes) (index : UInt32) (log : List Event) : Prop :=
  ∃ pre seg post, log = pre ++ seg ++ post ∧ PrevtxChecked sha256 index seg

theorem ContainsChecked.append {sha256 : Bytes → Bytes} {index : UInt32} {log : List Event}
    (h : ContainsChecked sha256 index log) (more : List Event) :
    ContainsChecked sha256 index (log ++ more) :=
  let ⟨pre, seg, post, hlog, hseg⟩ := h
  ⟨pre, seg, post ++ more, by rw [hlog, List.append_assoc], hseg⟩

/-- The previous transaction of every input below `numInputs` was checked in `log`. -/
def PrevtxsChecked (sha256 : Bytes → Bytes) (numInputs : UInt32) (log : List Event) : Prop :=
  ∀ i < numInputs.toNat, ContainsChecked sha256 (UInt32.ofNat i) log

theorem PrevtxsChecked.append {sha256 : Bytes → Bytes} {numInputs : UInt32} {log : List Event}
    (h : PrevtxsChecked sha256 numInputs log) (seg : List Event) :
    PrevtxsChecked sha256 numInputs (log ++ seg) :=
  fun i hi ↦ (h i hi).append seg

/-- A checked segment for index `k` extends the indices below `k` whose previous transaction a log
has checked to those below `k + 1`. -/
theorem containsChecked_succ {sha256 : Bytes → Bytes} {k : Nat} {log seg : List Event}
    (h : ∀ j < k, ContainsChecked sha256 (UInt32.ofNat j) log)
    (hseg : PrevtxChecked sha256 (UInt32.ofNat k) seg) :
    ∀ j < k + 1, ContainsChecked sha256 (UInt32.ofNat j) (log ++ seg) := by
  intro j hj
  rcases Nat.lt_succ_iff_lt_or_eq.mp hj with hj | rfl
  · exact (h j hj).append seg
  · exact ⟨log, seg, [], by simp, hseg⟩

/-! ### Progress values -/

/-- The `f32` expression of a progress update lies in `[0, 1]`. -/
def Progress.InUnit : Progress → Prop
  | .ratio a b => a.toNat ≤ b.toNat ∧ 0 < b.toNat
  | .prevtx i n a b => i.toNat < n.toNat ∧ a.toNat < b.toNat
  | .complete => True

/-- The log holds a `PrevtxInit` reply whose counts add up to `2 ^ 32` or more. -/
def ReceivedWrappingCounts (log : List Event) : Prop :=
  ∃ response init, .exchange response (.ok (.btc (.prevtxInit init))) ∈ log ∧
    2 ^ 32 ≤ init.numInputs.toNat + init.numOutputs.toNat

/-- Every progress update in `log` lies in `[0, 1]`, unless the host sent wrapping counts. -/
def ProgressSound (log : List Event) : Prop :=
  ReceivedWrappingCounts log ∨ ∀ p, .progressSet p ∈ log → p.InUnit

theorem ReceivedWrappingCounts.append {log : List Event} (h : ReceivedWrappingCounts log)
    (seg : List Event) : ReceivedWrappingCounts (log ++ seg) :=
  let ⟨response, init, hmem, hwrap⟩ := h
  ⟨response, init, List.mem_append_left _ hmem, hwrap⟩

/-- An event that is not a progress update out of `[0, 1]`, or one after wrapping counts, keeps
`ProgressSound`. -/
theorem ProgressSound.append {log : List Event} (h : ProgressSound log) {event : Event}
    (hevent : ∀ p, event = .progressSet p → p.InUnit ∨ ReceivedWrappingCounts log) :
    ProgressSound (log ++ [event]) := by
  rcases h with hwrap | hunit
  · exact .inl (hwrap.append _)
  · by_cases hwrap : ReceivedWrappingCounts log
    · exact .inl (hwrap.append _)
    refine .inr fun p hp ↦ ?_
    rcases List.mem_append.mp hp with hp | hp
    · exact hunit p hp
    · exact (hevent p (List.mem_singleton.mp hp).symm).resolve_right hwrap

/-! ### Progress totals -/

/-- A host's answer that opens the stream of a previous transaction: a header, sent for a
`PrevtxInit` hint, whose counts pass the check of `handle_prevtx`. -/
def headerOf : Option (Response × Request) → Option (Response × BtcPrevTxInitRequest)
  | some (response, .btc (.prevtxInit init)) =>
    if response.next.type = .prevtxInit ∧ 1 ≤ init.numInputs.toNat ∧ 1 ≤ init.numOutputs.toNat then
      some (response, init)
    else none
  | _ => none

/-- The first progress update of the previous transaction whose header `init` answered `response`:
its first input of `prevtx_init.num_inputs + prevtx_init.num_outputs` records, a `u32` sum. -/
def firstPrevtxProgress (numInputs : UInt32) (response : Response) (init : BtcPrevTxInitRequest) :
    Event :=
  .progressSet (.prevtx response.next.index numInputs 0 (prevtxProgressTotal init))

/-- Every header in `log` that some entry follows is followed by the first progress update of its
previous transaction. -/
def TotalsReported (numInputs : UInt32) (log : List Event) : Prop :=
  ∀ pre header event post response init, log = pre ++ header :: event :: post →
    headerOf header.answered = some (response, init) →
    event = firstPrevtxProgress numInputs response init

theorem totalsReported_nil (numInputs : UInt32) : TotalsReported numInputs [] :=
  fun pre _ _ _ _ _ hsplit ↦ absurd hsplit.symm (by simp)

/-- Logging one more event keeps `TotalsReported` if, when the log ends with a header, the event is
the first progress update of its previous transaction. -/
theorem TotalsReported.append {numInputs : UInt32} {log : List Event}
    (h : TotalsReported numInputs log) {event : Event}
    (hevent : ∀ response init, headerOf (lastAnswered log) = some (response, init) →
      event = firstPrevtxProgress numInputs response init) :
    TotalsReported numInputs (log ++ [event]) := by
  intro pre header event' post response init hsplit hheader
  have hsplit' : log ++ [event] = (pre ++ [header]) ++ event' :: post := by simp [hsplit]
  rcases split_append_singleton hsplit' with ⟨hpre, rfl⟩ | ⟨post, hlog⟩
  · exact hevent response init (by rw [← hpre, lastAnswered_append, hheader])
  · exact h pre header event' post response init (by rw [hlog, List.append_assoc]; rfl) hheader

/-- In a log whose last entry received no answer, every header is followed by the first progress
update of its previous transaction. -/
theorem TotalsReported.follows {numInputs : UInt32} {log : List Event}
    (h : TotalsReported numInputs log) (hlast : lastAnswered log = none) {pre post : List Event}
    {header : Event} (hlog : log = pre ++ header :: post) {response : Response}
    {init : BtcPrevTxInitRequest} (hheader : headerOf header.answered = some (response, init)) :
    ∃ rest, post = firstPrevtxProgress numInputs response init :: rest := by
  rcases post with _ | ⟨event, rest⟩
  · rw [hlog, ← List.concat_eq_append, List.concat_eq_append, lastAnswered_append] at hlast
    rw [hlast] at hheader
    exact nomatch hheader
  · exact ⟨rest, by rw [h pre header event rest response init hlog hheader]⟩

/-- A failure or what wraps it up opens no stream. -/
theorem StoppedAt.settled {e : Error} {log : List Event} (h : StoppedAt e log) :
    headerOf (lastAnswered log) = none := by
  obtain ⟨event, hlast, hevent⟩ := h.getLast
  rw [lastAnswered, hlast, Option.some_bind]
  cases hanswered : event.answered with
  | none => rfl
  | some answer =>
    obtain ⟨response, record⟩ := answer
    obtain rfl := Event.answered_eq_some.mp hanswered
    rcases record with _ | _ | (init | _ | _ | _ | _) | _ <;> try rfl
    simp only [headerOf]
    split_ifs with hheader
    · rcases hevent with hevent | hevent
      · simp [Event.failure?, hheader.1, NextType.demands] at hevent
      · exact hevent.elim
    · rfl

/-! ### The facts of every session -/

section Facts

variable (env : Env) (request : BtcSignInitRequest)

/-- The facts that hold of the log at every point of every session: the natives got the host's
records, `sign_antiklepto` followed its commitment and nonce, every signing result was sent past
both gates, the progress values are sound, and every header was followed by the first progress
update of its previous transaction. -/
structure Facts (log : List Event) : Prop where
  records : RecordsServed log
  nonces : NoncesAfterCommitments log
  outputs : SentAfterOutputs request.numOutputs.toNat log
  prevtxs : SentAfter (PrevtxsChecked env.sha256 request.numInputs) log
  progress : ProgressSound log
  totals : TotalsReported request.numInputs log

/-- Both gates of signing are open: every previous transaction was checked, and every output
accepted. -/
def PastGates (log : List Event) : Prop :=
  PrevtxsChecked env.sha256 request.numInputs log ∧ request.numOutputs.toNat ≤ acceptedOutputs log

theorem facts_nil : Facts env request [] :=
  ⟨recordsServed_nil, noncesAfterCommitments_nil, sentAfter_nil, sentAfter_nil,
    .inr (fun _ h ↦ nomatch h), totalsReported_nil _⟩

variable {env request} {log : List Event}

theorem PastGates.append (h : PastGates env request log) (seg : List Event) :
    PastGates env request (log ++ seg) :=
  ⟨h.1.append seg, h.2.trans (by rw [acceptedOutputs_append]; exact Nat.le_add_right _ _)⟩

/-- Logging one more event keeps the facts when it meets each of their conditions. -/
theorem Facts.append (h : Facts env request log) {event : Event}
    (hrecord : ∀ record, event.nativeRecord? = some record → LastReply record log)
    (hnonce : ∀ nonce result, event = .signAntiklepto nonce result → CommittedBefore nonce log)
    (hgate : ∀ response reply, event = .exchange response reply →
      response.next.CarriesSignature → PastGates env request log)
    (hprogress : ∀ p, event = .progressSet p → p.InUnit ∨ ReceivedWrappingCounts log)
    (htotal : ∀ response init, headerOf (lastAnswered log) = some (response, init) →
      event = firstPrevtxProgress request.numInputs response init) :
    Facts env request (log ++ [event]) :=
  ⟨h.records.append hrecord, h.nonces.append hnonce,
    SentAfter.append (P := fun pre ↦ request.numOutputs.toNat ≤ acceptedOutputs pre) h.outputs
      fun response reply hevent hcarries ↦ (hgate response reply hevent hcarries).2,
    h.prevtxs.append fun response reply hevent hcarries ↦ (hgate response reply hevent hcarries).1,
    h.progress.append hprogress, h.totals.append htotal⟩

/-- Whether a log entry is a call that none of the facts reads: the keystore check, `sign_init`,
`handle_prevtx`, `sign_reset` and the status screens. -/
def Event.Quiet : Event → Prop
  | .isLocked _ | .signInit _ _ | .handlePrevtx _ _ _ | .signReset | .status _ _ => True
  | _ => False

theorem Event.Quiet.nativeRecord {event : Event} (hevent : event.Quiet) : event.nativeRecord? = none := by
  cases event <;> first | rfl | exact absurd hevent id

/-- An entry none of the facts reads, after a log that does not end with a header. -/
theorem Facts.append_quiet (h : Facts env request log) {event : Event} (hevent : event.Quiet)
    (hsettled : headerOf (lastAnswered log) = none) : Facts env request (log ++ [event]) := by
  refine h.append (fun _ hsome ↦ ?_) (fun _ _ heq ↦ ?_) (fun _ _ heq ↦ ?_) (fun _ heq ↦ ?_)
    (fun _ _ hheader ↦ absurd (hsettled.symm.trans hheader) nofun)
  · rw [hevent.nativeRecord] at hsome; cases hsome
  all_goals subst heq; exact hevent.elim

/-- A message, after a log that does not end with a header, that carries a signing result only past
both gates. -/
theorem Facts.append_exchange (h : Facts env request log) {response : Response}
    {reply : Except Error Request}
    (hgate : response.next.CarriesSignature → PastGates env request log)
    (hsettled : headerOf (lastAnswered log) = none) :
    Facts env request (log ++ [.exchange response reply]) :=
  h.append (fun _ hsome ↦ nomatch hsome) (fun _ _ heq ↦ nomatch heq)
    (fun _ _ heq hcarries ↦ by cases heq; exact hgate hcarries) (fun _ heq ↦ nomatch heq)
    (fun _ _ hheader ↦ absurd (hsettled.symm.trans hheader) nofun)

/-- A progress update in `[0, 1]` or after wrapping counts, which is the first of its previous
transaction when the log ends with a header. -/
theorem Facts.append_progress (h : Facts env request log) {p : Progress}
    (hunit : p.InUnit ∨ ReceivedWrappingCounts log)
    (htotal : ∀ response init, headerOf (lastAnswered log) = some (response, init) →
      Event.progressSet p = firstPrevtxProgress request.numInputs response init) :
    Facts env request (log ++ [.progressSet p]) :=
  h.append (fun _ hsome ↦ nomatch hsome) (fun _ _ heq ↦ nomatch heq) (fun _ _ heq ↦ nomatch heq)
    (fun _ heq ↦ by cases heq; exact hunit) htotal

/-- A native signing call other than `sign_antiklepto`, on the record the host's reply logged last
carries. -/
theorem Facts.append_native (h : Facts env request log) {event : Event} {record : Request}
    (hrecord : event.nativeRecord? = some record) (hanti : event.isSignAntiklepto = false)
    {response : Response} (hlast : lastAnswered log = some (response, record)) :
    Facts env request (log ++ [event]) := by
  have hnative : ∀ reply, headerOf (some (response, record)) = reply → reply = none := by
    rintro _ rfl
    rcases event with _ | _ | _ | _ | _ | _ | _ | _ | _ | _ | _ <;> cases hrecord <;> rfl
  refine h.append (fun _ hsome ↦ ?_) (fun _ _ heq ↦ ?_) (fun _ _ heq ↦ ?_) (fun _ heq ↦ ?_)
    (fun _ _ hheader ↦ ?_)
  · rw [hrecord] at hsome
    cases hsome
    exact lastReply_of_lastAnswered hlast
  · subst heq; cases hanti
  · subst heq; cases hrecord
  · subst heq; cases hrecord
  · rw [hlast, hnative _ rfl] at hheader; cases hheader

/-- A call of `sign_antiklepto` right after its commitment and the host nonce that answers it. -/
theorem Facts.append_antiklepto (h : Facts env request log) {nonce : AntiKleptoSignatureRequest}
    {result : Except Error Bytes} (hcommitted : CommittedBefore nonce log) :
    Facts env request (log ++ [.signAntiklepto nonce result]) := by
  obtain ⟨pre, input, last, signature, commitment, response, rfl, hcommitment⟩ := hcommitted
  refine h.append (fun _ hsome ↦ ?_) (fun _ _ heq ↦ ?_) (fun _ _ heq ↦ nomatch heq)
    (fun _ heq ↦ nomatch heq) (fun _ _ hheader ↦ ?_)
  · cases hsome
    exact ⟨response, by simp⟩
  · cases heq
    exact ⟨pre, input, last, signature, commitment, response, rfl, hcommitment⟩
  · simp [lastAnswered, Event.answered, headerOf] at hheader

end Facts

end BtcSignTx
