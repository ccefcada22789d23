import BtcSignTx.Messages

/-!
# The signing session and its collaborators

`signtx.rs` is one `async` workflow that suspends only to exchange messages with the host, and
otherwise calls out to the keystore, the native signing code (`app_btc`), the UI and SHA-256. The
model runs it in `Session`, a state monad over a `Device` (the log of what has happened, and the
`NextResponse`) that reads its collaborators from an `Env` and can fail with an `Error`. The log
survives a failure, so it records a failing run up to its last step.

`Env` holds one answer function per collaborator, and every answer may depend on the whole log so
far. Every host behaviour and every outcome of the native calls is therefore one `Env`, and a
statement over all `Env`s is a statement over all of them. SHA-256 is a function in `Env` too: the
model holds for every hash function.

The primitives are `call` (a collaborator answers, and the call and its result are logged), `emit`
(an effect with no answer, such as `sign_reset` or a progress update), `digest` (SHA-256) and the
accessors of the `NextResponse`. `foldRange` is a `for` loop over `0..n` with a loop-carried value.
Each has a `run_*` lemma, and later proofs use those instead of unfolding.

Scope. The UI components (`progress_create`, `empty_create`, their screen-stack pushes and drops)
are not modelled; `progress_set` and `status` are, as log entries carrying what the code computes.
The `f32` progress value is kept as the `u32` operands of its expression (`Progress`).
-/

set_option autoImplicit false
set_option relaxedAutoImplicit false

namespace BtcSignTx

/-- The value `progress_set` receives, as the `u32` operands of the `f32` expression the code
evaluates: `ratio a b` is `a as f32 / b as f32`, `prevtx i n a b` is
`(i as f32 + a as f32 / b as f32) * (1 / n as f32)`, and `complete` is `1.`. -/
inductive Progress
  | ratio (numerator denominator : UInt32)
  | prevtx (inputIndex numInputs numerator denominator : UInt32)
  | complete
  deriving DecidableEq, Repr

/-- One entry of the session log: a round trip to the host, a call to a collaborator with its
result, a call of `handle_prevtx` with its result, or a UI effect. -/
inductive Event
  | exchange (response : Response) (reply : Except Error Request)
  | isLocked (locked : Bool)
  | signInit (request : BtcSignInitRequest) (result : Except Error Unit)
  | signInputPass1 (input : BtcSignInputRequest) (last : Bool) (result : Except Error Unit)
  | handlePrevtx (inputIndex : UInt32) (input : BtcSignInputRequest) (result : Except Error Unit)
  | signOutput (output : BtcSignOutputRequest) (last : Bool) (result : Except Error Unit)
  | signInputPass2 (input : BtcSignInputRequest) (last : Bool)
      (result : Except Error (Bytes × Bytes))
  | signAntiklepto (request : AntiKleptoSignatureRequest) (result : Except Error Bytes)
  | signReset
  | progressSet (progress : Progress)
  | status (title : String) (success : Bool)
  deriving DecidableEq

/-- The reply a log entry received, when it is a round trip. -/
def Event.reply? : Event → Option (Except Error Request)
  | .exchange _ reply => some reply
  | _ => none

/-- The host's replies in a log, in order. -/
def replies (log : List Event) : List (Except Error Request) := log.filterMap Event.reply?

@[simp] theorem replies_nil : replies [] = [] := rfl

@[simp] theorem replies_append (log log' : List Event) :
    replies (log ++ log') = replies log ++ replies log' := List.filterMap_append _ _ _

@[simp] theorem replies_cons (event : Event) (log : List Event) :
    replies (event :: log) = event.reply?.toList ++ replies log := by
  cases h : event.reply? <;> simp [replies, List.filterMap_cons, h]

/-- The collaborators of the session. Each answers a call given the log of everything before it.
The native calls receive the protobuf encoding of their record; the model passes the record. -/
structure Env where
  /-- `crate::hww::next_request`: the host's reply to a response, or a transport error. -/
  nextRequest : List Event → Response → Except Error Request
  /-- `bitbox02::keystore::is_locked`. -/
  isLocked : List Event → Bool
  /-- `bitbox02::app_btc::sign_init_wrapper`. -/
  signInit : List Event → BtcSignInitRequest → Except Error Unit
  /-- `bitbox02::app_btc::sign_input_pass1_wrapper`. -/
  signInputPass1 : List Event → BtcSignInputRequest → Bool → Except Error Unit
  /-- `bitbox02::app_btc::sign_output_wrapper`, which also asks the user to confirm. -/
  signOutput : List Event → BtcSignOutputRequest → Bool → Except Error Unit
  /-- `bitbox02::app_btc::sign_input_pass2_wrapper`: a signature and a signer commitment. -/
  signInputPass2 : List Event → BtcSignInputRequest → Bool → Except Error (Bytes × Bytes)
  /-- `bitbox02::app_btc::sign_antiklepto_wrapper`. -/
  signAntiklepto : List Event → AntiKleptoSignatureRequest → Except Error Bytes
  /-- SHA-256 (`sha2::Sha256`), as a function of the bytes hashed. -/
  sha256 : Bytes → Bytes

/-- The state a session threads: the log, and the `NextResponse` kept across round trips. -/
structure Device where
  log : List Event
  nextResponse : NextResponse

/-- A step of the session: run against the collaborators, it returns or fails, and leaves a new
state either way. -/
structure Session (α : Type) where
  run : Env → Device → Except Error α × Device

namespace Session

instance : Monad Session where
  pure a := ⟨fun _ d ↦ (.ok a, d)⟩
  bind x f := ⟨fun env d ↦
    match x.run env d with
    | (.ok a, d') => (f a).run env d'
    | (.error e, d') => (.error e, d')⟩

instance : MonadExceptOf Error Session where
  throw e := ⟨fun _ d ↦ (.error e, d)⟩
  tryCatch x handler := ⟨fun env d ↦
    match x.run env d with
    | (.ok a, d') => (.ok a, d')
    | (.error e, d') => (handler e).run env d'⟩

variable {α β : Type} (env : Env) (d : Device)

@[simp] theorem run_pure (a : α) : (pure a : Session α).run env d = (.ok a, d) := rfl

@[simp] theorem run_bind (x : Session α) (f : α → Session β) :
    (x >>= f).run env d =
      match x.run env d with
      | (.ok a, d') => (f a).run env d'
      | (.error e, d') => (.error e, d') := rfl

@[simp] theorem run_throw (e : Error) : (throw e : Session α).run env d = (.error e, d) := rfl

end Session

open Session

variable {α σ : Type}

/-- Appends an effect with no answer to the log. -/
def emit (event : Event) : Session Unit :=
  ⟨fun _ d ↦ (.ok (), { d with log := d.log ++ [event] })⟩

/-- A call to a collaborator: `answer` gives its result from the log so far, and the call is
logged with that result by `event`. -/
def call (answer : Env → List Event → Except Error α) (event : Except Error α → Event) :
    Session α :=
  ⟨fun env d ↦ (answer env d.log, { d with log := d.log ++ [event (answer env d.log)] })⟩

/-- Runs `x` and returns its outcome, a failure included, as a value. -/
def attempt (x : Session α) : Session (Except Error α) :=
  ⟨fun env d ↦ (.ok (x.run env d).1, (x.run env d).2)⟩

/-- Returns a `Result`, failing on its error: the `?` operator. -/
def liftExcept (result : Except Error α) : Session α :=
  ⟨fun _ d ↦ (result, d)⟩

/-- SHA-256 of `bytes`. -/
def digest (bytes : Bytes) : Session Bytes :=
  ⟨fun env d ↦ (.ok (env.sha256 bytes), d)⟩

/-- Reads the `NextResponse`. -/
def getNext : Session NextResponse :=
  ⟨fun _ d ↦ (.ok d.nextResponse, d)⟩

/-- Updates the `NextResponse`. -/
def modifyNext (f : NextResponse → NextResponse) : Session Unit :=
  ⟨fun _ d ↦ (.ok (), { d with nextResponse := f d.nextResponse })⟩

/-- `for i in start..start + count` with a loop-carried value: the body runs for each `i` in
order on what the previous iteration returned, and the loop stops at the first failure. -/
def foldRange (body : UInt32 → σ → Session σ) : (start count : Nat) → σ → Session σ
  | _, 0, s => pure s
  | start, count + 1, s => do foldRange body (start + 1) count (← body (UInt32.ofNat start) s)

/-- `for i in 0..n { body(i) }` over a `u32` bound. -/
def forRange (n : UInt32) (body : UInt32 → Session Unit) : Session Unit :=
  foldRange (fun i _ ↦ body i) 0 n.toNat ()

section Run

variable (env : Env) (d : Device)

@[simp] theorem run_emit (event : Event) :
    (emit event).run env d = (.ok (), { d with log := d.log ++ [event] }) := rfl

@[simp] theorem run_call (answer : Env → List Event → Except Error α)
    (event : Except Error α → Event) :
    (call answer event).run env d =
      (answer env d.log, { d with log := d.log ++ [event (answer env d.log)] }) := rfl

@[simp] theorem run_attempt (x : Session α) :
    (attempt x).run env d = (.ok (x.run env d).1, (x.run env d).2) := rfl

@[simp] theorem run_liftExcept (result : Except Error α) :
    (liftExcept result).run env d = (result, d) := rfl

@[simp] theorem run_digest (bytes : Bytes) :
    (digest bytes).run env d = (.ok (env.sha256 bytes), d) := rfl

@[simp] theorem run_getNext : getNext.run env d = (.ok d.nextResponse, d) := rfl

@[simp] theorem run_modifyNext (f : NextResponse → NextResponse) :
    (modifyNext f).run env d = (.ok (), { d with nextResponse := f d.nextResponse }) := rfl

@[simp] theorem foldRange_zero (body : UInt32 → σ → Session σ) (start : Nat) (s : σ) :
    foldRange body start 0 s = pure s := rfl

theorem foldRange_succ (body : UInt32 → σ → Session σ) (start count : Nat) (s : σ) :
    foldRange body start (count + 1) s =
      body (UInt32.ofNat start) s >>= foldRange body (start + 1) count := rfl

/-- A loop with at least one iteration runs its first one, then the rest. -/
theorem foldRange_of_pos (body : UInt32 → σ → Session σ) (start : Nat) {count : Nat}
    (hcount : 0 < count) (s : σ) :
    foldRange body start count s =
      body (UInt32.ofNat start) s >>= foldRange body (start + 1) (count - 1) := by
  obtain ⟨count, rfl⟩ := Nat.exists_eq_succ_of_ne_zero hcount.ne'
  rfl

end Run

/-! ### The collaborators' calls -/

/-- `crate::hww::next_request`: sends `response` and returns the host's next request. -/
def nextRequest (response : Response) : Session Request :=
  call (fun env log ↦ env.nextRequest log response) (.exchange response)

/-- `bitbox02::keystore::is_locked`. -/
def isLocked : Session Bool :=
  ⟨fun env d ↦ (.ok (env.isLocked d.log), { d with log := d.log ++ [.isLocked (env.isLocked d.log)] })⟩

/-- `bitbox02::app_btc::sign_init_wrapper`. -/
def signInitWrapper (request : BtcSignInitRequest) : Session Unit :=
  call (fun env log ↦ env.signInit log request) (.signInit request)

/-- `bitbox02::app_btc::sign_input_pass1_wrapper`. -/
def signInputPass1Wrapper (input : BtcSignInputRequest) (last : Bool) : Session Unit :=
  call (fun env log ↦ env.signInputPass1 log input last) (.signInputPass1 input last)

/-- `bitbox02::app_btc::sign_output_wrapper`. -/
def signOutputWrapper (output : BtcSignOutputRequest) (last : Bool) : Session Unit :=
  call (fun env log ↦ env.signOutput log output last) (.signOutput output last)

/-- `bitbox02::app_btc::sign_input_pass2_wrapper`. -/
def signInputPass2Wrapper (input : BtcSignInputRequest) (last : Bool) :
    Session (Bytes × Bytes) :=
  call (fun env log ↦ env.signInputPass2 log input last) (.signInputPass2 input last)

/-- `bitbox02::app_btc::sign_antiklepto_wrapper`. -/
def signAntikleptoWrapper (request : AntiKleptoSignatureRequest) : Session Bytes :=
  call (fun env log ↦ env.signAntiklepto log request) (.signAntiklepto request)

/-- `bitbox02::app_btc::sign_reset`. -/
def signReset : Session Unit := emit .signReset

/-- `bitbox02::ui::progress_set` on the current progress component. -/
def progressSet (progress : Progress) : Session Unit := emit (.progressSet progress)

/-- `crate::workflow::status::status`: a status screen with a title and a success flag. -/
def status (title : String) (success : Bool) : Session Unit := emit (.status title success)

@[simp] theorem run_isLocked (env : Env) (d : Device) :
    isLocked.run env d =
      (.ok (env.isLocked d.log), { d with log := d.log ++ [.isLocked (env.isLocked d.log)] }) :=
  rfl

end BtcSignTx
