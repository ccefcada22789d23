import BtcSignTx.Protocol

/-!
# Failures in a session log

Every fallible step of `signtx.rs` is followed by `?`, and `process` only adds `sign_reset` and the
cancel screen. Two facts of a log say what this gives; the walk of `SessionProtocol` proves them of
every session, and `SessionResults` states them.

* A session stops at its first failure. `Event.failure?` reads from a log entry alone whether the
  step that logged it failed. A log is `Clean` when no step failed, and `StoppedAt e` when its first
  failure raised `e` and only what wraps up (`Event.WrapsUp`) came after it: the record of the
  `handle_prevtx` call it happened in, `sign_reset`, and the cancel screen.
* Every error is `Explained`: it is `InvalidState` or `InvalidInput`, which the code raises itself,
  or an error the log shows a collaborator returning (`Event.error?`).
-/

set_option autoImplicit false
set_option relaxedAutoImplicit false

namespace BtcSignTx

/-! ### The first failure -/

/-- The error a step raised at this log entry, if it failed there: a failed round trip, a reply of
a variant its hint did not ask for, a locked keystore, a failed native call, or a failed
`handle_prevtx`. -/
def Event.failure? : Event → Option Error
  | .exchange _ (.error e) => some e
  | .exchange response (.ok request) =>
    if response.next.type.demands request then none else some .invalidState
  | .isLocked locked => if locked then some .invalidState else none
  | .signInit _ (.error e) => some e
  | .signInputPass1 _ _ (.error e) => some e
  | .handlePrevtx _ _ (.error e) => some e
  | .signOutput _ _ (.error e) => some e
  | .signInputPass2 _ _ (.error e) => some e
  | .signAntiklepto _ (.error e) => some e
  | _ => none

/-- What may follow the failure that stopped a session with `e`: the record of the `handle_prevtx`
call it happened in, `sign_reset`, and the cancel screen. -/
def Event.WrapsUp (e : Error) : Event → Prop
  | .handlePrevtx _ _ (.error e') => e' = e
  | .signReset => True
  | .status title success => title = "Transaction\ncanceled" ∧ success = false
  | _ => False

/-- No step failed in `log`. -/
def Clean (log : List Event) : Prop := ∀ event ∈ log, event.failure? = none

/-- `log` stopped at its first failure, which raised `e`, and holds after it only what wraps up. -/
def StoppedAt (e : Error) (log : List Event) : Prop :=
  ∃ pre event post, log = pre ++ event :: post ∧ Clean pre ∧ event.failure? = some e ∧
    ∀ event' ∈ post, event'.WrapsUp e

theorem clean_nil : Clean [] := fun _ h ↦ nomatch h

theorem Clean.append {log : List Event} (h : Clean log) {event : Event}
    (hevent : event.failure? = none) : Clean (log ++ [event]) := by
  intro event' hmem
  rcases List.mem_append.mp hmem with hmem | hmem
  · exact h event' hmem
  · rwa [List.mem_singleton.mp hmem]

/-- A failure logged after a clean log is the first one. -/
theorem Clean.stoppedAt {log : List Event} (h : Clean log) {event : Event} {e : Error}
    (hevent : event.failure? = some e) : StoppedAt e (log ++ [event]) :=
  ⟨log, event, [], rfl, h, hevent, fun _ h ↦ nomatch h⟩

theorem StoppedAt.append {e : Error} {log : List Event} (h : StoppedAt e log) {event : Event}
    (hevent : event.WrapsUp e) : StoppedAt e (log ++ [event]) := by
  obtain ⟨pre, first, post, rfl, hpre, hfirst, hpost⟩ := h
  refine ⟨pre, first, post ++ [event], by simp, hpre, hfirst, fun event' hmem ↦ ?_⟩
  rcases List.mem_append.mp hmem with hmem | hmem
  · exact hpost event' hmem
  · rwa [List.mem_singleton.mp hmem]

/-- The last entry of a stopped log is its first failure or wraps up: it is no round trip the host
answered with a variant its hint asked for. -/
theorem StoppedAt.getLast {e : Error} {log : List Event} (h : StoppedAt e log) :
    ∃ event, log.getLast? = some event ∧ (event.failure? = some e ∨ event.WrapsUp e) := by
  obtain ⟨pre, first, post, rfl, -, hfirst, hpost⟩ := h
  rcases List.eq_nil_or_concat post with rfl | ⟨post, last, rfl⟩
  · exact ⟨first, by simp, .inl hfirst⟩
  · refine ⟨last, ?_, .inr (hpost last (by simp))⟩
    rw [List.concat_eq_append, ← List.cons_append, ← List.append_assoc, List.getLast?_concat]

/-! ### Where errors come from -/

/-- The error a collaborator returned in a log entry: a failed round trip or a failed native
call. -/
def Event.error? : Event → Option Error
  | .exchange _ (.error e) => some e
  | .signInit _ (.error e) => some e
  | .signInputPass1 _ _ (.error e) => some e
  | .signOutput _ _ (.error e) => some e
  | .signInputPass2 _ _ (.error e) => some e
  | .signAntiklepto _ (.error e) => some e
  | _ => none

/-- `e` is an error the code raises itself, or one a collaborator returned in `log`. -/
def Explained (e : Error) (log : List Event) : Prop :=
  e = .invalidState ∨ e = .invalidInput ∨ ∃ event ∈ log, event.error? = some e

theorem Explained.append {e : Error} {log : List Event} (h : Explained e log) (seg : List Event) :
    Explained e (log ++ seg) := by
  rcases h with h | h | ⟨event, hmem, hevent⟩
  · exact .inl h
  · exact .inr (.inl h)
  · exact .inr (.inr ⟨event, List.mem_append_left _ hmem, hevent⟩)

/-- An error a collaborator returned in the entry just logged. -/
theorem explained_of_error {e : Error} (log : List Event) {event : Event}
    (hevent : event.error? = some e) : Explained e (log ++ [event]) :=
  .inr (.inr ⟨event, List.mem_append_right _ (List.mem_singleton_self _), hevent⟩)

end BtcSignTx
