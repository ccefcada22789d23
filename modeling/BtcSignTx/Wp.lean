import BtcSignTx.Session

/-!
# Weakest preconditions of session steps

`x.wp env post fail d` holds when `x`, run from `d` against `env`, ends in a state satisfying
`post` if it returns and `fail` if it fails. Every statement about a whole run in this development
is a `wp`, proved backwards through the code: `wp_bind` splits a `do` block, the primitives'
lemmas (`wp_emit`, `wp_call`, ...) say what one step does, and `wp_foldRange` is the loop rule,
from an invariant indexed by the number of iterations done.
-/

set_option autoImplicit false
set_option relaxedAutoImplicit false

namespace BtcSignTx

namespace Session

/-- `x`, run from `d`, ends in `post` when it returns and in `fail` when it fails. -/
def wp {α : Type} (x : Session α) (env : Env) (post : α → Device → Prop)
    (fail : Error → Device → Prop) (d : Device) : Prop :=
  match x.run env d with
  | (.ok a, d') => post a d'
  | (.error e, d') => fail e d'

variable {α β σ : Type} {env : Env} {post : α → Device → Prop} {fail : Error → Device → Prop}
  {d : Device}

theorem wp_pure (a : α) : (pure a : Session α).wp env post fail d ↔ post a d := Iff.rfl

theorem wp_bind (x : Session β) (f : β → Session α) :
    (x >>= f).wp env post fail d ↔ x.wp env (fun b d' ↦ (f b).wp env post fail d') fail d := by
  unfold wp
  rw [run_bind]
  rcases x.run env d with ⟨_ | _, _⟩ <;> rfl

theorem wp_throw (e : Error) : (throw e : Session α).wp env post fail d ↔ fail e d := Iff.rfl

theorem wp_ite (c : Prop) [Decidable c] (x y : Session α) :
    (if c then x else y).wp env post fail d ↔ if c then x.wp env post fail d else y.wp env post fail d := by
  split <;> rfl

theorem wp_mono {x : Session α} {post' : α → Device → Prop} {fail' : Error → Device → Prop}
    (hpost : ∀ a d, post a d → post' a d) (hfail : ∀ e d, fail e d → fail' e d)
    (h : x.wp env post fail d) : x.wp env post' fail' d := by
  revert h
  unfold wp
  split
  · exact hpost _ _
  · exact hfail _ _

/-- Two facts about the same run hold together. -/
theorem wp_and {post' : α → Device → Prop} {fail' : Error → Device → Prop} {x : Session α}
    (h : x.wp env post fail d) (h' : x.wp env post' fail' d) :
    x.wp env (fun a d' ↦ post a d' ∧ post' a d') (fun e d' ↦ fail e d' ∧ fail' e d') d := by
  revert h h'
  unfold wp
  split
  · exact And.intro
  · exact And.intro

end Session

open Session

variable {α σ : Type} {env : Env} {post : α → Device → Prop} {fail : Error → Device → Prop}
  {d : Device}

theorem wp_emit (event : Event) {post : Unit → Device → Prop} :
    (emit event).wp env post fail d ↔ post () { d with log := d.log ++ [event] } := Iff.rfl

theorem wp_call (answer : Env → List Event → Except Error α) (event : Except Error α → Event) :
    (call answer event).wp env post fail d ↔
      match answer env d.log with
      | .ok a => post a { d with log := d.log ++ [event (.ok a)] }
      | .error e => fail e { d with log := d.log ++ [event (.error e)] } := by
  unfold wp; rw [run_call]; cases answer env d.log <;> rfl

theorem wp_attempt (x : Session α) {post : Except Error α → Device → Prop} :
    (attempt x).wp env post fail d ↔ x.wp env (fun a ↦ post (.ok a)) (fun e ↦ post (.error e)) d := by
  unfold wp; rw [run_attempt]; rcases x.run env d with ⟨_ | _, _⟩ <;> rfl

theorem wp_liftExcept (result : Except Error α) :
    (liftExcept result).wp env post fail d ↔
      match result with
      | .ok a => post a d
      | .error e => fail e d := by
  cases result <;> rfl

theorem wp_digest (bytes : Bytes) {post : Bytes → Device → Prop} :
    (digest bytes).wp env post fail d ↔ post (env.sha256 bytes) d := Iff.rfl

theorem wp_getNext {post : NextResponse → Device → Prop} :
    getNext.wp env post fail d ↔ post d.nextResponse d := Iff.rfl

theorem wp_isLocked {post : Bool → Device → Prop} :
    isLocked.wp env post fail d ↔
      post (env.isLocked d.log) { d with log := d.log ++ [.isLocked (env.isLocked d.log)] } :=
  Iff.rfl

theorem wp_modifyNext (f : NextResponse → NextResponse) {post : Unit → Device → Prop} :
    (modifyNext f).wp env post fail d ↔ post () { d with nextResponse := f d.nextResponse } :=
  Iff.rfl

/-- The loop rule: an invariant indexed by the iterations done, which each iteration carries one
step further, holds after the loop, or the loop fails in `fail`. -/
theorem wp_foldRange (body : UInt32 → σ → Session σ) (inv : Nat → σ → Device → Prop) :
    ∀ (start count : Nat),
      (∀ k s d, k < count → inv k s d →
        (body (UInt32.ofNat (start + k)) s).wp env (inv (k + 1)) fail d) →
      ∀ s d, inv 0 s d → (foldRange body start count s).wp env (inv count) fail d := by
  intro start count
  induction count generalizing start inv with
  | zero => intro _ s d hinv; exact hinv
  | succ count ih =>
    intro hbody s d hinv
    rw [foldRange_succ, wp_bind]
    refine wp_mono (fun s' d' h ↦ ?_) (fun _ _ h ↦ h) (hbody 0 s d (Nat.succ_pos _) hinv)
    refine ih (fun k ↦ inv (k + 1)) (start + 1) (fun k s d hk h ↦ ?_) s' d' h
    rw [Nat.add_right_comm, Nat.add_assoc]
    exact hbody (k + 1) s d (by omega) h

/-! ### Splitting a log -/

/-- A split at some entry of a log with one more entry is the split at the new entry, or a split of
the log before it. -/
theorem split_append_singleton {log pre post : List Event} {last entry : Event}
    (h : log ++ [last] = pre ++ entry :: post) :
    pre = log ∧ entry = last ∨ ∃ post', log = pre ++ entry :: post' := by
  rcases List.eq_nil_or_concat post with rfl | ⟨post, _, rfl⟩
  · obtain ⟨rfl, hlast⟩ := List.append_inj' h rfl
    exact .inl ⟨rfl, (List.singleton_inj.mp hlast).symm⟩
  · rw [List.concat_eq_append, ← List.cons_append, ← List.append_assoc] at h
    exact .inr ⟨post, (List.append_inj' h rfl).1⟩

end BtcSignTx
