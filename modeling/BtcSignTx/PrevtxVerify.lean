import BtcSignTx.HandlePrevtx
import BtcSignTx.PrevTx

/-!
# What `handle_prevtx` verifies

`handle_prevtx` is the device's only check of an input's amount: it streams the previous
transaction, hashes it, and compares the double hash with `input.prev_out_hash`. This module relates
the code's loops to the abstract `PrevTx` of the records the host streamed.

* `hashPrevtx_sound`: whatever the host does, when the loops return, the host has streamed a
  `PrevTx` and the hasher holds exactly its serialization `PrevTx.serialize`. The loop invariants are
  `InputsHashed` and `OutputsHashed`.
* `hashPrevtx_complete`: against a host that streams a given `tx` (`StreamsPrevTx`), the loops do not
  fail and feed `tx.serialize`. The invariants are `InputsStreamed` and `OutputsStreamed`.
* `handlePrevtx_sound`, `handlePrevtx_complete`: the same for the whole function, with the double
  hash; `handlePrevtx_hashes_serialization` puts the three directions together.

Two facts show where the check is weaker than it looks: `handlePrevtx_accepts_missing_output` (an
index past the last output is never compared) and `hashPrevtx_same_bytes_of_different_streams` (the
hashed bytes do not determine the stream, since `prev_out_hash` is hashed without its length).
-/

set_option autoImplicit false
set_option relaxedAutoImplicit false

namespace BtcSignTx

open Session

variable {env : Env}

theorem getElem?_concat_eq_some {α : Type} {l : List α} {y y' : α} {i : Nat}
    (h : (l ++ [y])[i]? = some y') : l[i]? = some y' ∨ (i = l.length ∧ y = y') := by
  rcases Nat.lt_or_ge i l.length with hi | hi
  · exact .inl (by rwa [List.getElem?_append_left hi] at h)
  · rw [List.getElem?_append_right hi] at h
    refine .inr ?_
    cases hk : i - l.length with
    | zero => simp_all; omega
    | succ k => simp_all

/-- The spec's serialization is the code's record bytes, record after record. -/
theorem PrevTx.serialize_eq (tx : PrevTx) :
    tx.serialize = toLeBytes32 tx.version ++ serializeVarint tx.inputs.length ++
      (tx.inputs.map prevtxInputBytes).flatten ++ serializeVarint tx.outputs.length ++
      (tx.outputs.map prevtxOutputBytes).flatten ++ toLeBytes32 tx.locktime := rfl

theorem map_take_succ {α β : Type} (f : α → β) {l : List α} {k : Nat} (hk : k < l.length) :
    (l.take (k + 1)).map f = (l.take k).map f ++ [f l[k]] := by
  rw [← List.take_concat_get _ _ hk, List.concat_eq_append, List.map_append, List.map_singleton]

section Sound

variable (inputIndex numInputs : UInt32) (input : BtcSignInputRequest)
  (init : BtcPrevTxInitRequest) (base : List Event)

/-- After `k` iterations of the loop over the inputs, the host has sent `k` inputs and the hasher
holds the header and their bytes. -/
def InputsHashed (k : Nat) (hasher : Bytes) (d : Device) : Prop :=
  ∃ xs : List BtcPrevTxInputRequest, xs.length = k ∧ ∃ seg, d.log = base ++ seg ∧
    replies seg = xs.map (fun x ↦ .ok (.btc (.prevtxInput x))) ∧
    hasher = toLeBytes32 init.version ++ serializeVarint init.numInputs.toNat ++
      (xs.map prevtxInputBytes).flatten

theorem hashPrevtxInput_hashed (k : Nat) (hasher : Bytes) (d : Device)
    (h : InputsHashed init base k hasher d) :
    (hashPrevtxInput inputIndex numInputs init (UInt32.ofNat (0 + k)) hasher).wp env
      (InputsHashed init base (k + 1)) (fun _ _ ↦ True) d := by
  obtain ⟨xs, hlen, seg, hlog, hrep, hhash⟩ := h
  simp only [hashPrevtxInput, progressSet, getPrevtxInput, wp_bind, wp_emit, wp_getTyped]
  split
  · split
    · rename_i x hsel
      obtain rfl := prevtxInput?_eq_some.mp hsel
      exact ⟨xs ++ [x], by simp [hlen], seg ++ [.progressSet _, .exchange _ _],
        by rw [hlog]; simp only [List.append_assoc, List.singleton_append]; rfl,
        by simp [hrep, Event.reply?], by simp [hhash]⟩
    · trivial
  · trivial

/-- After `k` iterations of the loop over the outputs, the host has sent `k` outputs, the hasher
holds `pre` and their bytes, and an output among them at `input.prev_out_index` has the input's
value. -/
def OutputsHashed (pre : Bytes) (k : Nat) (hasher : Bytes) (d : Device) : Prop :=
  ∃ ys : List BtcPrevTxOutputRequest, ys.length = k ∧ ∃ seg, d.log = base ++ seg ∧
    replies seg = ys.map (fun y ↦ .ok (.btc (.prevtxOutput y))) ∧
    hasher = pre ++ (ys.map prevtxOutputBytes).flatten ∧
    ∀ y, ys[input.prevOutIndex.toNat]? = some y → y.value = input.prevOutValue

theorem hashPrevtxOutput_hashed (pre : Bytes) (k : Nat) (hasher : Bytes) (d : Device)
    (h : OutputsHashed input base pre k hasher d) :
    (hashPrevtxOutput inputIndex input numInputs init (UInt32.ofNat (0 + k)) hasher).wp env
      (OutputsHashed input base pre (k + 1)) (fun _ _ ↦ True) d := by
  obtain ⟨ys, hlen, seg, hlog, hrep, hhash, hvalue⟩ := h
  simp only [hashPrevtxOutput, progressSet, getPrevtxOutput, wp_bind, wp_emit, wp_getTyped,
    wp_ite, wp_throw, wp_pure]
  split
  · split
    · rename_i y hsel
      obtain rfl := prevtxOutput?_eq_some.mp hsel
      split
      · trivial
      · rename_i hcheck
        refine ⟨ys ++ [y], by simp [hlen], seg ++ [.progressSet _, .exchange _ _],
          by rw [hlog]; simp only [List.append_assoc, List.singleton_append]; rfl,
          by simp [hrep, Event.reply?], by simp [hhash], fun y' hy' ↦ ?_⟩
        rcases getElem?_concat_eq_some hy' with hy' | ⟨hidx, rfl⟩
        · exact hvalue y' hy'
        · have hindex : UInt32.ofNat k = input.prevOutIndex := by
            rw [← hlen, ← hidx, uint32_ofNat_toNat]
          simp [hindex] at hcheck
          exact hcheck.symm
    · trivial
  · trivial

/-- The loop over the inputs, run from `d₀`: the host has sent `init.num_inputs` inputs. -/
theorem hashPrevtxInputs_hashed (d₀ : Device) :
    (foldRange (hashPrevtxInput inputIndex numInputs init) 0 init.numInputs.toNat
      (toLeBytes32 init.version ++ serializeVarint init.numInputs.toNat)).wp env
      (InputsHashed init d₀.log init.numInputs.toNat) (fun _ _ ↦ True) d₀ :=
  wp_foldRange _ _ 0 _ (fun k s d _ h ↦ hashPrevtxInput_hashed inputIndex numInputs init _ k s d h)
    _ _ ⟨[], rfl, [], by simp, by simp, by simp⟩

/-- The loop over the outputs, run from `d₀`: the host has sent `init.num_outputs` outputs. -/
theorem hashPrevtxOutputs_hashed (pre : Bytes) (d₀ : Device) :
    (foldRange (hashPrevtxOutput inputIndex input numInputs init) 0 init.numOutputs.toNat pre).wp env
      (OutputsHashed input d₀.log pre init.numOutputs.toNat) (fun _ _ ↦ True) d₀ :=
  wp_foldRange _ _ 0 _
    (fun k s d _ h ↦ hashPrevtxOutput_hashed inputIndex numInputs input init _ pre k s d h)
    _ _ ⟨[], rfl, [], by simp, by simp, by simp, by simp⟩

end Sound

/-- What `hashPrevtx` feeds the hasher: when it returns, the host has streamed a previous
transaction `tx` with at least one input and one output, the hasher holds `tx.serialize`, and the
output at `input.prev_out_index`, if there is one, has the input's value. -/
theorem hashPrevtx_sound (inputIndex : UInt32) (input : BtcSignInputRequest) (numInputs : UInt32)
    (d : Device) :
    (hashPrevtx inputIndex input numInputs).wp env
      (fun hasher d' ↦ ∃ tx : PrevTx, ∃ seg, d'.log = d.log ++ seg ∧ replies seg = tx.replies ∧
        hasher = tx.serialize ∧ 1 ≤ tx.inputs.length ∧ 1 ≤ tx.outputs.length ∧
        ∀ y, tx.outputs[input.prevOutIndex.toNat]? = some y → y.value = input.prevOutValue)
      (fun _ _ ↦ True) d := by
  rw [hashPrevtx, wp_bind, wp_getPrevtxInit, wp_getTyped]
  dsimp only
  split
  · split
    · rename_i init hsel
      obtain rfl := prevtxInit?_eq_some.mp hsel
      simp only [wp_bind, wp_ite, wp_throw, wp_pure]
      split
      · trivial
      · rename_i hcounts
        refine wp_mono (fun hasher d₁ h ↦ ?_) (fun _ _ h ↦ h)
          (hashPrevtxInputs_hashed inputIndex numInputs init _)
        obtain ⟨xs, hxs, seg₁, hlog₁, hrep₁, rfl⟩ := h
        refine wp_mono (fun hasher d₂ h ↦ ?_) (fun _ _ h ↦ h)
          (hashPrevtxOutputs_hashed inputIndex numInputs input init _ d₁)
        obtain ⟨ys, hys, seg₂, hlog₂, hrep₂, rfl, hvalue⟩ := h
        simp only [Bool.or_eq_true, decide_eq_true_eq, uint32_lt_one_iff, not_or] at hcounts
        refine ⟨⟨init.version, xs, ys, init.locktime, hxs ▸ UInt32.toNat_lt_size _,
          hys ▸ UInt32.toNat_lt_size _⟩, _,
          by rw [hlog₂, hlog₁]; simp only [List.append_assoc]; rfl, ?_, ?_,
          by simp only [hxs]; omega, by simp only [hys]; omega, hvalue⟩
        · have hinit : PrevTx.init ⟨init.version, xs, ys, init.locktime, hxs ▸ UInt32.toNat_lt_size _,
              hys ▸ UInt32.toNat_lt_size _⟩ = init := by
            simp [PrevTx.init, hxs, hys, uint32_ofNat_toNat]
          simp [hrep₁, hrep₂, PrevTx.replies, hinit, Event.reply?]
        · simp [PrevTx.serialize_eq, hxs, hys]
    · trivial
  · trivial

/-! ### Completeness: a cooperative host -/

section Complete

variable (inputIndex numInputs : UInt32) (input : BtcSignInputRequest) (tx : PrevTx)
  (base : List Event)

/-- After `k` iterations of the loop over the inputs, the host has streamed the first `k` inputs
of `tx`. -/
def InputsStreamed (k : Nat) (hasher : Bytes) (d : Device) : Prop :=
  ∃ seg, d.log = base ++ seg ∧
    replies seg = (tx.inputs.take k).map (fun x ↦ .ok (.btc (.prevtxInput x))) ∧
    hasher = toLeBytes32 tx.version ++ serializeVarint tx.inputs.length ++
      ((tx.inputs.take k).map prevtxInputBytes).flatten

theorem hashPrevtxInput_streamed (hstream : StreamsPrevTx env inputIndex tx) (k : Nat)
    (hk : k < tx.inputs.length) (hasher : Bytes) (d : Device)
    (h : InputsStreamed tx base k hasher d) :
    (hashPrevtxInput inputIndex numInputs tx.init (UInt32.ofNat (0 + k)) hasher).wp env
      (InputsStreamed tx base (k + 1)) (fun _ _ ↦ False) d := by
  obtain ⟨seg, hlog, hrep, hhash⟩ := h
  have hget : tx.inputs[(UInt32.ofNat (0 + k)).toNat]? = some tx.inputs[k] := by
    rw [Nat.zero_add, UInt32.toNat_ofNat_of_lt (Nat.lt_trans hk tx.inputs_length_lt)]
    exact List.getElem?_eq_getElem hk
  simp only [hashPrevtxInput, progressSet, getPrevtxInput, wp_bind, wp_emit, wp_getTyped]
  rw [(hstream _ _ (by simp)).2.1 _ (by simp) (by simpa using hget)]
  refine ⟨seg ++ [.progressSet _, .exchange _ _],
    by rw [hlog]; simp only [List.append_assoc, List.singleton_append]; rfl, ?_, ?_⟩
  · rw [map_take_succ _ hk]; simp [hrep, Event.reply?]
  · rw [map_take_succ _ hk]; simp [hhash]

/-- After `k` iterations of the loop over the outputs, the host has streamed the first `k`
outputs of `tx` after `pre`. -/
def OutputsStreamed (pre : Bytes) (k : Nat) (hasher : Bytes) (d : Device) : Prop :=
  ∃ seg, d.log = base ++ seg ∧
    replies seg = (tx.outputs.take k).map (fun y ↦ .ok (.btc (.prevtxOutput y))) ∧
    hasher = pre ++ ((tx.outputs.take k).map prevtxOutputBytes).flatten

theorem hashPrevtxOutput_streamed (hstream : StreamsPrevTx env inputIndex tx)
    (hvalue : ∀ y, tx.outputs[input.prevOutIndex.toNat]? = some y → y.value = input.prevOutValue)
    (pre : Bytes) (k : Nat) (hk : k < tx.outputs.length) (hasher : Bytes) (d : Device)
    (h : OutputsStreamed tx base pre k hasher d) :
    (hashPrevtxOutput inputIndex input numInputs tx.init (UInt32.ofNat (0 + k)) hasher).wp env
      (OutputsStreamed tx base pre (k + 1)) (fun _ _ ↦ False) d := by
  obtain ⟨seg, hlog, hrep, hhash⟩ := h
  have hk' : (UInt32.ofNat (0 + k)).toNat = k := by
    rw [Nat.zero_add, UInt32.toNat_ofNat_of_lt (Nat.lt_trans hk tx.outputs_length_lt)]
  have hget : tx.outputs[(UInt32.ofNat (0 + k)).toNat]? = some tx.outputs[k] := by
    rw [hk']; exact List.getElem?_eq_getElem hk
  simp only [hashPrevtxOutput, progressSet, getPrevtxOutput, wp_bind, wp_emit, wp_getTyped]
  rw [(hstream _ _ (by simp)).2.2 _ (by simp) (by simpa using hget)]
  have hcheck : ¬(UInt32.ofNat (0 + k) == input.prevOutIndex &&
      input.prevOutValue != tx.outputs[k].value) = true := by
    simp only [Bool.and_eq_true, beq_iff_eq, bne_iff_ne, ne_eq, not_and, Decidable.not_not]
    intro hindex
    rw [← hindex, hk'] at hvalue
    exact (hvalue _ (List.getElem?_eq_getElem hk)).symm
  simp only [Request.prevtxOutput?, wp_ite, hcheck, if_false, wp_pure]
  refine ⟨seg ++ [.progressSet _, .exchange _ _],
    by rw [hlog]; simp only [List.append_assoc, List.singleton_append]; rfl, ?_, ?_⟩
  · rw [map_take_succ _ hk]; simp [hrep, Event.reply?]
  · rw [map_take_succ _ hk]; simp [hhash]

/-- The loop over the inputs, run from `d₀` against a host streaming `tx`: it streams them all. -/
theorem hashPrevtxInputs_streamed (hstream : StreamsPrevTx env inputIndex tx) (d₀ : Device) :
    (foldRange (hashPrevtxInput inputIndex numInputs tx.init) 0 tx.init.numInputs.toNat
      (toLeBytes32 tx.init.version ++ serializeVarint tx.init.numInputs.toNat)).wp env
      (InputsStreamed tx d₀.log tx.init.numInputs.toNat) (fun _ _ ↦ False) d₀ :=
  wp_foldRange _ _ 0 _ (fun k s d hk h ↦ hashPrevtxInput_streamed inputIndex numInputs tx _
    hstream k (by simpa using hk) s d h) _ _ ⟨[], by simp, by simp, by simp⟩

/-- The loop over the outputs, run from `d₀` against a host streaming `tx`: it streams them all,
and the value check passes. -/
theorem hashPrevtxOutputs_streamed (hstream : StreamsPrevTx env inputIndex tx)
    (hvalue : ∀ y, tx.outputs[input.prevOutIndex.toNat]? = some y → y.value = input.prevOutValue)
    (pre : Bytes) (d₀ : Device) :
    (foldRange (hashPrevtxOutput inputIndex input numInputs tx.init) 0 tx.init.numOutputs.toNat
      pre).wp env (OutputsStreamed tx d₀.log pre tx.init.numOutputs.toNat) (fun _ _ ↦ False) d₀ :=
  wp_foldRange _ _ 0 _ (fun k s d hk h ↦ hashPrevtxOutput_streamed inputIndex numInputs input tx _
    hstream hvalue pre k (by simpa using hk) s d h) _ _ ⟨[], by simp, by simp, by simp⟩

/-- Against a host streaming `tx`, with at least one input and one output and the input's value at
`input.prev_out_index`, `hashPrevtx` does not fail: it streams `tx` and feeds `tx.serialize`. -/
theorem hashPrevtx_complete (hstream : StreamsPrevTx env inputIndex tx)
    (hinputs : 1 ≤ tx.inputs.length) (houtputs : 1 ≤ tx.outputs.length)
    (hvalue : ∀ y, tx.outputs[input.prevOutIndex.toNat]? = some y → y.value = input.prevOutValue)
    (d : Device) :
    (hashPrevtx inputIndex input numInputs).wp env
      (fun hasher d' ↦ ∃ seg, d'.log = d.log ++ seg ∧ replies seg = tx.replies ∧
        hasher = tx.serialize) (fun _ _ ↦ False) d := by
  rw [hashPrevtx, wp_bind, wp_getPrevtxInit, wp_getTyped]
  dsimp only
  rw [(hstream _ _ (by simp)).1 (by simp)]
  have hcounts : ¬(decide (tx.init.numInputs < 1) || decide (tx.init.numOutputs < 1)) = true := by
    simp only [Bool.or_eq_true, decide_eq_true_eq, uint32_lt_one_iff, PrevTx.toNat_init_numInputs,
      PrevTx.toNat_init_numOutputs]
    omega
  simp only [Request.prevtxInit?, wp_bind, wp_ite, hcounts, if_false, wp_pure]
  refine wp_mono (fun hasher d₁ h ↦ ?_) (fun _ _ h ↦ h)
    (hashPrevtxInputs_streamed inputIndex numInputs tx hstream _)
  obtain ⟨seg₁, hlog₁, hrep₁, rfl⟩ := h
  refine wp_mono (fun hasher d₂ h ↦ ?_) (fun _ _ h ↦ h)
    (hashPrevtxOutputs_streamed inputIndex numInputs input tx hstream hvalue _ d₁)
  obtain ⟨seg₂, hlog₂, hrep₂, rfl⟩ := h
  refine ⟨_, by rw [hlog₂, hlog₁]; simp only [List.append_assoc]; rfl, ?_, ?_⟩
  · simp [hrep₁, hrep₂, PrevTx.replies, Event.reply?]
  · simp [PrevTx.serialize_eq]

end Complete

/-! ### `handle_prevtx` -/

section HandlePrevtx

variable (inputIndex numInputs : UInt32) (input : BtcSignInputRequest)

/-- When `handle_prevtx` returns, the host has streamed a previous transaction with at least one
input and one output, whose output at `input.prev_out_index`, if any, has the input's value, and
whose serialization double-hashes to `input.prev_out_hash`. -/
theorem handlePrevtx_sound (d : Device) :
    (handlePrevtx inputIndex input numInputs).wp env
      (fun _ d' ↦ ∃ tx : PrevTx, ∃ seg, d'.log = d.log ++ seg ∧ replies seg = tx.replies ∧
        1 ≤ tx.inputs.length ∧ 1 ≤ tx.outputs.length ∧
        (∀ y, tx.outputs[input.prevOutIndex.toNat]? = some y → y.value = input.prevOutValue) ∧
        env.sha256 (env.sha256 tx.serialize) = input.prevOutHash)
      (fun _ _ ↦ True) d := by
  rw [handlePrevtx, wp_bind]
  refine wp_mono (fun hasher d' h ↦ ?_) (fun _ _ h ↦ h) (hashPrevtx_sound inputIndex input numInputs d)
  obtain ⟨tx, seg, hlog, hrep, rfl, hinputs, houtputs, hvalue⟩ := h
  simp only [wp_bind, wp_digest, wp_ite, wp_throw, wp_pure]
  split
  · trivial
  · rename_i hhash
    exact ⟨tx, seg, hlog, hrep, hinputs, houtputs, hvalue, by simpa using hhash⟩

variable (tx : PrevTx)

/-- Against a host streaming `tx`, a transaction with at least one input and one output, with the
input's value at `input.prev_out_index` and whose serialization double-hashes to
`input.prev_out_hash`, `handle_prevtx` returns, after streaming exactly `tx`. -/
theorem handlePrevtx_complete (hstream : StreamsPrevTx env inputIndex tx)
    (hinputs : 1 ≤ tx.inputs.length) (houtputs : 1 ≤ tx.outputs.length)
    (hvalue : ∀ y, tx.outputs[input.prevOutIndex.toNat]? = some y → y.value = input.prevOutValue)
    (hhash : env.sha256 (env.sha256 tx.serialize) = input.prevOutHash) (d : Device) :
    (handlePrevtx inputIndex input numInputs).wp env
      (fun _ d' ↦ ∃ seg, d'.log = d.log ++ seg ∧ replies seg = tx.replies) (fun _ _ ↦ False) d := by
  rw [handlePrevtx, wp_bind]
  refine wp_mono (fun hasher d' h ↦ ?_) (fun _ _ h ↦ h)
    (hashPrevtx_complete inputIndex numInputs input tx hstream hinputs houtputs hvalue d)
  obtain ⟨seg, hlog, hrep, rfl⟩ := h
  simp only [wp_bind, wp_digest, wp_ite, wp_throw, wp_pure, hhash, bne_self_eq_false, if_false]
  exact ⟨seg, hlog, hrep⟩

/-- What `handle_prevtx` hashes and when it returns: the hasher receives the serialization of the
records the host streamed; `handle_prevtx` returns only when the streamed transaction has an input
and an output and double-hashes to `input.prev_out_hash`; and against a host streaming such a
transaction, with the input's value at `input.prev_out_index`, it returns after
`1 + num_inputs + num_outputs` round trips. -/
theorem handlePrevtx_hashes_serialization (d : Device) :
    (hashPrevtx inputIndex input numInputs).wp env
      (fun hasher d' ↦ ∃ tx : PrevTx, ∃ seg, d'.log = d.log ++ seg ∧ replies seg = tx.replies ∧
        hasher = tx.serialize) (fun _ _ ↦ True) d ∧
    (handlePrevtx inputIndex input numInputs).wp env
      (fun _ d' ↦ ∃ tx : PrevTx, ∃ seg, d'.log = d.log ++ seg ∧ replies seg = tx.replies ∧
        1 ≤ tx.inputs.length ∧ 1 ≤ tx.outputs.length ∧
        env.sha256 (env.sha256 tx.serialize) = input.prevOutHash) (fun _ _ ↦ True) d ∧
    ∀ tx : PrevTx, StreamsPrevTx env inputIndex tx → 1 ≤ tx.inputs.length →
      1 ≤ tx.outputs.length →
      (∀ y, tx.outputs[input.prevOutIndex.toNat]? = some y → y.value = input.prevOutValue) →
      env.sha256 (env.sha256 tx.serialize) = input.prevOutHash →
      (handlePrevtx inputIndex input numInputs).wp env
        (fun _ d' ↦ ∃ seg, d'.log = d.log ++ seg ∧ replies seg = tx.replies ∧
          (replies seg).length = 1 + tx.inputs.length + tx.outputs.length) (fun _ _ ↦ False) d := by
  refine ⟨wp_mono (fun _ _ ⟨tx, seg, hlog, hrep, hhash, _⟩ ↦ ⟨tx, seg, hlog, hrep, hhash⟩)
      (fun _ _ h ↦ h) (hashPrevtx_sound inputIndex input numInputs d),
    wp_mono (fun _ _ ⟨tx, seg, hlog, hrep, hin, hout, _, hhash⟩ ↦ ⟨tx, seg, hlog, hrep, hin, hout, hhash⟩)
      (fun _ _ h ↦ h) (handlePrevtx_sound inputIndex numInputs input d),
    fun tx hstream hinputs houtputs hvalue hhash ↦ ?_⟩
  refine wp_mono (fun _ _ ⟨seg, hlog, hrep⟩ ↦ ⟨seg, hlog, hrep, by rw [hrep, PrevTx.length_replies]⟩)
    (fun _ _ h ↦ h)
    (handlePrevtx_complete inputIndex numInputs input tx hstream hinputs houtputs hvalue hhash d)

/-- The host of `tx`, with native calls that all succeed and the constant hash function `digest`. -/
def PrevTx.hostEnv (tx : PrevTx) (digest : Bytes) : Env where
  nextRequest _ response := tx.hostReply response
  isLocked _ := false
  signInit _ _ := .ok ()
  signInputPass1 _ _ _ := .ok ()
  signOutput _ _ _ := .ok ()
  signInputPass2 _ _ _ := .ok ([], [])
  signAntiklepto _ _ := .ok []
  sha256 _ := digest

/-- A previous transaction with one input and one output, of value `5`. -/
def oneOutputTx : PrevTx := ⟨1, [⟨[], 0, [], 0⟩], [⟨5, []⟩], 0, by decide, by decide⟩

theorem handlePrevtx_hashes_serialization_oneOutputTx :
    StreamsPrevTx (oneOutputTx.hostEnv []) 0 oneOutputTx ∧
    (handlePrevtx 0 ⟨[], 0, 5, 0, [], 0, none⟩ 1).wp (oneOutputTx.hostEnv [])
      (fun _ d' ↦ ∃ seg, d'.log = [] ++ seg ∧ replies seg = oneOutputTx.replies ∧
        (replies seg).length = 1 + oneOutputTx.inputs.length + oneOutputTx.outputs.length)
      (fun _ _ ↦ False) ⟨[], ⟨emptyNext, false⟩⟩ :=
  ⟨streamsPrevTx_of_hostReply (fun _ _ ↦ rfl) 0,
    (@handlePrevtx_hashes_serialization (oneOutputTx.hostEnv []) 0 1 ⟨[], 0, 5, 0, [], 0, none⟩
      ⟨[], ⟨emptyNext, false⟩⟩).2.2 oneOutputTx
      (streamsPrevTx_of_hostReply (fun _ _ ↦ rfl) 0) (by decide) (by decide)
      (fun y hy ↦ by cases hy; rfl) rfl⟩

/-- `handle_prevtx` checks the value of the output at `input.prev_out_index` only if there is one:
against a host streaming a transaction with no output at that index, it returns. -/
theorem handlePrevtx_accepts_missing_output (tx : PrevTx) (hstream : StreamsPrevTx env inputIndex tx)
    (hinputs : 1 ≤ tx.inputs.length) (houtputs : 1 ≤ tx.outputs.length)
    (hhash : env.sha256 (env.sha256 tx.serialize) = input.prevOutHash)
    (hindex : tx.outputs.length ≤ input.prevOutIndex.toNat) (d : Device) :
    (handlePrevtx inputIndex input numInputs).wp env
      (fun _ d' ↦ ∃ seg, d'.log = d.log ++ seg ∧ replies seg = tx.replies) (fun _ _ ↦ False) d :=
  handlePrevtx_complete inputIndex numInputs input tx hstream hinputs houtputs
    (fun _ hy ↦ by rw [List.getElem?_eq_none hindex] at hy; cases hy) hhash d

theorem handlePrevtx_accepts_missing_output_oneOutputTx :
    StreamsPrevTx (oneOutputTx.hostEnv []) 0 oneOutputTx ∧
    (handlePrevtx 0 ⟨[], 1, 7, 0, [], 0, none⟩ 1).wp (oneOutputTx.hostEnv [])
      (fun _ d' ↦ ∃ seg, d'.log = [] ++ seg ∧ replies seg = oneOutputTx.replies)
      (fun _ _ ↦ False) ⟨[], ⟨emptyNext, false⟩⟩ :=
  ⟨streamsPrevTx_of_hostReply (fun _ _ ↦ rfl) 0,
    @handlePrevtx_accepts_missing_output (oneOutputTx.hostEnv []) 0 1 ⟨[], 1, 7, 0, [], 0, none⟩
      oneOutputTx
      (streamsPrevTx_of_hostReply (fun _ _ ↦ rfl) 0) (by decide) (by decide) rfl (by decide)
      ⟨[], ⟨emptyNext, false⟩⟩⟩

/-- A previous transaction whose one input has an empty `prev_out_hash`. -/
def emptyHashTx : PrevTx :=
  ⟨1, [⟨[], 0, [0, 0, 0, 1, 0], 0⟩], [⟨5, []⟩], 0, by decide, by decide⟩

/-- `emptyHashTx` with the input split differently: a four-byte `prev_out_hash`, and the next bytes
read as `prev_out_index` and a one-byte `signature_script`. -/
def shiftedHashTx : PrevTx :=
  ⟨1, [⟨[0, 0, 0, 0], 5, [0], 0⟩], [⟨5, []⟩], 0, by decide, by decide⟩

/-- `prev_out_hash` is hashed without its length, so the hashed bytes do not determine the stream:
hosts streaming the two different transactions `emptyHashTx` and `shiftedHashTx` make
`handle_prevtx` hash the same bytes. -/
theorem hashPrevtx_same_bytes_of_different_streams (envA envB : Env)
    (hA : StreamsPrevTx envA inputIndex emptyHashTx) (hB : StreamsPrevTx envB inputIndex shiftedHashTx)
    (hvalue : ∀ y, emptyHashTx.outputs[input.prevOutIndex.toNat]? = some y →
      y.value = input.prevOutValue) (d : Device) :
    emptyHashTx ≠ shiftedHashTx ∧
    (hashPrevtx inputIndex input numInputs).wp envA
      (fun hasherA _ ↦ (hashPrevtx inputIndex input numInputs).wp envB
        (fun hasherB _ ↦ hasherA = hasherB) (fun _ _ ↦ False) d) (fun _ _ ↦ False) d := by
  refine ⟨fun h ↦ by simpa [emptyHashTx, shiftedHashTx] using congrArg PrevTx.inputs h, ?_⟩
  refine wp_mono (fun _ _ ⟨_, _, _, hhashA⟩ ↦ wp_mono (fun _ _ ⟨_, _, _, hhashB⟩ ↦ ?_)
    (fun _ _ h ↦ h) (hashPrevtx_complete inputIndex numInputs input shiftedHashTx hB
      (by decide) (by decide) hvalue d)) (fun _ _ h ↦ h)
    (hashPrevtx_complete inputIndex numInputs input emptyHashTx hA (by decide) (by decide) hvalue d)
  rw [hhashA, hhashB]
  decide

theorem hashPrevtx_same_bytes_of_different_streams_example :
    StreamsPrevTx (emptyHashTx.hostEnv []) 0 emptyHashTx ∧
    StreamsPrevTx (shiftedHashTx.hostEnv []) 0 shiftedHashTx ∧
    emptyHashTx ≠ shiftedHashTx ∧
    (hashPrevtx 0 ⟨[], 0, 5, 0, [], 0, none⟩ 1).wp (emptyHashTx.hostEnv [])
      (fun hasherA _ ↦ (hashPrevtx 0 ⟨[], 0, 5, 0, [], 0, none⟩ 1).wp (shiftedHashTx.hostEnv [])
        (fun hasherB _ ↦ hasherA = hasherB) (fun _ _ ↦ False) ⟨[], ⟨emptyNext, false⟩⟩)
      (fun _ _ ↦ False) ⟨[], ⟨emptyNext, false⟩⟩ :=
  ⟨streamsPrevTx_of_hostReply (fun _ _ ↦ rfl) 0, streamsPrevTx_of_hostReply (fun _ _ ↦ rfl) 0,
    hashPrevtx_same_bytes_of_different_streams 0 1 ⟨[], 0, 5, 0, [], 0, none⟩ _ _
      (streamsPrevTx_of_hostReply (fun _ _ ↦ rfl) 0) (streamsPrevTx_of_hostReply (fun _ _ ↦ rfl) 0)
      (fun y hy ↦ by cases hy; rfl) ⟨[], ⟨emptyNext, false⟩⟩⟩

end HandlePrevtx

end BtcSignTx
