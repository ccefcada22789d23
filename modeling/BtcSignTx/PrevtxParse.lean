import BtcSignTx.PrevtxVerify

/-!
# The hashed bytes determine a canonical stream

`prev_out_hash` is hashed without its length, so the bytes `handle_prevtx` hashes do not always
determine what the host streamed. This module shows that this is the only gap: when every
`prev_out_hash` has the 32 bytes of a txid (`PrevTx.Canonical`), `PrevTx.parse` reads the
serialization back (`parse_serialize`), so the serialization is injective on such transactions
(`serialize_injective_of_canonical`), and two hosts whose canonical streams make `hashPrevtx` hash
the same bytes sent the same records (`hashPrevtx_same_bytes_same_canonical_stream`).

The parsers are built from the decoders of `Encoding`, one per field, and `parseMany` reads a
counted list; each has a round-trip lemma, and the record parsers' lemmas are assembled from the
field lemmas.
-/

set_option autoImplicit false
set_option relaxedAutoImplicit false

namespace BtcSignTx

open Session

/-! ### Field parsers -/

/-- Reads `n` bytes. -/
def takeBytes (n : Nat) (bytes : Bytes) : Option (Bytes × Bytes) :=
  if n ≤ bytes.length then some (bytes.take n, bytes.drop n) else none

theorem takeBytes_append {n : Nat} {x : Bytes} (hx : x.length = n) (rest : Bytes) :
    takeBytes n (x ++ rest) = some (x, rest) := by
  subst hx
  simp [takeBytes]

/-- Reads a little-endian `u32`. -/
def parseU32 (bytes : Bytes) : Option (UInt32 × Bytes) :=
  (ofLeBytes 4 bytes).map fun (value, rest) ↦ (UInt32.ofNat value, rest)

/-- Reads a little-endian `u64`. -/
def parseU64 (bytes : Bytes) : Option (UInt64 × Bytes) :=
  (ofLeBytes 8 bytes).map fun (value, rest) ↦ (UInt64.ofNat value, rest)

theorem parseU32_toLeBytes32 (x : UInt32) (rest : Bytes) :
    parseU32 (toLeBytes32 x ++ rest) = some (x, rest) := by
  have hx : x.toNat < 2 ^ (8 * 4) := x.toNat_lt_size
  rw [parseU32, toLeBytes32, ofLeBytes_leBytes, Nat.mod_eq_of_lt hx, Option.map_some']
  dsimp only
  rw [uint32_ofNat_toNat]

theorem parseU64_toLeBytes64 (x : UInt64) (rest : Bytes) :
    parseU64 (toLeBytes64 x ++ rest) = some (x, rest) := by
  have hx : x.toNat < 2 ^ (8 * 8) := x.toNat_lt_size
  have hofNat : UInt64.ofNat x.toNat = x := UInt64.toNat.inj (UInt64.toNat_ofNat_of_lt x.toNat_lt_size)
  rw [parseU64, toLeBytes64, ofLeBytes_leBytes, Nat.mod_eq_of_lt hx, Option.map_some']
  dsimp only
  rw [hofNat]

/-- Reads `count` records with `parse`. -/
def parseMany {α : Type} (parse : Bytes → Option (α × Bytes)) : Nat → Bytes → Option (List α × Bytes)
  | 0, bytes => some ([], bytes)
  | count + 1, bytes => do
    let (x, bytes) ← parse bytes
    let (xs, bytes) ← parseMany parse count bytes
    pure (x :: xs, bytes)

/-- A list of records, each read back by `parse`, is read back by `parseMany` given its length. -/
theorem parseMany_flatten {α : Type} {parse : Bytes → Option (α × Bytes)} {serialize : α → Bytes}
    (xs : List α) (hxs : ∀ x ∈ xs, ∀ rest, parse (serialize x ++ rest) = some (x, rest))
    (rest : Bytes) : parseMany parse xs.length ((xs.map serialize).flatten ++ rest) = some (xs, rest) := by
  induction xs with
  | nil => rfl
  | cons x xs ih =>
    have hx := hxs x (List.mem_cons_self x xs)
    have hrest := ih fun y hy ↦ hxs y (List.mem_cons_of_mem x hy)
    simp only [List.map_cons, List.flatten_cons, List.append_assoc, List.length_cons, parseMany, hx,
      hrest, Option.bind_eq_bind, Option.some_bind]
    rfl

/-! ### Records -/

/-- Reads an input of a previous transaction, with a 32-byte `prev_out_hash`. -/
def parsePrevtxInput (bytes : Bytes) : Option (BtcPrevTxInputRequest × Bytes) := do
  let (prevOutHash, bytes) ← takeBytes 32 bytes
  let (prevOutIndex, bytes) ← parseU32 bytes
  let (scriptLength, bytes) ← parseVarint bytes
  let (signatureScript, bytes) ← takeBytes scriptLength bytes
  let (sequence, bytes) ← parseU32 bytes
  pure (⟨prevOutHash, prevOutIndex, signatureScript, sequence⟩, bytes)

/-- Reads an output of a previous transaction. -/
def parsePrevtxOutput (bytes : Bytes) : Option (BtcPrevTxOutputRequest × Bytes) := do
  let (value, bytes) ← parseU64 bytes
  let (scriptLength, bytes) ← parseVarint bytes
  let (pubkeyScript, bytes) ← takeBytes scriptLength bytes
  pure (⟨value, pubkeyScript⟩, bytes)

theorem parsePrevtxInput_prevtxInputBytes (x : BtcPrevTxInputRequest) (hhash : x.prevOutHash.length = 32)
    (hscript : x.signatureScript.length < 2 ^ 64) (rest : Bytes) :
    parsePrevtxInput (prevtxInputBytes x ++ rest) = some (x, rest) := by
  simp only [prevtxInputBytes, List.append_assoc, parsePrevtxInput, takeBytes_append hhash,
    parseU32_toLeBytes32, parseVarint_serializeVarint _ hscript, takeBytes_append rfl,
    Option.bind_eq_bind, Option.some_bind]
  rfl

theorem parsePrevtxOutput_prevtxOutputBytes (y : BtcPrevTxOutputRequest)
    (hscript : y.pubkeyScript.length < 2 ^ 64) (rest : Bytes) :
    parsePrevtxOutput (prevtxOutputBytes y ++ rest) = some (y, rest) := by
  simp only [prevtxOutputBytes, List.append_assoc, parsePrevtxOutput, parseU64_toLeBytes64,
    parseVarint_serializeVarint _ hscript, takeBytes_append rfl, Option.bind_eq_bind, Option.some_bind]
  rfl

/-! ### Transactions -/

/-- Every `prev_out_hash` of `tx` has the 32 bytes of a txid, and every script has fewer than
`2 ^ 64` bytes, so that its length is a `u64`. -/
def PrevTx.Canonical (tx : PrevTx) : Prop :=
  (∀ x ∈ tx.inputs, x.prevOutHash.length = 32 ∧ x.signatureScript.length < 2 ^ 64) ∧
    ∀ y ∈ tx.outputs, y.pubkeyScript.length < 2 ^ 64

/-- Reads a previous transaction's serialization back: its version, inputs, outputs and
locktime. -/
def PrevTx.parse (bytes : Bytes) :
    Option (UInt32 × List BtcPrevTxInputRequest × List BtcPrevTxOutputRequest × UInt32) := do
  let (version, bytes) ← parseU32 bytes
  let (numInputs, bytes) ← parseVarint bytes
  let (inputs, bytes) ← parseMany parsePrevtxInput numInputs bytes
  let (numOutputs, bytes) ← parseVarint bytes
  let (outputs, bytes) ← parseMany parsePrevtxOutput numOutputs bytes
  let (locktime, _) ← parseU32 bytes
  pure (version, inputs, outputs, locktime)

theorem PrevTx.parse_serialize (tx : PrevTx) (hcanonical : tx.Canonical) :
    PrevTx.parse tx.serialize = some (tx.version, tx.inputs, tx.outputs, tx.locktime) := by
  have hinputs : tx.inputs.length < 2 ^ 64 := by have := tx.inputs_length_lt; omega
  have houtputs : tx.outputs.length < 2 ^ 64 := by have := tx.outputs_length_lt; omega
  rw [PrevTx.serialize_eq, ← List.append_nil (toLeBytes32 tx.locktime)]
  simp only [PrevTx.parse, List.append_assoc, parseU32_toLeBytes32,
    parseVarint_serializeVarint _ hinputs, parseVarint_serializeVarint _ houtputs,
    parseMany_flatten tx.inputs fun x hx ↦
      parsePrevtxInput_prevtxInputBytes x (hcanonical.1 x hx).1 (hcanonical.1 x hx).2,
    parseMany_flatten tx.outputs fun y hy ↦ parsePrevtxOutput_prevtxOutputBytes y (hcanonical.2 y hy),
    Option.bind_eq_bind, Option.some_bind]
  rfl

/-- The serialization is injective on canonical transactions. -/
theorem serialize_injective_of_canonical {tx₁ tx₂ : PrevTx} (h₁ : tx₁.Canonical) (h₂ : tx₂.Canonical)
    (h : tx₁.serialize = tx₂.serialize) : tx₁ = tx₂ := by
  have hparse := PrevTx.parse_serialize tx₁ h₁
  rw [h, PrevTx.parse_serialize tx₂ h₂] at hparse
  obtain ⟨version, inputs, outputs, locktime, _, _⟩ := tx₁
  simp only [Option.some.injEq, Prod.mk.injEq] at hparse
  obtain ⟨rfl, rfl, rfl, rfl⟩ := hparse
  rfl

/-! ### What `handle_prevtx` hashes -/

/-- The replies hold only canonical records: every `prev_out_hash` has 32 bytes, and every script
fewer than `2 ^ 64`. -/
def CanonicalReplies (rs : List (Except Error Request)) : Prop :=
  (∀ x, .ok (.btc (.prevtxInput x)) ∈ rs →
    x.prevOutHash.length = 32 ∧ x.signatureScript.length < 2 ^ 64) ∧
    ∀ y, .ok (.btc (.prevtxOutput y)) ∈ rs → y.pubkeyScript.length < 2 ^ 64

theorem canonical_of_replies {tx : PrevTx} (h : CanonicalReplies tx.replies) : tx.Canonical :=
  ⟨fun x hx ↦ h.1 x (by simp [PrevTx.replies, hx]), fun y hy ↦ h.2 y (by simp [PrevTx.replies, hy])⟩

/-- On canonical streams the bytes `handle_prevtx` hashes determine the stream: two hosts whose
canonical replies make `hashPrevtx` return the same bytes sent the same replies. -/
theorem hashPrevtx_same_bytes_same_canonical_stream (inputIndex : UInt32)
    (input : BtcSignInputRequest) (numInputs : UInt32) (envA envB : Env) (dA dB : Device) :
    (hashPrevtx inputIndex input numInputs).wp envA (fun hasherA dA' ↦
      (hashPrevtx inputIndex input numInputs).wp envB (fun hasherB dB' ↦
        CanonicalReplies (replies (dA'.log.drop dA.log.length)) →
        CanonicalReplies (replies (dB'.log.drop dB.log.length)) → hasherA = hasherB →
        replies (dA'.log.drop dA.log.length) = replies (dB'.log.drop dB.log.length))
      (fun _ _ ↦ True) dB) (fun _ _ ↦ True) dA := by
  refine wp_mono (fun hasherA dA' hA ↦ ?_) (fun _ _ _ ↦ trivial)
    (hashPrevtx_sound inputIndex input numInputs dA)
  refine wp_mono (fun hasherB dB' hB ↦ ?_) (fun _ _ _ ↦ trivial)
    (hashPrevtx_sound inputIndex input numInputs dB)
  obtain ⟨txA, segA, hlogA, hrepA, rfl, -⟩ := hA
  obtain ⟨txB, segB, hlogB, hrepB, rfl, -⟩ := hB
  rw [hlogA, hlogB, List.drop_left, List.drop_left, hrepA, hrepB]
  intro hcanonicalA hcanonicalB hbytes
  rw [serialize_injective_of_canonical (canonical_of_replies hcanonicalA)
    (canonical_of_replies hcanonicalB) hbytes]

/-- A previous transaction like `oneOutputTx` whose input's `prev_out_hash` has 32 bytes. -/
def canonicalTx : PrevTx := ⟨1, [⟨List.replicate 32 0, 0, [], 0⟩], [⟨5, []⟩], 0, by decide, by decide⟩

/-- Two runs against the host streaming `canonicalTx`: each receives its replies, which are
canonical. -/
theorem hashPrevtx_same_bytes_same_canonical_stream_canonicalTx :
    replies ((hashPrevtx 0 ⟨[], 0, 5, 0, [], 0, none⟩ 1).run (canonicalTx.hostEnv [])
      ⟨[], ⟨emptyNext, false⟩⟩).2.log = canonicalTx.replies ∧
    CanonicalReplies canonicalTx.replies ∧
    (hashPrevtx 0 ⟨[], 0, 5, 0, [], 0, none⟩ 1).wp (canonicalTx.hostEnv []) (fun hasherA dA' ↦
      (hashPrevtx 0 ⟨[], 0, 5, 0, [], 0, none⟩ 1).wp (canonicalTx.hostEnv []) (fun hasherB dB' ↦
        CanonicalReplies (replies (dA'.log.drop 0)) → CanonicalReplies (replies (dB'.log.drop 0)) →
          hasherA = hasherB → replies (dA'.log.drop 0) = replies (dB'.log.drop 0))
        (fun _ _ ↦ True) ⟨[], ⟨emptyNext, false⟩⟩)
      (fun _ _ ↦ True) ⟨[], ⟨emptyNext, false⟩⟩ :=
  ⟨rfl, by simp [CanonicalReplies, PrevTx.replies, canonicalTx],
    hashPrevtx_same_bytes_same_canonical_stream 0 _ 1 _ _ ⟨[], ⟨emptyNext, false⟩⟩
      ⟨[], ⟨emptyNext, false⟩⟩⟩

end BtcSignTx
