import BtcSignTx.Messages

/-!
# Byte encodings fed to the hasher

`handle_prevtx` hashes integers as `to_le_bytes` and counts and lengths as `serialize_varint`.
`leBytes w x` is the `w` little-endian bytes of `x`, which is `to_le_bytes` for a `w`-byte unsigned
integer (`toLeBytes32`, `toLeBytes64`). `serializeVarint` is Bitcoin's CompactSize: it comes from
`super::script`, which is not among the sources, and is modelled from the spec's "Bitcoin convention
(1/3/5/9-byte encoding)".

Both are prefix codes, which is what a parser of the hashed bytes needs: `leBytes` inverts by
`ofLeBytes` (`ofLeBytes_leBytes`), and `serializeVarint` by `parseVarint`
(`parseVarint_serializeVarint`), each leaving the bytes after it untouched.
-/

set_option autoImplicit false
set_option relaxedAutoImplicit false

namespace BtcSignTx

/-! ### `u32` arithmetic -/

theorem uint32_ofNat_toNat (n : UInt32) : UInt32.ofNat n.toNat = n :=
  UInt32.toNat.inj (UInt32.toNat_ofNat_of_lt (UInt32.toNat_lt_size n))

theorem uint32_lt_one_iff (n : UInt32) : n < 1 ↔ n.toNat = 0 := by
  rw [UInt32.lt_def, BitVec.lt_def]; simp; rfl

/-- A loop index below a `u32` count is the `u32` of its own value. -/
theorem toNat_loopIndex {i : Nat} {count : UInt32} (hi : i < count.toNat) :
    (UInt32.ofNat i).toNat = i :=
  UInt32.toNat_ofNat_of_lt (Nat.lt_trans hi count.toNat_lt_size)

/-- The `last` flag of the loops over inputs and outputs: `index == count - 1` in `u32` holds
exactly for the last index. -/
theorem ofNat_eq_sub_one_iff {i : Nat} {count : UInt32} (hi : i < count.toNat) :
    UInt32.ofNat i = count - 1 ↔ i + 1 = count.toNat := by
  have hone : (1 : UInt32) ≤ count := by
    rw [UInt32.le_def, BitVec.le_def]; simpa using Nat.lt_of_le_of_lt (Nat.zero_le i) hi
  have hsub : (count - 1).toNat = count.toNat - 1 := UInt32.toNat_sub_of_le count 1 hone
  have hi' := toNat_loopIndex hi
  constructor
  · intro h
    have := congrArg UInt32.toNat h
    omega
  · intro h
    exact UInt32.toNat.inj (by omega)

/-! ### Encoding -/

/-- The `width` little-endian bytes of `value`, keeping its low `8 * width` bits. -/
def leBytes : (width : Nat) → Nat → Bytes
  | 0, _ => []
  | width + 1, value => UInt8.ofNat (value % 256) :: leBytes width (value / 256)

/-- `u32::to_le_bytes`. -/
def toLeBytes32 (value : UInt32) : Bytes := leBytes 4 value.toNat

/-- `u64::to_le_bytes`. -/
def toLeBytes64 (value : UInt64) : Bytes := leBytes 8 value.toNat

/-- Modelled from the spec: `serialize_varint` of `super::script`, called on a `u64` (a count or a
length cast with `as u64`). One byte below `0xfd`; otherwise a marker `0xfd`, `0xfe` or `0xff` and
the value in 2, 4 or 8 little-endian bytes, the first that holds it. -/
def serializeVarint (value : Nat) : Bytes :=
  if value < 0xfd then [UInt8.ofNat value]
  else if value ≤ 0xffff then 0xfd :: leBytes 2 value
  else if value ≤ 0xffffffff then 0xfe :: leBytes 4 value
  else 0xff :: leBytes 8 value

@[simp] theorem length_leBytes (width value : Nat) : (leBytes width value).length = width := by
  induction width generalizing value with
  | zero => rfl
  | succ width ih => simp [leBytes, ih]

@[simp] theorem length_toLeBytes32 (value : UInt32) : (toLeBytes32 value).length = 4 :=
  length_leBytes 4 _

@[simp] theorem length_toLeBytes64 (value : UInt64) : (toLeBytes64 value).length = 8 :=
  length_leBytes 8 _

/-! ### Decoding -/

/-- Reads `width` little-endian bytes, the inverse of `leBytes`. -/
def ofLeBytes : (width : Nat) → Bytes → Option (Nat × Bytes)
  | 0, bytes => some (0, bytes)
  | _ + 1, [] => none
  | width + 1, b :: bytes =>
    (ofLeBytes width bytes).map fun (value, rest) ↦ (b.toNat + 256 * value, rest)

theorem toNat_ofNat_mod_256 (value : Nat) : (UInt8.ofNat (value % 256)).toNat = value % 256 :=
  UInt8.toNat_ofNat_of_lt (Nat.mod_lt _ (by decide))

/-- `leBytes` read back gives the value modulo `2 ^ (8 * width)`, and the bytes after it. -/
theorem ofLeBytes_leBytes (width value : Nat) (rest : Bytes) :
    ofLeBytes width (leBytes width value ++ rest) = some (value % 2 ^ (8 * width), rest) := by
  induction width generalizing value with
  | zero => simp [ofLeBytes, leBytes, Nat.mod_one]
  | succ width ih =>
    have hpow : 2 ^ (8 * (width + 1)) = 256 * 2 ^ (8 * width) := by
      rw [Nat.mul_succ, Nat.pow_add, Nat.mul_comm]
    rw [leBytes, List.cons_append, ofLeBytes, ih, hpow, Nat.mod_mul]
    simp [toNat_ofNat_mod_256]

/-- Reads a CompactSize value, the inverse of `serializeVarint` on every `u64`. -/
def parseVarint : Bytes → Option (Nat × Bytes)
  | [] => none
  | b :: bytes =>
    if b.toNat < 0xfd then some (b.toNat, bytes)
    else if b = 0xfd then ofLeBytes 2 bytes
    else if b = 0xfe then ofLeBytes 4 bytes
    else ofLeBytes 8 bytes

/-- `serializeVarint` read back gives the value, and the bytes after it. -/
theorem parseVarint_serializeVarint (value : Nat) (hvalue : value < 2 ^ 64) (rest : Bytes) :
    parseVarint (serializeVarint value ++ rest) = some (value, rest) := by
  unfold serializeVarint
  split_ifs with h1 h2 h3
  · have hbyte : (UInt8.ofNat value).toNat = value :=
      UInt8.toNat_ofNat_of_lt (show value < 256 by omega)
    rw [List.singleton_append, parseVarint, hbyte, if_pos h1]
  · rw [List.cons_append, parseVarint, if_neg (by decide), if_pos rfl, ofLeBytes_leBytes,
      Nat.mod_eq_of_lt (by omega)]
  · rw [List.cons_append, parseVarint, if_neg (by decide), if_neg (by decide), if_pos rfl,
      ofLeBytes_leBytes, Nat.mod_eq_of_lt (by omega)]
  · rw [List.cons_append, parseVarint, if_neg (by decide), if_neg (by decide), if_neg (by decide),
      ofLeBytes_leBytes, Nat.mod_eq_of_lt (by omega)]

end BtcSignTx
