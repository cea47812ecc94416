import Sdi12.Protocol

namespace Sdi12

/-! # CRC-16-IBM codec (`sdi12_crc.c`)

The bitwise loop of `sdi12_crc16` (reflected polynomial `0xA001`, initial value 0, no
final XOR), its three-character printable encoding, and the append and verify operations
on response buffers.
-/

/-- One of the eight shifts of the inner loop. -/
def crcShift (crc : UInt16) : UInt16 :=
  if crc &&& 1 ≠ 0 then (crc >>> 1) ^^^ 0xA001 else crc >>> 1

def crcShifts : Nat → UInt16 → UInt16
  | 0, crc => crc
  | n + 1, crc => crcShifts n (crcShift crc)

/-- One pass of the outer loop: `crc ^= (uint16_t)p[i]`, then eight shifts. -/
def crcByte (crc : UInt16) (c : Char) : UInt16 :=
  crcShifts 8 (crc ^^^ UInt16.ofNat (c.toNat % 256))

/-- `sdi12_crc16`. -/
def crc16 (data : List Char) : UInt16 := data.foldl crcByte 0

/-- `sdi12_crc_encode_ascii`: three 6-bit groups, each OR'd with `0x40`. -/
def crcEncodeAscii (crc : UInt16) : List Char :=
  [Char.ofNat (0x40 ||| (crc >>> 12).toNat),
   Char.ofNat (0x40 ||| ((crc >>> 6) &&& 0x3F).toNat),
   Char.ofNat (0x40 ||| (crc &&& 0x3F).toNat)]

/-- The data part of a string before one trailing CR LF (`data_end` of `sdi12_crc_append`). -/
def crcDataEnd (s : List Char) : Nat := if endsWithCrlf s then s.length - 2 else s.length

/-- `sdi12_crc_append(buf, buflen)`: on success the buffer holds the data, the encoded CRC
and CR LF; on overflow it is unchanged. -/
def crcAppend (buf : List Char) (buflen : Nat) : Err × List Char :=
  let s := cString buf
  let dataEnd := crcDataEnd s
  if dataEnd + 3 + 2 + 1 > buflen then (.bufferOverflow, buf)
  else (.ok, s.take dataEnd ++ crcEncodeAscii (crc16 (s.take dataEnd)) ++ crlf)

/-- Modelled from the spec: `sdi12_crc_append_n`, declared in `sdi12.h` but not among the
sources.  Per its declaration it is `sdi12_crc_append` with an explicit data length: the CRC
of `buf[0..data_len)` followed by CR LF, or `SDI12_ERR_BUFFER_OVERFLOW` and no change when
that does not fit `buflen` with its terminator. -/
def crcAppendN (buf : List Char) (dataLen buflen : Nat) : Err × List Char :=
  if dataLen + 3 + 2 + 1 > buflen then (.bufferOverflow, buf)
  else (.ok, buf.take dataLen ++ crcEncodeAscii (crc16 (buf.take dataLen)) ++ crlf)

/-- `sdi12_crc_verify(buf, len)`. -/
def crcVerify (buf : List Char) (len : Nat) : Bool :=
  let byte (i : Nat) := buf.getD i '\x00'
  let afterLf := if byte (len - 1) = '\n' then len - 1 else len
  let stop := if 0 < afterLf ∧ byte (afterLf - 1) = '\r' then afterLf - 1 else afterLf
  let dataEnd := stop - 3
  let expected := crcEncodeAscii (crc16 (buf.take dataEnd))
  if len < 6 then false
  else if stop < 3 then false
  else byte dataEnd = expected.getD 0 '\x00' && byte (dataEnd + 1) = expected.getD 1 '\x00' &&
    byte (dataEnd + 2) = expected.getD 2 '\x00'

/-! ## Append, then verify -/

theorem toNat_shiftRight (a : UInt16) {k : Nat} (small : k < 16) :
    (a >>> UInt16.ofNat k).toNat = a.toNat >>> k := by
  show (a.toBitVec >>> (UInt16.mod (UInt16.ofNat k) 16).toBitVec).toNat = _
  rw [BitVec.ushiftRight_eq', BitVec.toNat_ushiftRight]
  congr
  show k % 65536 % 16 = k
  omega

/-- The characters of an encoded CRC lie in `0x40`–`0x7F`. -/
theorem crcEncodeAscii_range (crc : UInt16) :
    ∀ c ∈ crcEncodeAscii crc, 0x40 ≤ c.toNat ∧ c.toNat < 0x80 := by
  have encoded {k : Nat} (small : k < 0x40) :
      0x40 ≤ (Char.ofNat (0x40 ||| k)).toNat ∧ (Char.ofNat (0x40 ||| k)).toNat < 0x80 := by
    have bit : (0x40 ||| k).testBit 6 = true := by
      rw [Nat.testBit_or, Bool.or_eq_true]
      exact .inl (by decide)
    have below : 0x40 ||| k < 2 ^ 7 := Nat.or_lt_two_pow (by decide) (by omega)
    rw [toNat_charOfNat (by omega)]
    exact ⟨Nat.testBit_implies_ge bit, below⟩
  have top : (crc >>> 12).toNat < 0x40 := by
    rw [show (12 : UInt16) = UInt16.ofNat 12 from rfl, toNat_shiftRight crc (by decide),
      Nat.shiftRight_eq_div_pow]
    have := crc.toNat_lt_size
    simp only [UInt16.size] at this
    omega
  simp only [crcEncodeAscii, List.mem_cons, List.mem_singleton, List.not_mem_nil, or_false]
  rintro c (rfl | rfl | rfl)
  · exact encoded top
  · exact encoded (Nat.and_lt_two_pow _ (by decide : 0x3F < 2 ^ 6))
  · exact encoded (Nat.and_lt_two_pow _ (by decide : 0x3F < 2 ^ 6))

/-- `sdi12_crc_verify` on a line that ends in three characters and CR LF: it accepts exactly
when there is data before them and they are the encoded CRC of that data. -/
theorem crcVerify_crlf (data : List Char) (c₀ c₁ c₂ : Char) :
    crcVerify (data ++ [c₀, c₁, c₂] ++ crlf) (data.length + 5) = true ↔
      data ≠ [] ∧ [c₀, c₁, c₂] = crcEncodeAscii (crc16 data) := by
  have byte (i : Nat) : (data ++ [c₀, c₁, c₂] ++ crlf).getD (data.length + i) '\x00' =
      [c₀, c₁, c₂, '\r', '\n'].getD i '\x00' := by
    simp only [List.getD_eq_getElem?_getD, List.append_assoc,
      List.getElem?_append_right (Nat.le_add_right _ _), Nat.add_sub_cancel_left]
    rfl
  have lf : (data ++ [c₀, c₁, c₂] ++ crlf).getD (data.length + 5 - 1) '\x00' = '\n' := byte 4
  have cr : (data ++ [c₀, c₁, c₂] ++ crlf).getD (data.length + 5 - 1 - 1) '\x00' = '\r' := byte 3
  have first : (data ++ [c₀, c₁, c₂] ++ crlf).getD data.length '\x00' = c₀ := byte 0
  have dataEnd : data.length + 5 - 1 - 1 - 3 = data.length := by omega
  have before : (data ++ [c₀, c₁, c₂] ++ crlf).take data.length = data := by simp
  simp only [crcVerify, lf, cr, if_true, dataEnd, show 0 < data.length + 5 - 1 by omega, and_self,
    first, byte 1, byte 2, before, show ¬data.length + 5 - 1 - 1 < 3 by omega, if_false]
  cases data <;> simp [crcEncodeAscii, and_assoc]

/-- A string without its trailing CR LF, if it has one. -/
def dropCrlf (x : List Char) : List Char := if endsWithCrlf x then x.take (x.length - 2) else x

theorem take_crcDataEnd (x : List Char) : x.take (crcDataEnd x) = dropCrlf x := by
  unfold crcDataEnd dropCrlf
  split <;> simp

theorem crcDataEnd_eq_length (x : List Char) : crcDataEnd x = (dropCrlf x).length := by
  rw [← take_crcDataEnd, List.length_take, Nat.min_eq_left]
  unfold crcDataEnd
  split <;> omega

theorem mem_of_mem_dropCrlf {x : List Char} {c : Char} (member : c ∈ dropCrlf x) : c ∈ x := by
  unfold dropCrlf at member
  split at member
  · exact List.mem_of_mem_take member
  · exact member

theorem crcEncodeAscii_ne_nul (crc : UInt16) : ∀ c ∈ crcEncodeAscii crc, c ≠ '\x00' := by
  rintro c member rfl
  simpa using (crcEncodeAscii_range crc _ member).1

/-- `sdi12_crc_append` in terms of the data `d` before the trailing CR LF. -/
theorem crcAppend_eq (buf : List Char) (buflen : Nat) :
    crcAppend buf buflen =
      if buflen < (dropCrlf (cString buf)).length + 6 then (.bufferOverflow, buf)
      else (.ok, dropCrlf (cString buf) ++ crcEncodeAscii (crc16 (dropCrlf (cString buf))) ++ crlf) := by
  simp only [crcAppend, take_crcDataEnd, gt_iff_lt]
  rw [crcDataEnd_eq_length]

/-- `sdi12_crc_append` on a buffer holding the string `x`: with `d` the data before one
trailing CR LF, it overflows, leaving the buffer alone, exactly when `d`, three CRC
characters, CR LF and the NUL do not fit; otherwise it leaves `d`, the encoded CRC of `d` and
CR LF, a string `sdi12_crc_verify` accepts exactly when `d` is not empty. -/
theorem crcAppend_round_trip (buf : List Char) (buflen : Nat) :
    (crcAppend buf buflen = (.bufferOverflow, buf) ↔ buflen < (dropCrlf (cString buf)).length + 6) ∧
      let d := dropCrlf (cString buf)
      let out := d ++ crcEncodeAscii (crc16 d) ++ crlf
      (d.length + 6 ≤ buflen →
        crcAppend buf buflen = (.ok, out) ∧ cString out = out ∧
          (crcVerify out (cString out).length = true ↔ d ≠ [])) := by
  set d := dropCrlf (cString buf)
  set out := d ++ crcEncodeAscii (crc16 d) ++ crlf
  have noNul : ∀ c ∈ out, c ≠ '\x00' := by
    simp only [out, List.forall_mem_append]
    exact ⟨⟨fun c member => ne_nul_of_mem_cString (mem_of_mem_dropCrlf member),
      crcEncodeAscii_ne_nul _⟩, by decide⟩
  refine ⟨?_, fun fits => ⟨?_, cString_of_forall_ne noNul, ?_⟩⟩
  · rw [crcAppend_eq]
    split <;> simp_all
  · rw [crcAppend_eq, if_neg (show ¬buflen < d.length + 6 by omega)]
  · obtain ⟨e₀, e₁, e₂, encoded⟩ : ∃ e₀ e₁ e₂, crcEncodeAscii (crc16 d) = [e₀, e₁, e₂] :=
      ⟨_, _, _, rfl⟩
    have length : out.length = d.length + 5 := by simp [out, encoded, crlf]
    rw [cString_of_forall_ne noNul, length, encoded, crcVerify_crlf]
    simp [encoded]

end Sdi12
