import Sdi12.Sensor.Handlers
import Sdi12.Master

namespace Sdi12.Master

/-! # The binary-packet reader of `sdi12_master_get_hv_binary_data`

A packet on the stream is the address, the payload size `N` as two little-endian bytes, the
type byte, `N` payload bytes and the little-endian CRC of the `4 + N` bytes before it.  When
every call of the recv hook hands over at least one pending byte, whatever the chunking, the
reader's result is a function of the stream alone (`recvBinaryPacket_paced`): it accepts
exactly the well-formed packets, leaves every byte after the packet on the stream, reads
past the four header bytes only when `N` fits its buffers, and says which check failed
otherwise.
-/

open Sensor

/-- The bytes the reader hands to `sdi12_crc16`: the header, the type byte and the payload,
the first `4 + N` bytes of the stream. -/
theorem crcInput_eq (stream : List Char) (N : Nat) :
    stream.take 3 ++ (stream.drop 3).take 1 ++ ((stream.drop 4).take (N + 2)).take N =
      stream.take (4 + N) := by
  rw [List.take_take, Nat.min_eq_left (by omega), show 4 + N = 3 + (1 + N) by omega, List.take_add,
    List.take_add, List.drop_drop, List.append_assoc]

/-- `recvBinaryPacket` on a stream whose every hook call hands over at least one byte: its
result as a function of the stream. -/
theorem recvBinaryPacket_paced {chunk : Nat → Nat} (paced : ∀ k, 0 < chunk k)
    (stream : List Char) (calls : Nat) (out : BinaryOut) :
    let N := littleEndian (stream.getD 1 '\x00') (stream.getD 2 '\x00')
    let typed := { out with outType := (stream.getD 3 '\x00').toNat % 256 }
    let copied := min N out.outLen
    ∃ calls', recvBinaryPacket chunk ⟨stream, calls⟩ out =
      if stream.length < 4 then (.timeout, out, ⟨[], calls'⟩)
      else if binMaxPayload < N then (.bufferOverflow, typed, ⟨stream.drop 4, calls'⟩)
      else if stream.length < 6 + N then (.timeout, typed, ⟨[], calls'⟩)
      else if (crc16 (stream.take (4 + N))).toNat ≠
          littleEndian (stream.getD (4 + N) '\x00') (stream.getD (5 + N) '\x00') then
        (.crcMismatch, typed, ⟨stream.drop (6 + N), calls'⟩)
      else
        (.ok, { typed with payload := (stream.drop 4).take copied ++ out.payload.drop copied,
                           outLen := N, respLen := 6 + N }, ⟨stream.drop (6 + N), calls'⟩) := by
  intro N typed copied
  obtain ⟨c₁, header⟩ := recvExact_paced paced 3 ⟨stream, calls⟩
  by_cases three : 3 ≤ stream.length
  case neg =>
    exact ⟨c₁, by simp [recvBinaryPacket, header, three, show stream.length < 4 by omega]⟩
  obtain ⟨c₂, typeRead⟩ := recvExact_paced paced 1 ⟨stream.drop 3, c₁⟩
  by_cases four : 4 ≤ stream.length
  case neg =>
    exact ⟨c₂, by simp [recvBinaryPacket, header, three, typeRead, show ¬1 ≤ stream.length - 3 by omega,
      show stream.length < 4 by omega]⟩
  have size : littleEndian ((stream.take 3).getD 1 '\x00') ((stream.take 3).getD 2 '\x00') = N := by
    rw [getD_take_of_lt _ (by decide), getD_take_of_lt _ (by decide)]
  have typeByte : ((stream.drop 3).take 1).getD 0 '\x00' = stream.getD 3 '\x00' := by
    rw [getD_take_of_lt _ (by decide), getD_drop]
  have afterType : (stream.drop 3).drop 1 = stream.drop 4 := by rw [List.drop_drop]
  simp only [recvBinaryPacket, header, typeRead, if_pos three, List.length_drop,
    show 1 ≤ stream.length - 3 by omega, if_true, size, typeByte, afterType, if_neg (Nat.not_lt.mpr four)]
  by_cases overflow : binMaxPayload < N
  case pos => exact ⟨c₂, by simp only [overflow, if_true]⟩
  obtain ⟨c₃, tailRead⟩ := recvExact_paced paced (N + 2) ⟨stream.drop 4, c₂⟩
  simp only [overflow, if_false, tailRead, List.length_drop]
  by_cases whole : 6 + N ≤ stream.length
  case neg =>
    exact ⟨c₃, by simp only [show ¬N + 2 ≤ stream.length - 4 by omega, if_false,
      show stream.length < 6 + N by omega, if_true]⟩
  have crcLow : ((stream.drop 4).take (N + 2)).getD N '\x00' = stream.getD (4 + N) '\x00' := by
    rw [getD_take_of_lt _ (by omega), getD_drop]
  have crcHigh : ((stream.drop 4).take (N + 2)).getD (N + 1) '\x00' = stream.getD (5 + N) '\x00' := by
    rw [getD_take_of_lt _ (by omega), getD_drop, show 4 + (N + 1) = 5 + N by omega]
  have payload : ((stream.drop 4).take (N + 2)).take copied = (stream.drop 4).take copied := by
    rw [List.take_take, Nat.min_eq_left (by omega)]
  exact ⟨c₃, by simp only [show N + 2 ≤ stream.length - 4 by omega, if_true, if_neg (Nat.not_lt.mpr whole),
    crcInput_eq, crcLow, crcHigh, payload, List.drop_drop, show 4 + (N + 2) = 6 + N by omega]⟩

/-- The fields of the packet `handle_send_binary_data` builds, where the reader looks for
them. -/
theorem binaryPacket_fields (address dataType : Char) {payload : List Char}
    (small : payload.length < 65536) :
    let stream := binaryPacket address dataType payload
    littleEndian (stream.getD 1 '\x00') (stream.getD 2 '\x00') = payload.length ∧
      stream.length = 6 + payload.length ∧ stream.getD 3 '\x00' = dataType ∧
      (stream.drop 4).take payload.length = payload ∧
      (crc16 (stream.take (4 + payload.length))).toNat =
        littleEndian (stream.getD (4 + payload.length) '\x00') (stream.getD (5 + payload.length) '\x00') := by
  intro stream
  set body := [address, Char.ofNat (payload.length % 256), Char.ofNat (payload.length / 256 % 256),
    dataType] ++ payload
  have shape : stream = body ++ [Char.ofNat (crc16 body &&& 0xFF).toNat,
      Char.ofNat ((crc16 body >>> 8) &&& 0xFF).toNat] := rfl
  have bodyLength : body.length = 4 + payload.length := by
    simp only [body, List.length_append, List.length_cons, List.length_nil]
  have crcAt (i : Nat) : stream.getD (4 + payload.length + i) '\x00' =
      [Char.ofNat (crc16 body &&& 0xFF).toNat, Char.ofNat ((crc16 body >>> 8) &&& 0xFF).toNat].getD i '\x00' := by
    rw [shape, ← bodyLength, List.getD_eq_getElem?_getD, List.getElem?_append_right (Nat.le_add_right _ _),
      Nat.add_sub_cancel_left, ← List.getD_eq_getElem?_getD]
  have length : stream.length = 6 + payload.length := by
    rw [shape, List.length_append, bodyLength, List.length_cons, List.length_singleton]
    omega
  refine ⟨littleEndian_bytes small, length, rfl, List.take_left _ _, ?_⟩
  rw [show 5 + payload.length = 4 + payload.length + 1 by omega, crcAt 1,
    show stream.getD (4 + payload.length) '\x00' = _ from crcAt 0, shape, List.take_left' bodyLength]
  exact (littleEndian_crcBytes _).symm

theorem getHvBinaryData_eq (bus : List Char → List Char) (chunk : Nat → Nat) {addr : Char}
    (valid : validAddress addr = true) (page : UInt16) (out : BinaryOut) :
    let cmd := snprintf 16 (addr :: 'D' :: 'B' :: Nat.toDigits 10 page.toNat ++ ['!'])
    let read := recvBinaryPacket chunk ⟨bus cmd, 0⟩ out
    getHvBinaryData bus chunk addr page out = (read.1, read.2.1) := by
  simp only [getHvBinaryData, valid, Bool.not_true, Bool.false_eq_true, if_false,
    if_neg (Nat.not_lt.mpr (cString_snprintf_short 16 _ (by decide)))]

/-- `sdi12_master_get_hv_binary_data` on any stream `S`, split into chunks in any way by a recv
hook that hands over at least one byte a call until `S` runs out.  With `N = S[1] + 256 S[2]`,
it returns `SDI12_OK` exactly on a well-formed packet (`6 + N` bytes, `N ≤ 1000`, and the CRC
of `S[0..4+N)` in `S[4+N]`, `S[5+N]`), then with the type byte, `N`, the payload copied up to
the capacity and `resp_len = 6 + N`.  Otherwise it times out on a short stream, overflows on
`N > 1000`, or reports the CRC mismatch.  It consumes exactly the packet, or the four header
bytes on an overflow, and reads past those only when the `6 + N` bytes fit its buffers. -/
theorem getHvBinaryData_accepts_packets (stream : List Char) {chunk : Nat → Nat}
    (paced : ∀ k, 0 < chunk k) {addr : Char} (valid : validAddress addr = true) (page : UInt16)
    (out : BinaryOut) :
    let N := littleEndian (stream.getD 1 '\x00') (stream.getD 2 '\x00')
    let crcMatches := (crc16 (stream.take (4 + N))).toNat =
      littleEndian (stream.getD (4 + N) '\x00') (stream.getD (5 + N) '\x00')
    let read := recvBinaryPacket chunk ⟨stream, 0⟩ out
    let copied := min N out.outLen
    getHvBinaryData (fun _ => stream) chunk addr page out = (read.1, read.2.1) ∧
      (read.1 = .ok ↔ 6 + N ≤ stream.length ∧ N ≤ binMaxPayload ∧ crcMatches) ∧
      (read.1 = .ok → read.2.1 = ⟨(stream.getD 3 '\x00').toNat % 256,
        (stream.drop 4).take copied ++ out.payload.drop copied, N, 6 + N⟩) ∧
      (read.1 = .timeout ↔ stream.length < 4 ∨ N ≤ binMaxPayload ∧ stream.length < 6 + N) ∧
      (read.1 = .bufferOverflow ↔ 4 ≤ stream.length ∧ binMaxPayload < N) ∧
      (read.1 = .crcMismatch ↔ 6 + N ≤ stream.length ∧ N ≤ binMaxPayload ∧ ¬crcMatches) ∧
      read.2.2.pending = stream.drop (if read.1 = .bufferOverflow then 4 else 6 + N) ∧
      (4 < stream.length - read.2.2.pending.length → 6 + N ≤ binMaxPayload + binPktOverhead) := by
  obtain ⟨calls, spec⟩ := recvBinaryPacket_paced paced stream 0 out
  refine ⟨getHvBinaryData_eq _ chunk valid page out, ?_⟩
  dsimp only
  rw [spec]
  simp only [binMaxPayload, binPktOverhead]
  generalize littleEndian (stream.getD 1 '\x00') (stream.getD 2 '\x00') = N
  generalize (crc16 (stream.take (4 + N))).toNat = computed
  generalize littleEndian (stream.getD (4 + N) '\x00') (stream.getD (5 + N) '\x00') = received
  by_cases short : stream.length < 4
  · have drained : stream.drop (6 + N) = [] := List.drop_eq_nil_of_le (by omega)
    simp [short, drained]; omega
  by_cases overflow : 1000 < N
  · simp [short, overflow]; omega
  by_cases cut : stream.length < 6 + N
  · have drained : stream.drop (6 + N) = [] := List.drop_eq_nil_of_le (by omega)
    simp [short, overflow, cut, drained]; omega
  by_cases bad : computed = received
  · simp [short, overflow, cut, bad]; omega
  · simp [short, overflow, cut, bad]; omega

set_option maxRecDepth 8000 in
/-- The sensor's packet for the type byte 3 and the payload `ab`, with one more byte behind it
on the stream, read one byte per hook call: accepted, with the byte after it left. -/
theorem getHvBinaryData_accepts_packets_on_sensor_packet :
    (recvBinaryPacket (fun _ => 1) ⟨binaryPacket '0' '\x03' ['a', 'b'] ++ ['Z'], 0⟩ ⟨0, [], 8, 0⟩).1 = .ok ∧
      (recvBinaryPacket (fun _ => 1) ⟨binaryPacket '0' '\x03' ['a', 'b'] ++ ['Z'], 0⟩
        ⟨0, [], 8, 0⟩).2.2.pending = ['Z'] := by
  obtain ⟨-, accepted, -, -, -, -, consumed, -⟩ := @getHvBinaryData_accepts_packets
    (binaryPacket '0' '\x03' ['a', 'b'] ++ ['Z']) (fun _ => 1) (fun _ => Nat.one_pos) '0' (by decide) 0
    ⟨0, [], 8, 0⟩
  have ok := accepted.mpr ⟨by decide, by decide, by decide⟩
  refine ⟨ok, ?_⟩
  rw [consumed, ok]
  decide

end Sdi12.Master
