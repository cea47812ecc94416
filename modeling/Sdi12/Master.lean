import Sdi12.Crc

namespace Sdi12.Master

/-! # The data recorder (`sdi12_master.c`)

Command building and response parsing of the master.  The bus is a function from the
command sent to the line that comes back: `sdi12_master_transact` sends the command, and
`recv` hands back that line, cut to the receive buffer.  A parsed value's `float` comes
from the C library's `strtod`, which the model takes as a parameter `strtof` (the bit
pattern of `(float)strtod(vbuf, NULL)`).
-/

/-- `sizeof ctx->resp_buf`: `SDI12_RESP_MAX_CHARS + 4`. -/
@[simp] def respBufSize : Nat := maxResponseLen + 4

/-- `SDI12_MAX_VALUES`, the room in `sdi12_data_response_t.values`. -/
@[simp] def maxValues : Nat := 99

/-- `sdi12_meas_response_t`.  Its `type` field is left out: no function modelled writes
it. -/
structure MeasResponse where
  address : Char
  waitSeconds : Nat
  valueCount : Nat
deriving DecidableEq, Repr

/-- `sdi12_data_response_t`, with the `value_count` values the parser wrote. -/
structure DataResponse where
  address : Char
  values : List Value
  crcValid : Bool
deriving DecidableEq, Repr

/-- `trim_crlf`: the line without its trailing CR and LF bytes. -/
def trimCrlf (buf : List Char) : List Char := buf.rdropWhile fun c => c = '\r' || c = '\n'

/-- `parse_digits(s, max, &out)` from a running `out`: the number of leading digits read,
at most `max`, and their value.  The callers read at most three digits, so the `uint32_t`
accumulator never wraps. -/
def parseDigits : List Char → Nat → Nat → Nat × Nat
  | c :: rest, max + 1, out =>
    if isDigit c then
      let tail := parseDigits rest max (out * 10 + digitValue c)
      (tail.1 + 1, tail.2)
    else (0, out)
  | _, _, out => (0, out)

/-- The width of the count field `sdi12_master_parse_meas_response` reads after a command
of each type. -/
def countWidth : MeasType → Nat
  | .standard | .verification => 1
  | .concurrent | .continuous => 2
  | .highVolAscii | .highVolBinary => 3

/-- `sdi12_master_parse_meas_response(resp_str, len, type, resp)`, with `respStr` the bytes
from `resp_str` on (none past the list's end is a digit): the result code and what it left
in `*resp`, which it clears first.  Only `len < 5` is checked against `len`; `parse_digits`
reads up to its field width. -/
def parseMeasResponse (respStr : List Char) (len : Nat) (type : MeasType) : Err × MeasResponse :=
  let cleared : MeasResponse := ⟨'\x00', 0, 0⟩
  if len < 5 then (.invalidCommand, cleared)
  else
    let resp := { cleared with address := respStr.getD 0 '\x00' }
    let ttt := parseDigits (respStr.drop 1) 3 0
    if ttt.1 ≠ 3 then (.invalidCommand, resp)
    else
      let resp := { resp with waitSeconds := ttt.2 % 65536 }
      let count := parseDigits (respStr.drop 4) (countWidth type) 0
      if count.1 ≠ countWidth type then (.invalidCommand, resp)
      else (.ok, { resp with valueCount := count.2 % 65536 })

/-- The command `sdi12_master_start_measurement` formats into its 16-byte buffer, or `none`
for the type it refuses.  `group` is the `uint8_t` argument. -/
def measurementCommand (addr : Char) (type : MeasType) (group : Nat) (crc : Bool) :
    Option (List Char) :=
  let crcInfix := if crc then ['C'] else []
  let groupDigits := if 0 < group then Nat.toDigits 10 group else []
  match type with
  | .standard => some (snprintf 16 (addr :: 'M' :: crcInfix ++ groupDigits ++ ['!']))
  | .concurrent => some (snprintf 16 (addr :: 'C' :: crcInfix ++ groupDigits ++ ['!']))
  | .verification => some [addr, 'V', '!']
  | .highVolAscii => some (addr :: 'H' :: 'A' :: crcInfix ++ ['!'])
  | .highVolBinary => some (addr :: 'H' :: 'B' :: crcInfix ++ ['!'])
  | .continuous => none

/-- `sdi12_master_transact`: `send_command` refuses a command longer than
`SDI12_CMD_MAX_CHARS`; `recv_response` keeps at most `sizeof resp_buf - 1` bytes of the
line the bus answers and times out on none. -/
def transact (bus : List Char → List Char) (cmd : List Char) : Except Err (List Char) :=
  if maxCommandLen < (cString cmd).length then .error .invalidCommand
  else
    let line := (bus cmd).take (respBufSize - 1)
    if line = [] then .error .timeout else .ok line

/-- `sdi12_master_start_measurement`, given the caller's `*resp`. -/
def startMeasurement (bus : List Char → List Char) (addr : Char) (type : MeasType) (group : Nat)
    (crc : Bool) (resp : MeasResponse) : Err × MeasResponse :=
  if !validAddress addr then (.invalidAddress, resp)
  else match measurementCommand addr type group crc with
  | none => (.invalidCommand, resp)
  | some cmd =>
    match transact bus cmd with
    | .error err => (err, resp)
    | .ok line => parseMeasResponse (trimCrlf line) (trimCrlf line).length type

/-- The value `sdi12_master_parse_data_values` stores for a token (a sign, then digits and
points): `strtod` of its first `SDI12_VALUE_MAX_CHARS` bytes, and the number of those after
the first point. -/
def tokenValue (strtof : List Char → UInt32) (token : List Char) : Value :=
  let vbuf := token.take valueMaxChars
  let decimals := match vbuf.findIdx? (· = '.') with
    | some dot => vbuf.length - dot - 1
    | none => 0
  ⟨strtof vbuf, UInt8.ofNat decimals⟩

/-- A byte that continues a value: a digit or a decimal point. -/
def isValueByte (c : Char) : Bool := isDigit c || c = '.'

/-- The loop of `sdi12_master_parse_data_values` over the data bytes, with room for `room`
more values: a byte that is no sign (a space among them) is stepped over, and a sign
followed by at least one digit or point is a value. -/
def parseValues (strtof : List Char → UInt32) (room : Nat) : List Char → List Value
  | [] => []
  | c :: rest =>
    if room = 0 then []
    else if c ≠ '+' ∧ c ≠ '-' then parseValues strtof room rest
    else if rest.takeWhile isValueByte = [] then parseValues strtof room rest
    else tokenValue strtof (c :: rest.takeWhile isValueByte) ::
      parseValues strtof (room - 1) (rest.dropWhile isValueByte)
termination_by data => data.length
decreasing_by
  all_goals simp_wf
  all_goals first
    | omega
    | exact Nat.lt_succ_of_le ((List.dropWhile_suffix _).length_le)

/-- `sdi12_master_parse_data_values` on the bytes after the address.  With `verify_crc` it
drops the last three, the CRC, and checks nothing. -/
def parseDataValues (strtof : List Char → UInt32) (data : List Char) (maxValues : Nat)
    (verifyCrc : Bool) : Err × List Value :=
  let dataLen := if verifyCrc ∧ 3 ≤ data.length then data.length - 3 else data.length
  (.ok, parseValues strtof maxValues (data.take dataLen))

/-- What `sdi12_master_get_data` and `sdi12_master_continuous` do once their command is
built: transact, trim, and parse what follows the address.  `crc_valid` is never written. -/
def requestData (strtof : List Char → UInt32) (bus : List Char → List Char) (cmd : List Char)
    (crc : Bool) (resp : DataResponse) : Err × DataResponse :=
  match transact bus cmd with
  | .error err => (err, resp)
  | .ok line =>
    match trimCrlf line with
    | [] => (.invalidCommand, resp)
    | address :: data =>
      let parsed := parseDataValues strtof data maxValues crc
      (parsed.1, { resp with address, values := parsed.2 })

/-- `sdi12_master_get_data`: `"%cD%u!"` into an 8-byte buffer. -/
def getData (strtof : List Char → UInt32) (bus : List Char → List Char) (addr : Char)
    (page : Nat) (crc : Bool) (resp : DataResponse) : Err × DataResponse :=
  if !validAddress addr then (.invalidAddress, resp)
  else requestData strtof bus (snprintf 8 (addr :: 'D' :: Nat.toDigits 10 page ++ ['!'])) crc resp

/-- `sdi12_master_continuous`: `"%cRC%u!"` or `"%cR%u!"` into an 8-byte buffer. -/
def continuous (strtof : List Char → UInt32) (bus : List Char → List Char) (addr : Char)
    (index : Nat) (crc : Bool) (resp : DataResponse) : Err × DataResponse :=
  if !validAddress addr then (.invalidAddress, resp)
  else requestData strtof bus
    (snprintf 8 (addr :: 'R' :: (if crc then ['C'] else []) ++ Nat.toDigits 10 index ++ ['!']))
    crc resp

/-- `sdi12_master_identify`, given the caller's `*ident`.  The fields sit at fixed offsets of
the trimmed line (address, two version digits, vendor 8, model 6, firmware 3) and the serial
is what follows, cut to its field; each holds the C string of the bytes copied. -/
def identify (bus : List Char → List Char) (addr : Char) (ident : Ident) : Err × Ident :=
  if !validAddress addr then (.invalidAddress, ident)
  else match transact bus (snprintf 8 [addr, 'I', '!']) with
  | .error err => (err, ident)
  | .ok line =>
    let resp := trimCrlf line
    let field (pos width : Nat) := cString ((resp.drop pos).take width)
    if resp.length < 20 then (.invalidCommand, ident)
    else (.ok, ⟨field 3 8, field 11 6, field 17 3,
      if 20 < resp.length then field 20 (min (resp.length - 20) idSerialMaxLen) else []⟩)

/-- The receive side of the bus as the recv hook sees it: the bytes sent and not read yet, and
the number of hook calls made so far. -/
structure Rx where
  pending : List Char
  calls : Nat
deriving DecidableEq, Repr

/-- `recv_exact(ctx, buf, count, timeout)`: the recv hook is called for the bytes still
missing until `count` have come.  Its `k`-th call hands over at most `chunk k` of the
pending bytes (how the driver splits the stream); a call that hands over none is
`SDI12_ERR_TIMEOUT`.  Besides the bytes or the error, the receive side after the last call. -/
def recvExact (chunk : Nat → Nat) (count : Nat) (rx : Rx) : Except Err (List Char) × Rx :=
  if _ : count = 0 then (.ok [], rx)
  else
    let n := min (chunk rx.calls) (min count rx.pending.length)
    if _ : n = 0 then (.error .timeout, { rx with calls := rx.calls + 1 })
    else
      let rest := recvExact chunk (count - n) ⟨rx.pending.drop n, rx.calls + 1⟩
      (rest.1.map (rx.pending.take n ++ ·), rest.2)
termination_by count
decreasing_by omega

/-- A little-endian 16-bit field: `(uint8_t)lo | ((uint16_t)(uint8_t)hi << 8)`. -/
def littleEndian (lo hi : Char) : Nat := lo.toNat % 256 ||| (hi.toNat % 256) <<< 8

/-- What `sdi12_master_get_hv_binary_data` writes: `*out_type`, the caller's `out_payload`
buffer, `*out_len` (on entry the buffer's capacity) and the context's `resp_len`. -/
structure BinaryOut where
  outType : Nat
  payload : List Char
  outLen : Nat
  respLen : Nat
deriving DecidableEq, Repr

/-- The reads of `sdi12_master_get_hv_binary_data` once `aDBn!` is sent: the header
(address and little-endian size), the type byte, and the payload with its little-endian CRC,
each with `recv_exact`.  The result code, what it left in the outputs, and the receive side
after its last read. -/
def recvBinaryPacket (chunk : Nat → Nat) (rx : Rx) (out : BinaryOut) : Err × BinaryOut × Rx :=
  match recvExact chunk 3 rx with
  | (.error err, rx) => (err, out, rx)
  | (.ok hdr, rx) =>
    let pktSize := littleEndian (hdr.getD 1 '\x00') (hdr.getD 2 '\x00')
    match recvExact chunk 1 rx with
    | (.error err, rx) => (err, out, rx)
    | (.ok typeByte, rx) =>
      let out := { out with outType := (typeByte.getD 0 '\x00').toNat % 256 }
      if binMaxPayload < pktSize then (.bufferOverflow, out, rx)
      else match recvExact chunk (pktSize + 2) rx with
      | (.error err, rx) => (err, out, rx)
      | (.ok tail, rx) =>
        let crc := crc16 (hdr ++ typeByte ++ tail.take pktSize)
        if crc.toNat ≠ littleEndian (tail.getD pktSize '\x00') (tail.getD (pktSize + 1) '\x00') then
          (.crcMismatch, out, rx)
        else
          let copyLen := min pktSize out.outLen
          (.ok, { out with payload := tail.take copyLen ++ out.payload.drop copyLen,
                           outLen := pktSize, respLen := 3 + 1 + (pktSize + 2) }, rx)

/-- `sdi12_master_get_hv_binary_data`: send `aDBn!`, then read the packet from the bytes the
bus answers. -/
def getHvBinaryData (bus : List Char → List Char) (chunk : Nat → Nat) (addr : Char)
    (page : UInt16) (out : BinaryOut) : Err × BinaryOut :=
  if !validAddress addr then (.invalidAddress, out)
  else
    let cmd := snprintf 16 (addr :: 'D' :: 'B' :: Nat.toDigits 10 page.toNat ++ ['!'])
    if maxCommandLen < (cString cmd).length then (.invalidCommand, out)
    else
      let read := recvBinaryPacket chunk ⟨bus cmd, 0⟩ out
      (read.1, read.2.1)

/-! ## What the data requests accept -/

theorem length_snprintf_le (size : Nat) (text : List Char) :
    (snprintf size text).length ≤ size - 1 :=
  List.length_take_le _ _

theorem length_cString_le (buf : List Char) : (cString buf).length ≤ buf.length :=
  (List.takeWhile_prefix _).length_le

@[simp] theorem trimCrlf_nil : trimCrlf [] = [] := rfl

theorem transact_answered {bus : List Char → List Char} {cmd : List Char}
    (short : (cString cmd).length ≤ maxCommandLen)
    (answered : trimCrlf ((bus cmd).take (respBufSize - 1)) ≠ []) :
    transact bus cmd = .ok ((bus cmd).take (respBufSize - 1)) := by
  have heard : (bus cmd).take (respBufSize - 1) ≠ [] := fun silent => answered (by rw [silent]; rfl)
  simp only [transact, if_neg (Nat.not_lt.mpr short), if_neg heard]

/-- Once the bus answers the command with anything but line ends,
`sdi12_master_start_measurement` parses the trimmed line. -/
theorem startMeasurement_answered {bus : List Char → List Char} {addr : Char} {type : MeasType}
    {group : Nat} {crc : Bool} {cmd : List Char} (resp : MeasResponse)
    (valid : validAddress addr = true) (built : measurementCommand addr type group crc = some cmd)
    (short : (cString cmd).length ≤ maxCommandLen)
    (answered : trimCrlf ((bus cmd).take (respBufSize - 1)) ≠ []) :
    startMeasurement bus addr type group crc resp =
      parseMeasResponse (trimCrlf ((bus cmd).take (respBufSize - 1)))
        (trimCrlf ((bus cmd).take (respBufSize - 1))).length type := by
  simp only [startMeasurement, valid, built, transact_answered short answered, Bool.not_true,
    Bool.false_eq_true, if_false]

/-- Once the bus answers a short command with anything but line ends, the shared part of the
data requests succeeds and leaves `crc_valid` alone. -/
theorem requestData_answered (strtof : List Char → UInt32) {bus : List Char → List Char}
    {cmd : List Char} (crc : Bool) (resp : DataResponse)
    (short : (cString cmd).length ≤ maxCommandLen)
    (answered : trimCrlf ((bus cmd).take (respBufSize - 1)) ≠ []) :
    (requestData strtof bus cmd crc resp).1 = .ok ∧
      (requestData strtof bus cmd crc resp).2.crcValid = resp.crcValid := by
  obtain ⟨address, data, trimmed⟩ := List.exists_cons_of_ne_nil answered
  simp [requestData, transact_answered short answered, trimmed, parseDataValues, -respBufSize]

theorem cString_snprintf_short (size : Nat) (text : List Char) (fits : size ≤ maxCommandLen + 1) :
    (cString (snprintf size text)).length ≤ maxCommandLen :=
  (length_cString_le _).trans ((length_snprintf_le size text).trans (by omega))

/-- `sdi12_master_get_data` and `sdi12_master_continuous` return `SDI12_OK` on every answer
that holds more than line ends, whatever its CRC characters, and never set `crc_valid`. -/
theorem crc_never_verified (strtof : List Char → UInt32) (bus : List Char → List Char)
    (addr : Char) (page index : Nat) (crc : Bool) (resp : DataResponse)
    (valid : validAddress addr = true)
    (answered : ∀ cmd, trimCrlf ((bus cmd).take (respBufSize - 1)) ≠ []) :
    (getData strtof bus addr page crc resp).1 = .ok ∧
      (getData strtof bus addr page crc resp).2.crcValid = resp.crcValid ∧
      (continuous strtof bus addr index crc resp).1 = .ok ∧
      (continuous strtof bus addr index crc resp).2.crcValid = resp.crcValid := by
  simp only [getData, continuous, valid, Bool.not_true, Bool.false_eq_true, if_false]
  exact and_assoc.mp
    ⟨requestData_answered strtof crc resp (cString_snprintf_short 8 _ (by decide)) (answered _),
      requestData_answered strtof crc resp (cString_snprintf_short 8 _ (by decide)) (answered _)⟩

/-- A data line from sensor `0` whose CRC characters are not those of its data. -/
def corruptLine : List Char := ['0', '+', '1', '@', '@', '@', '\r', '\n']

set_option maxRecDepth 8000 in
theorem crc_never_verified_on_corrupt_line :
    crcVerify corruptLine corruptLine.length = false ∧
      (getData (fun _ => 0) (fun _ => corruptLine) '0' 0 true ⟨'0', [], false⟩).1 = .ok ∧
      (getData (fun _ => 0) (fun _ => corruptLine) '0' 0 true ⟨'0', [], false⟩).2.crcValid =
        false ∧
      (continuous (fun _ => 0) (fun _ => corruptLine) '0' 0 true ⟨'0', [], false⟩).1 = .ok ∧
      (continuous (fun _ => 0) (fun _ => corruptLine) '0' 0 true ⟨'0', [], false⟩).2.crcValid =
        false :=
  ⟨by decide, crc_never_verified (fun _ => 0) (fun _ => corruptLine) '0' 0 0 true ⟨'0', [], false⟩
    (by decide) fun _ => by simp [trimCrlf, corruptLine, List.rdropWhile]⟩

/-! ## The measurement header -/

/-- `parse_digits` reads no byte past its field. -/
theorem parseDigits_take (l : List Char) {max k : Nat} (within : max ≤ k) (out : Nat) :
    parseDigits (l.take k) max out = parseDigits l max out := by
  induction l generalizing max k out with
  | nil => simp
  | cons c rest ih =>
    match max, k, within with
    | 0, k, _ => cases k <;> rfl
    | max + 1, k + 1, within =>
      simp only [List.take_succ_cons, parseDigits, ih (Nat.le_of_succ_le_succ within)]

/-- `parse_digits` reads its whole field exactly when all of the field's bytes are digits
(past the end of the string it meets the NUL). -/
theorem parseDigits_fst_eq_iff (l : List Char) (max out : Nat) :
    (parseDigits l max out).1 = max ↔ ∀ i < max, isDigit (l.getD i '\x00') = true := by
  induction l generalizing max out with
  | nil =>
    cases max with
    | zero => simp [parseDigits]
    | succ max =>
      simp only [parseDigits, List.getD_nil, Nat.forall_lt_succ_left, Nat.zero_ne_add_one, false_iff]
      exact fun ⟨nul, _⟩ => absurd nul (by decide)
  | cons c rest ih =>
    cases max with
    | zero => simp [parseDigits]
    | succ max =>
      rw [Nat.forall_lt_succ_left]
      by_cases digit : isDigit c
      · simp [parseDigits, digit, ih]
      · simp [parseDigits, digit]

theorem getD_drop (l : List Char) (n i : Nat) : (l.drop n).getD i '\x00' = l.getD (n + i) '\x00' := by
  simp only [List.getD_eq_getElem?_getD, List.getElem?_drop]

theorem getD_take_of_lt (l : List Char) {n i : Nat} (inside : i < n) :
    (l.take n).getD i '\x00' = l.getD i '\x00' := by
  simp only [List.getD_eq_getElem?_getD, List.getElem?_take, inside, if_true]

/-- `sdi12_master_parse_meas_response` reads the first `4 + w` bytes of the buffer, with `w`
the width of the count field, and looks at `len` only to refuse `len < 5`: it accepts
exactly when `len ≥ 5` and the `ttt` and count fields are digits, wherever `len` ends. -/
theorem parseMeasResponse_fields (respStr : List Char) (len : Nat) (type : MeasType) :
    parseMeasResponse respStr len type = parseMeasResponse (respStr.take (4 + countWidth type)) len type ∧
      (5 ≤ len → parseMeasResponse respStr len type = parseMeasResponse respStr 5 type) ∧
      ((parseMeasResponse respStr len type).1 = .ok ↔ 5 ≤ len ∧
        (∀ i < 3, isDigit (respStr.getD (1 + i) '\x00') = true) ∧
          ∀ i < countWidth type, isDigit (respStr.getD (4 + i) '\x00') = true) := by
  refine ⟨?_, fun long => ?_, ?_⟩
  · have field (k w : Nat) (inside : k + w ≤ 4 + countWidth type) :
        parseDigits ((respStr.take (4 + countWidth type)).drop k) w 0 = parseDigits (respStr.drop k) w 0 := by
      rw [List.drop_take]
      exact parseDigits_take _ (by omega) 0
    simp only [parseMeasResponse, getD_take_of_lt _ (show 0 < 4 + countWidth type by omega),
      field 1 3 (by omega), field 4 (countWidth type) (by omega)]
  · simp only [parseMeasResponse, if_neg (Nat.not_lt.mpr long), show ¬5 < 5 from Nat.lt_irrefl 5, if_false]
  · have field (k w : Nat) : (parseDigits (respStr.drop k) w 0).1 = w ↔
        ∀ i < w, isDigit (respStr.getD (k + i) '\x00') = true := by
      simp only [parseDigits_fst_eq_iff, getD_drop]
    rw [← field 1 3, ← field 4]
    clear field
    simp only [parseMeasResponse]
    split_ifs <;> simp_all

/-- Two buffers that agree on their first five bytes, read with `len = 5` after a concurrent
measurement: the byte after `len` decides, and the one accepted has a count of two digits
where `len` leaves room for one. -/
theorem parseMeasResponse_past_len :
    ['0', '0', '0', '0', '1', '2'].take 5 = ['0', '0', '0', '0', '1', 'x'].take 5 ∧
      (parseMeasResponse ['0', '0', '0', '0', '1', '2'] 5 .concurrent).1 = .ok ∧
      (parseMeasResponse ['0', '0', '0', '0', '1', 'x'] 5 .concurrent).1 = .invalidCommand :=
  ⟨rfl, (parseMeasResponse_fields _ 5 .concurrent).2.2.mpr ⟨Nat.le_refl 5, by decide, by decide⟩, rfl⟩

/-! ## Reading a binary packet -/

/-- Whatever the chunking, when every call of the hook hands over at least one pending byte,
`recv_exact` reads the next `count` bytes of the stream if that many were sent, and otherwise
times out having drained it. -/
theorem recvExact_paced {chunk : Nat → Nat} (paced : ∀ k, 0 < chunk k) (count : Nat) (rx : Rx) :
    ∃ calls, recvExact chunk count rx =
      if count ≤ rx.pending.length then (.ok (rx.pending.take count), ⟨rx.pending.drop count, calls⟩)
      else (.error .timeout, ⟨[], calls⟩) := by
  induction count using Nat.strong_induction_on generalizing rx with
  | _ count ih =>
    rw [recvExact]
    by_cases missing : count = 0
    · exact ⟨rx.calls, by simp [missing]⟩
    have called := paced rx.calls
    by_cases none : min (chunk rx.calls) (min count rx.pending.length) = 0
    · have drained : rx.pending = [] := List.eq_nil_of_length_eq_zero (by omega)
      exact ⟨rx.calls + 1, by simp [missing, none, drained, Nat.pos_iff_ne_zero.mpr missing]⟩
    set n := min (chunk rx.calls) (min count rx.pending.length)
    obtain ⟨calls, rest⟩ := ih (count - n) (by omega) ⟨rx.pending.drop n, rx.calls + 1⟩
    refine ⟨calls, ?_⟩
    simp only [dif_neg missing, dif_neg none, rest, List.length_drop]
    by_cases enough : count ≤ rx.pending.length
    · simp only [show count - n ≤ rx.pending.length - n by omega, enough, if_true, Except.map,
        List.drop_drop, ← List.take_add, Nat.add_sub_cancel' (show n ≤ count by omega)]
    · simp only [show ¬count - n ≤ rx.pending.length - n by omega, enough, if_false, Except.map]

/-- Two bytes written as the low and high byte of a 16-bit number read back as it. -/
theorem littleEndian_eq (lo hi : Char) : littleEndian lo hi = lo.toNat % 256 + hi.toNat % 256 * 256 := by
  rw [littleEndian, Nat.or_comm, Nat.shiftLeft_eq, Nat.mul_comm,
    ← Nat.mul_add_lt_is_or (show lo.toNat % 256 < 2 ^ 8 from Nat.mod_lt _ (by decide))]
  omega

theorem littleEndian_bytes {n : Nat} (small : n < 65536) :
    littleEndian (Char.ofNat (n % 256)) (Char.ofNat (n / 256 % 256)) = n := by
  rw [littleEndian_eq, toNat_charOfNat (by omega), toNat_charOfNat (by omega)]
  omega

/-- The CRC bytes of a packet, `(char)(crc & 0xFF)` and `(char)((crc >> 8) & 0xFF)`, read
back as the CRC. -/
theorem littleEndian_crcBytes (crc : UInt16) :
    littleEndian (Char.ofNat (crc &&& 0xFF).toNat) (Char.ofNat ((crc >>> 8) &&& 0xFF).toNat) =
      crc.toNat := by
  have low : (crc &&& 0xFF).toNat = crc.toNat % 256 := by
    rw [UInt16.and_toNat]
    exact Nat.and_pow_two_sub_one_eq_mod _ 8
  have high : ((crc >>> 8) &&& 0xFF).toNat = crc.toNat / 256 % 256 := by
    rw [UInt16.and_toNat, show (8 : UInt16) = UInt16.ofNat 8 from rfl, toNat_shiftRight crc (by decide),
      Nat.shiftRight_eq_div_pow]
    exact Nat.and_pow_two_sub_one_eq_mod _ 8
  rw [low, high]
  exact littleEndian_bytes crc.toNat_lt_size

end Sdi12.Master
