import Mathlib.Data.Nat.Digits
import Mathlib.Tactic.IntervalCases
import Sdi12.Sensor.Grammar
import Sdi12.PacketReader

namespace Sdi12

/-! # A master and a sensor on one bus

The master's commands go to `sdi12_sensor_process`, and what the sensor's `send_response`
puts on the bus comes back as the line the master receives.  The commands
`sdi12_master_start_measurement` builds are exactly the measurement commands the sensor's
dispatcher hands to `handle_measurement`, with the group and CRC flag the master asked for.
-/

open Sensor Master

/-- The line a sensor answers a command with: what its last `send_response` sent, or
nothing. -/
def Sensor.answer (env : Env) (ctx : Ctx) (cmd : List Char) : List Char :=
  ((process env ctx cmd).calls.filterMap Call.sent).getLastD []

/-- The group a measurement command of each type reads: the one it names for `M` and `C`,
group 0 for the others. -/
def measuredGroup (type : MeasType) (group : Nat) : Nat :=
  match type with
  | .standard | .concurrent => group
  | _ => 0

/-- The CRC flag the sensor sees in a measurement command: `aV!` has no CRC variant. -/
def sentCrc (type : MeasType) (crc : Bool) : Bool :=
  match type with
  | .verification => false
  | _ => crc

theorem digitChar_of_lt {g : Nat} (pos : 0 < g) (small : g < 10) :
    Nat.toDigits 10 g = [Nat.digitChar g] ∧ Nat.digitChar g ≠ 'C' ∧
      ('1' ≤ Nat.digitChar g ∧ Nat.digitChar g ≤ '9') ∧ digitValue (Nat.digitChar g) = g := by
  interval_cases g <;> decide

/-- The group digit and CRC infix the sensor reads back from an `M` or `C` command the
master built. -/
theorem measureArgs_measurementCommand (addr letter : Char) (crc : Bool) {group : Nat}
    (small : group < 10) :
    let body := addr :: letter :: (if crc then ['C'] else []) ++
      (if 0 < group then Nat.toDigits 10 group else [])
    measureArgs (body ++ ['!']) body.length = (group, crc) := by
  intro body
  by_cases pos : 0 < group
  · obtain ⟨digits, notC, range, value⟩ := digitChar_of_lt pos small
    cases crc <;> simp [body, measureArgs, pos, digits, notC, range, value]
  · obtain rfl : group = 0 := by omega
    cases crc <;> simp [body, measureArgs]

/-- `sdi12_sensor_process` hands every command `sdi12_master_start_measurement` builds for
its address to `handle_measurement`, with the group and CRC flag the master asked for. -/
theorem process_measurementCommand (env : Env) (ctx : Ctx) {type : MeasType} {group : Nat}
    {crc : Bool} {cmd : List Char} (small : group < 10)
    (built : measurementCommand ctx.address type group crc = some cmd) :
    process env ctx cmd =
      handleMeasurement env (abortConcurrent { ctx with respLen := 0 } true)
        (measuredGroup type group) (sentCrc type crc) type := by
  have groupDigits : (if 0 < group then Nat.toDigits 10 group else []).length ≤ 1 := by
    by_cases pos : 0 < group
    · simp [pos, (digitChar_of_lt pos small).1]
    · simp [pos]
  cases type with
  | standard | concurrent =>
    simp only [measurementCommand, Option.some.injEq] at built
    subst built
    rw [snprintf_of_length_lt (by cases crc <;> simp <;> omega), process_addressed env ctx
      (by simp) (by rw [commandLength_append_bang]; simp)]
    simp only [dispatch, commandLength_append_bang, measureArgs_measurementCommand _ _ _ small]
    simp [measuredGroup, sentCrc, -List.getD_eq_getElem?_getD]
  | verification =>
    simp only [measurementCommand, Option.some.injEq] at built
    subst built
    rw [process_addressed env ctx (by simp) (by simp [commandLength])]
    simp [dispatch, measuredGroup, sentCrc, commandLength, -List.getD_eq_getElem?_getD]
  | highVolAscii | highVolBinary =>
    simp only [measurementCommand, Option.some.injEq] at built
    subst built
    rw [process_addressed env ctx (by simp) (by cases crc <;> simp [commandLength])]
    cases crc <;> simp [dispatch, measuredGroup, sentCrc, commandLength,
      -List.getD_eq_getElem?_getD]
  | continuous => simp [measurementCommand] at built

/-! ## The empty-group header -/

/-- On a group with no parameters, `handle_measurement` only records the request and
answers the zero-count header. -/
theorem handleMeasurement_empty (env : Env) (ctx : Ctx) {group : Nat} (withCrc : Bool)
    (type : MeasType) (empty : countGroup ctx group = 0) :
    handleMeasurement env ctx group withCrc type =
      reply { ctx with crcRequested := withCrc, pendingMeasType := type, pendingMeasGroup := group }
        (emptyGroupHeader ctx.address type) := by
  simp only [handleMeasurement]
  exact if_pos empty

theorem answer_reply {env : Env} {ctx ctx' : Ctx} {cmd text : List Char}
    (replied : process env ctx cmd = reply ctx' text) (sends : ctx'.cb.sendResponse = true)
    (scratch : ctx'.respLen = 0) :
    answer env ctx cmd = cString (snprintf maxResponseLen text) := by
  simp [answer, replied, reply, sendResponse, sends, responseBytes, scratch, Call.sent]

theorem trimCrlf_append_crlf (body : List Char) {c : Char} (notCr : c ≠ '\r') (notLf : c ≠ '\n') :
    trimCrlf (body ++ [c] ++ crlf) = body ++ [c] := by
  rw [crlf, show body ++ [c] ++ ['\r', '\n'] = body ++ [c] ++ ['\r'] ++ ['\n'] by simp, trimCrlf,
    List.rdropWhile_concat_pos _ _ _ (by simp), List.rdropWhile_concat_pos _ _ _ (by simp),
    List.rdropWhile_concat_neg _ _ _ (by simp [notCr, notLf])]

/-- The master cannot read the header a sensor gives a high-volume measurement of an empty
group: `handle_measurement` writes two count digits where `sdi12_master_parse_meas_response`
wants three. -/
theorem highVolume_empty_group_unparsed (env : Env) (ctx : Ctx) {type : MeasType}
    (highVolume : type = .highVolAscii ∨ type = .highVolBinary) {group : Nat} (small : group < 10)
    (crc : Bool) (resp : MeasResponse) (valid : validAddress ctx.address = true)
    (sends : ctx.cb.sendResponse = true) (empty : countGroup ctx 0 = 0) :
    startMeasurement (answer env ctx) ctx.address type group crc resp =
      (.invalidCommand, ⟨ctx.address, 0, 0⟩) := by
  have noNul : ctx.address ≠ '\x00' ∧ ctx.address ≠ '\r' ∧ ctx.address ≠ '\n' := by
    refine ⟨?_, ?_, ?_⟩ <;> rintro same <;> rw [same] at valid <;> exact absurd valid (by decide)
  obtain ⟨cmd, built, short⟩ : ∃ cmd, measurementCommand ctx.address type group crc = some cmd ∧
      (cString cmd).length ≤ maxCommandLen := by
    rcases highVolume with rfl | rfl <;>
      exact ⟨_, rfl, (length_cString_le _).trans (by cases crc <;> simp)⟩
  have header : emptyGroupHeader ctx.address type =
      ctx.address :: ['0', '0', '0', '0'] ++ ['0'] ++ crlf := by
    rcases highVolume with rfl | rfl <;> rfl
  have zeroGroup : measuredGroup type group = 0 := by rcases highVolume with rfl | rfl <;> rfl
  have replied := (process_measurementCommand env ctx small built).trans
    (handleMeasurement_empty env _ _ type
      (by rw [zeroGroup, countGroup, abortConcurrent_params]; exact empty))
  have answered : answer env ctx cmd = ctx.address :: ['0', '0', '0', '0'] ++ ['0'] ++ crlf := by
    rw [answer_reply replied (by simp [sends]) (by simp), abortConcurrent_address, header,
      snprintf_of_length_lt (by simp [crlf]), cString_of_forall_ne (by simp [crlf, noNul.1, eq_comm])]
  have whole : (answer env ctx cmd).take (respBufSize - 1) = answer env ctx cmd :=
    List.take_of_length_le (by simp [answered, crlf])
  have trimmed : trimCrlf (answer env ctx cmd) = ctx.address :: ['0', '0', '0', '0'] ++ ['0'] := by
    rw [answered, trimCrlf_append_crlf _ (by decide) (by decide)]
  rw [startMeasurement_answered resp valid built short (by rw [whole, trimmed]; simp), whole, trimmed]
  rcases highVolume with rfl | rfl <;>
    simp [parseMeasResponse, parseDigits, isDigit, countWidth, digitValue]

theorem highVolume_empty_group_unparsed_at_sensor_zero :
    startMeasurement (answer quietEnv sensorZero) '0' .highVolAscii 0 false ⟨'0', 0, 0⟩ =
      (.invalidCommand, ⟨'0', 0, 0⟩) :=
  highVolume_empty_group_unparsed quietEnv sensorZero (.inl rfl) (by decide) false ⟨'0', 0, 0⟩
    (by decide) (by decide) (by decide)

/-! ## Identification -/

theorem trimCrlf_append_crlf_of_clean {body : List Char}
    (clean : ∀ c ∈ body, c ≠ '\r' ∧ c ≠ '\n') : trimCrlf (body ++ crlf) = body := by
  rw [crlf, show body ++ ['\r', '\n'] = body ++ ['\r'] ++ ['\n'] by simp, trimCrlf,
    List.rdropWhile_concat_pos _ _ _ (by simp), List.rdropWhile_concat_pos _ _ _ (by simp),
    List.rdropWhile_eq_self_iff]
  intro nonempty
  simp [clean _ (List.getLast_mem nonempty)]

/-- The line `handle_identify` answers with, before its CR LF. -/
def identLine (address : Char) (ident : Ident) : List Char :=
  address :: ['1', '4'] ++ formatField 8 ident.vendor ++ formatField 6 ident.model ++
    formatField 3 ident.firmwareVersion ++ ident.serial

theorem process_identify (env : Env) (ctx : Ctx) :
    process env ctx [ctx.address, 'I', '!'] =
      reply (abortConcurrent { ctx with respLen := 0 } true) (identLine ctx.address ctx.ident ++ crlf) := by
  rw [process_addressed env ctx (by simp) (by simp [commandLength])]
  simp [dispatch, commandLength, handleIdentify, identLine]

/-- A byte that may stand inside a line: no NUL, CR or LF. -/
def InLine (c : Char) : Prop := c ≠ '\x00' ∧ c ≠ '\r' ∧ c ≠ '\n'

instance : DecidablePred InLine := fun _ => inferInstanceAs (Decidable (_ ∧ _ ∧ _))

theorem inLine_of_mem_formatField {width : Nat} {s : List Char} (clean : ∀ c ∈ s, InLine c) :
    ∀ c ∈ formatField width s, InLine c := by
  intro c member
  rcases mem_formatField member with member | rfl
  · exact clean c member
  · decide

theorem identLine_inLine {address : Char} {ident : Ident} (valid : validAddress address = true)
    (clean : ∀ c ∈ ident.vendor ++ ident.model ++ ident.firmwareVersion ++ ident.serial, InLine c) :
    ∀ c ∈ identLine address ident, InLine c := by
  simp only [List.forall_mem_append] at clean
  obtain ⟨⟨⟨vendor, model⟩, firmware⟩, serial⟩ := clean
  simp only [identLine, List.forall_mem_append, List.forall_mem_cons, List.forall_mem_nil, and_true]
  exact ⟨⟨⟨⟨⟨validAddress_ne valid, by decide, by decide⟩, inLine_of_mem_formatField vendor⟩,
    inLine_of_mem_formatField model⟩, inLine_of_mem_formatField firmware⟩, serial⟩

theorem length_identLine (address : Char) (ident : Ident) :
    (identLine address ident).length = 20 + ident.serial.length := by
  simp [identLine]
  omega

/-- A field the master copies from a fixed offset of the line: the `%-w.ws` text the sensor
printed there. -/
theorem cString_formatField_at (pre rest : List Char) (pos width : Nat) {s : List Char}
    (offset : pre.length = pos) (clean : ∀ c ∈ s, InLine c) :
    cString (((pre ++ formatField width s ++ rest).drop pos).take width) = formatField width s := by
  rw [← offset, List.append_assoc, List.drop_left, List.take_left' (length_formatField _ _)]
  exact cString_of_forall_ne fun c member => (inLine_of_mem_formatField clean c member).1

/-- `sdi12_master_identify` on a bus that answers `aI!` with an identification line. -/
theorem identify_identLine {bus : List Char → List Char} {address : Char} {ident : Ident}
    (caller : Ident) (valid : validAddress address = true)
    (clean : ∀ c ∈ ident.vendor ++ ident.model ++ ident.firmwareVersion ++ ident.serial, InLine c)
    (serialFits : ident.serial.length ≤ idSerialMaxLen)
    (answered : bus [address, 'I', '!'] = identLine address ident ++ crlf) :
    identify bus address caller =
      (.ok, ⟨formatField 8 ident.vendor, formatField 6 ident.model,
        formatField 3 ident.firmwareVersion, ident.serial⟩) := by
  have short : ident.serial.length ≤ 13 := serialFits
  have line := identLine_inLine valid clean
  have trimmed : trimCrlf ((bus [address, 'I', '!']).take (respBufSize - 1)) = identLine address ident := by
    rw [answered, List.take_of_length_le (by simp [length_identLine, crlf]; omega),
      trimCrlf_append_crlf_of_clean fun c member => (line c member).2]
  simp only [List.forall_mem_append] at clean
  obtain ⟨⟨⟨vendor, model⟩, firmware⟩, serial⟩ := clean
  have vendor := cString_formatField_at [address, '1', '4'] (formatField 6 ident.model ++
    formatField 3 ident.firmwareVersion ++ ident.serial) 3 8 rfl vendor
  have model := cString_formatField_at ([address, '1', '4'] ++ formatField 8 ident.vendor)
    (formatField 3 ident.firmwareVersion ++ ident.serial) 11 6 (by simp) model
  have firmware := cString_formatField_at ([address, '1', '4'] ++ formatField 8 ident.vendor ++
    formatField 6 ident.model) ident.serial 17 3 (by simp) firmware
  have serialAt : (identLine address ident).drop 20 = ident.serial := List.drop_left' (by simp)
  simp only [identify, valid, snprintf_of_length_lt (show [address, 'I', '!'].length < 8 by simp),
    @transact_answered bus [address, 'I', '!'] ((length_cString_le _).trans (by simp))
      (by rw [trimmed]; simp [identLine]), trimmed, length_identLine, serialAt]
  simp only [List.append_assoc, List.cons_append, List.nil_append] at vendor model firmware
  have copied : (if 20 < 20 + ident.serial.length then
      cString (ident.serial.take (min (20 + ident.serial.length - 20) idSerialMaxLen)) else []) =
      ident.serial := by
    split
    · rw [List.take_of_length_le (by simp; omega), cString_of_forall_ne fun c member => (serial c member).1]
    · exact (List.eq_nil_of_length_eq_zero (by omega)).symm
  simp only [identLine, List.append_assoc, List.cons_append, List.nil_append, vendor, model, firmware,
    copied, Bool.not_true, Bool.false_eq_true, if_false, show ¬20 + ident.serial.length < 20 by omega]

/-- The master reads back what a sensor reports on `aI!`: vendor, model and firmware
version as the sensor's `%-8.8s`, `%-6.6s` and `%-3.3s` print them, and the serial as it
is, for identification strings that are C strings without line ends and a serial that fits
its field. -/
theorem identify_round_trip (env : Env) (ctx : Ctx) (ident : Ident)
    (valid : validAddress ctx.address = true) (sends : ctx.cb.sendResponse = true)
    (clean : ∀ c ∈ ctx.ident.vendor ++ ctx.ident.model ++ ctx.ident.firmwareVersion ++ ctx.ident.serial,
      c ≠ '\x00' ∧ c ≠ '\r' ∧ c ≠ '\n')
    (serialFits : ctx.ident.serial.length ≤ idSerialMaxLen) :
    identify (answer env ctx) ctx.address ident =
      (.ok, ⟨formatField 8 ctx.ident.vendor, formatField 6 ctx.ident.model,
        formatField 3 ctx.ident.firmwareVersion, ctx.ident.serial⟩) := by
  refine identify_identLine ident valid clean serialFits ?_
  have short : ctx.ident.serial.length ≤ 13 := serialFits
  have line := identLine_inLine valid clean
  rw [answer_reply (process_identify env ctx) (by simp [sends]) (by simp),
    snprintf_of_length_lt (by simp [length_identLine, crlf]; omega), cString_of_forall_ne]
  simp only [crlf, List.mem_append, List.mem_cons, List.mem_singleton, List.not_mem_nil, or_false]
  rintro c (member | rfl | rfl)
  · exact (line c member).1
  all_goals decide

/-- Sensor `0` with the identity of the specification's identification scenario. -/
def testcoSensor : Ctx :=
  { sensorZero with ident := ⟨"TESTCO".toList, "MOD001".toList, "100".toList, "SN123".toList⟩ }

theorem identify_round_trip_at_testco :
    identify (answer quietEnv testcoSensor) '0' ⟨[], [], [], []⟩ =
      (.ok, ⟨"TESTCO  ".toList, "MOD001".toList, "100".toList, "SN123".toList⟩) :=
  identify_round_trip quietEnv testcoSensor ⟨[], [], [], []⟩ (by decide) (by decide) (by decide)
    (by decide)

/-! ## High-volume binary data -/

/-- `sdi12_master_get_hv_binary_data` on a bus that answers with a binary packet, split into
chunks in any way: for a payload of at most `SDI12_BIN_MAX_PAYLOAD` bytes it returns the type
byte and the payload length, copies the payload up to the capacity the caller gave, and
records the packet's length. -/
theorem getHvBinaryData_binaryPacket {chunk : Nat → Nat} (paced : ∀ k, 0 < chunk k)
    {address : Char} (valid : validAddress address = true) (page : UInt16) (out : BinaryOut)
    (dataType : Char) {payload : List Char} (fits : payload.length ≤ binMaxPayload) :
    let copied := min payload.length out.outLen
    getHvBinaryData (fun _ => binaryPacket address dataType payload) chunk address page out =
      (.ok, ⟨dataType.toNat % 256, payload.take copied ++ out.payload.drop copied, payload.length,
        6 + payload.length⟩) := by
  intro copied
  obtain ⟨size, length, kind, carried, crcOk⟩ :=
    binaryPacket_fields address dataType (show payload.length < 65536 by simp at fits; omega)
  have copiedPayload : ((binaryPacket address dataType payload).drop 4).take copied = payload.take copied := by
    have := congrArg (List.take copied) carried
    rwa [List.take_take, Nat.min_eq_left (Nat.min_le_left _ _)] at this
  obtain ⟨calls, spec⟩ := recvBinaryPacket_paced paced (binaryPacket address dataType payload) 0 out
  rw [getHvBinaryData_eq _ chunk valid page out, spec]
  simp only [size, length, kind, crcOk, copiedPayload, ne_eq, not_true_eq_false, if_false,
    if_neg (Nat.not_lt.mpr fits), show ¬6 + payload.length < 4 by omega, Nat.lt_irrefl]

/-- A binary page travels intact from a sensor's `aDBn!` answer to the master: whatever the
chunking of the stream, `sdi12_master_get_hv_binary_data` returns the type byte and payload
length of the one packet the sensor sent, copies the payload up to the caller's capacity,
and records the packet's length, for payloads of at most 76 bytes. -/
theorem binary_round_trip (env : Env) (ctx : Ctx) (page : UInt16) (chunk : Nat → Nat)
    (out : BinaryOut) (valid : validAddress ctx.address = true) (sends : ctx.cb.sendResponse = true)
    (paced : ∀ k, 0 < chunk k) (fits : (binaryContent env ctx page.toNat).2.length ≤ 76) :
    let sent := handleSendBinaryData env ctx page.toNat
    let t := (binaryContent env ctx page.toNat).1
    let p := (binaryContent env ctx page.toNat).2
    let copied := min p.length out.outLen
    ∃ packet, responses sent.calls = [packet] ∧ sent.ctx.respLen = packet.length ∧
      getHvBinaryData (fun _ => packet) chunk ctx.address page out =
        (.ok, ⟨t.toNat % 256, p.take copied ++ out.payload.drop copied, p.length, 6 + p.length⟩) :=
  let sent := handleSendBinaryData_packet env ctx page.toNat sends (by omega)
  ⟨_, sent.1, sent.2, getHvBinaryData_binaryPacket paced valid page out _ (by simp; omega)⟩

/-- Hook answers whose binary page is the type byte 3 and two payload bytes. -/
def twoBytePageEnv : Env := { quietEnv with formatBinaryPage := fun _ _ => ['\x03', 'a', 'b'] }

/-- Sensor `0` with a `format_binary_page` hook and data available. -/
def binaryReadySensor : Ctx := { sensorZero with cb := binaryCallbacks, dataAvailable := true }

/-- The packet read one byte per hook call into a buffer of 8 bytes. -/
theorem binary_round_trip_byte_by_byte :
    ∃ packet, responses (handleSendBinaryData twoBytePageEnv binaryReadySensor 0).calls = [packet] ∧
      (handleSendBinaryData twoBytePageEnv binaryReadySensor 0).ctx.respLen = packet.length ∧
      getHvBinaryData (fun _ => packet) (fun _ => 1) '0' 0 ⟨0, [], 8, 0⟩ = (.ok, ⟨3, ['a', 'b'], 2, 8⟩) :=
  binary_round_trip twoBytePageEnv binaryReadySensor 0 (fun _ => 1) ⟨0, [], 8, 0⟩ (by decide) rfl
    (fun _ => Nat.one_pos) (by decide)

/-- `sdi12_sensor_process` takes the `aDBn!` that `sdi12_master_get_hv_binary_data` builds, for
every page the master can name, to `handle_send_binary_data` with that page. -/
theorem process_binaryRequest (env : Env) (ctx : Ctx) (page : UInt16) :
    process env ctx (snprintf 16 (ctx.address :: 'D' :: 'B' :: Nat.toDigits 10 page.toNat ++ ['!'])) =
      handleSendBinaryData env (abortConcurrent { ctx with respLen := 0 } true) page.toNat := by
  have small : page.toNat < 65536 := page.toNat_lt_size
  have digits : (Nat.toDigits 10 page.toNat).length ≤ 5 :=
    Nat.toDigitsCore_length 10 (by decide) _ _ 5 (lt_of_lt_of_le small (by decide)) (by decide)
  rw [snprintf_of_length_lt (by simp; omega),
    process_addressed env ctx (by simp) (by rw [commandLength_append_bang]; simp),
    commandLength_append_bang]
  simp [dispatch, parsePage_toDigits small]

/-- The master reads a binary page from the sensor on its bus: the `aDBn!` it builds for any
page reaches `handle_send_binary_data` through `sdi12_sensor_process`, and the packet the
sensor answers with, split into chunks in any way, gives the master the type byte and the
payload of that page, for payloads of at most 76 bytes. -/
theorem binary_request_round_trip (env : Env) (ctx : Ctx) (page : UInt16) (chunk : Nat → Nat)
    (out : BinaryOut) (valid : validAddress ctx.address = true) (sends : ctx.cb.sendResponse = true)
    (paced : ∀ k, 0 < chunk k)
    (fits : (binaryContent env (abortConcurrent { ctx with respLen := 0 } true) page.toNat).2.length ≤ 76) :
    let content := binaryContent env (abortConcurrent { ctx with respLen := 0 } true) page.toNat
    let copied := min content.2.length out.outLen
    getHvBinaryData (answer env ctx) chunk ctx.address page out =
      (.ok, ⟨content.1.toNat % 256, content.2.take copied ++ out.payload.drop copied,
        content.2.length, 6 + content.2.length⟩) := by
  intro content copied
  have sent := (handleSendBinaryData_packet env (abortConcurrent { ctx with respLen := 0 } true)
    page.toNat (by simp [sends]) (by omega)).1
  have answered : answer env ctx (snprintf 16 (ctx.address :: 'D' :: 'B' :: Nat.toDigits 10 page.toNat ++ ['!'])) =
      binaryPacket ctx.address content.1 content.2 := by
    simp only [responses] at sent
    rw [answer, process_binaryRequest, sent, abortConcurrent_address]
    rfl
  calc getHvBinaryData (answer env ctx) chunk ctx.address page out
      = getHvBinaryData (fun _ => binaryPacket ctx.address content.1 content.2) chunk ctx.address page out := by
        simp only [getHvBinaryData, answered]
    _ = _ := getHvBinaryData_binaryPacket paced valid page out _ (fits.trans (by decide))

/-- The master's `0DB0!` to the binary-ready sensor, read one byte per hook call. -/
theorem binary_request_round_trip_byte_by_byte :
    getHvBinaryData (answer twoBytePageEnv binaryReadySensor) (fun _ => 1) '0' 0 ⟨0, [], 8, 0⟩ =
      (.ok, ⟨3, ['a', 'b'], 2, 8⟩) :=
  binary_request_round_trip twoBytePageEnv binaryReadySensor 0 (fun _ => 1) ⟨0, [], 8, 0⟩ (by decide) rfl
    (fun _ => Nat.one_pos) (by decide)

end Sdi12
