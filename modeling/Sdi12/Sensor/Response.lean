import Sdi12.Sensor.Invariant

namespace Sdi12.Sensor

/-! # What `sdi12_sensor_process` puts on the bus

A successful call answers with exactly one `send_response` and a failed one with none:
every handler that returns `SDI12_OK` ends with one `send_response`, and every error path
returns before it.  Two answers break the framing a response promises, though: a value whose
text is longer than `SDI12_VALUE_MAX_CHARS` puts a NUL into its data page, which cuts the
text response before its CR LF, and a binary payload of 77 bytes or more makes a packet
longer than the response buffer.
-/

/-- The responses a list of hook calls puts on the bus. -/
def responses (calls : List Call) : List (List Char) := calls.filterMap Call.sent

/-- An outcome that answers once when it succeeds and never when it fails. -/
def AnswersOnce (out : Outcome) : Prop :=
  (responses out.calls).length = if out.result = .ok then 1 else 0

@[simp] theorem responses_nil : responses [] = [] := rfl

@[simp] theorem responses_cons (call : Call) (calls : List Call) :
    responses (call :: calls) = call.sent.toList ++ responses calls := by
  cases call <;> rfl

@[simp] theorem responses_append (calls calls' : List Call) :
    responses (calls ++ calls') = responses calls ++ responses calls' :=
  List.filterMap_append ..

@[simp] theorem responses_sendResponse (ctx : Ctx) :
    responses (sendResponse ctx) = if ctx.cb.sendResponse then [responseBytes ctx] else [] := by
  unfold sendResponse
  split <;> rfl

@[simp] theorem responses_readGroupSync (env : Env) (ctx : Ctx) (group : Nat) :
    responses (readGroupSync env ctx group).2 = [] := by
  unfold readGroupSync
  split
  · simp only [responses, List.filterMap_map]
    exact List.filterMap_eq_nil_iff.mpr fun _ _ => rfl
  · rfl

@[simp] theorem readGroupSync_cb (env : Env) (ctx : Ctx) (group : Nat) :
    (readGroupSync env ctx group).1.cb = ctx.cb := by
  rw [readGroupSync_ctx]

@[simp] theorem formatDataPage_cb (env : Env) (ctx : Ctx) (page maxValueChars : Nat) :
    (formatDataPage env ctx page maxValueChars).cb = ctx.cb := rfl

section Installed

variable (env : Env) {ctx : Ctx} (installed : ctx.cb.sendResponse = true)
include installed

theorem reply_answersOnce (text : List Char) : AnswersOnce (reply ctx text) := by
  simp [AnswersOnce, reply, installed]

theorem handleMeasurement_answersOnce (group : Nat) (withCrc : Bool) (type : MeasType) :
    AnswersOnce (handleMeasurement env ctx group withCrc type) := by
  simp only [handleMeasurement]
  split
  · exact reply_answersOnce installed _
  split
  · simp only [measureAsync]
    split_ifs <;> simp [AnswersOnce, installed, Call.sent]
  · simp [AnswersOnce, measureSync, installed]

theorem handleSendBinaryData_answersOnce (page : Nat) :
    AnswersOnce (handleSendBinaryData env ctx page) := by
  simp only [handleSendBinaryData]
  split_ifs <;> simp [AnswersOnce, installed, Call.sent]

theorem handleSendData_answersOnce (page : Nat) : AnswersOnce (handleSendData env ctx page) := by
  simp only [handleSendData]
  split_ifs <;> simp [AnswersOnce, installed, Call.sent]

theorem handleContinuous_answersOnce (index : Nat) (withCrc : Bool) :
    AnswersOnce (handleContinuous env ctx index withCrc) := by
  simp only [handleContinuous]
  split_ifs <;> simp [AnswersOnce, installed]

theorem handleChangeAddress_answersOnce (newAddr : Char) :
    AnswersOnce (handleChangeAddress ctx newAddr) := by
  simp only [handleChangeAddress]
  split
  · simp [AnswersOnce]
  · split <;> simp [AnswersOnce, reply, installed, Call.sent]

theorem handleIdentifyMeasurement_answersOnce (cmd : List Char) (len : Nat) :
    AnswersOnce (handleIdentifyMeasurement ctx cmd len) := by
  simp only [handleIdentifyMeasurement]
  split
  · simp [AnswersOnce]
  split
  · exact reply_answersOnce installed _
  split_ifs <;> simp [AnswersOnce, installed]

theorem handleExtended_answersOnce (cmd : List Char) (len : Nat) :
    AnswersOnce (handleExtended env ctx cmd len) := by
  simp only [handleExtended]
  split
  · exact reply_answersOnce installed _
  split_ifs with succeeded
  · simp [AnswersOnce, installed, Call.sent]
  · simp [AnswersOnce, Call.sent, succeeded]

theorem dispatch_answersOnce (cmd : List Char) (cmdlen : Nat) :
    AnswersOnce (dispatch env ctx cmd cmdlen) := by
  have failed (result : Err) (failed : result ≠ .ok) : AnswersOnce ⟨result, ctx, []⟩ := by
    simp [AnswersOnce, failed]
  simp only [dispatch]
  split
  · split
    · exact reply_answersOnce installed _
    · exact handleIdentifyMeasurement_answersOnce installed cmd cmdlen
  · exact handleMeasurement_answersOnce env installed _ _ _
  · exact handleMeasurement_answersOnce env installed _ _ _
  · split
    · split
      · exact handleSendBinaryData_answersOnce env installed _
      · exact handleSendData_answersOnce env installed _
    · exact failed _ nofun
  · exact handleContinuous_answersOnce env installed _ _
  · exact handleMeasurement_answersOnce env installed _ _ _
  · split
    · exact handleChangeAddress_answersOnce installed _
    · exact failed _ nofun
  · split_ifs
    · exact reply_answersOnce installed _
    · exact handleMeasurement_answersOnce env installed _ _ _
    · exact handleMeasurement_answersOnce env installed _ _ _
    · exact reply_answersOnce installed _
  · exact handleExtended_answersOnce env installed cmd cmdlen
  · exact failed _ nofun

theorem process_answersOnce (cmd : List Char) : AnswersOnce (process env ctx cmd) := by
  have cleared : ({ ctx with respLen := 0 } : Ctx).cb.sendResponse = true := installed
  rcases process_cases env ctx cmd with
    ⟨-, same⟩ | ⟨-, -, same⟩ | ⟨-, -, -, -, same⟩ | ⟨-, -, same⟩ | ⟨-, -, same⟩ <;> rw [same]
  · simp [AnswersOnce]
  · simp [AnswersOnce]
  · simp [AnswersOnce]
  · exact reply_answersOnce (by simpa using cleared) _
  · exact dispatch_answersOnce env (by simpa using cleared) cmd _

end Installed

/-- Every call of `sdi12_sensor_process` on a reachable context calls `send_response` once
when it returns `SDI12_OK` and never when it returns an error. -/
theorem one_response_per_success (env : Env) {ctx : Ctx} (reachable : Reachable ctx)
    (cmd : List Char) :
    (responses (process env ctx cmd).calls).length =
      if (process env ctx cmd).result = .ok then 1 else 0 :=
  process_answersOnce env reachable.invariant.callbacksInstalled.1 cmd

theorem one_response_per_success_at_sensor_zero :
    Reachable sensorZero ∧
      (responses (process quietEnv sensorZero ['0', 'X', '!']).calls).length =
        if (process quietEnv sensorZero ['0', 'X', '!']).result = .ok then 1 else 0 :=
  ⟨sensorZero_reachable, one_response_per_success quietEnv sensorZero_reachable _⟩

/-! ## Text framing -/

/-- What a copied `vbuf` leaves to `strlen` when the value text did not fit it: its first
`SDI12_VALUE_MAX_CHARS` bytes, then the NUL `snprintf` wrote. -/
theorem cString_vbufCopy {text : List Char} (long : valueMaxChars < text.length)
    (noNul : '\x00' ∉ text.take valueMaxChars) (rest : List Char) :
    cString (vbufCopy text ++ rest) = text.take valueMaxChars := by
  have cut : (text.take valueMaxChars ++ ['\x00']).take text.length =
      text.take valueMaxChars ++ ['\x00'] :=
    List.take_of_length_le (by simp only [List.length_append, List.length_take, List.length_singleton]; omega)
  have kept : ∀ c ∈ text.take valueMaxChars, decide (c ≠ '\x00') = true := by
    intro c member
    simpa using ne_of_mem_of_not_mem member noNul
  rw [vbufCopy, cut, cString, List.append_assoc, List.append_assoc,
    List.takeWhile_append_of_pos kept]
  simp

/-- `aD0!` on a single cached value whose text is longer than `SDI12_VALUE_MAX_CHARS` but fits
the page: the NUL that `snprintf` left in `vbuf` is copied into the page, and `send_response`
sends the address and the first nine bytes of the value, without the CR LF. -/
theorem long_value_cuts_data_page (env : Env) (ctx : Ctx) {value : Value}
    (installed : ctx.cb.sendResponse = true) (idle : ctx.state ≠ .measuringC)
    (available : ctx.dataAvailable = true)
    (ascii : ¬(ctx.pendingMeasType = .highVolBinary ∧ ctx.cb.formatBinaryPage = true))
    (noCrc : ctx.crcRequested = false) (single : ctx.dataCache = [value])
    (long : valueMaxChars < (env.formatValue value).length)
    (room : (env.formatValue value).length < maxResponseLen - 7)
    (noNul : '\x00' ∉ ctx.address :: (env.formatValue value).take valueMaxChars) :
    responses (process env ctx [ctx.address, 'D', '0', '!']).calls =
      [ctx.address :: (env.formatValue value).take valueMaxChars] := by
  have bufferSize : maxResponseLen = 82 := rfl
  have address : ctx.address ≠ '\x00' := fun same => noNul (same ▸ List.mem_cons_self _ _)
  have page : pageLoop env.formatValue 0 (maxValueChars ctx.pendingMeasType) [value] 0 [] false =
      (vbufCopy (env.formatValue value), true) := by
    simp only [pageLoop, List.length_nil, Nat.lt_irrefl, decide_False, Bool.and_false,
      Bool.false_eq_true, if_false, if_true, Nat.add_zero, List.nil_append]
    rw [if_neg (by omega), if_neg (by omega)]
  have cleared : ({ ctx with respLen := 0 } : Ctx).state ≠ .measuringC := idle
  rw [@process_addressed env ctx [ctx.address, 'D', '0', '!'] rfl (by simp [commandLength]),
    abortConcurrent_of_ne _ cleared]
  simp only [dispatch, commandLength, List.getD_cons_succ, List.getD_cons_zero, List.length_cons,
    List.length_nil]
  have cut (rest : List Char) : cString (ctx.address :: (vbufCopy (env.formatValue value) ++ rest)) =
      ctx.address :: (env.formatValue value).take valueMaxChars := by
    rw [cString, List.takeWhile_cons_of_pos (by simpa using address), ← cString,
      cString_vbufCopy long fun member => noNul (List.mem_cons_of_mem _ member)]
  simp [handleSendData, available, ascii, formatDataPage, pageContent, single, page, noCrc,
    installed, responseBytes, parsePage, isDigit, digitValue]
  split
  · exact cut crlf
  · simpa using cut []

/-- Hook answers under which every parameter reads 12345678.0 with two decimals
(`0x4B3C614E`), which `format_value` renders as the twelve bytes `+12345678.00`. -/
def longValueEnv : Env :=
  { quietEnv with
    readParam := fun _ => ⟨0x4B3C614E, 2⟩
    formatValue := fun _ => ['+', '1', '2', '3', '4', '5', '6', '7', '8', '.', '0', '0'] }

/-- The sensor at address `0` with one parameter in group 0, after `0M!` under
`longValueEnv`. -/
def longValueSensor : Ctx :=
  run sensorZero [.registerParam 0 (some ['T', 'A']) (some ['C']) 2, .process longValueEnv ['0', 'M', '!']]

/-- After `0M!` reads 12345678.0 with two decimals, `0D0!` is answered `0+12345678` with no
CR LF. -/
theorem long_value_cuts_data_page_at_long_value_sensor :
    Reachable longValueSensor ∧
      responses (process longValueEnv longValueSensor ['0', 'D', '0', '!']).calls =
        [['0', '+', '1', '2', '3', '4', '5', '6', '7', '8']] ∧
      endsWithCrlf ['0', '+', '1', '2', '3', '4', '5', '6', '7', '8'] = false :=
  ⟨reachable_run sensorZero_reachable _,
    @long_value_cuts_data_page longValueEnv longValueSensor ⟨0x4B3C614E, 2⟩ (by decide) (by decide)
      (by decide) (by decide) (by decide) (by decide) (by decide) (by decide) (by decide),
    by decide⟩

/-! ## Binary packets -/

theorem length_binaryPacket (address dataType : Char) (payload : List Char) :
    (binaryPacket address dataType payload).length = payload.length + 6 := by
  simp only [binaryPacket, List.length_append, List.length_cons, List.length_nil]
  omega

/-- The type byte and payload of the packet `handle_send_binary_data` sends: those the
`format_binary_page` hook wrote, or type 0 and nothing for the empty packet. -/
def binaryContent (env : Env) (ctx : Ctx) (page : Nat) : Char × List Char :=
  let bytes := env.formatBinaryPage page ctx.dataCache
  if ctx.dataAvailable && ctx.cb.formatBinaryPage && 0 < bytes.length then
    (bytes.getD 0 '\x00', bytes.drop 1)
  else ('\x00', [])

theorem emptyBinaryPacket_eq (address : Char) :
    emptyBinaryPacket address = binaryPacket address '\x00' [] := rfl

/-- `handle_send_binary_data` sends one packet, of `resp_len` bytes, around the type byte and
payload it was given, when the payload size fits its `uint16_t`. -/
theorem handleSendBinaryData_packet (env : Env) (ctx : Ctx) (page : Nat)
    (installed : ctx.cb.sendResponse = true)
    (fits : (binaryContent env ctx page).2.length < 65536) :
    let packet := binaryPacket ctx.address (binaryContent env ctx page).1 (binaryContent env ctx page).2
    responses (handleSendBinaryData env ctx page).calls = [packet] ∧
      (handleSendBinaryData env ctx page).ctx.respLen = packet.length := by
  intro packet
  simp only [packet, binaryContent, handleSendBinaryData] at fits ⊢
  generalize env.formatBinaryPage page ctx.dataCache = written at fits ⊢
  cases available : ctx.dataAvailable <;> cases hook : ctx.cb.formatBinaryPage
  case true.true =>
    cases written with
    | nil => simp [hook, available, installed, responseBytes, emptyBinaryPacket_eq, Call.sent,
      length_binaryPacket]
    | cons dataType payload =>
      simp only [available, hook, Bool.and_self, List.length_cons, Nat.zero_lt_succ, decide_True,
        Bool.and_true, if_true, List.drop_one, List.tail_cons] at fits
      simp [available, hook, installed, responseBytes, Nat.mod_eq_of_lt fits, length_binaryPacket,
        Call.sent]
      omega
  all_goals simp [hook, available, installed, responseBytes, emptyBinaryPacket_eq, Call.sent,
    length_binaryPacket]

/-- `aDB…!` on available data with a `format_binary_page` hook that writes `n` bytes (the
type byte and `n - 1` payload bytes) within its buffer: `send_response` gets a packet of
`n + 5` bytes, more than the 82 bytes of `resp_buf` once `n` is 78 or more. -/
theorem binary_packet_length (env : Env) (ctx : Ctx) (tail : List Char)
    (installed : ctx.cb.sendResponse = true) (idle : ctx.state ≠ .measuringC)
    (available : ctx.dataAvailable = true) (hook : ctx.cb.formatBinaryPage = true)
    (written : 0 < (env.formatBinaryPage (parsePage tail 0) ctx.dataCache).length)
    (contract : (env.formatBinaryPage (parsePage tail 0) ctx.dataCache).length < maxResponseLen) :
    (responses (process env ctx ((ctx.address :: 'D' :: 'B' :: tail) ++ ['!'])).calls).map
        List.length =
      [(env.formatBinaryPage (parsePage tail 0) ctx.dataCache).length + 5] := by
  have bufferSize : maxResponseLen = 82 := rfl
  have cleared : ({ ctx with respLen := 0 } : Ctx).state ≠ .measuringC := idle
  have long : 2 ≤ commandLength ((ctx.address :: 'D' :: 'B' :: tail) ++ ['!']) := by
    rw [commandLength_append_bang]
    simp
  rw [process_addressed env ctx (by simp) long, abortConcurrent_of_ne _ cleared,
    commandLength_append_bang]
  have pageDigits :
      ((ctx.address :: 'D' :: 'B' :: tail ++ ['!']).take (tail.length + 3)).drop 3 = tail := by
    simp
  generalize bytes : env.formatBinaryPage (parsePage tail 0) ctx.dataCache = page at *
  have size : (page.length - 1) % 65536 = page.length - 1 := Nat.mod_eq_of_lt (by omega)
  simp [dispatch, pageDigits, handleSendBinaryData, available, hook, bytes, installed,
    responseBytes, List.ne_nil_of_length_pos written, size, length_binaryPacket, Call.sent]
  omega

/-- The required callbacks and `format_binary_page`. -/
def binaryCallbacks : Callbacks := ⟨true, true, true, false, false, false, false, false, true⟩

/-- Hook answers whose binary page fills `tmpbuf` after its address byte: a type byte and 80
payload bytes. -/
def fullPageEnv : Env := { quietEnv with formatBinaryPage := fun _ _ => List.replicate 81 '\x01' }

/-- The sensor at address `0` with a binary hook and one parameter in group 0, after
`0HB!`. -/
def binarySensor : Ctx :=
  run { sensorZero with cb := binaryCallbacks }
    [.registerParam 0 (some ['T', 'A']) (some ['C']) 1, .process fullPageEnv ['0', 'H', 'B', '!']]

/-- After `0HB!`, `0DB0!` with a full binary page hands `send_response` 86 bytes. -/
theorem binary_packet_length_at_full_page :
    Reachable binarySensor ∧
      (responses (process fullPageEnv binarySensor (['0', 'D', 'B', '0'] ++ ['!'])).calls).map
        List.length = [86] ∧
      maxResponseLen < 86 :=
  ⟨reachable_run (@Reachable.init '0' ⟨[], [], [], []⟩ binaryCallbacks '0' _ rfl) _,
    binary_packet_length fullPageEnv binarySensor ['0'] (by decide) (by decide) (by decide)
      (by decide) (by decide) (by decide),
    by decide⟩

end Sdi12.Sensor
