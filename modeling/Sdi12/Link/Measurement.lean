import Sdi12.Link.Data
import Sdi12.Sensor.Frame

namespace Sdi12

/-! # The measurement exchange: `aM!`, `aC!`, `aV!`, `aHA!`, `aHB!`

`sdi12_master_start_measurement` sends the command of a measurement type and parses the
header `atttn` the sensor answers: the seconds until the data are ready, in three digits,
and the number of values, in a field whose width the type fixes.  Every branch of
`handle_measurement` (an empty group, the `start_measurement` hook, the synchronous read)
answers a header of the one shape `headerLine`, with the count field as wide as the
master's parse expects, except the high-volume header of an empty group, which is one digit
short.  So the master reads back what the hook asked for, at most 999, and the size of the
group, saturated at what its field holds.

`sdi12_sensor_measurement_done` looks at the state only to decide whether to announce the
data: it stores them in any state.  So a completion that comes after a break, or after an
addressed command has aborted a concurrent measurement, is served by the next `aD0!`.
-/

open Sensor Master

/-- A measurement header: the address, `ttt` in three digits, and the count in the field of
the type, saturated at the largest number that field holds, then CR LF. -/
def headerLine (address : Char) (ttt n : Nat) (type : MeasType) : List Char :=
  address :: formatUnsigned 3 ttt ++ formatUnsigned (countWidth type) (min n (10 ^ countWidth type - 1)) ++ crlf

/-! ## The sensor's header -/

theorem measurementHeader_eq (address : Char) (ttt : Nat) {n : Nat} (small : n ≤ 999) {type : MeasType}
    (measured : type ≠ .continuous) : measurementHeader address ttt n type = headerLine address ttt n type := by
  cases type <;> simp [measurementHeader, headerLine, countWidth, Nat.min_eq_left small] at measured ⊢

theorem emptyGroupHeader_eq (address : Char) {type : MeasType}
    (counted : type = .standard ∨ type = .concurrent ∨ type = .verification) :
    emptyGroupHeader address type = headerLine address 0 0 type := by
  rcases counted with rfl | rfl | rfl <;> rfl

/-- The fields of a header whose `ttt` fits three digits. -/
theorem headerLine_fields {ttt : Nat} (wait : ttt ≤ 999) (n : Nat) (type : MeasType) :
    ((formatUnsigned 3 ttt).length = 3 ∧ (∀ c ∈ formatUnsigned 3 ttt, isDigit c = true) ∧
        decimalValue (formatUnsigned 3 ttt) = ttt) ∧
      ((formatUnsigned (countWidth type) (min n (10 ^ countWidth type - 1))).length = countWidth type ∧
        (∀ c ∈ formatUnsigned (countWidth type) (min n (10 ^ countWidth type - 1)), isDigit c = true) ∧
        decimalValue (formatUnsigned (countWidth type) (min n (10 ^ countWidth type - 1))) =
          min n (10 ^ countWidth type - 1)) := by
  have wide : 0 < countWidth type := by cases type <;> decide
  exact ⟨formatUnsigned_fits (by omega) (by decide),
    formatUnsigned_fits (lt_of_le_of_lt (Nat.min_le_right _ _) (Nat.sub_lt (Nat.pos_pow_of_pos _ (by decide)) one_pos))
      wide⟩

/-- A header before its CR LF holds no NUL, CR or LF, and the whole header is at most nine
bytes. -/
theorem headerLine_clean {address : Char} (valid : validAddress address = true) {ttt : Nat} (wait : ttt ≤ 999)
    (n : Nat) (type : MeasType) :
    (∀ c ∈ address :: formatUnsigned 3 ttt ++ formatUnsigned (countWidth type) (min n (10 ^ countWidth type - 1)),
      c ≠ '\x00' ∧ c ≠ '\r' ∧ c ≠ '\n') ∧ (headerLine address ttt n type).length ≤ 9 := by
  obtain ⟨⟨tttLength, tttDigits, -⟩, countLength, countDigits, -⟩ := headerLine_fields wait n type
  have digit {c : Char} (isIt : isDigit c = true) : c ≠ '\x00' ∧ c ≠ '\r' ∧ c ≠ '\n' :=
    ⟨ne_of_isDigit isIt rfl, ne_of_isDigit isIt rfl, ne_of_isDigit isIt rfl⟩
  refine ⟨fun c member => ?_, ?_⟩
  · simp only [List.cons_append, List.mem_cons, List.mem_append] at member
    rcases member with rfl | inTtt | inCount
    · exact validAddress_ne valid
    · exact digit (tttDigits c inTtt)
    · exact digit (countDigits c inCount)
  · have narrow : countWidth type ≤ 3 := by cases type <;> decide
    simp only [headerLine, List.cons_append, List.length_cons, List.length_append, tttLength, countLength,
      crlf, List.length_nil]
    omega

theorem cString_headerLine {address : Char} (valid : validAddress address = true) {ttt : Nat} (wait : ttt ≤ 999)
    (n : Nat) (type : MeasType) :
    cString (snprintf maxResponseLen (headerLine address ttt n type)) = headerLine address ttt n type := by
  obtain ⟨clean, short⟩ := headerLine_clean valid wait n type
  rw [snprintf_of_length_lt (by simp only [maxResponseLen]; omega)]
  refine cString_of_forall_ne fun c member => ?_
  rcases List.mem_append.mp member with inText | inCrlf
  · exact (clean c inText).1
  · simp only [crlf, List.mem_cons, List.mem_singleton, List.not_mem_nil, or_false] at inCrlf
    rcases inCrlf with rfl | rfl <;> decide

/-- The line the hooked branch of `handle_measurement` sends: its header, whether the hook
asks for no time (and the group is read at once) or for some. -/
theorem measureAsync_sent (env : Env) (ctx : Ctx) (group n : Nat) {type : MeasType} (measured : type ≠ .continuous)
    (installed : ctx.cb.sendResponse = true) (cleared : ctx.respLen = 0) :
    ((measureAsync env ctx group n type).calls.filterMap Call.sent).getLastD [] =
      cString (snprintf maxResponseLen
        (measurementHeader ctx.address (min (env.startMeasurement group type).toNat 999) n type)) := by
  simp only [measureAsync, measured, if_false, ← List.cons_append]
  split
  · rw [lastSent_sendResponse (by simpa using installed) (by simpa [readGroupSync_ctx] using cleared) _
      (by simp [readGroupSync, Call.sent]; split <;> simp [Call.sent]), readGroupSync_ctx]
  · refine lastSent_sendResponse ?_ ?_ _ ?_ <;> simp [Call.sent, installed, cleared]

/-- The line the synchronous branch of `handle_measurement` sends: its header with `ttt = 0`. -/
theorem measureSync_sent (env : Env) (ctx : Ctx) (group n : Nat) (type : MeasType)
    (installed : ctx.cb.sendResponse = true) (cleared : ctx.respLen = 0) :
    ((measureSync env ctx group n type).calls.filterMap Call.sent).getLastD [] =
      cString (snprintf maxResponseLen (measurementHeader ctx.address 0 n type)) :=
  lastSent_sendResponse (by simpa using installed) (by simpa [readGroupSync_ctx] using cleared) _
    (by simp [readGroupSync, Call.sent]; split <;> simp [Call.sent])

/-- What a reachable sensor answers a measurement command the master builds for its
address: the header of the group's size and of the time the hook asks for, 0 without a hook
or parameters; for every type, but the high-volume types on an empty group. -/
theorem answer_measurementCommand (env : Env) {ctx : Ctx} (reachable : Reachable ctx) {type : MeasType}
    {group : Nat} (small : group < 10) {crc : Bool} {cmd : List Char}
    (built : measurementCommand ctx.address type group crc = some cmd)
    (readable : countGroup ctx (measuredGroup type group) = 0 →
      type = .standard ∨ type = .concurrent ∨ type = .verification) :
    answer env ctx cmd =
      headerLine ctx.address
        (if countGroup ctx (measuredGroup type group) ≠ 0 ∧ ctx.cb.startMeasurement = true then
          min (env.startMeasurement (measuredGroup type group) type).toNat 999 else 0)
        (countGroup ctx (measuredGroup type group)) type := by
  have inv := reachable.invariant
  have measured : type ≠ .continuous := by
    rintro rfl
    simp [measurementCommand] at built
  have few : countGroup ctx (measuredGroup type group) ≤ 999 :=
    (List.countP_le_length _).trans (inv.paramsBound.trans (by decide))
  have counted : countGroup { abortConcurrent { ctx with respLen := 0 } true with
      crcRequested := sentCrc type crc, pendingMeasType := type, pendingMeasGroup := measuredGroup type group }
      (measuredGroup type group) = countGroup ctx (measuredGroup type group) := by
    simp [countGroup]
  have installed := inv.callbacksInstalled.1
  rw [answer, process_measurementCommand env ctx small built, handleMeasurement]
  dsimp only
  rw [counted]
  by_cases empty : countGroup ctx (measuredGroup type group) = 0
  · rw [if_pos empty, if_neg (by simp [empty]), empty]
    simp only [reply, abortConcurrent_address]
    rw [← List.nil_append (sendResponse _), lastSent_sendResponse (by simpa using installed) (by simp) [] (by simp),
      emptyGroupHeader_eq _ (readable empty), cString_headerLine inv.validAddress (by decide)]
  · rw [if_neg empty]
    split
    · rename_i hooked
      rw [measureAsync_sent env _ _ _ measured (by simpa using installed) (by simp), abortConcurrent_address,
        measurementHeader_eq _ _ few measured, if_pos ⟨empty, by simpa using hooked⟩,
        cString_headerLine inv.validAddress (Nat.min_le_right _ _)]
    · rename_i plain
      have unhooked : ctx.cb.startMeasurement ≠ true := by simpa using plain
      rw [measureSync_sent env _ _ _ _ (by simpa using installed) (by simp), abortConcurrent_address,
        measurementHeader_eq _ _ few measured, if_neg fun both => unhooked both.2,
        cString_headerLine inv.validAddress (by decide)]

/-! ## The master's parse -/

theorem cString_measurementCommand {addr : Char} {type : MeasType} {group : Nat} {crc : Bool} {cmd : List Char}
    (built : measurementCommand addr type group crc = some cmd) : (cString cmd).length ≤ maxCommandLen := by
  cases type <;> simp only [measurementCommand, Option.some.injEq, reduceCtorEq] at built <;> subst built
  · exact cString_snprintf_short _ _ (by decide)
  · exact cString_snprintf_short _ _ (by decide)
  all_goals exact (length_cString_le _).trans (by cases crc <;> simp)

/-- `sdi12_master_start_measurement` on a header line: the address, `ttt` and the count as
the header wrote them. -/
theorem startMeasurement_headerLine {bus : List Char → List Char} {addr : Char} (valid : validAddress addr = true)
    {type : MeasType} {group : Nat} {crc : Bool} {cmd : List Char} (resp : MeasResponse)
    (built : measurementCommand addr type group crc = some cmd) {address : Char}
    (addressValid : validAddress address = true) {ttt n : Nat} (wait : ttt ≤ 999)
    (answered : bus cmd = headerLine address ttt n type) :
    startMeasurement bus addr type group crc resp = (.ok, ⟨address, ttt, min n (10 ^ countWidth type - 1)⟩) := by
  obtain ⟨clean, short⟩ := headerLine_clean addressValid wait n type
  obtain ⟨⟨tttLength, tttDigits, tttValue⟩, countLength, countDigits, countValue⟩ := headerLine_fields wait n type
  have trimmed : trimCrlf (headerLine address ttt n type) =
      address :: formatUnsigned 3 ttt ++ formatUnsigned (countWidth type) (min n (10 ^ countWidth type - 1)) :=
    trimCrlf_append_crlf_of_clean fun c member => (clean c member).2
  have received := transact_line (cString_measurementCommand built) answered
    (by simp only [respBufSize, maxResponseLen]; omega) (by rw [trimmed]; simp)
  have fitsCount : min n (10 ^ countWidth type - 1) < 65536 :=
    lt_of_le_of_lt (Nat.min_le_right _ _) (by cases type <;> decide)
  simp only [startMeasurement, valid, built, received, trimmed, Bool.not_true, Bool.false_eq_true, if_false]
  rw [parseMeasResponse_header address type tttLength countLength
    (List.forall_mem_append.mpr ⟨tttDigits, countDigits⟩), tttValue, countValue,
    Nat.mod_eq_of_lt (by omega), Nat.mod_eq_of_lt fitsCount]

/-! ## The exchange -/

/-- **The measurement exchange.**  For a reachable sensor and a command
`sdi12_master_start_measurement` builds for its address (a type other than continuous, a
group digit), the master reads back `SDI12_OK`, the sensor's address, the time the
`start_measurement` hook asked for (at most 999 seconds; 0 without a hook or when the
group is empty) and the size of the measured group, saturated at what the count field of
the type holds; for every type but the high-volume ones on an empty group. -/
theorem measurement_exchange (env : Env) {ctx : Ctx} (reachable : Reachable ctx) {type : MeasType}
    (measured : type ≠ .continuous) {group : Nat} (small : group < 10) (crc : Bool) (resp : MeasResponse)
    (readable : countGroup ctx (measuredGroup type group) = 0 →
      type = .standard ∨ type = .concurrent ∨ type = .verification) :
    startMeasurement (answer env ctx) ctx.address type group crc resp =
      (.ok, ⟨ctx.address,
        if countGroup ctx (measuredGroup type group) ≠ 0 ∧ ctx.cb.startMeasurement = true then
          min (env.startMeasurement (measuredGroup type group) type).toNat 999 else 0,
        min (countGroup ctx (measuredGroup type group)) (10 ^ countWidth type - 1)⟩) := by
  have valid := reachable.invariant.validAddress
  obtain ⟨cmd, built⟩ : ∃ cmd, measurementCommand ctx.address type group crc = some cmd := by
    cases type <;> simp [measurementCommand] at measured ⊢
  refine startMeasurement_headerLine valid resp built valid ?_
    (answer_measurementCommand env reachable small built readable)
  split
  · exact Nat.min_le_right _ _
  · exact Nat.zero_le _

set_option maxRecDepth 8000 in
/-- `0C!` to the sensor of one parameter whose hook asks for five seconds reads back `ttt`
5 and one value. -/
theorem measurement_exchange_at_measuring_sensor :
    startMeasurement (answer timedEnv measuringSensor) '0' .concurrent 0 false ⟨'0', 0, 0⟩ =
      (.ok, ⟨'0', 5, 1⟩) :=
  (measurement_exchange timedEnv measuringSensor_reachable (by decide) (by decide) false ⟨'0', 0, 0⟩
    fun empty => absurd empty (by decide)).trans (by decide)

/-! ## A timed measurement, read back -/

/-- A measurement command of a non-empty group to a sensor whose hook asks for time leaves it
measuring at its address, with the command's CRC flag and type pending. -/
theorem process_timedMeasurement (env : Env) (ctx : Ctx) {type : MeasType}
    (timed : type = .standard ∨ type = .concurrent) {group : Nat} (small : group < 10) {crc : Bool}
    {cmd : List Char} (built : measurementCommand ctx.address type group crc = some cmd)
    (counted : countGroup ctx group ≠ 0) (hooked : ctx.cb.startMeasurement = true)
    (wait : 0 < (env.startMeasurement group type).toNat) :
    let started := (process env ctx cmd).ctx
    (started.state = .measuring ∨ started.state = .measuringC) ∧ started.crcRequested = crc ∧
      started.pendingMeasType = type ∧ started.address = ctx.address := by
  rw [process_measurementCommand env ctx small built]
  rcases timed with rfl | rfl <;>
    simp [handleMeasurement, measuredGroup, sentCrc, countGroup, measureAsync, startedState, wait,
      Nat.pos_iff_ne_zero.mp wait, show ctx.params.countP (ParamReg.inGroup group) ≠ 0 from counted, hooked]

/-- A completion in `MEASURING` or `MEASURING_C` stores the values, at most
`SDI12_MAX_PARAMS` of them, and leaves the data ready with the measurement's CRC flag and
type. -/
theorem measurementDone_measuring (ctx : Ctx) (values : List Value)
    (measuring : ctx.state = .measuring ∨ ctx.state = .measuringC) :
    let done := (measurementDone ctx values).ctx
    done.dataCache = values.take maxParams ∧ done.dataAvailable = true ∧ done.state = .dataReady ∧
      done.crcRequested = ctx.crcRequested ∧ done.pendingMeasType = ctx.pendingMeasType ∧
      done.address = ctx.address := by
  rcases measuring with now | now <;> simp [measurementDone, now]

/-- After a measurement command of a non-empty group to a reachable sensor whose hook asks
for time, and the application's completion with values whose texts are tokens that fit
page 0, the sensor answers `aD0!` with its address and the texts, with the command's CRC
flag. -/
theorem answer_firstPage_after_completion (env : Env) {ctx : Ctx} (reachable : Reachable ctx) {type : MeasType}
    (timed : type = .standard ∨ type = .concurrent) {group : Nat} (small : group < 10) (crc : Bool)
    {cmd : List Char} (built : measurementCommand ctx.address type group crc = some cmd)
    (counted : countGroup ctx group ≠ 0) (hooked : ctx.cb.startMeasurement = true)
    (wait : 0 < (env.startMeasurement group type).toNat) (values : List Value) (few : values.length ≤ maxParams)
    (formatted : ∀ v ∈ values, ∃ token : Token, env.formatValue v = token.text)
    (budget : ((values.map env.formatValue).flatten).length ≤ maxValueChars type)
    (room : ((values.map env.formatValue).flatten).length < maxResponseLen - 7) :
    answer env (measurementDone (process env ctx cmd).ctx values).ctx [ctx.address, 'D', '0', '!'] =
      crcLine crc (ctx.address :: (values.map env.formatValue).flatten) := by
  obtain ⟨measuring, crcKept, typeKept, addressKept⟩ :=
    process_timedMeasurement env ctx timed small built counted hooked wait
  obtain ⟨cache, available, ready, crcDone, typeDone, addressDone⟩ :=
    measurementDone_measuring (process env ctx cmd).ctx values measuring
  have done : Reachable (measurementDone (process env ctx cmd).ctx values).ctx :=
    (reachable.step (.process env cmd)).step (.measurementDone values)
  rw [List.take_of_length_le few] at cache
  have ascii : type ≠ .highVolBinary := by rcases timed with rfl | rfl <;> decide
  have sent := answer_firstPageRequest env done available (by rw [ready]; decide)
    (by rw [typeDone, typeKept]; exact fun both => ascii both.1) (by rw [cache]; exact formatted)
    (by rw [cache, typeDone, typeKept]; exact budget) (by rw [cache]; exact room)
  rwa [cache, crcDone, crcKept, addressDone, addressKept] at sent

/-- A sensor at address `0` with a `start_measurement` hook and one parameter in group 0,
idle. -/
def timedSensor : Ctx :=
  run { sensorZero with cb := timedCallbacks } [.registerParam 0 (some ['T', 'A']) (some ['C']) 1]

theorem timedSensor_reachable : Reachable timedSensor :=
  reachable_run (@Reachable.init '0' ⟨[], [], [], []⟩ timedCallbacks '0' _ rfl) _

/-! ## Late completions -/

end Sdi12
