import Sdi12.Sensor.Engine

namespace Sdi12.Sensor

/-! # What a command leaves alone

The measurement state of a context (the state machine, the pending request and its CRC
flag, the data cache) is written only by the handlers of measurement commands, by
`handle_continuous`, by the `_nnn` branch of `handle_identify_measurement` (its CRC flag),
and by the abort of a concurrent measurement.  A failed command writes only the response
buffer, except through that abort, which `sdi12_sensor_process` performs before it knows
whether the command is valid.
-/

/-- The state machine, the pending request and the data cache of a context. -/
structure Measurement where
  state : State
  pendingMeasType : MeasType
  pendingMeasGroup : Nat
  crcRequested : Bool
  dataAvailable : Bool
  dataCache : List Value
deriving DecidableEq, Repr

def Ctx.measurement (ctx : Ctx) : Measurement :=
  ⟨ctx.state, ctx.pendingMeasType, ctx.pendingMeasGroup, ctx.crcRequested, ctx.dataAvailable,
    ctx.dataCache⟩

/-- The commands the dispatcher hands to `handle_measurement` or `handle_continuous`:
`aM…`, `aC…`, `aV…`, `aR…`, `aHA…` and `aHB…`. -/
def startsMeasurement (cmd : List Char) (cmdlen : Nat) : Bool :=
  let byte (i : Nat) := cmd.getD i '\x00'
  2 ≤ cmdlen && (byte 1 = 'M' || byte 1 = 'C' || byte 1 = 'V' || byte 1 = 'R' ||
    (byte 1 = 'H' && 3 ≤ cmdlen && (byte 2 = 'A' || byte 2 = 'B')))

/-- The parameter-metadata requests `aI…_nnn`. -/
def requestsParamMetadata (cmd : List Char) (cmdlen : Nat) : Bool :=
  cmd.getD 1 '\x00' = 'I' && 3 ≤ cmdlen && (findUnderscore cmd cmdlen).isSome

variable {env : Env} {ctx : Ctx}

theorem Measurement.eq_with_crc {before after : Measurement} (same : after = before) :
    after = { before with crcRequested := after.crcRequested } := by
  subst same
  rfl

theorem handleSendBinaryData_measurement (env : Env) (ctx : Ctx) (page : Nat) :
    (handleSendBinaryData env ctx page).ctx.measurement = ctx.measurement := by
  simp only [handleSendBinaryData]
  split_ifs <;> rfl

theorem handleSendData_measurement (env : Env) (ctx : Ctx) (page : Nat) :
    (handleSendData env ctx page).ctx.measurement = ctx.measurement := by
  simp only [handleSendData]
  split_ifs <;> rfl

theorem handleChangeAddress_measurement (ctx : Ctx) (newAddr : Char) :
    (handleChangeAddress ctx newAddr).ctx.measurement = ctx.measurement := by
  simp only [handleChangeAddress]
  split <;> rfl

theorem handleExtended_measurement (env : Env) (ctx : Ctx) (cmd : List Char) (len : Nat) :
    (handleExtended env ctx cmd len).ctx.measurement = ctx.measurement := by
  simp only [handleExtended]
  split
  · rfl
  · split <;> rfl

theorem handleIdentifyMeasurement_measurement (ctx : Ctx) (cmd : List Char) (len : Nat) :
    (handleIdentifyMeasurement ctx cmd len).ctx.measurement =
      { ctx.measurement with crcRequested := (handleIdentifyMeasurement ctx cmd len).ctx.crcRequested } := by
  simp only [handleIdentifyMeasurement]
  split
  · rfl
  split
  · rfl
  · split <;> rfl

theorem handleIdentifyMeasurement_crcRequested (ctx : Ctx) (cmd : List Char) {len : Nat}
    (summary : findUnderscore cmd len = none) :
    (handleIdentifyMeasurement ctx cmd len).ctx.crcRequested = ctx.crcRequested := by
  simp only [handleIdentifyMeasurement, summary]
  split <;> rfl

theorem dispatch_identify (env : Env) (ctx : Ctx) {cmd : List Char} (cmdlen : Nat)
    (letter : cmd.getD 1 '\x00' = 'I') :
    dispatch env ctx cmd cmdlen =
      if cmdlen = 2 then handleIdentify ctx else handleIdentifyMeasurement ctx cmd cmdlen := by
  simp only [dispatch, letter]

/-- Outside the measurement commands and the identification commands `aI…`, the dispatcher
leaves the measurement state alone. -/
theorem dispatch_measurement (env : Env) (ctx : Ctx) (cmd : List Char) {cmdlen : Nat}
    (long : 2 ≤ cmdlen) (other : startsMeasurement cmd cmdlen = false)
    (notIdentify : cmd.getD 1 '\x00' ≠ 'I') :
    (dispatch env ctx cmd cmdlen).ctx.measurement = ctx.measurement := by
  simp only [dispatch]
  split <;> rename_i letter
  · exact absurd letter notIdentify
  · simp [startsMeasurement, letter, long, -List.getD_eq_getElem?_getD] at other
  · simp [startsMeasurement, letter, long, -List.getD_eq_getElem?_getD] at other
  · split
    · split
      · exact handleSendBinaryData_measurement env ctx _
      · exact handleSendData_measurement env ctx _
    · rfl
  · simp [startsMeasurement, letter, long, -List.getD_eq_getElem?_getD] at other
  · simp [startsMeasurement, letter, long, -List.getD_eq_getElem?_getD] at other
  · split
    · exact handleChangeAddress_measurement ctx _
    · rfl
  · split_ifs with short binaryA binaryB
    · rfl
    · simp [startsMeasurement, letter, binaryA, -List.getD_eq_getElem?_getD] at other
      omega
    · simp [startsMeasurement, letter, binaryB, -List.getD_eq_getElem?_getD] at other
      omega
    · rfl
  · exact handleExtended_measurement env ctx cmd cmdlen
  · rfl

/-- A command that starts no measurement leaves the measurement state of a context that is
not in `MEASURING_C` alone, but for the CRC flag, which only a metadata request `aI…_nnn`
can move. -/
theorem process_keeps_measurement (env : Env) (ctx : Ctx) (cmd : List Char)
    (notConcurrent : ctx.state ≠ .measuringC)
    (other : startsMeasurement cmd (commandLength cmd) = false) :
    (process env ctx cmd).ctx.measurement =
        { ctx.measurement with crcRequested := (process env ctx cmd).ctx.crcRequested } ∧
      (requestsParamMetadata cmd (commandLength cmd) = false →
        (process env ctx cmd).ctx.crcRequested = ctx.crcRequested) := by
  have idle : ({ ctx with respLen := 0 } : Ctx).state ≠ .measuringC := notConcurrent
  rcases process_cases env ctx cmd with
    ⟨-, same⟩ | ⟨-, -, same⟩ | ⟨-, -, -, -, same⟩ | ⟨-, -, same⟩ | ⟨long, -, same⟩
  · exact same ▸ ⟨rfl, fun _ => rfl⟩
  · exact same ▸ ⟨rfl, fun _ => rfl⟩
  · exact same ▸ ⟨rfl, fun _ => rfl⟩
  · rw [same, abortConcurrent_of_ne _ idle]
    exact ⟨rfl, fun _ => rfl⟩
  rw [same, abortConcurrent_of_ne _ idle]
  by_cases letter : cmd.getD 1 '\x00' = 'I'
  · rw [dispatch_identify env _ _ letter]
    split
    · exact ⟨rfl, fun _ => rfl⟩
    · refine ⟨handleIdentifyMeasurement_measurement _ cmd _, fun noMetadata => ?_⟩
      apply handleIdentifyMeasurement_crcRequested
      simpa [requestsParamMetadata, letter, -List.getD_eq_getElem?_getD,
        show 3 ≤ commandLength cmd by omega] using noMetadata
  · have keep := dispatch_measurement env { ctx with respLen := 0 } cmd long other letter
    exact ⟨Measurement.eq_with_crc keep, fun _ => congrArg Measurement.crcRequested keep⟩

theorem process_keeps_measurement_on_send_data :
    sensorZero.state ≠ .measuringC ∧
      startsMeasurement ['0', 'D', '0', '!'] (commandLength ['0', 'D', '0', '!']) = false ∧
      ((process quietEnv sensorZero ['0', 'D', '0', '!']).ctx.measurement =
          { sensorZero.measurement with
            crcRequested := (process quietEnv sensorZero ['0', 'D', '0', '!']).ctx.crcRequested } ∧
        (requestsParamMetadata ['0', 'D', '0', '!'] (commandLength ['0', 'D', '0', '!']) = false →
          (process quietEnv sensorZero ['0', 'D', '0', '!']).ctx.crcRequested =
            sensorZero.crcRequested)) :=
  ⟨by decide, by decide, process_keeps_measurement quietEnv sensorZero _ (by decide) (by decide)⟩

/-- `aR0!` is no measurement command, yet it moves the pending measurement type of a fresh
sensor to `Continuous`. -/
theorem continuous_read_moves_pending_type :
    Reachable sensorZero ∧ sensorZero.state ≠ .measuringC ∧
      (process quietEnv sensorZero ['0', 'R', '0', '!']).ctx.pendingMeasType ≠
        sensorZero.pendingMeasType :=
  ⟨sensorZero_reachable, by decide, by decide⟩

/-! ## Failed commands -/

theorem handleMeasurement_result (env : Env) (ctx : Ctx) (group : Nat) (withCrc : Bool)
    (type : MeasType) : (handleMeasurement env ctx group withCrc type).result = .ok := by
  simp only [handleMeasurement]
  split_ifs <;> rfl

theorem handleSendBinaryData_result (env : Env) (ctx : Ctx) (page : Nat) :
    (handleSendBinaryData env ctx page).result = .ok := by
  simp only [handleSendBinaryData]
  split_ifs <;> rfl

theorem handleSendData_result (env : Env) (ctx : Ctx) (page : Nat) :
    (handleSendData env ctx page).result = .ok := by
  simp only [handleSendData]
  split_ifs <;> rfl

theorem handleContinuous_result (env : Env) (ctx : Ctx) (index : Nat) (withCrc : Bool) :
    (handleContinuous env ctx index withCrc).result = .ok := by
  simp only [handleContinuous]
  split <;> rfl

/-- A command the dispatcher fails writes nothing but the response buffer. -/
theorem dispatch_failed (env : Env) (ctx : Ctx) (cmd : List Char) (cmdlen : Nat)
    (failed : (dispatch env ctx cmd cmdlen).result ≠ .ok) :
    (dispatch env ctx cmd cmdlen).ctx =
      { ctx with respBuf := (dispatch env ctx cmd cmdlen).ctx.respBuf } := by
  revert failed
  simp only [dispatch]
  split
  · split
    · exact fun failed => absurd rfl failed
    · simp only [handleIdentifyMeasurement]
      split
      · exact fun _ => rfl
      split
      · exact fun failed => absurd rfl failed
      · split <;> exact fun failed => absurd rfl failed
  · exact fun failed => absurd (handleMeasurement_result ..) failed
  · exact fun failed => absurd (handleMeasurement_result ..) failed
  · split
    · split
      · exact fun failed => absurd (handleSendBinaryData_result ..) failed
      · exact fun failed => absurd (handleSendData_result ..) failed
    · exact fun _ => rfl
  · exact fun failed => absurd (handleContinuous_result ..) failed
  · exact fun failed => absurd (handleMeasurement_result ..) failed
  · split
    · simp only [handleChangeAddress]
      split
      · exact fun _ => rfl
      · exact fun failed => absurd rfl failed
    · exact fun _ => rfl
  · split_ifs
    · exact fun failed => absurd rfl failed
    · exact fun failed => absurd (handleMeasurement_result ..) failed
    · exact fun failed => absurd (handleMeasurement_result ..) failed
    · exact fun failed => absurd rfl failed
  · simp only [handleExtended]
    split
    · exact fun failed => absurd rfl failed
    · split
      · exact fun failed => absurd rfl failed
      · exact fun _ => rfl
  · exact fun _ => rfl

/-- Outside `MEASURING_C`, a command `sdi12_sensor_process` fails writes nothing but the
scratch response buffer and length. -/
theorem failed_command_frame (env : Env) (ctx : Ctx) (cmd : List Char)
    (notConcurrent : ctx.state ≠ .measuringC) (failed : (process env ctx cmd).result ≠ .ok) :
    (process env ctx cmd).ctx = { ctx with respBuf := (process env ctx cmd).ctx.respBuf,
                                           respLen := (process env ctx cmd).ctx.respLen } := by
  have idle : ({ ctx with respLen := 0 } : Ctx).state ≠ .measuringC := notConcurrent
  rcases process_cases env ctx cmd with
    ⟨-, same⟩ | ⟨-, -, same⟩ | ⟨-, -, -, -, same⟩ | ⟨-, -, same⟩ | ⟨-, -, same⟩ <;>
    rw [same] at failed ⊢
  · exact absurd rfl failed
  · rw [abortConcurrent_of_ne _ idle] at failed ⊢
    rw [dispatch_failed env _ cmd _ failed]

theorem failed_command_frame_at_sensor_zero :
    (process quietEnv sensorZero ['0', 'Z', '!']).ctx =
      { sensorZero with respBuf := (process quietEnv sensorZero ['0', 'Z', '!']).ctx.respBuf,
                        respLen := (process quietEnv sensorZero ['0', 'Z', '!']).ctx.respLen } :=
  failed_command_frame quietEnv sensorZero _ (by decide) (by decide)

/-- In `MEASURING_C`, a command addressed to the sensor aborts the measurement even when
`sdi12_sensor_process` then fails it: the state falls back to `READY` and the cache is
dropped. -/
theorem failed_command_aborts_concurrent (env : Env) (ctx : Ctx) (cmd : List Char)
    (concurrent : ctx.state = .measuringC) (addressed : cmd.getD 0 '\x00' = ctx.address)
    (nonempty : commandLength cmd ≠ 0) (failed : (process env ctx cmd).result ≠ .ok) :
    (process env ctx cmd).ctx =
      { ctx with state := .ready, dataAvailable := false, dataCache := [],
                 respBuf := (process env ctx cmd).ctx.respBuf, respLen := 0 } := by
  rcases process_cases env ctx cmd with
    ⟨rfl, -⟩ | ⟨-, zero, -⟩ | ⟨-, -, other, -⟩ | ⟨-, -, same⟩ | ⟨-, -, same⟩
  · exact absurd rfl nonempty
  · exact absurd zero nonempty
  · exact absurd addressed other
  · exact absurd (by rw [same]; rfl) failed
  · rw [same] at failed ⊢
    rw [dispatch_failed env _ cmd _ failed]
    simp [abortConcurrent, clearMeasurement, concurrent]

theorem failed_command_aborts_concurrent_sensor :
    concurrentSensor.state = .measuringC ∧
      (process quietEnv concurrentSensor ['0', 'Z', '!']).result = .invalidCommand ∧
      (process quietEnv concurrentSensor ['0', 'Z', '!']).ctx =
        { concurrentSensor with state := .ready, dataAvailable := false, dataCache := [],
                                respBuf := (process quietEnv concurrentSensor ['0', 'Z', '!']).ctx.respBuf,
                                respLen := 0 } :=
  ⟨by decide, by decide,
    failed_command_aborts_concurrent quietEnv concurrentSensor _ (by decide) (by decide) (by decide)
      (by decide)⟩

end Sdi12.Sensor
