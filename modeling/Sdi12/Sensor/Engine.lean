import Sdi12.Sensor.Handlers

namespace Sdi12.Sensor

/-! # The sensor engine's public operations

`sdi12_sensor_process` and its dispatch, the initialisation and registration functions,
`sdi12_sensor_measurement_done` and `sdi12_sensor_break`.  A run of the engine is a
sequence of `Event`s, one per call into it; `Reachable` collects the contexts a successful
initialisation and any run lead to.
-/

/-- The group digit and CRC infix of `aM…!` and `aC…!`: a `C` after the command letter
asks for a CRC, and a digit 1–9 after that names the group. -/
def measureArgs (cmd : List Char) (cmdlen : Nat) : Nat × Bool :=
  let byte (i : Nat) := cmd.getD i '\x00'
  let crc := decide (2 < cmdlen) && byte 2 = 'C'
  let digitPos := if crc then 3 else 2
  let group :=
    if digitPos < cmdlen ∧ '1' ≤ byte digitPos ∧ byte digitPos ≤ '9' then digitValue (byte digitPos)
    else 0
  (group, crc)

/-- The index and CRC infix of `aR…!`: as `measureArgs`, with any digit 0–9. -/
def continuousArgs (cmd : List Char) (cmdlen : Nat) : Nat × Bool :=
  let byte (i : Nat) := cmd.getD i '\x00'
  let crc := decide (2 < cmdlen) && byte 2 = 'C'
  let digitPos := if crc then 3 else 2
  let index := if digitPos < cmdlen ∧ isDigit (byte digitPos) then digitValue (byte digitPos) else 0
  (index, crc)

/-- The loop reading a page number: decimal digits up to the first non-digit, accumulated in
a `uint16_t`. -/
def parsePage : List Char → Nat → Nat
  | [], page => page
  | c :: rest, page => if isDigit c then parsePage rest ((page * 10 + digitValue c) % 65536) else page

/-- The `switch (cmd[1])` of `sdi12_sensor_process`. -/
def dispatch (env : Env) (ctx : Ctx) (cmd : List Char) (cmdlen : Nat) : Outcome :=
  let byte (i : Nat) := cmd.getD i '\x00'
  match byte 1 with
  | 'I' => if cmdlen = 2 then handleIdentify ctx else handleIdentifyMeasurement ctx cmd cmdlen
  | 'M' => handleMeasurement env ctx (measureArgs cmd cmdlen).1 (measureArgs cmd cmdlen).2 .standard
  | 'C' => handleMeasurement env ctx (measureArgs cmd cmdlen).1 (measureArgs cmd cmdlen).2 .concurrent
  | 'D' =>
    if 3 ≤ cmdlen then
      if byte 2 = 'B' then handleSendBinaryData env ctx (parsePage ((cmd.take cmdlen).drop 3) 0)
      else handleSendData env ctx (min (parsePage ((cmd.take cmdlen).drop 2) 0) 255)
    else ⟨.invalidCommand, ctx, []⟩
  | 'R' => handleContinuous env ctx (continuousArgs cmd cmdlen).1 (continuousArgs cmd cmdlen).2
  | 'V' => handleMeasurement env ctx 0 false .verification
  | 'A' =>
    if 3 ≤ cmdlen ∧ isPrint (byte 2) then handleChangeAddress ctx (byte 2)
    else ⟨.invalidAddress, ctx, []⟩
  | 'H' =>
    if cmdlen = 2 then handleHighvolStub ctx
    else if byte 2 = 'A' then
      handleMeasurement env ctx 0 (decide (3 < cmdlen) && byte 3 = 'C') .highVolAscii
    else if byte 2 = 'B' then
      handleMeasurement env ctx 0 (decide (3 < cmdlen) && byte 3 = 'C') .highVolBinary
    else handleHighvolStub ctx
  | 'X' => handleExtended env ctx cmd cmdlen
  | _ => ⟨.invalidCommand, ctx, []⟩

/-- The length of a command without its trailing `'!'`. -/
def commandLength (cmd : List Char) : Nat :=
  if cmd.getD (cmd.length - 1) '\x00' = '!' then cmd.length - 1 else cmd.length

/-- Whether a command of this length and first byte is for the sensor at `address`: sent to
its address, or the lone wildcard `?`. -/
def isAddressed (address first : Char) : Bool := first = address

def isQuery (cmdlen : Nat) (first : Char) : Bool := cmdlen = 1 && first = '?'

/-- What an abort of a pending measurement clears. -/
def clearMeasurement (ctx : Ctx) : Ctx := { ctx with dataAvailable := false, dataCache := [] }

/-- The abort of a concurrent measurement by a command addressed to the sensor. -/
def abortConcurrent (ctx : Ctx) (addressed : Bool) : Ctx :=
  if addressed && ctx.state = .measuringC then { clearMeasurement ctx with state := .ready } else ctx

/-- `sdi12_sensor_process`. -/
def process (env : Env) (ctx : Ctx) (cmd : List Char) : Outcome :=
  if cmd.length = 0 then ⟨.invalidCommand, ctx, []⟩
  else
    let ctx := { ctx with respLen := 0 }
    let cmdlen := commandLength cmd
    let first := cmd.getD 0 '\x00'
    if cmdlen = 0 then ⟨.invalidCommand, ctx, []⟩
    else if !isAddressed ctx.address first && !isQuery cmdlen first then ⟨.notAddressed, ctx, []⟩
    else
      let ctx := abortConcurrent ctx (isAddressed ctx.address first)
      if cmdlen = 1 then handleAcknowledge ctx else dispatch env ctx cmd cmdlen

@[simp] theorem abortConcurrent_params (ctx : Ctx) (addressed : Bool) :
    (abortConcurrent ctx addressed).params = ctx.params := by
  unfold abortConcurrent; split <;> rfl

@[simp] theorem abortConcurrent_address (ctx : Ctx) (addressed : Bool) :
    (abortConcurrent ctx addressed).address = ctx.address := by
  unfold abortConcurrent; split <;> rfl

@[simp] theorem abortConcurrent_ident (ctx : Ctx) (addressed : Bool) :
    (abortConcurrent ctx addressed).ident = ctx.ident := by
  unfold abortConcurrent; split <;> rfl

@[simp] theorem abortConcurrent_cb (ctx : Ctx) (addressed : Bool) :
    (abortConcurrent ctx addressed).cb = ctx.cb := by
  unfold abortConcurrent; split <;> rfl

@[simp] theorem abortConcurrent_respLen (ctx : Ctx) (addressed : Bool) :
    (abortConcurrent ctx addressed).respLen = ctx.respLen := by
  unfold abortConcurrent; split <;> rfl

theorem abortConcurrent_of_ne {ctx : Ctx} (addressed : Bool) (idle : ctx.state ≠ .measuringC) :
    abortConcurrent ctx addressed = ctx := by
  simp [abortConcurrent, idle]

/-- What `sdi12_sensor_process` does with a command, by its length and first byte. -/
theorem process_cases (env : Env) (ctx : Ctx) (cmd : List Char) :
    let cmdlen := commandLength cmd
    let first := cmd.getD 0 '\x00'
    let cleared := { ctx with respLen := 0 }
    (cmd = [] ∧ process env ctx cmd = ⟨.invalidCommand, ctx, []⟩) ∨
    (cmd ≠ [] ∧ cmdlen = 0 ∧ process env ctx cmd = ⟨.invalidCommand, cleared, []⟩) ∨
    (cmd ≠ [] ∧ cmdlen ≠ 0 ∧ first ≠ ctx.address ∧ isQuery cmdlen first = false ∧
      process env ctx cmd = ⟨.notAddressed, cleared, []⟩) ∨
    (cmdlen = 1 ∧ (first = ctx.address ∨ isQuery cmdlen first = true) ∧
      process env ctx cmd = handleAcknowledge (abortConcurrent cleared (isAddressed ctx.address first))) ∨
    (2 ≤ cmdlen ∧ first = ctx.address ∧
      process env ctx cmd = dispatch env (abortConcurrent cleared true) cmd cmdlen) := by
  intro cmdlen first cleared
  simp only [process, List.length_eq_zero]
  split
  · exact .inl ⟨‹_›, rfl⟩
  rename_i nonempty
  split
  · exact .inr (.inl ⟨nonempty, ‹_›, rfl⟩)
  rename_i nonzero
  split
  · rename_i silent
    simp only [Bool.and_eq_true, Bool.not_eq_true', isAddressed, decide_eq_false_iff_not] at silent
    exact .inr (.inr (.inl ⟨nonempty, nonzero, silent.1, silent.2, rfl⟩))
  rename_i heard
  have target : first = ctx.address ∨ isQuery cmdlen first = true := by
    simpa only [Bool.and_eq_true, Bool.not_eq_true', not_and_or, Bool.not_eq_false, isAddressed,
      decide_eq_true_eq] using heard
  split
  · exact .inr (.inr (.inr (.inl ⟨‹_›, target, rfl⟩)))
  · rename_i long
    have same : first = ctx.address := by simpa [isQuery, long] using target
    refine .inr (.inr (.inr (.inr ⟨by omega, same, ?_⟩)))
    rw [show isAddressed ctx.address first = true from decide_eq_true same]

/-- A command addressed to the sensor with a body of two bytes or more goes to the
dispatcher, after the abort of a concurrent measurement. -/
theorem process_addressed (env : Env) (ctx : Ctx) {cmd : List Char}
    (addressed : cmd.getD 0 '\x00' = ctx.address) (long : 2 ≤ commandLength cmd) :
    process env ctx cmd =
      dispatch env (abortConcurrent { ctx with respLen := 0 } true) cmd (commandLength cmd) := by
  rcases process_cases env ctx cmd with
    ⟨rfl, -⟩ | ⟨-, zero, -⟩ | ⟨-, -, other, -⟩ | ⟨one, -⟩ | ⟨-, -, same⟩
  · simp [commandLength] at long
  · omega
  · exact absurd addressed other
  · omega
  · exact same

theorem commandLength_append_bang (body : List Char) :
    commandLength (body ++ ['!']) = body.length := by
  simp [commandLength]

/-- `sdi12_sensor_init`, given what the `load_address` hook returns if it is installed. -/
def init (address : Char) (ident : Ident) (callbacks : Callbacks) (loaded : Char) :
    Except Err Ctx :=
  if !callbacks.sendResponse || !callbacks.setDirection || !callbacks.readParam then
    .error .callbackMissing
  else if !validAddress address then .error .invalidAddress
  else
    .ok { address := if callbacks.loadAddress && validAddress loaded then loaded else address,
          ident, cb := callbacks, params := [], xcmds := [], state := .ready,
          pendingMeasType := .standard, pendingMeasGroup := 0, crcRequested := false,
          dataCache := [], dataAvailable := false, respBuf := [], respLen := 0 }

/-- `sdi12_sensor_register_param`; `none` is a NULL string. -/
def registerParam (ctx : Ctx) (group : Nat) (shef units : Option (List Char)) (decimals : Nat) :
    Err × Ctx :=
  match shef, units with
  | some shef, some units =>
    if maxParams ≤ ctx.params.length then (.paramLimit, ctx)
    else if maxMeasGroups ≤ group then (.invalidCommand, ctx)
    else (.ok, { ctx with params := ctx.params ++
      [{ shef := shef.take 3, units := units.take 20, group, decimals, active := true }] })
  | _, _ => (.invalidCommand, ctx)

/-- `sdi12_sensor_register_xcmd`; `none` is a NULL prefix or handler. -/
def registerXcmd (ctx : Ctx) (pfx : Option (List Char)) (handler : Option Nat) : Err × Ctx :=
  match pfx, handler with
  | some pfx, some handler =>
    if maxXcmds ≤ ctx.xcmds.length then (.paramLimit, ctx)
    else (.ok, { ctx with xcmds := ctx.xcmds ++ [{ pfx := pfx.take 15, handler, active := true }] })
  | _, _ => (.invalidCommand, ctx)

/-- `sdi12_sensor_measurement_done`, given the `count` values the caller passes. -/
def measurementDone (ctx : Ctx) (values : List Value) : Outcome :=
  let ctx := { ctx with dataCache := values.take maxParams, dataAvailable := true, respLen := 0 }
  if ctx.state = .measuring then
    let ctx := { ctx with respBuf := snprintf maxResponseLen (ctx.address :: crlf) }
    let notify := if ctx.cb.serviceRequest then [Call.serviceRequest] else sendResponse ctx
    ⟨.ok, { ctx with state := .dataReady }, notify⟩
  else if ctx.state = .measuringC then ⟨.ok, { ctx with state := .dataReady }, []⟩
  else ⟨.ok, ctx, []⟩

/-- `sdi12_sensor_break`. -/
def sensorBreak (ctx : Ctx) : Ctx :=
  let ctx := if ctx.state = .measuring ∨ ctx.state = .measuringC then clearMeasurement ctx else ctx
  { ctx with state := .ready }

/-- One call into an initialised sensor engine. -/
inductive Event where
  | registerParam (group : Nat) (shef units : Option (List Char)) (decimals : Nat)
  | registerXcmd (pfx : Option (List Char)) (handler : Option Nat)
  | process (env : Env) (cmd : List Char)
  | measurementDone (values : List Value)
  | sensorBreak

/-- The outcome of one event. -/
def step (ctx : Ctx) : Event → Outcome
  | .registerParam group shef units decimals =>
    let (result, ctx) := registerParam ctx group shef units decimals
    ⟨result, ctx, []⟩
  | .registerXcmd pfx handler =>
    let (result, ctx) := registerXcmd ctx pfx handler
    ⟨result, ctx, []⟩
  | .process env cmd => process env ctx cmd
  | .measurementDone values => measurementDone ctx values
  | .sensorBreak => ⟨.ok, sensorBreak ctx, []⟩

/-- The context after a run of events. -/
def run (ctx : Ctx) : List Event → Ctx
  | [] => ctx
  | event :: rest => run (step ctx event).ctx rest

/-- The contexts reachable from a successful `sdi12_sensor_init` by any run. -/
inductive Reachable : Ctx → Prop
  | init {address ident callbacks loaded ctx} :
      init address ident callbacks loaded = .ok ctx → Reachable ctx
  | step {ctx} (event : Event) : Reachable ctx → Reachable (step ctx event).ctx

theorem reachable_run {ctx : Ctx} (reachable : Reachable ctx) :
    ∀ events, Reachable (run ctx events)
  | [] => reachable
  | event :: rest => reachable_run (reachable.step event) rest

/-- Hook answers that report nothing: every parameter reads as zero, no measurement takes
time, no binary page and no extended reply. -/
def quietEnv : Env where
  readParam _ := ⟨0, 0⟩
  startMeasurement _ _ := 0
  formatBinaryPage _ _ := []
  xcmdHandler _ _ buf := (.invalidCommand, buf)
  formatValue _ := ['+', '0']

/-- The sensor `sdi12_sensor_init` sets up at address `0` with only the required callbacks
and an empty identification. -/
def sensorZero : Ctx where
  address := '0'
  ident := ⟨[], [], [], []⟩
  cb := ⟨true, true, true, false, false, false, false, false, false⟩
  params := []
  xcmds := []
  state := .ready
  pendingMeasType := .standard
  pendingMeasGroup := 0
  crcRequested := false
  dataCache := []
  dataAvailable := false
  respBuf := []
  respLen := 0

theorem sensorZero_reachable : Reachable sensorZero :=
  @Reachable.init '0' ⟨[], [], [], []⟩ ⟨true, true, true, false, false, false, false, false, false⟩
    '0' _ rfl

/-- The callbacks of a sensor whose measurements take time: the required ones and
`start_measurement`. -/
def timedCallbacks : Callbacks := ⟨true, true, true, false, false, true, false, false, false⟩

/-- Hook answers of a sensor whose every measurement takes five seconds. -/
def timedEnv : Env := { quietEnv with startMeasurement := fun _ _ => 5 }

/-- A sensor at address `0` with a `start_measurement` hook and one parameter in group 0,
in `MEASURING_C` after `0C!`. -/
def concurrentSensor : Ctx :=
  run { sensorZero with cb := timedCallbacks }
    [.registerParam 0 (some ['T', 'A']) (some ['C']) 1, .process timedEnv ['0', 'C', '!']]

theorem concurrentSensor_reachable : Reachable concurrentSensor :=
  reachable_run (@Reachable.init '0' ⟨[], [], [], []⟩ timedCallbacks '0' _ rfl) _

end Sdi12.Sensor
