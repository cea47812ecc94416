import Sdi12.Link
import Sdi12.Master.Commands
import Sdi12.Sensor.Silence

namespace Sdi12

/-! # Address commands on the bus

`?!`, `a!` and `aAb!` as `sdi12_master.c` sends them and `sdi12_sensor_process` answers
them, for every sensor reachable from `sdi12_sensor_init`: what the master returns, and
what the exchange leaves in the sensor.  A sensor at another address stays silent, which
the master sees as a timeout.
-/

open Sensor Master

theorem validAddress_ne_query {c : Char} (valid : validAddress c = true) : c ≠ '?' := by
  rintro rfl
  exact absurd valid (by decide)

/-- A command whose first byte is a valid address has a body, and it is not the wildcard. -/
theorem commandBody_of_valid {cmd : List Char} (valid : validAddress (cmd.getD 0 '\x00') = true) :
    commandBody cmd ≠ [] ∧ commandBody cmd ≠ ['?'] := by
  obtain ⟨-, -, -⟩ := validAddress_ne valid
  cases cmd with
  | nil => exact absurd valid (by decide)
  | cons c rest =>
    have notBang : c ≠ '!' := by rintro rfl; exact absurd valid (by simp only [List.getD_cons_zero]; decide)
    have long : 1 ≤ commandLength (c :: rest) := by
      unfold commandLength
      split
      · cases rest with
        | nil => exact absurd (by assumption) notBang
        | cons _ _ => simp
      · simp
    obtain ⟨k, hk⟩ : ∃ k, commandLength (c :: rest) = k + 1 := ⟨_, (Nat.succ_pred_eq_of_pos long).symm⟩
    simp only [commandBody, hk, List.take_succ_cons, ne_eq, List.cons.injEq, not_and]
    exact ⟨List.cons_ne_nil _ _, fun same => absurd same (validAddress_ne_query valid)⟩

/-- A sensor answers a command for another address with nothing. -/
theorem answer_foreign (env : Env) {ctx : Ctx} {cmd : List Char} (foreign : Foreign ctx.address cmd) :
    answer env ctx cmd = [] := by
  simp [answer, process_foreign env ctx foreign]

/-- A command of the master to another valid address is foreign to the sensor. -/
theorem foreign_of_ne {address addr : Char} {rest : List Char} (valid : validAddress addr = true)
    (other : addr ≠ address) : Foreign address ((addr :: rest) ++ ['!']) where
  nonempty := by rw [commandBody, commandLength_append_bang, List.take_left' rfl]; exact List.cons_ne_nil _ _
  otherAddress := by simpa using other
  notWildcard := by
    rw [commandBody, commandLength_append_bang, List.take_left' rfl]
    exact fun same => validAddress_ne_query valid (List.cons.inj same).1

/-- The reply `a\r\n` as it goes on the bus. -/
theorem answer_addressLine {env : Env} {ctx ctx' : Ctx} {cmd : List Char} {c : Char}
    (replied : process env ctx cmd = reply ctx' (c :: crlf)) (sends : ctx'.cb.sendResponse = true)
    (scratch : ctx'.respLen = 0) (valid : validAddress c = true) :
    answer env ctx cmd = c :: crlf := by
  rw [answer_reply replied sends scratch, snprintf_of_length_lt (by simp [crlf]),
    cString_of_forall_ne]
  simp [crlf, (validAddress_ne valid).1]

/-- The master's `transact` on a command the bus answers with `a\r\n`, trimmed. -/
theorem transact_addressLine {bus : List Char → List Char} {cmd : List Char} {c : Char}
    (short : (cString cmd).length ≤ maxCommandLen) (answered : bus cmd = c :: crlf)
    (valid : validAddress c = true) :
    (∃ line, transact bus cmd = .ok line ∧ trimCrlf line = [c]) := by
  have trimmed : trimCrlf (c :: crlf) = [c] :=
    @trimCrlf_append_crlf_of_clean [c] (by simpa using (validAddress_ne valid).2)
  have line : (bus cmd).take (respBufSize - 1) = c :: crlf := by rw [answered]; rfl
  refine ⟨c :: crlf, ?_, trimmed⟩
  rw [transact_answered short (by rw [line, trimmed]; simp), line]

/-- The master's `transact` times out on a command nobody answers. -/
theorem transact_silent {bus : List Char → List Char} {cmd : List Char}
    (short : cmd.length ≤ maxCommandLen) (silent : bus cmd = []) : transact bus cmd = .error .timeout := by
  rw [transact, if_neg (Nat.not_lt.mpr ((length_cString_le cmd).trans short)), silent]
  rfl

/-- `sdi12_master_acknowledge` when the bus answers its `a!` with `a\r\n`: present. -/
theorem acknowledge_heard {bus : List Char → List Char} {addr : Char} (valid : validAddress addr = true)
    (present : Bool) (answered : bus [addr, '!'] = addr :: crlf) : acknowledge bus addr present = (.ok, true) := by
  obtain ⟨line, received, trimmed⟩ :=
    transact_addressLine ((length_cString_le _).trans (by simp)) answered valid
  simp [acknowledge, valid, show snprintf 4 [addr, '!'] = [addr, '!'] from rfl, received, trimmed]

/-- `sdi12_master_acknowledge` when nothing answers its `a!`: absent. -/
theorem acknowledge_silent {bus : List Char → List Char} {addr : Char} (valid : validAddress addr = true)
    (present : Bool) (silent : bus [addr, '!'] = []) : acknowledge bus addr present = (.ok, false) := by
  simp [acknowledge, valid, show snprintf 4 [addr, '!'] = [addr, '!'] from rfl, transact_silent (by simp) silent]

/-- The sensor's engine on `?!`: whatever its address, it answers with it, and a measurement
in progress, concurrent or not, goes on. -/
theorem process_query (env : Env) (ctx : Ctx) (valid : validAddress ctx.address = true) :
    process env ctx ['?', '!'] = reply { ctx with respLen := 0 } (ctx.address :: crlf) := by
  simp [process, commandLength, isAddressed, isQuery, abortConcurrent,
    (validAddress_ne_query valid).symm]
  rfl

/-- `sdi12_master_query_address` with a sensor alone on the bus: it learns the sensor's
address, and `?!` leaves the sensor as it was, a concurrent measurement in progress
included, with `a\r\n` in its response buffer. -/
theorem query_address_exchange (env : Env) {ctx : Ctx} (reachable : Reachable ctx) (addr : Char) :
    queryAddress (answer env ctx) addr = (.ok, ctx.address) ∧
      (process env ctx ['?', '!']).ctx = { ctx with respLen := 0, respBuf := ctx.address :: crlf } := by
  have inv := reachable.invariant
  have query := process_query env ctx inv.validAddress
  obtain ⟨line, received, trimmed⟩ := @transact_addressLine (answer env ctx) _ _ (by decide)
    (answer_addressLine query inv.callbacksInstalled.1 rfl inv.validAddress) inv.validAddress
  refine ⟨by simp [queryAddress, received, trimmed, inv.validAddress], ?_⟩
  rw [query]
  simp only [reply, snprintf_of_length_lt (show (ctx.address :: crlf).length < maxResponseLen by simp [crlf])]

theorem query_address_exchange_at_sensor_zero : Reachable sensorZero ∧
    (queryAddress (answer quietEnv sensorZero) '5' = (.ok, sensorZero.address) ∧
      (process quietEnv sensorZero ['?', '!']).ctx =
        { sensorZero with respLen := 0, respBuf := sensorZero.address :: crlf }) :=
  ⟨sensorZero_reachable, query_address_exchange quietEnv sensorZero_reachable '5'⟩

/-- The sensor's engine on `a!` for its own address: the abort of a concurrent measurement,
then `a\r\n`. -/
theorem process_acknowledge (env : Env) (ctx : Ctx) :
    process env ctx [ctx.address, '!'] =
      reply (abortConcurrent { ctx with respLen := 0 } true) (ctx.address :: crlf) := by
  simp [process, commandLength, isAddressed, handleAcknowledge]

/-- `sdi12_master_acknowledge` for any valid address: the sensor is present exactly when the
address is its own.  The sensor it reaches aborts a concurrent measurement and answers
`a\r\n`; at any other address it stays silent and keeps all but `resp_len`. -/
theorem acknowledge_exchange (env : Env) {ctx : Ctx} (reachable : Reachable ctx) {addr : Char}
    (valid : validAddress addr = true) (present : Bool) :
    acknowledge (answer env ctx) addr present = (.ok, decide (addr = ctx.address)) ∧
      (process env ctx [addr, '!']).ctx =
        if addr = ctx.address then
          { abortConcurrent { ctx with respLen := 0 } true with respBuf := ctx.address :: crlf }
        else { ctx with respLen := 0 } := by
  have inv := reachable.invariant
  by_cases same : addr = ctx.address
  · subst same
    have acked := process_acknowledge env ctx
    refine ⟨by rw [acknowledge_heard valid present (answer_addressLine acked
      (by simp [inv.callbacksInstalled.1]) (by simp) inv.validAddress)]; simp, ?_⟩
    rw [acked]
    simp only [reply, if_true, abortConcurrent_address,
      snprintf_of_length_lt (show (ctx.address :: crlf).length < maxResponseLen by simp [crlf])]
  · have foreign : Foreign ctx.address [addr, '!'] := @foreign_of_ne _ _ [] valid same
    refine ⟨by rw [acknowledge_silent valid present (answer_foreign env foreign)]; simp [same], ?_⟩
    simp [process_foreign env ctx foreign, same]

/-- The sensor of `sensorZero` is present at `0` and absent at `1`. -/
theorem acknowledge_exchange_at_sensor_zero :
    acknowledge (answer quietEnv sensorZero) '0' false = (.ok, true) ∧
      acknowledge (answer quietEnv sensorZero) '1' true = (.ok, false) :=
  ⟨(acknowledge_exchange quietEnv sensorZero_reachable (by decide) false).1,
    (acknowledge_exchange quietEnv sensorZero_reachable (by decide) true).1⟩

/-- The sensor's engine on `aAb!` for its own address and a valid `b`. -/
theorem process_changeAddress (env : Env) (ctx : Ctx) {newAddr : Char}
    (validNew : validAddress newAddr = true) :
    process env ctx [ctx.address, 'A', newAddr, '!'] =
      handleChangeAddress (abortConcurrent { ctx with respLen := 0 } true) newAddr := by
  rw [process_addressed env ctx (by simp) (by simp [commandLength])]
  simp [dispatch, commandLength, isPrint_of_validAddress validNew]

/-- `sdi12_master_change_address` from a valid address to a valid one.  The sensor at the old
address takes the new one (after the abort of a concurrent measurement), calls
`save_address` if it is installed and answers with the new address, and the master reports
success; a sensor at another address stays silent and keeps its address, and the master
times out. -/
theorem change_address_exchange (env : Env) {ctx : Ctx} (reachable : Reachable ctx)
    {oldAddr newAddr : Char} (validOld : validAddress oldAddr = true)
    (validNew : validAddress newAddr = true) :
    let out := process env ctx [oldAddr, 'A', newAddr, '!']
    changeAddress (answer env ctx) oldAddr newAddr = (if oldAddr = ctx.address then .ok else .timeout) ∧
      out.ctx = (if oldAddr = ctx.address then
          { abortConcurrent { ctx with respLen := 0 } true with address := newAddr, respBuf := newAddr :: crlf }
        else { ctx with respLen := 0 }) ∧
      (Call.saveAddress newAddr ∈ out.calls ↔ oldAddr = ctx.address ∧ ctx.cb.saveAddress = true) := by
  intro out
  have inv := reachable.invariant
  have command : snprintf 8 [oldAddr, 'A', newAddr, '!'] = [oldAddr, 'A', newAddr, '!'] := rfl
  have fits : (newAddr :: crlf).length < maxResponseLen := by simp [crlf]
  by_cases same : oldAddr = ctx.address
  · subst same
    have changed := process_changeAddress env ctx validNew
    have noNul : ∀ c ∈ newAddr :: crlf, c ≠ '\x00' := by simp [crlf, (validAddress_ne validNew).1]
    have line : answer env ctx [ctx.address, 'A', newAddr, '!'] = newAddr :: crlf := by
      cases saving : ctx.cb.saveAddress <;>
        simp [answer, changed, handleChangeAddress, validNew, reply, sendResponse, responseBytes,
          inv.callbacksInstalled.1, saving, Call.sent, snprintf_of_length_lt fits, cString_of_forall_ne noNul,
          -maxResponseLen]
    obtain ⟨received, answered, trimmed⟩ := transact_addressLine ((length_cString_le _).trans (by simp)) line validNew
    refine ⟨by simp [changeAddress, validOld, validNew, command, answered, trimmed], ?_, ?_⟩
    · simp only [out, changed, handleChangeAddress, validNew, Bool.not_true, Bool.false_eq_true, if_false,
        reply, if_true, snprintf_of_length_lt fits]
    · cases saving : ctx.cb.saveAddress <;>
        simp [out, changed, handleChangeAddress, validNew, reply, sendResponse, saving]
  · have foreign : Foreign ctx.address [oldAddr, 'A', newAddr, '!'] := @foreign_of_ne _ _ ['A', newAddr] validOld same
    refine ⟨by simp [changeAddress, validOld, validNew, command,
      transact_silent (by simp) (answer_foreign env foreign), same], ?_, ?_⟩ <;>
      simp [out, process_foreign env ctx foreign, same]

/-- `0A5!` moves the sensor of `sensorZero` to address `5`, and the master sees it done. -/
theorem change_address_exchange_at_sensor_zero :
    changeAddress (answer quietEnv sensorZero) '0' '5' = .ok ∧
      (process quietEnv sensorZero ['0', 'A', '5', '!']).ctx.address = '5' := by
  obtain ⟨master, sensor, -⟩ :=
    @change_address_exchange quietEnv sensorZero sensorZero_reachable '0' '5' (by decide) (by decide)
  exact ⟨master, by rw [sensor]; rfl⟩

/-- `sdi12_master_wait_service_request` on what `sdi12_sensor_measurement_done` puts on the
bus: the sensor's own `a\r\n` comes exactly when it was measuring for `aM!` or `aV!` with no
`service_request` hook to signal instead; after `aC!`, or outside a measurement, nothing
comes and the master times out. -/
theorem service_request_exchange {ctx : Ctx} (reachable : Reachable ctx) (values : List Value) :
    waitServiceRequest (((measurementDone ctx values).calls.filterMap Call.sent).getLastD [])
        ctx.address =
      if ctx.state = .measuring ∧ ctx.cb.serviceRequest = false then .ok else .timeout := by
  have inv := reachable.invariant
  have trimmed : trimCrlf (ctx.address :: crlf) = [ctx.address] :=
    @trimCrlf_append_crlf_of_clean [ctx.address] (by simpa using (validAddress_ne inv.validAddress).2)
  have line : cString (snprintf maxResponseLen (ctx.address :: crlf)) = ctx.address :: crlf := by
    rw [snprintf_of_length_lt (by simp [crlf]), cString_of_forall_ne]
    simp [crlf, (validAddress_ne inv.validAddress).1]
  have whole : (ctx.address :: crlf).take (respBufSize - 1) = ctx.address :: crlf := rfl
  by_cases measuring : ctx.state = .measuring
  · cases signal : ctx.cb.serviceRequest <;>
      simp [measurementDone, measuring, signal, sendResponse, responseBytes, inv.callbacksInstalled.1,
        Call.sent, waitServiceRequest, recvResponse, line, whole, trimmed, -maxResponseLen, -respBufSize]
  · by_cases concurrent : ctx.state = .measuringC <;>
      simp [measurementDone, measuring, concurrent, waitServiceRequest, recvResponse]

/-- A sensor at address `0` with a `start_measurement` hook and one parameter in group 0,
in `MEASURING` after `0M!`. -/
def measuringSensor : Ctx :=
  run { sensorZero with cb := timedCallbacks }
    [.registerParam 0 (some ['T', 'A']) (some ['C']) 1, .process timedEnv ['0', 'M', '!']]

theorem measuringSensor_reachable : Reachable measuringSensor :=
  reachable_run (@Reachable.init '0' ⟨[], [], [], []⟩ timedCallbacks '0' _ rfl) _

set_option maxRecDepth 8000 in
/-- The timed `0M!` ends with the service request the master waits for. -/
theorem service_request_exchange_after_timed_measurement :
    waitServiceRequest (((measurementDone measuringSensor [⟨0, 0⟩]).calls.filterMap Call.sent).getLastD [])
      measuringSensor.address = .ok :=
  (service_request_exchange measuringSensor_reachable _).trans (if_pos (by decide))

end Sdi12
