import Sdi12.Link.Data
import Sdi12.Sensor.Setup

namespace Sdi12

/-! # Extended commands: `aX…!`

`sdi12_master_extended` sends `aX<xcmd>!` and hands back the line it receives, cut to the
caller's buffer.  `handle_extended` gives the command to the first active registration whose
prefix starts `<xcmd>`, in a buffer that holds the address; when the handler succeeds, its
reply goes out with CR LF added unless it already ends in one or there is no room for it.  A
command no registration takes is answered with the address alone, and a failing handler sends
nothing, which the master sees as a timeout.
-/

open Sensor Master

/-- The bytes `handle_extended` sends for a handler's reply `buf`: its C string, with CR LF
appended when it lacks one and fits. -/
theorem cString_terminateReply (buf : List Char) :
    cString (terminateReply buf) = cString buf ++
      if endsWithCrlf (cString buf) = false ∧ (cString buf).length + 2 < maxResponseLen then crlf else [] := by
  by_cases room : endsWithCrlf (cString buf) = false ∧ (cString buf).length + 2 < maxResponseLen
  · have clean : ∀ c ∈ cString buf ++ crlf, c ≠ '\x00' := by
      intro c member
      rcases List.mem_append.mp member with inText | inCrlf
      · exact ne_nul_of_mem_cString inText
      · simp only [crlf, List.mem_cons, List.mem_singleton, List.not_mem_nil, or_false] at inCrlf
        rcases inCrlf with rfl | rfl <;> decide
    simp only [terminateReply, if_pos room]
    rw [if_pos (by simpa using room), cString_of_forall_ne clean]
  · simp only [terminateReply, if_neg room, List.append_nil]
    rw [if_neg (by simpa using room)]

/-- A terminated reply that fits the buffer is never empty, and fits the master's receive. -/
theorem terminateReply_fits {buf : List Char} (room : (cString buf).length < maxResponseLen) :
    cString (terminateReply buf) ≠ [] ∧ (cString (terminateReply buf)).length < respBufSize - 1 := by
  rw [cString_terminateReply]
  by_cases short : endsWithCrlf (cString buf) = false ∧ (cString buf).length + 2 < maxResponseLen
  · simp only [if_pos short, crlf]
    exact ⟨by simp, by simp at short ⊢; omega⟩
  · rw [if_neg short, List.append_nil]
    refine ⟨fun empty => short ⟨by rw [empty]; rfl, by rw [empty]; decide⟩, by simp at room ⊢; omega⟩

/-- `aX<xcmd>!` as `sdi12_master_extended` formats it holds no NUL. -/
theorem cString_extendedCommand {addr : Char} (valid : validAddress addr = true) (xcmd : List Char) :
    cString (extendedCommand addr xcmd) = extendedCommand addr xcmd := by
  refine cString_of_forall_ne fun c member => ?_
  simp only [extendedCommand, snprintf] at member
  have spelled := List.mem_of_mem_take member
  simp only [List.cons_append, List.mem_cons, List.mem_append, List.mem_singleton, List.not_mem_nil,
    or_false] at spelled
  rcases spelled with rfl | rfl | inText | rfl
  · exact (validAddress_ne valid).1
  · decide
  · exact ne_nul_of_mem_cString inText
  · decide

/-- When the command fits `SDI12_CMD_MAX_CHARS`, `snprintf` writes it whole. -/
theorem extendedCommand_eq (addr : Char) {xcmd : List Char} (fits : (cString xcmd).length + 3 ≤ maxCommandLen) :
    extendedCommand addr xcmd = addr :: 'X' :: cString xcmd ++ ['!'] :=
  snprintf_of_length_lt (by simp at fits ⊢; omega)

/-- `sdi12_master_transact` refuses an extended command longer than `SDI12_CMD_MAX_CHARS`
before anything is sent. -/
theorem transact_extendedCommand_long (bus : List Char → List Char) {addr : Char}
    (valid : validAddress addr = true) {xcmd : List Char} (long : maxCommandLen < (cString xcmd).length + 3) :
    transact bus (extendedCommand addr xcmd) = .error .invalidCommand := by
  have length : (extendedCommand addr xcmd).length = min 23 ((cString xcmd).length + 3) := by
    simp [extendedCommand, snprintf]
    omega
  rw [transact, cString_extendedCommand valid, if_pos (by rw [length]; simp at long ⊢; omega)]

/-- A command to the sensor's own address whose second byte is `X` goes to `handle_extended`,
with the command's length without its `!`. -/
theorem process_extendedCommand (env : Env) (ctx : Ctx) (body : List Char) :
    process env ctx (ctx.address :: 'X' :: body ++ ['!']) =
      handleExtended env (abortConcurrent { ctx with respLen := 0 } true) (ctx.address :: 'X' :: body ++ ['!'])
        (body.length + 2) := by
  rw [process_addressed env ctx (by simp) (by rw [commandLength_append_bang]; simp), commandLength_append_bang]
  simp [dispatch]

/-- What a reachable sensor answers `aX<body>!` with: the address alone when no registration
takes `body`, else the registered handler's reply, terminated, or nothing when it fails. -/
theorem answer_extendedCommand (env : Env) {ctx : Ctx} (reachable : Reachable ctx) (body : List Char) :
    answer env ctx (ctx.address :: 'X' :: body ++ ['!']) =
      match findXcmd ctx.xcmds body with
      | none => ctx.address :: crlf
      | some x =>
        if (env.xcmdHandler x.handler (body ++ ['!']) [ctx.address]).1 = .ok then
          cString (terminateReply (env.xcmdHandler x.handler (body ++ ['!']) [ctx.address]).2)
        else [] := by
  have inv := reachable.invariant
  have payload : ((ctx.address :: 'X' :: body ++ ['!']).take (body.length + 2)).drop 2 = body := by simp
  have xcmds : (abortConcurrent { ctx with respLen := 0 } true).xcmds = ctx.xcmds :=
    congrArg Setup.xcmds (abortConcurrent_setup _ true)
  rw [answer, process_extendedCommand, handleExtended, payload, xcmds]
  cases findXcmd ctx.xcmds body with
  | none =>
    have noNul : ∀ c ∈ ctx.address :: crlf, c ≠ '\x00' := by simp [crlf, (validAddress_ne inv.validAddress).1]
    simp [reply, sendResponse, responseBytes, inv.callbacksInstalled.1, Call.sent,
      snprintf_of_length_lt (show (ctx.address :: crlf).length < maxResponseLen by simp [crlf]),
      cString_of_forall_ne noNul, -maxResponseLen]
  | some x =>
    have command : (ctx.address :: 'X' :: body ++ ['!']).drop 2 = body ++ ['!'] := rfl
    dsimp only
    rw [command, abortConcurrent_address]
    by_cases ok : (env.xcmdHandler x.handler (body ++ ['!']) [ctx.address]).1 = .ok
    · rw [if_pos ok, if_pos ok]
      refine lastSent_sendResponse ?_ ?_ [_] ?_
      · simpa using inv.callbacksInstalled.1
      · simp
      · simp [Call.sent]
    · rw [if_neg ok, if_neg ok]
      simp [Call.sent]

/-- `aX<xcmd>!` to a sensor reachable from `sdi12_sensor_init`, as `sdi12_master_extended`
returns it with room for `capacity` bytes, when every registered handler writes within the
response buffer: a command over `SDI12_CMD_MAX_CHARS` is refused before it is sent; one no
registration takes reads back the address and CR LF; a failing handler leaves the master
timing out; and a successful one's reply comes back with CR LF added unless it has one or
there is no room for it. -/
theorem extended_exchange (env : Env) {ctx : Ctx} (reachable : Reachable ctx) (xcmd : List Char)
    (capacity : Nat)
    (room : ∀ x ∈ ctx.xcmds,
      (cString (env.xcmdHandler x.handler (cString xcmd ++ ['!']) [ctx.address]).2).length < maxResponseLen) :
    extended (answer env ctx) ctx.address xcmd capacity =
      if maxCommandLen < (cString xcmd).length + 3 then (.invalidCommand, none)
      else match findXcmd ctx.xcmds (cString xcmd) with
      | none => (.ok, some ((ctx.address :: crlf).take capacity))
      | some x =>
        let reply := env.xcmdHandler x.handler (cString xcmd ++ ['!']) [ctx.address]
        if reply.1 = .ok then
          (.ok, some ((cString reply.2 ++
            if endsWithCrlf (cString reply.2) = false ∧ (cString reply.2).length + 2 < maxResponseLen then crlf
            else []).take capacity))
        else (.timeout, none) := by
  have valid := reachable.invariant.validAddress
  rw [extended, if_neg (by simp [valid])]
  by_cases long : maxCommandLen < (cString xcmd).length + 3
  · rw [if_pos long, transact_extendedCommand_long _ valid long]
  have fits : (cString xcmd).length + 3 ≤ maxCommandLen := Nat.le_of_not_lt long
  rw [if_neg long, transact, cString_extendedCommand valid, extendedCommand_eq _ fits,
    if_neg (by simp only [List.length_append, List.length_cons, List.length_nil]; omega),
    answer_extendedCommand env reachable]
  cases found : findXcmd ctx.xcmds (cString xcmd) with
  | none => simp [crlf]
  | some x =>
    obtain ⟨nonempty, within⟩ := terminateReply_fits (room x (List.mem_of_find?_eq_some found))
    dsimp only
    by_cases ok : (env.xcmdHandler x.handler (cString xcmd ++ ['!']) [ctx.address]).1 = .ok
    · rw [if_pos ok, if_pos ok, List.take_of_length_le within.le, if_neg nonempty, ← cString_terminateReply]
    · rw [if_neg ok, if_neg ok]
      rfl

/-- Hook answers of a sensor whose extended handlers append `42` to the address. -/
def versionEnv : Env := { quietEnv with xcmdHandler := fun _ _ buf => (.ok, buf ++ ['4', '2']) }

/-- `sensorZero` with the extended command of prefix `V` registered to handler 0. -/
def versionSensor : Ctx := run sensorZero [.registerXcmd (some ['V']) (some 0)]

theorem versionSensor_reachable : Reachable versionSensor := reachable_run sensorZero_reachable _

/-- `0XV!` reads back the handler's `042` with CR LF added, `0XQ!`, which no registration
takes, the address alone, and `0XV!` to a handler that fails, a timeout. -/
theorem extended_exchange_at_version_sensor :
    extended (answer versionEnv versionSensor) '0' ['V'] 16 = (.ok, some ['0', '4', '2', '\r', '\n']) ∧
      extended (answer versionEnv versionSensor) '0' ['Q'] 16 = (.ok, some ['0', '\r', '\n']) ∧
      extended (answer quietEnv versionSensor) '0' ['V'] 16 = (.timeout, none) :=
  ⟨(extended_exchange versionEnv versionSensor_reachable ['V'] 16 (by decide)).trans (by decide),
    (extended_exchange versionEnv versionSensor_reachable ['Q'] 16 (by decide)).trans (by decide),
    (extended_exchange quietEnv versionSensor_reachable ['V'] 16 (by decide)).trans (by decide)⟩

end Sdi12
