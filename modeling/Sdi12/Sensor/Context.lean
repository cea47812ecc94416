import Sdi12.Crc

namespace Sdi12.Sensor

/-! # The sensor context (`sdi12_sensor.h`)

`sdi12_sensor_ctx_t` with its tables as lists: `params` is the first `param_count` slots
of the parameter array, `xcmds` the first `xcmd_count` of the extended-command array, and
`dataCache` the first `data_cache_count` cached values.  The code never reads a slot past
its count, so nothing is lost.

Callbacks appear in two ways.  Whether a hook is installed (non-NULL) is part of the
context.  What an installed hook answers may depend on host state behind `user_data`, so it
is an `Env` given afresh to every call; each call also records the hook calls it makes, in
order, as `Call`s.
-/

/-- `sdi12_param_reg_t`, with the fields of its `sdi12_param_meta_t` inlined. -/
structure ParamReg where
  shef : List Char
  units : List Char
  group : Nat
  decimals : Nat
  active : Bool
deriving DecidableEq, Repr, Inhabited

/-- `sdi12_xcmd_reg_t`.  `handler` names the handler function; `none` is a NULL pointer. -/
structure XcmdReg where
  pfx : List Char
  handler : Option Nat
  active : Bool
deriving DecidableEq, Repr

/-- `sdi12_sensor_callbacks_t`: which hooks are installed. -/
structure Callbacks where
  sendResponse : Bool
  setDirection : Bool
  readParam : Bool
  saveAddress : Bool
  loadAddress : Bool
  startMeasurement : Bool
  serviceRequest : Bool
  onReset : Bool
  formatBinaryPage : Bool
deriving DecidableEq, Repr

/-- `sdi12_sensor_ctx_t`. -/
structure Ctx where
  address : Char
  ident : Ident
  cb : Callbacks
  params : List ParamReg
  xcmds : List XcmdReg
  state : State
  pendingMeasType : MeasType
  pendingMeasGroup : Nat
  crcRequested : Bool
  dataCache : List Value
  dataAvailable : Bool
  respBuf : List Char
  respLen : Nat
deriving DecidableEq, Repr

/-- The answers of the installed hooks during one call into the engine.  `formatValue` is
the text `snprintf` renders for a value in `format_value` (a C library routine). -/
structure Env where
  readParam : Nat → Value
  startMeasurement : Nat → MeasType → UInt16
  /-- The bytes `format_binary_page` writes from `buf[1]`; its return value is their count. -/
  formatBinaryPage : Nat → List Value → List Char
  /-- A handler's return code and the response buffer it leaves, given the command body
  after `aX` and the buffer the engine pre-filled (calling a NULL handler is undefined, so
  any answer is possible). -/
  xcmdHandler : Option Nat → List Char → List Char → Err × List Char
  formatValue : Value → List Char

/-- A call from the engine into a hook. -/
inductive Call where
  | sendResponse (bytes : List Char)
  | readParam (index : Nat)
  | startMeasurement (group : Nat) (type : MeasType)
  | saveAddress (address : Char)
  | loadAddress
  | serviceRequest
  | formatBinaryPage (page : Nat) (values : List Value)
  | xcmdHandler (handler : Option Nat) (body : List Char)
deriving DecidableEq, Repr

/-- The bytes a hook call puts on the bus. -/
def Call.sent : Call → Option (List Char)
  | .sendResponse bytes => some bytes
  | _ => none

/-- What one call into the engine returns, leaves behind and calls. -/
structure Outcome where
  result : Err
  ctx : Ctx
  calls : List Call

/-- The test `count_group` and `collect_group_indices` apply to a parameter slot. -/
def ParamReg.inGroup (group : Nat) (p : ParamReg) : Bool := p.active && p.group == group

/-- `count_group`. -/
def countGroup (ctx : Ctx) (group : Nat) : Nat := ctx.params.countP (ParamReg.inGroup group)

/-- `collect_group_indices`: the indices of the group's parameters, at most `max` of them. -/
def collectGroupIndices (params : List ParamReg) (group max : Nat) : List Nat :=
  ((params.enum.filter fun slot => slot.2.inGroup group).map Prod.fst).take max

/-- `read_group_sync`.  The loop's second guard, `data_cache_count < SDI12_MAX_PARAMS`,
never fails: at most `SDI12_MAX_PARAMS` indices are collected. -/
def readGroupSync (env : Env) (ctx : Ctx) (group : Nat) : Ctx × List Call :=
  let indices := collectGroupIndices ctx.params group maxParams
  if ctx.cb.readParam then
    ({ ctx with dataCache := indices.map env.readParam, dataAvailable := true },
      indices.map Call.readParam)
  else ({ ctx with dataCache := [], dataAvailable := true }, [])

/-- The bytes `send_response` hands over: `resp_len` of them when it is set, `strlen` of
them otherwise. -/
def responseBytes (ctx : Ctx) : List Char :=
  if ctx.respLen ≠ 0 then ctx.respBuf.take ctx.respLen else cString ctx.respBuf

/-- `send_response`. -/
def sendResponse (ctx : Ctx) : List Call :=
  if ctx.cb.sendResponse then [.sendResponse (responseBytes ctx)] else []

theorem length_collectGroupIndices_le (params : List ParamReg) (group max : Nat) :
    (collectGroupIndices params group max).length ≤ max :=
  List.length_take_le _ _

theorem length_collectGroupIndices (params : List ParamReg) {group max : Nat}
    (enough : params.countP (ParamReg.inGroup group) ≤ max) :
    (collectGroupIndices params group max).length = params.countP (ParamReg.inGroup group) := by
  have filtered : (params.enum.filter fun slot => slot.2.inGroup group).length =
      params.countP (ParamReg.inGroup group) := by
    have unzipped := List.countP_map (p := ParamReg.inGroup group) (f := Prod.snd) (l := params.enum)
    rw [List.enum_map_snd] at unzipped
    rw [← List.countP_eq_length_filter, unzipped]
    rfl
  simp [collectGroupIndices, filtered, enough]

theorem readGroupSync_ctx (env : Env) (ctx : Ctx) (group : Nat) :
    (readGroupSync env ctx group).1 =
      { ctx with
        dataCache := if ctx.cb.readParam then
          (collectGroupIndices ctx.params group maxParams).map env.readParam else []
        dataAvailable := true } := by
  unfold readGroupSync
  split <;> rfl

end Sdi12.Sensor
