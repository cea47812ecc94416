import Sdi12.Sensor.DataPage

namespace Sdi12.Sensor

/-! # Command handlers (`sdi12_sensor.c`)

One definition per `handle_*` function.  Each takes the context after the dispatcher's
preamble and returns the result code, the context it leaves and the hook calls it made.
A handler that replies builds its text in `resp_buf` and ends with `send_response`.
-/

/-- The reply `snprintf(resp_buf, sizeof resp_buf, ...)` leaves, then `send_response`. -/
def reply (ctx : Ctx) (text : List Char) : Outcome :=
  let ctx := { ctx with respBuf := snprintf maxResponseLen text }
  ⟨.ok, ctx, sendResponse ctx⟩

/-- The `"%c\r\n"` reply, or with `crc` the `"%c"` reply passed through `sdi12_crc_append`:
the answer to a request with nothing to report. -/
def addressOnlyBuffer (address : Char) (crc : Bool) : List Char :=
  if crc then (crcAppend (snprintf maxResponseLen [address]) maxResponseLen).2
  else snprintf maxResponseLen (address :: crlf)

/-- `handle_acknowledge`. -/
def handleAcknowledge (ctx : Ctx) : Outcome := reply ctx (ctx.address :: crlf)

/-- `handle_identify`: `"%c" SDI12_PROTOCOL_VERSION "%-8.8s%-6.6s%-3.3s%s\r\n"`. -/
def handleIdentify (ctx : Ctx) : Outcome :=
  reply ctx (ctx.address :: ['1', '4'] ++ formatField 8 ctx.ident.vendor ++
    formatField 6 ctx.ident.model ++ formatField 3 ctx.ident.firmwareVersion ++
    ctx.ident.serial ++ crlf)

/-- The measurement header `handle_measurement` formats once the group is known to be
non-empty: `ttt` in three digits, then the count in one (`Standard`, `Verification`,
saturated at 9), two (`Concurrent`, saturated at 99) or three digits (`HighVol*`). -/
def measurementHeader (address : Char) (ttt n : Nat) : MeasType → List Char
  | .standard | .verification => address :: formatUnsigned 3 ttt ++ formatUnsigned 1 (min n 9) ++ crlf
  | .concurrent => address :: formatUnsigned 3 ttt ++ formatUnsigned 2 (min n 99) ++ crlf
  | _ => address :: formatUnsigned 3 ttt ++ formatUnsigned 3 n ++ crlf

/-- The state the asynchronous branch of `handle_measurement` enters: measuring while `ttt`
runs, data ready at once when it is zero. -/
def startedState (ttt : Nat) : MeasType → State
  | .standard | .verification => if 0 < ttt then .measuring else .dataReady
  | _ => if 0 < ttt then .measuringC else .dataReady

/-- The zero-count header of the empty-group branch of `handle_measurement`. -/
def emptyGroupHeader (address : Char) (type : MeasType) : List Char :=
  if type = .standard ∨ type = .verification then address :: ['0', '0', '0', '0'] ++ crlf
  else address :: ['0', '0', '0', '0', '0'] ++ crlf

/-- The asynchronous branch of `handle_measurement` (a `start_measurement` hook is
installed) for a non-empty group of `n` parameters.  The header and the new state are set
for every type but `Continuous`, which the dispatcher never passes. -/
def measureAsync (env : Env) (ctx : Ctx) (group n : Nat) (type : MeasType) : Outcome :=
  let ttt := min (env.startMeasurement group type).toNat 999
  let ctx := if type = .continuous then ctx else
    { ctx with respBuf := snprintf maxResponseLen (measurementHeader ctx.address ttt n type),
               state := startedState ttt type }
  let read := if ttt = 0 then readGroupSync env ctx group else ({ ctx with dataAvailable := false }, [])
  ⟨.ok, read.1, Call.startMeasurement group type :: read.2 ++ sendResponse read.1⟩

/-- The synchronous branch of `handle_measurement` (no `start_measurement` hook) for a
non-empty group of `n` parameters. -/
def measureSync (env : Env) (ctx : Ctx) (group n : Nat) (type : MeasType) : Outcome :=
  let read := readGroupSync env ctx group
  let ctx := { read.1 with respBuf := snprintf maxResponseLen (measurementHeader ctx.address 0 n type),
                           state := .dataReady }
  ⟨.ok, ctx, read.2 ++ sendResponse ctx⟩

/-- `handle_measurement`. -/
def handleMeasurement (env : Env) (ctx : Ctx) (group : Nat) (withCrc : Bool)
    (type : MeasType) : Outcome :=
  let ctx := { ctx with crcRequested := withCrc, pendingMeasType := type, pendingMeasGroup := group }
  let n := countGroup ctx group
  if n = 0 then reply ctx (emptyGroupHeader ctx.address type)
  else if ctx.cb.startMeasurement then measureAsync env ctx group n type
  else measureSync env ctx group n type

/-- The six-byte empty binary packet: address, size 0, type 0, and the CRC of those four
bytes, least significant byte first. -/
def emptyBinaryPacket (address : Char) : List Char :=
  let head := [address, '\x00', '\x00', '\x00']
  let crc := crc16 head
  head ++ [Char.ofNat (crc &&& 0xFF).toNat, Char.ofNat ((crc >>> 8) &&& 0xFF).toNat]

/-- The packet `handle_send_binary_data` builds around a payload: address, payload size
(two bytes, little-endian), type byte, payload, CRC over all of them (little-endian). -/
def binaryPacket (address dataType : Char) (payload : List Char) : List Char :=
  let size := payload.length
  let body := [address, Char.ofNat (size % 256), Char.ofNat (size / 256 % 256), dataType] ++ payload
  let crc := crc16 body
  body ++ [Char.ofNat (crc &&& 0xFF).toNat, Char.ofNat ((crc >>> 8) &&& 0xFF).toNat]

/-- `handle_send_binary_data`.  `payload_size` is `cb_bytes - 1` as a `uint16_t`. -/
def handleSendBinaryData (env : Env) (ctx : Ctx) (page : Nat) : Outcome :=
  let empty (ctx : Ctx) (calls : List Call) : Outcome :=
    let ctx := { ctx with respBuf := emptyBinaryPacket ctx.address, respLen := 6 }
    ⟨.ok, ctx, calls ++ sendResponse ctx⟩
  if !ctx.dataAvailable || !ctx.cb.formatBinaryPage then empty ctx []
  else
    let bytes := env.formatBinaryPage page ctx.dataCache
    let called := [Call.formatBinaryPage page ctx.dataCache]
    if bytes.length = 0 then empty ctx called
    else
      let payloadSize := (bytes.length - 1) % 65536
      let ctx := { ctx with
        respBuf := binaryPacket ctx.address (bytes.getD 0 '\x00') ((bytes.drop 1).take payloadSize)
        respLen := 4 + payloadSize + 2 }
      ⟨.ok, ctx, called ++ sendResponse ctx⟩

/-- The value budget of a data page after a measurement of the given type. -/
def maxValueChars (type : MeasType) : Nat :=
  if type = .concurrent ∨ type = .continuous ∨ type = .highVolAscii then cValuesMaxChars
  else mValuesMaxChars

/-- `handle_send_data`. -/
def handleSendData (env : Env) (ctx : Ctx) (page : Nat) : Outcome :=
  if !ctx.dataAvailable then
    let ctx := { ctx with respBuf := addressOnlyBuffer ctx.address ctx.crcRequested }
    ⟨.ok, ctx, sendResponse ctx⟩
  else if ctx.pendingMeasType = .highVolBinary ∧ ctx.cb.formatBinaryPage then
    let bytes := env.formatBinaryPage page ctx.dataCache
    let pos := 1 + bytes.length
    let buf := ctx.address :: bytes
    let ctx :=
      if ctx.crcRequested then
        { ctx with respBuf := (crcAppendN buf pos maxResponseLen).2, respLen := pos + 3 + 2 }
      else
        { ctx with respBuf := if pos + 2 < maxResponseLen then buf ++ crlf else buf,
                   respLen := pos + 2 }
    ⟨.ok, ctx, Call.formatBinaryPage page ctx.dataCache :: sendResponse ctx⟩
  else
    let ctx := formatDataPage env ctx page (maxValueChars ctx.pendingMeasType)
    ⟨.ok, ctx, sendResponse ctx⟩

/-- `handle_continuous`. -/
def handleContinuous (env : Env) (ctx : Ctx) (index : Nat) (withCrc : Bool) : Outcome :=
  let ctx := { ctx with crcRequested := withCrc, pendingMeasType := .continuous }
  if countGroup ctx index = 0 then
    let ctx := { ctx with respBuf := addressOnlyBuffer ctx.address withCrc }
    ⟨.ok, ctx, sendResponse ctx⟩
  else
    let read := readGroupSync env ctx index
    let ctx := formatDataPage env read.1 0 cValuesMaxChars
    ⟨.ok, ctx, read.2 ++ sendResponse ctx⟩

/-- `handle_change_address`. -/
def handleChangeAddress (ctx : Ctx) (newAddr : Char) : Outcome :=
  if !validAddress newAddr then ⟨.invalidAddress, ctx, []⟩
  else
    let ctx := { ctx with address := newAddr }
    let saved := if ctx.cb.saveAddress then [Call.saveAddress newAddr] else []
    let out := reply ctx (newAddr :: crlf)
    { out with calls := saved ++ out.calls }

/-- `handle_highvol_stub`. -/
def handleHighvolStub (ctx : Ctx) : Outcome :=
  reply ctx (ctx.address :: ['0', '0', '0', '0', '0', '0'] ++ crlf)


/-! ## Identify-measurement metadata -/

/-- Signed `int` arithmetic of the `_nnn` accumulator, two's-complement as the library's
targets wrap it. -/
def wrapInt32 (x : Int) : Int := (x + 0x80000000) % 0x100000000 - 0x80000000

/-- The `while (*p >= '0' && *p <= '9')` loop that reads the parameter number after `_`. -/
def parseParamNum : List Char → Int → Int
  | c :: rest, acc => if isDigit c then parseParamNum rest (wrapInt32 (acc * 10 + digitValue c)) else acc
  | [], acc => acc

/-- `memchr(cmd + 2, '_', len - 2)`. -/
def findUnderscore (cmd : List Char) (len : Nat) : Option Nat :=
  (((cmd.take len).drop 2).indexOf? '_').map (· + 2)

/-- The group a `_nnn` request names: the digit after `M`/`MC`/`C`/`CC` before the
underscore, the character after `R`, and 0 otherwise. -/
def metadataGroup (cmd : List Char) (underscore : Nat) : Nat :=
  let byte (i : Nat) := cmd.getD i '\x00'
  if byte 2 = 'M' ∨ byte 2 = 'C' then
    let afterMc := if byte 3 = 'C' then 4 else 3
    if '1' ≤ byte afterMc ∧ byte afterMc ≤ '9' ∧ afterMc < underscore then digitValue (byte afterMc)
    else 0
  else if byte 2 = 'R' then (if isDigit (byte 3) then digitValue (byte 3) else 0)
  else 0

/-- The capability summary of `handle_identify_measurement` for a request without `_`. -/
def metadataSummary (ctx : Ctx) (cmd : List Char) (len : Nat) : List Char :=
  let byte (i : Nat) := cmd.getD i '\x00'
  let digitGroup (pos : Nat) :=
    if pos < len ∧ '1' ≤ byte pos ∧ byte pos ≤ '9' then digitValue (byte pos) else 0
  let crcPos := if 3 < len ∧ byte 3 = 'C' then 4 else 3
  let header (count : List Char) := ctx.address :: ['0', '0', '0'] ++ count ++ crlf
  match byte 2 with
  | 'M' => header (formatUnsigned 1 (min (countGroup ctx (digitGroup crcPos)) 9))
  | 'C' => header (formatUnsigned 2 (min (countGroup ctx (digitGroup crcPos)) 99))
  | 'V' => header (formatUnsigned 1 (min (countGroup ctx 0) 9))
  | 'H' =>
    if 3 < len ∧ (byte 3 = 'A' ∨ byte 3 = 'B') then header (formatUnsigned 3 (countGroup ctx 0))
    else header ['0', '0', '0']
  | 'R' =>
    let group := if 3 < len ∧ isDigit (byte 3) then digitValue (byte 3) else 0
    header (formatUnsigned 2 (min (countGroup ctx group) 99))
  | _ => header ['0']

/-- `handle_identify_measurement`. -/
def handleIdentifyMeasurement (ctx : Ctx) (cmd : List Char) (len : Nat) : Outcome :=
  if len < 3 then ⟨.invalidCommand, ctx, []⟩
  else match findUnderscore cmd len with
  | none => reply ctx (metadataSummary ctx cmd len)
  | some underscore =>
    let paramNum := parseParamNum (cmd.drop (underscore + 1)) 0
    let indices := collectGroupIndices ctx.params (metadataGroup cmd underscore) maxParams
    let crc := ((cmd.take underscore).drop 2).contains 'C'
    if 1 ≤ paramNum ∧ paramNum ≤ indices.length then
      let param := ctx.params.getD (indices.getD (paramNum.toNat - 1) 0) default
      let text := snprintf maxResponseLen
        (ctx.address :: ',' :: param.shef ++ ',' :: param.units ++ [';'])
      let ctx := { ctx with
        crcRequested := crc
        respBuf := if crc then (crcAppend text maxResponseLen).2 else cString text ++ crlf }
      ⟨.ok, ctx, sendResponse ctx⟩
    else
      let ctx := { ctx with respBuf := addressOnlyBuffer ctx.address crc }
      ⟨.ok, ctx, sendResponse ctx⟩

/-! ## Extended commands -/

/-- The registration `handle_extended` dispatches to: the first active one whose prefix
starts the command body. -/
def findXcmd (xcmds : List XcmdReg) (body : List Char) : Option XcmdReg :=
  xcmds.find? fun x => x.active && x.pfx.isPrefixOf body

/-- The CR LF `handle_extended` adds to a handler's reply when it lacks one and fits. -/
def terminateReply (buf : List Char) : List Char :=
  let s := cString buf
  if !endsWithCrlf s && s.length + 2 < maxResponseLen then s ++ crlf else buf

/-- `handle_extended`.  The handler sees the command from `cmd + 2` on, as the C string it
is in the caller's buffer. -/
def handleExtended (env : Env) (ctx : Ctx) (cmd : List Char) (len : Nat) : Outcome :=
  match findXcmd ctx.xcmds ((cmd.take len).drop 2) with
  | none => reply ctx (ctx.address :: crlf)
  | some x =>
    let answer := env.xcmdHandler x.handler (cmd.drop 2) [ctx.address]
    let called := Call.xcmdHandler x.handler (cmd.drop 2)
    if answer.1 = .ok then
      let ctx := { ctx with respBuf := terminateReply answer.2 }
      ⟨.ok, ctx, called :: sendResponse ctx⟩
    else ⟨answer.1, { ctx with respBuf := answer.2 }, [called]⟩

end Sdi12.Sensor
