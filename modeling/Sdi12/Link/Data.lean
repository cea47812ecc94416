import Sdi12.DataValues
import Sdi12.Link.Metadata

namespace Sdi12

/-! # Reading data back: `aD0!` and `aRn!`

`format_data_page` writes the address and the value texts of page 0 as one line, with the
CRC when one was requested; `sdi12_master_get_data` and `sdi12_master_continuous` trim that
line, take its first byte as the address, drop the CRC when they asked for one, and scan the
rest.  When `format_value` writes every value as a token `[+-][0-9]+(.[0-9]*)?` and the texts
fit the page, the master reads back, in cache order, one value per cached value: the value
its scan makes of that value's text.  The sensor's line is stated once (`crcLine` of the
address and the texts) and the master's reader is proved on every line of that shape.
-/

open Sensor Master

/-! ## The bytes of a page -/

/-- A token holds no NUL, CR or LF. -/
theorem Master.Token.text_clean (token : Token) : ∀ c ∈ token.text, c ≠ '\x00' ∧ c ≠ '\r' ∧ c ≠ '\n' := by
  obtain ⟨tail, text, -, values⟩ := token.text_cons
  rw [text]
  intro c member
  rcases List.mem_cons.mp member with rfl | inTail
  · rcases token.signed with same | same <;> rw [same] <;> decide
  · have byte := values c inTail
    refine ⟨?_, ?_, ?_⟩ <;> rintro rfl <;> exact absurd byte (by decide)

/-- The address and the value texts, when every text is a token, hold no NUL, CR or LF. -/
theorem pageText_clean {α : Type} {address : Char} (valid : validAddress address = true) {format : α → List Char}
    {values : List α} (formatted : ∀ v ∈ values, ∃ token : Token, format v = token.text) :
    ∀ c ∈ address :: (values.map format).flatten, c ≠ '\x00' ∧ c ≠ '\r' ∧ c ≠ '\n' := by
  intro c member
  rcases List.mem_cons.mp member with rfl | inText
  · exact validAddress_ne valid
  · obtain ⟨text, inTexts, inThis⟩ := List.mem_flatten.mp inText
    obtain ⟨v, inValues, rfl⟩ := List.mem_map.mp inTexts
    obtain ⟨token, same⟩ := formatted v inValues
    exact token.text_clean c (same ▸ inThis)

theorem endsWithCrlf_of_clean {s : List Char} (nonempty : s ≠ []) (clean : ∀ c ∈ s, c ≠ '\n') :
    endsWithCrlf s = false := by
  rw [← List.dropLast_append_getLast nonempty]
  exact endsWithCrlf_append_singleton _ (clean _ (List.getLast_mem nonempty))

/-- Page 0 as `format_data_page` writes it when every value text is a token and the texts
fit both the page budget and the buffer: the address and the texts in cache order, as one
line with the CRC when it was requested. -/
theorem formatDataPage_first (env : Env) {ctx : Ctx} (valid : validAddress ctx.address = true)
    {chars : Nat} (formatted : ∀ v ∈ ctx.dataCache, ∃ token : Token, env.formatValue v = token.text)
    (budget : ((ctx.dataCache.map env.formatValue).flatten).length ≤ chars)
    (room : ((ctx.dataCache.map env.formatValue).flatten).length < maxResponseLen - 7) :
    (formatDataPage env ctx 0 chars).respBuf =
      crcLine ctx.crcRequested (ctx.address :: (ctx.dataCache.map env.formatValue).flatten) := by
  have short : ∀ v ∈ ctx.dataCache, (env.formatValue v).length ≤ valueMaxChars := fun v member => by
    obtain ⟨token, same⟩ := formatted v member
    exact same ▸ token.short
  have content : pageContent env.formatValue ctx 0 chars =
      ctx.address :: (ctx.dataCache.map env.formatValue).flatten := by
    have whole := pageLoop_first_page env.formatValue chars ctx.dataCache [] false short
      (by simpa using budget) (by simpa using room)
    simp only [pageContent, lt_irrefl, decide_False, Bool.and_false, Bool.false_eq_true, if_false]
    rw [whole, List.nil_append]
  have clean := pageText_clean valid formatted
  simp only [formatDataPage, content]
  cases ctx.crcRequested
  · rw [if_neg Bool.false_ne_true, if_pos (by simp only [List.length_cons]; omega)]
    simp [crcLine]
  · rw [if_pos rfl, crcAppend_of_open (fun c member => (clean c member).1)
      (endsWithCrlf_of_clean (List.cons_ne_nil _ _) fun c member => (clean c member).2.2)
      (by simp only [List.length_cons]; omega)]

/-! ## The master's reader -/

theorem trimCrlf_crcLine_of_clean (crc : Bool) {text : List Char} (clean : ∀ c ∈ text, c ≠ '\r' ∧ c ≠ '\n') :
    trimCrlf (crcLine crc text) = text ++ if crc then crcEncodeAscii (crc16 text) else [] :=
  trimCrlf_append_crlf_of_clean fun c member => by
    rcases List.mem_append.mp member with inText | inCrc
    · exact clean c inText
    · split at inCrc
      · exact ⟨crcChar_ne inCrc (by decide), crcChar_ne inCrc (by decide)⟩
      · contradiction

/-- What `sdi12_master_get_data` and `sdi12_master_continuous` make of a line of the
sensor's shape whose text holds no CR or LF: the first byte is the address, and the scan
reads the rest without the CRC the master expects. -/
theorem requestData_crcLine (strtof : List Char → UInt32) {bus : List Char → List Char} {cmd : List Char}
    (short : (cString cmd).length ≤ maxCommandLen) (crc : Bool) (resp : DataResponse) {address : Char}
    {data : List Char} (answered : bus cmd = crcLine crc (address :: data))
    (clean : ∀ c ∈ address :: data, c ≠ '\r' ∧ c ≠ '\n') (fits : data.length + 6 < respBufSize) :
    requestData strtof bus cmd crc resp =
      (.ok, { resp with address, values := parseValues strtof maxValues data }) := by
  have trimmed := trimCrlf_crcLine_of_clean crc clean
  have received := transact_line short answered
    (by have := length_crcLine_le crc (address :: data); simp only [List.length_cons] at this; omega)
    (by rw [trimmed]; simp)
  simp only [requestData, received, trimmed, List.cons_append]
  cases crc
  · simp [parseDataValues]
  · simp [parseDataValues, crcEncodeAscii]

/-- The scan over token texts written one after the other reads each token's value, as
many as there is room for. -/
theorem parseValues_tokens {α : Type} (strtof : List Char → UInt32) (format : α → List Char) :
    ∀ (values : List α) (room : Nat), (∀ v ∈ values, ∃ token : Token, format v = token.text) →
      parseValues strtof room (values.map format).flatten =
        (values.map fun v => tokenValue strtof (format v)).take room
  | [], room, _ => by simp
  | v :: rest, room, formatted => by
    obtain ⟨token, same⟩ := formatted v (List.mem_cons_self _ _)
    have later := parseValues_tokens strtof format rest
    have formattedRest : ∀ w ∈ rest, ∃ token : Token, format w = token.text :=
      fun w member => formatted w (List.mem_cons_of_mem _ member)
    have boundary : ∀ c ∈ ((rest.map format).flatten).head?, isValueByte c = false := by
      cases rest with
      | nil => simp
      | cons w _ =>
        obtain ⟨next, nextSame⟩ := formattedRest w (List.mem_cons_self _ _)
        obtain ⟨tail, text, -⟩ := next.text_cons
        simp only [List.map_cons, List.flatten_cons, nextSame, text, List.cons_append, List.head?_cons,
          Option.mem_def, Option.some.injEq]
        rintro c rfl
        exact next.sign_not_value
    cases room with
    | zero => simp
    | succ room =>
      rw [List.map_cons, List.flatten_cons, same, parseValues_token strtof room token boundary,
        later room formattedRest, ← tokenValue_text]
      simp [same]

/-! ## The exchanges -/

/-- The line a sensor answers with when its last call is `send_response` with `resp_len`
cleared: the C string of its buffer. -/
theorem lastSent_sendResponse {c : Ctx} (installed : c.cb.sendResponse = true) (cleared : c.respLen = 0)
    (before : List Call) (quiet : ∀ call ∈ before, call.sent = none) :
    ((before ++ sendResponse c).filterMap Call.sent).getLastD [] = cString c.respBuf := by
  rw [List.filterMap_append, List.filterMap_eq_nil_iff.mpr quiet]
  simp [sendResponse, installed, Call.sent, responseBytes, cleared]

/-- `handle_send_data` on ASCII data: `format_data_page`, then `send_response`. -/
theorem handleSendData_ascii (env : Env) (ctx : Ctx) (page : Nat) (available : ctx.dataAvailable = true)
    (ascii : ¬(ctx.pendingMeasType = .highVolBinary ∧ ctx.cb.formatBinaryPage = true)) :
    handleSendData env ctx page =
      ⟨.ok, formatDataPage env ctx page (maxValueChars ctx.pendingMeasType),
        sendResponse (formatDataPage env ctx page (maxValueChars ctx.pendingMeasType))⟩ := by
  rw [handleSendData, if_neg (by simp [available]), if_neg ascii]

/-- `aD0!` as `sdi12_sensor_process` hands it on outside `MEASURING_C`: `handle_send_data`
of page 0. -/
theorem process_firstPageRequest (env : Env) {ctx : Ctx} (notConcurrent : ctx.state ≠ .measuringC) :
    process env ctx [ctx.address, 'D', '0', '!'] = handleSendData env { ctx with respLen := 0 } 0 := by
  rw [show [ctx.address, 'D', '0', '!'] = ctx.address :: 'D' :: ['0'] ++ ['!'] from rfl,
    @process_sendData_digits env ctx ['0'] (by decide) (by simp),
    @abortConcurrent_of_ne { ctx with respLen := 0 } true notConcurrent]
  rfl

/-- What a reachable sensor outside `MEASURING_C` with ASCII data whose texts are tokens
that fit page 0 answers `aD0!` with: the address and the texts in cache order, with the CRC
when the measurement asked for one. -/
theorem answer_firstPageRequest (env : Env) {ctx : Ctx} (reachable : Reachable ctx)
    (available : ctx.dataAvailable = true) (notConcurrent : ctx.state ≠ .measuringC)
    (ascii : ¬(ctx.pendingMeasType = .highVolBinary ∧ ctx.cb.formatBinaryPage = true))
    (formatted : ∀ v ∈ ctx.dataCache, ∃ token : Token, env.formatValue v = token.text)
    (budget : ((ctx.dataCache.map env.formatValue).flatten).length ≤ maxValueChars ctx.pendingMeasType)
    (room : ((ctx.dataCache.map env.formatValue).flatten).length < maxResponseLen - 7) :
    answer env ctx [ctx.address, 'D', '0', '!'] =
      crcLine ctx.crcRequested (ctx.address :: (ctx.dataCache.map env.formatValue).flatten) := by
  have inv := reachable.invariant
  have clean := pageText_clean inv.validAddress formatted
  rw [answer, process_firstPageRequest env notConcurrent,
    handleSendData_ascii env { ctx with respLen := 0 } 0 available ascii, ← List.nil_append (sendResponse _),
    lastSent_sendResponse _ _ [] (by simp), @formatDataPage_first env { ctx with respLen := 0 } inv.validAddress _
      formatted budget room, cString_crcLine _ fun c member => (clean c member).1]
  · exact inv.callbacksInstalled.1
  · rfl

/-- `sdi12_master_get_data` of page 0 on a bus that answers `aD0!` in the sensor's line shape
with the address and token texts that fit a page: `SDI12_OK`, the address, and the value of
each text in order. -/
theorem getData_firstPage (strtof : List Char → UInt32) {bus : List Char → List Char} {addr : Char}
    (valid : validAddress addr = true) (crc : Bool) (resp : DataResponse) {α : Type} {format : α → List Char}
    {values : List α} (formatted : ∀ v ∈ values, ∃ token : Token, format v = token.text)
    (few : values.length ≤ maxValues) (room : ((values.map format).flatten).length < maxResponseLen - 7)
    (answered : bus [addr, 'D', '0', '!'] = crcLine crc (addr :: (values.map format).flatten)) :
    getData strtof bus addr 0 crc resp =
      (.ok, { resp with address := addr, values := values.map fun v => tokenValue strtof (format v) }) := by
  have clean := pageText_clean valid formatted
  have command : snprintf 8 (addr :: 'D' :: Nat.toDigits 10 0 ++ ['!']) = [addr, 'D', '0', '!'] := rfl
  simp only [getData, valid, Bool.not_true, Bool.false_eq_true, if_false, command]
  rw [requestData_crcLine strtof ((length_cString_le _).trans (by simp)) crc resp answered
    (fun c member => (clean c member).2) (by simp only [respBufSize, maxResponseLen] at room ⊢; omega),
    parseValues_tokens strtof _ _ _ formatted, List.take_of_length_le (by simpa using few)]

/-- **`aD0!` read back.**  A reachable sensor outside `MEASURING_C` with ASCII data whose
texts are tokens that fit page 0: `sdi12_master_get_data` of page 0, with the CRC flag of
the measurement, returns `SDI12_OK`, the sensor's address, and one value per cached value in
cache order, the value its scan makes of that value's text. -/
theorem send_data_exchange (env : Env) {ctx : Ctx} (reachable : Reachable ctx)
    (strtof : List Char → UInt32) (resp : DataResponse) (available : ctx.dataAvailable = true)
    (notConcurrent : ctx.state ≠ .measuringC)
    (ascii : ¬(ctx.pendingMeasType = .highVolBinary ∧ ctx.cb.formatBinaryPage = true))
    (formatted : ∀ v ∈ ctx.dataCache, ∃ token : Token, env.formatValue v = token.text)
    (budget : ((ctx.dataCache.map env.formatValue).flatten).length ≤ maxValueChars ctx.pendingMeasType)
    (room : ((ctx.dataCache.map env.formatValue).flatten).length < maxResponseLen - 7) :
    getData strtof (answer env ctx) ctx.address 0 ctx.crcRequested resp =
      (.ok, { resp with address := ctx.address,
                        values := ctx.dataCache.map fun v => tokenValue strtof (env.formatValue v) }) :=
  have inv := reachable.invariant
  getData_firstPage strtof inv.validAddress _ resp formatted (inv.cacheBound.trans (by decide)) room
    (answer_firstPageRequest env reachable available notConcurrent ascii formatted budget room)

/-- The token `+0`, the text `quietEnv` writes every value as. -/
def plusZero : Token := ⟨'+', ['0'], none, .inl rfl, ⟨by simp, by decide⟩, by simp, by decide⟩

set_option maxRecDepth 8000 in
/-- `0D0!` to the sensor that measured its one parameter with `0M!` reads back that value. -/
theorem send_data_exchange_at_measured_sensor :
    getData (fun _ => 0) (answer quietEnv measuredSensor) '0' 0 false ⟨'0', [], false⟩ =
      (.ok, ⟨'0', [⟨0, 0⟩], false⟩) :=
  (send_data_exchange quietEnv (reachable_run sensorZero_reachable _) (fun _ => 0) ⟨'0', [], false⟩
    (by decide) (by decide) (by decide) (fun _ _ => ⟨plusZero, rfl⟩) (by decide) (by decide)).trans (by decide)

/-- `sdi12_sensor_process` hands the `aR…!` command `sdi12_master_continuous` builds for its
address to `handle_continuous`, with the index and CRC flag the master asked for. -/
theorem process_continuousCommand (env : Env) (ctx : Ctx) {index : Nat} (small : index < 10) (crc : Bool) :
    process env ctx (ctx.address :: 'R' :: (if crc then ['C'] else []) ++ Nat.toDigits 10 index ++ ['!']) =
      handleContinuous env (abortConcurrent { ctx with respLen := 0 } true) index crc := by
  rw [process_addressed env ctx (by simp) (by rw [commandLength_append_bang]; cases crc <;> simp),
    commandLength_append_bang, toDigits_of_lt small]
  have notC : Nat.digitChar index ≠ 'C' := ne_of_isDigit (isDigit_digitChar small) rfl
  cases crc <;> simp [dispatch, continuousArgs, isDigit_digitChar small, digitValue_digitChar small, notC,
    -List.getD_eq_getElem?_getD]

/-- What a reachable sensor answers `aRn!` with, for `n` a digit: the values `read_param`
returns for the parameters of group `n`, read at once and written as page 0, with the CRC
when the command asked for one. -/
theorem answer_continuousCommand (env : Env) {ctx : Ctx} (reachable : Reachable ctx) {index : Nat}
    (small : index < 10) (crc : Bool)
    (formatted : ∀ i ∈ collectGroupIndices ctx.params index maxParams,
      ∃ token : Token, env.formatValue (env.readParam i) = token.text)
    (fits : ((collectGroupIndices ctx.params index maxParams).map fun i => env.formatValue (env.readParam i)).flatten.length <
      maxResponseLen - 7) :
    answer env ctx (ctx.address :: 'R' :: (if crc then ['C'] else []) ++ Nat.toDigits 10 index ++ ['!']) =
      crcLine crc (ctx.address ::
        ((collectGroupIndices ctx.params index maxParams).map fun i => env.formatValue (env.readParam i)).flatten) := by
  have inv := reachable.invariant
  set indices := collectGroupIndices ctx.params index maxParams
  rw [answer, process_continuousCommand env ctx small crc, handleContinuous]
  dsimp only
  split
  · rename_i empty
    have count : ctx.params.countP (ParamReg.inGroup index) = 0 := by simpa [countGroup] using empty
    have none : indices = [] := List.eq_nil_of_length_eq_zero
      ((length_collectGroupIndices _ ((List.countP_le_length _).trans inv.paramsBound)).trans count)
    rw [← List.nil_append (sendResponse _), lastSent_sendResponse _ _ [] (by simp), none]
    · simp only [abortConcurrent_address, addressOnlyBuffer_eq inv.validAddress, List.map_nil, List.flatten_nil]
      exact cString_crcLine _ (by simpa using (validAddress_ne inv.validAddress).1)
    · simpa using inv.callbacksInstalled.1
    · simp
  · have read : (readGroupSync env { abortConcurrent { ctx with respLen := 0 } true with
        crcRequested := crc, pendingMeasType := .continuous } index).1.dataCache = indices.map env.readParam := by
      simp [readGroupSync_ctx, inv.callbacksInstalled.2.2, indices]
    have cached : ∀ v ∈ indices.map env.readParam, ∃ token : Token, env.formatValue v = token.text := by
      intro v member
      obtain ⟨i, inIndices, rfl⟩ := List.mem_map.mp member
      exact formatted i inIndices
    have texts : ((indices.map env.readParam).map env.formatValue).flatten =
        (indices.map fun i => env.formatValue (env.readParam i)).flatten := by
      rw [List.map_map]
      rfl
    have page := @formatDataPage_first env _ (by simpa [readGroupSync_ctx] using inv.validAddress) cValuesMaxChars
      (read ▸ cached) (by rw [read, texts]; simp only [cValuesMaxChars, maxResponseLen] at fits ⊢; omega)
      (by rw [read, texts]; exact fits)
    rw [lastSent_sendResponse _ _ _ (by simp [readGroupSync, Call.sent]; split <;> simp [Call.sent]), page, read,
      texts]
    · simp only [readGroupSync_ctx, abortConcurrent_address]
      exact cString_crcLine _ fun c member =>
        (@pageText_clean _ _ inv.validAddress (fun i => env.formatValue (env.readParam i)) _ formatted c member).1
    · simpa using inv.callbacksInstalled.1
    · simp [readGroupSync_ctx]

/-- **`aRn!` read back.**  For a reachable sensor and a group digit `n` whose values
`format_value` writes as tokens that fit one page, `sdi12_master_continuous` returns
`SDI12_OK`, the sensor's address, and, for each parameter of group `n` in registration
order, the value its scan makes of the text of what `read_param` returned for it; with the
CRC or without. -/
theorem continuous_exchange (env : Env) {ctx : Ctx} (reachable : Reachable ctx)
    (strtof : List Char → UInt32) (resp : DataResponse) {index : Nat} (small : index < 10) (crc : Bool)
    (formatted : ∀ i ∈ collectGroupIndices ctx.params index maxParams,
      ∃ token : Token, env.formatValue (env.readParam i) = token.text)
    (fits : ((collectGroupIndices ctx.params index maxParams).map fun i => env.formatValue (env.readParam i)).flatten.length <
      maxResponseLen - 7) :
    continuous strtof (answer env ctx) ctx.address index crc resp =
      (.ok, { resp with address := ctx.address,
                        values := (collectGroupIndices ctx.params index maxParams).map fun i =>
                          tokenValue strtof (env.formatValue (env.readParam i)) }) := by
  have inv := reachable.invariant
  have clean := @pageText_clean _ _ inv.validAddress (fun i => env.formatValue (env.readParam i)) _ formatted
  have command : (ctx.address :: 'R' :: (if crc then ['C'] else []) ++ Nat.toDigits 10 index ++ ['!']).length < 8 := by
    rw [toDigits_of_lt small]
    cases crc <;> simp
  simp only [continuous, inv.validAddress, Bool.not_true, Bool.false_eq_true, if_false, snprintf_of_length_lt command]
  rw [requestData_crcLine strtof ((length_cString_le _).trans (by simp only [maxCommandLen]; omega)) crc resp
    (answer_continuousCommand env reachable small crc formatted fits) (fun c member => (clean c member).2)
    (by simp only [respBufSize, maxResponseLen] at fits ⊢; omega),
    parseValues_tokens strtof (fun i => env.formatValue (env.readParam i)) _ _ formatted,
    List.take_of_length_le ((List.length_map _ _).trans_le ((length_collectGroupIndices_le _ _ _).trans (by decide)))]

set_option maxRecDepth 8000 in
/-- `0RC0!` to the same sensor reads its one parameter afresh, with the CRC. -/
theorem continuous_exchange_at_measured_sensor :
    continuous (fun _ => 0) (answer quietEnv measuredSensor) '0' 0 true ⟨'0', [], false⟩ =
      (.ok, ⟨'0', [⟨0, 0⟩], false⟩) :=
  (continuous_exchange quietEnv (reachable_run sensorZero_reachable _) (fun _ => 0) ⟨'0', [], false⟩
    (by decide) true (fun _ _ => ⟨plusZero, rfl⟩) (by decide)).trans (by decide)

end Sdi12
