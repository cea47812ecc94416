import Sdi12.Link

namespace Sdi12.Sensor

/-! # From a measurement command to its data

What a measurement command leaves for the data pages: the header it answers, the values it
caches, and what becomes of a cache that a command on an empty group, or a late
`sdi12_sensor_measurement_done`, finds in place.
-/

open Master

@[simp] theorem countGroup_abortConcurrent (ctx : Ctx) (addressed : Bool) (group : Nat) :
    countGroup (abortConcurrent ctx addressed) group = countGroup ctx group := by
  simp [countGroup]

/-- With `read_param` installed and the parameter table within its array, a synchronous read
caches one value per parameter of the group. -/
theorem readGroupSync_cache_length_eq (env : Env) (ctx : Ctx) (group : Nat)
    (reads : ctx.cb.readParam = true) (bounded : ctx.params.length ≤ maxParams) :
    (readGroupSync env ctx group).1.dataCache.length = countGroup ctx group := by
  rw [readGroupSync_ctx]
  simp only [reads, if_true, List.length_map]
  exact length_collectGroupIndices _ ((List.countP_le_length _).trans bounded)

/-- A measurement of a non-empty group answered at once (no `start_measurement` hook, or one
that asks for no time) answers its header with `ttt = 0` and caches what a synchronous
read of the group caches. -/
theorem handleMeasurement_sync (env : Env) (ctx : Ctx) {group : Nat} (withCrc : Bool)
    {type : MeasType} (measured : type ≠ .continuous) (nonEmpty : countGroup ctx group ≠ 0)
    (sync : ctx.cb.startMeasurement = false ∨ (env.startMeasurement group type).toNat = 0) :
    (handleMeasurement env ctx group withCrc type).ctx.respBuf =
        snprintf maxResponseLen (measurementHeader ctx.address 0 (countGroup ctx group) type) ∧
      (handleMeasurement env ctx group withCrc type).ctx.dataCache =
        (readGroupSync env ctx group).1.dataCache := by
  have counted :
      countGroup { ctx with crcRequested := withCrc, pendingMeasType := type,
                            pendingMeasGroup := group } group ≠ 0 := nonEmpty
  simp only [handleMeasurement, counted, if_false]
  split
  · rename_i hooked
    have noTime : (env.startMeasurement group type).toNat = 0 := by simpa [hooked] using sync
    simp [measureAsync, measured, noTime, readGroupSync_ctx, countGroup]
  · simp [measureSync, readGroupSync_ctx, countGroup]

/-- Answered at once, a measurement command the master builds for a non-empty group gets
its header with `ttt = 0`, and the cache then holds one value per parameter of the group:
the header's count saturates (at 9 for `M` and `V`, at 99 for `C`) where the cache does
not. -/
theorem header_count_of_sync_measurement (env : Env) (ctx : Ctx) {type : MeasType}
    {group : Nat} {crc : Bool} {cmd : List Char} (small : group < 10)
    (built : measurementCommand ctx.address type group crc = some cmd)
    (reads : ctx.cb.readParam = true) (bounded : ctx.params.length ≤ maxParams)
    (nonEmpty : countGroup ctx (measuredGroup type group) ≠ 0)
    (sync : ctx.cb.startMeasurement = false ∨
      (env.startMeasurement (measuredGroup type group) type).toNat = 0) :
    (process env ctx cmd).ctx.respBuf = snprintf maxResponseLen
        (measurementHeader ctx.address 0 (countGroup ctx (measuredGroup type group)) type) ∧
      (process env ctx cmd).ctx.dataCache.length = countGroup ctx (measuredGroup type group) := by
  have measured : type ≠ .continuous := by
    rintro rfl
    simp [measurementCommand] at built
  obtain ⟨header, cache⟩ := handleMeasurement_sync env (abortConcurrent { ctx with respLen := 0 } true)
    (sentCrc type crc) measured (by simpa using nonEmpty) (by simpa using sync)
  rw [process_measurementCommand env ctx small built]
  refine ⟨by simpa [countGroup] using header, ?_⟩
  rw [cache, readGroupSync_cache_length_eq _ _ _ (by simpa using reads) (by simpa using bounded)]
  simp [countGroup]

/-- The sensor at address `0` after ten parameters have been registered in group 0. -/
def tenParamSensor : Ctx :=
  run sensorZero (List.replicate 10 (.registerParam 0 (some ['T']) (some ['C']) 0))

set_option maxRecDepth 8000 in
/-- `0M!` on ten parameters: the header announces nine values, the cache holds ten. -/
theorem header_announces_nine_of_ten :
    Reachable tenParamSensor ∧
      (process quietEnv tenParamSensor ['0', 'M', '!']).ctx.respBuf =
        ['0', '0', '0', '0', '9', '\r', '\n'] ∧
      (process quietEnv tenParamSensor ['0', 'M', '!']).ctx.dataCache.length = 10 :=
  ⟨reachable_run sensorZero_reachable _, by decide, by decide⟩

set_option maxRecDepth 8000 in
theorem header_count_of_sync_measurement_on_ten_params :
    (process quietEnv tenParamSensor ['0', 'M', '!']).ctx.respBuf =
        snprintf maxResponseLen (measurementHeader '0' 0 10 .standard) ∧
      (process quietEnv tenParamSensor ['0', 'M', '!']).ctx.dataCache.length = 10 :=
  @header_count_of_sync_measurement quietEnv tenParamSensor .standard 0 false _ (by decide) rfl
    (by decide) (by decide) (by decide) (.inl rfl)

/-! ## Stale data -/

/-- A measurement command on a group with no parameters, outside `MEASURING_C`, answers the
zero-count header and keeps the cache and `data_available` of the measurement before it. -/
theorem empty_group_keeps_stale_cache (env : Env) (ctx : Ctx) {type : MeasType} {group : Nat}
    {crc : Bool} {cmd : List Char} (small : group < 10)
    (built : measurementCommand ctx.address type group crc = some cmd)
    (notConcurrent : ctx.state ≠ .measuringC)
    (empty : countGroup ctx (measuredGroup type group) = 0) :
    (process env ctx cmd).ctx.dataCache = ctx.dataCache ∧
      (process env ctx cmd).ctx.dataAvailable = ctx.dataAvailable := by
  have idle : ({ ctx with respLen := 0 } : Ctx).state ≠ .measuringC := notConcurrent
  rw [process_measurementCommand env ctx small built, abortConcurrent_of_ne _ idle,
    handleMeasurement_empty env { ctx with respLen := 0 } _ _ empty]
  exact ⟨rfl, rfl⟩

/-- The sensor at address `0` with one parameter in group 0, after `0M!`. -/
def measuredSensor : Ctx :=
  run sensorZero [.registerParam 0 (some ['T', 'A']) (some ['C']) 1, .process quietEnv ['0', 'M', '!']]

set_option maxRecDepth 8000 in
/-- After `0M!` and `0M1!` on an empty group 1, `0D0!` still serves the value of `0M!`. -/
theorem empty_group_keeps_stale_cache_after_measurement :
    Reachable measuredSensor ∧ measuredSensor.dataCache ≠ [] ∧
      (process quietEnv measuredSensor ['0', 'M', '1', '!']).ctx.dataCache =
        measuredSensor.dataCache ∧
      (process quietEnv measuredSensor ['0', 'M', '1', '!']).ctx.dataAvailable =
        measuredSensor.dataAvailable ∧
      (process quietEnv (process quietEnv measuredSensor ['0', 'M', '1', '!']).ctx
        ['0', 'D', '0', '!']).ctx.respBuf = ['0', '+', '0', '\r', '\n'] :=
  have stale := @empty_group_keeps_stale_cache quietEnv measuredSensor .standard 1 false _
    (by decide) rfl (by decide) (by decide)
  ⟨reachable_run sensorZero_reachable _, by decide, stale.1, stale.2, by decide⟩

/-! ## Late completions -/

/-- Past page 0, the loop of `format_data_page` never writes: its page counter only moves
while it is writing the requested page, so it stays at 0. -/
theorem pageLoop_later_page (formatValue : Value → List Char) {page : Nat} (later : 0 < page)
    (maxValueChars : Nat) (values : List Value) :
    pageLoop formatValue page maxValueChars values 0 [] false = ([], false) := by
  induction values with
  | nil => rfl
  | cons value rest ih =>
    simp only [pageLoop]
    split
    · exact ih
    · simp [later.ne, ih]

/-- Every ASCII data page past page 0 is answered as if there were no data: the address,
then the CRC when it was requested, then CR LF. -/
theorem later_data_pages_address_only (env : Env) (ctx : Ctx) {page : Nat} (later : 0 < page)
    (ascii : ¬(ctx.pendingMeasType = .highVolBinary ∧ ctx.cb.formatBinaryPage = true)) :
    (handleSendData env ctx page).ctx.respBuf = addressOnlyBuffer ctx.address ctx.crcRequested := by
  have content : pageContent env.formatValue ctx page (maxValueChars ctx.pendingMeasType) =
      [ctx.address] := by
    simp [pageContent, pageLoop_later_page _ later, later]
  simp only [handleSendData, formatDataPage, content, addressOnlyBuffer, ascii, if_false]
  split <;> simp [snprintf, crlf]

theorem vbufCopy_of_length_le {text : List Char} (short : text.length ≤ valueMaxChars) :
    vbufCopy text = text := by
  have fits : text.length ≤ 9 := short
  have noTail : text.length - 10 = 0 := by omega
  simp [vbufCopy, List.take_of_length_le fits, noTail]

/-- On page 0, while the texts fit the page budget and the buffer, the loop of
`format_data_page` appends every text in cache order. -/
theorem pageLoop_first_page (formatValue : Value → List Char) (maxValueChars : Nat) :
    ∀ (values : List Value) (written : List Char) (anyOnPage : Bool),
      (∀ value ∈ values, (formatValue value).length ≤ valueMaxChars) →
      written.length + ((values.map formatValue).flatten).length ≤ maxValueChars →
      written.length + ((values.map formatValue).flatten).length < maxResponseLen - 7 →
      (pageLoop formatValue 0 maxValueChars values 0 written anyOnPage).1 =
        written ++ (values.map formatValue).flatten
  | [], written, _, _, _, _ => by simp [pageLoop]
  | value :: rest, written, anyOnPage, short, budget, room => by
    have later := pageLoop_first_page formatValue maxValueChars rest
    have shortRest : ∀ v ∈ rest, (formatValue v).length ≤ valueMaxChars :=
      fun v member => short v (List.mem_cons_of_mem _ member)
    have bufferSize : maxResponseLen = 82 := rfl
    simp only [List.map_cons, List.flatten_cons, List.length_append] at budget room
    simp only [pageLoop]
    split
    · rename_i empty
      rw [later written anyOnPage shortRest (by omega) (by omega)]
      simp [List.eq_nil_of_length_eq_zero empty]
    · simp only [show ¬(written.length + (formatValue value).length > maxValueChars) by omega,
        decide_False, Bool.false_and, Bool.false_eq_true, if_false, if_true,
        show ¬(maxResponseLen - 6 ≤ 1 + written.length + (formatValue value).length) by omega,
        vbufCopy_of_length_le (short value (List.mem_cons_self _ _))]
      rw [later _ true shortRest (by simp only [List.length_append]; omega)
        (by simp only [List.length_append]; omega)]
      simp

/-- `aD0!` on ASCII data that fits one page answers the address and every value text in
cache order, then the CRC when it was requested, then CR LF. -/
theorem first_data_page_whole_cache (env : Env) (ctx : Ctx) (available : ctx.dataAvailable = true)
    (ascii : ¬(ctx.pendingMeasType = .highVolBinary ∧ ctx.cb.formatBinaryPage = true))
    (short : ∀ value ∈ ctx.dataCache, (env.formatValue value).length ≤ valueMaxChars)
    (budget : ((ctx.dataCache.map env.formatValue).flatten).length ≤
      maxValueChars ctx.pendingMeasType)
    (room : ((ctx.dataCache.map env.formatValue).flatten).length < maxResponseLen - 7) :
    (handleSendData env ctx 0).ctx.respBuf =
      if ctx.crcRequested then
        (crcAppend (ctx.address :: (ctx.dataCache.map env.formatValue).flatten) maxResponseLen).2
      else ctx.address :: (ctx.dataCache.map env.formatValue).flatten ++ crlf := by
  have content : pageContent env.formatValue ctx 0 (maxValueChars ctx.pendingMeasType) =
      ctx.address :: (ctx.dataCache.map env.formatValue).flatten := by
    have whole := pageLoop_first_page env.formatValue _ ctx.dataCache [] false short
      (by simpa using budget) (by simpa using room)
    simp only [pageContent, lt_irrefl, decide_False, Bool.and_false, Bool.false_eq_true, if_false]
    rw [whole, List.nil_append]
  simp only [handleSendData, available, ascii, formatDataPage, content, Bool.not_true,
    Bool.false_eq_true, if_false]
  split
  · rfl
  · rw [if_pos (by simp only [List.length_cons]; omega)]

theorem first_data_page_whole_cache_of_measured_sensor :
    (handleSendData quietEnv measuredSensor 0).ctx.respBuf = ['0', '+', '0', '\r', '\n'] := by
  rw [first_data_page_whole_cache quietEnv measuredSensor (by decide) (by decide) (by decide)
    (by decide) (by decide)]
  decide

/-- The pages the specification describes, not the code: the value texts in cache order,
split so that a new page starts exactly when the next text would take the current page over
the budget. -/
def greedyPages (budget : Nat) : List (List Char) → List Char → List (List Char)
  | [], run => [run]
  | text :: rest, run =>
    if budget < run.length + text.length ∧ run ≠ [] then run :: greedyPages budget rest text
    else greedyPages budget rest (run ++ text)

/-- Hook answers under which every value reads as the nine bytes `+1234.567`. -/
def nineCharEnv : Env := { quietEnv with formatValue := fun _ => ['+', '1', '2', '3', '4', '.', '5', '6', '7'] }

/-- The sensor at address `0` with five parameters in group 0, after `0M!`. -/
def fiveValueSensor : Ctx :=
  run sensorZero (List.replicate 5 (.registerParam 0 (some ['T']) (some ['C']) 3) ++
    [.process nineCharEnv ['0', 'M', '!']])

set_option maxRecDepth 8000 in
/-- Five nine-byte values make two specified pages of 27 and 18 bytes; `0D0!` and `0D1!`
both answer the bare address. -/
theorem later_data_pages_address_only_at_five_values :
    Reachable fiveValueSensor ∧
      (greedyPages mValuesMaxChars (fiveValueSensor.dataCache.map nineCharEnv.formatValue) []).map
        List.length = [27, 18] ∧
      (process nineCharEnv fiveValueSensor ['0', 'D', '0', '!']).ctx.respBuf = ['0', '\r', '\n'] ∧
      (process nineCharEnv fiveValueSensor ['0', 'D', '1', '!']).ctx.respBuf = ['0', '\r', '\n'] ∧
      (handleSendData nineCharEnv fiveValueSensor 1).ctx.respBuf =
        addressOnlyBuffer fiveValueSensor.address fiveValueSensor.crcRequested :=
  ⟨reachable_run sensorZero_reachable _, by decide, by decide, by decide,
    later_data_pages_address_only nineCharEnv fiveValueSensor (by decide) (by decide)⟩

end Sdi12.Sensor
