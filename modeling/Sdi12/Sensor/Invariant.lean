import Sdi12.Sensor.Engine

namespace Sdi12.Sensor

/-! # The context invariant

What every context reachable from a successful `sdi12_sensor_init` satisfies: a valid
address, tables within their arrays, well-formed registrations, a bounded data cache, a
state the engine can be in, and data available whenever the state says it is ready.  It
holds initially and every operation keeps it, whatever its arguments and hook answers.
-/

structure Invariant (ctx : Ctx) : Prop where
  validAddress : validAddress ctx.address = true
  paramsBound : ctx.params.length ≤ maxParams
  xcmdsBound : ctx.xcmds.length ≤ maxXcmds
  cacheBound : ctx.dataCache.length ≤ maxParams
  paramsWellFormed : ∀ p ∈ ctx.params, p.active = true ∧ p.group ≤ 9
  xcmdsWellFormed : ∀ x ∈ ctx.xcmds, x.active = true ∧ x.handler.isSome = true
  stateValid : ctx.state = .ready ∨ ctx.state = .measuring ∨ ctx.state = .measuringC ∨
    ctx.state = .dataReady
  dataReady : ctx.state = .dataReady → ctx.dataAvailable = true
  callbacksInstalled : ctx.cb.sendResponse = true ∧ ctx.cb.setDirection = true ∧
    ctx.cb.readParam = true

variable {env : Env} {ctx ctx' : Ctx}

/-- The invariant of a context with the configuration of an invariant one, from the parts
that speak of the measurement state. -/
theorem Invariant.of_config (inv : Invariant ctx) (address : ctx'.address = ctx.address)
    (cb : ctx'.cb = ctx.cb) (params : ctx'.params = ctx.params) (xcmds : ctx'.xcmds = ctx.xcmds)
    (cacheBound : ctx'.dataCache.length ≤ maxParams)
    (stateValid : ctx'.state = .ready ∨ ctx'.state = .measuring ∨ ctx'.state = .measuringC ∨
      ctx'.state = .dataReady)
    (dataReady : ctx'.state = .dataReady → ctx'.dataAvailable = true) : Invariant ctx' where
  validAddress := address ▸ inv.validAddress
  paramsBound := params ▸ inv.paramsBound
  xcmdsBound := xcmds ▸ inv.xcmdsBound
  cacheBound := cacheBound
  paramsWellFormed := params ▸ inv.paramsWellFormed
  xcmdsWellFormed := xcmds ▸ inv.xcmdsWellFormed
  stateValid := stateValid
  dataReady := dataReady
  callbacksInstalled := cb ▸ inv.callbacksInstalled

theorem Invariant.of_frame (inv : Invariant ctx) (address : ctx'.address = ctx.address)
    (cb : ctx'.cb = ctx.cb) (params : ctx'.params = ctx.params) (xcmds : ctx'.xcmds = ctx.xcmds)
    (cache : ctx'.dataCache = ctx.dataCache) (state : ctx'.state = ctx.state)
    (available : ctx'.dataAvailable = ctx.dataAvailable) : Invariant ctx' :=
  inv.of_config address cb params xcmds (cache ▸ inv.cacheBound) (state ▸ inv.stateValid)
    (state ▸ available ▸ inv.dataReady)

/-- A context whose response buffer alone differs keeps the invariant. -/
theorem Invariant.respond (inv : Invariant ctx) (buf : List Char) (len : Nat) (crc : Bool)
    (type : MeasType) (group : Nat) :
    Invariant { ctx with respBuf := buf, respLen := len, crcRequested := crc,
                         pendingMeasType := type, pendingMeasGroup := group } :=
  inv.of_frame rfl rfl rfl rfl rfl rfl rfl

theorem readGroupSync_cache_length (env : Env) (ctx : Ctx) (group : Nat) :
    (readGroupSync env ctx group).1.dataCache.length ≤ maxParams := by
  rw [readGroupSync_ctx]
  split
  · simpa using length_collectGroupIndices_le ctx.params group maxParams
  · simp

/-- A synchronous read of a group keeps the invariant in any state it is not ready in, and
in the ready state. -/
theorem readGroupSync_invariant (inv : Invariant ctx) (env : Env) (group : Nat) :
    Invariant (readGroupSync env ctx group).1 := by
  have cacheBound := readGroupSync_cache_length env ctx group
  rw [readGroupSync_ctx] at cacheBound ⊢
  exact { inv with cacheBound, dataReady := fun _ => rfl }

theorem reply_invariant (inv : Invariant ctx) (text : List Char) :
    Invariant (reply ctx text).ctx :=
  inv.of_frame rfl rfl rfl rfl rfl rfl rfl

theorem startedState_valid (ttt : Nat) (type : MeasType) :
    startedState ttt type = .measuring ∨ startedState ttt type = .measuringC ∨
      startedState ttt type = .dataReady := by
  cases type <;> simp only [startedState] <;> split <;> simp

theorem startedState_ready {ttt : Nat} {type : MeasType}
    (ready : startedState ttt type = .dataReady) : ttt = 0 := by
  cases type <;> simp only [startedState] at ready <;> split at ready <;> simp_all

theorem measureAsync_invariant (inv : Invariant ctx) (env : Env) (group n : Nat)
    {type : MeasType} (measured : type ≠ .continuous) :
    Invariant (measureAsync env ctx group n type).ctx := by
  simp only [measureAsync, measured, if_false]
  split
  · refine inv.of_config ?_ ?_ ?_ ?_ (readGroupSync_cache_length _ _ _) ?_ ?_ <;>
      simp only [readGroupSync_ctx, startedState_valid, or_true, implies_true]
  · exact inv.of_config rfl rfl rfl rfl inv.cacheBound (.inr (startedState_valid _ _))
      fun ready => absurd (startedState_ready ready) ‹_›

theorem measureSync_invariant (inv : Invariant ctx) (env : Env) (group n : Nat)
    (type : MeasType) : Invariant (measureSync env ctx group n type).ctx := by
  have read := readGroupSync_invariant inv env group
  simp only [measureSync]
  rw [readGroupSync_ctx] at read ⊢
  exact { read with stateValid := by simp, dataReady := fun _ => rfl }

theorem handleMeasurement_invariant (inv : Invariant ctx) (env : Env) (group : Nat)
    (withCrc : Bool) {type : MeasType} (measured : type ≠ .continuous) :
    Invariant (handleMeasurement env ctx group withCrc type).ctx := by
  have pending := inv.respond ctx.respBuf ctx.respLen withCrc type group
  simp only [handleMeasurement]
  split
  · exact reply_invariant pending _
  split
  · exact measureAsync_invariant pending env group _ measured
  · exact measureSync_invariant pending env group _ type

theorem handleSendBinaryData_invariant (inv : Invariant ctx) (env : Env) (page : Nat) :
    Invariant (handleSendBinaryData env ctx page).ctx := by
  simp only [handleSendBinaryData]
  split_ifs <;> exact inv.of_frame rfl rfl rfl rfl rfl rfl rfl

theorem handleSendData_invariant (inv : Invariant ctx) (env : Env) (page : Nat) :
    Invariant (handleSendData env ctx page).ctx := by
  simp only [handleSendData]
  split_ifs <;> exact inv.of_frame rfl rfl rfl rfl rfl rfl rfl

theorem handleContinuous_invariant (inv : Invariant ctx) (env : Env) (index : Nat)
    (withCrc : Bool) : Invariant (handleContinuous env ctx index withCrc).ctx := by
  have pending := inv.respond ctx.respBuf ctx.respLen withCrc .continuous ctx.pendingMeasGroup
  simp only [handleContinuous]
  split_ifs
  · exact pending.of_frame rfl rfl rfl rfl rfl rfl rfl
  · have read := readGroupSync_invariant pending env index
    exact read.of_frame rfl rfl rfl rfl rfl rfl rfl

theorem handleChangeAddress_invariant (inv : Invariant ctx) (newAddr : Char) :
    Invariant (handleChangeAddress ctx newAddr).ctx := by
  simp only [handleChangeAddress]
  split
  · exact inv
  · rename_i valid
    exact { inv with validAddress := by simpa using valid }

theorem handleIdentifyMeasurement_invariant (inv : Invariant ctx) (cmd : List Char) (len : Nat) :
    Invariant (handleIdentifyMeasurement ctx cmd len).ctx := by
  simp only [handleIdentifyMeasurement]
  split
  · exact inv
  split
  · exact reply_invariant inv _
  split_ifs <;> exact inv.of_frame rfl rfl rfl rfl rfl rfl rfl

theorem handleExtended_invariant (inv : Invariant ctx) (env : Env) (cmd : List Char)
    (len : Nat) : Invariant (handleExtended env ctx cmd len).ctx := by
  simp only [handleExtended]
  split
  · exact reply_invariant inv _
  split_ifs <;> exact inv.of_frame rfl rfl rfl rfl rfl rfl rfl

theorem dispatch_invariant (inv : Invariant ctx) (env : Env) (cmd : List Char) (cmdlen : Nat) :
    Invariant (dispatch env ctx cmd cmdlen).ctx := by
  simp only [dispatch]
  split
  · split
    · exact reply_invariant inv _
    · exact handleIdentifyMeasurement_invariant inv cmd cmdlen
  · exact handleMeasurement_invariant inv env _ _ (by decide)
  · exact handleMeasurement_invariant inv env _ _ (by decide)
  · split
    · split
      · exact handleSendBinaryData_invariant inv env _
      · exact handleSendData_invariant inv env _
    · exact inv
  · exact handleContinuous_invariant inv env _ _
  · exact handleMeasurement_invariant inv env _ _ (by decide)
  · split
    · exact handleChangeAddress_invariant inv _
    · exact inv
  · split_ifs
    · exact reply_invariant inv _
    · exact handleMeasurement_invariant inv env _ _ (by decide)
    · exact handleMeasurement_invariant inv env _ _ (by decide)
    · exact reply_invariant inv _
  · exact handleExtended_invariant inv env cmd cmdlen
  · exact inv

theorem abortConcurrent_invariant (inv : Invariant ctx) (addressed : Bool) :
    Invariant (abortConcurrent ctx addressed) := by
  unfold abortConcurrent
  split
  · exact inv.of_config rfl rfl rfl rfl (Nat.zero_le _) (.inl rfl) nofun
  · exact inv

theorem process_invariant (inv : Invariant ctx) (env : Env) (cmd : List Char) :
    Invariant (process env ctx cmd).ctx := by
  have cleared : Invariant { ctx with respLen := 0 } := inv.of_frame rfl rfl rfl rfl rfl rfl rfl
  simp only [process]
  split
  · exact inv
  split
  · exact cleared
  split
  · exact cleared
  have aborted := abortConcurrent_invariant cleared (isAddressed ctx.address (cmd.getD 0 '\x00'))
  split
  · exact reply_invariant aborted _
  · exact dispatch_invariant aborted env cmd _

theorem measurementDone_invariant (inv : Invariant ctx) (values : List Value) :
    Invariant (measurementDone ctx values).ctx := by
  have cached : (values.take maxParams).length ≤ maxParams := List.length_take_le _ _
  simp only [measurementDone]
  split
  · exact inv.of_config rfl rfl rfl rfl cached (by simp) fun _ => rfl
  split
  · exact inv.of_config rfl rfl rfl rfl cached (by simp) fun _ => rfl
  · exact inv.of_config rfl rfl rfl rfl cached inv.stateValid fun _ => rfl

theorem sensorBreak_invariant (inv : Invariant ctx) : Invariant (sensorBreak ctx) := by
  unfold sensorBreak
  split
  · exact inv.of_config rfl rfl rfl rfl (Nat.zero_le _) (.inl rfl) nofun
  · exact inv.of_config rfl rfl rfl rfl inv.cacheBound (.inl rfl) nofun

theorem registerParam_invariant (inv : Invariant ctx) (group : Nat)
    (shef units : Option (List Char)) (decimals : Nat) :
    Invariant (registerParam ctx group shef units decimals).2 := by
  unfold registerParam
  split
  · split_ifs with full invalid
    · exact inv
    · exact inv
    · refine { inv with paramsBound := ?_, paramsWellFormed := ?_ }
      · simp only [List.length_append, List.length_singleton]
        omega
      · intro p member
        rcases List.mem_append.mp member with old | new
        · exact inv.paramsWellFormed p old
        · simp only [List.mem_singleton] at new
          subst new
          simp only [maxMeasGroups, not_le] at invalid
          exact ⟨rfl, show group ≤ 9 by omega⟩
  · exact inv

theorem registerXcmd_invariant (inv : Invariant ctx) (pfx : Option (List Char))
    (handler : Option Nat) : Invariant (registerXcmd ctx pfx handler).2 := by
  unfold registerXcmd
  split
  · split_ifs with full
    · exact inv
    · refine { inv with xcmdsBound := ?_, xcmdsWellFormed := ?_ }
      · simp only [List.length_append, List.length_singleton]
        omega
      · intro x member
        rcases List.mem_append.mp member with old | new
        · exact inv.xcmdsWellFormed x old
        · simp only [List.mem_singleton] at new
          subst new
          exact ⟨rfl, rfl⟩
  · exact inv

theorem step_invariant (inv : Invariant ctx) : ∀ event, Invariant (step ctx event).ctx
  | .registerParam group shef units decimals => registerParam_invariant inv group shef units decimals
  | .registerXcmd pfx handler => registerXcmd_invariant inv pfx handler
  | .process env cmd => process_invariant inv env cmd
  | .measurementDone values => measurementDone_invariant inv values
  | .sensorBreak => sensorBreak_invariant inv

theorem init_invariant {address loaded : Char} {ident : Ident} {callbacks : Callbacks}
    (initialised : init address ident callbacks loaded = .ok ctx) : Invariant ctx := by
  unfold init at initialised
  split at initialised
  · contradiction
  rename_i installed
  split at initialised
  · contradiction
  rename_i valid
  injection initialised with initialised
  subst initialised
  refine ⟨?_, Nat.zero_le _, Nat.zero_le _, Nat.zero_le _, nofun, nofun, .inl rfl, nofun,
    by simpa [and_assoc] using installed⟩
  dsimp only
  split
  · simp_all
  · simpa using valid

theorem Reachable.invariant {ctx : Ctx} (reachable : Reachable ctx) : Invariant ctx := by
  induction reachable with
  | init initialised => exact init_invariant initialised
  | step event _ inv => exact step_invariant inv event

/-- Every context reachable from a successful `sdi12_sensor_init` satisfies the invariant. -/
theorem reachable_invariant {ctx : Ctx} (reachable : Reachable ctx) : Invariant ctx :=
  reachable.invariant

theorem reachable_invariant_of_concurrent_sensor : Invariant concurrentSensor :=
  reachable_invariant concurrentSensor_reachable

end Sdi12.Sensor
