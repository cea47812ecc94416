import Sdi12.Sensor.Invariant

namespace Sdi12.Sensor

/-! # What the engine leaves to the application

The address, the identification, the installed hooks and the two registration tables are
set up by the application.  `sdi12_sensor_process` writes none of them but the address, and
that only on a successful `aAb!` sent to the sensor; `measurement_done` and `break` write
none.  The tables grow only through the two registration calls, one entry at a time, with
their strings cut to the arrays of `sdi12_param_meta_t` and `sdi12_xcmd_reg_t`.
-/

/-- The part of a context the application sets up. -/
structure Setup where
  address : Char
  ident : Ident
  cb : Callbacks
  params : List ParamReg
  xcmds : List XcmdReg
deriving DecidableEq

def Ctx.setup (ctx : Ctx) : Setup := ⟨ctx.address, ctx.ident, ctx.cb, ctx.params, ctx.xcmds⟩

variable (env : Env) (ctx : Ctx)

theorem readGroupSync_setup (group : Nat) : (readGroupSync env ctx group).1.setup = ctx.setup := by
  rw [readGroupSync_ctx]
  split <;> rfl

theorem reply_setup (text : List Char) : (reply ctx text).ctx.setup = ctx.setup := rfl

theorem handleMeasurement_setup (group : Nat) (withCrc : Bool) (type : MeasType) :
    (handleMeasurement env ctx group withCrc type).ctx.setup = ctx.setup := by
  simp only [handleMeasurement, measureAsync, measureSync]
  split
  · rfl
  split
  · split <;> split <;> simp only [readGroupSync_setup] <;> rfl
  · exact readGroupSync_setup env _ group

theorem handleSendBinaryData_setup (page : Nat) :
    (handleSendBinaryData env ctx page).ctx.setup = ctx.setup := by
  simp only [handleSendBinaryData]
  split_ifs <;> rfl

theorem formatDataPage_setup (page maxValueChars : Nat) :
    (formatDataPage env ctx page maxValueChars).setup = ctx.setup := rfl

theorem handleSendData_setup (page : Nat) : (handleSendData env ctx page).ctx.setup = ctx.setup := by
  simp only [handleSendData]
  split_ifs <;> rfl

theorem handleContinuous_setup (index : Nat) (withCrc : Bool) :
    (handleContinuous env ctx index withCrc).ctx.setup = ctx.setup := by
  simp only [handleContinuous]
  split
  · rfl
  · exact (formatDataPage_setup env _ 0 _).trans (readGroupSync_setup env _ index)

theorem handleIdentifyMeasurement_setup (cmd : List Char) (len : Nat) :
    (handleIdentifyMeasurement ctx cmd len).ctx.setup = ctx.setup := by
  simp only [handleIdentifyMeasurement]
  split
  · rfl
  split
  · rfl
  split_ifs <;> rfl

theorem handleExtended_setup (cmd : List Char) (len : Nat) :
    (handleExtended env ctx cmd len).ctx.setup = ctx.setup := by
  simp only [handleExtended]
  split
  · rfl
  split_ifs <;> rfl

theorem handleChangeAddress_setup (newAddr : Char) :
    (handleChangeAddress ctx newAddr).ctx.setup =
      if validAddress newAddr then { ctx.setup with address := newAddr } else ctx.setup := by
  cases valid : validAddress newAddr
  · simp [handleChangeAddress, valid]
  · simp only [handleChangeAddress, valid, Bool.not_true, Bool.false_eq_true, if_false, if_true]
    rfl

/-- The dispatcher keeps the setup, but for the address an `aAb!` with a valid `b` moves. -/
theorem dispatch_setup (cmd : List Char) (cmdlen : Nat) :
    (dispatch env ctx cmd cmdlen).ctx.setup = ctx.setup ∨
      (cmd.getD 1 '\x00' = 'A' ∧ validAddress (cmd.getD 2 '\x00') = true ∧
        (dispatch env ctx cmd cmdlen).result = .ok ∧
        (dispatch env ctx cmd cmdlen).ctx.setup = { ctx.setup with address := cmd.getD 2 '\x00' }) := by
  simp only [dispatch]
  split
  · split
    · exact .inl (reply_setup ctx _)
    · exact .inl (handleIdentifyMeasurement_setup ctx cmd cmdlen)
  · exact .inl (handleMeasurement_setup env ctx _ _ _)
  · exact .inl (handleMeasurement_setup env ctx _ _ _)
  · split
    · split
      · exact .inl (handleSendBinaryData_setup env ctx _)
      · exact .inl (handleSendData_setup env ctx _)
    · exact .inl rfl
  · exact .inl (handleContinuous_setup env ctx _ _)
  · exact .inl (handleMeasurement_setup env ctx _ _ _)
  · rename_i letter
    split
    · by_cases valid : validAddress (cmd.getD 2 '\x00')
      · refine .inr ⟨letter, valid, by simp [handleChangeAddress, valid, reply, -List.getD_eq_getElem?_getD], ?_⟩
        rw [handleChangeAddress_setup, if_pos valid]
      · left
        rw [handleChangeAddress_setup, if_neg valid]
    · exact .inl rfl
  · split_ifs
    · exact .inl (reply_setup ctx _)
    · exact .inl (handleMeasurement_setup env ctx _ _ _)
    · exact .inl (handleMeasurement_setup env ctx _ _ _)
    · exact .inl (reply_setup ctx _)
  · exact .inl (handleExtended_setup env ctx cmd cmdlen)
  · exact .inl rfl

theorem abortConcurrent_setup (addressed : Bool) : (abortConcurrent ctx addressed).setup = ctx.setup := by
  unfold abortConcurrent
  split <;> rfl

/-- `sdi12_sensor_process` writes none of the setup but the address, and that only on a
successful `aAb!` sent to the sensor's own address with a valid new one, which becomes the
address. -/
theorem process_setup (cmd : List Char) :
    (process env ctx cmd).ctx.setup = ctx.setup ∨
      (cmd.getD 0 '\x00' = ctx.address ∧ cmd.getD 1 '\x00' = 'A' ∧
        validAddress (cmd.getD 2 '\x00') = true ∧ (process env ctx cmd).result = .ok ∧
        (process env ctx cmd).ctx.setup = { ctx.setup with address := cmd.getD 2 '\x00' }) := by
  have cleared (addressed : Bool) : (abortConcurrent { ctx with respLen := 0 } addressed).setup = ctx.setup :=
    abortConcurrent_setup _ addressed
  rcases process_cases env ctx cmd with
    ⟨-, same⟩ | ⟨-, -, same⟩ | ⟨-, -, -, -, same⟩ | ⟨-, -, same⟩ | ⟨-, addressed, same⟩
  · exact .inl (by rw [same])
  · exact .inl (by rw [same]; rfl)
  · exact .inl (by rw [same]; rfl)
  · exact .inl (by rw [same]; exact cleared _)
  · rw [same, ← cleared true]
    rcases dispatch_setup env (abortConcurrent { ctx with respLen := 0 } true) cmd (commandLength cmd) with
      kept | ⟨letter, valid, ok, moved⟩
    · exact .inl kept
    · exact .inr ⟨addressed, letter, valid, ok, moved⟩

theorem measurementDone_setup (values : List Value) :
    (measurementDone ctx values).ctx.setup = ctx.setup := by
  simp only [measurementDone]
  split_ifs <;> rfl

theorem sensorBreak_setup : (sensorBreak ctx).setup = ctx.setup := by
  unfold sensorBreak
  split <;> rfl

/-! ## Over a run -/

/-- How the setup may move without `aAb!`: the identification and the hooks stay, and each
registration table keeps its entries, growing only at its end. -/
structure Setup.Extends (before after : Setup) : Prop where
  ident : after.ident = before.ident
  cb : after.cb = before.cb
  params : before.params <+: after.params
  xcmds : before.xcmds <+: after.xcmds

theorem Setup.Extends.refl (setup : Setup) : setup.Extends setup :=
  ⟨rfl, rfl, List.prefix_refl _, List.prefix_refl _⟩

theorem Setup.Extends.trans {a b c : Setup} (first : a.Extends b) (second : b.Extends c) : a.Extends c :=
  ⟨second.ident.trans first.ident, second.cb.trans first.cb, first.params.trans second.params,
    first.xcmds.trans second.xcmds⟩

theorem Setup.Extends.of_address {a b : Setup} {address : Char} (moved : b = { a with address := address }) :
    a.Extends b := by
  subst moved
  exact ⟨rfl, rfl, List.prefix_refl _, List.prefix_refl _⟩

theorem registerParam_setup (group : Nat) (shef units : Option (List Char)) (decimals : Nat) :
    ctx.setup.Extends (registerParam ctx group shef units decimals).2.setup ∧
      (registerParam ctx group shef units decimals).2.address = ctx.address := by
  unfold registerParam
  split
  · split_ifs
    · exact ⟨.refl _, rfl⟩
    · exact ⟨.refl _, rfl⟩
    · exact ⟨⟨rfl, rfl, List.prefix_append _ _, List.prefix_refl _⟩, rfl⟩
  · exact ⟨.refl _, rfl⟩

theorem registerXcmd_setup (pfx : Option (List Char)) (handler : Option Nat) :
    ctx.setup.Extends (registerXcmd ctx pfx handler).2.setup ∧ (registerXcmd ctx pfx handler).2.address = ctx.address := by
  unfold registerXcmd
  split
  · split_ifs
    · exact ⟨.refl _, rfl⟩
    · exact ⟨⟨rfl, rfl, List.prefix_refl _, List.prefix_append _ _⟩, rfl⟩
  · exact ⟨.refl _, rfl⟩

/-- One event of the engine: the setup extends, and the address stays but for an `aAb!`
processed, where it becomes the `b`. -/
theorem step_setup (event : Event) :
    ctx.setup.Extends (step ctx event).ctx.setup ∧
      ((step ctx event).ctx.address = ctx.address ∨
        ∃ env cmd, event = .process env cmd ∧ cmd.getD 1 '\x00' = 'A' ∧
          (step ctx event).ctx.address = cmd.getD 2 '\x00') := by
  have kept {ctx' : Ctx} (same : ctx'.setup = ctx.setup) :
      ctx.setup.Extends ctx'.setup ∧ ctx'.address = ctx.address :=
    ⟨same ▸ .refl _, congrArg Setup.address same⟩
  have stays {ctx' : Ctx} (grown : ctx.setup.Extends ctx'.setup ∧ ctx'.address = ctx.address) :
      ctx.setup.Extends ctx'.setup ∧ (ctx'.address = ctx.address ∨
        ∃ env cmd, event = .process env cmd ∧ cmd.getD 1 '\x00' = 'A' ∧ ctx'.address = cmd.getD 2 '\x00') :=
    ⟨grown.1, .inl grown.2⟩
  cases event with
  | registerParam group shef units decimals => exact stays (registerParam_setup ctx group shef units decimals)
  | registerXcmd pfx handler => exact stays (registerXcmd_setup ctx pfx handler)
  | process env cmd =>
    rcases process_setup env ctx cmd with same | ⟨-, letter, -, -, moved⟩
    · exact stays (kept same)
    · exact ⟨.of_address moved, .inr ⟨env, cmd, rfl, letter, congrArg Setup.address moved⟩⟩
  | measurementDone values => exact stays (kept (measurementDone_setup ctx values))
  | sensorBreak => exact stays (kept (sensorBreak_setup ctx))

/-- Over any run of the engine from any context, the identification and the hooks stay as
the application set them, each registration table keeps every entry it had and grows only
at its end, and the address is the one the run started with or the new address of an `aAb!`
processed in the run. -/
theorem run_setup (ctx : Ctx) (events : List Event) :
    ctx.setup.Extends (run ctx events).setup ∧
      ((run ctx events).address = ctx.address ∨
        ∃ env cmd, Event.process env cmd ∈ events ∧ cmd.getD 1 '\x00' = 'A' ∧
          (run ctx events).address = cmd.getD 2 '\x00') := by
  induction events generalizing ctx with
  | nil => exact ⟨.refl _, .inl rfl⟩
  | cons event rest ih =>
    obtain ⟨extends₁, address₁⟩ := step_setup ctx event
    obtain ⟨extends₂, address₂⟩ := ih (step ctx event).ctx
    refine ⟨extends₁.trans extends₂, ?_⟩
    rcases address₂ with same | ⟨env, cmd, member, letter, moved⟩
    · rcases address₁ with kept | ⟨env, cmd, rfl, letter, moved⟩
      · exact .inl (same.trans kept)
      · exact .inr ⟨env, cmd, List.mem_cons_self _ _, letter, same.trans moved⟩
    · exact .inr ⟨env, cmd, List.mem_cons_of_mem _ member, letter, moved⟩

/-! ## Registered parameters -/

/-- A registered parameter whose strings fit `sdi12_param_meta_t`: `shef[4]` and `units[21]`,
each with its NUL. -/
def ParamReg.Fits (p : ParamReg) : Prop := p.shef.length ≤ 3 ∧ p.units.length ≤ 20

theorem init_params {address loaded : Char} {ident : Ident} {callbacks : Callbacks} {ctx : Ctx}
    (initialised : init address ident callbacks loaded = .ok ctx) : ctx.params = [] := by
  unfold init at initialised
  split at initialised
  · contradiction
  split at initialised
  · contradiction
  injection initialised with initialised
  subst initialised
  rfl

theorem registerParam_fits {ctx : Ctx} (fits : ∀ p ∈ ctx.params, p.Fits) (group : Nat)
    (shef units : Option (List Char)) (decimals : Nat) :
    ∀ p ∈ (registerParam ctx group shef units decimals).2.params, p.Fits := by
  unfold registerParam
  split
  · split_ifs
    · exact fits
    · exact fits
    · intro p member
      rcases List.mem_append.mp member with old | new
      · exact fits p old
      · simp only [List.mem_singleton] at new
        subst new
        exact ⟨List.length_take_le _ _, List.length_take_le _ _⟩
  · exact fits

/-- The strings of every parameter a reachable sensor has registered fit their arrays:
`sdi12_sensor_register_param` cuts them, and nothing else writes the table. -/
theorem Reachable.paramsFit {ctx : Ctx} (reachable : Reachable ctx) : ∀ p ∈ ctx.params, p.Fits := by
  induction reachable with
  | init initialised => simp [init_params initialised]
  | @step ctx event _ fits =>
    have kept {ctx' : Ctx} (same : ctx'.params = ctx.params) : ∀ p ∈ ctx'.params, p.Fits :=
      fun p member => fits p (same ▸ member)
    cases event with
    | registerParam group shef units decimals => exact registerParam_fits fits group shef units decimals
    | registerXcmd pfx handler =>
      refine @kept (Sensor.step ctx (.registerXcmd pfx handler)).ctx ?_
      simp only [Sensor.step, registerXcmd]
      split <;> (try split_ifs) <;> rfl
    | process env cmd =>
      rcases process_setup env ctx cmd with same | ⟨-, -, -, -, moved⟩
      · exact kept (congrArg Setup.params same)
      · exact kept (congrArg Setup.params moved)
    | measurementDone values => exact kept (congrArg Setup.params (measurementDone_setup ctx values))
    | sensorBreak => exact kept (congrArg Setup.params (sensorBreak_setup ctx))

end Sdi12.Sensor
