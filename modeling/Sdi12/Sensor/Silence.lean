import Sdi12.Sensor.Engine

namespace Sdi12.Sensor

/-! # Universal silence

A command addressed to another sensor is answered by nothing: `sdi12_sensor_process`
returns `SDI12_ERR_NOT_ADDRESSED` before any handler runs, calls no hook and only resets
the scratch `resp_len`.  Over a whole run of such commands, a measurement in progress, the
pending request and the data cache all survive.
-/

/-- The body of a command: the command without its trailing `'!'`. -/
def commandBody (cmd : List Char) : List Char := cmd.take (commandLength cmd)

theorem commandBody_length (cmd : List Char) : (commandBody cmd).length = commandLength cmd := by
  have shorter : commandLength cmd ≤ cmd.length := by unfold commandLength; split <;> omega
  simp [commandBody, shorter]

/-- A command another sensor is meant to answer: a non-empty body that starts with another
address and is not the lone wildcard `?`. -/
structure Foreign (address : Char) (cmd : List Char) : Prop where
  nonempty : commandBody cmd ≠ []
  otherAddress : cmd.getD 0 '\x00' ≠ address
  notWildcard : commandBody cmd ≠ ['?']

theorem process_foreign (env : Env) (ctx : Ctx) {cmd : List Char}
    (foreign : Foreign ctx.address cmd) :
    process env ctx cmd = ⟨.notAddressed, { ctx with respLen := 0 }, []⟩ := by
  obtain ⟨nonempty, otherAddress, notWildcard⟩ := foreign
  have lengthPos : commandLength cmd ≠ 0 := fun empty =>
    nonempty (List.eq_nil_of_length_eq_zero ((commandBody_length cmd).trans empty))
  cases cmd with
  | nil => exact absurd rfl nonempty
  | cons c rest =>
    have notQuery : isQuery (commandLength (c :: rest)) c = false := by
      simp only [isQuery, Bool.and_eq_false_iff, decide_eq_false_iff_not]
      by_cases one : commandLength (c :: rest) = 1
      · exact .inr fun wildcard => notWildcard (by subst wildcard; simp [commandBody, one])
      · exact .inl one
    simp only [List.getD_cons_zero] at otherAddress
    simp [process, lengthPos, isAddressed, otherAddress, notQuery]

theorem run_foreign (ctx : Ctx) (commands : List (Env × List Char))
    (foreign : ∀ command ∈ commands, Foreign ctx.address command.2) :
    ∃ len, run ctx (commands.map fun command => .process command.1 command.2) =
      { ctx with respLen := len } := by
  induction commands generalizing ctx with
  | nil => exact ⟨ctx.respLen, rfl⟩
  | cons command rest ih =>
    have first := process_foreign command.1 ctx (foreign command (List.mem_cons_self _ _))
    obtain ⟨len, rest⟩ := ih { ctx with respLen := 0 }
      fun later member => foreign later (List.mem_cons_of_mem _ member)
    exact ⟨len, by simp only [List.map_cons, run, step, first, rest]⟩

/-- Universal silence: a command for another sensor returns `SDI12_ERR_NOT_ADDRESSED`,
calls no hook and moves nothing but `resp_len`; so does any run of such commands. -/
theorem foreign_commands_silent (env : Env) (ctx : Ctx) (cmd : List Char)
    (foreign : Foreign ctx.address cmd) (commands : List (Env × List Char))
    (allForeign : ∀ command ∈ commands, Foreign ctx.address command.2) :
    process env ctx cmd = ⟨.notAddressed, { ctx with respLen := 0 }, []⟩ ∧
      ∃ len, run ctx (commands.map fun command => .process command.1 command.2) =
        { ctx with respLen := len } :=
  ⟨process_foreign env ctx foreign, run_foreign ctx commands allForeign⟩

theorem foreign_commands_silent_at_sensor_zero :
    process quietEnv sensorZero ['1', '!'] = ⟨.notAddressed, { sensorZero with respLen := 0 }, []⟩ ∧
      ∃ len, run sensorZero ([(quietEnv, ['1', '!']), (quietEnv, ['?', 'M', '!'])].map
        fun command => .process command.1 command.2) = { sensorZero with respLen := len } :=
  foreign_commands_silent quietEnv sensorZero ['1', '!'] ⟨by decide, by decide, by decide⟩ _
    (by simp only [List.mem_cons, List.mem_singleton, List.not_mem_nil, or_false]
        rintro _ (rfl | rfl) <;> exact ⟨by decide, by decide, by decide⟩)

end Sdi12.Sensor
