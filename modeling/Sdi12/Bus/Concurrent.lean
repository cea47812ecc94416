import Sdi12.Bus
import Sdi12.Link.Measurement

namespace Sdi12

/-! # A measurement amid the traffic of the bus

While one sensor measures, the master goes on talking to the others (the point of `aC!`),
and the other sensors complete their own measurements.  None of that reaches the sensor:
every command foreign to its address only clears its `resp_len`, and another sensor's
completion does not touch it.  As long as no `aAb!` moves another sensor onto its address,
it stays the only sensor that answers its `aD0!`, so the master reads back the values its
application completed the measurement with, whatever the bus carried in between.
-/

open Sensor Master

namespace Bus

/-- Whether an event leaves the sensor at position `i` and address `address` alone: a command
foreign to that address that moves no sensor onto it, or the completion of another
position.  A break reaches every sensor. -/
def leavesAlone (address : Char) (i : Nat) : BusEvent → Bool
  | .command cmd =>
    decide (commandBody cmd ≠ [] ∧ cmd.getD 0 '\x00' ≠ address ∧ commandBody cmd ≠ ['?']) &&
      !decide (cmd.getD 1 '\x00' = 'A' ∧ cmd.getD 2 '\x00' = address)
  | .sensorBreak => false
  | .measurementDone j _ => j != i

/-- The sensor at position `i` is the only one at `address`. -/
def Alone (bus : List Station) (i : Nat) (address : Char) : Prop :=
  ∀ j s, bus[j]? = some s → s.ctx.address = address → j = i

theorem alone_of_nodup {bus : List Station} (distinct : (addresses bus).Nodup) {i : Nat} {st : Station}
    (found : bus[i]? = some st) : Alone bus i st.ctx.address := by
  intro j s atJ same
  obtain ⟨inJ, rfl⟩ := List.getElem?_eq_some_iff.mp atJ
  obtain ⟨inI, rfl⟩ := List.getElem?_eq_some_iff.mp found
  exact (@List.Nodup.getElem_inj_iff _ _ distinct j (by simpa [addresses] using inJ) i
    (by simpa [addresses] using inI)).mp (by simpa [addresses] using same)

/-- The sensors at the address of one that is alone there: that one. -/
theorem filter_alone : ∀ {bus : List Station} {i : Nat} {address : Char}, Alone bus i address →
    ∀ {st : Station}, bus[i]? = some st → st.ctx.address = address →
      bus.filter (fun s => s.ctx.address = address) = [st]
  | [], _, _, _, _, found, _ => by simp at found
  | s :: rest, 0, address, alone, st, found, here => by
    obtain rfl : s = st := by simpa using found
    have others : ∀ t ∈ rest, ¬t.ctx.address = address := fun t member same => by
      obtain ⟨k, inK, rfl⟩ := List.getElem_of_mem member
      exact absurd (alone (k + 1) _ (by simp [inK]) same) (by omega)
    rw [List.filter_cons_of_pos (by simpa using here), List.filter_eq_nil_iff.mpr (by simpa using others)]
  | s :: rest, i + 1, address, alone, st, found, here => by
    have first : ¬s.ctx.address = address := fun same => absurd (alone 0 s (by simp) same) (by omega)
    rw [List.filter_cons_of_neg (by simpa using first)]
    exact filter_alone (fun j t atJ same => by simpa using alone (j + 1) t (by simpa using atJ) same)
      (by simpa using found) here

theorem alone_modify {bus : List Station} {i : Nat} {address : Char} (alone : Alone bus i address)
    {f : Station → Station} (keeps : ∀ s, (f s).ctx.address = s.ctx.address) (j : Nat) :
    Alone (bus.modify f j) i address := by
  intro k s atK same
  rw [List.getElem?_modify] at atK
  obtain ⟨t, atT, rfl⟩ := Option.map_eq_some'.mp atK
  refine alone k t atT ?_
  split at same
  · rwa [keeps] at same
  · exact same

/-- One event that leaves the sensor at `i` alone: its context only has `resp_len` changed,
and it stays alone at its address. -/
theorem next_alone {bus : List Station} {i : Nat} {st : Station} (found : bus[i]? = some st)
    (alone : Alone bus i st.ctx.address) {event : BusEvent} (quiet : leavesAlone st.ctx.address i event = true) :
    ∃ len, (next bus event)[i]? = some { st with ctx := { st.ctx with respLen := len } } ∧
      Alone (next bus event) i st.ctx.address := by
  cases event with
  | command cmd =>
    simp only [leavesAlone, Bool.and_eq_true, decide_eq_true_eq, Bool.not_eq_true', decide_eq_false_iff_not]
      at quiet
    obtain ⟨⟨nonempty, other, notWildcard⟩, unmoved⟩ := quiet
    refine ⟨0, ?_, fun j s atJ same => ?_⟩
    · simp [next, hear, found, process_foreign st.env st.ctx ⟨nonempty, other, notWildcard⟩]
    · simp only [next, hear, List.getElem?_map, Option.map_eq_some'] at atJ
      obtain ⟨t, atT, rfl⟩ := atJ
      rcases process_address t.env t.ctx cmd with kept | ⟨-, letter, moved⟩
      · exact alone j t atT (kept ▸ same)
      · exact absurd ⟨letter, moved ▸ same⟩ unmoved
  | sensorBreak => simp [leavesAlone] at quiet
  | measurementDone j values =>
    have other : j ≠ i := by simpa [leavesAlone] using quiet
    exact ⟨st.ctx.respLen, by rw [next, List.getElem?_modify_ne _ _ other, found],
      alone_modify alone (fun s => congrArg Setup.address (measurementDone_setup s.ctx values)) j⟩

/-- A run of events that leave the sensor at `i` alone changes no more than its `resp_len`,
and it stays alone at its address. -/
theorem after_alone : ∀ (events : List BusEvent) {bus : List Station} {i : Nat} {st : Station},
    bus[i]? = some st → Alone bus i st.ctx.address →
    (∀ event ∈ events, leavesAlone st.ctx.address i event = true) →
    ∃ len, (after bus events)[i]? = some { st with ctx := { st.ctx with respLen := len } } ∧
      Alone (after bus events) i st.ctx.address
  | [], _, _, st, found, alone, _ => ⟨st.ctx.respLen, found, alone⟩
  | event :: rest, _, _, _, found, alone, quiet => by
    obtain ⟨_, stepped, alone'⟩ := next_alone found alone (quiet event (List.mem_cons_self _ _))
    obtain ⟨len, later, alone''⟩ :=
      after_alone rest stepped alone' fun e member => quiet e (List.mem_cons_of_mem _ member)
    exact ⟨len, later, alone''⟩

theorem after_cons (bus : List Station) (event : BusEvent) (rest : List BusEvent) :
    after bus (event :: rest) = after (next bus event) rest := rfl

theorem after_append (bus : List Station) (first second : List BusEvent) :
    after bus (first ++ second) = after (after bus first) second := by
  induction first generalizing bus with
  | nil => rfl
  | cons event rest ih => exact ih (next bus event)

/-- What a sensor answers does not depend on the `resp_len` it was left with. -/
theorem answer_respLen (env : Env) (ctx : Ctx) (len : Nat) {cmd : List Char} (nonempty : cmd ≠ []) :
    answer env { ctx with respLen := len } cmd = answer env ctx cmd := by
  cases cmd with
  | nil => exact absurd rfl nonempty
  | cons c rest => rfl

/-- The command `sdi12_master_start_measurement` builds starts with the address and is no
`aAb!`. -/
theorem measurementCommand_head {addr : Char} {type : MeasType} {group : Nat} {crc : Bool} {cmd : List Char}
    (built : measurementCommand addr type group crc = some cmd) :
    cmd.getD 0 '\x00' = addr ∧ cmd.getD 1 '\x00' ≠ 'A' := by
  cases type <;> simp only [measurementCommand, Option.some.injEq, reduceCtorEq] at built <;> subst built <;>
    cases crc <;> simp [snprintf]

/-- **A measurement amid the traffic of the bus.**  On a bus of reachable sensors at distinct
addresses, the master starts a measurement (`aM…!` or `aC…!`) of a non-empty group at a
sensor whose hook asks for time.  Then the bus carries any events that leave that sensor
alone (commands to other addresses that move no sensor onto its own, other sensors'
completions), the sensor's application completes the measurement with its values, and the
bus again carries any such events.  Then `sdi12_master_get_data` of page 0 with the command's
CRC flag reads back, from the line of the whole bus, `SDI12_OK`, the sensor's address and
each completed value in order, as the master's scan reads its text. -/
theorem measurement_amid_traffic (bus : List Station) (reachable : ∀ s ∈ bus, Reachable s.ctx)
    (distinct : (addresses bus).Nodup) {i : Nat} {st : Station} (found : bus[i]? = some st)
    (strtof : List Char → UInt32) (resp : DataResponse) {type : MeasType}
    (timed : type = .standard ∨ type = .concurrent) {group : Nat} (small : group < 10) (crc : Bool)
    {cmd : List Char} (built : measurementCommand st.ctx.address type group crc = some cmd)
    (counted : countGroup st.ctx group ≠ 0) (hooked : st.ctx.cb.startMeasurement = true)
    (wait : 0 < (st.env.startMeasurement group type).toNat) (values : List Value) (few : values.length ≤ maxParams)
    (formatted : ∀ v ∈ values, ∃ token : Token, st.env.formatValue v = token.text)
    (budget : ((values.map st.env.formatValue).flatten).length ≤ maxValueChars type)
    (room : ((values.map st.env.formatValue).flatten).length < maxResponseLen - 7)
    (before later : List BusEvent) (quiet : ∀ event ∈ before ++ later, leavesAlone st.ctx.address i event = true) :
    getData strtof (line (after bus (.command cmd :: before ++ .measurementDone i values :: later)))
        st.ctx.address 0 crc resp =
      (.ok, { resp with address := st.ctx.address,
                        values := values.map fun v => tokenValue strtof (st.env.formatValue v) }) := by
  have inSt : st ∈ bus := by
    obtain ⟨inI, rfl⟩ := List.getElem?_eq_some_iff.mp found
    exact List.getElem_mem inI
  have valid := (reachable st inSt).invariant.validAddress
  obtain ⟨first, notChange⟩ := measurementCommand_head built
  -- The command: the sensor starts measuring at its address, every other sensor stays apart.
  have started : (next bus (.command cmd))[i]? = some { st with ctx := (process st.env st.ctx cmd).ctx } := by
    simp [next, hear, found]
  have kept : (process st.env st.ctx cmd).ctx.address = st.ctx.address := by
    rcases process_address st.env st.ctx cmd with same | ⟨-, letter, -⟩
    · exact same
    · exact absurd letter notChange
  have apart := alone_of_nodup (by rwa [next, hear_addresses bus notChange]) started
  -- The traffic before the completion, the completion, and the traffic after it.
  obtain ⟨len, measuring, alone⟩ := after_alone before started apart
    fun e member => kept ▸ quiet e (List.mem_append_left _ member)
  have doneAddress : (measurementDone (process st.env st.ctx cmd).ctx values).ctx.address =
      (process st.env st.ctx cmd).ctx.address := congrArg Setup.address (measurementDone_setup _ values)
  have completed : (next (after (next bus (.command cmd)) before) (.measurementDone i values))[i]? =
      some { st with ctx := (measurementDone (process st.env st.ctx cmd).ctx values).ctx } := by
    rw [show next (after (next bus (.command cmd)) before) (.measurementDone i values) =
      (after (next bus (.command cmd)) before).modify (fun s => { s with ctx := (measurementDone s.ctx values).ctx }) i
      from rfl, List.getElem?_modify_eq, measuring]
    rfl
  have aloneDone : Alone (next (after (next bus (.command cmd)) before) (.measurementDone i values)) i
      (measurementDone (process st.env st.ctx cmd).ctx values).ctx.address := by
    rw [doneAddress]
    exact alone_modify alone (fun s => congrArg Setup.address (measurementDone_setup s.ctx values)) i
  obtain ⟨len', done, alone'⟩ := after_alone later completed aloneDone fun e member => by
    rw [doneAddress, kept]
    exact quiet e (List.mem_append_right _ member)
  -- The line for `aD0!`: the one sensor at the address answers it.
  have here : (measurementDone (process st.env st.ctx cmd).ctx values).ctx.address = st.ctx.address :=
    doneAddress.trans kept
  have heard : line (after bus (.command cmd :: before ++ .measurementDone i values :: later))
      [st.ctx.address, 'D', '0', '!'] =
        answer st.env (measurementDone (process st.env st.ctx cmd).ctx values).ctx [st.ctx.address, 'D', '0', '!'] := by
    rw [after_append, after_cons, after_cons, line_filter _ (show validAddress ([st.ctx.address, 'D', '0', '!'].getD 0 '\x00') = true
      from valid), show [st.ctx.address, 'D', '0', '!'].getD 0 '\x00' = st.ctx.address from rfl,
      filter_alone (here ▸ alone') done here, line, List.map_singleton, List.flatten_singleton]
    exact answer_respLen _ _ _ (List.cons_ne_nil _ _)
  exact @getData_firstPage strtof _ _ valid crc resp Value st.env.formatValue values formatted (few.trans (by decide))
    room (heard.trans (answer_firstPage_after_completion st.env (reachable st inSt) timed small crc built counted
      hooked wait values few formatted budget room))

/-- Two sensors on one bus: at `0` an idle one whose hook asks for five seconds, at `1` an
idle one without hooks. -/
def timedBus : List Station := [⟨timedEnv, timedSensor⟩, ⟨quietEnv, sensorOne⟩]

theorem timedBus_reachable : ∀ s ∈ timedBus, Reachable s.ctx := by
  simp only [timedBus, List.mem_cons, List.mem_singleton, List.not_mem_nil, or_false]
  rintro _ (rfl | rfl)
  · exact timedSensor_reachable
  · exact sensorOne_reachable

set_option maxRecDepth 8000 in
/-- `0C!`, then `1I!` and a completion at `1`, then the completion at `0`, then `1M!`: the
master's `0D0!` reads back the value the sensor at `0` completed with. -/
theorem measurement_amid_traffic_on_two_sensors :
    getData (fun _ => 0) (line (after timedBus [.command ['0', 'C', '!'], .command ['1', 'I', '!'],
        .measurementDone 1 [⟨3, 0⟩], .measurementDone 0 [⟨7, 1⟩], .command ['1', 'M', '!']]))
      '0' 0 false ⟨'0', [], false⟩ = (.ok, ⟨'0', [⟨0, 0⟩], false⟩) :=
  (@measurement_amid_traffic timedBus timedBus_reachable (by decide) 0 ⟨timedEnv, timedSensor⟩ rfl (fun _ => 0)
    ⟨'0', [], false⟩ .concurrent (.inr rfl) 0 (by decide) false ['0', 'C', '!'] (by decide) (by decide) (by decide)
    (by decide) [⟨7, 1⟩] (by decide) (fun _ _ => ⟨plusZero, rfl⟩) (by decide) (by decide)
    [.command ['1', 'I', '!'], .measurementDone 1 [⟨3, 0⟩]] [.command ['1', 'M', '!']] (by decide)).trans (by decide)

end Bus

end Sdi12
