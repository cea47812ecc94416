import Mathlib.Data.List.Nodup
import Sdi12.Link.Address
import Sdi12.Sensor.Setup

namespace Sdi12

/-! # Sensors sharing one bus

An SDI-12 bus is one wire from the master to every sensor on it.  Each sensor's engine
hears every command the master sends and every break; the address in a command's first
byte picks the sensor that answers, and `sdi12_sensor_process` leaves every other one
silent.  A sensor ends a measurement on its own, through `sdi12_sensor_measurement_done`.

The line the master receives after a command is modelled as what each sensor sends, in
the order of the sensors on the bus.  Two answers at once would corrupt each other on the
wire; the results here are about commands at most one sensor answers, so they do not rest
on that choice.  On a bus whose addresses are distinct, a command to one sensor is carried
exactly as on a link to that sensor alone, so every exchange proved over `answer` holds on
the shared bus; and the addresses stay distinct over every run in which no `aAb!` moves a
sensor onto an address another one holds, which `sdi12_master_change_address` does not
check.
-/

open Sensor Master

/-- A sensor on the bus: its engine's context and what its application's hooks return. -/
structure Station where
  env : Env
  ctx : Ctx

/-- What happens on a bus: the master sends a command or a break, or the sensor at a
position completes a measurement with the values its application passes. -/
inductive BusEvent where
  | command (cmd : List Char)
  | sensorBreak
  | measurementDone (station : Nat) (values : List Value)

namespace Bus

/-- The addresses of the sensors, in bus order. -/
def addresses (bus : List Station) : List Char := bus.map (·.ctx.address)

/-- The bytes the master receives for a command: what each sensor sends, in bus order. -/
def line (bus : List Station) (cmd : List Char) : List Char :=
  (bus.map fun s => answer s.env s.ctx cmd).flatten

/-- The sensors once each has processed a command. -/
def hear (bus : List Station) (cmd : List Char) : List Station :=
  bus.map fun s => { s with ctx := (process s.env s.ctx cmd).ctx }

/-- The sensors after one event. -/
def next (bus : List Station) : BusEvent → List Station
  | .command cmd => hear bus cmd
  | .sensorBreak => bus.map fun s => { s with ctx := sensorBreak s.ctx }
  | .measurementDone station values =>
    bus.modify (fun s => { s with ctx := (measurementDone s.ctx values).ctx }) station

/-- The sensors after a run of events. -/
def after (bus : List Station) : List BusEvent → List Station
  | [] => bus
  | event :: rest => after (next bus event) rest

/-! ## One command -/

theorem foreign_of_valid {address : Char} {cmd : List Char} (valid : validAddress (cmd.getD 0 '\x00') = true)
    (other : cmd.getD 0 '\x00' ≠ address) : Foreign address cmd :=
  ⟨(commandBody_of_valid valid).1, other, (commandBody_of_valid valid).2⟩

/-- Only the sensors at a command's address answer it. -/
theorem line_filter (bus : List Station) {cmd : List Char} (valid : validAddress (cmd.getD 0 '\x00') = true) :
    line bus cmd = line (bus.filter fun s => s.ctx.address = cmd.getD 0 '\x00') cmd := by
  induction bus with
  | nil => rfl
  | cons s rest ih =>
    by_cases here : s.ctx.address = cmd.getD 0 '\x00'
    · simp only [line, List.filter_cons, here, decide_True, if_true, List.map_cons, List.flatten_cons] at ih ⊢
      rw [ih]
    · simp only [line, List.filter_cons, here, decide_False, List.map_cons, List.flatten_cons] at ih ⊢
      rw [answer_foreign s.env (foreign_of_valid valid (Ne.symm here)), ih, List.nil_append]
      rfl

/-- Every sensor not at a command's address only clears `resp_len`. -/
theorem hear_eq (bus : List Station) {cmd : List Char} (valid : validAddress (cmd.getD 0 '\x00') = true) :
    hear bus cmd = bus.map fun s =>
      if s.ctx.address = cmd.getD 0 '\x00' then { s with ctx := (process s.env s.ctx cmd).ctx }
      else { s with ctx := { s.ctx with respLen := 0 } } := by
  refine List.map_congr_left fun s _ => ?_
  split
  · rfl
  · rename_i other
    rw [process_foreign s.env s.ctx (foreign_of_valid valid (Ne.symm other))]

/-- On distinct addresses, the one sensor at an address is the only one there. -/
theorem filter_address {bus : List Station} (distinct : (addresses bus).Nodup) {st : Station}
    (member : st ∈ bus) : bus.filter (fun s => s.ctx.address = st.ctx.address) = [st] := by
  induction bus with
  | nil => contradiction
  | cons s rest ih =>
    rw [addresses, List.map_cons, List.nodup_cons] at distinct
    have absent : ∀ t ∈ rest, t.ctx.address ≠ s.ctx.address :=
      fun t member same => distinct.1 (List.mem_map.mpr ⟨t, member, same⟩)
    rcases List.mem_cons.mp member with rfl | later
    · rw [List.filter_cons_of_pos (by simp), List.filter_eq_nil_iff.mpr (by simpa using absent)]
    · have other : s.ctx.address ≠ st.ctx.address := (absent st later).symm
      rw [List.filter_cons_of_neg (by simpa using other), ih distinct.2 later]

/-- The sensor `sdi12_sensor_init` sets up at address `1` with only the required callbacks. -/
def sensorOne : Ctx := { sensorZero with address := '1' }

theorem sensorOne_reachable : Reachable sensorOne :=
  @Reachable.init '1' ⟨[], [], [], []⟩ ⟨true, true, true, false, false, false, false, false, false⟩ '1' _ rfl

/-- Two sensors on one bus: at `0` one measuring for `0M!`, at `1` an idle one. -/
def twoSensorBus : List Station := [⟨timedEnv, measuringSensor⟩, ⟨quietEnv, sensorOne⟩]

theorem twoSensorBus_reachable : ∀ s ∈ twoSensorBus, Reachable s.ctx := by
  simp only [twoSensorBus, List.mem_cons, List.mem_singleton, List.not_mem_nil, or_false]
  rintro _ (rfl | rfl)
  · exact measuringSensor_reachable
  · exact sensorOne_reachable

/-- On a bus whose sensors have distinct addresses, a command to one of them (anything but
`?!`) is carried on the line exactly as that sensor answers it alone, and every other
sensor only clears `resp_len`: the shared bus refines the link to the one sensor. -/
theorem bus_refines_link (bus : List Station) (distinct : (addresses bus).Nodup) {st : Station}
    (member : st ∈ bus) (valid : validAddress st.ctx.address = true) {cmd : List Char}
    (toSt : cmd.getD 0 '\x00' = st.ctx.address) :
    line bus cmd = answer st.env st.ctx cmd ∧
      hear bus cmd = bus.map fun s =>
        if s.ctx.address = st.ctx.address then { s with ctx := (process s.env s.ctx cmd).ctx }
        else { s with ctx := { s.ctx with respLen := 0 } } := by
  rw [← toSt] at valid
  refine ⟨?_, by rw [hear_eq bus valid, toSt]⟩
  rw [line_filter bus valid, toSt, filter_address distinct member, line, List.map_singleton,
    List.flatten_singleton]

/-- `1!` on the two-sensor bus is answered by the sensor at `1` alone, and the sensor at `0`
goes on measuring. -/
theorem bus_refines_link_on_two_sensors :
    line twoSensorBus ['1', '!'] = ['1', '\r', '\n'] ∧
      (hear twoSensorBus ['1', '!']).map (·.ctx.state) = [.measuring, .ready] := by
  obtain ⟨carried, heard⟩ := bus_refines_link twoSensorBus (by decide)
    (List.mem_cons_of_mem _ (List.mem_singleton_self _)) (by decide)
    (show ['1', '!'].getD 0 '\x00' = sensorOne.address from rfl)
  exact ⟨carried.trans rfl, by rw [heard]; rfl⟩

/-! ## Addresses over a run -/

/-- Whether an event keeps the addresses apart: any but an `aAb!` whose `b` is the address
of another sensor on the bus. -/
def keepsApart (bus : List Station) : BusEvent → Bool
  | .command cmd => !decide (cmd.getD 1 '\x00' = 'A' ∧ cmd.getD 2 '\x00' ∈ addresses bus ∧
      cmd.getD 2 '\x00' ≠ cmd.getD 0 '\x00')
  | _ => true

/-- Whether every event of a run keeps the addresses apart on the bus it reaches. -/
def runKeepsApart (bus : List Station) : List BusEvent → Bool
  | [] => true
  | event :: rest => keepsApart bus event && runKeepsApart (next bus event) rest

/-- What a command does to one sensor's address: nothing, or an `aAb!` to it moves it to `b`. -/
theorem process_address (env : Env) (ctx : Ctx) (cmd : List Char) :
    (process env ctx cmd).ctx.address = ctx.address ∨
      (ctx.address = cmd.getD 0 '\x00' ∧ cmd.getD 1 '\x00' = 'A' ∧
        (process env ctx cmd).ctx.address = cmd.getD 2 '\x00') := by
  rcases process_setup env ctx cmd with same | ⟨first, letter, -, -, moved⟩
  · exact .inl (congrArg Setup.address same)
  · exact .inr ⟨first.symm, letter, congrArg Setup.address moved⟩

theorem hear_apart {bus : List Station} (distinct : (addresses bus).Nodup) {cmd : List Char}
    (apart : keepsApart bus (.command cmd) = true) : (addresses (hear bus cmd)).Nodup := by
  simp only [keepsApart, Bool.not_eq_true', decide_eq_false_iff_not, not_and, not_not] at apart
  have injective := List.inj_on_of_nodup_map distinct
  simp only [addresses, hear, List.map_map]
  refine (distinct.of_map _).map_on fun x xIn y yIn same => ?_
  simp only [Function.comp_apply] at same
  -- A sensor moved onto the address another kept is moved onto its own: `b` is `a`.
  have onto {s t : Station} (tIn : t ∈ bus) (sAt : s.ctx.address = cmd.getD 0 '\x00')
      (letter : cmd.getD 1 '\x00' = 'A') (sMoved : (process s.env s.ctx cmd).ctx.address = cmd.getD 2 '\x00')
      (tSame : (process t.env t.ctx cmd).ctx.address = t.ctx.address)
      (same : (process s.env s.ctx cmd).ctx.address = (process t.env t.ctx cmd).ctx.address) :
      s.ctx.address = t.ctx.address := by
    have held : t.ctx.address = cmd.getD 2 '\x00' := by rw [← tSame, ← same, sMoved]
    rw [sAt, held, apart letter (List.mem_map.mpr ⟨t, tIn, held⟩)]
  rcases process_address x.env x.ctx cmd with xSame | ⟨xAt, xLetter, xMoved⟩ <;>
    rcases process_address y.env y.ctx cmd with ySame | ⟨yAt, yLetter, yMoved⟩
  · exact injective xIn yIn (by rw [← xSame, ← ySame, same])
  · exact injective xIn yIn (onto xIn yAt yLetter yMoved xSame same.symm).symm
  · exact injective xIn yIn (onto yIn xAt xLetter xMoved ySame same)
  · exact injective xIn yIn (xAt.trans yAt.symm)

theorem mem_modify {α : Type} {f : α → α} {x : α} :
    ∀ {n : Nat} {l : List α}, x ∈ l.modify f n → x ∈ l ∨ ∃ y ∈ l, x = f y
  | _, [] => by simp
  | 0, a :: l => by
    rw [List.modify_zero_cons, List.mem_cons]
    rintro (rfl | member)
    · exact .inr ⟨a, List.mem_cons_self _ _, rfl⟩
    · exact .inl (List.mem_cons_of_mem _ member)
  | n + 1, a :: l => by
    rw [List.modify_succ_cons, List.mem_cons]
    rintro (rfl | member)
    · exact .inl (List.mem_cons_self _ _)
    · rcases mem_modify member with old | ⟨y, yIn, rfl⟩
      · exact .inl (List.mem_cons_of_mem _ old)
      · exact .inr ⟨y, List.mem_cons_of_mem _ yIn, rfl⟩

theorem map_modify {α β : Type} {f : α → α} {g : α → β} (same : ∀ x, g (f x) = g x) :
    ∀ (n : Nat) (l : List α), (l.modify f n).map g = l.map g
  | _, [] => by simp
  | 0, a :: l => by simp [same]
  | n + 1, a :: l => by simp [map_modify same n l]

theorem hear_reachable {bus : List Station} (reachable : ∀ s ∈ bus, Reachable s.ctx) (cmd : List Char) :
    ∀ s ∈ hear bus cmd, Reachable s.ctx := by
  intro s member
  obtain ⟨t, tIn, rfl⟩ := List.mem_map.mp member
  exact (reachable t tIn).step (.process t.env cmd)

/-- A command that is no `aAb!` moves no sensor. -/
theorem hear_addresses (bus : List Station) {cmd : List Char} (notChange : cmd.getD 1 '\x00' ≠ 'A') :
    addresses (hear bus cmd) = addresses bus := by
  simp only [addresses, hear, List.map_map]
  refine List.map_congr_left fun s _ => ?_
  rcases process_address s.env s.ctx cmd with same | ⟨-, letter, -⟩
  · exact same
  · exact absurd letter notChange

theorem sensorBreak_addresses (bus : List Station) : addresses (next bus .sensorBreak) = addresses bus := by
  simp only [addresses, next, List.map_map]
  exact List.map_congr_left fun s _ => congrArg Setup.address (sensorBreak_setup s.ctx)

/-- One event of the bus: every sensor stays reachable, and the addresses stay apart when
the event keeps them so. -/
theorem next_invariant {bus : List Station} (reachable : ∀ s ∈ bus, Reachable s.ctx)
    (distinct : (addresses bus).Nodup) {event : BusEvent} (apart : keepsApart bus event = true) :
    (∀ s ∈ next bus event, Reachable s.ctx) ∧ (addresses (next bus event)).Nodup := by
  cases event with
  | command cmd => exact ⟨hear_reachable reachable cmd, hear_apart distinct apart⟩
  | sensorBreak =>
    refine ⟨fun s member => ?_, by rwa [sensorBreak_addresses]⟩
    obtain ⟨t, tIn, rfl⟩ := List.mem_map.mp member
    exact (reachable t tIn).step .sensorBreak
  | measurementDone station values =>
    refine ⟨fun s member => ?_, ?_⟩
    · rcases mem_modify member with old | ⟨t, tIn, rfl⟩
      · exact reachable s old
      · exact (reachable t tIn).step (.measurementDone values)
    · have kept : addresses (next bus (.measurementDone station values)) = addresses bus :=
        map_modify (fun (s : Station) => congrArg Setup.address (measurementDone_setup s.ctx values)) _ _
      rwa [kept]

/-- Over any run of the bus from sensors reachable from `sdi12_sensor_init` at distinct
addresses, every sensor stays reachable, and the addresses stay distinct as long as no
`aAb!` of the run moves a sensor onto the address of another. -/
theorem after_invariant (bus : List Station) (events : List BusEvent)
    (reachable : ∀ s ∈ bus, Reachable s.ctx) (distinct : (addresses bus).Nodup)
    (apart : runKeepsApart bus events = true) :
    (∀ s ∈ after bus events, Reachable s.ctx) ∧ (addresses (after bus events)).Nodup := by
  induction events generalizing bus with
  | nil => exact ⟨reachable, distinct⟩
  | cons event rest ih =>
    rw [runKeepsApart, Bool.and_eq_true] at apart
    obtain ⟨reachable', distinct'⟩ := next_invariant reachable distinct apart.1
    exact ih _ reachable' distinct' apart.2

/-- `1A2!`, `0I!`, a break and a late completion keep the two sensors reachable and apart. -/
theorem after_invariant_on_two_sensors :
    let events := [.command ['1', 'A', '2', '!'], .command ['0', 'I', '!'], .sensorBreak,
      .measurementDone 0 [⟨1, 0⟩]]
    (∀ s ∈ after twoSensorBus events, Reachable s.ctx) ∧ (addresses (after twoSensorBus events)).Nodup :=
  after_invariant twoSensorBus _ twoSensorBus_reachable (by decide) (by decide)

/-- The master's `0A1!` on the two-sensor bus leaves both sensors at `1`. -/
example : addresses (next twoSensorBus (.command ['0', 'A', '1', '!'])) = ['1', '1'] := by decide

end Bus

end Sdi12
