import Sdi12.Bus

namespace Sdi12

/-! # The example recorder's bus scan

`master_scan_bus` of `example_master.c` wakes the bus with a break, then calls
`sdi12_master_acknowledge` at each of the 62 addresses of its table and prints those
found.  On a bus of sensors set up by `sdi12_sensor_init` at distinct addresses it reports
exactly those sensors, each once, in the order of its table: the `a!` of each step is
answered by the one sensor at `a` or by nothing, and moves no sensor.
-/

open Sensor Master Bus

/-- `addrs` of `master_scan_bus`. -/
def scanAddresses : List Char := "0123456789ABCDEFGHIJKLMNOPQRSTUVWXYZabcdefghijklmnopqrstuvwxyz".toList

/-- The loop of `master_scan_bus` over the addresses left, from the sensors it reaches:
`sdi12_master_acknowledge` with `present` false, whose `a!` every sensor hears when the
address is valid.  The addresses it prints as found. -/
def scanLoop : List Station → List Char → List Char
  | _, [] => []
  | bus, addr :: rest =>
    let found := (acknowledge (line bus) addr false).2
    let heard := if validAddress addr then hear bus [addr, '!'] else bus
    (if found then [addr] else []) ++ scanLoop heard rest

/-- `master_scan_bus`: `sdi12_master_send_break`, which every sensor takes as a break, then
the loop over `addrs`. -/
def scanBus (bus : List Station) : List Char := scanLoop (next bus .sensorBreak) scanAddresses

theorem scanAddresses_nodup : scanAddresses.Nodup := by
  have codes : (scanAddresses.map Char.toNat).Nodup := by decide
  exact codes.of_map _

theorem scanAddresses_valid : ∀ c ∈ scanAddresses, validAddress c = true := by decide

/-- The table holds every valid address. -/
theorem mem_scanAddresses {c : Char} (valid : validAddress c = true) : c ∈ scanAddresses := by
  have listed : ∀ n < 128, validAddress (Char.ofNat n) = true → n ∈ scanAddresses.map Char.toNat := by decide
  have small : c.toNat < 128 := by
    simp only [validAddress, Bool.or_eq_true, Bool.and_eq_true, decide_eq_true_eq] at valid
    rcases valid with (⟨_, upper⟩ | ⟨_, upper⟩) | ⟨_, upper⟩
    · exact Nat.lt_of_le_of_lt (show c.toNat ≤ '9'.toNat from upper) (by decide)
    · exact Nat.lt_of_le_of_lt (show c.toNat ≤ 'Z'.toNat from upper) (by decide)
    · exact Nat.lt_of_le_of_lt (show c.toNat ≤ 'z'.toNat from upper) (by decide)
  obtain ⟨d, member, same⟩ := List.mem_map.mp (listed c.toNat small (by rwa [Char.ofNat_toNat]))
  rwa [← Char.ofNat_toNat d, same, Char.ofNat_toNat] at member

/-- The line for `a!` on a bus of reachable sensors at distinct addresses: `a\r\n` from the
sensor at `a`, or nothing when there is none. -/
theorem line_acknowledge {bus : List Station} (reachable : ∀ s ∈ bus, Reachable s.ctx)
    (distinct : (addresses bus).Nodup) {addr : Char} (valid : validAddress addr = true) :
    line bus [addr, '!'] = if addr ∈ addresses bus then addr :: crlf else [] := by
  rw [line_filter bus (show validAddress ([addr, '!'].getD 0 '\x00') = true from valid)]
  split
  · rename_i present
    obtain ⟨st, member, rfl⟩ := List.mem_map.mp present
    have inv := (reachable st member).invariant
    rw [show [st.ctx.address, '!'].getD 0 '\x00' = st.ctx.address from rfl, filter_address distinct member,
      line, List.map_singleton, List.flatten_singleton]
    exact answer_addressLine (process_acknowledge st.env st.ctx) (by simp [inv.callbacksInstalled.1])
      (by simp) inv.validAddress
  · rename_i absent
    rw [List.filter_eq_nil_iff.mpr fun s member same =>
      absent (List.mem_map.mpr ⟨s, member, by simpa using same⟩)]
    rfl

/-- The loop reports, in order, the addresses left that a sensor holds. -/
theorem scanLoop_eq : ∀ (addrs : List Char) {bus : List Station}, (∀ s ∈ bus, Reachable s.ctx) →
    (addresses bus).Nodup → (∀ a ∈ addrs, validAddress a = true) →
      scanLoop bus addrs = addrs.filter (· ∈ addresses bus)
  | [], _, _, _, _ => rfl
  | addr :: rest, bus, reachable, distinct, valid => by
    have here := valid addr (List.mem_cons_self _ _)
    have kept := hear_addresses bus (show [addr, '!'].getD 1 '\x00' ≠ 'A' by simp)
    have later := scanLoop_eq rest (hear_reachable reachable _) (kept ▸ distinct)
      fun a member => valid a (List.mem_cons_of_mem _ member)
    have heard : (acknowledge (line bus) addr false).2 = decide (addr ∈ addresses bus) := by
      by_cases present : addr ∈ addresses bus
      · rw [acknowledge_heard here false (by rw [line_acknowledge reachable distinct here, if_pos present]),
          decide_eq_true present]
      · rw [acknowledge_silent here false (by rw [line_acknowledge reachable distinct here, if_neg present]),
          decide_eq_false present]
    rw [kept] at later
    by_cases present : addr ∈ addresses bus <;>
      simp [scanLoop, heard, here, later, List.filter_cons, present]

/-- On a bus of sensors reachable from `sdi12_sensor_init` at distinct addresses,
`master_scan_bus` reports the sensors on the bus, each once, in the order of its address
table. -/
theorem scan_finds_every_sensor (bus : List Station) (reachable : ∀ s ∈ bus, Reachable s.ctx)
    (distinct : (addresses bus).Nodup) :
    scanBus bus = scanAddresses.filter (· ∈ addresses bus) ∧ (scanBus bus).Perm (addresses bus) := by
  have woken := @next_invariant bus reachable distinct .sensorBreak rfl
  have found : scanBus bus = scanAddresses.filter (· ∈ addresses bus) := by
    rw [scanBus, scanLoop_eq scanAddresses woken.1 woken.2 scanAddresses_valid, sensorBreak_addresses]
  refine ⟨found, found ▸ (List.perm_ext_iff_of_nodup (scanAddresses_nodup.filter _) distinct).mpr fun c => ?_⟩
  simp only [List.mem_filter, decide_eq_true_eq]
  refine ⟨And.right, fun member => ⟨mem_scanAddresses ?_, member⟩⟩
  obtain ⟨s, sIn, rfl⟩ := List.mem_map.mp member
  exact (reachable s sIn).invariant.validAddress

/-- The scan of the two-sensor bus reports `0` and `1`. -/
theorem scan_finds_every_sensor_on_two_sensors :
    scanBus twoSensorBus = ['0', '1'] ∧ (scanBus twoSensorBus).Perm (addresses twoSensorBus) := by
  obtain ⟨found, perm⟩ := scan_finds_every_sensor twoSensorBus twoSensorBus_reachable (by decide)
  exact ⟨found.trans (by decide), perm⟩

end Sdi12
