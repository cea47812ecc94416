import Mathlib.Data.Nat.Bitwise
import Sdi12.Crc

namespace Sdi12

/-! # What the CRC-16 detects (`sdi12_crc16`)

The byte loop of `sdi12_crc16` is a 16-bit shift register fed the serial bit stream of the
data, byte 0 first and each byte least significant bit first (`crc16_serial`).  Three facts
about one shift carry the error-detection results.  It is linear in exclusive or, since the
loop starts from 0 and ends without a final XOR.  It keeps the parity of the register,
since `0xA001` has an odd number of ones: x^16+x^15+x^2+1 has the factor x+1.  And XOR-ing
`0xA001` into a register whose top bit is clear sets that bit, so from a non-zero register
fifteen more bits cannot empty it.

The register is reasoned about as a `Nat` below `2^16`; `toNat_crcShift` and its relatives
connect it to the `UInt16` code.
-/

/-- A byte string as the characters the model's CRC reads. -/
def byteChars (bytes : List UInt8) : List Char := bytes.map fun b => Char.ofNat b.toNat

/-- The `width` low bits of `n`, least significant first. -/
def lowBits : Nat → Nat → List Bool
  | 0, _ => []
  | width + 1, n => decide (n % 2 = 1) :: lowBits width (n / 2)

/-- The serial bit order of a byte string: byte 0 first, least significant bit first. -/
def serialBits (bytes : List UInt8) : List Bool := bytes.flatMap fun b => lowBits 8 b.toNat

/-- `crcShift` on the register's value. -/
def shiftValue (x : Nat) : Nat := if x % 2 = 1 then x / 2 ^^^ 0xA001 else x / 2

/-- One bit of the serial stream fed into the register. -/
def feedBit (x : Nat) (bit : Bool) : Nat := shiftValue (x ^^^ bit.toNat)

/-- Whether the `width` low bits of `n` hold an odd number of ones. -/
def oddOnes : Nat → Nat → Bool
  | 0, _ => false
  | width + 1, n => decide (n % 2 = 1) ^^ oddOnes width (n / 2)

/-! ## The byte loop is the bit-serial register -/

theorem toNat_xor (a b : UInt16) : (a ^^^ b).toNat = a.toNat ^^^ b.toNat := BitVec.toNat_xor ..

theorem toNat_crcShift (crc : UInt16) : (crcShift crc).toNat = shiftValue crc.toNat := by
  have low : (crc &&& 1 ≠ 0) ↔ crc.toNat % 2 = 1 := by
    have bit : (crc &&& 1).toNat = crc.toNat % 2 := by simp [UInt16.and_toNat]
    constructor
    · intro set
      by_contra even
      exact set (UInt16.toNat.inj (by rw [bit, UInt16.toNat_zero]; omega))
    · intro odd clear
      rw [clear, UInt16.toNat_zero] at bit
      omega
  have half : (crc >>> 1).toNat = crc.toNat / 2 := by
    rw [show (1 : UInt16) = UInt16.ofNat 1 from rfl, toNat_shiftRight crc (by decide),
      Nat.shiftRight_one]
  unfold crcShift shiftValue
  by_cases odd : crc.toNat % 2 = 1
  · rw [if_pos (low.mpr odd), if_pos odd, toNat_xor, half]
    rfl
  · rw [if_neg (mt low.mp odd), if_neg odd, half]

theorem toNat_crcShifts (count : Nat) (crc : UInt16) :
    (crcShifts count crc).toNat = shiftValue^[count] crc.toNat := by
  induction count generalizing crc with
  | zero => rfl
  | succ count ih => rw [crcShifts, ih, toNat_crcShift, Function.iterate_succ_apply]

theorem shiftValue_xor (a b : Nat) : shiftValue (a ^^^ b) = shiftValue a ^^^ shiftValue b := by
  unfold shiftValue
  rw [Nat.xor_div_two]
  by_cases oddA : a % 2 = 1 <;> by_cases oddB : b % 2 = 1 <;>
    simp only [Nat.xor_mod_two_eq_one, oddA, oddB, if_true, if_false, iff_self, iff_false,
      false_iff, not_true_eq_false, not_false_eq_true]
  · rw [Nat.xor_assoc, Nat.xor_comm 0xA001, Nat.xor_assoc, Nat.xor_self, Nat.xor_zero]
  · ac_rfl
  · ac_rfl

/-- Eight shifts after XOR-ing a value into the register feed its bits in one at a time. -/
theorem iterate_shiftValue_xor (width : Nat) :
    ∀ x v, v < 2 ^ width → shiftValue^[width] (x ^^^ v) = (lowBits width v).foldl feedBit x := by
  induction width with
  | zero =>
    intro x v small
    rw [show v = 0 by simpa using small]
    simp [lowBits]
  | succ width ih =>
    intro x v small
    have parts : x ^^^ v = (x ^^^ v % 2) ^^^ (v ^^^ v % 2) := by
      rw [Nat.xor_assoc, ← Nat.xor_assoc (v % 2), Nat.xor_comm (v % 2) v, Nat.xor_assoc,
        Nat.xor_self, Nat.xor_zero]
    have even : shiftValue (v ^^^ v % 2) = v / 2 := by
      have mod : ¬(v ^^^ v % 2) % 2 = 1 := by
        rw [Nat.xor_mod_two_eq_one, Nat.mod_mod]
        exact fun differ => differ Iff.rfl
      rw [shiftValue, if_neg mod, Nat.xor_div_two, Nat.div_eq_of_lt (Nat.mod_lt v (by decide)),
        Nat.xor_zero]
    have bit : (decide (v % 2 = 1)).toNat = v % 2 := by
      by_cases odd : v % 2 = 1 <;> simp [odd]
      omega
    rw [Function.iterate_succ_apply, parts, shiftValue_xor, even, lowBits, List.foldl_cons,
      ← ih _ _ (by rw [Nat.pow_succ] at small; omega), feedBit, bit]

theorem length_lowBits (width n : Nat) : (lowBits width n).length = width := by
  induction width generalizing n with
  | zero => rfl
  | succ width ih => simp [lowBits, ih]

/-- `sdi12_crc16` of a byte string is the register fed its serial bit stream from 0. -/
theorem crc16_serial (bytes : List UInt8) :
    (crc16 (byteChars bytes)).toNat = (serialBits bytes).foldl feedBit 0 := by
  suffices loop : ∀ crc : UInt16,
      ((byteChars bytes).foldl crcByte crc).toNat = (serialBits bytes).foldl feedBit crc.toNat from
    loop 0
  induction bytes with
  | nil => intro crc; rfl
  | cons b rest ih =>
    intro crc
    have byteCode : (Char.ofNat b.toNat).toNat % 256 = b.toNat := by
      rw [toNat_charOfNat (by have := b.toNat_lt_size; simp only [UInt8.size] at this; omega)]
      exact Nat.mod_eq_of_lt b.toNat_lt_size
    have code : (UInt16.ofNat ((Char.ofNat b.toNat).toNat % 256)).toNat = b.toNat := by
      rw [byteCode]
      exact UInt16.toNat_ofNat_of_lt
        (by have := b.toNat_lt_size; simp only [UInt8.size, UInt16.size] at this ⊢; omega)
    have step : (crcByte crc (Char.ofNat b.toNat)).toNat =
        (lowBits 8 b.toNat).foldl feedBit crc.toNat := by
      rw [crcByte, toNat_crcShifts, toNat_xor, code, iterate_shiftValue_xor 8 _ _ b.toNat_lt_size]
    simp only [byteChars, List.map_cons, List.foldl_cons, serialBits, List.flatMap_cons,
      List.foldl_append] at ih ⊢
    rw [ih, step]

/-! ## Linearity -/

theorem decide_xor_odd (a b : Nat) :
    decide ((a ^^^ b) % 2 = 1) = (decide (a % 2 = 1) ^^ decide (b % 2 = 1)) := by
  by_cases oddA : a % 2 = 1 <;> by_cases oddB : b % 2 = 1 <;> simp [oddA, oddB] <;> omega

theorem lowBits_xor (width a b : Nat) :
    lowBits width (a ^^^ b) = List.zipWith (· ^^ ·) (lowBits width a) (lowBits width b) := by
  induction width generalizing a b with
  | zero => rfl
  | succ width ih => simp only [lowBits, List.zipWith_cons_cons, Nat.xor_div_two, ih, decide_xor_odd]

theorem length_serialBits (bytes : List UInt8) : (serialBits bytes).length = 8 * bytes.length := by
  induction bytes with
  | nil => rfl
  | cons b bytes ih =>
    simp only [serialBits, List.flatMap_cons, List.length_append, length_lowBits] at ih ⊢
    rw [ih, List.length_cons]
    omega

theorem serialBits_xor {m e : List UInt8} (same : m.length = e.length) :
    serialBits (List.zipWith (· ^^^ ·) m e) =
      List.zipWith (· ^^ ·) (serialBits m) (serialBits e) := by
  induction m generalizing e with
  | nil => cases e <;> rfl
  | cons a m ih =>
    cases e with
    | nil => cases same
    | cons b e =>
      simp only [List.zipWith_cons_cons, serialBits, List.flatMap_cons] at ih ⊢
      rw [List.zipWith_append _ _ _ _ _ (by simp [length_lowBits]), ← ih (by simpa using same),
        show (a ^^^ b).toNat = a.toNat ^^^ b.toNat from BitVec.toNat_xor .., lowBits_xor]

theorem feedBit_xor (x y : Nat) (b c : Bool) :
    feedBit (x ^^^ y) (b ^^ c) = feedBit x b ^^^ feedBit y c := by
  have bits : (b ^^ c).toNat = b.toNat ^^^ c.toNat := by cases b <;> cases c <;> rfl
  rw [feedBit, feedBit, feedBit, ← shiftValue_xor, bits]
  ac_rfl

theorem foldl_feedBit_xor (x y : Nat) {bs cs : List Bool} (same : bs.length = cs.length) :
    (List.zipWith (· ^^ ·) bs cs).foldl feedBit (x ^^^ y) =
      bs.foldl feedBit x ^^^ cs.foldl feedBit y := by
  induction bs generalizing x y cs with
  | nil => cases cs <;> first | rfl | cases same
  | cons b bs ih =>
    cases cs with
    | nil => cases same
    | cons c cs =>
      simp only [List.zipWith_cons_cons, List.foldl_cons, feedBit_xor]
      exact ih _ _ (by simpa using same)

/-- The CRC of two byte strings XOR-ed together is the XOR of their CRCs. -/
theorem crc16_xor {m e : List UInt8} (same : m.length = e.length) :
    crc16 (byteChars (List.zipWith (· ^^^ ·) m e)) = crc16 (byteChars m) ^^^ crc16 (byteChars e) := by
  apply UInt16.toNat.inj
  rw [toNat_xor, crc16_serial, crc16_serial, crc16_serial, serialBits_xor same,
    ← foldl_feedBit_xor 0 0 (by simp [length_serialBits, same])]
  rfl

/-! ## Parity -/

theorem oddOnes_xor (width a b : Nat) :
    oddOnes width (a ^^^ b) = (oddOnes width a ^^ oddOnes width b) := by
  induction width generalizing a b with
  | zero => rfl
  | succ width ih =>
    simp only [oddOnes, Nat.xor_div_two, ih, decide_xor_odd, Bool.xor_assoc]
    rw [Bool.xor_left_comm (decide (b % 2 = 1))]

theorem oddOnes_succ_of_lt (width : Nat) : ∀ n, n < 2 ^ width → oddOnes (width + 1) n = oddOnes width n := by
  induction width with
  | zero => intro n small; rw [show n = 0 by simpa using small]; rfl
  | succ width ih =>
    intro n small
    rw [oddOnes, ih (n / 2) (by rw [Nat.pow_succ] at small; omega), oddOnes]

theorem shiftValue_lt {x : Nat} (small : x < 2 ^ 16) : shiftValue x < 2 ^ 16 := by
  unfold shiftValue
  split
  · exact Nat.xor_lt_two_pow (by omega) (by decide)
  · omega

theorem feedBit_lt {x : Nat} (small : x < 2 ^ 16) (bit : Bool) : feedBit x bit < 2 ^ 16 :=
  shiftValue_lt (Nat.xor_lt_two_pow small (by cases bit <;> decide))

/-- A shift keeps the parity of the register. -/
theorem oddOnes_shiftValue {x : Nat} (small : x < 2 ^ 16) :
    oddOnes 16 (shiftValue x) = oddOnes 16 x := by
  have half := oddOnes_succ_of_lt 15 (x / 2) (by omega)
  unfold shiftValue
  rw [show oddOnes 16 x = (decide (x % 2 = 1) ^^ oddOnes 15 (x / 2)) from rfl]
  split <;> rename_i odd
  · rw [oddOnes_xor, half, show oddOnes 16 0xA001 = true from rfl]
    simp [odd]
  · rw [half]
    simp [odd]

theorem oddOnes_foldl_feedBit (bits : List Bool) :
    ∀ x, x < 2 ^ 16 →
      oddOnes 16 (bits.foldl feedBit x) = (oddOnes 16 x ^^ decide (bits.count true % 2 = 1)) := by
  induction bits with
  | nil => intro x _; simp
  | cons b bits ih =>
    intro x small
    have fed : oddOnes 16 (feedBit x b) = (oddOnes 16 x ^^ b) := by
      rw [feedBit, oddOnes_shiftValue (Nat.xor_lt_two_pow small (by cases b <;> decide)),
        oddOnes_xor]
      cases b <;> rfl
    rw [List.foldl_cons, ih _ (feedBit_lt small b), fed, List.count_cons]
    cases b
    · simp
    · have flip : decide ((bits.count true + 1) % 2 = 1) = !decide (bits.count true % 2 = 1) := by
        by_cases odd : bits.count true % 2 = 1 <;> simp [odd] <;> omega
      simp [flip]

/-! ## Bursts -/

theorem shiftValue_ne_zero {x : Nat} (small : x < 2 ^ 16) (nonzero : x ≠ 0) : shiftValue x ≠ 0 := by
  unfold shiftValue
  split
  · rw [Ne, Nat.xor_eq_zero]
    omega
  · omega

/-- From a register whose top set bit is at least `width`, a bit leaves one at least
`width - 1`: a shift moves the bit down by one, or the XOR sets bit 15. -/
theorem feedBit_ge {x width : Nat} (small : x < 2 ^ 16) (high : 2 ^ (width + 1) ≤ x)
    (within : width < 16) (bit : Bool) : 2 ^ width ≤ feedBit x bit := by
  have fits : x ^^^ bit.toNat < 2 ^ 16 := Nat.xor_lt_two_pow small (by cases bit <;> decide)
  unfold feedBit shiftValue
  split
  · have top : ((x ^^^ bit.toNat) / 2 ^^^ 0xA001).testBit 15 = true := by
      rw [Nat.testBit_xor, Nat.testBit_lt_two_pow (by omega)]
      rfl
    exact (Nat.pow_le_pow_right (by decide) (by omega)).trans (Nat.testBit_implies_ge top)
  · rw [Nat.xor_div_two, show bit.toNat / 2 = 0 by cases bit <;> rfl, Nat.xor_zero]
    rw [Nat.pow_succ] at high
    omega

theorem foldl_feedBit_ge (bits : List Bool) :
    ∀ x width, x < 2 ^ 16 → 2 ^ width ≤ x → bits.length ≤ width → width < 16 →
      2 ^ (width - bits.length) ≤ bits.foldl feedBit x := by
  induction bits with
  | nil => intro x width _ high _ _; simpa using high
  | cons b bits ih =>
    intro x width small high short within
    obtain ⟨width, rfl⟩ : ∃ w, width = w + 1 := ⟨width - 1, by simp at short; omega⟩
    have := ih (feedBit x b) width (feedBit_lt small b) (feedBit_ge small high (by omega) b)
      (by simpa using short) (by omega)
    simpa using this

theorem foldl_feedBit_lt (bits : List Bool) : ∀ x, x < 2 ^ 16 → bits.foldl feedBit x < 2 ^ 16 := by
  induction bits with
  | nil => intro x small; exact small
  | cons b bits ih => intro x small; exact ih _ (feedBit_lt small b)

theorem foldl_feedBit_zeros (bits : List Bool) (zeros : ∀ b ∈ bits, b = false) :
    ∀ x, x < 2 ^ 16 → x ≠ 0 → bits.foldl feedBit x ≠ 0 := by
  induction bits with
  | nil => intro x _ nonzero; exact nonzero
  | cons b bits ih =>
    intro x small nonzero
    rw [zeros b (by simp), List.foldl_cons]
    exact ih (fun b member => zeros b (by simp [member])) _ (feedBit_lt small false)
      (by simpa [feedBit] using shiftValue_ne_zero small nonzero)

theorem foldl_feedBit_replicate (count : Nat) :
    (List.replicate count false).foldl feedBit 0 = 0 := by
  induction count with
  | zero => rfl
  | succ count ih => rw [List.replicate_succ, List.foldl_cons, show feedBit 0 false = 0 from rfl, ih]

/-- A non-empty burst of set bits inside a window of 16 positions: zeros, a one, at most
fifteen more bits, and zeros. -/
theorem burst_split (bits : List Bool) :
    ∀ start, (∀ j, bits.getD j false = true → start ≤ j ∧ j < start + 16) → true ∈ bits →
      ∃ lead body rest, bits = List.replicate lead false ++ true :: body ++ rest ∧
        body.length ≤ 15 ∧ ∀ b ∈ rest, b = false := by
  induction bits with
  | nil => intro _ _ absent; cases absent
  | cons b bits ih =>
    intro start window present
    cases b with
    | false =>
      obtain ⟨lead, body, rest, split, short, zeros⟩ := ih (start - 1)
        (fun j set => by have := window (j + 1) (by simpa using set); omega)
        (by simpa using present)
      exact ⟨lead + 1, body, rest, by simp [split, List.replicate_succ], short, zeros⟩
    | true =>
      have first := window 0 rfl
      refine ⟨0, bits.take 15, bits.drop 15, by simp, List.length_take_le 15 bits, fun b member => ?_⟩
      obtain ⟨k, bound, rfl⟩ := List.getElem_of_mem member
      by_contra set
      have := window (k + 16) (by
        simp only [List.getElem_drop, Bool.not_eq_false] at set
        simpa [List.getD_eq_getElem?_getD, Nat.add_comm k 15, List.getElem?_eq_getElem
          (show 15 + k < bits.length by simp at bound; omega)] using set)
      omega

theorem mem_lowBits {width n : Nat} (small : n < 2 ^ width) (nonzero : n ≠ 0) :
    true ∈ lowBits width n := by
  induction width generalizing n with
  | zero => simp at small; omega
  | succ width ih =>
    by_cases odd : n % 2 = 1
    · simp [lowBits, odd]
    · exact List.mem_cons_of_mem _ (ih (by rw [Nat.pow_succ] at small; omega) (by omega))

/-- **Error detection of `sdi12_crc16`.**  Flipping the bits of a non-zero error pattern in
a byte string changes its CRC when the pattern has an odd number of ones, or all its ones
within 16 consecutive positions of the serial bit order. -/
theorem crc16_detects (m e : List UInt8) (same : m.length = e.length) (nonzero : ∃ b ∈ e, b ≠ 0)
    (pattern : (serialBits e).count true % 2 = 1 ∨
      ∃ start, ∀ j, (serialBits e).getD j false = true → start ≤ j ∧ j < start + 16) :
    crc16 (byteChars (List.zipWith (· ^^^ ·) m e)) ≠ crc16 (byteChars m) := by
  rw [crc16_xor same]
  intro unchanged
  have zero : (serialBits e).foldl feedBit 0 = 0 := by
    rw [← crc16_serial]
    have kept := congrArg UInt16.toNat unchanged
    rw [toNat_xor] at kept
    exact Nat.xor_right_inj.mp (kept.trans (Nat.xor_zero _).symm)
  rcases pattern with odd | ⟨start, window⟩
  · have parity := oddOnes_foldl_feedBit (serialBits e) 0 (by decide)
    rw [zero] at parity
    simp [odd] at parity
  · have present : true ∈ serialBits e := by
      obtain ⟨b, member, flipped⟩ := nonzero
      exact List.mem_flatMap.mpr ⟨b, member, mem_lowBits b.toNat_lt_size
        (fun clear => flipped (UInt8.toNat.inj (by simpa using clear)))⟩
    obtain ⟨lead, body, rest, split, short, zeros⟩ := burst_split _ start window present
    have after : (serialBits e).foldl feedBit 0 = rest.foldl feedBit (body.foldl feedBit 0xA001) := by
      rw [split, List.foldl_append, List.foldl_append, List.foldl_cons, foldl_feedBit_replicate]
      rfl
    have high := foldl_feedBit_ge body 0xA001 15 (by decide) (by decide) short (by decide)
    refine foldl_feedBit_zeros rest zeros _ (foldl_feedBit_lt body _ (by decide)) ?_ (after ▸ zero)
    have := Nat.one_le_two_pow (n := 15 - body.length)
    omega

/-- Flipping bits 7 and 8 of `"01"`, an even pattern across a byte boundary. -/
theorem crc16_detects_boundary_burst :
    [(0x30 : UInt8), 0x31].length = [(0x80 : UInt8), 0x01].length ∧
      (∃ b ∈ [(0x80 : UInt8), 0x01], b ≠ 0) ∧
      ((serialBits [0x80, 0x01]).count true % 2 = 1 ∨
        ∃ start, ∀ j, (serialBits [0x80, 0x01]).getD j false = true → start ≤ j ∧ j < start + 16) ∧
      crc16 (byteChars (List.zipWith (· ^^^ ·) [0x30, 0x31] [0x80, 0x01])) ≠
        crc16 (byteChars [0x30, 0x31]) :=
  have window : ∃ start, ∀ j, (serialBits [0x80, 0x01]).getD j false = true →
      start ≤ j ∧ j < start + 16 :=
    ⟨0, fun j set => ⟨Nat.zero_le j, by
      by_contra beyond
      rw [List.getD_eq_getElem?_getD, List.getElem?_eq_none (by simp [length_serialBits]; omega)] at set
      cases set⟩⟩
  ⟨rfl, ⟨0x80, by simp, by decide⟩, .inr window,
    crc16_detects _ _ rfl ⟨0x80, by simp, by decide⟩ (.inr window)⟩

end Sdi12
