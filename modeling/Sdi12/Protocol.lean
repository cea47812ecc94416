import Mathlib.Data.List.DropRight

namespace Sdi12

/-! # Common protocol types (`sdi12.h`)

A C `char` is modelled by the `Char` with the same code: every byte the library reads,
writes or sends is below 256.  C strings are the lists of their bytes before the
terminating NUL; a buffer that may hold NUL bytes (a binary packet, a page with a copied
`vbuf`) is the list of the bytes written before the terminator the code writes last.
-/

@[simp] def mValuesMaxChars : Nat := 35
@[simp] def cValuesMaxChars : Nat := 75
@[simp] def valueMaxChars : Nat := 9
@[simp] def maxResponseLen : Nat := 82
@[simp] def maxCommandLen : Nat := 20
@[simp] def maxMeasGroups : Nat := 10
@[simp] def maxParams : Nat := 20
@[simp] def maxXcmds : Nat := 8
@[simp] def binMaxPayload : Nat := 1000
@[simp] def binPktOverhead : Nat := 6
@[simp] def idSerialMaxLen : Nat := 13

/-- `sdi12_err_t`. -/
inductive Err where
  | ok | invalidAddress | invalidCommand | bufferOverflow | notAddressed | noData
  | paramLimit | callbackMissing | timeout | crcMismatch | parseFailed | aborted
deriving DecidableEq, Repr

/-- `sdi12_meas_type_t`. -/
inductive MeasType where
  | standard | concurrent | highVolAscii | highVolBinary | verification | continuous
deriving DecidableEq, Repr

/-- `sdi12_state_t`. -/
inductive State where
  | standby | ready | measuring | measuringC | dataReady
deriving DecidableEq, Repr

/-- `sdi12_value_t`: the C `float` is kept as its IEEE-754 single-precision bit pattern;
rendering it as text (`snprintf`) and reading it back (`strtod`) are the C library's, and
the model takes them as parameters. -/
structure Value where
  value : UInt32
  decimals : UInt8
deriving DecidableEq, Repr

/-- `sdi12_ident_t`, each field the C string it holds. -/
structure Ident where
  vendor : List Char
  model : List Char
  firmwareVersion : List Char
  serial : List Char
deriving DecidableEq, Repr

/-- `sdi12_valid_address`. -/
def validAddress (c : Char) : Bool :=
  ('0' ≤ c && c ≤ '9') || ('A' ≤ c && c ≤ 'Z') || ('a' ≤ c && c ≤ 'z')

/-- The `c >= '0' && c <= '9'` test the parsers repeat. -/
def isDigit (c : Char) : Bool := '0' ≤ c && c ≤ '9'

/-- `isprint` in the C locale. -/
def isPrint (c : Char) : Bool := 0x20 ≤ c.toNat && c.toNat ≤ 0x7E

/-- `c - '0'` for a digit. -/
def digitValue (c : Char) : Nat := c.toNat - '0'.toNat

def crlf : List Char := ['\r', '\n']

/-- What `snprintf(buf, size, ...)` leaves before its NUL: the formatted text, cut to
`size - 1` bytes. -/
def snprintf (size : Nat) (text : List Char) : List Char := text.take (size - 1)

/-- `%0<width>u`: the decimal digits of `n`, zero-padded on the left to `width`. -/
def formatUnsigned (width n : Nat) : List Char :=
  let digits := Nat.toDigits 10 n
  List.replicate (width - digits.length) '0' ++ digits

/-- `%-<width>.<width>s`: the string cut to `width` bytes and space-padded on the right. -/
def formatField (width : Nat) (s : List Char) : List Char :=
  let cut := s.take width
  cut ++ List.replicate (width - cut.length) ' '

/-- Whether a string ends in CR LF, the test `sdi12_crc_append` and `handle_extended` make. -/
def endsWithCrlf (s : List Char) : Bool :=
  2 ≤ s.length && s.getD (s.length - 2) '\x00' = '\r' && s.getD (s.length - 1) '\x00' = '\n'

/-- `strlen`: the bytes before the first NUL. -/
def cString (buf : List Char) : List Char := buf.takeWhile (· ≠ '\x00')

theorem snprintf_of_length_lt {size : Nat} {text : List Char} (fits : text.length < size) :
    snprintf size text = text :=
  List.take_of_length_le (by omega)

theorem cString_of_forall_ne {buf : List Char} (noNul : ∀ c ∈ buf, c ≠ '\x00') :
    cString buf = buf :=
  List.takeWhile_eq_self_iff.mpr (by simpa using noNul)

theorem ne_nul_of_mem_cString {buf : List Char} {c : Char} (member : c ∈ cString buf) :
    c ≠ '\x00' := by
  simpa using List.mem_takeWhile_imp member

theorem validAddress_ne {c : Char} (valid : validAddress c = true) :
    c ≠ '\x00' ∧ c ≠ '\r' ∧ c ≠ '\n' := by
  refine ⟨?_, ?_, ?_⟩ <;> rintro rfl <;> exact absurd valid (by decide)

/-- Every valid address is a printable byte. -/
theorem isPrint_of_validAddress {c : Char} (valid : validAddress c = true) : isPrint c = true := by
  simp only [validAddress, isPrint, Bool.or_eq_true, Bool.and_eq_true, decide_eq_true_eq,
    Char.le_def, UInt32.le_def, BitVec.le_def] at valid ⊢
  have zero : ('0' : Char).val.toBitVec.toNat = 48 := rfl
  have nine : ('9' : Char).val.toBitVec.toNat = 57 := rfl
  have bigA : ('A' : Char).val.toBitVec.toNat = 65 := rfl
  have bigZ : ('Z' : Char).val.toBitVec.toNat = 90 := rfl
  have smallA : ('a' : Char).val.toBitVec.toNat = 97 := rfl
  have smallZ : ('z' : Char).val.toBitVec.toNat = 122 := rfl
  simp only [Char.toNat, UInt32.toNat]
  omega

@[simp] theorem length_formatField (width : Nat) (s : List Char) :
    (formatField width s).length = width := by
  simp only [formatField, List.length_append, List.length_replicate, List.length_take]
  omega

theorem mem_formatField {width : Nat} {s : List Char} {c : Char} (member : c ∈ formatField width s) :
    c ∈ s ∨ c = ' ' := by
  simp only [formatField, List.mem_append, List.mem_replicate] at member
  exact member.imp List.mem_of_mem_take And.right

/-! ## Decimal digits -/

theorem digitChar_fin (d : Fin 10) :
    isDigit (Nat.digitChar d) = true ∧ digitValue (Nat.digitChar d) = d := by
  revert d
  decide

theorem isDigit_digitChar {d : Nat} (small : d < 10) : isDigit (Nat.digitChar d) = true :=
  (digitChar_fin ⟨d, small⟩).1

theorem digitValue_digitChar {d : Nat} (small : d < 10) : digitValue (Nat.digitChar d) = d :=
  (digitChar_fin ⟨d, small⟩).2

theorem ne_of_isDigit {c x : Char} (digit : isDigit c = true) (other : isDigit x = false) : c ≠ x := by
  rintro rfl
  exact absurd digit (by simp [other])

/-- One step of the digit loop of `%u`: the last digit, then the rest of the number. -/
theorem toDigitsCore_succ (fuel n : Nat) (ds : List Char) :
    Nat.toDigitsCore 10 (fuel + 1) n ds =
      if n / 10 = 0 then Nat.digitChar (n % 10) :: ds
      else Nat.toDigitsCore 10 fuel (n / 10) (Nat.digitChar (n % 10) :: ds) := rfl

theorem toDigitsCore_append (fuel n : Nat) (ds : List Char) :
    Nat.toDigitsCore 10 fuel n ds = Nat.toDigitsCore 10 fuel n [] ++ ds := by
  induction fuel generalizing n ds with
  | zero => rfl
  | succ fuel ih =>
    rw [toDigitsCore_succ, toDigitsCore_succ]
    split
    · rfl
    · rw [ih, ih _ [_], List.append_assoc, List.singleton_append]

theorem toDigitsCore_fuel {fuel fuel' n : Nat} (enough : n < fuel) (enough' : n < fuel') :
    Nat.toDigitsCore 10 fuel n [] = Nat.toDigitsCore 10 fuel' n [] := by
  induction fuel generalizing fuel' n with
  | zero => omega
  | succ fuel ih =>
    obtain ⟨fuel', rfl⟩ : ∃ k, fuel' = k + 1 := ⟨fuel' - 1, by omega⟩
    rw [toDigitsCore_succ, toDigitsCore_succ]
    split
    · rfl
    · rw [toDigitsCore_append, toDigitsCore_append _ _ [_], @ih fuel' (n / 10) (by omega) (by omega)]

/-- `%u` of a number of two digits or more: the digits of its tenth, then its last digit. -/
theorem toDigits_of_le {n : Nat} (big : 10 ≤ n) :
    Nat.toDigits 10 n = Nat.toDigits 10 (n / 10) ++ [Nat.digitChar (n % 10)] := by
  rw [show Nat.toDigits 10 n = Nat.toDigitsCore 10 (n + 1) n [] from rfl, toDigitsCore_succ,
    if_neg (by omega), toDigitsCore_append,
    toDigitsCore_fuel (by omega) (by omega : n / 10 < n / 10 + 1)]
  rfl

theorem toDigits_of_lt {n : Nat} (small : n < 10) : Nat.toDigits 10 n = [Nat.digitChar n] := by
  rw [show Nat.toDigits 10 n = Nat.toDigitsCore 10 (n + 1) n [] from rfl, toDigitsCore_succ,
    if_pos (Nat.div_eq_of_lt small), Nat.mod_eq_of_lt small]

theorem isDigit_of_mem_toDigits {n : Nat} {c : Char} (member : c ∈ Nat.toDigits 10 n) :
    isDigit c = true := by
  induction n using Nat.strong_induction_on with
  | _ n ih =>
    by_cases small : n < 10
    · rw [toDigits_of_lt small, List.mem_singleton] at member
      exact member ▸ isDigit_digitChar small
    · rw [toDigits_of_le (by omega), List.mem_append, List.mem_singleton] at member
      rcases member with member | rfl
      · exact ih _ (by omega) member
      · exact isDigit_digitChar (Nat.mod_lt _ (by decide))

/-- A byte code below the surrogates is the code of the `Char` made from it. -/
theorem toNat_charOfNat {n : Nat} (valid : n < 0xD800) : (Char.ofNat n).toNat = n := by
  simp [Char.ofNat, Nat.isValidChar, valid, Char.ofNatAux, Char.toNat]
  rfl

end Sdi12
