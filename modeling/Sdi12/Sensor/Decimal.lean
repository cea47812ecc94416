import Sdi12.Sensor.Grammar

namespace Sdi12.Sensor

/-! # The decimal fields of `aDn!` and `aI…_nnn!`

`sdi12_sensor_process` reads the page of `aDn!` into a `uint16_t` and the parameter number of
a metadata request into an `int`, a digit at a time, with no bound on the number of digits.
Against the exact value of the digit string the page is taken modulo `2^16` before it is
clamped to 255 (`process_sendData_digits`), and the parameter number is wrapped to 32 bits
before its range check (`process_paramRequest_digits`).
-/

/-- The exact value of a string of decimal digits. -/
def decimalValue (digits : List Char) : Nat :=
  digits.foldl (fun value c => value * 10 + digitValue c) 0

/-- The page loop of `aDn!` keeps the value of the digits read so far modulo `2^16`. -/
theorem parsePage_digits {N : List Char} (digits : ∀ c ∈ N, isDigit c = true) (value : Nat) :
    parsePage N (value % 65536) = N.foldl (fun value c => value * 10 + digitValue c) value % 65536 := by
  induction N generalizing value with
  | nil => rfl
  | cons c N ih =>
    have step : (value % 65536 * 10 + digitValue c) % 65536 = (value * 10 + digitValue c) % 65536 := by
      omega
    simp only [parsePage, digits c (List.mem_cons_self _ _), if_true, step, List.foldl_cons]
    exact ih (fun c member => digits c (List.mem_cons_of_mem _ member)) _

theorem wrapInt32_step (value : Int) (d : Nat) :
    wrapInt32 (wrapInt32 value * 10 + d) = wrapInt32 (value * 10 + d) := by
  unfold wrapInt32
  omega

/-- The loop after `_` keeps the value of the digits read so far wrapped to an `int`, and
stops at the `!`. -/
theorem parseParamNum_digits {N : List Char} (digits : ∀ c ∈ N, isDigit c = true) (value : Nat) :
    parseParamNum (N ++ ['!']) (wrapInt32 value) =
      wrapInt32 (N.foldl (fun value c => value * 10 + digitValue c) value : Nat) := by
  induction N generalizing value with
  | nil =>
    have notDigit : isDigit '!' = false := rfl
    simp only [List.nil_append, parseParamNum, notDigit, Bool.false_eq_true, if_false, List.foldl_nil]
  | cons c N ih =>
    have next := ih (fun c member => digits c (List.mem_cons_of_mem _ member)) (value * 10 + digitValue c)
    push_cast at next
    simp only [List.cons_append, parseParamNum, digits c (List.mem_cons_self _ _), if_true,
      wrapInt32_step, List.foldl_cons, List.append_eq, next]

/-- `aDn!` for any string `n` of digits: the page is the value of `n` modulo `2^16`, clamped
to 255. -/
theorem process_sendData_digits (env : Env) (ctx : Ctx) {N : List Char}
    (digits : ∀ c ∈ N, isDigit c = true) (nonempty : N ≠ []) :
    process env ctx (ctx.address :: 'D' :: N ++ ['!']) =
      handleSendData env (abortConcurrent { ctx with respLen := 0 } true)
        (min (decimalValue N % 65536) 255) := by
  obtain ⟨first, rest, rfl⟩ := List.exists_cons_of_ne_nil nonempty
  have notB : first ≠ 'B' := fun same =>
    absurd (digits first (List.mem_cons_self _ _)) (by rw [same]; decide)
  have page := parsePage_digits digits 0
  rw [Nat.zero_mod] at page
  rw [process_addressed env ctx (by simp) (by rw [commandLength_append_bang]; simp),
    commandLength_append_bang]
  simp [dispatch, notB, decimalValue, page]

/-- `handle_identify_measurement` on `aI…_n!` for any string `n` of digits: it answers the
parameter the value of `n`, wrapped to an `int`, numbers. -/
theorem handleIdentifyMeasurement_digits (ctx : Ctx) (address : Char) (kind : MetaKind)
    (group : Option (Fin 10)) {N : List Char} (digits : ∀ c ∈ N, isDigit c = true) :
    let pre := kind.letters ++ digitText group
    let body := address :: 'I' :: (pre ++ '_' :: N)
    handleIdentifyMeasurement ctx (body ++ ['!']) body.length =
      answerMetadata ctx (kind.read (some (0, 0, 0))) (groupOf (kind.readGroup group))
        (some (wrapInt32 (decimalValue N)).toNat) := by
  intro pre body
  have long : ¬body.length < 3 := by simp [body]; omega
  have before : List.findIdx? (· == '_') pre = none :=
    List.findIdx?_eq_none_iff.mpr fun c member => by
      simpa using ne_of_mem_of_not_mem member (underscore_not_mem kind group)
  have found : findUnderscore (body ++ ['!']) body.length = some (pre.length + 2) := by
    rw [findUnderscore, List.take_left, show body.drop 2 = pre ++ '_' :: N from rfl, List.indexOf?,
      List.findIdx?_append, before]
    simp
  have dropped : (body ++ ['!']).drop (pre.length + 2 + 1) = N ++ ['!'] := by
    simp [body, List.drop_append_eq_append_drop]
  have leading : ((body ++ ['!']).take (pre.length + 2)).drop 2 = pre := by
    simp [body, List.take_append_eq_append_take]
  have read : metadataGroup (body ++ ['!']) (pre.length + 2) = groupOf (kind.readGroup group) := by
    simpa [body, pre] using metadataGroup_text address kind group (N ++ ['!'])
  have value : parseParamNum (N ++ ['!']) 0 = wrapInt32 (decimalValue N) := by
    have accumulated := parseParamNum_digits digits 0
    push_cast at accumulated
    rwa [wrapInt32_of_lt (Int.le_refl 0) (by decide)] at accumulated
  have inRange (count : Nat) :
      (1 ≤ wrapInt32 (decimalValue N) ∧ wrapInt32 (decimalValue N) ≤ count) ↔
        (1 ≤ (wrapInt32 (decimalValue N)).toNat ∧ (wrapInt32 (decimalValue N)).toNat ≤ count) := by
    omega
  simp only [handleIdentifyMeasurement, if_neg long, found, dropped, leading, read, value,
    contains_C kind group (0, 0, 0), inRange, answerMetadata]

theorem process_paramRequest_digits (env : Env) (ctx : Ctx) (kind : MetaKind)
    (group : Option (Fin 10)) {N : List Char} (digits : ∀ c ∈ N, isDigit c = true) :
    process env ctx (ctx.address :: 'I' :: (kind.letters ++ digitText group ++ '_' :: N) ++ ['!']) =
      answerMetadata (abortConcurrent { ctx with respLen := 0 } true) (kind.read (some (0, 0, 0)))
        (groupOf (kind.readGroup group)) (some (wrapInt32 (decimalValue N)).toNat) := by
  have notTwo : (ctx.address :: 'I' :: (kind.letters ++ digitText group ++ '_' :: N)).length ≠ 2 := by
    simp
  rw [process_addressed env ctx (by simp) (by rw [commandLength_append_bang]; simp),
    commandLength_append_bang]
  simp only [dispatch, List.cons_append, List.getD_cons_succ, List.getD_cons_zero, if_neg notTwo]
  simpa only [List.cons_append] using
    handleIdentifyMeasurement_digits (abortConcurrent { ctx with respLen := 0 } true) ctx.address kind
      group digits

/-- `sdi12_sensor_process` on the decimal fields of `aDn!` and `aI…_n!`, for strings `n` of
digits of any length: the page of `aDn!` is the value of `n` modulo `2^16`, clamped to 255,
and the parameter number of a metadata request is the value of `n` wrapped to an `int`,
checked against the group's parameter count only then. -/
theorem decimal_fields_wrap (env : Env) (ctx : Ctx) {N : List Char}
    (digits : ∀ c ∈ N, isDigit c = true) :
    (N ≠ [] → process env ctx (ctx.address :: 'D' :: N ++ ['!']) =
      handleSendData env (abortConcurrent { ctx with respLen := 0 } true)
        (min (decimalValue N % 65536) 255)) ∧
    ∀ (kind : MetaKind) (group : Option (Fin 10)),
      process env ctx (ctx.address :: 'I' :: (kind.letters ++ digitText group ++ '_' :: N) ++ ['!']) =
        answerMetadata (abortConcurrent { ctx with respLen := 0 } true) (kind.read (some (0, 0, 0)))
          (groupOf (kind.readGroup group)) (some (wrapInt32 (decimalValue N)).toNat) :=
  ⟨process_sendData_digits env ctx digits, fun kind group =>
    process_paramRequest_digits env ctx kind group digits⟩

/-- The sensor of `taSensor` after `0M!`: one value in its cache. -/
def measuredTaSensor : Ctx := run taSensor [.process quietEnv ['0', 'M', '!']]

set_option maxRecDepth 8000 in
/-- `0D65536!` is served page 0, the measured value, where `0D255!` gets the bare address;
and `0IM_4294967297!` is answered with the metadata of the one parameter of group 0. -/
theorem decimal_fields_wrap_at_two_pow :
    (process quietEnv measuredTaSensor ['0', 'D', '6', '5', '5', '3', '6', '!']).ctx.respBuf =
        ['0', '+', '0', '\r', '\n'] ∧
      (process quietEnv measuredTaSensor ['0', 'D', '2', '5', '5', '!']).ctx.respBuf = ['0', '\r', '\n'] ∧
      (process quietEnv measuredTaSensor "0IM_4294967297!".toList).ctx.respBuf =
        ['0', ',', 'T', 'A', ',', 'C', ';', '\r', '\n'] := by
  obtain ⟨page, -⟩ := decimal_fields_wrap quietEnv measuredTaSensor (N := ['6', '5', '5', '3', '6']) (by decide)
  obtain ⟨-, param⟩ := decimal_fields_wrap quietEnv measuredTaSensor
    (N := ['4', '2', '9', '4', '9', '6', '7', '2', '9', '7']) (by decide)
  refine ⟨?_, by decide, ?_⟩
  · rw [show ['0', 'D', '6', '5', '5', '3', '6', '!'] =
      measuredTaSensor.address :: 'D' :: ['6', '5', '5', '3', '6'] ++ ['!'] by decide, page (by decide)]
    decide
  · rw [show "0IM_4294967297!".toList = measuredTaSensor.address :: 'I' ::
      ((MetaKind.measure false).letters ++ digitText none ++
        '_' :: ['4', '2', '9', '4', '9', '6', '7', '2', '9', '7']) ++ ['!'] by decide, param]
    decide

end Sdi12.Sensor
