import Sdi12.Sensor.Response

namespace Sdi12.Sensor

/-! # The command grammar (section 4.C of the specification)

The commands addressed to one sensor, as an inductive type whose constructors carry the
parameters of their production, and their spelling.  `Command.handle` is what the grammar
asks of each production: the handler of the production, given the production's parameters.
For the metadata requests `aI…!`, whose handler reads the raw text, `answerMetadata` is that
handler as a function of the request's kind, group and `_nnn`.

`sdi12_sensor_process` hands every spelling, with or without its `!`, to the handler of its
production, with the parameters `Command.recognized` reads from it (`process_command`).
These are the written ones except on three families of metadata requests: with a `_nnn`, the
kind letter of `aIC…` is taken for the CRC infix; `aIRC…` reads its group from the `C`; and
`aIV…`, `aIHA…` and `aIHB…` ignore their group digit.
-/

/-- The `C` infix that asks for a CRC. -/
def crcInfix (crc : Bool) : List Char := if crc then ['C'] else []

/-- An optional decimal digit. -/
def digitText : Option (Fin 10) → List Char
  | none => []
  | some d => [Nat.digitChar d]

/-- The group an optional digit names, 0 when it is absent. -/
def groupOf : Option (Fin 10) → Nat
  | none => 0
  | some d => d

/-- The `_nnn` of a parameter-metadata request: three digits. -/
def paramText : Option (Fin 10 × Fin 10 × Fin 10) → List Char
  | none => []
  | some (h, t, u) => ['_', Nat.digitChar h, Nat.digitChar t, Nat.digitChar u]

/-- The parameter number `nnn` names. -/
def paramValue (digits : Fin 10 × Fin 10 × Fin 10) : Nat :=
  100 * digits.1 + 10 * digits.2.1 + digits.2.2

/-- The measurement an `aI…!` request asks about, spelled after the `I` as `M`, `MC`, `C`,
`CC`, `V`, `HA`, `HB`, `R` or `RC`. -/
inductive MetaKind where
  | measure (crc : Bool)
  | concurrent (crc : Bool)
  | verification
  | highVolAscii
  | highVolBinary
  | continuous (crc : Bool)
deriving DecidableEq, Repr

def MetaKind.letters : MetaKind → List Char
  | .measure crc => 'M' :: crcInfix crc
  | .concurrent crc => 'C' :: crcInfix crc
  | .verification => ['V']
  | .highVolAscii => ['H', 'A']
  | .highVolBinary => ['H', 'B']
  | .continuous crc => 'R' :: crcInfix crc

/-- Whether the request carries the CRC infix. -/
def MetaKind.crc : MetaKind → Bool
  | .measure crc | .concurrent crc | .continuous crc => crc
  | _ => false

/-- The count field of the header the measurement command of this kind answers with, for a
group of `n` parameters. -/
def MetaKind.countField (kind : MetaKind) (n : Nat) : List Char :=
  match kind with
  | .measure _ | .verification => formatUnsigned 1 (min n 9)
  | .concurrent _ | .continuous _ => formatUnsigned 2 (min n 99)
  | .highVolAscii | .highVolBinary => formatUnsigned 3 n

/-- The productions of the grammar addressed to one sensor, with their parameters. -/
inductive Command where
  | acknowledge
  | identify
  | measure (crc : Bool) (group : Option (Fin 10))
  | concurrent (crc : Bool) (group : Option (Fin 10))
  | verify
  | highVolume (binary crc : Bool)
  | highVolumeStub
  | sendData (page : Fin 10)
  | sendBinary (page : Fin 1000)
  | continuous (crc : Bool) (index : Fin 10)
  | changeAddress (newAddr : {c : Char // validAddress c = true})
  | identifyMeasurement (kind : MetaKind) (group : Option (Fin 10)) (param : Option (Fin 10 × Fin 10 × Fin 10))
deriving DecidableEq, Repr

/-- The spelling of a command to the sensor at `address`, without its `!`. -/
def Command.text (address : Char) : Command → List Char
  | .acknowledge => [address]
  | .identify => [address, 'I']
  | .measure crc group => address :: 'M' :: crcInfix crc ++ digitText group
  | .concurrent crc group => address :: 'C' :: crcInfix crc ++ digitText group
  | .verify => [address, 'V']
  | .highVolume binary crc => address :: 'H' :: (if binary then 'B' else 'A') :: crcInfix crc
  | .highVolumeStub => [address, 'H']
  | .sendData page => [address, 'D', Nat.digitChar page]
  | .sendBinary page => address :: 'D' :: 'B' :: Nat.toDigits 10 page
  | .continuous crc index => address :: 'R' :: crcInfix crc ++ [Nat.digitChar index]
  | .changeAddress newAddr => [address, 'A', newAddr.1]
  | .identifyMeasurement kind group param =>
    address :: 'I' :: kind.letters ++ digitText group ++ paramText param

/-- The trailing `!`, when the command is sent with it. -/
def bangText (bang : Bool) : List Char := if bang then ['!'] else []

/-- The metadata answer of section 4.D to a request of the given kind, group and `_nnn`:
without `_nnn` the header of the measurement command, with `ttt` 000 and the group's
parameter count; with it, the `nnn`-th parameter of the group as `a,SHEF,units;`, or the
address alone when there is none, each with the CRC when the request carries the infix. -/
def answerMetadata (ctx : Ctx) (kind : MetaKind) (group : Nat) : Option Nat → Outcome
  | none => reply ctx (ctx.address :: ['0', '0', '0'] ++ kind.countField (countGroup ctx group) ++ crlf)
  | some n =>
    let indices := collectGroupIndices ctx.params group maxParams
    if 1 ≤ n ∧ n ≤ indices.length then
      let param := ctx.params.getD (indices.getD (n - 1) 0) default
      let text := snprintf maxResponseLen
        (ctx.address :: ',' :: param.shef ++ ',' :: param.units ++ [';'])
      let ctx := { ctx with
        crcRequested := kind.crc
        respBuf := if kind.crc then (crcAppend text maxResponseLen).2 else cString text ++ crlf }
      ⟨.ok, ctx, sendResponse ctx⟩
    else
      let ctx := { ctx with respBuf := addressOnlyBuffer ctx.address kind.crc }
      ⟨.ok, ctx, sendResponse ctx⟩

/-- What the grammar asks of each production: its handler, given its parameters. -/
def Command.handle (env : Env) (ctx : Ctx) : Command → Outcome
  | .acknowledge => handleAcknowledge ctx
  | .identify => handleIdentify ctx
  | .measure crc group => handleMeasurement env ctx (groupOf group) crc .standard
  | .concurrent crc group => handleMeasurement env ctx (groupOf group) crc .concurrent
  | .verify => handleMeasurement env ctx 0 false .verification
  | .highVolume binary crc =>
    handleMeasurement env ctx 0 crc (if binary then .highVolBinary else .highVolAscii)
  | .highVolumeStub => handleHighvolStub ctx
  | .sendData page => handleSendData env ctx page
  | .sendBinary page => handleSendBinaryData env ctx page
  | .continuous crc index => handleContinuous env ctx index crc
  | .changeAddress newAddr => handleChangeAddress ctx newAddr.1
  | .identifyMeasurement kind group param =>
    answerMetadata ctx kind (groupOf group) (param.map paramValue)

/-- The kind `handle_identify_measurement` reads from a request's spelling: with a `_nnn`,
its `memchr` for the CRC infix also finds the kind letter `C`. -/
def MetaKind.read : MetaKind → Option (Fin 10 × Fin 10 × Fin 10) → MetaKind
  | .concurrent _, some _ => .concurrent true
  | kind, _ => kind

/-- The group `handle_identify_measurement` reads from a request's spelling: the digit after
`M`, `MC`, `C`, `CC` or `R`; none after `RC`, where it reads the `C` in the digit's place;
none for `V`, `HA` and `HB`. -/
def MetaKind.readGroup : MetaKind → Option (Fin 10) → Option (Fin 10)
  | .measure _, group | .concurrent _, group | .continuous false, group => group
  | _, _ => none

/-- The production and parameters `sdi12_sensor_process` reads from a command's spelling. -/
def Command.recognized : Command → Command
  | .identifyMeasurement kind group param =>
    .identifyMeasurement (kind.read param) (kind.readGroup group) param
  | cmd => cmd

/-! ## Reading the spelling -/

/-- The bytes a decimal digit is not. -/
theorem digitChar_ne (d : Fin 10) :
    '!' ≠ Nat.digitChar d ∧ '_' ≠ Nat.digitChar d ∧ 'C' ≠ Nat.digitChar d ∧ 'B' ≠ Nat.digitChar d := by
  revert d
  decide

/-- Where a decimal digit lies among the bytes the group tests compare it with. -/
theorem digitChar_range (d : Fin 10) :
    ('1' ≤ Nat.digitChar d ↔ 1 ≤ (d : Nat)) ∧ Nat.digitChar d ≤ '9' := by
  revert d
  decide

/-- Reading group 0 for the digit `0` is reading the digit. -/
theorem ite_one_le (n : Nat) : (if 1 ≤ n then n else 0) = n := by
  split <;> omega

theorem isDigit_eq_false {c : Char} (other : c = '_' ∨ c = 'C' ∨ c = '!') : isDigit c = false := by
  rcases other with rfl | rfl | rfl <;> rfl

theorem commandLength_of_not_mem {t : List Char} (noBang : '!' ∉ t) : commandLength t = t.length := by
  unfold commandLength
  rw [if_neg]
  intro last
  cases t with
  | nil => exact absurd last (by decide)
  | cons c rest =>
    apply noBang
    rw [← last, List.getD_eq_getElem?_getD, List.getElem?_eq_getElem (by simp)]
    exact List.getElem_mem _

theorem commandLength_bangText {t : List Char} (noBang : '!' ∉ t) (bang : Bool) :
    commandLength (t ++ bangText bang) = t.length := by
  cases bang
  · simpa [bangText] using commandLength_of_not_mem noBang
  · exact commandLength_append_bang t

theorem bang_not_mem_text {address : Char} (valid : validAddress address = true) (cmd : Command) :
    '!' ∉ cmd.text address := by
  have notAddress : address ≠ '!' := by rintro rfl; exact absurd valid (by decide)
  have notDigits (n : Nat) : '!' ∉ Nat.toDigits 10 n := fun member =>
    absurd (isDigit_of_mem_toDigits member) (by decide)
  have notNew (newAddr : {c : Char // validAddress c = true}) : '!' ≠ newAddr.1 := by
    intro same
    exact absurd (same ▸ newAddr.2) (by decide)
  have notDigit (d : Fin 10) := (digitChar_ne d).1
  cases cmd with
  | identifyMeasurement kind group param =>
    cases kind <;> cases group <;> cases param <;>
      simp [Command.text, notAddress.symm, MetaKind.letters, crcInfix, digitText, paramText, notDigit]
  | measure crc group | concurrent crc group =>
    cases crc <;> cases group <;> simp [Command.text, notAddress.symm, crcInfix, digitText, notDigit]
  | highVolume binary crc =>
    cases binary <;> cases crc <;> simp [Command.text, notAddress.symm, crcInfix]
  | continuous crc index => cases crc <;> simp [Command.text, notAddress.symm, crcInfix, notDigit]
  | _ => simp [Command.text, notAddress.symm, notDigit, notNew, notDigits]

theorem parsePage_append {l : List Char} (digits : ∀ c ∈ l, isDigit c = true) (rest : List Char)
    (page : Nat) : parsePage (l ++ rest) page = parsePage rest (parsePage l page) := by
  induction l generalizing page with
  | nil => rfl
  | cons c l ih =>
    simp only [List.cons_append, parsePage, digits c (List.mem_cons_self _ _), if_true]
    exact ih (fun c member => digits c (List.mem_cons_of_mem _ member)) _

/-- The page loop reads back the decimal digits `%u` writes. -/
theorem parsePage_toDigits {n : Nat} (small : n < 65536) : parsePage (Nat.toDigits 10 n) 0 = n := by
  induction n using Nat.strong_induction_on with
  | _ n ih =>
    by_cases one : n < 10
    · rw [toDigits_of_lt one]
      simp only [parsePage, isDigit_digitChar one, digitValue_digitChar one, if_true]
      omega
    · have last := Nat.mod_lt n (show 10 > 0 by decide)
      rw [toDigits_of_le (by omega), parsePage_append (fun _ => isDigit_of_mem_toDigits),
        ih _ (by omega) (by omega)]
      simp only [parsePage, isDigit_digitChar last, digitValue_digitChar last, if_true]
      omega

/-! ## Metadata requests -/

theorem wrapInt32_of_lt {x : Int} (nonneg : 0 ≤ x) (small : x < 0x80000000) : wrapInt32 x = x := by
  unfold wrapInt32
  omega

/-- The loop after `_` reads the three digits of `nnn`, and stops at the end or at `!`. -/
theorem parseParamNum_paramText (digits : Fin 10 × Fin 10 × Fin 10) (bang : Bool) :
    parseParamNum (((paramText (some digits)).drop 1) ++ bangText bang) 0 = paramValue digits := by
  obtain ⟨h, t, u⟩ := digits
  have bounds : (h : Nat) < 10 ∧ (t : Nat) < 10 ∧ (u : Nat) < 10 := ⟨h.isLt, t.isLt, u.isLt⟩
  have notDigit : isDigit '!' = false := rfl
  cases bang <;>
    simp only [paramText, bangText, List.drop_one, List.tail_cons, List.cons_append, List.nil_append,
      List.append_nil, parseParamNum, digitChar_fin, notDigit, if_true, Bool.false_eq_true, if_false,
      paramValue] <;>
    simp (disch := omega) only [wrapInt32_of_lt] <;>
    omega

/-- The group `handle_identify_measurement` reads before the `_` of a parameter request. -/
theorem metadataGroup_text (address : Char) (kind : MetaKind) (group : Option (Fin 10))
    (rest : List Char) :
    metadataGroup (address :: 'I' :: (kind.letters ++ (digitText group ++ '_' :: rest)))
        ((kind.letters ++ digitText group).length + 2) = groupOf (kind.readGroup group) := by
  cases kind <;> (try cases_type* Bool) <;> cases group <;>
    simp [metadataGroup, MetaKind.letters, MetaKind.readGroup, crcInfix, digitText, groupOf,
      fun d => (digitChar_ne d).2.2.1.symm, digitChar_range, digitChar_fin, isDigit_eq_false]
  all_goals omega

@[simp] theorem MetaKind.read_none (kind : MetaKind) : kind.read none = kind := by
  cases kind <;> rfl

/-- The header `handle_identify_measurement` answers a request without `_nnn` with. -/
theorem metadataSummary_text (ctx : Ctx) (address : Char) (kind : MetaKind) (group : Option (Fin 10))
    (rest : List Char) :
    metadataSummary ctx (address :: 'I' :: (kind.letters ++ (digitText group ++ rest)))
        ((kind.letters ++ digitText group).length + 2) =
      ctx.address :: ['0', '0', '0'] ++ kind.countField (countGroup ctx (groupOf (kind.readGroup group))) ++
        crlf := by
  cases kind <;> (try cases_type* Bool) <;> cases group <;>
    simp [metadataSummary, MetaKind.letters, MetaKind.readGroup, MetaKind.countField, crcInfix,
      digitText, groupOf, fun d => (digitChar_ne d).2.2.1.symm, digitChar_range, digitChar_fin,
      isDigit_eq_false, ite_one_le]

theorem underscore_not_mem (kind : MetaKind) (group : Option (Fin 10)) :
    '_' ∉ kind.letters ++ digitText group := by
  cases kind <;> (try cases_type* Bool) <;> cases group <;>
    simp [MetaKind.letters, crcInfix, digitText, fun d => (digitChar_ne d).2.1]

/-- The `memchr` for the CRC infix over the bytes before `_`. -/
theorem contains_C (kind : MetaKind) (group : Option (Fin 10)) (digits : Fin 10 × Fin 10 × Fin 10) :
    (kind.letters ++ digitText group).contains 'C' = (kind.read (some digits)).crc := by
  cases kind <;> (try cases_type* Bool) <;> cases group <;>
    simp [MetaKind.letters, MetaKind.read, MetaKind.crc, crcInfix, digitText,
      fun d => (digitChar_ne d).2.2.1]

/-- The `memchr` for `_` finds the one before `nnn`. -/
theorem findUnderscore_text (address : Char) (kind : MetaKind) (group : Option (Fin 10))
    (param : Option (Fin 10 × Fin 10 × Fin 10)) (bang : Bool) :
    let text := address :: 'I' :: (kind.letters ++ (digitText group ++ paramText param))
    findUnderscore (text ++ bangText bang) text.length =
      param.map fun _ => (kind.letters ++ digitText group).length + 2 := by
  intro text
  have before : List.findIdx? (· == '_') (kind.letters ++ digitText group) = none :=
    List.findIdx?_eq_none_iff.mpr fun c member => by
      simpa using ne_of_mem_of_not_mem member (underscore_not_mem kind group)
  rw [findUnderscore, List.take_left, show text.drop 2 = kind.letters ++ digitText group ++ paramText param
    by simp [text]]
  rw [List.indexOf?, List.findIdx?_append, before]
  cases param <;> simp [paramText]

/-- `handle_identify_measurement` answers a metadata request as `answerMetadata` answers the
request it reads. -/
theorem handleIdentifyMeasurement_text (ctx : Ctx) (address : Char) (kind : MetaKind)
    (group : Option (Fin 10)) (param : Option (Fin 10 × Fin 10 × Fin 10)) (bang : Bool) :
    let text := address :: 'I' :: (kind.letters ++ (digitText group ++ paramText param))
    handleIdentifyMeasurement ctx (text ++ bangText bang) text.length =
      answerMetadata ctx (kind.read param) (groupOf (kind.readGroup group)) (param.map paramValue) := by
  intro text
  have noUnderscore := underscore_not_mem kind group
  have long : ¬text.length < 3 := by cases kind <;> simp [text, MetaKind.letters]
  unfold handleIdentifyMeasurement
  rw [if_neg long, findUnderscore_text]
  cases param with
  | none =>
    have summary := metadataSummary_text ctx address kind group (bangText bang)
    simp only [paramText, List.append_nil] at summary
    simp only [Option.map_none', answerMetadata, MetaKind.read_none, text, paramText, List.append_nil,
      List.cons_append, List.append_assoc, List.length_cons, summary]
  | some digits =>
    set pre := kind.letters ++ digitText group
    set rest := (paramText (some digits)).drop 1 ++ bangText bang
    have shape : text ++ bangText bang = address :: 'I' :: (pre ++ '_' :: rest) := by
      obtain ⟨h, t, u⟩ := digits
      simp [text, pre, rest, paramText]
    have dropped : (address :: 'I' :: (pre ++ '_' :: rest)).drop (pre.length + 2 + 1) = rest := by
      show (pre ++ '_' :: rest).drop (pre.length + 1) = rest
      rw [List.drop_append]
      rfl
    have before : ((address :: 'I' :: (pre ++ '_' :: rest)).take (pre.length + 2)).drop 2 = pre := by
      show (pre ++ '_' :: rest).take pre.length = pre
      exact List.take_left _ _
    have read : metadataGroup (address :: 'I' :: (pre ++ '_' :: rest)) (pre.length + 2) =
        groupOf (kind.readGroup group) := by
      simpa [pre] using metadataGroup_text address kind group rest
    have value : parseParamNum rest 0 = paramValue digits := parseParamNum_paramText digits bang
    have inRange (count : Nat) : (1 ≤ (paramValue digits : Int) ∧ (paramValue digits : Int) ≤ count) ↔
        (1 ≤ paramValue digits ∧ paramValue digits ≤ count) := by omega
    simp only [Option.map_some', answerMetadata, shape, dropped, before, value, read,
      contains_C kind group digits, inRange, Int.toNat_ofNat]

theorem dispatch_text (env : Env) (ctx : Ctx) (address : Char) (cmd : Command)
    (notAck : cmd ≠ .acknowledge) (bang : Bool) :
    dispatch env ctx (cmd.text address ++ bangText bang) (cmd.text address).length =
      cmd.recognized.handle env ctx := by
  cases cmd with
  | acknowledge => exact absurd rfl notAck
  | identifyMeasurement kind group param =>
    have notTwo : (address :: 'I' :: (kind.letters ++ (digitText group ++ paramText param))).length ≠ 2 := by
      cases kind <;> simp [MetaKind.letters]
    simp only [dispatch, Command.text, List.cons_append, List.append_assoc, List.getD_cons_succ,
      List.getD_cons_zero, if_neg notTwo, Command.recognized, Command.handle]
    simpa only [List.cons_append, List.append_assoc] using
      handleIdentifyMeasurement_text ctx address kind group param bang
  | measure crc group | concurrent crc group =>
    generalize bangText bang = rest
    cases crc <;> cases group <;>
      simp [dispatch, Command.text, Command.recognized, Command.handle, crcInfix, digitText,
        measureArgs, groupOf, fun d => (digitChar_ne d).2.2.1.symm, digitChar_range, digitChar_fin,
        ite_one_le]
  | highVolume binary crc =>
    generalize bangText bang = rest
    cases binary <;> cases crc <;>
      simp [dispatch, Command.text, Command.recognized, Command.handle, crcInfix]
  | continuous crc index =>
    generalize bangText bang = rest
    cases crc <;>
      simp [dispatch, Command.text, Command.recognized, Command.handle, crcInfix,
        continuousArgs, fun d => (digitChar_ne d).2.2.1.symm, digitChar_fin]
  | sendData page =>
    have notB := (digitChar_ne page).2.2.2.symm
    generalize bangText bang = rest
    simp [dispatch, Command.text, Command.recognized, Command.handle,
      notB, parsePage, digitChar_fin, Nat.mod_eq_of_lt (show (page : Nat) < 65536 by omega),
      Nat.min_eq_left (show (page : Nat) ≤ 255 by omega)]
  | sendBinary page =>
    generalize bangText bang = rest
    simp [dispatch, Command.text, Command.recognized, Command.handle,
      parsePage_toDigits (show (page : Nat) < 65536 by omega)]
  | changeAddress newAddr =>
    generalize bangText bang = rest
    simp [dispatch, Command.text, Command.recognized, Command.handle,
      isPrint_of_validAddress newAddr.2]
  | _ => generalize bangText bang = rest; simp [dispatch, Command.text, Command.recognized, Command.handle]

theorem length_text (address : Char) {cmd : Command} (notAck : cmd ≠ .acknowledge) :
    2 ≤ (cmd.text address).length := by
  cases cmd <;> simp [Command.text] at notAck ⊢

/-- `sdi12_sensor_process` hands every command of the grammar addressed to the sensor, with or
without its `!`, to the handler of its production, with the parameters `Command.recognized`
reads from its spelling, after the abort of a concurrent measurement. -/
theorem process_command (env : Env) (ctx : Ctx) (valid : validAddress ctx.address = true)
    (cmd : Command) (bang : Bool) :
    process env ctx (cmd.text ctx.address ++ bangText bang) =
      cmd.recognized.handle env (abortConcurrent { ctx with respLen := 0 } true) := by
  have length := commandLength_bangText (bang_not_mem_text valid cmd) bang
  by_cases ack : cmd = .acknowledge
  · subst ack
    simp only [Command.text, List.singleton_append, List.length_singleton] at length
    simp [process, Command.text, length, isAddressed, Command.recognized, Command.handle]
  · have long := length_text ctx.address ack
    rw [process_addressed env ctx (by cases cmd <;> simp [Command.text]) (length ▸ long), length]
    exact dispatch_text env _ ctx.address cmd ack bang

/-- Sensor `0` with one active parameter, `TA` in `C`, in group 0. -/
def taSensor : Ctx := { sensorZero with params := [⟨['T', 'A'], ['C'], 0, 1, true⟩] }

/-- `0IC_001!` is answered with a CRC it did not ask for, and `0IRC3!` with the count of
group 0 where group 3 has none. -/
theorem process_command_at_ta_sensor :
    let asked := Command.identifyMeasurement (.concurrent false) none (some (0, 0, 1))
    let listed := Command.identifyMeasurement (.continuous true) (some 3) none
    let ctx := abortConcurrent { taSensor with respLen := 0 } true
    process quietEnv taSensor (asked.text '0' ++ bangText true) = asked.recognized.handle quietEnv ctx ∧
      (asked.recognized.handle quietEnv ctx).ctx.crcRequested = true ∧
      (asked.handle quietEnv ctx).ctx.crcRequested = false ∧
      process quietEnv taSensor (listed.text '0' ++ bangText true) =
        listed.recognized.handle quietEnv ctx ∧
      responses (listed.recognized.handle quietEnv ctx).calls = [['0', '0', '0', '0', '0', '1', '\r', '\n']] ∧
      responses (listed.handle quietEnv ctx).calls = [['0', '0', '0', '0', '0', '0', '\r', '\n']] :=
  ⟨process_command quietEnv taSensor (by decide) _ true, by decide, by decide,
    process_command quietEnv taSensor (by decide) _ true, by decide, by decide⟩

end Sdi12.Sensor
