import Sdi12.Link.Address
import Sdi12.Sensor.Decimal
import Sdi12.Sensor.Setup
import Sdi12.Session

namespace Sdi12

/-! # Metadata requests on the bus

`sdi12_master_identify_measurement` and `sdi12_master_identify_param` against
`handle_identify_measurement`.  The master reads back the count a sensor announces for any
request it can spell, and the SHEF code and units of any registered parameter whose strings
hold no separator of the line.
-/

open Sensor Master

/-! ## Decimal fields -/

theorem decimalValue_zeros (count : Nat) (ds : List Char) :
    decimalValue (List.replicate count '0' ++ ds) = decimalValue ds := by
  have zeros : (List.replicate count '0').foldl (fun value c => value * 10 + digitValue c) 0 = 0 := by
    induction count with
    | zero => rfl
    | succ count ih =>
      rw [List.replicate_succ, List.foldl_cons, show 0 * 10 + digitValue '0' = 0 from rfl]
      exact ih
  rw [decimalValue, List.foldl_append, zeros]
  rfl

/-- `%u` reads back as the number it prints. -/
theorem decimalValue_toDigits (n : Nat) : decimalValue (Nat.toDigits 10 n) = n := by
  induction n using Nat.strong_induction_on with
  | _ n ih =>
    by_cases small : n < 10
    · rw [toDigits_of_lt small, decimalValue, List.foldl_cons, List.foldl_nil, digitValue_digitChar small]
      omega
    · have upper := ih (n / 10) (by omega)
      rw [decimalValue] at upper
      rw [toDigits_of_le (by omega), decimalValue, List.foldl_append, upper, List.foldl_cons, List.foldl_nil,
        digitValue_digitChar (Nat.mod_lt _ (by decide))]
      omega

/-- `%0<width>u` prints digits that read back as the number, however many it takes. -/
theorem formatUnsigned_value (width n : Nat) :
    (∀ c ∈ formatUnsigned width n, isDigit c = true) ∧ decimalValue (formatUnsigned width n) = n := by
  refine ⟨fun c member => ?_, by rw [formatUnsigned, decimalValue_zeros, decimalValue_toDigits]⟩
  simp only [formatUnsigned, List.mem_append, List.mem_replicate] at member
  rcases member with ⟨-, rfl⟩ | member
  · rfl
  · exact isDigit_of_mem_toDigits member

theorem length_formatUnsigned (width n : Nat) :
    (formatUnsigned width n).length = max width (Nat.toDigits 10 n).length := by
  simp only [formatUnsigned, List.length_append, List.length_replicate]
  omega

/-- `parse_digits` over a run of digits as long as its field. -/
theorem parseDigits_digits {ds : List Char} (digits : ∀ c ∈ ds, isDigit c = true) (rest : List Char)
    (out : Nat) :
    parseDigits (ds ++ rest) ds.length out =
      (ds.length, ds.foldl (fun value c => value * 10 + digitValue c) out) := by
  induction ds generalizing out with
  | nil => cases rest <;> rfl
  | cons c ds ih =>
    have tail := ih (fun c member => digits c (List.mem_cons_of_mem _ member)) (out * 10 + digitValue c)
    rw [List.cons_append, List.length_cons, parseDigits, if_pos (digits c (List.mem_cons_self _ _)), tail,
      List.foldl_cons]

/-- `sdi12_master_parse_meas_response` on a header of three `ttt` digits and a count field of
the width it expects. -/
theorem parseMeasResponse_header (addr : Char) {ttt count : List Char} (type : MeasType)
    (tttLength : ttt.length = 3) (countLength : count.length = countWidth type)
    (digits : ∀ c ∈ ttt ++ count, isDigit c = true) :
    parseMeasResponse (addr :: ttt ++ count) (addr :: ttt ++ count).length type =
      (.ok, ⟨addr, decimalValue ttt % 65536, decimalValue count % 65536⟩) := by
  rw [List.forall_mem_append] at digits
  have wide : 1 ≤ countWidth type := by cases type <;> decide
  have long : ¬(addr :: (ttt ++ count)).length < 5 := by
    simp only [List.length_cons, List.length_append]
    omega
  have waited := parseDigits_digits digits.1 count 0
  have counted := parseDigits_digits digits.2 [] 0
  rw [tttLength] at waited
  rw [List.append_nil, countLength] at counted
  have afterTtt : (ttt ++ count).drop 3 = count := by rw [← tttLength, List.drop_left]
  simp only [parseMeasResponse, List.cons_append, long, if_false, List.getD_cons_zero, List.drop_succ_cons,
    List.drop_zero, waited, afterTtt, counted, ne_eq, not_true_eq_false, decimalValue]

/-! ## `aI…!` without `_nnn` -/

/-- The measurement type whose count field answers a metadata request of each kind. -/
def Sensor.MetaKind.measType : MetaKind → MeasType
  | .measure _ => .standard
  | .concurrent _ => .concurrent
  | .verification => .verification
  | .highVolAscii => .highVolAscii
  | .highVolBinary => .highVolBinary
  | .continuous _ => .continuous

/-- The count a header of each kind saturates at. -/
def Sensor.MetaKind.countLimit : MetaKind → Nat
  | .measure _ | .verification => 9
  | .concurrent _ | .continuous _ => 99
  | .highVolAscii | .highVolBinary => 999

/-- `%0<width>u` of a number its width holds: exactly `width` digits that read back as the
number. -/
theorem formatUnsigned_fits {width v : Nat} (bound : v < 10 ^ width) (pos : 0 < width) :
    (formatUnsigned width v).length = width ∧ (∀ c ∈ formatUnsigned width v, isDigit c = true) ∧
      decimalValue (formatUnsigned width v) = v :=
  have bounded : (Nat.toDigits 10 v).length ≤ width := Nat.toDigitsCore_length 10 (by decide) _ v width bound pos
  ⟨by rw [length_formatUnsigned, Nat.max_eq_left bounded], formatUnsigned_value width v⟩

theorem countField_digits (kind : MetaKind) {n : Nat} (small : n ≤ 999) :
    (kind.countField n).length = countWidth kind.measType ∧ (∀ c ∈ kind.countField n, isDigit c = true) ∧
      decimalValue (kind.countField n) = min n kind.countLimit := by
  cases kind with
  | measure | verification =>
    exact formatUnsigned_fits (lt_of_le_of_lt (Nat.min_le_right n 9) (by decide)) (by decide)
  | concurrent | continuous =>
    exact formatUnsigned_fits (lt_of_le_of_lt (Nat.min_le_right n 99) (by decide)) (by decide)
  | highVolAscii | highVolBinary =>
    simpa [MetaKind.countLimit, Nat.min_eq_left small] using
      formatUnsigned_fits (lt_of_le_of_lt small (by decide : 999 < 10 ^ 3)) (by decide)

theorem metaText_ne_nul (kind : MetaKind) (group : Option (Fin 10)) :
    ∀ c ∈ kind.letters ++ digitText group, c ≠ '\x00' := by
  have digit (d : Fin 10) : Nat.digitChar d ≠ '\x00' := ne_of_isDigit (digitChar_fin d).1 rfl
  cases kind <;> (try cases_type* Bool) <;> cases group <;>
    simp [MetaKind.letters, crcInfix, digitText, digit]

/-- `sdi12_sensor_process` answers a metadata request without `_nnn` as `answerMetadata` does,
after the abort of a concurrent measurement. -/
theorem process_metadataRequest (env : Env) (ctx : Ctx) (kind : MetaKind) (group : Option (Fin 10)) :
    process env ctx ((ctx.address :: 'I' :: (kind.letters ++ digitText group)) ++ ['!']) =
      answerMetadata (abortConcurrent { ctx with respLen := 0 } true) kind (groupOf (kind.readGroup group))
        none := by
  have notTwo : (ctx.address :: 'I' :: (kind.letters ++ digitText group)).length ≠ 2 := by
    cases kind <;> simp [MetaKind.letters]
  rw [process_addressed env ctx (by simp) (by rw [commandLength_append_bang]; simp),
    commandLength_append_bang]
  simp only [dispatch, List.cons_append, List.getD_cons_succ, List.getD_cons_zero, if_neg notTwo]
  simpa [paramText, bangText] using
    handleIdentifyMeasurement_text (abortConcurrent { ctx with respLen := 0 } true) ctx.address kind group
      none true

theorem metaBody_short (kind : MetaKind) (group : Option (Fin 10)) :
    kind.letters.length + (digitText group).length ≤ 3 := by
  cases kind <;> (try cases_type* Bool) <;> cases group <;> simp [MetaKind.letters, crcInfix, digitText]

/-- The header `a000` and a count field of at most three digits: no NUL and no line end,
seven characters at most. -/
theorem metaHeader_clean {address : Char} (valid : validAddress address = true) (kind : MetaKind) {n : Nat}
    (small : n ≤ 999) :
    (∀ c ∈ address :: ['0', '0', '0'] ++ kind.countField n, c ≠ '\x00' ∧ c ≠ '\r' ∧ c ≠ '\n') ∧
      (address :: ['0', '0', '0'] ++ kind.countField n).length ≤ 7 := by
  obtain ⟨width, digits, -⟩ := countField_digits kind small
  refine ⟨?_, ?_⟩
  · simp only [List.cons_append, List.nil_append, List.forall_mem_cons]
    exact ⟨validAddress_ne valid, by decide, by decide, by decide, fun c member =>
      ⟨ne_of_isDigit (digits c member) rfl, ne_of_isDigit (digits c member) rfl,
        ne_of_isDigit (digits c member) rfl⟩⟩
  · simp only [List.cons_append, List.length_cons, List.length_append, width, List.length_nil]
    cases kind <;> simp [MetaKind.measType, countWidth]

/-- The header line a reachable sensor answers a metadata request without `_nnn` with. -/
theorem answer_metadataRequest (env : Env) {ctx : Ctx} (reachable : Reachable ctx) (kind : MetaKind)
    (group : Option (Fin 10)) :
    answer env ctx ((ctx.address :: 'I' :: (kind.letters ++ digitText group)) ++ ['!']) =
      ctx.address :: ['0', '0', '0'] ++ kind.countField (countGroup ctx (groupOf (kind.readGroup group))) ++
        crlf := by
  have inv := reachable.invariant
  set n := countGroup ctx (groupOf (kind.readGroup group))
  have few : n ≤ 999 := (List.countP_le_length _).trans (inv.paramsBound.trans (by decide))
  obtain ⟨clean, short⟩ := metaHeader_clean inv.validAddress kind few
  have replied : process env ctx ((ctx.address :: 'I' :: (kind.letters ++ digitText group)) ++ ['!']) =
      reply (abortConcurrent { ctx with respLen := 0 } true) (ctx.address :: ['0', '0', '0'] ++ kind.countField n ++ crlf) := by
    rw [process_metadataRequest]
    simp only [answerMetadata, abortConcurrent_address, countGroup_abortConcurrent]
    rfl
  rw [answer_reply replied (by simp [inv.callbacksInstalled.1]) (by simp),
    snprintf_of_length_lt (by simp only [List.length_append, crlf, List.length_cons, List.length_nil,
      maxResponseLen] at short ⊢; omega), cString_of_forall_ne]
  intro c member
  rcases List.mem_append.mp member with inHeader | inCrlf
  · exact (clean c inHeader).1
  · simp only [crlf, List.mem_cons, List.mem_singleton, List.not_mem_nil, or_false] at inCrlf
    rcases inCrlf with rfl | rfl <;> decide

/-- `sdi12_master_transact` on a line that fits the receive buffer and is more than line ends:
the master receives the line whole. -/
theorem transact_line {bus : List Char → List Char} {cmd line : List Char}
    (short : (cString cmd).length ≤ maxCommandLen) (answered : bus cmd = line)
    (fits : line.length < respBufSize) (heard : trimCrlf line ≠ []) : transact bus cmd = .ok line := by
  have whole : line.take (respBufSize - 1) = line := List.take_of_length_le (by omega)
  rw [transact_answered short (by rw [answered, whole]; exact heard), answered, whole]

/-- `sdi12_master_identify_measurement` with the request a kind is spelled with and the
measurement type of that kind: the master reads back the header a reachable sensor answers,
`ttt` 000 and the count of the group the sensor reads from the request, saturated as the
header saturates it. -/
theorem identify_measurement_exchange (env : Env) {ctx : Ctx} (reachable : Reachable ctx)
    (kind : MetaKind) (group : Option (Fin 10)) (resp : MeasResponse) :
    identifyMeasurement (answer env ctx) ctx.address (kind.letters ++ digitText group) kind.measType resp =
      (.ok, ⟨ctx.address, 0, min (countGroup ctx (groupOf (kind.readGroup group))) kind.countLimit⟩) := by
  have inv := reachable.invariant
  set n := countGroup ctx (groupOf (kind.readGroup group))
  have few : n ≤ 999 := (List.countP_le_length _).trans (inv.paramsBound.trans (by decide))
  obtain ⟨width, digits, value⟩ := countField_digits kind few
  obtain ⟨clean, short⟩ := metaHeader_clean inv.validAddress kind few
  have command : snprintf longCommandSize (ctx.address :: 'I' :: cString (kind.letters ++ digitText group) ++ ['!']) =
      (ctx.address :: 'I' :: (kind.letters ++ digitText group)) ++ ['!'] := by
    rw [cString_of_forall_ne (metaText_ne_nul kind group),
      snprintf_of_length_lt (by have := metaBody_short kind group; simp; omega)]
  have trimmed : trimCrlf (ctx.address :: ['0', '0', '0'] ++ kind.countField n ++ crlf) =
      ctx.address :: ['0', '0', '0'] ++ kind.countField n :=
    trimCrlf_append_crlf_of_clean fun c member => (clean c member).2
  have sent : answer env ctx ((ctx.address :: 'I' :: (kind.letters ++ digitText group)) ++ ['!']) =
      ctx.address :: ['0', '0', '0'] ++ kind.countField n ++ crlf := answer_metadataRequest env reachable kind group
  have received := transact_line ((length_cString_le _).trans (by have := metaBody_short kind group; simp; omega))
    sent
    (by simp only [List.length_append, crlf, List.length_cons, List.length_nil, respBufSize, maxResponseLen] at short ⊢
        omega)
    (by rw [trimmed]; simp)
  simp only [identifyMeasurement, inv.validAddress, Bool.not_true, Bool.false_eq_true, if_false, command,
    received, trimmed]
  rw [@parseMeasResponse_header ctx.address ['0', '0', '0'] _ kind.measType rfl width
    (by rw [List.forall_mem_append]; exact ⟨by decide, digits⟩), value,
    Nat.mod_eq_of_lt (lt_of_le_of_lt (Nat.min_le_right _ _) (by cases kind <;> simp [MetaKind.countLimit]))]
  rfl

/-- `0IM!` to the sensor of one parameter in group 0 reads back a count of one. -/
theorem identify_measurement_exchange_at_measuring_sensor :
    identifyMeasurement (answer timedEnv measuringSensor) measuringSensor.address ['M'] .standard
      ⟨'0', 0, 0⟩ = (.ok, ⟨measuringSensor.address, 0, 1⟩) :=
  (identify_measurement_exchange timedEnv measuringSensor_reachable (.measure false) none _).trans rfl

/-! ## `aI…_nnn!` -/

/-- A line as the sensor sends it: the text, the encoded CRC of the text when the request
asked for one, CR LF. -/
def crcLine (crc : Bool) (text : List Char) : List Char :=
  text ++ (if crc then crcEncodeAscii (crc16 text) else []) ++ crlf

/-- The `"%c,%s,%s;"` text `handle_identify_measurement` answers a parameter with. -/
def paramMetaText (address : Char) (param : ParamReg) : List Char :=
  address :: ',' :: param.shef ++ ',' :: param.units ++ [';']

theorem endsWithCrlf_append_singleton (s : List Char) {c : Char} (notLf : c ≠ '\n') :
    endsWithCrlf (s ++ [c]) = false := by
  simp [endsWithCrlf, notLf]

/-- `sdi12_crc_append` on a text with no NUL and no trailing CR LF that leaves room for the CRC. -/
theorem crcAppend_of_open {text : List Char} (noNul : ∀ c ∈ text, c ≠ '\x00')
    (unterminated : endsWithCrlf text = false) {buflen : Nat} (room : text.length + 6 ≤ buflen) :
    crcAppend text buflen = (.ok, crcLine true text) := by
  simp only [crcAppend_eq, cString_of_forall_ne noNul, dropCrlf, unterminated, Bool.false_eq_true, if_false,
    if_neg (Nat.not_lt.mpr room)]
  rfl

theorem addressOnlyBuffer_eq {address : Char} (valid : validAddress address = true) (crc : Bool) :
    addressOnlyBuffer address crc = crcLine crc [address] := by
  have unterminated : endsWithCrlf [address] = false :=
    endsWithCrlf_append_singleton [] (validAddress_ne valid).2.2
  have short : snprintf maxResponseLen [address] = [address] := snprintf_of_length_lt (by simp)
  cases crc
  · exact snprintf_of_length_lt (by simp [crlf])
  · rw [addressOnlyBuffer, if_pos rfl, short,
      crcAppend_of_open (by simpa using (validAddress_ne valid).1) unterminated (by simp)]

theorem crcChar_ne {c : Char} (member : c ∈ crcEncodeAscii crc) {d : Char} (low : d.toNat < 0x40) : c ≠ d := by
  rintro rfl
  exact absurd (crcEncodeAscii_range crc c member).1 (by omega)

theorem trimCrlf_crcLine (crc : Bool) (body : List Char) {c : Char} (notCr : c ≠ '\r') (notLf : c ≠ '\n') :
    trimCrlf (crcLine crc (body ++ [c])) =
      body ++ [c] ++ (if crc then crcEncodeAscii (crc16 (body ++ [c])) else []) := by
  cases crc
  · simpa [crcLine] using trimCrlf_append_crlf body notCr notLf
  · obtain ⟨e₀, e₁, e₂, encoded⟩ : ∃ e₀ e₁ e₂, crcEncodeAscii (crc16 (body ++ [c])) = [e₀, e₁, e₂] :=
      ⟨_, _, _, rfl⟩
    have last : e₂ ∈ crcEncodeAscii (crc16 (body ++ [c])) := by simp [encoded]
    have split : body ++ [c] ++ [e₀, e₁, e₂] = (body ++ [c, e₀, e₁]) ++ [e₂] := by simp
    show trimCrlf (body ++ [c] ++ crcEncodeAscii (crc16 (body ++ [c])) ++ crlf) =
      body ++ [c] ++ crcEncodeAscii (crc16 (body ++ [c]))
    rw [encoded, split, trimCrlf_append_crlf _ (crcChar_ne last (by decide)) (crcChar_ne last (by decide))]

/-- `sdi12_master_identify_param`'s parse of an address answered alone: too short without a
CRC, and without the comma after the address with one. -/
theorem parseParamMeta_addressOnly (addr : Char) (crc : Bool) :
    parseParamMeta ([addr] ++ if crc then crcEncodeAscii (crc16 [addr]) else []) addr =
      (.parseFailed, ⟨if crc then addr else '\x00', [], []⟩) := by
  cases crc
  · rfl
  · obtain ⟨e₀, e₁, e₂, encoded⟩ : ∃ e₀ e₁ e₂, crcEncodeAscii (crc16 [addr]) = [e₀, e₁, e₂] := ⟨_, _, _, rfl⟩
    have first : e₀ ∈ crcEncodeAscii (crc16 [addr]) := by simp [encoded]
    have noComma : e₀ ≠ ',' := crcChar_ne first (by decide)
    simp [parseParamMeta, encoded, noComma]

/-- The CRC-or-CR-LF ending of `handle_identify_measurement`, on a text with no NUL and no
trailing CR LF that leaves room for the CRC. -/
theorem crcReply_eq (crc : Bool) {text : List Char} (noNul : ∀ c ∈ text, c ≠ '\x00')
    (unterminated : endsWithCrlf text = false) (room : text.length + 6 ≤ maxResponseLen) :
    (if crc then (crcAppend text maxResponseLen).2 else cString text ++ crlf) = crcLine crc text := by
  cases crc
  · simp [crcLine, cString_of_forall_ne noNul]
  · rw [if_pos rfl, crcAppend_of_open noNul unterminated room]

theorem cString_crcLine (crc : Bool) {text : List Char} (noNul : ∀ c ∈ text, c ≠ '\x00') :
    cString (crcLine crc text) = crcLine crc text := by
  refine cString_of_forall_ne fun c member => ?_
  simp only [crcLine, List.mem_append] at member
  rcases member with (member | member) | member
  · exact noNul c member
  · split at member
    · exact crcChar_ne member (by decide)
    · contradiction
  · simp only [crlf, List.mem_cons, List.mem_singleton, List.not_mem_nil, or_false] at member
    rcases member with rfl | rfl <;> decide

theorem lt_of_mem_collectGroupIndices {params : List ParamReg} {group max i : Nat}
    (member : i ∈ collectGroupIndices params group max) : i < params.length := by
  obtain ⟨slot, kept, rfl⟩ := List.mem_map.mp (List.mem_of_mem_take member)
  exact List.fst_lt_of_mem_enum (List.mem_of_mem_filter kept)

/-- The parameter a group's `n`-th position names is a registered one. -/
theorem groupParam_mem (params : List ParamReg) {group n : Nat}
    (inRange : 1 ≤ n ∧ n ≤ (collectGroupIndices params group maxParams).length) :
    params.getD ((collectGroupIndices params group maxParams).getD (n - 1) 0) default ∈ params := by
  have position : n - 1 < (collectGroupIndices params group maxParams).length := by omega
  have index := lt_of_mem_collectGroupIndices (List.getElem_mem position)
  simp only [List.getD_eq_getElem?_getD, List.getElem?_eq_getElem position, Option.getD_some,
    List.getElem?_eq_getElem index]
  exact List.getElem_mem index

theorem paramMetaText_clean {address : Char} (valid : validAddress address = true) {param : ParamReg}
    (fits : param.Fits) (noNul : '\x00' ∉ param.shef ++ param.units) :
    (∀ c ∈ paramMetaText address param, c ≠ '\x00') ∧ endsWithCrlf (paramMetaText address param) = false ∧
      (paramMetaText address param).length + 6 ≤ maxResponseLen := by
  refine ⟨fun c member nul => ?_, endsWithCrlf_append_singleton _ (by decide), ?_⟩
  · subst nul
    simp only [paramMetaText, List.cons_append, List.mem_cons, List.mem_append, List.mem_singleton] at member
    rcases member with nul | nul | (nul | nul | nul) | nul
    · exact (validAddress_ne valid).1 nul.symm
    · exact absurd nul (by decide)
    · exact noNul (List.mem_append_left _ nul)
    · exact absurd nul (by decide)
    · exact noNul (List.mem_append_right _ nul)
    · exact absurd nul (by decide)
  · simp only [paramMetaText, List.cons_append, List.length_cons, List.length_append, List.length_singleton,
      List.length_nil, maxResponseLen]
    have := fits.1
    have := fits.2
    omega

/-- What a reachable sensor answers `aI…_N!` with, for a string `N` of digits whose value
fits an `int`: the metadata text of the parameter at position `N` of the group, or the
address alone when the group has no such position, each with the CRC of the request's
kind. -/
theorem answer_paramRequest (env : Env) {ctx : Ctx} (reachable : Reachable ctx) (kind : MetaKind)
    (group : Option (Fin 10)) {N : List Char} (digits : ∀ c ∈ N, isDigit c = true)
    (small : decimalValue N < 0x80000000) (noNul : ∀ p ∈ ctx.params, '\x00' ∉ p.shef ++ p.units) :
    let indices := collectGroupIndices ctx.params (groupOf (kind.readGroup group)) maxParams
    answer env ctx (ctx.address :: 'I' :: (kind.letters ++ digitText group ++ '_' :: N) ++ ['!']) =
      crcLine (kind.read (some (0, 0, 0))).crc
        (if 1 ≤ decimalValue N ∧ decimalValue N ≤ indices.length then
          paramMetaText ctx.address (ctx.params.getD (indices.getD (decimalValue N - 1) 0) default)
        else [ctx.address]) := by
  intro indices
  have inv := reachable.invariant
  have kept := abortConcurrent_setup { ctx with respLen := 0 } true
  have params₀ := congrArg Setup.params kept
  have address₀ := congrArg Setup.address kept
  have cb₀ := congrArg Setup.cb kept
  simp only [Ctx.setup] at params₀ address₀ cb₀
  have scratch : (abortConcurrent { ctx with respLen := 0 } true).respLen = 0 := by
    unfold abortConcurrent
    split <;> rfl
  have heard (c : Ctx) (same : c.cb = ctx.cb) (cleared : c.respLen = 0) :
      ((sendResponse c).filterMap Call.sent).getLastD [] = cString c.respBuf := by
    simp [sendResponse, same, inv.callbacksInstalled.1, Call.sent, responseBytes, cleared]
  rw [answer, process_paramRequest_digits env ctx kind group digits,
    wrapInt32_of_lt (by omega) (by exact_mod_cast small), Int.toNat_ofNat]
  simp only [answerMetadata, params₀, address₀]
  split
  · rename_i inRange
    have member := groupParam_mem ctx.params inRange
    obtain ⟨clean, unterminated, room⟩ :=
      paramMetaText_clean inv.validAddress (reachable.paramsFit _ member) (noNul _ member)
    unfold paramMetaText at clean unterminated room
    dsimp only
    rw [heard, snprintf_of_length_lt (by simp only [maxResponseLen] at room ⊢; omega),
      crcReply_eq _ clean unterminated room, cString_crcLine _ clean]
    · rfl
    · exact cb₀
    · exact scratch
  · dsimp only
    rw [heard, addressOnlyBuffer_eq inv.validAddress,
      cString_crcLine _ (by simpa using (validAddress_ne inv.validAddress).1)]
    · exact cb₀
    · exact scratch

theorem length_crcLine_le (crc : Bool) (text : List Char) : (crcLine crc text).length ≤ text.length + 5 := by
  cases crc <;> simp [crcLine, crcEncodeAscii, crlf]

/-- `sdi12_master_identify_param` once the bus answers its command with a line as the sensor
sends one, on a text that ends in neither CR nor LF: the parse of the text and its CRC. -/
theorem identifyParam_crcLine {bus : List Char → List Char} {addr : Char} (valid : validAddress addr = true)
    {cmdBody : List Char} {paramNum : UInt16} (resp : ParamMetaResponse)
    (short : (cString (snprintf longCommandSize
      (addr :: 'I' :: cString cmdBody ++ '_' :: formatUnsigned 3 paramNum.toNat ++ ['!']))).length ≤
        maxCommandLen)
    {crc : Bool} (body : List Char) (c : Char) (notCr : c ≠ '\r') (notLf : c ≠ '\n')
    (fits : (body ++ [c]).length + 5 ≤ respBufSize - 1)
    (answered : bus (snprintf longCommandSize
      (addr :: 'I' :: cString cmdBody ++ '_' :: formatUnsigned 3 paramNum.toNat ++ ['!'])) =
        crcLine crc (body ++ [c])) :
    identifyParam bus addr cmdBody paramNum resp =
      parseParamMeta (body ++ [c] ++ if crc then crcEncodeAscii (crc16 (body ++ [c])) else []) addr := by
  have trimmed := trimCrlf_crcLine crc body notCr notLf
  have received := transact_line short answered
    (by have := length_crcLine_le crc (body ++ [c]); omega) (by rw [trimmed]; simp)
  simp only [identifyParam, valid, Bool.not_true, Bool.false_eq_true, if_false, received, trimmed]

/-- The master's `"%cI%s_%03u!"` for a body a kind is spelled with: the request the sensor
reads, with `nnn` the digits of the parameter number, and short enough to send. -/
theorem paramCommand_eq (addr : Char) (kind : MetaKind) (group : Option (Fin 10)) (paramNum : UInt16) :
    snprintf longCommandSize
        (addr :: 'I' :: cString (kind.letters ++ digitText group) ++ '_' :: formatUnsigned 3 paramNum.toNat ++
          ['!']) =
      addr :: 'I' :: (kind.letters ++ digitText group ++ '_' :: formatUnsigned 3 paramNum.toNat) ++ ['!'] ∧
    (addr :: 'I' :: (kind.letters ++ digitText group ++ '_' :: formatUnsigned 3 paramNum.toNat) ++
      ['!']).length ≤ maxCommandLen := by
  have small := paramNum.toNat_lt_size
  simp only [UInt16.size] at small
  have shortN : (formatUnsigned 3 paramNum.toNat).length ≤ 5 := by
    rw [length_formatUnsigned]
    exact max_le (by decide) (Nat.toDigitsCore_length 10 (by decide) _ _ 5 (by omega) (by decide))
  have shortBody := metaBody_short kind group
  rw [cString_of_forall_ne (metaText_ne_nul kind group), snprintf_of_length_lt (by simp; omega)]
  exact ⟨by simp, by simp; omega⟩

/-- `sdi12_master_identify_param` with the request a kind is spelled with: the master reads
back the SHEF code and units of the parameter a reachable sensor holds at the requested
position of the group it reads from the request, when neither string holds the separator
that ends it on the line nor a NUL.  A position the group does not have is a parse failure,
with the address recorded when the sensor's answer carries a CRC. -/
theorem identify_param_exchange (env : Env) {ctx : Ctx} (reachable : Reachable ctx) (kind : MetaKind)
    (group : Option (Fin 10)) (paramNum : UInt16) (resp : ParamMetaResponse)
    (plain : ∀ p ∈ ctx.params, ',' ∉ p.shef ∧ ';' ∉ p.units ∧ '\x00' ∉ p.shef ++ p.units) :
    let indices := collectGroupIndices ctx.params (groupOf (kind.readGroup group)) maxParams
    let param := ctx.params.getD (indices.getD (paramNum.toNat - 1) 0) default
    identifyParam (answer env ctx) ctx.address (kind.letters ++ digitText group) paramNum resp =
      if 1 ≤ paramNum.toNat ∧ paramNum.toNat ≤ indices.length then
        (.ok, ⟨ctx.address, param.shef, param.units⟩)
      else (.parseFailed, ⟨if (kind.read (some (0, 0, 0))).crc then ctx.address else '\x00', [], []⟩) := by
  intro indices param
  have inv := reachable.invariant
  have small := paramNum.toNat_lt_size
  simp only [UInt16.size] at small
  obtain ⟨digits, value⟩ := formatUnsigned_value 3 paramNum.toNat
  obtain ⟨command, shortCommand⟩ := paramCommand_eq ctx.address kind group paramNum
  have short : (cString (snprintf longCommandSize (ctx.address :: 'I' :: cString (kind.letters ++ digitText group) ++
      '_' :: formatUnsigned 3 paramNum.toNat ++ ['!']))).length ≤ maxCommandLen := by
    rw [command]
    exact (length_cString_le _).trans shortCommand
  have sent := answer_paramRequest env reachable kind group digits (by rw [value]; omega)
    fun p member => (plain p member).2.2
  rw [value, ← command] at sent
  split
  · rename_i inRange
    simp only [if_pos inRange] at sent
    have member : param ∈ ctx.params := groupParam_mem ctx.params inRange
    obtain ⟨noComma, noSemicolon, noNul⟩ := plain _ member
    obtain ⟨shefFits, unitsFits⟩ := reachable.paramsFit _ member
    rw [identifyParam_crcLine inv.validAddress resp short (ctx.address :: ',' :: param.shef ++ ',' :: param.units)
      ';' (by decide) (by decide) (by simp; omega) sent]
    simpa only [List.cons_append, List.append_assoc, List.singleton_append] using
      parseParamMeta_line ctx.address _ noComma noSemicolon noNul (by omega) (by omega)
  · rename_i outside
    simp only [if_neg outside] at sent
    rw [identifyParam_crcLine inv.validAddress resp short [] ctx.address (validAddress_ne inv.validAddress).2.1
      (validAddress_ne inv.validAddress).2.2 (by simp) sent]
    exact parseParamMeta_addressOnly ctx.address _

/-- `0IM_001!` to the sensor of one parameter, `TA` in `C`, reads back its strings; `0IC_002!`
gets the address with the CRC every `aIC…_nnn!` answer carries, and the master keeps the
address of a line it cannot parse. -/
theorem identify_param_exchange_at_measuring_sensor :
    identifyParam (answer timedEnv measuringSensor) measuringSensor.address ['M'] 1 ⟨'0', [], []⟩ =
        (.ok, ⟨measuringSensor.address, ['T', 'A'], ['C']⟩) ∧
      identifyParam (answer timedEnv measuringSensor) measuringSensor.address ['C'] 2 ⟨'0', [], []⟩ =
        (.parseFailed, ⟨measuringSensor.address, [], []⟩) :=
  ⟨(identify_param_exchange timedEnv measuringSensor_reachable (.measure false) none 1 _ (by decide)).trans rfl,
    (identify_param_exchange timedEnv measuringSensor_reachable (.concurrent false) none 2 _ (by decide)).trans rfl⟩

end Sdi12
