import Sdi12.Master

namespace Sdi12.Master

/-! # The master's other commands (`sdi12_master.c`)

The address commands, the wait for a service request, verification, the metadata requests,
the extended commands (one line and several) and the high-volume ASCII read.  Each is a
function of the bus, as `sdi12_master_transact` is.  A string argument is the C string it
points to, and an output the caller passes comes back unchanged when the function returns
before writing it (`none` where the output is a buffer).
-/

/-- `recv_response`: the line the recv hook hands back, cut to `sizeof resp_buf - 1`; an
empty one is `SDI12_ERR_TIMEOUT`. -/
def recvResponse (incoming : List Char) : Except Err (List Char) :=
  let line := incoming.take (respBufSize - 1)
  if line = [] then .error .timeout else .ok line

/-- `sdi12_master_query_address`, given the caller's `*addr`: `?!`, and the address the
answer starts with. -/
def queryAddress (bus : List Char → List Char) (addr : Char) : Err × Char :=
  match transact bus ['?', '!'] with
  | .error err => (err, addr)
  | .ok line =>
    match trimCrlf line with
    | first :: _ => if validAddress first then (.ok, first) else (.invalidAddress, addr)
    | [] => (.invalidAddress, addr)

/-- `sdi12_master_acknowledge`, given the caller's `*present`: a timeout is a sensor that is
not there. -/
def acknowledge (bus : List Char → List Char) (addr : Char) (present : Bool) : Err × Bool :=
  if !validAddress addr then (.invalidAddress, present)
  else match transact bus (snprintf 4 [addr, '!']) with
  | .error .timeout => (.ok, false)
  | .error err => (err, present)
  | .ok line => (.ok, decide ((trimCrlf line).head? = some addr))

/-- `sdi12_master_change_address`: `"%cA%c!"`, answered with the new address. -/
def changeAddress (bus : List Char → List Char) (oldAddr newAddr : Char) : Err :=
  if !validAddress oldAddr || !validAddress newAddr then .invalidAddress
  else match transact bus (snprintf 8 [oldAddr, 'A', newAddr, '!']) with
  | .error err => err
  | .ok line => if (trimCrlf line).head? = some newAddr then .ok else .invalidAddress

/-- `sdi12_master_wait_service_request`: one `recv_response`, with no command sent, and any
line that does not start with the address is a timeout. -/
def waitServiceRequest (incoming : List Char) (addr : Char) : Err :=
  match recvResponse incoming with
  | .error err => err
  | .ok line => if (trimCrlf line).head? = some addr then .ok else .timeout

/-- `sdi12_master_verify`: `aV!` as `sdi12_master_start_measurement` sends it. -/
def verify (bus : List Char → List Char) (addr : Char) (resp : MeasResponse) : Err × MeasResponse :=
  startMeasurement bus addr .verification 0 false resp

/-- The buffer `sdi12_master_identify_measurement`, `_identify_param` and the extended
commands format into: `SDI12_CMD_MAX_CHARS + 4` bytes. -/
@[simp] def longCommandSize : Nat := maxCommandLen + 4

/-- `sdi12_master_identify_measurement`: `"%cI%s!"`, answered with a measurement header. -/
def identifyMeasurement (bus : List Char → List Char) (addr : Char) (cmdBody : List Char)
    (type : MeasType) (resp : MeasResponse) : Err × MeasResponse :=
  if !validAddress addr then (.invalidAddress, resp)
  else match transact bus (snprintf longCommandSize (addr :: 'I' :: cString cmdBody ++ ['!'])) with
  | .error err => (err, resp)
  | .ok line => parseMeasResponse (trimCrlf line) (trimCrlf line).length type

/-- `sdi12_param_meta_response_t`, each string the C string its array holds. -/
structure ParamMetaResponse where
  address : Char
  shef : List Char
  units : List Char
deriving DecidableEq, Repr

/-- The parse of `"a,SHEF,units;"` in `sdi12_master_identify_param`, on the trimmed line:
the address, then the SHEF code up to the next comma (which must come), cut to
`sizeof shef - 1`, then the units up to `;` or the end, cut to `sizeof units - 1`. -/
def parseParamMeta (resp : List Char) (addr : Char) : Err × ParamMetaResponse :=
  let cleared : ParamMetaResponse := ⟨'\x00', [], []⟩
  if resp.length < 4 then (.parseFailed, cleared)
  else if resp.getD 0 '\x00' ≠ addr then (.invalidAddress, cleared)
  else
    let found := { cleared with address := resp.getD 0 '\x00' }
    if resp.getD 1 '\x00' ≠ ',' then (.parseFailed, found)
    else
      let fields := resp.drop 2
      match fields.dropWhile (· ≠ ',') with
      | [] => (.parseFailed, found)
      | _ :: rest =>
        (.ok, { found with shef := cString ((fields.takeWhile (· ≠ ',')).take 7),
                           units := cString ((rest.takeWhile (· ≠ ';')).take 23) })

/-- `sdi12_master_identify_param`, given the caller's `*resp`, which it clears once the
address is valid: `"%cI%s_%03u!"` for the `uint16_t` parameter number. -/
def identifyParam (bus : List Char → List Char) (addr : Char) (cmdBody : List Char)
    (paramNum : UInt16) (resp : ParamMetaResponse) : Err × ParamMetaResponse :=
  if !validAddress addr then (.invalidAddress, resp)
  else match transact bus (snprintf longCommandSize
      (addr :: 'I' :: cString cmdBody ++ '_' :: formatUnsigned 3 paramNum.toNat ++ ['!'])) with
  | .error err => (err, ⟨'\x00', [], []⟩)
  | .ok line => parseParamMeta (trimCrlf line) addr

/-- The command `"%cX%s!"` of the extended requests. -/
def extendedCommand (addr : Char) (xcmd : List Char) : List Char :=
  snprintf longCommandSize (addr :: 'X' :: cString xcmd ++ ['!'])

/-- `sdi12_master_extended`, with `capacity` the caller's `*resp_len`: the line received,
CR LF included, cut to the capacity, or `none` when it writes nothing. -/
def extended (bus : List Char → List Char) (addr : Char) (xcmd : List Char) (capacity : Nat) :
    Err × Option (List Char) :=
  if !validAddress addr then (.invalidAddress, none)
  else match transact bus (extendedCommand addr xcmd) with
  | .error err => (err, none)
  | .ok line => (.ok, some (line.take capacity))

/-- The loop of `sdi12_master_extended_multiline` after the first line, with `room` bytes of
`resp_buf` left.  The `k`-th element of `answers` is what the `k`-th call of the recv hook
hands over (at most `sizeof ctx->resp_buf - 1` bytes; an empty answer is the multi-line gap
passing in silence, and past the end of the list every call returns nothing).  A line is
copied up to the room left.  The bytes copied, and the number of lines counted. -/
def collectLines (room : Nat) : List (List Char) → List Char × Nat
  | [] => ([], 0)
  | answer :: later =>
    let line := answer.take (respBufSize - 1)
    if room = 0 ∨ line = [] then ([], 0)
    else
      let copy := line.take room
      let rest := collectLines (room - copy.length) later
      (copy ++ rest.1, rest.2 + 1)

/-- `sdi12_master_extended_multiline`, with `resp_bufsize` bytes of room: the bytes copied to
`resp_buf` (their count is `*resp_len`) and the `uint8_t` `*line_count`, or `none` when it
writes neither.  The first line is the one `recv_response` got, which is never empty. -/
def extendedMultiline (bus : List Char → List Char) (answers : List (List Char)) (addr : Char)
    (xcmd : List Char) (bufsize : Nat) : Err × Option (List Char × Nat) :=
  if !validAddress addr then (.invalidAddress, none)
  else match transact bus (extendedCommand addr xcmd) with
  | .error err => (err, none)
  | .ok first =>
    let copy := first.take bufsize
    let rest := collectLines (bufsize - copy.length) answers
    (.ok, some (copy ++ rest.1, (1 + rest.2) % 256))

/-! ## The multi-line loop -/

/-- The answers of the recv hook up to the first silent call, each as the hook hands it
over. -/
def heardLines (answers : List (List Char)) : List (List Char) :=
  (answers.map (·.take (respBufSize - 1))).takeWhile (· ≠ [])

theorem heardLines_cons (answer : List Char) (later : List (List Char)) :
    heardLines (answer :: later) =
      if answer.take (respBufSize - 1) = [] then [] else answer.take (respBufSize - 1) :: heardLines later := by
  by_cases silent : answer.take (respBufSize - 1) = [] <;>
    simp [heardLines, List.takeWhile_cons, silent, -respBufSize]

/-- The loop after the first line copies the lines heard, run together and cut to the room
left, and calls the recv hook again only while there is room: it reads the lines up to the
one that fills the buffer, or all of them. -/
theorem collectLines_spec (room : Nat) (answers : List (List Char)) :
    let lines := heardLines answers
    let read := (collectLines room answers).2
    (collectLines room answers).1 = lines.flatten.take room ∧ read ≤ lines.length ∧
      (∀ j < read, (lines.take j).flatten.length < room) ∧
      (read < lines.length → room ≤ (lines.take read).flatten.length) := by
  induction answers generalizing room with
  | nil => simp [collectLines, heardLines]
  | cons answer later ih =>
    simp only [collectLines, heardLines_cons]
    generalize answer.take (respBufSize - 1) = line
    by_cases stop : room = 0 ∨ line = []
    · rcases stop with zero | rfl
      · simp [zero]
      · simp
    obtain ⟨busy, heard⟩ := not_or.mp stop
    have shift : room - (line.take room).length = room - line.length := by
      simp only [List.length_take]; omega
    obtain ⟨copied, bound, roomy, full⟩ := ih (room - line.length)
    simp only [busy, heard, or_self, if_false, shift, List.flatten_cons, List.take_append_eq_append_take,
      copied, List.length_cons, true_and]
    refine ⟨by omega, fun j before => ?_, fun more => ?_⟩
    · cases j with
      | zero => simp only [List.take_zero, List.flatten_nil, List.length_nil]; omega
      | succ j =>
        have := roomy j (by omega)
        simp only [List.take_succ_cons, List.flatten_cons, List.length_append]
        omega
    · have := full (by omega)
      simp only [List.take_succ_cons, List.flatten_cons, List.length_append] at this ⊢
      omega

/-- `sdi12_master_extended_multiline` once `recv_response` has the first line: it returns the
lines received (the first, then each answer of the recv hook up to the first silent one) run
together and cut to `resp_bufsize`.  It calls the hook again only while there is room, so it
reads exactly the lines up to the one that fills the buffer, or all of them, and
`*line_count` is their number modulo 256, the range of its `uint8_t`. -/
theorem extendedMultiline_reads {bus : List Char → List Char} (answers : List (List Char))
    {addr : Char} {xcmd first : List Char} (bufsize : Nat) (valid : validAddress addr = true)
    (received : transact bus (extendedCommand addr xcmd) = .ok first) :
    let lines := first :: heardLines answers
    ∃ read, extendedMultiline bus answers addr xcmd bufsize =
        (.ok, some (lines.flatten.take bufsize, read % 256)) ∧
      1 ≤ read ∧ read ≤ lines.length ∧
      (∀ j, 1 ≤ j → j < read → (lines.take j).flatten.length < bufsize) ∧
      (read < lines.length → bufsize ≤ (lines.take read).flatten.length) := by
  intro lines
  have shift : bufsize - (first.take bufsize).length = bufsize - first.length := by
    simp only [List.length_take]; omega
  obtain ⟨copied, bound, roomy, full⟩ := collectLines_spec (bufsize - first.length) answers
  refine ⟨1 + (collectLines (bufsize - first.length) answers).2, ?_, by omega,
    by simp only [lines, List.length_cons]; omega, fun j after before => ?_, fun more => ?_⟩
  · simp only [extendedMultiline, valid, Bool.not_true, Bool.false_eq_true, if_false, received, shift,
      copied, lines, List.flatten_cons, List.take_append_eq_append_take]
  · obtain ⟨j, rfl⟩ : ∃ k, j = k + 1 := ⟨j - 1, by omega⟩
    have := roomy j (by omega)
    simp only [lines, List.take_succ_cons, List.flatten_cons, List.length_append]
    omega
  · have := full (by simp only [lines, List.length_cons] at more; omega)
    simp only [lines, Nat.add_comm 1, List.take_succ_cons, List.flatten_cons, List.length_append]
    omega

/-- A first line of five bytes and a second of three, read into seven bytes: the second is
cut, and the answer after the silent call is never read. -/
theorem extendedMultiline_reads_two_lines :
    validAddress '0' = true ∧
      transact (fun _ => ['0', 'o', 'k', '\r', '\n']) (extendedCommand '0' ['T']) =
        .ok ['0', 'o', 'k', '\r', '\n'] ∧
      ∃ read, extendedMultiline (fun _ => ['0', 'o', 'k', '\r', '\n'])
          [['2', '\r', '\n'], [], ['x']] '0' ['T'] 7 =
          (.ok, some ((['0', 'o', 'k', '\r', '\n'] :: heardLines [['2', '\r', '\n'], [], ['x']]).flatten.take 7,
            read % 256)) ∧
        1 ≤ read ∧ read ≤ (['0', 'o', 'k', '\r', '\n'] :: heardLines [['2', '\r', '\n'], [], ['x']]).length ∧
        (∀ j, 1 ≤ j → j < read →
          ((['0', 'o', 'k', '\r', '\n'] :: heardLines [['2', '\r', '\n'], [], ['x']]).take j).flatten.length < 7) ∧
        (read < (['0', 'o', 'k', '\r', '\n'] :: heardLines [['2', '\r', '\n'], [], ['x']]).length →
          7 ≤ ((['0', 'o', 'k', '\r', '\n'] :: heardLines [['2', '\r', '\n'], [], ['x']]).take read).flatten.length) :=
  ⟨by decide, rfl, extendedMultiline_reads [['2', '\r', '\n'], [], ['x']] 7 (by decide) rfl⟩

/-! ## Parameter metadata -/

/-- The parse of a well-formed metadata line gives back the SHEF code and the units as they
were sent, when the code holds no comma, the units no semicolon, neither a NUL, and each fits
its array of `sdi12_param_meta_response_t`. -/
theorem parseParamMeta_line (addr : Char) {shef units : List Char} (tail : List Char)
    (noComma : ',' ∉ shef) (noSemicolon : ';' ∉ units) (noNul : '\x00' ∉ shef ++ units)
    (shefFits : shef.length ≤ 7) (unitsFits : units.length ≤ 23) :
    parseParamMeta (addr :: ',' :: (shef ++ ',' :: (units ++ ';' :: tail))) addr =
      (.ok, ⟨addr, shef, units⟩) := by
  have before {d : Char} {s : List Char} (absent : d ∉ s) : ∀ c ∈ s, decide (c ≠ d) = true :=
    fun c member => decide_eq_true (ne_of_mem_of_not_mem member absent)
  have shefRead : (shef ++ ',' :: (units ++ ';' :: tail)).takeWhile (· ≠ ',') = shef := by
    rw [List.takeWhile_append_of_pos (before noComma), List.takeWhile_cons_of_neg (by simp),
      List.append_nil]
  have afterShef : (shef ++ ',' :: (units ++ ';' :: tail)).dropWhile (· ≠ ',') =
      ',' :: (units ++ ';' :: tail) := by
    rw [List.dropWhile_append_of_pos (before noComma), List.dropWhile_cons_of_neg (by simp)]
  have unitsRead : (units ++ ';' :: tail).takeWhile (· ≠ ';') = units := by
    rw [List.takeWhile_append_of_pos (before noSemicolon), List.takeWhile_cons_of_neg (by simp),
      List.append_nil]
  have long : ¬(addr :: ',' :: (shef ++ ',' :: (units ++ ';' :: tail))).length < 4 := by
    simp only [List.length_cons, List.length_append]; omega
  rw [List.mem_append, not_or] at noNul
  simp only [parseParamMeta, long, if_false, List.getD_cons_zero, List.getD_cons_succ, ne_eq,
    not_true_eq_false, List.drop_succ_cons, List.drop_zero, afterShef, shefRead, unitsRead,
    List.take_of_length_le shefFits, List.take_of_length_le unitsFits,
    cString_of_forall_ne fun c member (nul : c = '\x00') => noNul.1 (nul ▸ member),
    cString_of_forall_ne fun c member (nul : c = '\x00') => noNul.2 (nul ▸ member)]

/-- `sdi12_master_get_hv_data`, with `capacity` the caller's `*raw_len`: the bytes after the
address of the trimmed line, cut to the capacity, or `none` when it writes nothing. -/
def getHvData (bus : List Char → List Char) (addr : Char) (page : UInt16) (capacity : Nat) :
    Err × Option (List Char) :=
  if !validAddress addr then (.invalidAddress, none)
  else match transact bus (snprintf 12 (addr :: 'D' :: Nat.toDigits 10 page.toNat ++ ['!'])) with
  | .error err => (err, none)
  | .ok line =>
    match trimCrlf line with
    | [] => (.parseFailed, none)
    | _ :: data => (.ok, some (data.take capacity))

/-- `sdi12_bintype_size`, on the code of an `sdi12_bintype_t`. -/
def bintypeSize : Nat → Nat
  | 1 | 2 => 1
  | 3 | 4 => 2
  | 5 | 6 | 9 => 4
  | 7 | 8 | 10 => 8
  | _ => 0

end Sdi12.Master
