import Sdi12.Master

namespace Sdi12.Master

/-! # What the value scan reads (`sdi12_master_parse_data_values`)

The scan reads a concatenation piece by piece once the second piece cannot extend a token
of the first (`parseValues_append`), so its whole behaviour is fixed by what it does on a
single token and on bytes that hold none.  A well-formed data body is a sequence of tokens
`[+-][0-9]+(.[0-9]*)?` of at most `SDI12_VALUE_MAX_CHARS` bytes, each after a run of
spaces, with spaces after the last; `Token` carries that shape as fields.
-/

/-- The point and the digits after it, if a token has them. -/
def pointDigits : Option (List Char) → List Char
  | none => []
  | some digits => '.' :: digits

/-- The text of a token: sign, integer digits, and the point with its digits if present. -/
def tokenText (sign : Char) (whole : List Char) (fraction : Option (List Char)) : List Char :=
  sign :: whole ++ pointDigits fraction

/-- A token of a well-formed data body. -/
structure Token where
  sign : Char
  whole : List Char
  fraction : Option (List Char)
  signed : sign = '+' ∨ sign = '-'
  wholeDigits : whole ≠ [] ∧ ∀ c ∈ whole, isDigit c = true
  fractionDigits : ∀ digits ∈ fraction, ∀ c ∈ digits, isDigit c = true
  short : (tokenText sign whole fraction).length ≤ valueMaxChars

def Token.text (token : Token) : List Char := tokenText token.sign token.whole token.fraction

/-- The number of digits after the point, 0 without one. -/
def Token.decimals (token : Token) : Nat := (token.fraction.getD []).length

/-- A data body: each token after its run of spaces, then `trailing` spaces. -/
def renderBody (tokens : List (Nat × Token)) (trailing : Nat) : List Char :=
  (tokens.flatMap fun (spaces, token) => List.replicate spaces ' ' ++ token.text) ++
    List.replicate trailing ' '

/-- The scan with room for every value the bytes hold (each takes two bytes at least):
the unbounded parse. -/
def allValues (strtof : List Char → UInt32) (data : List Char) : List Value :=
  parseValues strtof data.length data

variable (strtof : List Char → UInt32)

/-! ## The scan, case by case -/

@[simp] theorem parseValues_nil (room : Nat) : parseValues strtof room [] = [] := by
  rw [parseValues]

@[simp] theorem parseValues_zero (data : List Char) : parseValues strtof 0 data = [] := by
  cases data <;> rw [parseValues]
  simp

theorem parseValues_skip (room : Nat) {c : Char} (rest : List Char) (noSign : c ≠ '+' ∧ c ≠ '-') :
    parseValues strtof room (c :: rest) = parseValues strtof room rest := by
  rw [parseValues]
  split_ifs with full
  · subst full
    simp
  · rfl

theorem parseValues_spaces (room count : Nat) (rest : List Char) :
    parseValues strtof room (List.replicate count ' ' ++ rest) = parseValues strtof room rest := by
  induction count with
  | zero => rfl
  | succ count ih =>
    rw [List.replicate_succ, List.cons_append, parseValues_skip strtof room _ (by decide), ih]

theorem takeWhile_append_stop {p : Char → Bool} (front : List Char) {back : List Char}
    (stop : ∀ c ∈ back.head?, p c = false) :
    (front ++ back).takeWhile p = front.takeWhile p := by
  induction front with
  | nil => cases back <;> simp_all [List.takeWhile_cons]
  | cons c front ih => simp only [List.cons_append, List.takeWhile_cons, ih]

theorem dropWhile_append_stop {p : Char → Bool} (front : List Char) {back : List Char}
    (stop : ∀ c ∈ back.head?, p c = false) :
    (front ++ back).dropWhile p = front.dropWhile p ++ back := by
  induction front with
  | nil => cases back <;> simp_all [List.dropWhile_cons]
  | cons c front ih =>
    simp only [List.cons_append, List.dropWhile_cons, ih]
    split <;> rfl

/-- The scan reads a concatenation piece by piece when the second piece cannot continue a
token of the first: the first piece's values, then the second's in the room left. -/
theorem parseValues_append (room : Nat) (front : List Char) {back : List Char}
    (boundary : ∀ c ∈ back.head?, isValueByte c = false) :
    parseValues strtof room (front ++ back) =
      parseValues strtof room front ++
        parseValues strtof (room - (parseValues strtof room front).length) back := by
  induction room, front using parseValues.induct strtof with
  | case1 room => simp
  | case2 c rest => simp
  | case3 room c rest _ noSign ih =>
    rw [List.cons_append, parseValues_skip strtof room _ noSign, parseValues_skip strtof room _ noSign, ih]
  | case4 room c rest _ sign empty ih =>
    have bare : (rest ++ back).takeWhile isValueByte = [] := by
      rw [takeWhile_append_stop rest boundary, empty]
    rw [List.cons_append, parseValues, if_neg ‹_›, if_neg sign, if_pos bare, ih, parseValues,
      if_neg ‹_›, if_neg sign, if_pos empty]
  | case5 room c rest full sign token ih =>
    rw [List.cons_append, parseValues, if_neg full, if_neg sign,
      takeWhile_append_stop rest boundary, if_neg token, dropWhile_append_stop rest boundary, ih,
      parseValues, if_neg full, if_neg sign, if_neg token]
    simp only [List.cons_append, List.length_cons]
    congr 3
    omega

theorem length_parseValues_le (room : Nat) (data : List Char) :
    (parseValues strtof room data).length ≤ data.length := by
  induction room, data using parseValues.induct strtof with
  | case1 room => simp
  | case2 c rest => simp
  | case3 room c rest _ noSign ih =>
    rw [parseValues_skip strtof room _ noSign]
    exact ih.trans (Nat.le_succ _)
  | case4 room c rest full sign empty ih =>
    rw [parseValues, if_neg full, if_neg sign, if_pos empty]
    exact ih.trans (Nat.le_succ _)
  | case5 room c rest full sign token ih =>
    rw [parseValues, if_neg full, if_neg sign, if_neg token, List.length_cons]
    exact Nat.succ_le_succ (ih.trans (List.dropWhile_suffix _).length_le)

/-- More room only adds values at the end. -/
theorem parseValues_take (room extra : Nat) (data : List Char) :
    parseValues strtof room data = (parseValues strtof (room + extra) data).take room := by
  induction room, data using parseValues.induct strtof with
  | case1 room => simp
  | case2 c rest => simp
  | case3 room c rest _ noSign ih => rw [parseValues_skip strtof _ _ noSign,
      parseValues_skip strtof _ _ noSign, ih]
  | case4 room c rest full sign empty ih =>
    rw [parseValues, if_neg full, if_neg sign, if_pos empty, ih, parseValues,
      if_neg (by omega), if_neg sign, if_pos empty]
  | case5 room c rest full sign token ih =>
    obtain ⟨room, rfl⟩ : ∃ r, room = r + 1 := ⟨room - 1, by omega⟩
    rw [parseValues, if_neg full, if_neg sign, if_neg token, ih, parseValues, if_neg (by omega),
      if_neg sign, if_neg token, show room + 1 + extra - 1 = room + extra by omega,
      show room + 1 - 1 = room by omega, List.take_succ_cons]

/-- A bounded scan is the unbounded one cut to the room. -/
theorem parseValues_eq_take_allValues (room : Nat) (data : List Char) :
    parseValues strtof room data = (allValues strtof data).take room := by
  rw [allValues]
  by_cases roomy : room ≤ data.length
  · rw [parseValues_take strtof room (data.length - room), Nat.add_sub_cancel' roomy]
  · have whole := parseValues_take strtof data.length (room - data.length) data
    rw [Nat.add_sub_cancel' (by omega),
      List.take_of_length_le (length_parseValues_le strtof room data)] at whole
    rw [← whole, List.take_of_length_le ((length_parseValues_le strtof _ data).trans (by omega))]

/-! ## Well-formed bodies -/

theorem Token.text_cons (token : Token) :
    ∃ tail, token.text = token.sign :: tail ∧ tail ≠ [] ∧ ∀ c ∈ tail, isValueByte c = true := by
  obtain ⟨nonempty, digits⟩ := token.wholeDigits
  refine ⟨token.whole ++ pointDigits token.fraction, rfl, by simp [nonempty], fun c member => ?_⟩
  rcases List.mem_append.mp member with whole | fraction
  · simp [isValueByte, digits c whole]
  · cases found : token.fraction with
    | none => simp [found, pointDigits] at fraction
    | some part =>
      simp only [found, pointDigits, List.mem_cons] at fraction
      rcases fraction with rfl | inPart
      · rfl
      · simp [isValueByte, token.fractionDigits part (by simp [found]) c inPart]

theorem Token.sign_not_value (token : Token) : isValueByte token.sign = false := by
  rcases token.signed with same | same <;> rw [same] <;> rfl

/-- The value a token stands for: `strtod` of its text, and the digits after its point. -/
theorem tokenValue_text (token : Token) :
    tokenValue strtof token.text = ⟨strtof token.text, UInt8.ofNat token.decimals⟩ := by
  have noPoint : ∀ c ∈ token.sign :: token.whole, decide (c = '.') = false := by
    intro c member
    rw [decide_eq_false_iff_not]
    rintro rfl
    rcases List.mem_cons.mp member with sign | whole
    · rcases token.signed with same | same <;> rw [same] at sign <;> cases sign
    · exact absurd (token.wholeDigits.2 _ whole) (by decide)
  have point : token.text.findIdx? (· = '.') =
      token.fraction.map fun _ => token.whole.length + 1 := by
    rw [Token.text, tokenText, List.findIdx?_append, List.findIdx?_eq_none_iff.mpr noPoint]
    cases token.fraction <;> simp [pointDigits]
  have whole : token.text.take valueMaxChars = token.text := List.take_of_length_le token.short
  simp only [tokenValue, whole, point]
  cases found : token.fraction <;> simp [Token.decimals, Token.text, tokenText, pointDigits, found]

theorem parseValues_token (room : Nat) (token : Token) {rest : List Char}
    (boundary : ∀ c ∈ rest.head?, isValueByte c = false) :
    parseValues strtof (room + 1) (token.text ++ rest) =
      ⟨strtof token.text, UInt8.ofNat token.decimals⟩ :: parseValues strtof room rest := by
  obtain ⟨tail, text, nonempty, values⟩ := token.text_cons
  have alone : parseValues strtof (room + 1) token.text = [tokenValue strtof token.text] := by
    have sign : ¬(token.sign ≠ '+' ∧ token.sign ≠ '-') := by rcases token.signed with h | h <;> simp [h]
    have whole : tail.takeWhile isValueByte = tail := List.takeWhile_eq_self_iff.mpr values
    rw [text, parseValues, if_neg (by omega), if_neg sign, whole, if_neg nonempty,
      List.dropWhile_eq_nil_iff.mpr values, parseValues_nil]
  rw [parseValues_append strtof _ _ boundary, alone, tokenValue_text, List.length_singleton,
    Nat.add_sub_cancel, List.singleton_append]

theorem renderBody_cons (spaces : Nat) (token : Token) (tokens : List (Nat × Token)) (trailing : Nat) :
    renderBody ((spaces, token) :: tokens) trailing =
      List.replicate spaces ' ' ++ (token.text ++ renderBody tokens trailing) := by
  simp [renderBody]

theorem renderBody_boundary (tokens : List (Nat × Token)) (trailing : Nat) :
    ∀ c ∈ (renderBody tokens trailing).head?, isValueByte c = false := by
  intro c first
  cases tokens with
  | nil => cases trailing <;> simp_all [renderBody, List.replicate_succ]; subst first; rfl
  | cons entry tokens =>
    obtain ⟨spaces, token⟩ := entry
    obtain ⟨tail, text, -⟩ := token.text_cons
    rw [renderBody_cons, text] at first
    cases spaces with
    | zero => simp at first; subst first; exact token.sign_not_value
    | succ spaces => simp [List.replicate_succ] at first; subst first; rfl

/-- **`sdi12_master_parse_data_values` on a well-formed body.**  It returns `SDI12_OK` with
the first `m` tokens' values: `strtod` of each token and the number of digits after its
point. -/
theorem parseDataValues_wellFormed (tokens : List (Nat × Token)) (trailing m : Nat) :
    let values := tokens.map fun entry =>
      (⟨strtof entry.2.text, UInt8.ofNat entry.2.decimals⟩ : Value)
    parseDataValues strtof (renderBody tokens trailing) m false = (.ok, values.take m) ∧
      (parseDataValues strtof (renderBody tokens trailing) m false).2.length =
        min m tokens.length := by
  intro values
  have scan : ∀ room, parseValues strtof room (renderBody tokens trailing) = values.take room := by
    induction tokens with
    | nil =>
      intro room
      have spaces := parseValues_spaces strtof room trailing []
      simp only [List.append_nil, parseValues_nil] at spaces
      simp [renderBody, spaces, values]
    | cons entry tokens ih =>
      obtain ⟨spaces, token⟩ := entry
      intro room
      rw [renderBody_cons, parseValues_spaces]
      cases room with
      | zero => simp
      | succ room =>
        rw [parseValues_token strtof room token (renderBody_boundary tokens trailing), ih]
        rfl
  simp [parseDataValues, scan, values]

/-- **The concatenation law of `sdi12_master_parse_data_values`.**  When `B` does not start
with a digit or a point, the values of `A ++ B` are the first `m` of the unbounded parses of
`A` and of `B`, one after the other. -/
theorem parseDataValues_append (A B : List Char) (boundary : ∀ c ∈ B.head?, isValueByte c = false)
    (m : Nat) :
    parseDataValues strtof (A ++ B) m false = (.ok, (allValues strtof A ++ allValues strtof B).take m) ∧
      (parseDataValues strtof (A ++ B) m false).2.length =
        min m ((allValues strtof A).length + (allValues strtof B).length) := by
  have values : parseValues strtof m (A ++ B) = (allValues strtof A ++ allValues strtof B).take m := by
    rw [parseValues_append strtof m A boundary, parseValues_eq_take_allValues strtof m A,
      parseValues_eq_take_allValues strtof _ B, List.take_append_eq_append_take, List.length_take]
    congr 2
    omega
  have whole : (A ++ B).take (A.length + B.length) = A ++ B := List.take_of_length_le (by simp)
  simp only [parseDataValues, Bool.false_eq_true, false_and, if_false, whole, values,
    List.length_take, List.length_append, true_and]

/-- The pair `+1.23-4.56` and `+7.89` of the metamorphic test, with room for ten values. -/
theorem parseDataValues_append_at_test_pair :
    (∀ c ∈ ['+', '7', '.', '8', '9'].head?, isValueByte c = false) ∧
      parseDataValues (fun _ => 0)
          (['+', '1', '.', '2', '3', '-', '4', '.', '5', '6'] ++ ['+', '7', '.', '8', '9']) 10 false =
        (.ok, (allValues (fun _ => 0) ['+', '1', '.', '2', '3', '-', '4', '.', '5', '6'] ++
          allValues (fun _ => 0) ['+', '7', '.', '8', '9']).take 10) ∧
      (parseDataValues (fun _ => 0)
          (['+', '1', '.', '2', '3', '-', '4', '.', '5', '6'] ++ ['+', '7', '.', '8', '9']) 10
          false).2.length =
        min 10 ((allValues (fun _ => 0) ['+', '1', '.', '2', '3', '-', '4', '.', '5', '6']).length +
          (allValues (fun _ => 0) ['+', '7', '.', '8', '9']).length) :=
  ⟨by decide, parseDataValues_append _ _ _ (by decide) 10⟩

end Sdi12.Master
