import HtmlNesting.Text.Utf8

/-!
# Reading what was written

Bytes can be read as text exactly if they are the UTF-8 form of some text, and then that text is
what is read (`decode_eq_ok_iff`). Between the two stands the list of well-formed byte sequences,
`ByteSequence`: the UTF-8 forms of characters are such sequences and no others, the reader takes
each for its character, and what it accepts begins with one.

Line ends are translated as they read: a return with the feed after it, and a return alone, become a
feed (`lineEnds_eq_translated`).
-/

namespace HtmlNesting.Text

/-! ## Bytes of a text -/

theorem toList_loop (bytes : ByteArray) (index : Nat) (read : List UInt8) :
    ByteArray.toList.loop bytes index read = read.reverse ++ bytes.data.toList.drop index := by
  fun_induction ByteArray.toList.loop bytes index read with
  | case1 index read inside ih =>
    have within : index < bytes.data.toList.length := by simpa using inside
    rw [ih, List.drop_eq_getElem_cons within]
    simp [ByteArray.get!, inside]
  | case2 index read outside =>
    have past : bytes.data.toList.length ≤ index := by simpa using outside
    simp [List.drop_eq_nil_of_le past]

/-- The bytes of a text are those of its characters, one after another. -/
theorem encode_ofList (cs : List Char) :
    encode (String.ofList cs) = cs.flatMap String.utf8EncodeChar := by
  rw [encode, ByteArray.toList, toList_loop]
  simp [String.toUTF8, String.toByteArray_ofList, List.utf8Encode]

/-! ## The bytes of a character -/

/-- The sequences of bytes that stand for a code point. The first byte of three or four narrows the
second, so that there are no overlong forms, no surrogates and nothing beyond the last code
point. -/
inductive ByteSequence : List UInt8 → Nat → Prop where
  | one {first : UInt8} (range : first.toNat < 0x80) : ByteSequence [first] first.toNat
  | two {first second : UInt8} (range : 0xC2 ≤ first.toNat ∧ first.toNat < 0xE0)
      (follows : 0x80 ≤ second.toNat ∧ second.toNat ≤ 0xBF) :
      ByteSequence [first, second] ((first.toNat - 0xC0) * 64 + (second.toNat - 0x80))
  | three {first second third : UInt8} (range : 0xE0 ≤ first.toNat ∧ first.toNat < 0xF0)
      (follows : 0x80 ≤ second.toNat ∧ second.toNat ≤ 0xBF)
      (notOverlong : first.toNat = 0xE0 → 0xA0 ≤ second.toNat)
      (notSurrogate : first.toNat = 0xED → second.toNat ≤ 0x9F)
      (ends : 0x80 ≤ third.toNat ∧ third.toNat ≤ 0xBF) :
      ByteSequence [first, second, third]
        (((first.toNat - 0xE0) * 64 + (second.toNat - 0x80)) * 64 + (third.toNat - 0x80))
  | four {first second third fourth : UInt8} (range : 0xF0 ≤ first.toNat ∧ first.toNat < 0xF5)
      (follows : 0x80 ≤ second.toNat ∧ second.toNat ≤ 0xBF)
      (notOverlong : first.toNat = 0xF0 → 0x90 ≤ second.toNat)
      (notBeyond : first.toNat = 0xF4 → second.toNat ≤ 0x8F)
      (goesOn : 0x80 ≤ third.toNat ∧ third.toNat ≤ 0xBF)
      (ends : 0x80 ≤ fourth.toNat ∧ fourth.toNat ≤ 0xBF) :
      ByteSequence [first, second, third, fourth]
        ((((first.toNat - 0xF0) * 64 + (second.toNat - 0x80)) * 64 + (third.toNat - 0x80)) * 64 +
          (fourth.toNat - 0x80))

theorem ofNat_eq_of_toNat {n : Nat} {byte : UInt8} (same : n = byte.toNat) :
    UInt8.ofNat n = byte := by
  rw [same, UInt8.ofNat_toNat]

namespace ByteSequence

variable {bytes : List UInt8} {value : Nat}

/-- The code point of a sequence is that of a character. -/
theorem isValidChar (sequence : ByteSequence bytes value) : value.isValidChar := by
  rw [Nat.isValidChar]
  cases sequence <;> omega

/-- A sequence is the UTF-8 form of its code point. -/
theorem utf8EncodeChar_ofNat (sequence : ByteSequence bytes value) :
    String.utf8EncodeChar (Char.ofNat value) = bytes := by
  have same : (Char.ofNat value).val.toNat = value := by
    rw [Char.ofNat, dif_pos sequence.isValidChar]
    rfl
  rw [String.utf8EncodeChar, same]
  cases sequence with
  | one range => rw [if_pos (by omega), UInt8.ofNat_toNat]
  | two range follows =>
    rw [if_neg (by omega), if_pos (by omega)]
    simp only [List.cons.injEq, and_true]
    exact ⟨ofNat_eq_of_toNat (by omega), ofNat_eq_of_toNat (by omega)⟩
  | three range follows notOverlong notSurrogate ends =>
    rw [if_neg (by omega), if_neg (by omega), if_pos (by omega)]
    simp only [List.cons.injEq, and_true]
    exact ⟨ofNat_eq_of_toNat (by omega), ofNat_eq_of_toNat (by omega),
      ofNat_eq_of_toNat (by omega)⟩
  | four range follows notOverlong notBeyond goesOn ends =>
    rw [if_neg (by omega), if_neg (by omega), if_neg (by omega)]
    simp only [List.cons.injEq, and_true]
    exact ⟨ofNat_eq_of_toNat (by omega), ofNat_eq_of_toNat (by omega),
      ofNat_eq_of_toNat (by omega), ofNat_eq_of_toNat (by omega)⟩

theorem of_value {other : Nat} (sequence : ByteSequence bytes other) (same : other = value) :
    ByteSequence bytes value :=
  same ▸ sequence

/-- The UTF-8 form of a character is a sequence for it. -/
theorem of_utf8EncodeChar (c : Char) : ByteSequence (String.utf8EncodeChar c) c.val.toNat := by
  have valid : c.val.toNat < 0xD800 ∨ 0xDFFF < c.val.toNat ∧ c.val.toNat < 0x110000 := c.valid
  rw [String.utf8EncodeChar]
  generalize c.val.toNat = point at valid
  by_cases single : point ≤ 127
  · rw [if_pos single]
    refine of_value (.one ?_) ?_
    all_goals simp only [UInt8.toNat_ofNat']
    all_goals omega
  rw [if_neg single]
  by_cases double : point ≤ 2047
  · rw [if_pos double]
    refine of_value (.two ?_ ?_) ?_
    all_goals simp only [UInt8.toNat_ofNat']
    all_goals omega
  rw [if_neg double]
  by_cases triple : point ≤ 65535
  · rw [if_pos triple]
    refine of_value (.three ?_ ?_ ?_ ?_ ?_) ?_
    all_goals simp only [UInt8.toNat_ofNat']
    all_goals omega
  · rw [if_neg triple]
    refine of_value (.four ?_ ?_ ?_ ?_ ?_ ?_) ?_
    all_goals simp only [UInt8.toNat_ofNat']
    all_goals omega

end ByteSequence

/-! ## The reader -/

/-- The first bytes of two, three and four. -/
theorem leadByte?_of_two {byte : UInt8} (range : 0xC2 ≤ byte.toNat ∧ byte.toNat < 0xE0) :
    leadByte? byte = some (0, 0x80, 0xBF, byte.toNat - 0xC0) := by
  simp only [leadByte?, UInt8.lt_iff_toNat_lt, ← UInt8.toNat_inj, UInt8.reduceToNat]
  grind

theorem leadByte?_of_three {byte : UInt8} (range : 0xE0 ≤ byte.toNat ∧ byte.toNat < 0xF0) :
    ∃ low high, leadByte? byte = some (1, low, high, byte.toNat - 0xE0) ∧
      low.toNat = (if byte.toNat = 0xE0 then 0xA0 else 0x80) ∧
      high.toNat = if byte.toNat = 0xED then 0x9F else 0xBF := by
  refine ⟨if byte.toNat = 0xE0 then 0xA0 else 0x80, if byte.toNat = 0xED then 0x9F else 0xBF,
    ?_, by split <;> rfl, by split <;> rfl⟩
  simp only [leadByte?, UInt8.lt_iff_toNat_lt, ← UInt8.toNat_inj, UInt8.reduceToNat]
  grind

theorem leadByte?_of_four {byte : UInt8} (range : 0xF0 ≤ byte.toNat ∧ byte.toNat < 0xF5) :
    ∃ low high, leadByte? byte = some (2, low, high, byte.toNat - 0xF0) ∧
      low.toNat = (if byte.toNat = 0xF0 then 0x90 else 0x80) ∧
      high.toNat = if byte.toNat = 0xF4 then 0x8F else 0xBF := by
  refine ⟨if byte.toNat = 0xF0 then 0x90 else 0x80, if byte.toNat = 0xF4 then 0x8F else 0xBF,
    ?_, by split <;> rfl, by split <;> rfl⟩
  simp only [leadByte?, UInt8.lt_iff_toNat_lt, ← UInt8.toNat_inj, UInt8.reduceToNat]
  grind

/-- There are no others. -/
theorem range_of_leadByte? {byte : UInt8} (leads : leadByte? byte ≠ none) :
    0xC2 ≤ byte.toNat ∧ byte.toNat < 0xF5 := by
  simp only [leadByte?, UInt8.lt_iff_toNat_lt, ← UInt8.toNat_inj, UInt8.reduceToNat] at leads
  grind

variable {read cs : List Char} {offset : Nat} {byte : UInt8} {rest : List UInt8}

theorem decodeFrom_plain (range : byte.toNat < 0x80) :
    decodeFrom read offset none (byte :: rest) =
      decodeFrom (Char.ofNat byte.toNat :: read) (offset + 1) none rest := by
  rw [decodeFrom, if_pos (UInt8.lt_iff_toNat_lt.mpr range)]

theorem decodeFrom_lead {missing value : Nat} {low high : UInt8}
    (leads : leadByte? byte = some (missing, low, high, value)) :
    decodeFrom read offset none (byte :: rest) =
      decodeFrom read (offset + 1)
        (some { first := byte, start := offset, missing, low, high, value }) rest := by
  have range : 0xC2 ≤ byte.toNat ∧ byte.toNat < 0xF5 := range_of_leadByte? (by simp [leads])
  have notPlain : ¬ byte < 0x80 := by
    simp only [UInt8.lt_iff_toNat_lt, UInt8.reduceToNat]
    omega
  rw [decodeFrom, if_neg notPlain, leads]

theorem decodeFrom_inner {first : UInt8} {start missing value : Nat} {low high : UInt8}
    (within : low.toNat ≤ byte.toNat ∧ byte.toNat ≤ high.toNat) :
    decodeFrom read offset
        (some { first, start, missing := missing + 1, low, high, value }) (byte :: rest) =
      decodeFrom read (offset + 1) (some {
        first, start, missing, low := 0x80, high := 0xBF
        value := value * 64 + (byte.toNat - 0x80) }) rest := by
  rw [decodeFrom, if_pos (by simpa [UInt8.le_iff_toNat_le] using within)]

theorem decodeFrom_last {first : UInt8} {start value : Nat} {low high : UInt8}
    (within : low.toNat ≤ byte.toNat ∧ byte.toNat ≤ high.toNat) :
    decodeFrom read offset (some { first, start, missing := 0, low, high, value })
        (byte :: rest) =
      decodeFrom (Char.ofNat (value * 64 + (byte.toNat - 0x80)) :: read) (offset + 1) none
        rest := by
  rw [decodeFrom, if_pos (by simpa [UInt8.le_iff_toNat_le] using within)]

/-- Inside a character the reader goes on only with a byte within its bounds. -/
theorem exists_byte_of_decodeFrom {char : BegunChar} {bytes : List UInt8}
    (returned : decodeFrom read offset (some char) bytes = .ok cs) :
    ∃ byte rest, bytes = byte :: rest ∧
      char.low.toNat ≤ byte.toNat ∧ byte.toNat ≤ char.high.toNat := by
  cases bytes with
  | nil => simp [decodeFrom] at returned
  | cons byte rest =>
    rw [decodeFrom] at returned
    by_cases within : char.low ≤ byte ∧ byte ≤ char.high
    · exact ⟨byte, rest, rfl, by simpa [UInt8.le_iff_toNat_le] using within⟩
    · simp [within] at returned

/-- The reader takes a sequence for its character. -/
theorem ByteSequence.decodeFrom_append {bytes : List UInt8} {value : Nat}
    (sequence : ByteSequence bytes value) :
    ∃ next, decodeFrom read offset none (bytes ++ rest) =
      decodeFrom (Char.ofNat value :: read) next none rest := by
  cases sequence with
  | one range => exact ⟨_, decodeFrom_plain range⟩
  | two range follows =>
    simp only [List.cons_append, List.nil_append]
    rw [decodeFrom_lead (leadByte?_of_two range), decodeFrom_last (by simpa using follows)]
    exact ⟨_, rfl⟩
  | three range follows notOverlong notSurrogate ends =>
    obtain ⟨low, high, leads, least, most⟩ := leadByte?_of_three range
    simp only [List.cons_append, List.nil_append]
    rw [decodeFrom_lead leads, decodeFrom_inner (by grind), decodeFrom_last (by simpa using ends)]
    exact ⟨_, rfl⟩
  | four range follows notOverlong notBeyond goesOn ends =>
    obtain ⟨low, high, leads, least, most⟩ := leadByte?_of_four range
    simp only [List.cons_append, List.nil_append]
    rw [decodeFrom_lead leads, decodeFrom_inner (by grind),
      decodeFrom_inner (by simpa using goesOn), decodeFrom_last (by simpa using ends)]
    exact ⟨_, rfl⟩

/-- What the reader accepts begins with a sequence, unless it is empty. -/
theorem exists_sequence_of_decodeFrom {bytes : List UInt8}
    (returned : decodeFrom read offset none bytes = .ok cs) :
    bytes = [] ∨ ∃ taken value rest, bytes = taken ++ rest ∧ taken ≠ [] ∧
      ByteSequence taken value := by
  cases bytes with
  | nil => exact .inl rfl
  | cons first rest =>
    right
    by_cases plain : first.toNat < 0x80
    · exact ⟨[first], _, rest, rfl, by simp, .one plain⟩
    have leads : leadByte? first ≠ none := by
      intro nothing
      have notPlain : ¬ first < 0x80 := by rwa [UInt8.lt_iff_toNat_lt]
      rw [decodeFrom, if_neg notPlain, nothing] at returned
      simp at returned
    have range := range_of_leadByte? leads
    by_cases double : first.toNat < 0xE0
    · have lead := leadByte?_of_two ⟨range.1, double⟩
      rw [decodeFrom_lead lead] at returned
      obtain ⟨second, rest, rfl, follows⟩ := exists_byte_of_decodeFrom returned
      exact ⟨[first, second], _, rest, rfl, by simp, .two ⟨range.1, double⟩ follows⟩
    by_cases triple : first.toNat < 0xF0
    · obtain ⟨low, high, lead, least, most⟩ := leadByte?_of_three ⟨Nat.not_lt.mp double, triple⟩
      rw [decodeFrom_lead lead] at returned
      obtain ⟨second, rest, rfl, follows⟩ := exists_byte_of_decodeFrom returned
      rw [decodeFrom_inner follows] at returned
      obtain ⟨third, rest, rfl, ends⟩ := exists_byte_of_decodeFrom returned
      refine ⟨[first, second, third], _, rest, rfl, by simp,
        .three ⟨Nat.not_lt.mp double, triple⟩ ?_ ?_ ?_ ends⟩
      all_goals grind
    · obtain ⟨low, high, lead, least, most⟩ := leadByte?_of_four ⟨Nat.not_lt.mp triple, range.2⟩
      rw [decodeFrom_lead lead] at returned
      obtain ⟨second, rest, rfl, follows⟩ := exists_byte_of_decodeFrom returned
      rw [decodeFrom_inner follows] at returned
      obtain ⟨third, rest, rfl, goesOn⟩ := exists_byte_of_decodeFrom returned
      rw [decodeFrom_inner goesOn] at returned
      obtain ⟨fourth, rest, rfl, ends⟩ := exists_byte_of_decodeFrom returned
      refine ⟨[first, second, third, fourth], _, rest, rfl, by simp,
        .four ⟨Nat.not_lt.mp triple, range.2⟩ ?_ ?_ ?_ goesOn ends⟩
      all_goals grind

/-- The UTF-8 form of some characters is read as these. -/
theorem decodeFrom_flatMap (written read : List Char) (offset : Nat) :
    decodeFrom read offset none (written.flatMap String.utf8EncodeChar) =
      .ok (read.reverse ++ written) := by
  induction written generalizing read offset with
  | nil => simp [decodeFrom]
  | cons c rest ih =>
    have back : Char.ofNat c.val.toNat = c := Char.ofNat_toNat c
    obtain ⟨next, step⟩ := (ByteSequence.of_utf8EncodeChar c).decodeFrom_append
    rw [List.flatMap_cons, step, back, ih]
    simp

/-- What the reader accepts is the UTF-8 form of the characters it returns. -/
theorem eq_flatMap_of_decodeFrom {read cs : List Char} {offset : Nat} {bytes : List UInt8}
    (returned : decodeFrom read offset none bytes = .ok cs) :
    ∃ written, bytes = written.flatMap String.utf8EncodeChar ∧ cs = read.reverse ++ written := by
  rcases exists_sequence_of_decodeFrom returned with
    rfl | ⟨taken, value, rest, split, some, sequence⟩
  · exact ⟨[], rfl, by simpa [decodeFrom, eq_comm] using returned⟩
  · obtain ⟨next, step⟩ := sequence.decodeFrom_append
    rw [split, step] at returned
    obtain ⟨written, same, rfl⟩ := eq_flatMap_of_decodeFrom returned
    refine ⟨Char.ofNat value :: written, ?_, by simp⟩
    rw [split, List.flatMap_cons, sequence.utf8EncodeChar_ofNat, same]
termination_by bytes.length
decreasing_by
  have longer : 0 < taken.length := List.length_pos_iff.mpr some
  rw [split, List.length_append]
  omega

/-- Bytes are read as some characters exactly if they are the UTF-8 form of these. -/
theorem decode_eq_ok_iff (bytes : List UInt8) (cs : List Char) :
    decode bytes = .ok cs ↔ bytes = encode (String.ofList cs) := by
  rw [decode, encode_ofList]
  constructor
  · intro returned
    obtain ⟨written, same, rfl⟩ := eq_flatMap_of_decodeFrom returned
    simpa using same
  · rintro rfl
    exact decodeFrom_flatMap cs [] 0

/-! ## Line ends -/

/-- The characters without the returns that have a feed after them. -/
def withoutPairs : List Char → List Char
  | [] => []
  | '\r' :: '\n' :: rest => '\n' :: withoutPairs rest
  | c :: rest => c :: withoutPairs rest

/-- A text with a feed for every return and feed together, and for every return that is left. -/
def translated (s : String) : String :=
  String.ofList ((withoutPairs s.toList).map fun c => if c = '\r' then '\n' else c)

theorem lineEndsAfter_eq (read cs : List Char) :
    lineEndsAfter read cs =
      read.reverse ++ (withoutPairs cs).map fun c => if c = '\r' then '\n' else c := by
  fun_induction lineEndsAfter read cs with
  | case1 read => simp [withoutPairs]
  | case2 read rest ih => simp [withoutPairs, ih]
  | case3 read c rest apart ih => simp [withoutPairs, ih]

/-- Line ends are translated. -/
theorem lineEnds_eq_translated (s : String) :
    String.ofList (lineEnds s.toList) = translated s := by
  rw [lineEnds, lineEndsAfter_eq, translated]
  simp

end HtmlNesting.Text
