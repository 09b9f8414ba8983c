import HtmlNesting.Proofs.Merging

/-!
# What reading JSON can end in

A value that is read has each key once in its dictionaries, at any depth, since of equal keys only
the last counts. Reading a text that has no mistake can still fail, for three reasons, and the text
shows them: an integer that is too long needs more digits in a row than are allowed, values nested
too deeply need more brackets and braces than there may be levels, and half a character needs an
escape for it.

The three functions of the reader call each other on what remains of the text. `Accounts` says what
the result of any of them tells about the text it was given; it holds of a longer text if it holds
of what remains of it (`Accounts.of_suffix`), so one induction on the fuel goes through all three.
-/

namespace HtmlNesting.Json

variable {cs fewer : List Char} {depth : Nat} {reading : Reading Json}

/-! ## Results and what remains -/

/-- The number of brackets and braces that open a list or a dictionary. -/
def openings (cs : List Char) : Nat :=
  cs.countP fun c => c == '[' || c == '\x7b'

/-- There are more digits in a row than an integer may have. -/
def HasLongNumeral (cs : List Char) : Prop :=
  ∃ digits, digits <:+: cs ∧ Decimal.maxDigits < digits.length ∧ ∀ c ∈ digits, isDigit c = true

/-- There is an escape for half a character. -/
def HasHalf (cs : List Char) : Prop :=
  ∃ a b c d unit, ['\\', 'u', a, b, c, d] <:+: cs ∧ fourHex? a b c d = some unit ∧
    (isHighHalf unit || isLowHalf unit) = true

/-- What a result tells about the text that was read, inside which values may be nested some levels
deep. -/
def Accounts (depth : Nat) (cs : List Char) : Reading Json → Prop
  | .ok (value, rest) => Proper value ∧ rest <:+ cs
  | .error (.mistake _ _) => True
  | .error .longInteger => HasLongNumeral cs
  | .error .tooDeep => depth < openings cs
  | .error .unpaired => HasHalf cs

/-- What the result of reading a string, or part of one, tells: it fails by a mistake or at half a
character, and otherwise leaves the rest of the text. -/
def Leaves {α : Type} (cs : List Char) : Reading α → Prop
  | .ok (_, rest) => rest <:+ cs
  | .error (.mistake _ _) => True
  | .error .unpaired => HasHalf cs
  | .error _ => False

theorem openings_le_of_suffix (part : fewer <:+ cs) : openings fewer ≤ openings cs :=
  part.sublist.countP_le

theorem HasLongNumeral.of_suffix (part : fewer <:+ cs) (long : HasLongNumeral fewer) :
    HasLongNumeral cs := by
  obtain ⟨digits, inside, longer, allDigits⟩ := long
  exact ⟨digits, inside.trans part.isInfix, longer, allDigits⟩

theorem HasHalf.of_suffix (part : fewer <:+ cs) (half : HasHalf fewer) : HasHalf cs := by
  obtain ⟨a, b, c, d, unit, inside, escaped⟩ := half
  exact ⟨a, b, c, d, unit, inside.trans part.isInfix, escaped⟩

theorem Accounts.of_suffix (part : fewer <:+ cs) (accounts : Accounts depth fewer reading) :
    Accounts depth cs reading := by
  match reading with
  | .ok (value, rest) => exact ⟨accounts.1, accounts.2.trans part⟩
  | .error (.mistake _ _) => trivial
  | .error .longInteger => exact HasLongNumeral.of_suffix part accounts
  | .error .tooDeep => exact Nat.lt_of_lt_of_le accounts (openings_le_of_suffix part)
  | .error .unpaired => exact HasHalf.of_suffix part accounts

theorem Leaves.of_suffix {α : Type} {reading : Reading α} (part : fewer <:+ cs)
    (leaves : Leaves fewer reading) : Leaves cs reading := by
  match reading with
  | .ok (value, rest) => exact List.IsSuffix.trans leaves part
  | .error (.mistake _ _) => trivial
  | .error .longInteger => exact leaves
  | .error .tooDeep => exact leaves
  | .error .unpaired => exact HasHalf.of_suffix part leaves

/-- A failure to read part of a string is one to read the string. -/
theorem Leaves.of_error {α β : Type} {stop : Stop} (leaves : Leaves cs (.error stop : Reading α)) :
    Leaves cs (.error stop : Reading β) := by
  cases stop <;> exact leaves

theorem skipGap_suffix (cs : List Char) : skipGap cs <:+ cs :=
  List.dropWhile_suffix _

theorem suffix_of_skipGap {c : Char} {rest : List Char} (found : skipGap cs = c :: rest) :
    rest <:+ cs :=
  (found ▸ List.suffix_cons c rest : rest <:+ skipGap cs).trans (skipGap_suffix cs)

/-! ## Strings -/

theorem leaves_wholeUnit {a b c d : Char} {unit : Nat} (digits : fourHex? a b c d = some unit)
    (rest : List Char) : Leaves ('\\' :: 'u' :: a :: b :: c :: d :: rest) (wholeUnit unit rest) := by
  rw [wholeUnit]
  split
  next half => exact ⟨a, b, c, d, unit, ⟨[], rest, rfl⟩, digits, half⟩
  next => exact ⟨['\\', 'u', a, b, c, d], rfl⟩

/-- What is read of an escape after its first two characters. -/
theorem leaves_numberedEscape (cs : List Char) :
    Leaves ('\\' :: 'u' :: cs) (numberedEscape cs) := by
  fun_cases numberedEscape cs with
  | case1 | case2 | case6 => trivial
  | case3 a b c d unit _ e f g h after rest =>
    exact ⟨['\\', 'u', a, b, c, d, '\\', 'u', e, f, g, h], rfl⟩
  | case4 a b c d unit digits => exact leaves_wholeUnit digits _
  | case5 a b c d next rest unit digits => exact leaves_wholeUnit digits _

theorem leaves_stringRest (opened : Nat) (read : List Char) (fuel : Nat) (cs : List Char) :
    Leaves cs (stringRest opened read fuel cs) := by
  fun_induction stringRest opened read fuel cs with
  | case1 | case2 | case4 | case7 | case9 => trivial
  | case3 read fuel rest => exact List.suffix_cons '"' rest
  | case5 read fuel rest stop stopped => exact (stopped ▸ leaves_numberedEscape rest).of_error
  | case6 read fuel rest c after escape different ih =>
    have escaped : after <:+ '\\' :: 'u' :: rest := by
      simpa [escape, Leaves] using leaves_numberedEscape rest
    exact ih.of_suffix escaped
  | case8 read fuel letter rest other c single different ih =>
    exact ih.of_suffix ⟨['\\', letter], rfl⟩
  | case10 read fuel c rest noQuote noEscape noControl ih => exact ih.of_suffix ⟨[c], rfl⟩

theorem suffix_of_string {words : String} {rest : List Char}
    (read : string cs = .ok (words, rest)) : rest <:+ cs := by
  have leaves : Leaves cs (string cs) := leaves_stringRest _ _ _ cs
  rwa [read] at leaves

theorem accounts_of_string {stop : Stop} (stopped : string cs = .error stop) :
    Accounts depth cs (.error stop) := by
  have leaves : Leaves cs (string cs) := leaves_stringRest _ _ _ cs
  rw [stopped] at leaves
  cases stop with
  | mistake found remaining => trivial
  | unpaired => exact leaves
  | _ => exact leaves.elim

/-! ## Numbers and words -/

/-- The whole digits stand at the start of the text. -/
theorem eq_append_of_wholeDigits {digits rest : List Char} :
    wholeDigits cs = some (digits, rest) →
      cs = digits ++ rest ∧ ∀ c ∈ digits, isDigit c = true := by
  fun_cases wholeDigits cs with
  | case1 after =>
    rintro ⟨⟩
    exact ⟨rfl, List.forall_mem_singleton.mpr rfl⟩
  | case2 => rintro ⟨⟩
  | case3 notZero some =>
    rintro ⟨⟩
    exact ⟨List.takeWhile_append_dropWhile.symm, List.all_eq_true.mp List.all_takeWhile⟩

theorem fractionDigits_suffix (cs : List Char) : (fractionDigits cs).2 <:+ cs := by
  fun_cases fractionDigits cs with
  | case1 rest none => exact List.suffix_refl _
  | case2 rest some => exact (List.dropWhile_suffix _).trans (List.suffix_cons _ _)
  | case3 other => exact List.suffix_refl _

theorem signOf_suffix (cs : List Char) : (signOf cs).2 <:+ cs := by
  fun_cases signOf cs with
  | case1 rest => exact List.suffix_cons _ _
  | case2 rest => exact List.suffix_cons _ _
  | case3 => exact List.suffix_refl _

theorem minusOf_suffix (cs : List Char) : (minusOf cs).2 <:+ cs := by
  fun_cases minusOf cs with
  | case1 rest => exact List.suffix_cons _ _
  | case2 => exact List.suffix_refl _

theorem exponentOf_suffix (cs : List Char) : (exponentOf cs).2 <:+ cs := by
  fun_cases exponentOf cs with
  | case1 | case3 | case4 => exact List.suffix_refl _
  | case2 mark rest marked negative after signed =>
    have unsigned : after <:+ rest := by simpa [signed] using signOf_suffix rest
    exact ((List.dropWhile_suffix _).trans unsigned).trans (List.suffix_cons _ _)

/-- A number that is read is proper and leaves the rest; an integer that is too long is there in
full. -/
theorem accounts_number (depth : Nat) (cs : List Char) : Accounts depth cs (number cs) := by
  have afterSign : ∀ {negative : Bool} {unsigned : List Char},
      minusOf cs = (negative, unsigned) → unsigned <:+ cs := by
    intro negative unsigned signed
    simpa [signed] using minusOf_suffix cs
  have afterDigits : ∀ {after fraction middle rest : List Char} {exponent : Option Int},
      fractionDigits after = (fraction, middle) → exponentOf middle = (exponent, rest) →
        rest <:+ after := by
    intro after fraction middle rest exponent split raised
    have first : middle <:+ after := by simpa [split] using fractionDigits_suffix after
    have second : rest <:+ middle := by simpa [raised] using exponentOf_suffix middle
    exact second.trans first
  fun_cases number cs with
  | case1 => trivial
  | case2 negative unsigned signed whole after found fraction _ _ exponent rest _ _ long =>
    obtain ⟨rfl, allDigits⟩ := eq_append_of_wholeDigits found
    have inside : whole <:+: cs :=
      (List.prefix_append whole after).isInfix.trans (afterSign signed).isInfix
    exact ⟨whole, inside, long, allDigits⟩
  | case3 negative unsigned signed whole after found fraction middle split exponent rest raised =>
    obtain ⟨rfl, -⟩ := eq_append_of_wholeDigits found
    exact ⟨.integer _,
      ((afterDigits split raised).trans (List.suffix_append _ _)).trans (afterSign signed)⟩
  | case4 negative unsigned signed whole after found fraction middle split exponent rest raised =>
    obtain ⟨rfl, -⟩ := eq_append_of_wholeDigits found
    exact ⟨.decimal _,
      ((afterDigits split raised).trans (List.suffix_append _ _)).trans (afterSign signed)⟩

theorem proper_of_mem_words {word : List Char × Json} (member : word ∈ words) : Proper word.2 := by
  simp only [words, List.mem_cons, List.not_mem_nil, or_false] at member
  rcases member with rfl | rfl | rfl | rfl | rfl | rfl <;> constructor

theorem accounts_scalar (depth : Nat) (cs : List Char) : Accounts depth cs (scalar cs) := by
  rw [scalar]
  split
  next word value found =>
    exact ⟨proper_of_mem_words (List.mem_of_find?_eq_some found), List.drop_suffix _ _⟩
  next => exact accounts_number depth cs

/-! ## Lists and dictionaries -/

/-- One level less is left after a bracket or brace. -/
theorem Accounts.inside {c : Char} {rest : List Char} (opens : (c == '[' || c == '\x7b') = true)
    (accounts : Accounts depth rest reading) : Accounts (depth + 1) (c :: rest) reading := by
  match reading with
  | .ok (value, after) => exact ⟨accounts.1, accounts.2.trans (List.suffix_cons _ _)⟩
  | .error (.mistake _ _) => trivial
  | .error .longInteger => exact HasLongNumeral.of_suffix (List.suffix_cons c rest) accounts
  | .error .tooDeep =>
    have fewer : depth < openings rest := accounts
    have more : openings (c :: rest) = openings rest + 1 := List.countP_cons_of_pos opens
    show depth + 1 < openings (c :: rest)
    omega
  | .error .unpaired => exact HasHalf.of_suffix (List.suffix_cons c rest) accounts

/-- What the results of the three functions tell that read values with some fuel. -/
structure ReaderAccounts (fuel : Nat) : Prop where
  value (depth : Nat) (cs : List Char) : Accounts depth cs (value depth fuel cs)
  items (depth : Nat) {read : List Json} (cs : List Char) (earlier : ∀ item ∈ read, Proper item) :
    Accounts depth cs (items depth fuel read cs)
  entries (depth : Nat) {read : List (Scalar × Json)} (cs : List Char)
    (earlier : ∀ entry ∈ read, Proper entry.2) : Accounts depth cs (entries depth fuel read cs)

theorem ReaderAccounts.of_value {fuel : Nat} (all : ReaderAccounts fuel) {item : Json}
    {rest : List Char} (found : Json.value depth fuel cs = .ok (item, rest)) :
    Proper item ∧ rest <:+ cs := by
  have accounts := all.value depth cs
  rwa [found] at accounts

/-- What stands after the colon of an entry. -/
theorem suffix_of_colon {rest afterKey afterColon : List Char} {key : String}
    (keyRead : string rest = .ok (key, afterKey)) (colon : skipGap afterKey = ':' :: afterColon) :
    skipGap afterColon <:+ '"' :: rest :=
  ((skipGap_suffix _).trans (suffix_of_skipGap colon)).trans
    ((suffix_of_string keyRead).trans (List.suffix_cons _ _))

section

variable {fuel : Nat} (below : ∀ less < fuel, ReaderAccounts less)
include below

theorem accounts_value (depth : Nat) (cs : List Char) :
    Accounts depth cs (value depth fuel cs) := by
  fun_cases value depth fuel cs with
  | case1 | case2 => trivial
  | case3 depth fuel rest =>
    match read : string rest with
    | .ok (words, after) =>
      exact ⟨.text words, (suffix_of_string read).trans (List.suffix_cons _ _)⟩
    | .error stop => exact (accounts_of_string read).of_suffix (List.suffix_cons _ _)
  | case4 fuel rest | case7 fuel rest =>
    show 0 < openings (_ :: rest)
    rw [openings, List.countP_cons_of_pos rfl]
    exact Nat.succ_pos _
  | case5 fuel rest depth after closed =>
    exact ⟨.list (by simp), (suffix_of_skipGap closed).trans (List.suffix_cons _ _)⟩
  | case8 fuel rest depth after closed =>
    exact ⟨.dictionary .nil (by simp), (suffix_of_skipGap closed).trans (List.suffix_cons _ _)⟩
  | case6 fuel rest depth =>
    have inside := (below fuel (Nat.lt_succ_self fuel)).items depth (skipGap rest)
      (List.forall_mem_nil _)
    exact (inside.of_suffix (skipGap_suffix rest)).inside rfl
  | case9 fuel rest depth =>
    have inside := (below fuel (Nat.lt_succ_self fuel)).entries depth (skipGap rest)
      (List.forall_mem_nil _)
    exact (inside.of_suffix (skipGap_suffix rest)).inside rfl
  | case10 depth fuel c rest => exact accounts_scalar depth (c :: rest)

theorem accounts_items (depth : Nat) {read : List Json} (cs : List Char)
    (earlier : ∀ item ∈ read, Proper item) : Accounts depth cs (items depth fuel read cs) := by
  fun_cases items depth fuel read cs with
  | case1 | case5 => trivial
  | case2 fuel read cs stop stopped =>
    exact stopped ▸ (below fuel (Nat.lt_succ_self fuel)).value depth cs
  | case3 fuel read cs item rest found after closed =>
    obtain ⟨proper, part⟩ := (below fuel (Nat.lt_succ_self fuel)).of_value found
    have each : ∀ other ∈ item :: read, Proper other := List.forall_mem_cons.mpr ⟨proper, earlier⟩
    exact ⟨.list fun other member => each other (List.mem_reverse.mp member),
      (suffix_of_skipGap closed).trans part⟩
  | case4 fuel read cs item rest found after goesOn =>
    obtain ⟨proper, part⟩ := (below fuel (Nat.lt_succ_self fuel)).of_value found
    refine Accounts.of_suffix (((skipGap_suffix after).trans (suffix_of_skipGap goesOn)).trans part) ?_
    exact (below fuel (Nat.lt_succ_self fuel)).items depth _
      (List.forall_mem_cons.mpr ⟨proper, earlier⟩)

theorem accounts_entries (depth : Nat) {read : List (Scalar × Json)} (cs : List Char)
    (earlier : ∀ entry ∈ read, Proper entry.2) :
    Accounts depth cs (entries depth fuel read cs) := by
  fun_cases entries depth fuel read cs with
  | case1 | case6 | case7 | case8 => trivial
  | case2 fuel read rest stop stopped =>
    exact (accounts_of_string stopped).of_suffix (List.suffix_cons _ _)
  | case3 fuel read rest key afterKey keyRead afterColon colon stop stopped =>
    have part := suffix_of_colon keyRead colon
    exact (stopped ▸ (below fuel (Nat.lt_succ_self fuel)).value depth _).of_suffix part
  | case4 fuel read rest key afterKey keyRead afterColon colon item afterItem found after closed =>
    have part := suffix_of_colon keyRead colon
    obtain ⟨proper, tail⟩ := (below fuel (Nat.lt_succ_self fuel)).of_value found
    have each : ∀ entry ∈ (.text key, item) :: read, Proper entry.2 :=
      List.forall_mem_cons.mpr ⟨proper, earlier⟩
    refine ⟨.dictionary (Dictionary.nodup_keys_ofList _) fun entry member => ?_,
      ((suffix_of_skipGap closed).trans tail).trans part⟩
    exact each entry (List.mem_reverse.mp (Dictionary.mem_of_mem_ofList member))
  | case5 fuel read rest key afterKey keyRead afterColon colon item afterItem found after goesOn =>
    have part := suffix_of_colon keyRead colon
    obtain ⟨proper, tail⟩ := (below fuel (Nat.lt_succ_self fuel)).of_value found
    have each : ∀ entry ∈ (.text key, item) :: read, Proper entry.2 :=
      List.forall_mem_cons.mpr ⟨proper, earlier⟩
    refine Accounts.of_suffix ((((skipGap_suffix after).trans (suffix_of_skipGap goesOn)).trans
      tail).trans part) ?_
    exact (below fuel (Nat.lt_succ_self fuel)).entries depth _ each

end

/-- What the reader tells, whatever its fuel. Every call inside one of the three functions has less
of it. -/
theorem readerAccounts (fuel : Nat) : ReaderAccounts fuel := by
  induction fuel using Nat.strongRecOn with
  | ind fuel below =>
    exact ⟨accounts_value below, fun depth _ => accounts_items below depth,
      fun depth _ => accounts_entries below depth⟩

/-! ## Whole texts -/

theorem accounts_document (depth : Nat) (cs : List Char) :
    Accounts depth cs ((document depth cs).map fun value => (value, [])) := by
  have accounts := ((readerAccounts (2 * cs.length + 2)).value depth (skipGap cs)).of_suffix
    (skipGap_suffix cs)
  unfold document
  split
  next => trivial
  next =>
    match value depth (2 * cs.length + 2) (skipGap cs), accounts with
    | .error stop, accounts => exact accounts
    | .ok (value, rest), accounts =>
      dsimp only
      split
      next => exact ⟨accounts.1, List.nil_suffix⟩
      next => trivial

/-- A value that is read has each key once in its dictionaries. A text with an integer that is too
long has that many digits in a row, a text with values nested too deeply opens more of them than
there may be levels, and a text with half a character has an escape for it. -/
theorem accounts_parse (depth : Nat) (words : String) :
    (∀ value, parse depth words = .ok value → Proper value) ∧
    (parse depth words = .error .longInteger → HasLongNumeral words.toList) ∧
    (parse depth words = .error .tooDeep → depth < openings words.toList) ∧
    (parse depth words = .error .unpaired → HasHalf words.toList) := by
  have accounts := accounts_document depth words.toList
  rw [parse]
  match document depth words.toList, accounts with
  | .ok held, accounts =>
    refine ⟨?_, by simp, by simp, by simp⟩
    rintro value ⟨⟩
    exact accounts.1
  | .error (.mistake found remaining), _ => simp [Stop.locate]
  | .error .longInteger, accounts => simpa [Stop.locate, Except.map, Accounts] using accounts
  | .error .tooDeep, accounts => simpa [Stop.locate, Except.map, Accounts] using accounts
  | .error .unpaired, accounts => simpa [Stop.locate, Except.map, Accounts] using accounts

end HtmlNesting.Json
