import CoworkService.Json.Value

/-!
# Go's JSON scanner

`json.Unmarshal` runs `checkValid` before it decodes anything: the scanner's
state machine over the whole text, which accepts one value with whitespace
around it, nested at most `maxNestingDepth` deep.  Here the scanner is a reader
that skips a value and collects the texts of the numbers in it, which the
decoder turns into `float64` where it stores a value into an `interface{}`.

A value is scanned the same whatever is put after it, as long as that does not
continue a number: the scanner never looks past the end of a value.
-/

namespace CoworkService.Json

/-- The limit on the scanner's stack of open objects and arrays. -/
def maxNestingDepth : Nat := 10000

/-! ### Numbers -/

/-- At least one digit, and all the digits after it: the bytes after them. -/
def skipDigits : Bytes → Option Bytes
  | byte :: rest => if digit byte then some (rest.dropWhile digit) else none
  | [] => none

/-- An optional exponent (`stateE`, `stateESign`, `stateE0`): `e` or `E`, an
optional sign, and digits. -/
def skipExponent : Bytes → Option Bytes
  | letter :: rest =>
      if letter = 0x65 ∨ letter = 0x45 then
        match rest with
        | sign :: more =>
            if sign = 0x2B ∨ sign = 0x2D then skipDigits more else skipDigits (sign :: more)
        | [] => none
      else some (letter :: rest)
  | [] => some []

/-- What follows the integer part (`state0`): an optional `.` and digits
(`stateDot`, `stateDot0`), then an optional exponent. -/
def skipFraction : Bytes → Option Bytes
  | dot :: rest =>
      if dot = 0x2E then (skipDigits rest).bind skipExponent else skipExponent (dot :: rest)
  | [] => some []

/-- The integer part (`state0`, `state1`): `0`, or a digit from `1` to `9` and
the digits after it; then the fraction and the exponent. -/
def skipInteger : Bytes → Option Bytes
  | first :: more =>
      if first = 0x30 then skipFraction more
      else if digit first then skipFraction (more.dropWhile digit)
      else none
  | [] => none

/-- A number: an optional `-` (`stateNeg`), then its integer part. -/
def skipNumber : Bytes → Option Bytes
  | byte :: rest => if byte = 0x2D then skipInteger rest else skipInteger (byte :: rest)
  | [] => none

/-! ### Values -/

/-- The members of an object after its `{`, at most `fuel` of them, each value
scanned by `item`: the numbers in the values, and the bytes after the `}`. -/
def scanMembers (item : Bytes → Option (List Bytes × Bytes)) :
    Nat → Bytes → Option (List Bytes × Bytes)
  | 0, _ => none
  | fuel + 1, bytes =>
      match readString (skipSpace bytes) with
      | none => none
      | some (_, afterKey) =>
          match skipSpace afterKey with
          | [] => none
          | colon :: afterColon =>
              if colon ≠ 0x3A then none
              else
                match item afterColon with
                | none => none
                | some (numbers, afterValue) =>
                    match skipSpace afterValue with
                    | [] => none
                    | next :: afterNext =>
                        if next = 0x2C then
                          (scanMembers item fuel afterNext).map fun read =>
                            (numbers ++ read.1, read.2)
                        else if next = 0x7D then some (numbers, afterNext)
                        else none

/-- The elements of an array after its `[`, at most `fuel` of them, each
scanned by `item`: the numbers in them, and the bytes after the `]`. -/
def scanElements (item : Bytes → Option (List Bytes × Bytes)) :
    Nat → Bytes → Option (List Bytes × Bytes)
  | 0, _ => none
  | fuel + 1, bytes =>
      match item bytes with
      | none => none
      | some (numbers, afterValue) =>
          match skipSpace afterValue with
          | [] => none
          | next :: afterNext =>
              if next = 0x2C then
                (scanElements item fuel afterNext).map fun read => (numbers ++ read.1, read.2)
              else if next = 0x5D then some (numbers, afterNext)
              else none

/-- A value after the whitespace in front of it, inside `depth` open objects and
arrays and nested at most `fuel` deep: the texts of the numbers in it, and the
bytes after it.  Opening an object or an array past `maxNestingDepth` fails. -/
def scanValue : Nat → Nat → Bytes → Option (List Bytes × Bytes)
  | 0, _, _ => none
  | fuel + 1, depth, bytes =>
      match skipSpace bytes with
      | [] => none
      | byte :: rest =>
          if byte = 0x22 then (readString (byte :: rest)).map fun read => ([], read.2)
          else if byte = 0x7B then
            if maxNestingDepth ≤ depth then none
            else
              match skipSpace rest with
              | [] => none
              | close :: after =>
                  if close = 0x7D then some ([], after)
                  else scanMembers (scanValue fuel (depth + 1)) fuel rest
          else if byte = 0x5B then
            if maxNestingDepth ≤ depth then none
            else
              match skipSpace rest with
              | [] => none
              | close :: after =>
                  if close = 0x5D then some ([], after)
                  else scanElements (scanValue fuel (depth + 1)) fuel rest
          else if byte = 0x6E then (readLiteral (ascii "ull") rest).map fun after => ([], after)
          else if byte = 0x74 then (readLiteral (ascii "rue") rest).map fun after => ([], after)
          else if byte = 0x66 then
            (readLiteral (ascii "alse") rest).map fun after => ([], after)
          else
            (skipNumber (byte :: rest)).map fun after =>
              ([(byte :: rest).take ((byte :: rest).length - after.length)], after)

/-- `checkValid`: the whole text is one value with only whitespace around it. -/
def checkValid (bytes : Bytes) : Bool :=
  match scanValue bytes.length 0 bytes with
  | some (_, rest) => (skipSpace rest).isEmpty
  | none => false

example : checkValid (ascii " [1.5e3, \x7b\"a\": [true, null]\x7d, \"x\\u00e9\", -0] ") = true ∧
    checkValid (ascii "[01]") = false ∧ checkValid (ascii "\x7b\"a\" 1\x7d") = false := by
  decide

/-! ### The scanner never reads past a value -/

/-- What may follow a value without changing how it is scanned: anything but a
digit, `.`, `e` or `E`, which would continue a number. -/
def stops : Bytes → Bool
  | byte :: _ => !(digit byte || byte == 0x2E || byte == 0x65 || byte == 0x45)
  | [] => true

/-- A reader that reads the same from a text with more put after it, provided
that, where the reader reached the end, the bytes put after do not continue a
number. -/
def Local (read : Bytes → Option Bytes) : Prop :=
  ∀ {bytes after : Bytes} (more : Bytes), read bytes = some after →
    (after = [] → stops more = true) → read (bytes ++ more) = some (after ++ more)

theorem dropWhile_digit_append {bytes more : Bytes} (stop : bytes.dropWhile digit = [] →
    stops more = true) :
    (bytes ++ more).dropWhile digit = bytes.dropWhile digit ++ more := by
  rw [List.dropWhile_append]
  split
  · next ended =>
    rw [List.isEmpty_iff.mp ended, List.nil_append]
    have := stop (List.isEmpty_iff.mp ended)
    cases more with
    | nil => rfl
    | cons byte rest =>
        simp only [stops, Bool.not_or, Bool.and_eq_true, Bool.not_eq_true'] at this
        simp [List.dropWhile, this.1.1.1]
  · rfl

theorem skipDigits_local : Local skipDigits := by
  intro bytes after more read stop
  cases bytes with
  | nil => cases read
  | cons byte rest =>
      simp only [skipDigits, Option.ite_none_right_eq_some, Option.some.injEq] at read
      obtain ⟨isDigit, rfl⟩ := read
      simp only [List.cons_append, skipDigits, isDigit, if_true,
        dropWhile_digit_append stop]

theorem skipExponent_local : Local skipExponent := by
  intro bytes after more read stop
  cases bytes with
  | nil =>
      cases read
      have := stop rfl
      cases more with
      | nil => rfl
      | cons byte rest =>
          simp only [stops, Bool.not_or, Bool.and_eq_true, Bool.not_eq_true', beq_eq_false_iff_ne,
            ne_eq] at this
          simp [skipExponent, this.2, this.1.2]
  | cons letter rest =>
      simp only [skipExponent, List.cons_append] at read ⊢
      split_ifs at read ⊢ with exponent
      · rcases rest with _ | ⟨sign, more'⟩
        · cases read
        · simp only [List.cons_append] at read ⊢
          split_ifs at read ⊢
          · exact skipDigits_local more read stop
          · exact skipDigits_local more read stop
      · cases read; rfl

theorem skipFraction_local : Local skipFraction := by
  intro bytes after more read stop
  cases bytes with
  | nil =>
      cases read
      have := stop rfl
      cases more with
      | nil => rfl
      | cons byte rest =>
          simp only [stops, Bool.not_or, Bool.and_eq_true, Bool.not_eq_true', beq_eq_false_iff_ne,
            ne_eq] at this
          simp [skipFraction, skipExponent, this.1.2, this.2, this.1.1.2]
  | cons dot rest =>
      simp only [skipFraction, List.cons_append] at read ⊢
      split_ifs at read ⊢
      · obtain ⟨digits, digitsRead, exponentRead⟩ := Option.bind_eq_some.mp read
        have digitsStop : digits = [] → stops more = true := by
          rintro rfl; cases exponentRead; exact stop rfl
        rw [skipDigits_local more digitsRead digitsStop]
        exact skipExponent_local more exponentRead stop
      · exact skipExponent_local more read stop

theorem skipNumber_local : Local skipNumber := by
  have integer : Local skipInteger := by
    intro bytes after more read stop
    cases bytes with
    | nil => cases read
    | cons first rest =>
        simp only [skipInteger, List.cons_append] at read ⊢
        split_ifs at read ⊢
        · exact skipFraction_local more read stop
        · rw [dropWhile_digit_append]
          · exact skipFraction_local more read stop
          · intro ended
            rw [ended] at read
            cases read
            exact stop rfl
  intro bytes after more read stop
  cases bytes with
  | nil => cases read
  | cons byte rest =>
      simp only [skipNumber, List.cons_append] at read ⊢
      split_ifs at read ⊢
      · exact integer more read stop
      · exact integer more read stop

/-! ### Strings -/

theorem leadingByte_low (byte : Nat) :
    (leadingByte byte).1 = 0 ∨ 0x80 ≤ (leadingByte byte).2.1 := by
  unfold leadingByte
  by_cases two : byte < 0xC2
  · rw [if_pos two]; exact .inl rfl
  rw [if_neg two]
  by_cases three : byte ≤ 0xDF
  · rw [if_pos three]; exact .inr le_rfl
  rw [if_neg three]
  split <;> [exact .inr (by decide); skip]
  split <;> [exact .inr le_rfl; skip]
  split <;> [exact .inr le_rfl; skip]
  split <;> [exact .inr (by decide); skip]
  split <;> [exact .inr le_rfl; skip]
  split <;> [exact .inr le_rfl; exact .inl rfl]

theorem runeWidth_append_quote {lead : UInt8} {tail : Bytes} (quoted : 0x22 ∈ tail)
    (more : Bytes) : runeWidth lead (tail ++ more) = runeWidth lead tail := by
  have bound := leadingByte_low lead.toNat
  have below : ∀ low, 0x80 ≤ low → (0x22 : UInt8).toNat < low :=
    fun _ bound => lt_of_lt_of_le (by decide) bound
  have outside : continuation 0x22 = false := by decide
  rcases tail with _ | ⟨second, _ | ⟨third, _ | ⟨fourth, rest⟩⟩⟩
  · cases quoted
  all_goals simp only [List.mem_cons, List.mem_singleton, List.not_mem_nil, or_false] at quoted
  all_goals simp only [List.cons_append, List.nil_append]
  all_goals unfold runeWidth
  all_goals generalize leadingByte lead.toNat = info at bound ⊢
  all_goals obtain ⟨_ | size, low, high⟩ := info
  all_goals try rfl
  all_goals replace bound : 0x80 ≤ low := bound.resolve_left (Nat.succ_ne_zero size)
  · subst quoted
    simp only [below low bound, true_or, if_true]
  · rcases quoted with rfl | rfl
    · simp only [below low bound, true_or, if_true]
    · cases more <;> simp only [outside, Bool.not_false, if_true]

theorem hexUnit_eq_none {digits : Bytes} (quoted : 0x22 ∈ digits.take 4) :
    hexUnit digits = none := by
  have quote : hexValue 0x22 = none := by decide
  rcases digits with _ | ⟨a, _ | ⟨b, _ | ⟨c, _ | ⟨d, rest⟩⟩⟩⟩
  all_goals try rfl
  simp only [List.take_succ_cons, List.take_zero, List.mem_cons, List.mem_singleton,
    List.not_mem_nil, or_false] at quoted
  simp only [hexUnit]
  split
  · rcases quoted with rfl | rfl | rfl | rfl <;> simp_all
  · rfl

theorem hexUnit_append {digits : Bytes} (quoted : 4 ≤ digits.length ∨ 0x22 ∈ digits)
    (more : Bytes) : hexUnit (digits ++ more) = hexUnit digits := by
  by_cases long : 4 ≤ digits.length
  · rcases digits with _ | ⟨a, _ | ⟨b, _ | ⟨c, _ | ⟨d, rest⟩⟩⟩⟩
    all_goals simp only [List.length_cons, List.length_nil] at long
    all_goals first | omega | rfl
  · have short : digits.take 4 = digits := List.take_of_length_le (by omega)
    have quote := quoted.resolve_left long
    have longer : 0x22 ∈ (digits ++ more).take 4 := by
      rw [List.take_append_eq_append_take, short]
      exact List.mem_append_left _ quote
    rw [hexUnit_eq_none longer, hexUnit_eq_none (by rw [short]; exact quote)]

theorem hexUnit_length {digits : Bytes} {unit : Nat} (read : hexUnit digits = some unit) :
    4 ≤ digits.length := by
  rcases digits with _ | ⟨a, _ | ⟨b, _ | ⟨c, _ | ⟨d, rest⟩⟩⟩⟩ <;>
    first | cases read | simp

theorem readUnicode_append {digits piece after : Bytes}
    (read : readUnicode digits = some (piece, after)) (quoted : 0x22 ∈ after) (more : Bytes) :
    readUnicode (digits ++ more) = some (piece, after ++ more) := by
  unfold readUnicode at read ⊢
  cases unitRead : hexUnit digits with
  | none => rw [unitRead] at read; cases read
  | some unit =>
    have long := hexUnit_length unitRead
    rw [unitRead] at read
    rw [hexUnit_append (.inl long), unitRead, List.drop_append_of_le_length long]
    simp only at read ⊢
    split_ifs at read ⊢
    · generalize digits.drop 4 = tail at read ⊢
      rcases tail with _ | ⟨b, _ | ⟨l, m⟩⟩
      · cases read; cases quoted
      · cases read
        obtain rfl : 0x22 = b := List.mem_singleton.mp quoted
        rcases more with _ | ⟨l, m⟩ <;> simp
      · simp only [List.cons_append] at read ⊢
        split_ifs at read ⊢ with escape
        · cases lowRead : hexUnit m with
          | some low =>
              rw [lowRead] at read
              rw [hexUnit_append (.inl (hexUnit_length lowRead)), lowRead,
                List.drop_append_of_le_length (hexUnit_length lowRead)]
              simp only at read ⊢
              split at read <;> cases read <;> simp_all
          | none =>
              rw [lowRead] at read
              cases read
              obtain ⟨rfl, rfl⟩ := escape
              have inDigits : 0x22 ∈ m := by simpa using quoted
              rw [hexUnit_append (.inr inDigits), lowRead]
              rfl
        · cases read; rfl
    · cases read; rfl

theorem prepend_eq_some {piece text after : Bytes} {read : Option (Bytes × Bytes)}
    (joined : prepend piece read = some (text, after)) :
    ∃ rest, read = some (rest, after) ∧ text = piece ++ rest := by
  obtain ⟨⟨rest, after'⟩, rfl, same⟩ := Option.map_eq_some'.mp joined
  cases same
  exact ⟨rest, rfl, rfl⟩

theorem readUnicode_suffix {digits piece after : Bytes}
    (read : readUnicode digits = some (piece, after)) : after <:+ digits := by
  unfold readUnicode at read
  split at read
  · cases read
  split_ifs at read
  · split at read
    · next more split =>
        have tail : more <:+ digits :=
          (List.suffix_cons _ _).trans
            ((List.suffix_cons _ _).trans (split ▸ List.drop_suffix 4 digits))
        split_ifs at read
        · split at read
          · split at read <;> cases read
            · exact (List.drop_suffix 4 more).trans tail
            · exact List.drop_suffix 4 digits
          · cases read; exact List.drop_suffix 4 digits
        · cases read; exact List.drop_suffix 4 digits
    · cases read; exact List.drop_suffix 4 digits
  · cases read; exact List.drop_suffix 4 digits

/-- A string is read up to a quote of its own, and reads the same with more
bytes put after it or with more fuel. -/
theorem readChars_append : ∀ {fuel : Nat} {bytes text after : Bytes},
    readChars fuel bytes = some (text, after) → 0x22 ∈ bytes ∧
      ∀ {fuel' : Nat} (more : Bytes), fuel ≤ fuel' →
        readChars fuel' (bytes ++ more) = some (text, after ++ more)
  | 0, _, _, _, read => by simp [readChars] at read
  | _ + 1, [], _, _, read => by simp [readChars] at read
  | fuel + 1, byte :: rest, text, after, read => by
      have more_fuel :
          ∀ {fuel'}, fuel + 1 ≤ fuel' → ∃ other, fuel' = other + 1 ∧ fuel ≤ other :=
        fun {fuel'} le => ⟨fuel' - 1, by omega, by omega⟩
      by_cases quote : byte = 0x22
      · subst quote
        simp only [readChars, if_true, Option.some.injEq, Prod.mk.injEq] at read
        obtain ⟨rfl, rfl⟩ := read
        refine ⟨List.mem_cons_self _ _, fun more le => ?_⟩
        obtain ⟨other, rfl, -⟩ := more_fuel le
        simp [readChars]
      by_cases backslash : byte = 0x5C
      · subst backslash
        rcases rest with _ | ⟨letter, digits⟩
        · simp [readChars] at read
        by_cases unicode : letter = 0x75
        · subst unicode
          cases unicodeRead : readUnicode digits with
          | none => simp [readChars, unicodeRead] at read
          | some piece =>
            obtain ⟨piece, middle⟩ := piece
            rw [readChars_unicode fuel unicodeRead] at read
            obtain ⟨tail, tailRead, rfl⟩ := prepend_eq_some read
            obtain ⟨quoted, shifted⟩ := readChars_append tailRead
            refine ⟨List.mem_cons_of_mem _ (List.mem_cons_of_mem _
              ((readUnicode_suffix unicodeRead).subset quoted)), fun more le => ?_⟩
            obtain ⟨other, rfl, enough⟩ := more_fuel le
            rw [List.cons_append, List.cons_append,
              readChars_unicode other (readUnicode_append unicodeRead quoted more),
              shifted more enough]
            rfl
        · cases means : escaped letter with
          | none => simp [readChars, unicode, means] at read
          | some decoded =>
            rw [readChars_escape fuel digits unicode means] at read
            obtain ⟨tail, tailRead, rfl⟩ := prepend_eq_some read
            obtain ⟨quoted, shifted⟩ := readChars_append tailRead
            refine ⟨List.mem_cons_of_mem _ (List.mem_cons_of_mem _ quoted), fun more le => ?_⟩
            obtain ⟨other, rfl, enough⟩ := more_fuel le
            rw [List.cons_append, List.cons_append, readChars_escape other _ unicode means,
              shifted more enough]
            rfl
      by_cases control : byte.toNat < 0x20
      · simp [readChars, quote, backslash, control] at read
      by_cases low : byte.toNat < 0x80
      · rw [readChars_plain fuel rest quote backslash (by omega) low] at read
        obtain ⟨tail, tailRead, rfl⟩ := prepend_eq_some read
        obtain ⟨quoted, shifted⟩ := readChars_append tailRead
        refine ⟨List.mem_cons_of_mem _ quoted, fun more le => ?_⟩
        obtain ⟨other, rfl, enough⟩ := more_fuel le
        rw [List.cons_append, readChars_plain other _ quote backslash (by omega) low,
          shifted more enough]
        rfl
      rw [readChars_high fuel rest (by omega)] at read
      split_ifs at read with invalid
      · obtain ⟨tail, tailRead, rfl⟩ := prepend_eq_some read
        obtain ⟨quoted, shifted⟩ := readChars_append tailRead
        refine ⟨List.mem_cons_of_mem _ quoted, fun more le => ?_⟩
        obtain ⟨other, rfl, enough⟩ := more_fuel le
        rw [List.cons_append, readChars_high other _ (by omega), runeWidth_append_quote quoted,
          if_pos invalid, shifted more enough]
        rfl
      · obtain ⟨tail, tailRead, rfl⟩ := prepend_eq_some read
        obtain ⟨quoted, shifted⟩ := readChars_append tailRead
        have inRest := List.mem_of_mem_drop quoted
        have fits := (runeWidth_take invalid).2
        refine ⟨List.mem_cons_of_mem _ inRest, fun more le => ?_⟩
        obtain ⟨other, rfl, enough⟩ := more_fuel le
        rw [List.cons_append, readChars_high other _ (by omega), runeWidth_append_quote inRest,
          if_neg invalid, List.take_append_of_le_length (by omega),
          List.drop_append_of_le_length (by omega), shifted more enough]
        rfl

theorem readString_append {bytes text after : Bytes}
    (read : readString bytes = some (text, after)) (more : Bytes) :
    readString (bytes ++ more) = some (text, after ++ more) := by
  rcases bytes with _ | ⟨byte, rest⟩
  · cases read
  simp only [readString, List.cons_append] at read ⊢
  split_ifs at read ⊢
  exact (readChars_append read).2 more (by simp)

theorem readLiteral_append {word bytes after : Bytes} (read : readLiteral word bytes = some after)
    (more : Bytes) : readLiteral word (bytes ++ more) = some (after ++ more) := by
  simp only [readLiteral, Option.ite_none_right_eq_some, Option.some.injEq] at read ⊢
  obtain ⟨spelled, rfl⟩ := read
  have long : word.length ≤ bytes.length := by
    rw [← spelled, List.length_take]; exact min_le_right _ _
  rw [List.take_append_of_le_length long, List.drop_append_of_le_length long]
  exact ⟨spelled, rfl⟩

theorem skipSpace_append {bytes : Bytes} (solid : skipSpace bytes ≠ []) (more : Bytes) :
    skipSpace (bytes ++ more) = skipSpace bytes ++ more := by
  simp only [skipSpace, List.dropWhile_append] at solid ⊢
  rw [if_neg (by simpa using solid)]

theorem ne_nil_of_skipSpace {bytes : Bytes} {byte : UInt8} {rest : Bytes}
    (solid : skipSpace bytes = byte :: rest) : bytes ≠ [] := by
  rintro rfl; cases solid

/-- An item scanned inside an object or an array scans the same with more put
after it, where it stopped short of the end. -/
def ItemLocal (item item' : Bytes → Option (List Bytes × Bytes)) : Prop :=
  ∀ {bytes after : Bytes} {numbers : List Bytes} (more : Bytes),
    item bytes = some (numbers, after) → after ≠ [] →
      item' (bytes ++ more) = some (numbers, after ++ more)

theorem scanMembers_append {item item' : Bytes → Option (List Bytes × Bytes)}
    (items : ItemLocal item item') (more : Bytes) :
    ∀ {fuel fuel' : Nat} {bytes after : Bytes} {numbers : List Bytes},
      scanMembers item fuel bytes = some (numbers, after) → fuel ≤ fuel' →
        scanMembers item' fuel' (bytes ++ more) = some (numbers, after ++ more)
  | 0, _, _, _, _, read, _ => by cases read
  | fuel + 1, fuel', bytes, after, numbers, read, le => by
      obtain ⟨other, rfl, enough⟩ : ∃ other, fuel' = other + 1 ∧ fuel ≤ other :=
        ⟨fuel' - 1, by omega, by omega⟩
      unfold scanMembers at read ⊢
      split at read
      · cases read
      next key afterKey keyRead =>
      have solid : skipSpace bytes ≠ [] := by rintro empty; rw [empty] at keyRead; cases keyRead
      rw [skipSpace_append solid, readString_append keyRead]
      dsimp only
      split at read
      · cases read
      next colon afterColon colonRead =>
      rw [skipSpace_append (by rw [colonRead]; simp), colonRead, List.cons_append]
      dsimp only
      split_ifs at read ⊢ with notColon
      split at read
      · cases read
      next numbers' afterValue valueRead =>
      split at read
      · cases read
      next next afterNext nextRead =>
      rw [items more valueRead (ne_nil_of_skipSpace nextRead)]
      dsimp only
      rw [skipSpace_append (by rw [nextRead]; simp), nextRead, List.cons_append]
      dsimp only
      split_ifs at read ⊢
      · obtain ⟨⟨numbers'', after'⟩, tailRead, same⟩ := Option.map_eq_some'.mp read
        cases same
        rw [scanMembers_append items more tailRead enough]
        rfl
      · cases read; rfl

theorem scanElements_append {item item' : Bytes → Option (List Bytes × Bytes)}
    (items : ItemLocal item item') (more : Bytes) :
    ∀ {fuel fuel' : Nat} {bytes after : Bytes} {numbers : List Bytes},
      scanElements item fuel bytes = some (numbers, after) → fuel ≤ fuel' →
        scanElements item' fuel' (bytes ++ more) = some (numbers, after ++ more)
  | 0, _, _, _, _, read, _ => by cases read
  | fuel + 1, fuel', bytes, after, numbers, read, le => by
      obtain ⟨other, rfl, enough⟩ : ∃ other, fuel' = other + 1 ∧ fuel ≤ other :=
        ⟨fuel' - 1, by omega, by omega⟩
      unfold scanElements at read ⊢
      split at read
      · cases read
      next numbers' afterValue valueRead =>
      split at read
      · cases read
      next next afterNext nextRead =>
      rw [items more valueRead (ne_nil_of_skipSpace nextRead)]
      dsimp only
      rw [skipSpace_append (by rw [nextRead]; simp), nextRead, List.cons_append]
      dsimp only
      split_ifs at read ⊢
      · obtain ⟨⟨numbers'', after'⟩, tailRead, same⟩ := Option.map_eq_some'.mp read
        cases same
        rw [scanElements_append items more tailRead enough]
        rfl
      · cases read; rfl

theorem take_sub_append (bytes after more : Bytes) :
    (bytes ++ more).take ((bytes ++ more).length - (after ++ more).length) =
      bytes.take (bytes.length - after.length) := by
  have within : bytes.length - after.length - bytes.length = 0 := by omega
  rw [List.length_append, List.length_append, Nat.add_sub_add_right,
    List.take_append_eq_append_take, within, List.take_zero, List.append_nil]

/-- A value scans the same with more put after it and with more fuel, provided
that, where the value reached the end, what is put after does not continue a
number. -/
theorem scanValue_append (more : Bytes) :
    ∀ {fuel fuel' depth : Nat} {bytes after : Bytes} {numbers : List Bytes},
      scanValue fuel depth bytes = some (numbers, after) → fuel ≤ fuel' →
        (after = [] → stops more = true) →
          scanValue fuel' depth (bytes ++ more) = some (numbers, after ++ more)
  | 0, _, _, _, _, _, read, _, _ => by simp [scanValue] at read
  | fuel + 1, fuel', depth, bytes, after, numbers, read, le, stop => by
      obtain ⟨other, rfl, enough⟩ : ∃ other, fuel' = other + 1 ∧ fuel ≤ other :=
        ⟨fuel' - 1, by omega, by omega⟩
      have items : ItemLocal (scanValue fuel (depth + 1)) (scanValue other (depth + 1)) :=
        fun more read ended => scanValue_append more read enough (absurd · ended)
      unfold scanValue at read ⊢
      split at read
      · cases read
      next byte rest spaceRead =>
      rw [skipSpace_append (by rw [spaceRead]; simp), spaceRead, List.cons_append]
      dsimp only
      by_cases quote : byte = 0x22
      · rw [if_pos quote] at read ⊢
        obtain ⟨⟨text, after'⟩, stringRead, same⟩ := Option.map_eq_some'.mp read
        cases same
        rw [← List.cons_append, readString_append stringRead]
        rfl
      rw [if_neg quote] at read ⊢
      by_cases object : byte = 0x7B
      · rw [if_pos object] at read ⊢
        split_ifs at read ⊢
        split at read
        · cases read
        next close after' closeRead =>
        rw [skipSpace_append (by rw [closeRead]; simp), closeRead, List.cons_append]
        dsimp only
        split_ifs at read ⊢
        · cases read; rfl
        · exact scanMembers_append items more read enough
      rw [if_neg object] at read ⊢
      by_cases array : byte = 0x5B
      · rw [if_pos array] at read ⊢
        split_ifs at read ⊢
        split at read
        · cases read
        next close after' closeRead =>
        rw [skipSpace_append (by rw [closeRead]; simp), closeRead, List.cons_append]
        dsimp only
        split_ifs at read ⊢
        · cases read; rfl
        · exact scanElements_append items more read enough
      rw [if_neg array] at read ⊢
      split_ifs at read ⊢
      all_goals obtain ⟨after', skipped, same⟩ := Option.map_eq_some'.mp read
      all_goals cases same
      · rw [readLiteral_append skipped]; rfl
      · rw [readLiteral_append skipped]; rfl
      · rw [readLiteral_append skipped]; rfl
      · rw [← List.cons_append, skipNumber_local more skipped stop, Option.map_some',
          take_sub_append]

/-! ### Objects -/

/-- A text that is one value inside an object, with no whitespace around it. -/
def isValue (raw : Bytes) : Bool :=
  match scanValue raw.length 1 raw with
  | some (_, []) => skipSpace raw == raw
  | _ => false

/-- The texts of the numbers in a value. -/
def numbersIn (raw : Bytes) : List Bytes := ((scanValue raw.length 1 raw).map Prod.fst).getD []

theorem isValue_scan {raw : Bytes} (value : isValue raw = true) {fuel : Nat}
    (enough : raw.length ≤ fuel) {more : Bytes} (stop : stops more = true) :
    scanValue fuel 1 (raw ++ more) = some (numbersIn raw, more) := by
  unfold isValue at value
  split at value
  · next numbers read =>
      rw [scanValue_append more read enough (fun _ => stop), List.nil_append]
      simp [numbersIn, read]
  · cases value

theorem isValue_skipSpace {raw : Bytes} (value : isValue raw = true) (more : Bytes) :
    skipSpace (raw ++ more) = raw ++ more := by
  unfold isValue at value
  split at value
  · next numbers read =>
      have trimmed : skipSpace raw = raw := by simpa using value
      have solid : skipSpace raw ≠ [] := by
        rintro empty
        rw [empty] at trimmed
        rw [← trimmed] at read
        simp [scanValue, skipSpace] at read
      rw [skipSpace_append solid, trimmed]
  · cases value

theorem scanValue_quote (fuel depth : Nat) (text rest : Bytes) :
    scanValue (fuel + 1) depth (quote text ++ rest) = some ([], rest) := by
  rw [quote_append]
  simp only [scanValue, skipSpace_cons 0x22 rfl, if_pos rfl]
  rw [← quote_append, readString_quote]
  rfl

theorem isValue_quote (text : Bytes) :
    isValue (quote text) = true ∧ numbersIn (quote text) = [] := by
  obtain ⟨tail, opens⟩ : ∃ tail, quote text = 0x22 :: tail :=
    ⟨_, by rw [← List.append_nil (quote text), quote_append]⟩
  have scanned : scanValue (0x22 :: tail).length 1 (0x22 :: tail) = some ([], []) := by
    simpa [opens] using scanValue_quote tail.length 1 text []
  rw [opens]
  exact ⟨by simp only [isValue, scanned, skipSpace_cons 0x22 rfl, beq_self_eq_true],
    by simp only [numbersIn, scanned, Option.map_some', Option.getD_some]⟩

theorem skipInteger_formatDecimal (n : Nat) : skipInteger (formatDecimal n) = some [] := by
  obtain ⟨first, others, digits, positive⟩ := decimalDigits_cons n
  have small := decimalDigits_lt_ten n
  rw [digits] at small
  have firstSmall := small first (List.mem_cons_self _ _)
  have rest : (others.map digitByte).dropWhile digit = [] :=
    List.dropWhile_eq_nil_iff.mpr fun byte member => by
      obtain ⟨d, later, rfl⟩ := List.mem_map.mp member
      exact digit_digitByte (small d (List.mem_cons_of_mem _ later))
  rw [formatDecimal, digits, List.map_cons, skipInteger]
  split_ifs with zero
  · have firstZero : first = 0 := by
      have := congrArg UInt8.toNat zero
      rw [digitByte_toNat firstSmall] at this
      exact Nat.add_left_cancel (n := 48) this
    obtain rfl : n = 0 := by
      by_contra nonzero
      exact absurd (positive (Nat.pos_of_ne_zero nonzero)) (by omega)
    have : decimalDigits 0 = [0] := by rw [decimalDigits]; rfl
    rw [this, List.cons.injEq] at digits
    rw [← digits.2]
    rfl
  · rw [rest]; rfl
  · exact absurd (digit_digitByte firstSmall) ‹_›

/-- A non-negative integer's text starts with a digit, not a `-`. -/
theorem formatDecimal_cons (n : Nat) :
    ∃ first others, formatDecimal n = digitByte first :: others ∧ digitByte first ≠ 0x2D := by
  obtain ⟨first, others, digits, -⟩ := decimalDigits_cons n
  have firstSmall := decimalDigits_lt_ten n first (by rw [digits]; exact List.mem_cons_self _ _)
  refine ⟨first, others.map digitByte, by rw [formatDecimal, digits, List.map_cons], ?_⟩
  intro same
  have := congrArg UInt8.toNat same
  rw [digitByte_toNat firstSmall] at this
  change 48 + first = 45 at this
  omega

theorem skipNumber_int (value : Int) : skipNumber (int value) = some [] := by
  cases value with
  | ofNat n =>
      obtain ⟨first, others, starts, notMinus⟩ := formatDecimal_cons n
      have whole := skipInteger_formatDecimal n
      rw [starts] at whole
      rw [int, starts, skipNumber, if_neg notMinus, whole]
  | negSucc n =>
      show skipNumber (0x2D :: formatDecimal (n + 1)) = _
      rw [skipNumber, if_pos rfl, skipInteger_formatDecimal]

theorem scanValue_number {byte : UInt8} {bytes : Bytes} (opens : Opens byte) (fuel depth : Nat) :
    scanValue (fuel + 1) depth (byte :: bytes) =
      (skipNumber (byte :: bytes)).map fun after =>
        ([(byte :: bytes).take ((byte :: bytes).length - after.length)], after) := by
  have facts : whitespace byte = false ∧ byte ≠ 0x22 ∧ byte ≠ 0x7B ∧ byte ≠ 0x5B ∧
      byte ≠ 0x6E ∧ byte ≠ 0x74 ∧ byte ≠ 0x66 := by
    rcases opens with rfl | ⟨value, small, rfl⟩
    · decide
    · revert value; decide
  obtain ⟨solid, quote, brace, bracket, n, t, f⟩ := facts
  simp only [scanValue, skipSpace_cons byte solid, if_neg quote, if_neg brace, if_neg bracket,
    if_neg n, if_neg t, if_neg f]

theorem isValue_int (value : Int) :
    isValue (int value) = true ∧ numbersIn (int value) = [int value] := by
  obtain ⟨byte, bytes, starts, opens⟩ := int_cons value
  have solid : whitespace byte = false := by
    rcases opens with rfl | ⟨digit, small, rfl⟩
    · rfl
    · exact (by decide : ∀ digit < 10, whitespace (digitByte digit) = false) digit small
  have scanned : scanValue (int value).length 1 (int value) = some ([int value], []) := by
    have number := skipNumber_int value
    rw [starts] at number ⊢
    rw [List.length_cons, scanValue_number opens, number]
    simp
  refine ⟨?_, by simp [numbersIn, scanned]⟩
  simp only [isValue, scanned]
  rw [starts, skipSpace_cons byte solid, beq_self_eq_true]

/-- One member, its value scanned by `item`, then the byte after it. -/
theorem scanMembers_member {item : Bytes → Option (List Bytes × Bytes)} {key text after : Bytes}
    {numbers : List Bytes} {separator : UInt8} (solid : whitespace separator = false)
    (reads : item (text ++ separator :: after) = some (numbers, separator :: after))
    (fuel : Nat) :
    scanMembers item (fuel + 1) (member (key, text) ++ separator :: after) =
      if separator = 0x2C then
        (scanMembers item fuel after).map fun read => (numbers ++ read.1, read.2)
      else if separator = 0x7D then some (numbers, after)
      else none := by
  have named : member (key, text) ++ separator :: after =
      quote key ++ 0x3A :: (text ++ separator :: after) := by
    simp only [member, List.append_assoc]; rfl
  rw [named, scanMembers, quote_append, skipSpace_cons 0x22 rfl, ← quote_append,
    readString_quote]
  simp only [skipSpace_cons 0x3A rfl, ne_eq, not_true_eq_false, if_false, reads,
    skipSpace_cons separator solid]

/-- The members `Json.object` writes, each value one value. -/
theorem scanMembers_membersText {fuel' : Nat} (rest : Bytes) :
    ∀ (field : Bytes × Bytes) (fields : List (Bytes × Bytes)) (fuel : Nat),
      fields.length < fuel →
      (∀ member ∈ field :: fields, isValue member.2 = true ∧ member.2.length ≤ fuel') →
      scanMembers (scanValue fuel' 1) fuel (membersText field fields ++ rest) =
        some (((field :: fields).map fun member => numbersIn member.2).flatten, rest)
  | _, _, 0, enough, _ => absurd enough (Nat.not_lt_zero _)
  | (key, text), [], fuel + 1, _, values => by
      obtain ⟨value, short⟩ := values _ (List.mem_cons_self _ _)
      simp only [membersText, List.append_assoc, List.singleton_append]
      rw [scanMembers_member (show whitespace 0x7D = false from rfl)
        (isValue_scan value short (show stops (0x7D :: rest) = true from rfl))]
      simp
  | (key, text), next :: fields, fuel + 1, enough, values => by
      obtain ⟨value, short⟩ := values _ (List.mem_cons_self _ _)
      simp only [membersText, List.append_assoc, List.cons_append]
      rw [scanMembers_member (show whitespace 0x2C = false from rfl)
          (isValue_scan value short (show stops (0x2C :: _) = true from rfl)), if_pos rfl,
        scanMembers_membersText rest next fields fuel (by simp at enough; omega)
          (fun member later => values member (List.mem_cons_of_mem _ later))]
      simp

theorem scanValue_object (fuel depth : Nat) (shallow : depth < maxNestingDepth)
    (field : Bytes × Bytes) (fields : List (Bytes × Bytes)) (rest : Bytes) :
    scanValue (fuel + 1) depth (object (field :: fields) ++ rest) =
      scanMembers (scanValue fuel (depth + 1)) fuel (membersText field fields ++ rest) := by
  obtain ⟨tail, opens⟩ : ∃ tail, membersText field fields ++ rest = 0x22 :: tail :=
    ⟨_, by
      rw [membersText_eq]
      simp only [member, List.append_assoc, quote_append, List.cons_append]
      rfl⟩
  rw [object_cons, List.cons_append, opens]
  simp only [scanValue, skipSpace_cons 0x7B rfl, skipSpace_cons 0x22 rfl,
    if_neg (Nat.not_le.mpr shallow)]
  rfl

theorem length_lt_membersText (field : Bytes × Bytes) (fields : List (Bytes × Bytes)) :
    fields.length < (membersText field fields).length ∧
      ∀ member ∈ field :: fields, member.2.length < (membersText field fields).length := by
  induction fields generalizing field with
  | nil =>
      simp only [membersText, List.length_append, length_member, List.length_singleton,
        List.length_nil, List.mem_singleton, forall_eq]
      omega
  | cons next fields ih =>
      obtain ⟨count, short⟩ := ih next
      simp only [membersText, List.length_append, List.length_cons, length_member]
      refine ⟨by omega, ?_⟩
      intro member later
      rcases List.mem_cons.mp later with rfl | later
      · omega
      · have := short member later; omega

/-- Go's scanner accepts every object whose members' values are each one value. -/
theorem checkValid_object (fields : List (Bytes × Bytes))
    (values : ∀ member ∈ fields, isValue member.2 = true) :
    checkValid (object fields) = true := by
  cases fields with
  | nil => rfl
  | cons field fields =>
      obtain ⟨count, short⟩ := length_lt_membersText field fields
      have scanned := scanMembers_membersText [] field fields _ count
        (fun member later => ⟨values member later, (short member later).le⟩)
      rw [checkValid, show (object (field :: fields)).length =
        (membersText field fields).length + 1 by simp [object_cons],
        ← List.append_nil (object _), scanValue_object _ 0 (by decide), scanned]
      rfl

end CoworkService.Json
