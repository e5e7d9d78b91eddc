import CoworkService.Json.Reader

/-!
# JSON values and their text

The frames the server writes are `json.Marshal` of structs and maps whose
leaves are strings, booleans, integers and `nil`.  `Value` is that tree,
`Value.write` the text `encoding/json` makes of it, and `readValue` the reader
of JSON text as Go's scanner and decoder read it, for these forms of value:
whitespace between tokens, the literals, integers, strings and objects.  No
frame holds an array or a number with a fraction or an exponent, and the
reader does not read them.

Every value reads back from its text, each string and member name with the
bytes that start no UTF-8 sequence read as U+FFFD (`Value.sanitize`), whatever
follows it, so that the text of a value is well formed and delimits itself.
-/

namespace CoworkService.Json

/-- A JSON value, an object's members in the order they are written. -/
inductive Value where
  | null
  | bool (value : Bool)
  | int (value : Int)
  | string (text : Bytes)
  | object (fields : List (Bytes × Value))

mutual
/-- The text `encoding/json` writes for a value. -/
def Value.write : Value → Bytes
  | .null => ascii "null"
  | .bool value => Json.bool value
  | .int value => Json.int value
  | .string text => quote text
  | .object fields => Json.object (Value.writeFields fields)
termination_by structural value => value

/-- Each member's name with the text of its value. -/
def Value.writeFields : List (Bytes × Value) → List (Bytes × Bytes)
  | [] => []
  | (key, value) :: fields => (key, value.write) :: Value.writeFields fields
termination_by structural fields => fields
end

mutual
/-- A value with each string and member name as the reader gets it back. -/
def Value.sanitize : Value → Value
  | .null => .null
  | .bool value => .bool value
  | .int value => .int value
  | .string text => .string (Json.sanitize text)
  | .object fields => .object (Value.sanitizeFields fields)
termination_by structural value => value

def Value.sanitizeFields : List (Bytes × Value) → List (Bytes × Value)
  | [] => []
  | (key, value) :: fields => (Json.sanitize key, value.sanitize) :: Value.sanitizeFields fields
termination_by structural fields => fields
end

mutual
/-- The values in a value, each member counted once more: fuel enough to read
it. -/
def Value.size : Value → Nat
  | .object fields => Value.sizeFields fields + 1
  | _ => 1
termination_by structural value => value

def Value.sizeFields : List (Bytes × Value) → Nat
  | [] => 0
  | (_, value) :: fields => value.size + Value.sizeFields fields + 1
termination_by structural fields => fields
end

mutual
/-- Every string and member name in a value is valid UTF-8. -/
def Value.valid : Value → Bool
  | .string text => utf8Valid text
  | .object fields => Value.validFields fields
  | _ => true
termination_by structural value => value

def Value.validFields : List (Bytes × Value) → Bool
  | [] => true
  | (key, value) :: fields => utf8Valid key && value.valid && Value.validFields fields
termination_by structural fields => fields
end

/-! ### The text of an object -/

/-- A member as `Json.object` writes it. -/
def member (field : Bytes × Bytes) : Bytes := quote field.1 ++ ascii ":" ++ field.2

/-- The text of an object after its `{`, from the member `field` on. -/
def membersText (field : Bytes × Bytes) : List (Bytes × Bytes) → Bytes
  | [] => member field ++ [0x7D]
  | next :: fields => member field ++ 0x2C :: membersText next fields

theorem intercalate_cons (separator first : Bytes) (others : List Bytes) :
    separator.intercalate (first :: others) = first ++ (others.map (separator ++ ·)).flatten := by
  induction others generalizing first with
  | nil => simp [List.intercalate]
  | cons second others ih =>
      rw [List.intercalate, List.intersperse_cons_cons, List.flatten_cons, List.flatten_cons,
        ← List.intercalate, ih]
      simp

theorem membersText_eq (field : Bytes × Bytes) (fields : List (Bytes × Bytes)) :
    membersText field fields =
      member field ++ (fields.map fun other => ascii "," ++ member other).flatten ++ [0x7D] := by
  induction fields generalizing field with
  | nil => simp [membersText]
  | cons next fields ih =>
      rw [membersText, ih]
      simp only [List.map_cons, List.flatten_cons, List.append_assoc]
      rfl

theorem object_cons (field : Bytes × Bytes) (fields : List (Bytes × Bytes)) :
    object (field :: fields) = 0x7B :: membersText field fields := by
  rw [membersText_eq, object, List.map_cons, intercalate_cons, List.map_map]
  simp only [member, List.append_assoc, Function.comp_def]
  rfl

/-! ### Reading -/

/-- The whitespace Go's scanner skips between tokens. -/
def whitespace (byte : UInt8) : Bool :=
  byte == 0x20 || byte == 0x09 || byte == 0x0A || byte == 0x0D

/-- The bytes after the whitespace at the front. -/
def skipSpace (bytes : Bytes) : Bytes := bytes.dropWhile whitespace

/-- An ASCII decimal digit. -/
def digit (byte : UInt8) : Bool := 0x30 ≤ byte.toNat && byte.toNat ≤ 0x39

/-- The digits at the front read onto `value`, and the bytes after them. -/
def readDigits (value : Nat) : Bytes → Nat × Bytes
  | byte :: rest =>
      if digit byte then readDigits (10 * value + (byte.toNat - 0x30)) rest
      else (value, byte :: rest)
  | [] => (value, [])

/-- `0`, or a digit from `1` to `9` and all the digits after it. -/
def readNatural : Bytes → Option (Nat × Bytes)
  | byte :: rest =>
      if byte = 0x30 then some (0, rest)
      else if digit byte then some (readDigits (byte.toNat - 0x30) rest)
      else none
  | [] => none

/-- An integer: an optional `-` and a natural number, with no fraction or
exponent. -/
def readInt : Bytes → Option (Int × Bytes)
  | byte :: rest =>
      if byte = 0x2D then (readNatural rest).map fun read => (-(read.1 : Int), read.2)
      else (readNatural (byte :: rest)).map fun read => ((read.1 : Int), read.2)
  | [] => none

/-- The rest of a literal whose first byte was read, and the bytes after it. -/
def readLiteral (word bytes : Bytes) : Option Bytes :=
  if bytes.take word.length = word then some (bytes.drop word.length) else none

/-- The members of an object after its `{`, at most `fuel` of them, each value
read by `item`: the members, and the bytes after the closing `}`. -/
def readMembers (item : Bytes → Option (Value × Bytes)) :
    Nat → Bytes → Option (List (Bytes × Value) × Bytes)
  | 0, _ => none
  | fuel + 1, bytes =>
      match readString (skipSpace bytes) with
      | none => none
      | some (key, afterKey) =>
          match skipSpace afterKey with
          | [] => none
          | colon :: afterColon =>
              if colon ≠ 0x3A then none
              else
                match item afterColon with
                | none => none
                | some (value, afterValue) =>
                    match skipSpace afterValue with
                    | [] => none
                    | next :: afterNext =>
                        if next = 0x2C then
                          (readMembers item fuel afterNext).map fun read =>
                            ((key, value) :: read.1, read.2)
                        else if next = 0x7D then some ([(key, value)], afterNext)
                        else none

/-- A value at the front, nested at most `fuel` deep: the value, and the bytes
after it. -/
def readValue : Nat → Bytes → Option (Value × Bytes)
  | 0, _ => none
  | fuel + 1, bytes =>
      match skipSpace bytes with
      | [] => none
      | byte :: rest =>
          if byte = 0x22 then (readString (byte :: rest)).map fun read => (.string read.1, read.2)
          else if byte = 0x7B then
            match skipSpace rest with
            | [] => none
            | close :: after =>
                if close = 0x7D then some (.object [], after)
                else
                  (readMembers (readValue fuel) fuel rest).map fun read => (.object read.1, read.2)
          else if byte = 0x6E then (readLiteral (ascii "ull") rest).map fun after => (.null, after)
          else if byte = 0x74 then
            (readLiteral (ascii "rue") rest).map fun after => (.bool true, after)
          else if byte = 0x66 then
            (readLiteral (ascii "alse") rest).map fun after => (.bool false, after)
          else (readInt (byte :: rest)).map fun read => (.int read.1, read.2)

/-- A whole text holding one value, whitespace around it allowed: the texts
`json.Unmarshal` accepts, read as a tree. -/
def decode (bytes : Bytes) : Option Value :=
  match readValue bytes.length bytes with
  | some (value, rest) => if skipSpace rest = [] then some value else none
  | none => none

example : decode (ascii " \x7b\"a\" : \x7b\"b\":null\x7d, \"c\":true \x7d\n") =
    some (.object [(ascii "a", .object [(ascii "b", .null)]), (ascii "c", .bool true)]) := rfl

/-! ### Reading back what is written -/

/-- What may follow a value: anything but a digit, which would continue an
integer. -/
def delimited : Bytes → Bool
  | byte :: _ => !digit byte
  | [] => true

theorem skipSpace_cons (byte : UInt8) {rest : Bytes} (solid : whitespace byte = false) :
    skipSpace (byte :: rest) = byte :: rest := by
  simp [skipSpace, List.dropWhile, solid]

theorem readDigits_append {rest : Bytes} (after : delimited rest = true) :
    ∀ (digits : List Nat) (value : Nat), (∀ d ∈ digits, d < 10) →
      readDigits value (digits.map digitByte ++ rest) =
        (digits.foldl (fun accumulated d => 10 * accumulated + d) value, rest)
  | [], value, _ => by
      cases rest with
      | nil => rfl
      | cons byte more =>
          simp only [delimited, Bool.not_eq_true'] at after
          simp [readDigits, after]
  | d :: digits, value, small => by
      have bound := small d (List.mem_cons_self _ _)
      have isDigit : digit (digitByte d) = true := by
        simp [digit, digitByte_toNat bound]; omega
      rw [List.map_cons, List.cons_append, readDigits, if_pos isDigit, digitByte_toNat bound,
        Nat.add_sub_cancel_left, readDigits_append after digits _
          fun other member => small other (List.mem_cons_of_mem _ member)]
      rfl

theorem digit_digitByte {value : Nat} (small : value < 10) : digit (digitByte value) = true := by
  simp [digit, digitByte_toNat small]; omega

theorem readNatural_formatDecimal {rest : Bytes} (after : delimited rest = true) (n : Nat) :
    readNatural (formatDecimal n ++ rest) = some (n, rest) := by
  obtain ⟨first, others, digits, positive⟩ := decimalDigits_cons n
  have small := decimalDigits_lt_ten n
  rw [digits] at small
  have firstSmall := small first (List.mem_cons_self _ _)
  rcases Nat.eq_zero_or_pos n with rfl | nonzero
  · have zero : decimalDigits 0 = [0] := by rw [decimalDigits]; rfl
    rw [formatDecimal, zero]
    rfl
  · have notZero : digitByte first ≠ 0x30 := fun same => by
      have := congrArg UInt8.toNat same
      rw [digitByte_toNat firstSmall] at this
      change 48 + first = 48 at this
      have := positive nonzero
      omega
    have value := digitsValue_decimalDigits n
    rw [digits] at value
    rw [formatDecimal, digits, List.map_cons, List.cons_append, readNatural, if_neg notZero,
      if_pos (digit_digitByte firstSmall), digitByte_toNat firstSmall, Nat.add_sub_cancel_left,
      readDigits_append after others first fun d member => small d (List.mem_cons_of_mem _ member)]
    simpa [digitsValue] using value

theorem readInt_int {rest : Bytes} (after : delimited rest = true) (value : Int) :
    readInt (int value ++ rest) = some (value, rest) := by
  cases value with
  | ofNat n =>
      obtain ⟨first, others, digits, -⟩ := decimalDigits_cons n
      have firstSmall := decimalDigits_lt_ten n first (by rw [digits]; exact List.mem_cons_self _ _)
      have notMinus : digitByte first ≠ 0x2D := fun same => by
        have := congrArg UInt8.toNat same
        rw [digitByte_toNat firstSmall] at this
        change 48 + first = 45 at this
        omega
      have read := readNatural_formatDecimal after n
      rw [formatDecimal, digits, List.map_cons, List.cons_append] at read
      rw [int, formatDecimal, digits, List.map_cons, List.cons_append, readInt, if_neg notMinus,
        read]
      rfl
  | negSucc n =>
      rw [int, List.append_assoc]
      show readInt (0x2D :: (formatDecimal (n + 1) ++ rest)) = _
      rw [readInt, if_pos rfl, readNatural_formatDecimal after]
      rfl

/-- One member, its value read by `item`, then the byte after it. -/
theorem readMembers_member {item : Bytes → Option (Value × Bytes)} {key text after : Bytes}
    {value : Value} {separator : UInt8} (solid : whitespace separator = false)
    (reads : item (text ++ separator :: after) = some (value, separator :: after)) (fuel : Nat) :
    readMembers item (fuel + 1) (member (key, text) ++ separator :: after) =
      if separator = 0x2C then
        (readMembers item fuel after).map fun read => ((sanitize key, value) :: read.1, read.2)
      else if separator = 0x7D then some ([(sanitize key, value)], after)
      else none := by
  have named : member (key, text) ++ separator :: after =
      quote key ++ 0x3A :: (text ++ separator :: after) := by
    simp only [member, List.append_assoc]; rfl
  rw [named, readMembers, quote_append, skipSpace_cons 0x22 rfl, ← quote_append, readString_quote]
  simp only [skipSpace_cons 0x3A rfl, ne_eq, not_true_eq_false, if_false, reads,
    skipSpace_cons separator solid]

/-- The members `Json.object` writes, each value read back by `item`. -/
theorem readMembers_write {item : Bytes → Option (Value × Bytes)} :
    ∀ (key : Bytes) (value : Value) (fields : List (Bytes × Value)) (fuel : Nat) (rest : Bytes),
      fields.length < fuel →
      (∀ field ∈ (key, value) :: fields, ∀ after, delimited after = true →
        item (field.2.write ++ after) = some (field.2.sanitize, after)) →
      readMembers item fuel (membersText (key, value.write) (Value.writeFields fields) ++ rest) =
        some (Value.sanitizeFields ((key, value) :: fields), rest)
  | _, _, _, 0, _, enough, _ => absurd enough (Nat.not_lt_zero _)
  | key, value, [], fuel + 1, rest, _, reads => by
      have read := reads (key, value) (List.mem_cons_self _ _) (0x7D :: rest) rfl
      simp only [membersText, Value.writeFields, List.append_assoc, List.singleton_append]
      rw [readMembers_member (show whitespace 0x7D = false from rfl) read]
      rfl
  | key, value, (next, nextValue) :: fields, fuel + 1, rest, enough, reads => by
      have read := reads (key, value) (List.mem_cons_self _ _)
        (0x2C :: (membersText (next, nextValue.write) (Value.writeFields fields) ++ rest)) rfl
      simp only [membersText, Value.writeFields, List.append_assoc, List.cons_append]
      rw [readMembers_member (show whitespace 0x2C = false from rfl) read, if_pos rfl,
        readMembers_write next nextValue fields fuel rest
        (by simp only [List.length_cons] at enough; omega)
        (fun field member => reads field (List.mem_cons_of_mem _ member))]
      rfl

theorem length_le_sizeFields :
    ∀ fields : List (Bytes × Value), fields.length ≤ Value.sizeFields fields
  | [] => le_rfl
  | (_, _) :: fields => by
      have := length_le_sizeFields fields
      simp only [List.length_cons, Value.sizeFields]; omega

/-- What an integer's text starts with: `-` or a digit. -/
def Opens (byte : UInt8) : Prop := byte = 0x2D ∨ ∃ value < 10, byte = digitByte value

theorem int_cons (value : Int) : ∃ byte bytes, int value = byte :: bytes ∧ Opens byte := by
  cases value with
  | ofNat n =>
      obtain ⟨first, others, digits, -⟩ := decimalDigits_cons n
      have small := decimalDigits_lt_ten n first (by rw [digits]; exact List.mem_cons_self _ _)
      exact ⟨_, _, by rw [int, formatDecimal, digits, List.map_cons], .inr ⟨first, small, rfl⟩⟩
  | negSucc n => exact ⟨_, _, rfl, .inl rfl⟩

theorem readValue_number {byte : UInt8} {bytes : Bytes} (opens : Opens byte) (fuel : Nat) :
    readValue (fuel + 1) (byte :: bytes) =
      (readInt (byte :: bytes)).map fun read => (.int read.1, read.2) := by
  have facts : whitespace byte = false ∧ byte ≠ 0x22 ∧ byte ≠ 0x7B ∧ byte ≠ 0x6E ∧
      byte ≠ 0x74 ∧ byte ≠ 0x66 := by
    rcases opens with rfl | ⟨value, small, rfl⟩
    · decide
    · revert value; decide
  obtain ⟨solid, quote, brace, n, t, f⟩ := facts
  simp only [readValue, skipSpace_cons byte solid, if_neg quote, if_neg brace, if_neg n, if_neg t,
    if_neg f]

theorem readValue_quote (fuel : Nat) (bytes : Bytes) :
    readValue (fuel + 1) (0x22 :: bytes) =
      (readString (0x22 :: bytes)).map fun read => (.string read.1, read.2) := rfl

theorem readValue_object (fuel : Nat) (field : Bytes × Bytes) (fields : List (Bytes × Bytes))
    (rest : Bytes) :
    readValue (fuel + 1) (0x7B :: (membersText field fields ++ rest)) =
      (readMembers (readValue fuel) fuel (membersText field fields ++ rest)).map fun read =>
        (.object read.1, read.2) := by
  obtain ⟨tail, opens⟩ : ∃ tail, membersText field fields ++ rest = 0x22 :: tail :=
    ⟨_, by
      rw [membersText_eq]
      simp only [member, List.append_assoc, quote_append, List.cons_append]
      rfl⟩
  rw [opens]
  rfl

theorem Value.size_pos (value : Value) : 0 < value.size := by
  cases value <;> simp [Value.size]

mutual
/-- Every value reads back from its text, whatever follows that does not
continue an integer. -/
theorem readValue_write : ∀ (value : Value) (fuel : Nat) (rest : Bytes), value.size ≤ fuel →
    delimited rest = true → readValue fuel (value.write ++ rest) = some (value.sanitize, rest)
  | value, 0, _, enough, _ => absurd enough (Nat.not_le_of_lt value.size_pos)
  | .null, _ + 1, _, _, _ => rfl
  | .bool true, _ + 1, _, _, _ => rfl
  | .bool false, _ + 1, _, _, _ => rfl
  | .int value, fuel + 1, rest, _, after => by
      obtain ⟨byte, bytes, text, opens⟩ := int_cons value
      have read := readInt_int after value
      rw [text, List.cons_append] at read
      rw [Value.write, text, List.cons_append, readValue_number opens, read]
      rfl
  | .string text, fuel + 1, rest, _, _ => by
      rw [Value.write, quote_append, readValue_quote, ← quote_append, readString_quote]
      rfl
  | .object fields, fuel + 1, rest, enough, _ => by
      have reads := readFields_write fields fuel (by simp only [Value.size] at enough; omega)
      cases fields with
      | nil => rfl
      | cons field fields =>
          obtain ⟨key, value⟩ := field
          have counted := length_le_sizeFields ((key, value) :: fields)
          simp only [Value.size] at enough
          rw [Value.write, Value.writeFields, object_cons, List.cons_append, readValue_object,
            readMembers_write key value fields fuel rest (by simp at counted; omega) reads]
          rfl

theorem readFields_write : ∀ (fields : List (Bytes × Value)) (fuel : Nat),
    Value.sizeFields fields ≤ fuel → ∀ field ∈ fields, ∀ after, delimited after = true →
      readValue fuel (field.2.write ++ after) = some (field.2.sanitize, after)
  | [], _, _ => fun _ member => absurd member (List.not_mem_nil _)
  | (key, value) :: fields, fuel, enough => by
      simp only [Value.sizeFields] at enough
      intro field member after delimits
      rcases List.mem_cons.mp member with rfl | later
      · exact readValue_write value fuel after (by omega) delimits
      · exact readFields_write fields fuel (by omega) field later after delimits
end

theorem length_member (field : Bytes × Bytes) :
    (member field).length = (escapeString field.1).length + field.2.length + 3 := by
  simp only [member, List.length_append, length_quote, length_ascii]
  have : ":".length = 1 := rfl
  omega

theorem length_membersText (field : Bytes × Bytes) (fields : List (Bytes × Bytes)) :
    ((field :: fields).map fun field => field.2.length + 1).sum ≤
      (membersText field fields).length := by
  induction fields generalizing field with
  | nil =>
      simp only [membersText, List.length_append, length_member, List.map_cons, List.map_nil,
        List.sum_cons, List.sum_nil, List.length_singleton]
      omega
  | cons next fields ih =>
      have := ih next
      simp only [List.map_cons, List.sum_cons] at this ⊢
      simp only [membersText, List.length_append, List.length_cons, length_member]
      omega

mutual
/-- Every value's text is at least as long as the fuel its reading takes. -/
theorem size_le_length_write : ∀ value : Value, value.size ≤ value.write.length
  | .null => by decide
  | .bool value => by cases value <;> decide
  | .int value => by
      obtain ⟨_, _, text, -⟩ := int_cons value
      simp [Value.size, Value.write, text]
  | .string text => by simp [Value.size, Value.write, length_quote]
  | .object fields => by
      have counted := sizeFields_le_sum fields
      cases fields with
      | nil => decide
      | cons field fields =>
          have written := length_membersText (field.1, field.2.write) (Value.writeFields fields)
          simp only [Value.size, Value.write, Value.writeFields, object_cons,
            List.length_cons] at counted written ⊢
          omega

theorem sizeFields_le_sum : ∀ fields : List (Bytes × Value),
    Value.sizeFields fields ≤ ((Value.writeFields fields).map fun field => field.2.length + 1).sum
  | [] => le_rfl
  | (key, value) :: fields => by
      have := size_le_length_write value
      have := sizeFields_le_sum fields
      simp only [Value.sizeFields, Value.writeFields, List.map_cons, List.sum_cons]; omega
end

/-- The text of every value is one whole JSON text, and it reads back as the
value with its strings sanitized. -/
theorem decode_write (value : Value) : decode value.write = some value.sanitize := by
  have read := readValue_write value value.write.length [] (size_le_length_write value) rfl
  rw [List.append_nil] at read
  rw [decode, read]
  rfl

mutual
theorem sanitize_eq_self_iff_valid : ∀ value : Value, value.sanitize = value ↔ value.valid = true
  | .null | .bool _ | .int _ => iff_of_true rfl rfl
  | .string text => by simp [Value.sanitize, Value.valid, sanitize_eq_self_iff]
  | .object fields => by
      simp [Value.sanitize, Value.valid, sanitizeFields_eq_self_iff fields]

theorem sanitizeFields_eq_self_iff : ∀ fields : List (Bytes × Value),
    Value.sanitizeFields fields = fields ↔ Value.validFields fields = true
  | [] => iff_of_true rfl rfl
  | (key, value) :: fields => by
      simp [Value.sanitizeFields, Value.validFields, sanitize_eq_self_iff,
        sanitize_eq_self_iff_valid value, sanitizeFields_eq_self_iff fields, and_assoc]
end

/-- Every value the server writes is one whole JSON text that reads back as the
value, each byte that starts no UTF-8 sequence read as U+FFFD; it reads back
exactly as written if and only if its strings and member names are valid UTF-8. -/
theorem write_reads_back (value : Value) :
    decode value.write = some value.sanitize ∧
      (decode value.write = some value ↔ value.valid = true) := by
  rw [decode_write]
  exact ⟨rfl, Option.some_inj.trans (sanitize_eq_self_iff_valid value)⟩

end CoworkService.Json
