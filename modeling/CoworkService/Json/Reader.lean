import CoworkService.Json

/-!
# Reading back what `encoding/json` writes

The client reads each frame as JSON.  This file gives the reader of the JSON the
server writes, as Go's `encoding/json` reads it: the scanner's grammar (the
escapes `\" \\ \/ \b \f \n \r \t \u`, no raw control byte) and `unquote`'s
decoding (`\u` surrogate pairs joined, any other surrogate read as U+FFFD, and
each byte that starts no UTF-8 sequence read as U+FFFD).

A string the server writes reads back as its text with each byte that starts no
UTF-8 sequence replaced by U+FFFD, and exactly as its text when that is valid
UTF-8.
-/

namespace CoworkService.Json

/-! ### Runes -/

/-- U+FFFD in UTF-8. -/
def replacement : Bytes := [0xEF, 0xBF, 0xBD]

/-- `utf8.EncodeRune`; surrogates and values past U+10FFFF give U+FFFD. -/
def encodeRune (rune : Nat) : Bytes :=
  if rune < 0x80 then [UInt8.ofNat rune]
  else if rune < 0x800 then [UInt8.ofNat (0xC0 + rune / 64), UInt8.ofNat (0x80 + rune % 64)]
  else if 0xD800 ≤ rune ∧ rune < 0xE000 ∨ 0x10FFFF < rune then replacement
  else if rune < 0x10000 then
    [UInt8.ofNat (0xE0 + rune / 4096), UInt8.ofNat (0x80 + rune / 64 % 64),
      UInt8.ofNat (0x80 + rune % 64)]
  else
    [UInt8.ofNat (0xF0 + rune / 262144), UInt8.ofNat (0x80 + rune / 4096 % 64),
      UInt8.ofNat (0x80 + rune / 64 % 64), UInt8.ofNat (0x80 + rune % 64)]

/-- The text with each byte that starts no UTF-8 sequence replaced by U+FFFD,
over at most `fuel` more runes. -/
def sanitizeRunes : Nat → Bytes → Bytes
  | 0, _ | _, [] => []
  | fuel + 1, lead :: tail =>
      if lead.toNat < 0x80 then lead :: sanitizeRunes fuel tail
      else if runeWidth lead tail = 0 then replacement ++ sanitizeRunes fuel tail
      else
        lead :: tail.take (runeWidth lead tail - 1) ++
          sanitizeRunes fuel (tail.drop (runeWidth lead tail - 1))

/-- What a text becomes once each byte that starts no UTF-8 sequence is U+FFFD. -/
def sanitize (text : Bytes) : Bytes := sanitizeRunes text.length text

/-- `utf8.Valid` over at most `fuel` more runes. -/
def validRunes : Nat → Bytes → Bool
  | 0, _ | _, [] => true
  | fuel + 1, lead :: tail =>
      if lead.toNat < 0x80 then validRunes fuel tail
      else if runeWidth lead tail = 0 then false
      else validRunes fuel (tail.drop (runeWidth lead tail - 1))

/-- `utf8.Valid`. -/
def utf8Valid (text : Bytes) : Bool := validRunes text.length text

theorem sanitizeRunes_congr {fuel other : Nat} {text : Bytes} (enough : text.length ≤ fuel)
    (otherEnough : text.length ≤ other) : sanitizeRunes fuel text = sanitizeRunes other text := by
  induction fuel generalizing other text with
  | zero =>
      rw [List.length_eq_zero.mp (Nat.le_zero.mp enough)]
      cases other <;> rfl
  | succ fuel induction =>
      cases text with
      | nil => cases other <;> rfl
      | cons lead tail =>
          obtain ⟨other, rfl⟩ : ∃ smaller, other = smaller + 1 :=
            ⟨other - 1, by simp only [List.length_cons] at otherEnough; omega⟩
          simp only [List.length_cons, Nat.add_le_add_iff_right] at enough otherEnough
          have same : ∀ {rest : Bytes}, rest.length ≤ tail.length →
              sanitizeRunes fuel rest = sanitizeRunes other rest := fun shorter =>
            induction (shorter.trans enough) (shorter.trans otherEnough)
          simp only [sanitizeRunes, same le_rfl, same (List.length_drop _ tail ▸ Nat.sub_le _ _)]

theorem validRunes_congr {fuel other : Nat} {text : Bytes} (enough : text.length ≤ fuel)
    (otherEnough : text.length ≤ other) : validRunes fuel text = validRunes other text := by
  induction fuel generalizing other text with
  | zero =>
      rw [List.length_eq_zero.mp (Nat.le_zero.mp enough)]
      cases other <;> rfl
  | succ fuel induction =>
      cases text with
      | nil => cases other <;> rfl
      | cons lead tail =>
          obtain ⟨other, rfl⟩ : ∃ smaller, other = smaller + 1 :=
            ⟨other - 1, by simp only [List.length_cons] at otherEnough; omega⟩
          simp only [List.length_cons, Nat.add_le_add_iff_right] at enough otherEnough
          have same : ∀ {rest : Bytes}, rest.length ≤ tail.length →
              validRunes fuel rest = validRunes other rest := fun shorter =>
            induction (shorter.trans enough) (shorter.trans otherEnough)
          simp only [validRunes, same le_rfl, same (List.length_drop _ tail ▸ Nat.sub_le _ _)]

@[simp] theorem sanitize_nil : sanitize [] = [] := rfl

/-- The walk's turn on the rune at the front, with the rest sanitized again. -/
theorem sanitize_cons (lead : UInt8) (tail : Bytes) :
    sanitize (lead :: tail) =
      if lead.toNat < 0x80 then lead :: sanitize tail
      else if runeWidth lead tail = 0 then replacement ++ sanitize tail
      else
        lead :: tail.take (runeWidth lead tail - 1) ++
          sanitize (tail.drop (runeWidth lead tail - 1)) := by
  have dropped : ∀ count, (tail.drop count).length ≤ tail.length := fun count => by simp
  conv_lhs => rw [sanitize, List.length_cons, sanitizeRunes]
  simp only [sanitize, sanitizeRunes_congr le_rfl, sanitizeRunes_congr (dropped _) le_rfl]

theorem utf8Valid_cons (lead : UInt8) (tail : Bytes) :
    utf8Valid (lead :: tail) =
      if lead.toNat < 0x80 then utf8Valid tail
      else if runeWidth lead tail = 0 then false
      else utf8Valid (tail.drop (runeWidth lead tail - 1)) := by
  have dropped : ∀ count, (tail.drop count).length ≤ tail.length := fun count => by simp
  conv_lhs => rw [utf8Valid, List.length_cons, validRunes]
  simp only [utf8Valid, validRunes_congr le_rfl, validRunes_congr (dropped _) le_rfl]

/-- Once `utf8.DecodeRune` accepts a sequence, the bytes after it do not matter. -/
theorem runeWidth_append {lead : UInt8} {front : Bytes} (accepted : runeWidth lead front ≠ 0)
    (more : Bytes) : runeWidth lead (front ++ more) = runeWidth lead front := by
  unfold runeWidth at accepted ⊢
  generalize leadingByte lead.toNat = info at accepted ⊢
  obtain ⟨_ | size, low, high⟩ := info
  · simp at accepted
  rcases front with _ | ⟨second, _ | ⟨third, _ | ⟨fourth, rest⟩⟩⟩ <;>
    simp only [List.cons_append, List.nil_append] at accepted ⊢
  · exact absurd rfl accepted
  all_goals split_ifs at accepted ⊢ <;> first | rfl | exact absurd rfl accepted

/-- An accepted sequence is all there: its own bytes give the same width. -/
theorem runeWidth_take {lead : UInt8} {tail : Bytes} (accepted : runeWidth lead tail ≠ 0) :
    runeWidth lead (tail.take (runeWidth lead tail - 1)) = runeWidth lead tail ∧
      runeWidth lead tail ≤ tail.length + 1 := by
  unfold runeWidth at accepted ⊢
  generalize leadingByte lead.toNat = info at accepted ⊢
  obtain ⟨_ | size, low, high⟩ := info
  · simp at accepted
  rcases tail with _ | ⟨second, _ | ⟨third, _ | ⟨fourth, rest⟩⟩⟩
  · exact absurd rfl accepted
  all_goals
    simp only at accepted ⊢
    split_ifs at accepted ⊢ <;> simp_all

theorem runeWidth_take_append {lead : UInt8} {tail : Bytes} (accepted : runeWidth lead tail ≠ 0)
    (more : Bytes) :
    runeWidth lead (tail.take (runeWidth lead tail - 1) ++ more) = runeWidth lead tail := by
  have own := (runeWidth_take accepted).1
  rw [runeWidth_append (by rw [own]; exact accepted), own]

/-- What `appendString` tests for U+2028 and U+2029. -/
theorem lineSeparator_eq_true {lead : UInt8} {tail : Bytes}
    (separator : lineSeparator lead tail = true) :
    lead = 0xE2 ∧ ∃ third more, tail = 0x80 :: third :: more ∧ (third = 0xA8 ∨ third = 0xA9) := by
  unfold lineSeparator at separator
  split at separator
  · simp only [Bool.and_eq_true, Bool.or_eq_true, beq_iff_eq] at separator
    obtain ⟨⟨rfl, rfl⟩, third⟩ := separator
    exact ⟨rfl, _, _, rfl, third⟩
  · contradiction

theorem length_le_length_sanitize (text : Bytes) : text.length ≤ (sanitize text).length := by
  match text with
  | [] => exact le_rfl
  | lead :: tail =>
      have := length_le_length_sanitize tail
      have := length_le_length_sanitize (tail.drop (runeWidth lead tail - 1))
      rw [sanitize_cons]
      split_ifs with below invalid
      · simp only [List.length_cons]; omega
      · simp only [replacement, List.length_append, List.length_cons]; omega
      · have := (runeWidth_take invalid).2
        simp only [List.length_cons, List.length_append, List.length_take, List.length_drop] at *
        omega
termination_by text.length
decreasing_by all_goals simp only [List.length_cons, List.length_drop]; omega

/-- Sanitizing changes a text exactly when it is not valid UTF-8. -/
theorem sanitize_eq_self_iff (text : Bytes) : sanitize text = text ↔ utf8Valid text = true := by
  match text with
  | [] => exact iff_of_true rfl rfl
  | lead :: tail =>
      rw [sanitize_cons, utf8Valid_cons]
      split_ifs with below invalid
      · rw [List.cons.injEq, eq_self_iff_true, true_and, sanitize_eq_self_iff tail]
      · refine iff_of_false (fun same => ?_) (by simp)
        have := congrArg List.length same
        have := length_le_length_sanitize tail
        simp only [replacement, List.length_append, List.length_cons] at *
        omega
      · conv_lhs => rhs; rw [← List.take_append_drop (runeWidth lead tail - 1) tail]
        rw [List.cons_append, List.cons.injEq, eq_self_iff_true, true_and,
          List.append_cancel_left_eq, sanitize_eq_self_iff]
termination_by text.length
decreasing_by all_goals simp only [List.length_cons, List.length_drop]; omega

/-! ### Strings -/

/-- The value of a hexadecimal digit of either case. -/
def hexValue (byte : UInt8) : Option Nat :=
  if 0x30 ≤ byte.toNat ∧ byte.toNat ≤ 0x39 then some (byte.toNat - 0x30)
  else if 0x61 ≤ byte.toNat ∧ byte.toNat ≤ 0x66 then some (byte.toNat - 0x57)
  else if 0x41 ≤ byte.toNat ∧ byte.toNat ≤ 0x46 then some (byte.toNat - 0x37)
  else none

/-- `getu4`: the code unit the four hexadecimal digits at the front stand for. -/
def hexUnit : Bytes → Option Nat
  | first :: second :: third :: fourth :: _ =>
      match hexValue first, hexValue second, hexValue third, hexValue fourth with
      | some first, some second, some third, some fourth =>
          some (((first * 16 + second) * 16 + third) * 16 + fourth)
      | _, _, _, _ => none
  | _ => none

/-- `utf16.IsSurrogate`. -/
def surrogate (unit : Nat) : Bool := 0xD800 ≤ unit && unit < 0xE000

/-- `utf16.DecodeRune`: the rune a high and a low surrogate stand for, `none`
where Go gives U+FFFD. -/
def surrogatePair (high low : Nat) : Option Nat :=
  if 0xD800 ≤ high ∧ high < 0xDC00 ∧ 0xDC00 ≤ low ∧ low < 0xE000 then
    some ((high - 0xD800) * 0x400 + (low - 0xDC00) + 0x10000)
  else none

/-- A `\u` escape, given the bytes after `\u`: the UTF-8 it stands for and the
bytes after it.  A surrogate followed by `\u` and the other half of a pair is
one rune; any other surrogate stands for U+FFFD and the escape after it is read
on its own. -/
def readUnicode (digits : Bytes) : Option (Bytes × Bytes) :=
  match hexUnit digits with
  | none => none
  | some unit =>
      if surrogate unit then
        match digits.drop 4 with
        | backslash :: letter :: more =>
            if backslash = 0x5C ∧ letter = 0x75 then
              match hexUnit more with
              | some low =>
                  match surrogatePair unit low with
                  | some rune => some (encodeRune rune, more.drop 4)
                  | none => some (replacement, digits.drop 4)
              | none => some (replacement, digits.drop 4)
            else some (replacement, digits.drop 4)
        | _ => some (replacement, digits.drop 4)
      else some (encodeRune unit, digits.drop 4)

/-- The byte a one-letter escape stands for. -/
def escaped (letter : UInt8) : Option UInt8 :=
  if letter = 0x22 ∨ letter = 0x5C ∨ letter = 0x2F then some letter
  else if letter = 0x62 then some 0x08
  else if letter = 0x66 then some 0x0C
  else if letter = 0x6E then some 0x0A
  else if letter = 0x72 then some 0x0D
  else if letter = 0x74 then some 0x09
  else none

/-- A piece read in front of what the rest of the reading gives. -/
def prepend (piece : Bytes) (read : Option (Bytes × Bytes)) : Option (Bytes × Bytes) :=
  read.map fun result => (piece ++ result.1, result.2)

/-- The bytes of a string after its opening quote, over at most `fuel` more
pieces: the text, and the bytes after the closing quote. -/
def readChars : Nat → Bytes → Option (Bytes × Bytes)
  | 0, _ | _, [] => none
  | fuel + 1, byte :: rest =>
      if byte = 0x22 then some ([], rest)
      else if byte = 0x5C then
        match rest with
        | letter :: more =>
            if letter = 0x75 then
              match readUnicode more with
              | some (piece, after) => prepend piece (readChars fuel after)
              | none => none
            else
              match escaped letter with
              | some decoded => prepend [decoded] (readChars fuel more)
              | none => none
        | [] => none
      else if byte.toNat < 0x20 then none
      else if byte.toNat < 0x80 then prepend [byte] (readChars fuel rest)
      else if runeWidth byte rest = 0 then prepend replacement (readChars fuel rest)
      else
        prepend (byte :: rest.take (runeWidth byte rest - 1))
          (readChars fuel (rest.drop (runeWidth byte rest - 1)))

/-- A string literal at the front: its text and the bytes after it. -/
def readString : Bytes → Option (Bytes × Bytes)
  | byte :: rest => if byte = 0x22 then readChars rest.length rest else none
  | [] => none

theorem readChars_plain {byte : UInt8} (fuel : Nat) (rest : Bytes) (quote : byte ≠ 0x22)
    (backslash : byte ≠ 0x5C) (printable : 0x20 ≤ byte.toNat) (below : byte.toNat < 0x80) :
    readChars (fuel + 1) (byte :: rest) = prepend [byte] (readChars fuel rest) := by
  simp only [readChars, if_neg quote, if_neg backslash, if_neg (Nat.not_lt.mpr printable),
    if_pos below]

theorem readChars_escape {letter decoded : UInt8} (fuel : Nat) (more : Bytes)
    (notUnicode : letter ≠ 0x75) (means : escaped letter = some decoded) :
    readChars (fuel + 1) (0x5C :: letter :: more) = prepend [decoded] (readChars fuel more) := by
  simp [readChars, notUnicode, means]

theorem readChars_unicode {more piece after : Bytes} (fuel : Nat)
    (read : readUnicode more = some (piece, after)) :
    readChars (fuel + 1) (0x5C :: 0x75 :: more) = prepend piece (readChars fuel after) := by
  simp [readChars, read]

/-- A byte of `0x80` or more starts a rune, or is read as U+FFFD. -/
theorem readChars_high {lead : UInt8} (fuel : Nat) (rest : Bytes) (high : 0x80 ≤ lead.toNat) :
    readChars (fuel + 1) (lead :: rest) =
      if runeWidth lead rest = 0 then prepend replacement (readChars fuel rest)
      else
        prepend (lead :: rest.take (runeWidth lead rest - 1))
          (readChars fuel (rest.drop (runeWidth lead rest - 1))) := by
  have quote : lead ≠ 0x22 := by rintro rfl; exact absurd high (by decide)
  have backslash : lead ≠ 0x5C := by rintro rfl; exact absurd high (by decide)
  simp only [readChars, if_neg quote, if_neg backslash, if_neg (show ¬lead.toNat < 0x20 by omega),
    if_neg (show ¬lead.toNat < 0x80 by omega)]

theorem hexValue_hexDigit : ∀ digit, digit < 16 → hexValue (hexDigit digit) = some digit := by
  decide

/-- `\u` and the four lower-case digits of a code unit outside the surrogates. -/
theorem readUnicode_hexDigits {unit : Nat} (outside : surrogate unit = false)
    (fits : unit < 0x10000) (rest : Bytes) :
    readUnicode ([hexDigit (unit / 4096), hexDigit (unit / 256 % 16), hexDigit (unit / 16 % 16),
      hexDigit (unit % 16)] ++ rest) = some (encodeRune unit, rest) := by
  have value : ((unit / 4096 * 16 + unit / 256 % 16) * 16 + unit / 16 % 16) * 16 + unit % 16 =
      unit := by omega
  simp only [readUnicode, hexUnit, List.cons_append, List.nil_append,
    hexValue_hexDigit _ (show unit / 4096 < 16 by omega),
    hexValue_hexDigit _ (show unit / 256 % 16 < 16 by omega),
    hexValue_hexDigit _ (show unit / 16 % 16 < 16 by omega),
    hexValue_hexDigit _ (show unit % 16 < 16 by omega), value, outside]
  rfl

theorem encodeRune_ascii {byte : UInt8} (below : byte.toNat < 0x80) :
    encodeRune byte.toNat = [byte] := by
  rw [encodeRune, if_pos below]
  exact congrArg (· :: []) (UInt8.toNat.inj (UInt8.toNat_ofNat_of_lt (below.trans (by decide))))

/-- Each byte below `0x80`, as `appendString` writes it, reads back as itself. -/
theorem readChars_escapeAscii {byte : UInt8} (below : byte.toNat < 0x80) (fuel : Nat)
    (rest : Bytes) :
    readChars (fuel + 1) (escapeAscii byte ++ rest) = prepend [byte] (readChars fuel rest) := by
  unfold escapeAscii
  split_ifs with safe quoted backspace formFeed newline carriage tab
  · simp only [htmlSafe, Bool.and_eq_true, decide_eq_true_eq, bne_iff_ne, ne_eq] at safe
    obtain ⟨⟨⟨⟨⟨⟨printable, -⟩, quote⟩, backslash⟩, -⟩, -⟩, -⟩ := safe
    exact readChars_plain fuel rest quote backslash printable below
  · rcases quoted with rfl | rfl <;> exact readChars_escape fuel rest (by decide) rfl
  · subst backspace; exact readChars_escape fuel rest (by decide) rfl
  · subst formFeed; exact readChars_escape fuel rest (by decide) rfl
  · subst newline; exact readChars_escape fuel rest (by decide) rfl
  · subst carriage; exact readChars_escape fuel rest (by decide) rfl
  · subst tab; exact readChars_escape fuel rest (by decide) rfl
  · have outside : surrogate byte.toNat = false := by simp [surrogate]; omega
    have digits : ascii "\\u00" ++ [hexDigit (byte.toNat / 16), hexDigit (byte.toNat % 16)] ++
        rest = 0x5C :: 0x75 :: ([hexDigit (byte.toNat / 4096), hexDigit (byte.toNat / 256 % 16),
          hexDigit (byte.toNat / 16 % 16), hexDigit (byte.toNat % 16)] ++ rest) := by
      rw [Nat.div_eq_of_lt (by omega : byte.toNat < 4096),
        Nat.div_eq_of_lt (by omega : byte.toNat < 256),
        Nat.mod_eq_of_lt (by omega : byte.toNat / 16 < 16)]
      rfl
    rw [digits, readChars_unicode fuel (readUnicode_hexDigits outside (by omega) rest),
      encodeRune_ascii below]

/-- `\ufffd`, written for each byte that starts no rune, reads as U+FFFD. -/
theorem readChars_replacement (fuel : Nat) (rest : Bytes) :
    readChars (fuel + 1) (ascii "\\ufffd" ++ rest) = prepend replacement (readChars fuel rest) :=
  readChars_unicode fuel (@readUnicode_hexDigits 0xFFFD rfl (by decide) rest)

/-- The escapes of U+2028 and U+2029 read as the separators themselves. -/
theorem readChars_lineSeparator {third : UInt8} (separator : third = 0xA8 ∨ third = 0xA9)
    (fuel : Nat) (rest : Bytes) :
    readChars (fuel + 1) (ascii "\\u202" ++ hexDigit (third.toNat % 16) :: rest) =
      prepend [0xE2, 0x80, third] (readChars fuel rest) := by
  rcases separator with rfl | rfl
  · exact readChars_unicode fuel (@readUnicode_hexDigits 0x2028 rfl (by decide) rest)
  · exact readChars_unicode fuel (@readUnicode_hexDigits 0x2029 rfl (by decide) rest)

/-- What `appendString` writes between the quotes, then the closing quote, reads
back as the text with each byte that starts no rune made U+FFFD. -/
theorem readChars_escapeString (rest : Bytes) :
    ∀ (fuel : Nat) (text : Bytes), text.length < fuel →
      readChars fuel (escapeString text ++ 0x22 :: rest) = some (sanitize text, rest)
  | 0, _, enough => absurd enough (Nat.not_lt_zero _)
  | _ + 1, [], _ => rfl
  | fuel + 1, lead :: tail, enough => by
      have shorter : ∀ count, (tail.drop count).length < fuel := fun count => by
        simp only [List.length_drop, List.length_cons] at enough ⊢; omega
      have read := readChars_escapeString rest fuel
      rw [escapeString_cons, sanitize_cons]
      split_ifs with below invalid separator
      · rw [List.append_assoc, readChars_escapeAscii below, read tail (shorter 0)]; rfl
      · rw [List.append_assoc, readChars_replacement, read tail (shorter 0)]; rfl
      · obtain ⟨rfl, third, more, rfl, separates⟩ := lineSeparator_eq_true separator
        have width : runeWidth 0xE2 (0x80 :: third :: more) = 3 := by
          rcases separates with rfl | rfl <;> rfl
        simp only [width, List.drop, List.headD, List.append_assoc, List.singleton_append,
          List.cons_append, List.nil_append]
        rw [readChars_lineSeparator separates, read more (shorter 2)]
        rfl
      · have high : 0x80 ≤ lead.toNat := by omega
        have taken : (tail.take (runeWidth lead tail - 1)).length = runeWidth lead tail - 1 := by
          have := (runeWidth_take invalid).2
          simp only [List.length_take]; omega
        simp only [List.cons_append, List.append_assoc]
        rw [readChars_high fuel _ high,
          runeWidth_take_append invalid, if_neg invalid, List.take_left' taken,
          List.drop_left' taken, read _ (shorter _)]
        rfl

theorem quote_append (text rest : Bytes) :
    quote text ++ rest = 0x22 :: (escapeString text ++ 0x22 :: rest) := by
  simp only [quote, List.append_assoc]; rfl

/-- A string the server writes reads back as its text, each byte that starts no
UTF-8 sequence read as U+FFFD. -/
theorem readString_quote (text rest : Bytes) :
    readString (quote text ++ rest) = some (sanitize text, rest) := by
  have enough : text.length < (escapeString text ++ 0x22 :: rest).length := by
    have := length_le_length_escapeString text
    simp only [List.length_append, List.length_cons]; omega
  rw [quote_append, readString, if_pos rfl]
  exact readChars_escapeString rest _ text enough

/-- The text reads back exactly as it was written if and only if it is valid UTF-8. -/
theorem readString_quote_eq_iff (text rest : Bytes) :
    readString (quote text ++ rest) = some (text, rest) ↔ utf8Valid text = true := by
  rw [readString_quote, Option.some.injEq, Prod.mk.injEq, and_iff_left rfl, sanitize_eq_self_iff]

example : readString (ascii "\"a\\u00e9\\ud83d\\ude00\\ud800b\"" ++ [0x2C]) =
    some ([0x61, 0xC3, 0xA9, 0xF0, 0x9F, 0x98, 0x80, 0xEF, 0xBF, 0xBD, 0x62], [0x2C]) := by
  decide

end CoworkService.Json
