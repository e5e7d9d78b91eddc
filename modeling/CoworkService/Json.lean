import CoworkService.Basic

/-!
# The JSON text `encoding/json` writes

Every frame the server sends is `json.Marshal` of a struct or a map whose
leaves are strings, booleans and integers.  This file gives those encoders
byte for byte as Go writes them: string escaping with `escapeHTML` set (what
`json.Marshal` uses), invalid UTF-8 replaced by the escape `\ufffd`, and objects with
their fields in declaration order.

The one general fact needed so far is that escaping never shortens a string.
-/

namespace CoworkService.Json

/-- Lower-case hexadecimal digit, Go's `hex` table. -/
def hexDigit (value : Nat) : UInt8 :=
  if value < 10 then UInt8.ofNat (48 + value) else UInt8.ofNat (87 + value)

/-- `htmlSafeSet`: the ASCII bytes copied unchanged when `escapeHTML` is set. -/
def htmlSafe (byte : UInt8) : Bool :=
  0x20 ≤ byte.toNat && byte.toNat < 0x80 && byte != 0x22 && byte != 0x5C &&
    byte != 0x3C && byte != 0x3E && byte != 0x26

/-- The ASCII branch of `appendString`: a byte below `utf8.RuneSelf`. -/
def escapeAscii (byte : UInt8) : Bytes :=
  if htmlSafe byte then [byte]
  else if byte = 0x5C ∨ byte = 0x22 then [0x5C, byte]
  else if byte = 0x08 then ascii "\\b"
  else if byte = 0x0C then ascii "\\f"
  else if byte = 0x0A then ascii "\\n"
  else if byte = 0x0D then ascii "\\r"
  else if byte = 0x09 then ascii "\\t"
  else ascii "\\u00" ++ [hexDigit (byte.toNat / 16), hexDigit (byte.toNat % 16)]

/-- `utf8.first` and `acceptRanges`: the length of the sequence a leading byte
announces, and the range its second byte must lie in.  Length `0` marks a byte
that starts no sequence. -/
def leadingByte (byte : Nat) : Nat × Nat × Nat :=
  if byte < 0xC2 then (0, 0, 0)
  else if byte ≤ 0xDF then (2, 0x80, 0xBF)
  else if byte = 0xE0 then (3, 0xA0, 0xBF)
  else if byte = 0xED then (3, 0x80, 0x9F)
  else if byte ≤ 0xEF then (3, 0x80, 0xBF)
  else if byte = 0xF0 then (4, 0x90, 0xBF)
  else if byte ≤ 0xF3 then (4, 0x80, 0xBF)
  else if byte = 0xF4 then (4, 0x80, 0x8F)
  else (0, 0, 0)

/-- A UTF-8 continuation byte, `locb ..= hicb`. -/
def continuation (byte : UInt8) : Bool :=
  0x80 ≤ byte.toNat && byte.toNat ≤ 0xBF

/-- The `size` of `utf8.DecodeRuneInString` on a sequence starting with a byte
of `0x80` or more, and `0` where it returns `(RuneError, 1)`. -/
def runeWidth (lead : UInt8) (tail : Bytes) : Nat :=
  match leadingByte lead.toNat, tail with
  | (0, _, _), _ => 0
  | _, [] => 0
  | (size, low, high), second :: tail =>
      if second.toNat < low ∨ high < second.toNat then 0
      else if size = 2 then 2
      else
        match tail with
        | [] => 0
        | third :: tail =>
            if !continuation third then 0
            else if size = 3 then 3
            else
              match tail with
              | [] => 0
              | fourth :: _ => if continuation fourth then 4 else 0

/-- U+2028 or U+2029, which `appendString` escapes although they are valid. -/
def lineSeparator (lead : UInt8) (tail : Bytes) : Bool :=
  match tail with
  | second :: third :: _ => lead == 0xE2 && second == 0x80 && (third == 0xA8 || third == 0xA9)
  | _ => false

/-- The loop of `appendString(dst, src, true)` over at most `fuel` more runes;
each rune takes at least one byte, so the length of `src` is fuel enough.  A
byte that starts no UTF-8 sequence is written as the escape `\ufffd`; Go
versions that write the three bytes of U+FFFD instead give a text that decodes
to the same value, and the results about what a reader gets back hold for
either. -/
def escapeRunes : Nat → Bytes → Bytes
  | 0, _ | _, [] => []
  | fuel + 1, lead :: tail =>
      if lead.toNat < 0x80 then escapeAscii lead ++ escapeRunes fuel tail
      else if runeWidth lead tail = 0 then ascii "\\ufffd" ++ escapeRunes fuel tail
      else if lineSeparator lead tail then
        ascii "\\u202" ++ [hexDigit (((tail.drop 1).headD 0).toNat % 16)] ++
          escapeRunes fuel (tail.drop 2)
      else
        lead :: tail.take (runeWidth lead tail - 1) ++
          escapeRunes fuel (tail.drop (runeWidth lead tail - 1))

/-- The body of `appendString(dst, src, true)`: the bytes between the quotes. -/
def escapeString (text : Bytes) : Bytes := escapeRunes text.length text

/-- A JSON string literal. -/
def quote (text : Bytes) : Bytes :=
  ascii "\"" ++ escapeString text ++ ascii "\""

/-- `true` or `false`. -/
def bool (value : Bool) : Bytes :=
  if value then ascii "true" else ascii "false"

/-- A Go `int` in decimal. -/
def int (value : Int) : Bytes :=
  match value with
  | .ofNat n => formatDecimal n
  | .negSucc n => ascii "-" ++ formatDecimal (n + 1)

/-- A JSON object from its keys and already encoded values, in the order Go
writes them (struct fields in declaration order, one-key maps as they are). -/
def object (fields : List (Bytes × Bytes)) : Bytes :=
  ascii "\x7b" ++ (ascii ",").intercalate
    (fields.map fun field => quote field.1 ++ ascii ":" ++ field.2) ++ ascii "\x7d"

theorem length_escapeAscii_pos (byte : UInt8) : 1 ≤ (escapeAscii byte).length := by
  unfold escapeAscii
  repeat' split
  all_goals simp only [List.length_cons, List.length_nil, List.length_append, length_ascii]
  all_goals decide

theorem escapeRunes_congr {fuel other : Nat} {text : Bytes} (enough : text.length ≤ fuel)
    (otherEnough : text.length ≤ other) : escapeRunes fuel text = escapeRunes other text := by
  induction fuel generalizing other text with
  | zero =>
      rw [List.length_eq_zero.mp (Nat.le_zero.mp enough)]
      cases other <;> rfl
  | succ fuel induction =>
      cases text with
      | nil => cases other <;> rfl
      | cons lead tail =>
          obtain ⟨other, rfl⟩ : ∃ smaller, other = smaller + 1 :=
            ⟨other - 1, by simp only [List.length_cons] at otherEnough; omega⟩
          simp only [List.length_cons, Nat.add_le_add_iff_right] at enough otherEnough
          have same : ∀ {rest : Bytes}, rest.length ≤ tail.length →
              escapeRunes fuel rest = escapeRunes other rest := fun shorter =>
            induction (shorter.trans enough) (shorter.trans otherEnough)
          simp only [escapeRunes, same le_rfl, same (List.length_drop _ tail ▸ Nat.sub_le _ _)]

theorem escapeRunes_eq_escapeString {fuel : Nat} {text : Bytes} (enough : text.length ≤ fuel) :
    escapeRunes fuel text = escapeString text :=
  escapeRunes_congr enough le_rfl

@[simp] theorem escapeString_nil : escapeString [] = [] := rfl

/-- The loop's turn on the rune at the front, with the rest escaped by
`escapeString` again. -/
theorem escapeString_cons (lead : UInt8) (tail : Bytes) :
    escapeString (lead :: tail) =
      if lead.toNat < 0x80 then escapeAscii lead ++ escapeString tail
      else if runeWidth lead tail = 0 then ascii "\\ufffd" ++ escapeString tail
      else if lineSeparator lead tail then
        ascii "\\u202" ++ [hexDigit (((tail.drop 1).headD 0).toNat % 16)] ++
          escapeString (tail.drop 2)
      else
        lead :: tail.take (runeWidth lead tail - 1) ++
          escapeString (tail.drop (runeWidth lead tail - 1)) := by
  have dropped : ∀ count, (tail.drop count).length ≤ tail.length := fun count => by
    simp
  conv_lhs => rw [escapeString, List.length_cons, escapeRunes]
  simp only [escapeRunes_eq_escapeString le_rfl, escapeRunes_eq_escapeString (dropped _)]

theorem length_le_length_escapeRunes (fuel : Nat) (text : Bytes) :
    min text.length fuel ≤ (escapeRunes fuel text).length := by
  induction fuel generalizing text with
  | zero => simp
  | succ fuel induction =>
      cases text with
      | nil => simp [escapeRunes]
      | cons lead tail =>
          have shorter : ∀ count, min (tail.drop count).length fuel + count ≥
              min tail.length fuel := fun count => by
            simp only [List.length_drop]
            omega
          have := length_escapeAscii_pos lead
          simp only [escapeRunes]
          split
          · have := induction tail
            simp only [List.length_append, List.length_cons]
            omega
          split
          · have := induction tail
            simp only [List.length_append, List.length_cons, length_ascii]
            have : "\\ufffd".length = 6 := rfl
            omega
          split
          · have := induction (tail.drop 2)
            have := shorter 2
            simp only [List.length_append, List.length_cons, length_ascii, List.length_drop] at *
            have : "\\u202".length = 5 := rfl
            omega
          · rename_i valid _
            have := induction (tail.drop (runeWidth lead tail - 1))
            have := shorter (runeWidth lead tail - 1)
            simp only [List.length_append, List.length_cons, List.length_take,
              List.length_drop] at *
            omega

/-- Escaping never shortens: every input byte stands for at least one output
byte. -/
theorem length_le_length_escapeString (text : Bytes) :
    text.length ≤ (escapeString text).length := by
  simpa using length_le_length_escapeRunes text.length text

theorem length_quote (text : Bytes) : (quote text).length = (escapeString text).length + 2 := by
  simp only [quote, List.length_append, length_ascii]
  have : "\"".length = 1 := rfl
  omega

theorem mem_intersperse_of_mem {α : Type} {separator item : α} :
    ∀ {items : List α}, item ∈ items → item ∈ items.intersperse separator
  | [_], member => member
  | _ :: _ :: _, member => by
      rcases List.mem_cons.mp member with rfl | later
      · exact List.mem_cons_self _ _
      · exact List.mem_cons_of_mem _ (List.mem_cons_of_mem _ (mem_intersperse_of_mem later))

/-- Every encoded value stands whole inside its object. -/
theorem length_le_length_object {key value : Bytes} {fields : List (Bytes × Bytes)}
    (member : (key, value) ∈ fields) : value.length ≤ (object fields).length := by
  have inside : quote key ++ ascii ":" ++ value ∈
      (fields.map fun field => quote field.1 ++ ascii ":" ++ field.2) :=
    List.mem_map_of_mem _ member
  have bound := (List.infix_of_mem_flatten
    (@mem_intersperse_of_mem _ (ascii ",") _ _ inside)).length_le
  simp only [object, List.intercalate, List.length_append] at bound ⊢
  omega

theorem one_le_length_object (fields : List (Bytes × Bytes)) : 1 ≤ (object fields).length := by
  simp only [object, List.length_append, length_ascii]
  have : "\x7b".length = 1 := rfl
  omega

example : escapeString (ascii "a\"<\n") = ascii "a\\\"\\u003c\\n" := by decide

end CoworkService.Json
