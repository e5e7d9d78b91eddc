import CoworkService.Json.Scanner

/-!
# Decoding into a struct

`json.Unmarshal(data, &v)` for a struct `v` runs `checkValid` first, then
stores the top-level value: `null` leaves `v` as it is, any value other than an
object is an `UnmarshalTypeError`, and an object's members are stored in order
(`d.object`) into the fields their names fold to (`foldName`, as in Go
1.21 to 1.26), unknown names skipped.  A member that does not fit its field
saves a type error, the first of which `Unmarshal` returns once the whole text is
decoded; the members after it are still stored.

The object loop is written once, for any struct: what a member does to the
struct is its `store` argument.  Then come the stores into a single `string`,
`int` or `bool` field (`literalStore`), and the structs whose fields all have
one of these types.  An object of strings decoded into such a struct gives each
field the text of the last member naming it and leaves a field no member names
as it was: `Unmarshal` reports neither a missing nor an unknown field.
-/

namespace CoworkService.Json

/-! ### Member names -/

/-- `foldName` of the rune at the front of a key, where it gives the ASCII byte
`upper`: the bytes after the rune.  Besides the ASCII letters of either case
only `İ` and `ı` fold to `I`, `ſ` to `S`, and the Kelvin sign to `K`, the first
two only from Go 1.21 to 1.26. -/
def foldFront (upper : UInt8) : Bytes → Option Bytes
  | byte :: rest =>
      if byte.toNat < 0x80 then (if upperByte byte = upper then some rest else none)
      else if upper = 0x49 ∧ (byte :: rest).take 2 ∈ [[0xC4, 0xB0], [0xC4, 0xB1]] ∨
          upper = 0x53 ∧ (byte :: rest).take 2 = [0xC5, 0xBF] then some (rest.drop 1)
      else if upper = 0x4B ∧ (byte :: rest).take 3 = [0xE2, 0x84, 0xAA] then some (rest.drop 2)
      else none
  | [] => none

/-- `foldName key` is the upper-case ASCII name `name`. -/
def foldsTo (key : Bytes) : Bytes → Bool
  | [] => key.isEmpty
  | upper :: name =>
      match foldFront upper key with
      | some rest => foldsTo rest name
      | none => false

/-- How `json.Unmarshal` fails. -/
inductive UnmarshalError where
  /-- `checkValid` rejects the text: a `*SyntaxError`. -/
  | invalid
  /-- A value of the wrong type for its field, or a number that does not fit
  it: an `*UnmarshalTypeError`. -/
  | type
  deriving DecidableEq, Repr

/-- The name of the error's type. -/
def UnmarshalError.text : UnmarshalError → Bytes
  | .invalid => ascii "SyntaxError"
  | .type => ascii "UnmarshalTypeError"

/-- What `d.object` does to a struct with one member, an error flag beside it:
from the member's key, the text of its value and the numbers in that text. -/
abbrev MemberStore (α : Type) := α × Bool → Bytes → Bytes → List Bytes → α × Bool

section Objects

variable {α β : Type} (store : β → Bytes → Bytes → List Bytes → β)

/-- `d.object` over the members of an object after its `{`, at most `fuel` of
them, on a text `checkValid` accepted: each value skipped by the scanner and
stored from its key, its text and the numbers in it. -/
def decodeObject : Nat → β → Bytes → β
  | 0, decoded, _ => decoded
  | fuel + 1, decoded, bytes =>
      match readString (skipSpace bytes) with
      | none => decoded
      | some (key, afterKey) =>
          match skipSpace afterKey with
          | [] => decoded
          | _ :: afterColon =>
              match scanValue (skipSpace afterColon).length 1 (skipSpace afterColon) with
              | none => decoded
              | some (numbers, afterValue) =>
                  match skipSpace afterValue with
                  | next :: afterNext =>
                      if next = 0x2C then
                        decodeObject fuel (store decoded key ((skipSpace afterColon).take
                          ((skipSpace afterColon).length - afterValue.length)) numbers) afterNext
                      else
                        store decoded key ((skipSpace afterColon).take
                          ((skipSpace afterColon).length - afterValue.length)) numbers
                  | [] => decoded

/-- `json.Unmarshal(payload, &v)` on a struct whose zero value is `zero`, the
flag `store` sets standing for the type error `d.saveError` keeps. -/
def unmarshalStruct (store : MemberStore α) (zero : α) (payload : Bytes) :
    α × Option UnmarshalError :=
  if checkValid payload then
    match skipSpace payload with
    | byte :: rest =>
        if byte = 0x7B then
          match decodeObject store payload.length (zero, false) rest with
          | (value, failed) => (value, if failed then some .type else none)
        else if byte = 0x6E then (zero, none)
        else (zero, some .type)
    | [] => (zero, none)
  else (zero, some .invalid)

/-- The members of an object stored in order, each key read back from its text. -/
def storeMembers (decoded : β) (members : List (Bytes × Bytes)) : β :=
  members.foldl (fun decoded member =>
    store decoded (sanitize member.1) member.2 (numbersIn member.2)) decoded

theorem storeMembers_append (decoded : β) (members later : List (Bytes × Bytes)) :
    storeMembers store decoded (members ++ later) =
      storeMembers store (storeMembers store decoded members) later :=
  List.foldl_append _ _ _ _

theorem take_length_sub (raw more : Bytes) :
    (raw ++ more).take ((raw ++ more).length - more.length) = raw := by
  simp

/-- One member, then the byte after it. -/
theorem decodeObject_member {key raw after : Bytes} {separator : UInt8}
    (value : isValue raw = true) (solid : whitespace separator = false)
    (stop : stops (separator :: after) = true) (fuel : Nat) (decoded : β) :
    decodeObject store (fuel + 1) decoded (member (key, raw) ++ separator :: after) =
      if separator = 0x2C then
        decodeObject store fuel (store decoded (sanitize key) raw (numbersIn raw)) after
      else store decoded (sanitize key) raw (numbersIn raw) := by
  have named : member (key, raw) ++ separator :: after =
      quote key ++ 0x3A :: (raw ++ separator :: after) := by
    simp only [member, List.append_assoc]; rfl
  rw [named, decodeObject, quote_append, skipSpace_cons 0x22 rfl, ← quote_append,
    readString_quote]
  simp only [skipSpace_cons 0x3A rfl]
  rw [isValue_skipSpace value, isValue_scan value (by simp) stop]
  simp only [skipSpace_cons separator solid, take_length_sub]

/-- The members `Json.object` writes are stored in order. -/
theorem decodeObject_membersText (rest : Bytes) :
    ∀ (field : Bytes × Bytes) (fields : List (Bytes × Bytes)) (fuel : Nat) (decoded : β),
      fields.length < fuel → (∀ member ∈ field :: fields, isValue member.2 = true) →
      decodeObject store fuel decoded (membersText field fields ++ rest) =
        storeMembers store decoded (field :: fields)
  | _, _, 0, _, enough, _ => absurd enough (Nat.not_lt_zero _)
  | (key, raw), [], fuel + 1, decoded, _, values => by
      simp only [membersText, List.append_assoc, List.singleton_append]
      rw [decodeObject_member store (values _ (List.mem_cons_self _ _))
        (show whitespace 0x7D = false from rfl) (show stops (0x7D :: rest) = true from rfl),
        if_neg (by decide)]
      rfl
  | (key, raw), next :: fields, fuel + 1, decoded, enough, values => by
      simp only [membersText, List.append_assoc, List.cons_append]
      rw [decodeObject_member store (values _ (List.mem_cons_self _ _))
          (show whitespace 0x2C = false from rfl) (show stops (0x2C :: _) = true from rfl),
        if_pos rfl, decodeObject_membersText rest next fields fuel _ (by simp at enough; omega)
          (fun member later => values member (List.mem_cons_of_mem _ later))]
      rfl

/-- `json.Unmarshal` of an object whose members' values are each one value:
the members stored in order, and a type error if one was saved. -/
theorem unmarshalStruct_object (store : MemberStore α)
    (zero : α) (fields : List (Bytes × Bytes))
    (values : ∀ member ∈ fields, isValue member.2 = true) :
    unmarshalStruct store zero (object fields) =
      ((storeMembers store (zero, false) fields).1,
        if (storeMembers store (zero, false) fields).2 then some .type else none) := by
  rw [unmarshalStruct, checkValid_object fields values, if_pos rfl]
  cases fields with
  | nil => rfl
  | cons field fields =>
      have count := (length_lt_membersText field fields).1
      rw [object_cons, skipSpace_cons 0x7B rfl]
      dsimp only
      rw [if_pos rfl, ← List.append_nil (membersText _ _),
        decodeObject_membersText store [] field fields _ _ (by simp; omega) values]

end Objects

/-! ### Literals stored into a field -/

/-- `literalStore` (with `d.object` and `d.array`) into a `string` field
holding `old`: a string's text, `null` leaving the field, and any other value a
type error. -/
def storeString (raw old : Bytes) : Bytes × Bool :=
  match readString raw with
  | some (text, _) => (text, false)
  | none => if raw.head? = some 0x6E then (old, false) else (old, true)

/-- `strconv.ParseUint(text, 10, 64)` before its range check: the value of a
non-empty run of decimal digits. -/
def parseDigits (text : Bytes) : Option Nat :=
  if text ≠ [] ∧ text.all digit then some (readDigits 0 text).1 else none

/-- The values of an `int64`. -/
def fitsInt64 (value : Int) : Prop := -2 ^ 63 ≤ value ∧ value < 2 ^ 63

instance (value : Int) : Decidable (fitsInt64 value) := inferInstanceAs (Decidable (_ ∧ _))

/-- `strconv.ParseInt(text, 10, 64)`: an optional sign, then digits whose value
fits an `int64`. -/
def parseInt : Bytes → Option Int
  | sign :: rest =>
      if sign = 0x2D then
        (parseDigits rest).bind fun value =>
          if value ≤ 2 ^ 63 then some (-(value : Int)) else none
      else
        (parseDigits (if sign = 0x2B then rest else sign :: rest)).bind fun value =>
          if value < 2 ^ 63 then some (value : Int) else none
  | [] => none

/-- `literalStore` into an `int` field holding `old`: a number `ParseInt`
reads, `null` leaving the field, and any other value, a number with a fraction,
an exponent or past `int64` included, a type error. -/
def storeInt (raw : Bytes) (old : Int) : Int × Bool :=
  if raw.head? = some 0x6E then (old, false)
  else
    match parseInt raw with
    | some value => (value, false)
    | none => (old, true)

/-- `literalStore` into a `bool` field holding `old`: `true` or `false`, `null`
leaving the field, and any other value a type error. -/
def storeBool (raw : Bytes) (old : Bool) : Bool × Bool :=
  if raw.head? = some 0x74 then (true, false)
  else if raw.head? = some 0x66 then (false, false)
  else if raw.head? = some 0x6E then (old, false)
  else (old, true)

example : storeInt (ascii "-9223372036854775808") 7 = (-9223372036854775808, false) ∧
    storeInt (ascii "9223372036854775808") 7 = (7, true) ∧
    storeInt (ascii "2e3") 7 = (7, true) ∧ storeInt (ascii "null") 7 = (7, false) ∧
    storeString (ascii "12") [0x41] = ([0x41], true) := by
  decide

theorem storeString_quote (text old : Bytes) :
    storeString (quote text) old = (sanitize text, false) := by
  rw [storeString, ← List.append_nil (quote text), readString_quote]

theorem formatDecimal_all_digit (n : Nat) : (formatDecimal n).all digit = true :=
  List.all_eq_true.mpr fun byte member => by
    obtain ⟨d, below, rfl⟩ := List.mem_map.mp member
    exact digit_digitByte (decimalDigits_lt_ten n d below)

theorem parseDigits_formatDecimal (n : Nat) : parseDigits (formatDecimal n) = some n := by
  obtain ⟨first, others, digits, -⟩ := decimalDigits_cons n
  have read := readDigits_append (show delimited ([] : Bytes) = true from rfl)
    (decimalDigits n) 0 (decimalDigits_lt_ten n)
  rw [List.append_nil] at read
  rw [parseDigits, if_pos ⟨by simp [formatDecimal, digits], formatDecimal_all_digit n⟩,
    formatDecimal, read]
  exact congrArg some (digitsValue_decimalDigits n)

theorem formatDecimal_head_digit (n : Nat) :
    ∃ first others, formatDecimal n = first :: others ∧ digit first = true := by
  obtain ⟨first, others, starts, -⟩ := formatDecimal_cons n
  have isDigit := formatDecimal_all_digit n
  rw [starts, List.all_cons, Bool.and_eq_true] at isDigit
  exact ⟨_, others, starts, isDigit.1⟩

/-- `ParseInt` reads back every `int` Go writes that fits an `int64`. -/
theorem parseInt_int (value : Int) :
    parseInt (int value) = if fitsInt64 value then some value else none := by
  unfold fitsInt64
  cases value with
  | ofNat n =>
      obtain ⟨first, others, starts, isDigit⟩ := formatDecimal_head_digit n
      have sign : first ≠ 0x2D ∧ first ≠ 0x2B := by
        constructor <;> rintro rfl <;> exact absurd isDigit (by decide)
      rw [int, starts, parseInt, if_neg sign.1, if_neg sign.2, ← starts,
        parseDigits_formatDecimal, Option.some_bind, Int.ofNat_eq_coe]
      by_cases fits : n < 2 ^ 63
      · rw [if_pos fits, if_pos ⟨by omega, by omega⟩]
      · rw [if_neg fits, if_neg (by omega)]
  | negSucc n =>
      show parseInt (0x2D :: formatDecimal (n + 1)) = _
      rw [parseInt, if_pos rfl, parseDigits_formatDecimal, Option.some_bind, Int.negSucc_eq]
      by_cases fits : n + 1 ≤ 2 ^ 63
      · rw [if_pos fits, if_pos ⟨by omega, by omega⟩]
        exact congrArg some (by omega)
      · rw [if_neg fits, if_neg (by omega)]

theorem storeInt_int (value old : Int) :
    storeInt (int value) old = if fitsInt64 value then (value, false) else (old, true) := by
  have notNull : (int value).head? ≠ some 0x6E := by
    cases value with
    | ofNat n =>
        obtain ⟨first, others, starts, isDigit⟩ := formatDecimal_head_digit n
        intro same
        rw [int, starts, List.head?_cons, Option.some.injEq] at same
        exact absurd (same ▸ isDigit) (by decide)
    | negSucc n => intro same; cases same
  rw [storeInt, if_neg notNull, parseInt_int]
  split_ifs <;> rfl

theorem storeBool_bool (value old : Bool) : storeBool (bool value) old = (value, false) := by
  cases value <;> rfl

/-! ### Structs of one field type -/

/-- `foldName` of an ASCII JSON name. -/
def foldedName (name : String) : Bytes := (ascii name).map upperByte

section Fields

variable {α : Type} [Inhabited α] (literal : Bytes → α → α × Bool) (names : List Bytes)

/-- The store of `d.object` into a struct whose fields all have the type `α`,
listed by their folded JSON names: a member goes into the first field its name
folds to (`byExactName` and `byFoldedName` agree when no two names fold alike,
as for every struct decoded here), where `literal` stores its value; a member no
field takes is skipped. -/
def storeField (decoded : List α × Bool) (key raw : Bytes) (_ : List Bytes) : List α × Bool :=
  match names.findIdx? (foldsTo key) with
  | some index =>
      match literal raw (decoded.1.getD index default) with
      | (value, failed) => (decoded.1.set index value, decoded.2 || failed)
  | none => decoded

/-- `json.Unmarshal(params, &p)` into such a struct, its fields as a list. -/
def unmarshalFields : Bytes → List α × Option UnmarshalError :=
  unmarshalStruct (storeField literal names) (names.map fun _ => default)

end Fields

theorem storeField_named {α : Type} [Inhabited α] {literal : Bytes → α → α × Bool}
    {names : List Bytes} {key : Bytes} {index : Nat}
    (named : names.findIdx? (foldsTo key) = some index) (decoded : List α × Bool)
    (raw : Bytes) (numbers : List Bytes) :
    storeField literal names decoded key raw numbers =
      (decoded.1.set index (literal raw (decoded.1.getD index default)).1,
        decoded.2 || (literal raw (decoded.1.getD index default)).2) := by
  rw [storeField, named]

/-! ### Objects of strings -/

/-- The text the last member naming the field `index` gives it, if a member
names it: the key of such a member folds first to the name of that field. -/
def lastNamed (names : List Bytes) (members : List (Bytes × Bytes)) (index : Nat) :
    Option Bytes :=
  ((members.filter fun member =>
      names.findIdx? (foldsTo (sanitize member.1)) == some index).getLast?).map
    fun member => sanitize member.2

theorem lastNamed_append (names : List Bytes) (members : List (Bytes × Bytes))
    (member : Bytes × Bytes) (index : Nat) :
    lastNamed names (members ++ [member]) index =
      if names.findIdx? (foldsTo (sanitize member.1)) = some index then some (sanitize member.2)
      else lastNamed names members index := by
  unfold lastNamed
  by_cases named : names.findIdx? (foldsTo (sanitize member.1)) = some index <;>
    simp [named]

theorem storeMembers_strings (names : List Bytes) (members : List (Bytes × Bytes)) :
    storeMembers (storeField storeString names) (names.map fun _ => default, false)
        (members.map fun member => (member.1, quote member.2)) =
      ((List.range names.length).map fun index => (lastNamed names members index).getD [],
        false) := by
  induction members using List.reverseRecOn with
  | nil =>
      refine Prod.ext (List.ext_getElem (by simp [storeMembers]) fun index _ _ => ?_) rfl
      simp [storeMembers, lastNamed]
      rfl
  | append_singleton members member stored =>
      rw [List.map_append, storeMembers_append, stored]
      simp only [storeMembers, List.map_cons, List.map_nil, List.foldl_cons, List.foldl_nil,
        storeField]
      split
      · rename_i index named
        rw [storeString_quote]
        refine Prod.ext (List.ext_getElem (by simp) fun place _ _ => ?_) rfl
        simp only [List.getElem_set, List.getElem_map, List.getElem_range, lastNamed_append,
          named, Option.some.injEq]
        split <;> rfl
      · rename_i unnamed
        refine Prod.ext (List.ext_getElem (by simp) fun place _ _ => ?_) rfl
        simp only [List.getElem_map, List.getElem_range, lastNamed_append]
        rw [if_neg fun named => Option.noConfusion (unnamed.symm.trans named)]

/-- Params that are an object of strings decode without an error, and give
each field of a struct of strings the text of the last member whose name folds
to it, an empty text if no member does: `json.Unmarshal` reports neither a
missing nor an unknown field, and a repeated one takes its last value. -/
theorem unmarshalFields_strings (names : List Bytes) (members : List (Bytes × Bytes)) :
    unmarshalFields storeString names
        (object (members.map fun member => (member.1, quote member.2))) =
      ((List.range names.length).map fun index => (lastNamed names members index).getD [],
        none) := by
  have values : ∀ member ∈ members.map fun member => (member.1, quote member.2),
      isValue member.2 = true := by
    simp only [List.mem_map]
    rintro _ ⟨member, -, rfl⟩
    exact (isValue_quote member.2).1
  rw [unmarshalFields, unmarshalStruct_object _ _ _ values, storeMembers_strings]
  rfl

/-- What `err.Error()` reads for an error of `json.Unmarshal(data, &v)`, from
the name of the type of `v`, the text `data` and the kind of error.  It is left
open: the texts differ between Go versions. -/
abbrev ErrorText := Bytes → Bytes → UnmarshalError → Bytes

end CoworkService.Json
