import Mathlib.Data.List.Basic
import Mathlib.Tactic.Ring

/-!
# Byte strings, big-endian words and decimal text

Go's `[]byte` and `string` are both modelled as lists of bytes.  The two
helpers of `encoding/binary` that the wire protocol uses, and the `%d` verb
of `fmt` that builds process ids and error texts, are given here with the
facts the later files need: the header round trip and injectivity of
decimal formatting.
-/

namespace CoworkService

/-- Go's `[]byte`; a Go `string` is the same sequence of bytes. -/
abbrev Bytes := List UInt8

/-- The bytes of an ASCII literal of the source. -/
def ascii (text : String) : Bytes :=
  text.toList.map fun character => UInt8.ofNat character.toNat

@[simp] theorem ascii_append (left right : String) :
    ascii (left ++ right) = ascii left ++ ascii right := by
  simp [ascii]

@[simp] theorem length_ascii (text : String) : (ascii text).length = text.length := by
  cases text
  simp only [ascii, List.length_map]
  rfl

@[simp] theorem UInt8.toNat_ofNat' (value : Nat) :
    (UInt8.ofNat value).toNat = value % 256 := by
  simp [UInt8.toNat, UInt8.ofNat, BitVec.toNat_ofNat]

/-! ### `binary.BigEndian` -/

/-- `binary.BigEndian.PutUint32`: the four bytes of `value`, most significant
first.  Callers pass `uint32(n)`, that is `n % 2 ^ 32`. -/
def putUint32 (value : Nat) : Bytes :=
  [UInt8.ofNat (value / 2 ^ 24), UInt8.ofNat (value / 2 ^ 16),
    UInt8.ofNat (value / 2 ^ 8), UInt8.ofNat value]

/-- `binary.BigEndian.Uint32` on the first four bytes of a buffer. -/
def uint32 : Bytes → Nat
  | b₀ :: b₁ :: b₂ :: b₃ :: _ =>
      b₀.toNat * 2 ^ 24 + b₁.toNat * 2 ^ 16 + b₂.toNat * 2 ^ 8 + b₃.toNat
  | _ => 0

@[simp] theorem length_putUint32 (value : Nat) : (putUint32 value).length = 4 := rfl

theorem uint32_putUint32 {value : Nat} (fits : value < 2 ^ 32) :
    uint32 (putUint32 value) = value := by
  simp only [putUint32, uint32, UInt8.toNat_ofNat']
  omega

theorem uint32_putUint32_append {value : Nat} (fits : value < 2 ^ 32) (rest : Bytes) :
    uint32 (putUint32 value ++ rest) = value :=
  uint32_putUint32 fits

theorem uint32_lt (buffer : Bytes) : uint32 buffer < 2 ^ 32 := by
  match buffer with
  | b₀ :: b₁ :: b₂ :: b₃ :: _ =>
      have := b₀.toNat_lt_size; have := b₁.toNat_lt_size
      have := b₂.toNat_lt_size; have := b₃.toNat_lt_size
      simp only [uint32, UInt8.size] at *
      omega
  | [] | [_] | [_, _] | [_, _, _] => simp [uint32]

/-- `unicode.ToUpper` on an ASCII byte. -/
def upperByte (byte : UInt8) : UInt8 :=
  if 0x61 ≤ byte.toNat ∧ byte.toNat ≤ 0x7A then byte - 0x20 else byte

theorem byte_eq_iff {a b : UInt8} : a = b ↔ a.toNat = b.toNat :=
  ⟨congrArg _, UInt8.toNat.inj⟩

/-- The lower-case letter of an upper-case ASCII letter `upper`. -/
theorem toNat_add_lower {upper : UInt8} (letter : 0x41 ≤ upper.toNat ∧ upper.toNat ≤ 0x5A) :
    (upper + 0x20).toNat = upper.toNat + 0x20 := by
  show (upper.toBitVec + (0x20 : UInt8).toBitVec).toNat = _
  rw [BitVec.toNat_add]
  change (upper.toNat + 32) % 256 = _
  omega

/-- The bytes `upperByte` takes to an upper-case ASCII letter: the letter in
either case. -/
theorem upperByte_eq {byte upper : UInt8} (letter : 0x41 ≤ upper.toNat ∧ upper.toNat ≤ 0x5A) :
    upperByte byte = upper ↔ byte.toNat = upper.toNat ∨ byte.toNat = upper.toNat + 0x20 := by
  unfold upperByte
  rw [byte_eq_iff]
  split_ifs with lower
  · rw [UInt8.toNat_sub_of_le _ _
      (by rw [UInt8.le_def, BitVec.le_def]; exact le_trans (by decide) lower.1)]
    change _ - 32 = _ ↔ _
    omega
  · omega

/-! ### The `%d` verb -/

/-- Decimal digits of `n`, most significant first, as `strconv` writes them. -/
def decimalDigits (n : Nat) : List Nat :=
  if n < 10 then [n] else decimalDigits (n / 10) ++ [n % 10]
termination_by n
decreasing_by omega

/-- The number a digit list denotes. -/
def digitsValue (digits : List Nat) : Nat :=
  digits.foldl (fun accumulated digit => 10 * accumulated + digit) 0

theorem digitsValue_append_digit (digits : List Nat) (digit : Nat) :
    digitsValue (digits ++ [digit]) = 10 * digitsValue digits + digit := by
  simp [digitsValue, List.foldl_append]

theorem digitsValue_decimalDigits (n : Nat) : digitsValue (decimalDigits n) = n := by
  induction n using Nat.strongRecOn with
  | ind n smaller =>
      rw [decimalDigits]
      split
      · simp [digitsValue]
      · rw [digitsValue_append_digit, smaller (n / 10) (by omega)]
        omega

theorem decimalDigits_lt_ten (n : Nat) : ∀ digit ∈ decimalDigits n, digit < 10 := by
  induction n using Nat.strongRecOn with
  | ind n smaller =>
      rw [decimalDigits]
      split
      · simpa
      · intro digit member
        rcases List.mem_append.mp member with front | last
        · exact smaller (n / 10) (by omega) digit front
        · simp at last
          omega

/-- The ASCII byte of a decimal digit. -/
def digitByte (digit : Nat) : UInt8 := UInt8.ofNat (48 + digit)

/-- `fmt.Sprintf("%d", n)` for a non-negative `n`. -/
def formatDecimal (n : Nat) : Bytes :=
  (decimalDigits n).map digitByte

theorem digitByte_toNat {digit : Nat} (small : digit < 10) :
    (digitByte digit).toNat = 48 + digit := by
  simp only [digitByte, UInt8.toNat_ofNat']; omega

theorem decimalDigits_cons (n : Nat) :
    ∃ first others, decimalDigits n = first :: others ∧ (0 < n → 0 < first) := by
  induction n using Nat.strongRecOn with
  | ind n smaller =>
      rw [decimalDigits]
      split
      · exact ⟨n, [], rfl, id⟩
      · obtain ⟨first, others, digits, positive⟩ := smaller (n / 10) (by omega)
        exact ⟨first, others ++ [n % 10], by rw [digits]; rfl, fun _ => positive (by omega)⟩

/-- `n` has as many digits as its size in powers of ten says. -/
theorem decimalDigits_bounds (n : Nat) :
    n < 10 ^ (decimalDigits n).length ∧
      (0 < n → 10 ^ ((decimalDigits n).length - 1) ≤ n) := by
  induction n using Nat.strongRecOn with
  | ind n smaller =>
      rw [decimalDigits]
      split
      · simp only [List.length_singleton, pow_one, Nat.sub_self, pow_zero]
        omega
      · obtain ⟨below, above⟩ := smaller (n / 10) (by omega)
        have above := above (by omega)
        obtain ⟨first, others, digits, -⟩ := decimalDigits_cons (n / 10)
        have long : (decimalDigits (n / 10)).length = others.length + 1 := by
          rw [digits, List.length_cons]
        rw [long] at below above
        rw [List.length_append, List.length_singleton, long, Nat.add_sub_cancel, pow_succ]
        rw [Nat.add_sub_cancel] at above
        constructor <;> omega

theorem map_digitByte_injective {left right : List Nat}
    (leftDigits : ∀ digit ∈ left, digit < 10) (rightDigits : ∀ digit ∈ right, digit < 10)
    (equal : left.map digitByte = right.map digitByte) : left = right := by
  induction left generalizing right with
  | nil => simpa using equal.symm
  | cons digit left induction =>
      cases right with
      | nil => simp at equal
      | cons other right =>
          simp only [List.map_cons, List.cons.injEq] at equal
          have digitBound := leftDigits digit (by simp)
          have otherBound := rightDigits other (by simp)
          have sameByte := congrArg UInt8.toNat equal.1
          simp only [digitByte, UInt8.toNat_ofNat'] at sameByte
          refine List.cons_eq_cons.mpr ⟨by omega, induction ?_ ?_ equal.2⟩
          · exact fun digit member => leftDigits digit (by simp [member])
          · exact fun digit member => rightDigits digit (by simp [member])

theorem formatDecimal_injective {left right : Nat}
    (equal : formatDecimal left = formatDecimal right) : left = right := by
  have digits := map_digitByte_injective (decimalDigits_lt_ten left)
    (decimalDigits_lt_ten right) equal
  rw [← digitsValue_decimalDigits left, ← digitsValue_decimalDigits right, digits]

/-! ### Lists indexed by position -/

theorem getElem?_set_of_getElem? {α : Type} {list : List α} {index other : Nat} {old new : α}
    (found : list[index]? = some old) :
    (list.set index new)[other]? = if index = other then some new else list[other]? := by
  rw [List.getElem?_set]
  split
  · rename_i same
    subst same
    rw [if_pos (List.getElem?_eq_some_iff.mp found).1]
  · rfl

theorem getElem?_append_singleton {α : Type} {list : List α} {last x : α} {index : Nat}
    (found : (list ++ [last])[index]? = some x) :
    list[index]? = some x ∨ index = list.length ∧ x = last := by
  rcases Nat.lt_or_ge index list.length with inside | outside
  · exact .inl (by rwa [List.getElem?_append_left inside] at found)
  · rw [List.getElem?_append_right outside] at found
    obtain ⟨bound, rfl⟩ := List.getElem?_eq_some_iff.mp found
    simp only [List.length_singleton] at bound
    exact .inr ⟨by omega, by simp⟩

/-- Dropping a prefix and the separator after it. -/
@[simp] theorem drop_append_cons {α : Type} (front : List α) (separator : α) (rest : List α) :
    (front ++ separator :: rest).drop (front.length + 1) = rest := by
  rw [List.append_cons]
  exact List.drop_left' (by simp)

end CoworkService
