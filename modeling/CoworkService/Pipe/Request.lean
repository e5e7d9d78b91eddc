import Mathlib.Tactic.NormNum.Ineq
import CoworkService.Json.Unmarshal
import CoworkService.Pipe.Handlers

/-!
# Decoding a request

`Handle` decodes each payload with `json.Unmarshal(payload, &req)` into

    type Request struct {
        Method string          `json:"method"`
        Params json.RawMessage `json:"params,omitempty"`
        ID     interface{}     `json:"id,omitempty"`
    }

and replies `Parse error` when that fails.  `Unmarshal` decodes into a struct
as `Json.unmarshalStruct` does; what is particular to `Request` is how a member
is stored.  A string is stored into `Method` and `null` leaves it, any other
value being a type error; `Params` keeps the value's text byte for byte; and
every number in `ID` is converted to `float64`, which fails past the largest
`float64`.  The model keeps `Method` and `Params` and whether an error was
saved; the value of `ID` is never read.

A request a client writes as an object with `method` and `params` decodes to the
method's text and the params' exact text, whatever JSON value the params are;
and an integer `id` makes the whole request fail exactly when it is too large
for a `float64`.
-/

namespace CoworkService.Pipe

open Json

/-! ### Member names -/

/-- The fields of `Request`. -/
inductive RequestField where
  | method | params | id
  deriving DecidableEq, Repr

/-- The field a member is stored into: `byExactName`, then `byFoldedName`. -/
def RequestField.ofKey (key : Bytes) : Option RequestField :=
  if foldsTo key (ascii "METHOD") then some .method
  else if foldsTo key (ascii "PARAMS") then some .params
  else if foldsTo key (ascii "ID") then some .id
  else none

example : RequestField.ofKey (ascii "Method") = some .method ∧
    RequestField.ofKey (ascii "param") = none ∧
    RequestField.ofKey [0xC4, 0xB1, 0x64] = some .id := by
  decide

/-- `2^1024 - 2^970`, half an ulp past the largest `float64`: a decimal at least
this large rounds to infinity. -/
def float64Limit : Nat := 2 ^ 1024 - 2 ^ 970

/-- The loop of `decimal.set` over the digits and the `.` of a number: the
digits kept (no leading zero, at most 800), the place of the decimal point
`dp`, whether a `.` was seen, and the bytes after the loop. -/
def readDecimal : List Nat → Int → Bool → Bytes → List Nat × Int × Bool × Bytes
  | kept, point, dot, byte :: rest =>
      if byte = 0x2E ∧ dot = false then readDecimal kept kept.length true rest
      else if digit byte then
        if byte = 0x30 ∧ kept = [] then readDecimal kept (point - 1) dot rest
        else if kept.length < 800 then readDecimal (kept ++ [byte.toNat - 0x30]) point dot rest
        else readDecimal kept point dot rest
      else (kept, point, dot, byte :: rest)
  | kept, point, dot, [] => (kept, point, dot, [])

/-- The exponent's digits as `decimal.set` reads them: once the value reaches
`10000` the digits after are dropped. -/
def readExponent (value : Nat) : Bytes → Nat
  | byte :: rest =>
      if digit byte then
        readExponent (if value < 10000 then 10 * value + (byte.toNat - 0x30) else value) rest
      else value
  | [] => value

/-- The decimal point moved by the exponent after the digits, if there is one. -/
def movePoint (point : Int) : Bytes → Int
  | letter :: rest =>
      if letter = 0x65 ∨ letter = 0x45 then
        match rest with
        | sign :: digits =>
            if sign = 0x2D then point - readExponent 0 digits
            else if sign = 0x2B then point + readExponent 0 digits
            else point + readExponent 0 (sign :: digits)
        | [] => point
      else point
  | [] => point

/-- `strconv.ParseFloat` fails with `ErrRange` on the digits of a JSON number
after its sign.  `decimal.floatBits` rounds correctly, so it overflows exactly
when the decimal `0.kept × 10^dp` is at least `float64Limit`, which has 309
digits. -/
def unsignedOverflows (text : Bytes) : Bool :=
  match readDecimal [] 0 false text with
  | (kept, point, dot, rest) =>
      let point := movePoint (if dot then point else kept.length) rest
      !kept.isEmpty && (309 < point || point = 309 &&
        decide (float64Limit ≤ digitsValue ((kept ++ List.replicate 309 0).take 309)))

/-- `strconv.ParseFloat(text, 64)` fails with `ErrRange` on a JSON number: a
`-` makes no difference. -/
def overflowsFloat64 : Bytes → Bool
  | byte :: rest => if byte = 0x2D then unsignedOverflows rest else unsignedOverflows (byte :: rest)
  | [] => false

example : overflowsFloat64 (ascii "1e307") = false ∧ overflowsFloat64 (ascii "-1e310") = true ∧
    overflowsFloat64 (ascii "0.0e99999") = false ∧ overflowsFloat64 (ascii "1E+309") = true := by
  decide

/-! ### Storing members -/

/-- One member stored into the request, the error flag set when it fails: into
`Method` a string's text, `null` leaving it and any other value a type error
(`literalStore`, `d.object`, `d.array`); into `Params` the value's text
(`RawMessage.UnmarshalJSON`); into `ID` every number converted to `float64`. -/
def storeMember (decoded : Request × Bool) (key raw : Bytes) (numbers : List Bytes) :
    Request × Bool :=
  match RequestField.ofKey key with
  | some .method =>
      match storeString raw decoded.1.method with
      | (text, failed) => (⟨text, decoded.1.params⟩, decoded.2 || failed)
  | some .params => (⟨decoded.1.method, raw⟩, decoded.2)
  | some .id => (decoded.1, decoded.2 || numbers.any overflowsFloat64)
  | none => decoded

/-- `json.Unmarshal(payload, &req)` on a zero `Request`. -/
def decodeRequest : Bytes → Request × Option UnmarshalError :=
  unmarshalStruct storeMember ⟨[], []⟩

/-- The request decoder `Handle` uses. -/
def unmarshalRequest : Unmarshal Request := fun payload =>
  ((decodeRequest payload).1, (decodeRequest payload).2.map UnmarshalError.text)

example : decodeRequest (ascii "null") = (⟨[], []⟩, none) ∧
    decodeRequest (ascii "[]") = (⟨[], []⟩, some .type) ∧
    decodeRequest (ascii "\x7b\"METHOD\":\"kill\",\"method\":null\x7d") =
      (⟨ascii "kill", []⟩, none) ∧
    decodeRequest (ascii "\x7b\"method\":1\x7d") = (⟨[], []⟩, some .type) := by
  decide

/-! ### Request objects -/

theorem storeMember_method {key : Bytes} (named : RequestField.ofKey key = some .method)
    (decoded : Request × Bool) (text : Bytes) (numbers : List Bytes) :
    storeMember decoded key (quote text) numbers =
      (⟨sanitize text, decoded.1.params⟩, decoded.2) := by
  simp only [storeMember, named, storeString_quote, Bool.or_false]

theorem storeMember_params {key : Bytes} (named : RequestField.ofKey key = some .params)
    (decoded : Request × Bool) (raw : Bytes) (numbers : List Bytes) :
    storeMember decoded key raw numbers = (⟨decoded.1.method, raw⟩, decoded.2) := by
  rw [storeMember, named]

theorem storeMember_id {key : Bytes} (named : RequestField.ofKey key = some .id)
    (decoded : Request × Bool) (raw : Bytes) (numbers : List Bytes) :
    storeMember decoded key raw numbers =
      (decoded.1, decoded.2 || numbers.any overflowsFloat64) := by
  rw [storeMember, named]

theorem decodeRequest_method (method : Bytes) :
    decodeRequest (object [(ascii "method", quote method)]) =
      (⟨sanitize method, []⟩, none) := by
  have values : ∀ member ∈ [(ascii "method", quote method)], isValue member.2 = true := by
    simp only [List.mem_singleton, forall_eq, (isValue_quote method).1]
  simp only [decodeRequest, unmarshalStruct_object storeMember _ _ values, storeMembers,
    List.foldl_cons, List.foldl_nil,
    storeMember_method (show RequestField.ofKey (sanitize (ascii "method")) = some .method
      by decide)]
  rfl

theorem decodeRequest_method_params (method params : Bytes) (value : isValue params = true) :
    decodeRequest (object [(ascii "method", quote method), (ascii "params", params)]) =
      (⟨sanitize method, params⟩, none) := by
  have values : ∀ member ∈ [(ascii "method", quote method), (ascii "params", params)],
      isValue member.2 = true := by
    simp [(isValue_quote method).1, value]
  simp only [decodeRequest, unmarshalStruct_object storeMember _ _ values, storeMembers,
    List.foldl_cons, List.foldl_nil,
    storeMember_method (show RequestField.ofKey (sanitize (ascii "method")) = some .method
      by decide),
    storeMember_params (show RequestField.ofKey (sanitize (ascii "params")) = some .params
      by decide)]
  rfl

/-- `json.Unmarshal` reads back the method and the params of every request a
client writes as an object of `method` and `params`: the method's text, with
each byte that starts no UTF-8 sequence read as U+FFFD, and the params' text
byte for byte, whatever JSON value they are.  So `Handle` runs the handler of
the method the request names on those params; any other name gets
`Method not found`. -/
theorem unmarshalRequest_method_params (method params : Bytes) (value : isValue params = true) :
    unmarshalRequest (object [(ascii "method", quote method), (ascii "params", params)]) =
        (⟨sanitize method, params⟩, none) ∧
      ∀ {σ : Type} (backend : VMBackend σ) (decoders : Decoders) (state : σ),
        handle backend { decoders with request := unmarshalRequest }
            (object [(ascii "method", quote method), (ascii "params", params)]) state =
          match Method.ofName? (sanitize method) with
          | some known =>
              known.handle backend { decoders with request := unmarshalRequest } params state
          | none => .replied (.failure (ascii "Method not found: " ++ sanitize method)) state := by
  have decoded : unmarshalRequest
      (object [(ascii "method", quote method), (ascii "params", params)]) =
        (⟨sanitize method, params⟩, none) := by
    simp only [unmarshalRequest, decodeRequest_method_params method params value,
      Option.map_none']
  refine ⟨decoded, fun backend decoders state => ?_⟩
  cases found : Method.ofName? (sanitize method) <;> simp only [handle, decoded, found]

theorem unmarshalRequest_method_params_spawn :
    isValue (ascii "\x7b\"command\":\"/bin/echo\",\"args\":[\"hi\", 1.5e3]\x7d") = true ∧
      unmarshalRequest (object [(ascii "method", quote (ascii "spawn")),
        (ascii "params", ascii "\x7b\"command\":\"/bin/echo\",\"args\":[\"hi\", 1.5e3]\x7d")]) =
        (⟨sanitize (ascii "spawn"),
          ascii "\x7b\"command\":\"/bin/echo\",\"args\":[\"hi\", 1.5e3]\x7d"⟩, none) ∧
      ∀ {σ : Type} (backend : VMBackend σ) (decoders : Decoders) (state : σ),
        handle backend { decoders with request := unmarshalRequest }
            (object [(ascii "method", quote (ascii "spawn")),
              (ascii "params", ascii "\x7b\"command\":\"/bin/echo\",\"args\":[\"hi\", 1.5e3]\x7d")])
            state =
          match Method.ofName? (sanitize (ascii "spawn")) with
          | some known => known.handle backend { decoders with request := unmarshalRequest }
              (ascii "\x7b\"command\":\"/bin/echo\",\"args\":[\"hi\", 1.5e3]\x7d") state
          | none =>
              .replied (.failure (ascii "Method not found: " ++ sanitize (ascii "spawn"))) state :=
  ⟨by decide, unmarshalRequest_method_params _ _ (by decide)⟩

/-! ### Integer ids -/

theorem float64Limit_bounds : 10 ^ 308 < float64Limit ∧ float64Limit < 10 ^ 309 := by
  norm_num [float64Limit]

/-- Once a digit other than a leading zero is kept, the digits after it are
kept up to 800, and the decimal point stays. -/
theorem readDecimal_digits (point : Int) :
    ∀ (digits kept : List Nat), kept ≠ [] → kept.length ≤ 800 →
      (∀ d ∈ digits, d < 10) → readDecimal kept point false (digits.map digitByte) =
        ((kept ++ digits).take 800, point, false, [])
  | [], kept, _, short, _ => by simp [readDecimal, List.take_of_length_le short]
  | d :: digits, kept, solid, short, small => by
      have dSmall := small d (List.mem_cons_self _ _)
      have later : ∀ e ∈ digits, e < 10 :=
        fun e member => small e (List.mem_cons_of_mem _ member)
      have notDot : digitByte d ≠ 0x2E := fun same => by
        have := congrArg UInt8.toNat same
        rw [digitByte_toNat dSmall] at this
        change 48 + d = 46 at this
        omega
      simp only [List.map_cons, readDecimal, notDot, false_and, if_false,
        digit_digitByte dSmall, if_true, solid, and_false]
      split_ifs with room
      · rw [digitByte_toNat dSmall, Nat.add_sub_cancel_left,
          readDecimal_digits point digits (kept ++ [d]) (by simp) (by simp; omega) later]
        simp
      · have full : 800 ≤ kept.length := by omega
        rw [readDecimal_digits point digits kept solid short later,
          List.take_append_of_le_length full, List.take_append_of_le_length full]

theorem unsignedOverflows_formatDecimal (n : Nat) :
    unsignedOverflows (formatDecimal n) = decide (float64Limit ≤ n) := by
  obtain ⟨below, above⟩ := decimalDigits_bounds n
  obtain ⟨low, high⟩ := float64Limit_bounds
  obtain ⟨first, others, digits, positive⟩ := decimalDigits_cons n
  rcases Nat.eq_zero_or_pos n with rfl | nonzero
  · have zero : formatDecimal 0 = [0x30] := by
      rw [formatDecimal, show decimalDigits 0 = [0] by rw [decimalDigits]; rfl]; rfl
    rw [zero, show unsignedOverflows [0x30] = false by decide]
    simp only [false_eq_decide_iff, not_le]
    omega
  have small := decimalDigits_lt_ten n
  rw [digits] at small
  have firstSmall := small first (List.mem_cons_self _ _)
  have firstPositive := positive nonzero
  have firstByte : digitByte first ≠ 0x2E ∧ digitByte first ≠ 0x30 := by
    constructor <;> intro same <;> have := congrArg UInt8.toNat same <;>
      rw [digitByte_toNat firstSmall] at this
    · change 48 + first = 46 at this; omega
    · change 48 + first = 48 at this; omega
  have read : readDecimal [] 0 false (formatDecimal n) =
      ((first :: others).take 800, 0, false, []) := by
    rw [formatDecimal, digits, List.map_cons, readDecimal]
    simp only [firstByte.1, firstByte.2, false_and, if_false, digit_digitByte firstSmall, if_true,
      List.length_nil, digitByte_toNat firstSmall, Nat.add_sub_cancel_left, List.nil_append]
    rw [if_pos (by decide), readDecimal_digits 0 others [first] (by simp) (by simp)
      fun d member => small d (List.mem_cons_of_mem _ member)]
    rfl
  rw [digits, List.length_cons] at below above
  have above := above nonzero
  rw [Nat.add_sub_cancel] at above
  have kept : (List.take 800 (first :: others)).isEmpty = false := rfl
  simp only [unsignedOverflows, read, movePoint, kept, Bool.not_false, Bool.true_and,
    Bool.false_eq_true, if_false]
  rcases (show others.length + 1 ≤ 308 ∨ others.length + 1 = 309 ∨
      310 ≤ others.length + 1 by omega) with short | exact | long
  · have step := Nat.pow_le_pow_right (show 0 < 10 by norm_num) short
    have fits : n < float64Limit := by omega
    have count : (List.take 800 (first :: others)).length = others.length + 1 := by
      simp only [List.length_take, List.length_cons]; omega
    rw [count, decide_eq_false (show ¬(309 : Int) < ↑(others.length + 1) by omega),
      decide_eq_false (show ¬((others.length + 1 : Nat) : Int) = 309 by omega), Bool.false_and,
      Bool.false_or, decide_eq_false (show ¬float64Limit ≤ n by omega)]
  · have whole : (first :: others).take 800 = first :: others :=
      List.take_of_length_le (by simp; omega)
    have padded : ((first :: others) ++ List.replicate 309 0).take 309 = first :: others := by
      rw [List.take_append_of_le_length (by simp; omega)]
      exact List.take_of_length_le (by simp; omega)
    rw [whole, padded, ← digits, digitsValue_decimalDigits, digits, List.length_cons, exact]
    simp
  · have step :=
      Nat.pow_le_pow_right (show 0 < 10 by norm_num) (show 309 ≤ others.length by omega)
    have large : float64Limit ≤ n := by omega
    have count : (309 : Int) < (List.take 800 (first :: others)).length := by
      simp only [List.length_take, List.length_cons]; omega
    rw [decide_eq_true count, Bool.true_or, decide_eq_true large]

theorem overflowsFloat64_int (value : Int) :
    overflowsFloat64 (int value) = decide (float64Limit ≤ value.natAbs) := by
  cases value with
  | ofNat n =>
      obtain ⟨first, others, starts, notMinus⟩ := formatDecimal_cons n
      have whole := unsignedOverflows_formatDecimal n
      rw [starts] at whole
      rw [int, starts, overflowsFloat64, if_neg notMinus, whole]
      rfl
  | negSucc n =>
      show overflowsFloat64 (0x2D :: formatDecimal (n + 1)) = _
      rw [overflowsFloat64, if_pos rfl, unsignedOverflows_formatDecimal]
      rfl

theorem decodeRequest_integer_id (method params : Bytes) (id : Int)
    (value : isValue params = true) :
    decodeRequest (object [(ascii "method", quote method), (ascii "params", params),
        (ascii "id", int id)]) =
      (⟨sanitize method, params⟩, if float64Limit ≤ id.natAbs then some .type else none) := by
  have values : ∀ member ∈ [(ascii "method", quote method), (ascii "params", params),
      (ascii "id", int id)], isValue member.2 = true := by
    simp only [List.mem_cons, List.mem_singleton, List.not_mem_nil, or_false, forall_eq_or_imp,
      forall_eq, (isValue_quote method).1, value, (isValue_int id).1, and_self]
  simp only [decodeRequest, unmarshalStruct_object storeMember _ _ values, storeMembers,
    List.foldl_cons, List.foldl_nil,
    storeMember_method (show RequestField.ofKey (sanitize (ascii "method")) = some .method
      by decide),
    storeMember_params (show RequestField.ofKey (sanitize (ascii "params")) = some .params
      by decide),
    storeMember_id (show RequestField.ofKey (sanitize (ascii "id")) = some .id by decide),
    (isValue_int id).2, List.any_cons, List.any_nil, Bool.or_false, Bool.false_or,
    overflowsFloat64_int, decide_eq_true_eq]

/-- A request with an integer `id` fails to decode, and so gets `Parse error`,
exactly when the integer is past the range of `float64`, although the `id` is
never read: `json.Unmarshal` converts every number it stores into an
`interface{}` to `float64`.  Any other integer `id` leaves the method and the
params as they are without it. -/
theorem unmarshalRequest_integer_id (method params : Bytes) (id : Int)
    (value : isValue params = true) :
    unmarshalRequest (object [(ascii "method", quote method), (ascii "params", params),
        (ascii "id", int id)]) =
      (⟨sanitize method, params⟩,
        if float64Limit ≤ id.natAbs then some (ascii "UnmarshalTypeError") else none) := by
  simp only [unmarshalRequest, decodeRequest_integer_id method params id value]
  split <;> rfl

theorem unmarshalRequest_integer_id_kill :
    isValue (ascii "\x7b\"id\":\"proc-1\"\x7d") = true ∧
      unmarshalRequest (object [(ascii "method", quote (ascii "kill")),
        (ascii "params", ascii "\x7b\"id\":\"proc-1\"\x7d"), (ascii "id", int 42)]) =
      (⟨sanitize (ascii "kill"), ascii "\x7b\"id\":\"proc-1\"\x7d"⟩,
        if float64Limit ≤ (42 : Int).natAbs then some (ascii "UnmarshalTypeError") else none) :=
  ⟨by decide, unmarshalRequest_integer_id _ _ 42 (by decide)⟩

end CoworkService.Pipe
