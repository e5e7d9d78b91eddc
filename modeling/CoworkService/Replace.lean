import CoworkService.Json
import Mathlib.Data.List.Infix

/-!
# `bytes.ReplaceAll`

Both path remappings of the native backend are `bytes.ReplaceAll`.  For a
non-empty `old`, `bytes.Replace` copies match by match: `Index` finds the
leftmost match of `old` in what is left, the bytes before it are copied, `new`
is written in its place, and the search goes on after the match, so matches
never overlap.  With an empty `old` it writes `new` before every UTF-8 sequence
and once more at the end.

The model scans byte by byte, which finds the matches `Index` finds, with the
length of the input as fuel.  Later proofs use only the three equations of the
scan (`replaceAll_nil`, `replaceAll_append`, `replaceAll_cons`) and the
induction principle `replaceAll_induction` built from them.
-/

namespace CoworkService

/-- The size `utf8.DecodeRune` reports for the sequence at the front: `1` for
an ASCII byte and for a byte that starts no valid sequence. -/
def runeSize (lead : UInt8) (tail : Bytes) : Nat :=
  if lead.toNat < 0x80 then 1 else max 1 (Json.runeWidth lead tail)

/-- `bytes.Replace` with an empty `old`: `new` before every rune and once more
after the last, over at most `fuel` more runes. -/
def insertAtRunes (new : Bytes) : Nat → Bytes → Bytes
  | _, [] => new
  | 0, text => new ++ text
  | fuel + 1, lead :: tail =>
      new ++ lead :: tail.take (runeSize lead tail - 1) ++
        insertAtRunes new fuel (tail.drop (runeSize lead tail - 1))

/-- The copying loop of `bytes.Replace` for a non-empty `old`, over at most
`fuel` more bytes: a match of `old` at the front is replaced by `new` and
skipped, any other byte is copied. -/
def replaceLoop (old new : Bytes) : Nat → Bytes → Bytes
  | _, [] => []
  | 0, text => text
  | fuel + 1, byte :: rest =>
      if old.isPrefixOf (byte :: rest) then
        new ++ replaceLoop old new fuel ((byte :: rest).drop old.length)
      else byte :: replaceLoop old new fuel rest

/-- `bytes.ReplaceAll(s, old, new)`. -/
def replaceAll (s old new : Bytes) : Bytes :=
  if old = [] then insertAtRunes new s.length s else replaceLoop old new s.length s

section Equations

variable {old new : Bytes}

theorem length_drop_length_le (nonempty : old ≠ []) (byte : UInt8) (rest : Bytes) :
    ((byte :: rest).drop old.length).length ≤ rest.length := by
  cases old with
  | nil => contradiction
  | cons _ _ => simp

theorem replaceLoop_congr (nonempty : old ≠ []) {fuel other : Nat} {text : Bytes}
    (enough : text.length ≤ fuel) (otherEnough : text.length ≤ other) :
    replaceLoop old new fuel text = replaceLoop old new other text := by
  induction fuel generalizing other text with
  | zero =>
      rw [List.length_eq_zero.mp (Nat.le_zero.mp enough)]
      cases other <;> rfl
  | succ fuel induction =>
      cases text with
      | nil => cases other <;> rfl
      | cons byte rest =>
          obtain ⟨other, rfl⟩ : ∃ smaller, other = smaller + 1 :=
            ⟨other - 1, by simp only [List.length_cons] at otherEnough; omega⟩
          simp only [List.length_cons, Nat.add_le_add_iff_right] at enough otherEnough
          have skipped := length_drop_length_le nonempty byte rest
          simp only [replaceLoop, induction enough otherEnough,
            induction (skipped.trans enough) (skipped.trans otherEnough)]

theorem replaceLoop_eq_replaceAll (nonempty : old ≠ []) {fuel : Nat} {text : Bytes}
    (enough : text.length ≤ fuel) : replaceLoop old new fuel text = replaceAll text old new := by
  rw [replaceAll, if_neg nonempty]
  exact replaceLoop_congr nonempty enough le_rfl

theorem replaceAll_nil (nonempty : old ≠ []) : replaceAll [] old new = [] := by
  simp [replaceAll, nonempty, replaceLoop]

/-- The step on a byte string that starts with a match. -/
theorem replaceAll_append (nonempty : old ≠ []) (rest : Bytes) :
    replaceAll (old ++ rest) old new = new ++ replaceAll rest old new := by
  obtain ⟨first, tail, rfl⟩ := List.exists_cons_of_ne_nil nonempty
  have front : (first :: tail).isPrefixOf (first :: (tail ++ rest)) = true :=
    List.isPrefixOf_iff_prefix.mpr (List.prefix_append (first :: tail) rest)
  have skipped : (first :: (tail ++ rest)).drop (first :: tail).length = rest :=
    List.drop_left (first :: tail) rest
  rw [replaceAll, if_neg nonempty, List.cons_append, List.length_cons, replaceLoop, if_pos front,
    skipped, replaceLoop_eq_replaceAll nonempty (by simp)]

/-- The step on a byte string that does not start with a match. -/
theorem replaceAll_cons (nonempty : old ≠ []) {byte : UInt8} {rest : Bytes}
    (mismatch : ¬old <+: byte :: rest) :
    replaceAll (byte :: rest) old new = byte :: replaceAll rest old new := by
  rw [replaceAll, if_neg nonempty, List.length_cons, replaceLoop,
    if_neg (mt List.isPrefixOf_iff_prefix.mp mismatch), replaceLoop_eq_replaceAll nonempty le_rfl]

/-- Induction along the scan of `replaceAll`: a match at the front, or a byte
copied. -/
theorem replaceAll_induction (nonempty : old ≠ []) {motive : Bytes → Prop}
    (nil : motive []) (matched : ∀ rest, motive rest → motive (old ++ rest))
    (copied : ∀ byte rest, ¬old <+: byte :: rest → motive rest → motive (byte :: rest)) :
    ∀ s, motive s := by
  intro s
  obtain ⟨length, hlength⟩ : ∃ length, s.length = length := ⟨_, rfl⟩
  induction length using Nat.strong_induction_on generalizing s with
  | _ length induction =>
      cases s with
      | nil => exact nil
      | cons byte rest =>
          by_cases front : old <+: byte :: rest
          · obtain ⟨tail, split⟩ := front
            rw [← split]
            have shorter : tail.length < length := by
              have sizes := congrArg List.length split
              have := List.length_pos.mpr nonempty
              simp only [List.length_append, List.length_cons] at sizes hlength
              omega
            exact matched tail (induction _ shorter tail rfl)
          · exact copied byte rest front (induction _ (by simp [← hlength]) rest rfl)

end Equations

section Shape

variable {old new : Bytes}

/-- A prefix of the output is a prefix of the input, or bytes copied from the
input followed by a non-empty piece that starts like `new` or extends it. -/
theorem prefix_replaceAll (nonempty : old ≠ []) :
    ∀ s {x : Bytes}, x <+: replaceAll s old new → x <+: s ∨
      ∃ copied piece, x = copied ++ piece ∧ copied <+: s ∧ piece ≠ [] ∧
        (piece <+: new ∨ new <+: piece) := by
  refine replaceAll_induction nonempty ?nil ?matched ?copied
  case nil =>
    intro x isPrefix
    rw [replaceAll_nil nonempty] at isPrefix
    exact .inl isPrefix
  case matched =>
    intro rest _ x isPrefix
    rw [replaceAll_append nonempty] at isPrefix
    by_cases empty : x = []
    · exact .inl (empty ▸ List.nil_prefix)
    · exact .inr ⟨[], x, rfl, List.nil_prefix, empty,
        List.prefix_or_prefix_of_prefix isPrefix (List.prefix_append _ _)⟩
  case copied =>
    intro byte rest _ induction x isPrefix
    rw [replaceAll_cons nonempty ‹_›] at isPrefix
    cases x with
    | nil => exact .inl List.nil_prefix
    | cons first x =>
        obtain ⟨rfl, later⟩ := List.cons_prefix_cons.mp isPrefix
        rcases induction later with front | ⟨copied, piece, split, inside, nonempty, starts⟩
        · exact .inl ((List.prefix_cons_inj _).mpr front)
        · exact .inr ⟨first :: copied, piece, by rw [split]; rfl,
            (List.prefix_cons_inj _).mpr inside, nonempty, starts⟩

/-- Replacing by something at least as long never shortens. -/
theorem length_le_length_replaceAll (nonempty : old ≠ []) (longer : old.length ≤ new.length) :
    ∀ s, s.length ≤ (replaceAll s old new).length := by
  refine replaceAll_induction nonempty ?_ ?_ ?_
  · simp [replaceAll_nil nonempty]
  · intro rest induction
    simp only [replaceAll_append nonempty, List.length_append]
    omega
  · intro byte rest mismatch induction
    simp only [replaceAll_cons nonempty mismatch, List.length_cons]
    omega

/-- Replacing by something longer lengthens every input with a match. -/
theorem length_lt_length_replaceAll (nonempty : old ≠ []) (longer : old.length < new.length) :
    ∀ s, old <:+: s → s.length < (replaceAll s old new).length := by
  refine replaceAll_induction nonempty ?_ ?_ ?_
  · intro inside
    exact absurd (List.eq_nil_of_infix_nil inside) nonempty
  · intro rest _ _
    have := length_le_length_replaceAll nonempty longer.le rest
    simp only [replaceAll_append nonempty, List.length_append]
    omega
  · intro byte rest mismatch induction inside
    have later : old <:+: rest := (List.infix_cons_iff.mp inside).resolve_left mismatch
    simp only [replaceAll_cons nonempty mismatch, List.length_cons]
    exact Nat.succ_lt_succ (induction later)

/-- An input with a match puts `new` in the output. -/
theorem infix_replaceAll (nonempty : old ≠ []) :
    ∀ s, old <:+: s → new <:+: replaceAll s old new := by
  refine replaceAll_induction nonempty ?_ ?_ ?_
  · intro inside
    exact absurd (List.eq_nil_of_infix_nil inside) nonempty
  · intro rest _ _
    rw [replaceAll_append nonempty]
    exact (List.prefix_append _ _).isInfix
  · intro byte rest mismatch induction inside
    rw [replaceAll_cons nonempty mismatch]
    exact List.infix_cons (induction ((List.infix_cons_iff.mp inside).resolve_left mismatch))

end Shape

section RoundTrip

/-- No non-empty proper prefix of `text` is also a suffix of it. -/
def Unbordered (text : Bytes) : Prop :=
  ∀ k < text.length, 0 < k → text.take k ≠ text.drop (text.length - k)

instance (text : Bytes) : Decidable (Unbordered text) :=
  inferInstanceAs (Decidable (∀ k < text.length, _))

theorem Unbordered.not_border {text piece : Bytes} (unbordered : Unbordered text)
    (nonempty : piece ≠ []) (front : piece <+: text) (back : piece <:+ text)
    (shorter : piece.length < text.length) : False :=
  unbordered piece.length shorter (List.length_pos.mpr nonempty)
    ((List.prefix_iff_eq_take.mp front).symm.trans (List.suffix_iff_eq_drop.mp back))

variable {vmPrefix realPrefix : Bytes}

/-- After a byte that the input does not continue into `realPrefix`, the
forward remap cannot have produced `realPrefix` at the front: its copied bytes
would put `realPrefix` in the input, and a piece of an inserted `realPrefix`
would be a border of it. -/
theorem not_prefix_cons_replaceAll (nonempty : vmPrefix ≠ []) (unbordered : Unbordered realPrefix)
    {byte : UInt8} {rest : Bytes} (absent : ¬realPrefix <:+: byte :: rest) :
    ¬realPrefix <+: byte :: replaceAll rest vmPrefix realPrefix := by
  intro front
  cases realPrefix with
  | nil => exact absent List.nil_infix
  | cons first tail =>
      obtain ⟨rfl, inside⟩ := List.cons_prefix_cons.mp front
      rcases prefix_replaceAll nonempty rest inside with copied |
        ⟨copied, piece, rfl, _, filled, starts⟩
      · exact absent ((List.prefix_cons_inj _).mpr copied).isInfix
      · rcases starts with starts | covers
        · refine unbordered.not_border filled starts ?_ ?_
          · exact List.suffix_append (first :: copied) piece
          · simp only [List.length_cons, List.length_append]
            omega
        · have := covers.length_le
          simp only [List.length_cons, List.length_append] at this
          omega

/-- Reverse remapping undoes forward remapping on every input without
`realPrefix` when `realPrefix` has no border. -/
theorem replaceAll_replaceAll_of_unbordered (nonempty : vmPrefix ≠ [])
    (realNonempty : realPrefix ≠ []) (unbordered : Unbordered realPrefix) :
    ∀ s, ¬realPrefix <:+: s →
      replaceAll (replaceAll s vmPrefix realPrefix) realPrefix vmPrefix = s := by
  refine replaceAll_induction nonempty ?_ ?_ ?_
  · intro _
    rw [replaceAll_nil nonempty, replaceAll_nil realNonempty]
  · intro rest induction absent
    rw [replaceAll_append nonempty, replaceAll_append realNonempty,
      induction (fun inside => absent (inside.trans (List.suffix_append _ _).isInfix))]
  · intro byte rest mismatch induction absent
    rw [replaceAll_cons nonempty mismatch,
      replaceAll_cons realNonempty (not_prefix_cons_replaceAll nonempty unbordered absent),
      induction (fun inside => absent (List.infix_cons inside))]

end RoundTrip

example : replaceAll (ascii "a/b/a") (ascii "/") (ascii "::") = ascii "a::b::a" := by decide

end CoworkService
