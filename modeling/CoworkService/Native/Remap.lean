import CoworkService.Replace

/-!
# Path remapping between the virtual and the real session directory

The native backend runs the CLI on the host, but the client speaks in paths
under the virtual session directory `vmPrefix` (`/sessions/<name>`), which on
the host is `realPrefix` (`<data>/sessions/<name>`).  `spawn` stores both
prefixes when both are non-empty, and turns output reverse mapping on only if
`vmPrefix` exists on the host.  `writeStdin` rewrites `vmPrefix` to
`realPrefix`, then each additional mount's `from` to its `to`, then strips the
plugin prefix of a skill invocation; `streamOutput` rewrites `realPrefix` back
to `vmPrefix` in each line when reverse mapping is on.

In the documented configuration `vmPrefix` is a suffix of `realPrefix`, so the
forward rewrite also fires inside every real path: a payload that holds a real
path (which the client sees whenever reverse mapping is off) reaches the child
changed.  Reverse mapping undoes forward mapping on a payload without real
paths when `realPrefix` has no border, and not otherwise.
-/

namespace CoworkService.Native

/-- `pathRemap`: the replacement of `from` by `to` for one additional mount. -/
structure PathRemap where
  fromPath : Bytes
  toPath : Bytes
  deriving DecidableEq, Repr

/-- The remapping fields of `localProcess`; a nil prefix is the empty one. -/
structure Remapping where
  vmPrefix : Bytes
  realPrefix : Bytes
  reverseMap : Bool
  mountRemap : List PathRemap
  deriving DecidableEq, Repr

/-- What `spawn` stores: the prefixes only when both are non-empty, and reverse
mapping only when `os.Stat(vmPrefix)` succeeds (`vmPathExists`). -/
def spawnRemapping (vmPrefix realPrefix : Bytes) (vmPathExists : Bool)
    (mountRemap : List PathRemap) : Remapping :=
  if vmPrefix ≠ [] ∧ realPrefix ≠ [] then ⟨vmPrefix, realPrefix, vmPathExists, mountRemap⟩
  else ⟨[], [], false, mountRemap⟩

/-- The first rewrite of `writeStdin`: virtual session paths to real ones. -/
def Remapping.remapVmPrefix (lp : Remapping) (data : Bytes) : Bytes :=
  if lp.vmPrefix ≠ [] then replaceAll data lp.vmPrefix lp.realPrefix else data

/-- The second rewrite of `writeStdin`: each mount's `from` to its `to`, in order. -/
def Remapping.remapMounts (lp : Remapping) (data : Bytes) : Bytes :=
  lp.mountRemap.foldl (fun data rm => replaceAll data rm.fromPath rm.toPath) data

/-- `"content":"/`, the text of the guard and the start of the pattern. -/
def contentSlash : Bytes := ascii "\"content\":\"/"

/-- The character class `[a-zA-Z0-9_-]`. -/
def skillNameByte (byte : UInt8) : Bool :=
  (0x61 ≤ byte && byte ≤ 0x7A) || (0x41 ≤ byte && byte ≤ 0x5A) ||
    (0x30 ≤ byte && byte ≤ 0x39) || byte == 0x5F || byte == 0x2D

/-- The length of the match of `"content":"/[a-zA-Z0-9_-]+:` at the front of
`data`.  The class excludes `:`, so the greedy run is the only candidate. -/
def skillPrefixLength (data : Bytes) : Option Nat :=
  if contentSlash.isPrefixOf data then
    let name := (data.drop contentSlash.length).takeWhile skillNameByte
    if name ≠ [] ∧ (data.drop (contentSlash.length + name.length)).head? = some 0x3A then
      some (contentSlash.length + name.length + 1)
    else none
  else none

/-- `re.ReplaceAll(data, "content":"/)` over at most `fuel` more bytes: the
leftmost match is replaced and the search goes on after it. -/
def stripLoop : Nat → Bytes → Bytes
  | _, [] => []
  | 0, data => data
  | fuel + 1, byte :: rest =>
      match skillPrefixLength (byte :: rest) with
      | some length => contentSlash ++ stripLoop fuel ((byte :: rest).drop length)
      | none => byte :: stripLoop fuel rest

/-- The third rewrite of `writeStdin`, behind `bytes.Contains` and `re.Match`. -/
def stripSkillPrefix (data : Bytes) : Bytes :=
  if contentSlash <:+: data then
    if (List.range data.length).any fun start => (skillPrefixLength (data.drop start)).isSome
    then stripLoop data.length data
    else data
  else data

/-- Everything `writeStdin` does to the payload before writing it. -/
def Remapping.remapStdin (lp : Remapping) (data : Bytes) : Bytes :=
  stripSkillPrefix (lp.remapMounts (lp.remapVmPrefix data))

/-- `streamOutput`'s rewrite of a line: real paths back to virtual ones. -/
def Remapping.relay (lp : Remapping) (line : Bytes) : Bytes :=
  if lp.reverseMap then replaceAll line lp.realPrefix lp.vmPrefix else line

example : stripSkillPrefix (ascii "\"content\":\"/document-skills:pdf a\"") =
    ascii "\"content\":\"/pdf a\"" := by decide

theorem spawnRemapping_of_ne_nil {vmPrefix realPrefix : Bytes} (vmPathExists : Bool)
    (mountRemap : List PathRemap) (nonempty : vmPrefix ≠ []) (realNonempty : realPrefix ≠ []) :
    spawnRemapping vmPrefix realPrefix vmPathExists mountRemap =
      ⟨vmPrefix, realPrefix, vmPathExists, mountRemap⟩ :=
  if_pos ⟨nonempty, realNonempty⟩

/-- With `vmPrefix` a shorter piece of `realPrefix`, as in the documented
configuration, the first rewrite of `writeStdin` changes every payload that
holds a real path, and applied to its own output it changes it again whenever
it changed anything. -/
theorem remapVmPrefix_rewrites_real_paths {vmPrefix realPrefix : Bytes} (vmPathExists : Bool)
    (mountRemap : List PathRemap) (nonempty : vmPrefix ≠ [])
    (inside : vmPrefix <:+: realPrefix) (differ : vmPrefix ≠ realPrefix) (s : Bytes) :
    let lp := spawnRemapping vmPrefix realPrefix vmPathExists mountRemap
    (realPrefix <:+: s → lp.remapVmPrefix s ≠ s) ∧
      (vmPrefix <:+: s → lp.remapVmPrefix (lp.remapVmPrefix s) ≠ lp.remapVmPrefix s) := by
  have realNonempty : realPrefix ≠ [] := fun empty =>
    nonempty (List.eq_nil_of_infix_nil (empty ▸ inside))
  have longer : vmPrefix.length < realPrefix.length :=
    lt_of_le_of_ne inside.length_le (mt inside.eq_of_length differ)
  have changes : ∀ s, vmPrefix <:+: s → replaceAll s vmPrefix realPrefix ≠ s := fun s found same =>
    absurd (length_lt_length_replaceAll nonempty longer s found) (by rw [same]; exact lt_irrefl _)
  simp only [spawnRemapping_of_ne_nil vmPathExists mountRemap nonempty realNonempty,
    Remapping.remapVmPrefix, if_pos nonempty]
  exact ⟨fun real => changes s (inside.trans real),
    fun found => changes _ (inside.trans (infix_replaceAll nonempty s found))⟩

theorem remapVmPrefix_rewrites_real_paths_documented :
    ascii "/sessions/work" ≠ [] ∧ ascii "/sessions/work" <:+: ascii "/data/sessions/work" ∧
      ascii "/sessions/work" ≠ ascii "/data/sessions/work" ∧
      (spawnRemapping (ascii "/sessions/work") (ascii "/data/sessions/work") false []).remapVmPrefix
        (ascii "/data/sessions/work") ≠ ascii "/data/sessions/work" := by
  have nonempty : ascii "/sessions/work" ≠ [] := by decide
  have inside : ascii "/sessions/work" <:+: ascii "/data/sessions/work" := by decide
  have differ : ascii "/sessions/work" ≠ ascii "/data/sessions/work" := by decide
  exact ⟨nonempty, inside, differ, (remapVmPrefix_rewrites_real_paths false [] nonempty inside
    differ (ascii "/data/sessions/work")).1 List.infix_rfl⟩

/-- Reverse mapping undoes forward mapping on a payload without `realPrefix`
whenever `realPrefix` has no border. -/
theorem relay_remapVmPrefix_of_unbordered {vmPrefix realPrefix : Bytes}
    (mountRemap : List PathRemap) (nonempty : vmPrefix ≠ []) (realNonempty : realPrefix ≠ [])
    (unbordered : Unbordered realPrefix) {s : Bytes} (absent : ¬realPrefix <:+: s) :
    let lp := spawnRemapping vmPrefix realPrefix true mountRemap
    lp.relay (lp.remapVmPrefix s) = s := by
  simp only [spawnRemapping_of_ne_nil true mountRemap nonempty realNonempty,
    Remapping.remapVmPrefix, Remapping.relay, if_pos nonempty, if_true]
  exact replaceAll_replaceAll_of_unbordered nonempty realNonempty unbordered s absent

theorem relay_remapVmPrefix_of_unbordered_session :
    ascii "/sessions/work" ≠ [] ∧ ascii "/data/sessions/work" ≠ [] ∧
      Unbordered (ascii "/data/sessions/work") ∧
      ¬ascii "/data/sessions/work" <:+: ascii "cd /sessions/work/src" ∧
      (spawnRemapping (ascii "/sessions/work") (ascii "/data/sessions/work") true []).relay
          ((spawnRemapping (ascii "/sessions/work") (ascii "/data/sessions/work") true
            []).remapVmPrefix (ascii "cd /sessions/work/src")) = ascii "cd /sessions/work/src" := by
  have nonempty : ascii "/sessions/work" ≠ [] := by decide
  have realNonempty : ascii "/data/sessions/work" ≠ [] := by decide
  have unbordered : Unbordered (ascii "/data/sessions/work") := by decide
  have absent : ¬ascii "/data/sessions/work" <:+: ascii "cd /sessions/work/src" := by decide
  exact ⟨nonempty, realNonempty, unbordered, absent,
    relay_remapVmPrefix_of_unbordered [] nonempty realNonempty unbordered absent⟩

/-- `realPrefix = /home/s/home` has the border `/home`: the virtual path in
`/home/s/s/home` is rewritten to `/home/s/home/s/home`, whose leftmost real
path starts at the front, and the reverse rewrite gives `/s/home/s/home`. -/
theorem reverse_remap_resplits_bordered_prefix :
    let lp := spawnRemapping (ascii "/s/home") (ascii "/home/s/home") true []
    ¬ascii "/home/s/home" <:+: ascii "/home/s/s/home" ∧
      lp.remapVmPrefix (ascii "/home/s/s/home") = ascii "/home/s/home/s/home" ∧
      lp.relay (lp.remapVmPrefix (ascii "/home/s/s/home")) = ascii "/s/home/s/home" := by
  decide

end CoworkService.Native
