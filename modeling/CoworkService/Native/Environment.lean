import CoworkService.Basic
import Mathlib.Data.List.Infix

/-!
# The environment of a spawned child

`spawn` builds the child's environment in two ways.  With an empty `env` map,
`c.Env` is `os.Environ()`.  Otherwise it is `c.Environ()`, which for a command
whose `Dir` is set appends `PWD=` and the absolute directory to `os.Environ()`
and keeps the last entry of each key (`dedupEnv`), followed by `k=v` for each
entry of the map, in the map's iteration order.  A loop running backwards then
deletes, in place, every entry that starts with `CLAUDECODE=` or
`CLAUDE_CODE_ENTRYPOINT=`, and `Start` deduplicates once more.

The strip loop removes exactly those entries, neither name is left, and every
other name in the map gets its value from the map; every other name keeps the
inherited value, except `PWD`, which the non-empty path sets to the working
directory and the empty path inherits from the supervisor.
-/

namespace CoworkService.Native

/-- The byte `=`. -/
def equalsSign : UInt8 := 0x3D

/-- The bytes before the first `=`. -/
def beforeEquals (kv : Bytes) : Bytes := kv.takeWhile (· != equalsSign)

/-- The key `dedupEnv` files an entry under: the bytes before the first `=`,
or for an entry that starts with `=` the bytes before the next one (none at
all if there is no next one); `none` for an entry without `=`. -/
def envKey (kv : Bytes) : Option Bytes :=
  if equalsSign ∉ kv then none
  else if beforeEquals kv = [] then
    some (kv.take (if equalsSign ∈ kv.drop 1 then (beforeEquals (kv.drop 1)).length + 1 else 0))
  else some (beforeEquals kv)

/-- The loop of `dedupEnv` over the entries from the last to the first, with
the keys seen so far: the entries kept, last first, and whether one with a NUL
byte was dropped, which is the error `exec: environment variable contains NUL`. -/
def dedupScan : List Bytes → List Bytes → List Bytes × Bool
  | _, [] => ([], false)
  | seen, kv :: rest =>
      if 0 ∈ kv then ((dedupScan seen rest).1, true)
      else
        match envKey kv with
        | none =>
            if kv = [] then dedupScan seen rest
            else ((kv :: (dedupScan seen rest).1), (dedupScan seen rest).2)
        | some key =>
            if key ∈ seen then dedupScan seen rest
            else (kv :: (dedupScan (key :: seen) rest).1, (dedupScan (key :: seen) rest).2)

/-- `dedupEnv` on Linux: the last entry of each key, in order, and the error. -/
def dedupEnv (env : List Bytes) : List Bytes × Bool :=
  ((dedupScan [] env.reverse).1.reverse, (dedupScan [] env.reverse).2)

/-- `PWD=` and the absolute form of `dir` (`none` where `filepath.Abs` fails),
which `Cmd.environ` appends for a command whose `Dir` is set. -/
def pwdEntry (dir : Bytes) (absDir : Option Bytes) : List Bytes :=
  if dir = [] then [] else (absDir.map fun pwd => ascii "PWD=" ++ pwd).toList

/-- `c.Environ()` for a command with `Env` nil and `Dir` set to `dir`. -/
def cmdEnviron (environ : List Bytes) (dir : Bytes) (absDir : Option Bytes) : List Bytes :=
  (dedupEnv (environ ++ pwdEntry dir absDir)).1

/-- `k+"="+v`. -/
def assignment (entry : Bytes × Bytes) : Bytes := entry.1 ++ ascii "=" ++ entry.2

/-- The `c.Env` of `spawn` before the strip loop, for the map `env` listed in
its iteration order. -/
def spawnEnv (environ : List Bytes) (env : List (Bytes × Bytes)) (cwd : Bytes)
    (absDir : Option Bytes) : List Bytes :=
  if env = [] then environ else cmdEnviron environ cwd absDir ++ env.map assignment

/-- The two names the strip loop removes. -/
def claudeNames : List Bytes := [ascii "CLAUDECODE", ascii "CLAUDE_CODE_ENTRYPOINT"]

/-- `strings.HasPrefix` for `CLAUDECODE=` or `CLAUDE_CODE_ENTRYPOINT=`. -/
def strippedEntry (kv : Bytes) : Bool :=
  claudeNames.any fun name => (name ++ ascii "=").isPrefixOf kv

/-- The strip loop over the indices below `index`, from the highest down:
`c.Env = append(c.Env[:i], c.Env[i+1:]...)` for an entry to strip. -/
def stripEnvLoop : Nat → List Bytes → List Bytes
  | 0, env => env
  | index + 1, env =>
      stripEnvLoop index
        (if env[index]?.map strippedEntry = some true then env.eraseIdx index else env)

/-- The environment the child starts with: `Start` deduplicates `c.Env` once
more, and fails on an entry with a NUL byte. -/
def childEnv (environ : List Bytes) (env : List (Bytes × Bytes)) (cwd : Bytes)
    (absDir : Option Bytes) : Option (List Bytes) :=
  let stripped := stripEnvLoop (spawnEnv environ env cwd absDir).length
    (spawnEnv environ env cwd absDir)
  if (dedupEnv stripped).2 then none else some (dedupEnv stripped).1

/-- The value the child reads for `name`: that of the last entry filed under it. -/
def lookupEnv (env : List Bytes) (name : Bytes) : Option Bytes :=
  (env.reverse.find? fun kv => envKey kv = some name).map fun kv => kv.drop (name.length + 1)

section Keys

theorem beforeEquals_append {key : Bytes} (free : equalsSign ∉ key) (rest : Bytes) :
    beforeEquals (key ++ equalsSign :: rest) = key := by
  rw [beforeEquals, List.takeWhile_append_of_pos (fun byte member => by
    simpa using fun same : byte = equalsSign => free (same ▸ member)),
    List.takeWhile_cons_of_neg (by simp), List.append_nil]

/-- An entry `key=rest` with a key that is non-empty and has no `=` is filed
under that key. -/
theorem envKey_append {key : Bytes} (nonempty : key ≠ []) (free : equalsSign ∉ key)
    (rest : Bytes) : envKey (key ++ equalsSign :: rest) = some key := by
  simp [envKey, beforeEquals_append free, nonempty]

/-- An entry filed under a key that does not start with `=` is that key, `=`,
and the value. -/
theorem envKey_eq_some {kv key : Bytes} (filed : envKey kv = some key)
    (nonempty : key ≠ []) (plain : key.head? ≠ some equalsSign) :
    ∃ rest, kv = key ++ equalsSign :: rest := by
  unfold envKey at filed
  split at filed
  · cases filed
  rename_i present
  split at filed
  · rename_i empty
    cases kv with
    | nil => exact absurd (List.not_mem_nil _) present
    | cons first tail =>
        have starts : first = equalsSign := by
          by_contra other
          rw [beforeEquals, @List.takeWhile_cons_of_pos _ (· != equalsSign) first tail
            (by simpa using other)] at empty
          cases empty
        subst starts
        split at filed <;> cases filed
        · exact absurd rfl plain
        · exact absurd rfl nonempty
  · cases filed
    obtain ⟨next, rest, dropped⟩ : ∃ next rest, kv.dropWhile (· != equalsSign) = next :: rest :=
      List.exists_cons_of_ne_nil fun empty => present (by
        have := List.dropWhile_eq_nil_iff.mp empty
        intro member
        simpa using this _ member)
    have : next = equalsSign := by
      simpa [dropped] using List.head_dropWhile_not (· != equalsSign) kv (by simp [dropped])
    subst this
    exact ⟨rest, by rw [beforeEquals, ← dropped, List.takeWhile_append_dropWhile]⟩

end Keys

section Lookup

/-- A later entry shadows an earlier one. -/
theorem lookupEnv_append (front back : List Bytes) (name : Bytes) :
    lookupEnv (front ++ back) name = (lookupEnv back name).or (lookupEnv front name) := by
  simp only [lookupEnv, List.reverse_append, List.find?_append]
  cases List.find? _ back.reverse <;> rfl

theorem lookupEnv_cons (kv : Bytes) (env : List Bytes) (name : Bytes) :
    lookupEnv (kv :: env) name = (lookupEnv env name).or (lookupEnv [kv] name) :=
  lookupEnv_append [kv] env name

theorem lookupEnv_nil (name : Bytes) : lookupEnv [] name = none := rfl

theorem lookupEnv_single (kv name : Bytes) :
    lookupEnv [kv] name =
      if envKey kv = some name then some (kv.drop (name.length + 1)) else none := by
  by_cases filed : envKey kv = some name <;> simp [lookupEnv, filed]

/-- The map's entries, each `k=v` with a plain key, give each key its value. -/
theorem lookupEnv_map_assignment {env : List (Bytes × Bytes)}
    (plain : ∀ entry ∈ env, entry.1 ≠ [] ∧ equalsSign ∉ entry.1)
    (distinct : (env.map Prod.fst).Nodup) (name : Bytes) :
    lookupEnv (env.map assignment) name = env.lookup name := by
  induction env with
  | nil => rfl
  | cons entry env induction =>
      obtain ⟨key, value⟩ := entry
      have ⟨nonempty, free⟩ := plain (key, value) (.head _)
      have assigned : assignment (key, value) = key ++ equalsSign :: value := by
        simp [assignment, equalsSign]
        rfl
      simp only [List.map_cons, List.nodup_cons, List.mem_map] at distinct
      rw [List.map_cons, lookupEnv_cons, induction (fun e m => plain e (.tail _ m)) distinct.2,
        lookupEnv_single, assigned, envKey_append nonempty free]
      by_cases same : key = name
      · subst same
        have absent : env.lookup key = none := List.lookup_eq_none_iff.mpr fun entry member =>
          bne_iff_ne.mpr fun equal => distinct.1 ⟨entry, member, equal.symm⟩
        simp [absent, List.lookup_cons]
      · simp [same, List.lookup_cons, beq_false_of_ne (Ne.symm same)]

/-- `dedupScan` finds what the unscanned entries would, unless the key was seen. -/
theorem find?_dedupScan {name : Bytes} :
    ∀ {seen entries : List Bytes}, (∀ kv ∈ entries, 0 ∉ kv) →
      (dedupScan seen entries).1.find? (fun kv => envKey kv = some name) =
        if name ∈ seen then none else entries.find? fun kv => envKey kv = some name
  | seen, [], _ => by simp [dedupScan]
  | seen, kv :: rest, clean => by
      have later := @find?_dedupScan name seen rest fun kv member => clean kv (.tail _ member)
      simp only [dedupScan, if_neg (clean kv (.head _))]
      split
      case h_1 unfiled =>
        split <;> simp [later, unfiled, List.find?_cons]
      case h_2 key filed =>
        split
        · rename_i seenKey
          rw [later]
          by_cases inSeen : name ∈ seen
          · simp [inSeen]
          · have : key ≠ name := fun same => inSeen (same ▸ seenKey)
            simp [inSeen, List.find?_cons, filed, this]
        · rename_i fresh
          have step := @find?_dedupScan name (key :: seen) rest
            fun kv member => clean kv (.tail _ member)
          by_cases same : key = name
          · subst same
            simp [List.find?_cons, filed, fresh]
          · simp [List.find?_cons, filed, same, step, Ne.symm same]

theorem dedupScan_error : ∀ {seen entries : List Bytes}, (∀ kv ∈ entries, 0 ∉ kv) →
    (dedupScan seen entries).2 = false
  | _, [], _ => rfl
  | seen, kv :: rest, clean => by
      have later := fun seen =>
        @dedupScan_error seen rest fun kv member => clean kv (.tail _ member)
      simp only [dedupScan, if_neg (clean kv (.head _))]
      split
      · split <;> simp [later]
      · split <;> simp [later]

/-- Deduplication keeps what every name reads. -/
theorem lookupEnv_dedupEnv {env : List Bytes} (clean : ∀ kv ∈ env, 0 ∉ kv) (name : Bytes) :
    lookupEnv (dedupEnv env).1 name = lookupEnv env name := by
  simp only [lookupEnv, dedupEnv, List.reverse_reverse]
  rw [find?_dedupScan fun kv member => clean kv (List.mem_reverse.mp member)]
  simp

theorem dedupEnv_error {env : List Bytes} (clean : ∀ kv ∈ env, 0 ∉ kv) : (dedupEnv env).2 = false :=
  dedupScan_error fun kv member => clean kv (List.mem_reverse.mp member)

end Lookup

section Strip

/-- The strip loop over the first `index` entries filters them and leaves the
rest. -/
theorem stripEnvLoop_eq : ∀ (index : Nat) (env : List Bytes), index ≤ env.length →
    stripEnvLoop index env = (env.take index).filter (fun kv => !strippedEntry kv) ++ env.drop index
  | 0, env, _ => by simp [stripEnvLoop]
  | index + 1, env, inside => by
      have bound : index < env.length := by omega
      obtain ⟨kv, found⟩ : ∃ kv, env[index]? = some kv :=
        ⟨env[index], List.getElem?_eq_getElem bound⟩
      have taken : env.take (index + 1) = env.take index ++ [kv] := by simp [List.take_succ, found]
      have dropped : env.drop index = kv :: env.drop (index + 1) := by
        rw [List.drop_eq_getElem_cons (by omega)]
        simp [(List.getElem?_eq_some_iff.mp found).2]
      simp only [stripEnvLoop, found, Option.map_some', Option.some.injEq]
      split
      · rename_i strip
        have shorter : index ≤ (env.eraseIdx index).length := by
          rw [List.length_eraseIdx]
          split <;> omega
        have within : index ≤ env.length := by omega
        have erasedTake : (env.eraseIdx index).take index = env.take index := by
          simp [List.eraseIdx_eq_take_drop_succ, List.take_append_eq_append_take, within]
        have erasedDrop : (env.eraseIdx index).drop index = env.drop (index + 1) := by
          simp [List.eraseIdx_eq_take_drop_succ, List.drop_append_eq_append_drop, within]
        rw [stripEnvLoop_eq index _ shorter, erasedTake, erasedDrop, taken, List.filter_append]
        simp [strip]
      · rename_i keep
        rw [stripEnvLoop_eq index env (by omega), taken, List.filter_append, dropped]
        simp [keep]

/-- The loop removes exactly the entries with one of the two prefixes. -/
theorem stripEnvLoop_length (env : List Bytes) :
    stripEnvLoop env.length env = env.filter fun kv => !strippedEntry kv := by
  simp [stripEnvLoop_eq env.length env le_rfl]

theorem strippedEntry_iff (kv : Bytes) :
    strippedEntry kv = true ↔ ∃ name ∈ claudeNames, ∃ rest, kv = name ++ equalsSign :: rest := by
  simp only [strippedEntry, List.any_eq_true, List.isPrefixOf_iff_prefix]
  constructor
  · rintro ⟨name, member, rest, split⟩
    exact ⟨name, member, rest, by rw [← split]; simp [equalsSign]; rfl⟩
  · rintro ⟨name, member, rest, rfl⟩
    exact ⟨name, member, rest, by simp [equalsSign]; rfl⟩

theorem claudeNames_plain : ∀ name ∈ claudeNames,
    name ≠ [] ∧ equalsSign ∉ name ∧ name.head? ≠ some equalsSign := by
  decide

/-- After the filter, a name other than the two reads what it read before, and
the two read nothing. -/
theorem lookupEnv_filter_stripped (env : List Bytes) (name : Bytes) :
    lookupEnv (env.filter fun kv => !strippedEntry kv) name =
      if name ∈ claudeNames then none else lookupEnv env name := by
  simp only [lookupEnv, ← List.filter_reverse, List.find?_filter]
  split
  · rename_i claude
    obtain ⟨nonempty, free, plain⟩ := claudeNames_plain name claude
    rw [List.find?_eq_none.mpr]
    · rfl
    · intro kv _ both
      simp only [Bool.not_eq_true', decide_eq_true_eq, Bool.not_eq_eq_eq_not, Bool.not_true] at both
      obtain ⟨rest, rfl⟩ := envKey_eq_some both.2 nonempty plain
      exact absurd ((strippedEntry_iff _).mpr ⟨name, claude, rest, rfl⟩) (by simp [both.1])
  · rename_i other
    congr 2
    funext kv
    by_cases filed : envKey kv = some name
    · have kept : strippedEntry kv = false := by
        by_contra strip
        obtain ⟨stripName, member, rest, rfl⟩ :=
          (strippedEntry_iff kv).mp (by simpa using strip)
        have := (claudeNames_plain stripName member)
        rw [envKey_append this.1 this.2.1] at filed
        exact other (Option.some.inj filed ▸ member)
      simp [kept, filed]
    · simp [filed]

end Strip

section Child

theorem mem_dedupScan {kv : Bytes} : ∀ {seen entries : List Bytes},
    kv ∈ (dedupScan seen entries).1 → kv ∈ entries
  | _, [], member => by simp [dedupScan] at member
  | seen, first :: rest, member => by
      simp only [dedupScan] at member
      split at member
      · exact .tail _ (mem_dedupScan member)
      · split at member
        · split at member
          · exact .tail _ (mem_dedupScan member)
          · rcases List.mem_cons.mp member with rfl | later
            · exact .head _
            · exact .tail _ (mem_dedupScan later)
        · split at member
          · exact .tail _ (mem_dedupScan member)
          · rcases List.mem_cons.mp member with rfl | later
            · exact .head _
            · exact .tail _ (mem_dedupScan later)

theorem lookupEnv_pwdEntry (dir : Bytes) (absDir : Option Bytes) (name : Bytes) :
    lookupEnv (pwdEntry dir absDir) name =
      if dir ≠ [] ∧ name = ascii "PWD" then absDir else none := by
  unfold pwdEntry
  split
  · simp [*, lookupEnv_nil]
  · cases absDir with
    | none => simp [lookupEnv_nil]
    | some pwd =>
        have entry : ascii "PWD=" ++ pwd = ascii "PWD" ++ equalsSign :: pwd := rfl
        have filed : envKey (ascii "PWD" ++ equalsSign :: pwd) = some (ascii "PWD") :=
          envKey_append (by decide) (by decide) pwd
        rw [Option.map_some', Option.toList_some, lookupEnv_single, entry, filed]
        by_cases same : name = ascii "PWD"
        · subst same
          rw [if_pos rfl, drop_append_cons]
          simp [*]
        · simp [*, Ne.symm same]

theorem pwdEntry_clean {dir : Bytes} {absDir : Option Bytes} (cleanDir : ∀ pwd ∈ absDir, 0 ∉ pwd) :
    ∀ kv ∈ pwdEntry dir absDir, 0 ∉ kv := by
  unfold pwdEntry
  split
  · simp
  · cases absDir <;> simp_all [Option.mem_def]
    decide

/-- What `c.Env` gives each name before the strip loop: the map's value, or
else the inherited one, with `PWD` first updated on the non-empty path. -/
theorem lookupEnv_spawnEnv {environ : List Bytes} {env : List (Bytes × Bytes)} {cwd : Bytes}
    {absDir : Option Bytes} (clean : ∀ kv ∈ environ, 0 ∉ kv) (cleanDir : ∀ pwd ∈ absDir, 0 ∉ pwd)
    (plain : ∀ entry ∈ env, entry.1 ≠ [] ∧ equalsSign ∉ entry.1)
    (distinct : (env.map Prod.fst).Nodup) (name : Bytes) :
    lookupEnv (spawnEnv environ env cwd absDir) name = (env.lookup name).or
      (lookupEnv (if env = [] then environ else environ ++ pwdEntry cwd absDir) name) := by
  unfold spawnEnv
  split
  · simp [*]
  · have cleanBase : ∀ kv ∈ environ ++ pwdEntry cwd absDir, 0 ∉ kv := fun kv member =>
      (List.mem_append.mp member).elim (clean kv) (pwdEntry_clean cleanDir kv)
    rw [lookupEnv_append, lookupEnv_map_assignment plain distinct, cmdEnviron,
      lookupEnv_dedupEnv cleanBase]

/-- The environment the child starts with: the strip loop removes exactly the
entries with the two prefixes, `Start` succeeds, neither name is left, every
other name in the map has the map's value, and every other name has the
inherited value, with `PWD` set to the working directory on the non-empty path
only. -/
theorem childEnv_names (environ : List Bytes) (env : List (Bytes × Bytes)) (cwd : Bytes)
    (absDir : Option Bytes) (clean : ∀ kv ∈ environ, 0 ∉ kv) (cleanDir : ∀ pwd ∈ absDir, 0 ∉ pwd)
    (plain : ∀ entry ∈ env, entry.1 ≠ [] ∧ equalsSign ∉ entry.1 ∧ 0 ∉ entry.1 ∧ 0 ∉ entry.2)
    (distinct : (env.map Prod.fst).Nodup) :
    stripEnvLoop (spawnEnv environ env cwd absDir).length (spawnEnv environ env cwd absDir) =
        (spawnEnv environ env cwd absDir).filter (fun kv => !strippedEntry kv) ∧
      ∃ final, childEnv environ env cwd absDir = some final ∧
        ∀ name, lookupEnv final name =
          if name ∈ claudeNames then none
          else (env.lookup name).or
            (lookupEnv (if env = [] then environ else environ ++ pwdEntry cwd absDir) name) := by
  have stripped := stripEnvLoop_length (spawnEnv environ env cwd absDir)
  have cleanAll : ∀ kv ∈ (spawnEnv environ env cwd absDir).filter (fun kv => !strippedEntry kv),
      0 ∉ kv := by
    intro kv member
    have member := (List.mem_filter.mp member).1
    unfold spawnEnv at member
    split at member
    · exact clean kv member
    · rcases List.mem_append.mp member with base | assigned
      · simp only [cmdEnviron, dedupEnv, List.mem_reverse] at base
        rcases List.mem_append.mp (List.mem_reverse.mp (mem_dedupScan base)) with old | pwd
        · exact clean kv old
        · exact pwdEntry_clean cleanDir kv pwd
      · obtain ⟨⟨key, value⟩, entry, rfl⟩ := List.mem_map.mp assigned
        have := plain _ entry
        simp_all [assignment]
        decide
  refine ⟨stripped, (dedupEnv ((spawnEnv environ env cwd absDir).filter
    fun kv => !strippedEntry kv)).1, by simp [childEnv, stripped, dedupEnv_error cleanAll],
    fun name => ?_⟩
  rw [lookupEnv_dedupEnv cleanAll, lookupEnv_filter_stripped,
    lookupEnv_spawnEnv clean cleanDir (fun entry member => ⟨(plain entry member).1,
      (plain entry member).2.1⟩) distinct]

theorem childEnv_names_overlay :
    (∀ kv ∈ [ascii "PWD=/srv", ascii "CLAUDECODE=1"], 0 ∉ kv) ∧
      (∀ pwd ∈ some (ascii "/work"), 0 ∉ pwd) ∧
      (∀ entry ∈ [(ascii "X", ascii "1")], entry.1 ≠ [] ∧ equalsSign ∉ entry.1 ∧ 0 ∉ entry.1 ∧
        0 ∉ entry.2) ∧
      ([(ascii "X", ascii "1")].map Prod.fst).Nodup ∧
      ∃ final, childEnv [ascii "PWD=/srv", ascii "CLAUDECODE=1"] [(ascii "X", ascii "1")]
          (ascii "/work") (some (ascii "/work")) = some final ∧
        ∀ name, lookupEnv final name =
          if name ∈ claudeNames then none
          else ([(ascii "X", ascii "1")].lookup name).or (lookupEnv
            (if [(ascii "X", ascii "1")] = [] then [ascii "PWD=/srv", ascii "CLAUDECODE=1"]
            else [ascii "PWD=/srv", ascii "CLAUDECODE=1"] ++
              pwdEntry (ascii "/work") (some (ascii "/work"))) name) := by
  have clean : ∀ kv ∈ [ascii "PWD=/srv", ascii "CLAUDECODE=1"], 0 ∉ kv := by decide
  have cleanDir : ∀ pwd ∈ some (ascii "/work"), 0 ∉ pwd := by simp [Option.mem_def]; decide
  have plain : ∀ entry ∈ [(ascii "X", ascii "1")], entry.1 ≠ [] ∧ equalsSign ∉ entry.1 ∧
      0 ∉ entry.1 ∧ 0 ∉ entry.2 := by decide
  have distinct : ([(ascii "X", ascii "1")].map Prod.fst).Nodup := by decide
  exact ⟨clean, cleanDir, plain, distinct,
    (childEnv_names _ _ _ _ clean cleanDir plain distinct).2⟩

example :
    (childEnv [ascii "PWD=/srv"] [(ascii "X", ascii "1")] (ascii "/work")
        (some (ascii "/work"))).bind (lookupEnv · (ascii "PWD")) = some (ascii "/work") ∧
      (childEnv [ascii "PWD=/srv"] [] (ascii "/work") (some (ascii "/work"))).bind
        (lookupEnv · (ascii "PWD")) = some (ascii "/srv") := by
  decide

end Child

end CoworkService.Native
