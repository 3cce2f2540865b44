import Mathlib.Data.List.Infix

/-!
# `envsec exec`: the environment of the command

`ExecCmd`'s `RunE` runs the command under `/bin/sh -c` with `os.Environ()` followed by one
`Name=Value` entry per stored variable. `os/exec` de-duplicates that list before it starts the
child (`dedupEnvCase`, as on Linux and macOS): scanning from the end, an entry with a NUL is
dropped and makes `Run` fail, an entry without `=` is kept unless it is empty, and of the
entries with a key only the last one for each key is kept. A Go string is modelled by its
characters.

* `dedupKey_eq_some_iff`: for a name with no `=`, the key `dedupEnvCase` gives an entry is the
  name exactly when `getenv` reads the entry as the name's.
* `getenv_dedupEnv`: after de-duplication, `getenv(n)` finds the last entry for `n`.
* `stored_value_wins`: for names that are not empty and have no `=`, and no NUL anywhere, the
  command sees the last stored value of each name, and the local one for the other names.
* `command_env_keys`: the command's environment keeps local and stored entries in order,
  adds none, and has every key of them exactly once.
-/

namespace Jetpack.Envsec

/-- `envsec.EnvVar`: a stored variable, as `Store.List` returns it. -/
structure EnvVar where
  name : String
  value : String
  deriving DecidableEq, Repr

/-- `fmt.Sprintf("%s=%s", envVar.Name, envVar.Value)`. -/
def EnvVar.entry (v : EnvVar) : List Char := v.name.toList ++ '=' :: v.value.toList

theorem EnvVar.drop_entry (v : EnvVar) : v.entry.drop (v.name.toList.length + 1) = v.value.toList :=
  List.drop_append 1

/-- `strings.Index(s, "=")`; `none` is -1. -/
def indexEq : List Char → Option Nat
  | [] => none
  | c :: s => if c = '=' then some 0 else (indexEq s).map (· + 1)

/-- The key `dedupEnvCase` gives an entry: the part before its first `=`, or, for an entry
that starts with `=`, up to the next `=` (the empty key when there is none). `none` for an
entry without `=`. -/
def dedupKey (kv : List Char) : Option (List Char) :=
  match indexEq kv with
  | none => none
  | some 0 => some (kv.take (((indexEq (kv.drop 1)).map (· + 1)).getD 0))
  | some i => some (kv.take i)

/-- One turn of `dedupEnvCase`'s loop, from the end of the list: the entries kept so far (in
the order Go appends them), the keys seen, and whether an entry with NUL was met. -/
def dedupStep : List (List Char) × List (List Char) × Bool → List Char →
    List (List Char) × List (List Char) × Bool
  | (out, saw, err), kv =>
    if '\x00' ∈ kv then (out, saw, true)
    else match dedupKey kv with
      | none => (if kv = [] then out else out ++ [kv], saw, err)
      | some k => if k ∈ saw then (out, saw, err) else (out ++ [kv], saw ++ [k], err)

/-- The loop of `dedupEnvCase` over `env`, from its last entry to its first. -/
def dedupScan (env : List (List Char)) : List (List Char) × List (List Char) × Bool :=
  env.reverse.foldl dedupStep ([], [], false)

/-- `dedupEnvCase(false, false, env)`: the entries kept, in their order, and whether it
returns `exec: environment variable contains NUL`. -/
def dedupEnv (env : List (List Char)) : List (List Char) × Bool :=
  ((dedupScan env).1.reverse, (dedupScan env).2.2)

/-- `getenv(name)` in the command: the value of the first entry `name=value`. -/
def getenv (env : List (List Char)) (name : String) : Option String :=
  env.findSome? fun kv =>
    if (name.toList ++ ['=']).isPrefixOf kv then some ⟨kv.drop (name.toList.length + 1)⟩ else none

/-- The error `Cmd.Start` returns for an entry with NUL. -/
def nulError : String := "exec: environment variable contains NUL"

/-- `RunE` of `ExecCmd`, from the store's answer on: the environment the command is started
with, or the error `RunE` returns. `environ` is `os.Environ()`; `list` is what
`Store.List` returned. -/
def runE (environ : List (List Char)) (list : Except String (List EnvVar)) :
    Except String (List (List Char)) := do
  let envVars ← list
  let env := dedupEnv (environ ++ envVars.map EnvVar.entry)
  if env.2 then throw nulError else pure env.1

/-! ### Keys and names -/

theorem indexEq_eq_some {kv : List Char} {i : Nat} (h : indexEq kv = some i) :
    ∃ a b, kv = a ++ '=' :: b ∧ '=' ∉ a ∧ a.length = i := by
  induction kv generalizing i with
  | nil => cases h
  | cons c s ih =>
    simp only [indexEq] at h
    split at h
    · cases h; exact ⟨[], s, by simp_all, by simp, rfl⟩
    · rename_i hc
      obtain ⟨j, hj, rfl⟩ := Option.map_eq_some'.1 h
      obtain ⟨a, b, rfl, ha, rfl⟩ := ih hj
      exact ⟨c :: a, b, rfl, by simp [ha, Ne.symm hc], rfl⟩

theorem indexEq_append {a b : List Char} (ha : '=' ∉ a) : indexEq (a ++ '=' :: b) = some a.length := by
  induction a with
  | nil => simp [indexEq]
  | cons c a ih =>
    simp only [List.mem_cons, not_or] at ha
    simp [indexEq, Ne.symm ha.1, ih ha.2]

/-- **For a name with no `=`, `dedupEnvCase` keys an entry by the name exactly when the entry
starts with `name=`**, which is how `getenv` reads it. -/
theorem dedupKey_eq_some_iff {n kv : List Char} (hn : n ≠ []) (he : '=' ∉ n) :
    dedupKey kv = some n ↔ n ++ ['='] <+: kv := by
  constructor
  · intro h
    cases hi : indexEq kv with
    | none => simp [dedupKey, hi] at h
    | some i =>
      obtain ⟨a, b, rfl, -, rfl⟩ := indexEq_eq_some hi
      rcases a with _ | ⟨c, a⟩
      · simp only [List.nil_append, dedupKey, indexEq, if_true, List.drop_one, List.tail_cons,
          Option.some.injEq] at h
        cases hm : ((indexEq b).map (· + 1)).getD 0 with
        | zero => rw [hm, List.take_zero] at h; exact absurd h.symm hn
        | succ m => rw [hm, List.take_succ_cons] at h; exact absurd (h ▸ List.mem_cons_self '=' _) he
      · simp only [dedupKey, hi, List.length_cons, Option.some.injEq] at h
        have hca : n = c :: a := by rw [← h]; simp
        subst hca
        exact ⟨b, by simp⟩
  · rintro ⟨b, rfl⟩
    obtain ⟨c, n, rfl⟩ := List.exists_cons_of_ne_nil hn
    unfold dedupKey
    rw [List.append_assoc, List.singleton_append, indexEq_append he]
    simp

/-! ### `getenv` -/

theorem getenv_cons (kv : List Char) (env : List (List Char)) (name : String) :
    getenv (kv :: env) name =
      if name.toList ++ ['='] <+: kv then some ⟨kv.drop (name.toList.length + 1)⟩ else getenv env name := by
  simp only [getenv, List.findSome?_cons]
  by_cases h : name.toList ++ ['='] <+: kv
  · rw [if_pos (List.isPrefixOf_iff_prefix.2 h), if_pos h]
  · rw [if_neg (by rwa [List.isPrefixOf_iff_prefix]), if_neg h]

@[simp] theorem getenv_nil (name : String) : getenv [] name = none := rfl

theorem getenv_append (l₁ l₂ : List (List Char)) (name : String) :
    getenv (l₁ ++ l₂) name = (getenv l₁ name).or (getenv l₂ name) :=
  List.findSome?_append

theorem getenv_eq_none_iff {env : List (List Char)} {name : String} :
    getenv env name = none ↔ ∀ kv ∈ env, ¬ name.toList ++ ['='] <+: kv := by
  induction env with
  | nil => simp [getenv]
  | cons kv env ih =>
    rw [getenv_cons, List.forall_mem_cons]
    by_cases h : name.toList ++ ['='] <+: kv
    · rw [if_pos h]; exact ⟨nofun, fun h' => absurd h h'.1⟩
    · rw [if_neg h, ih]; exact ⟨fun h' => ⟨h, h'⟩, And.right⟩

/-! ### De-duplication -/

theorem dedupScan_cons (kv : List Char) (env : List (List Char)) :
    dedupScan (kv :: env) = dedupStep (dedupScan env) kv := by
  simp only [dedupScan, List.reverse_cons, List.foldl_append, List.foldl_cons, List.foldl_nil]

/-- The keys `dedupEnvCase` has seen are the keys of the entries it kept. -/
theorem mem_saw_iff (env : List (List Char)) (k : List Char) :
    k ∈ (dedupScan env).2.1 ↔ ∃ kv ∈ (dedupScan env).1, dedupKey kv = some k := by
  induction env with
  | nil => simp [dedupScan]
  | cons kv env ih =>
    rw [dedupScan_cons]
    generalize dedupScan env = st at ih
    obtain ⟨out, saw, err⟩ := st
    by_cases hz : '\x00' ∈ kv
    · simpa [dedupStep, hz] using ih
    · cases hk : dedupKey kv with
      | none =>
        simp only [dedupStep, if_neg hz, hk]
        split_ifs
        · exact ih
        · simp only [List.mem_append, List.mem_singleton, or_and_right, exists_or, exists_eq_left, hk,
            reduceCtorEq, or_false]
          exact ih
      | some k' =>
        simp only [dedupStep, if_neg hz, hk]
        split_ifs with hs
        · exact ih
        · simp only [List.mem_append, List.mem_singleton, or_and_right, exists_or, exists_eq_left, hk,
            Option.some.injEq, ih]
          exact or_congr_right eq_comm

/-- One entry more, at the front: `dedupEnvCase` reaches it last. -/
theorem dedupEnv_cons (kv : List Char) (env : List (List Char)) :
    dedupEnv (kv :: env) =
      if '\x00' ∈ kv then ((dedupEnv env).1, true)
      else match dedupKey kv with
        | none => (if kv = [] then (dedupEnv env).1 else kv :: (dedupEnv env).1, (dedupEnv env).2)
        | some k => (if ∃ kv' ∈ (dedupEnv env).1, dedupKey kv' = some k then (dedupEnv env).1
            else kv :: (dedupEnv env).1, (dedupEnv env).2) := by
  have hsaw := mem_saw_iff env
  simp only [dedupEnv, dedupScan_cons]
  generalize dedupScan env = st at hsaw
  obtain ⟨out, saw, err⟩ := st
  by_cases hz : '\x00' ∈ kv
  · simp [dedupStep, hz]
  · cases hk : dedupKey kv with
    | none =>
      simp only [dedupStep, if_neg hz, hk]
      split_ifs <;> simp
    | some k =>
      have hs : (∃ kv' ∈ out.reverse, dedupKey kv' = some k) ↔ k ∈ saw := by simp [hsaw]
      simp only [dedupStep, if_neg hz, hk, hs]
      split_ifs <;> simp

/-- `dedupEnvCase` returns its error exactly when an entry has a NUL. -/
theorem dedupEnv_snd (env : List (List Char)) : (dedupEnv env).2 = false ↔ ∀ kv ∈ env, '\x00' ∉ kv := by
  induction env with
  | nil => exact ⟨fun _ => nofun, fun _ => rfl⟩
  | cons kv env ih =>
    rw [dedupEnv_cons, List.forall_mem_cons]
    by_cases hz : '\x00' ∈ kv
    · simp [hz]
    · rw [if_neg hz]
      split <;> simp [hz, ih]

/-- `dedupEnvCase` keeps an entry or drops it. -/
theorem dedupEnv_fst_cons (kv : List Char) (env : List (List Char)) :
    (dedupEnv (kv :: env)).1 = (dedupEnv env).1 ∨ (dedupEnv (kv :: env)).1 = kv :: (dedupEnv env).1 := by
  rw [dedupEnv_cons]
  by_cases hz : '\x00' ∈ kv
  · exact .inl (by rw [if_pos hz])
  · rw [if_neg hz]; split <;> split_ifs <;> simp

/-- What `dedupEnvCase` keeps, it keeps in order, and adds nothing. -/
theorem dedupEnv_sublist : ∀ env : List (List Char), (dedupEnv env).1.Sublist env
  | [] => List.Sublist.slnil
  | kv :: env => by
    rcases dedupEnv_fst_cons kv env with h | h <;> rw [h]
    · exact (dedupEnv_sublist env).cons kv
    · exact (dedupEnv_sublist env).cons₂ kv

/-- No two entries `dedupEnvCase` keeps have the same key. -/
theorem dedupEnv_keys_nodup : ∀ env : List (List Char), ((dedupEnv env).1.filterMap dedupKey).Nodup
  | [] => List.nodup_nil
  | kv :: env => by
    have ih := dedupEnv_keys_nodup env
    rw [dedupEnv_cons]
    by_cases hz : '\x00' ∈ kv
    · rw [if_pos hz]; exact ih
    · rw [if_neg hz]
      cases hk : dedupKey kv with
      | none => dsimp only; split_ifs <;> simp [hk, ih]
      | some k =>
        dsimp only
        split_ifs with hs
        · exact ih
        · rw [List.filterMap_cons_some hk]
          exact List.nodup_cons.2 ⟨fun hm => hs (by simpa using hm), ih⟩

/-- With no NUL anywhere, every key of the list is the key of an entry `dedupEnvCase` keeps. -/
theorem dedupEnv_keys {env : List (List Char)} (hz : ∀ kv ∈ env, '\x00' ∉ kv) (k : List Char) :
    (∃ kv ∈ (dedupEnv env).1, dedupKey kv = some k) ↔ ∃ kv ∈ env, dedupKey kv = some k := by
  induction env with
  | nil => rfl
  | cons kv env ih =>
    have ih := ih fun kv' h => hz kv' (.tail _ h)
    rw [dedupEnv_cons, if_neg (hz kv (.head _))]
    cases hk : dedupKey kv with
    | none =>
      dsimp only
      split_ifs <;> simp [hk, ih]
    | some k' =>
      dsimp only
      split_ifs with hs
      · rw [ih]
        simp only [List.mem_cons, or_and_right, exists_or, exists_eq_left, hk, Option.some.injEq]
        refine (or_iff_right_of_imp ?_).symm
        rintro rfl
        exact ih.1 hs
      · simp [hk, ih]

/-- **After de-duplication, `getenv(n)` finds the last entry for `n`**, for a name that is not
empty and has no `=`, when no entry has a NUL. -/
theorem getenv_dedupEnv {env : List (List Char)} (hz : ∀ kv ∈ env, '\x00' ∉ kv) {n : String}
    (hn : n ≠ "") (he : '=' ∉ n.toList) :
    getenv (dedupEnv env).1 n = getenv env.reverse n := by
  have hkey := fun kv => @dedupKey_eq_some_iff _ kv (fun h => hn (String.ext h)) he
  induction env with
  | nil => rfl
  | cons kv env ih =>
    rw [List.reverse_cons, getenv_append, ← ih fun kv' h => hz kv' (.tail _ h), getenv_cons, getenv_nil]
    by_cases hp : n.toList ++ ['='] <+: kv
    · -- an entry for `n`: kept exactly when no later one is
      rw [dedupEnv_cons, if_neg (hz kv (.head _)), (hkey kv).2 hp, if_pos hp]
      dsimp only
      split_ifs with hsaw
      · obtain ⟨kv', hm, hk'⟩ := hsaw
        obtain ⟨x, hx⟩ := Option.ne_none_iff_exists'.1
          fun h0 => getenv_eq_none_iff.1 h0 kv' hm ((hkey kv').1 hk')
        rw [hx]; rfl
      · rw [getenv_eq_none_iff.2 fun kv' hm hp' => hsaw ⟨kv', hm, (hkey kv').2 hp'⟩, getenv_cons,
          if_pos hp]
        rfl
    · -- another entry: kept or not, `getenv` passes it
      rw [if_neg hp, Option.or_none]
      rcases dedupEnv_fst_cons kv env with h | h <;> rw [h]
      rw [getenv_cons, if_neg hp]

/-! ### The command's environment -/

/-- The stored entries, latest first: `getenv(n)` finds the last variable named `n`. -/
theorem getenv_entries {V : List EnvVar} (hV : ∀ v ∈ V, v.name ≠ "" ∧ '=' ∉ v.name.toList) {n : String}
    (hn : n ≠ "") (he : '=' ∉ n.toList) :
    getenv (V.map EnvVar.entry).reverse n = (V.filter (·.name = n)).getLast?.map (·.value) := by
  have hkey := fun kv => @dedupKey_eq_some_iff _ kv (fun h => hn (String.ext h)) he
  induction V using List.reverseRecOn with
  | nil => rfl
  | append_singleton V v ih =>
    have ih := ih fun w hw => hV w (List.mem_append_left _ hw)
    obtain ⟨hv, hve⟩ := hV v (List.mem_append_right _ (List.mem_singleton_self v))
    have hvkey : dedupKey v.entry = some v.name.toList :=
      (dedupKey_eq_some_iff (fun h => hv (String.ext h)) hve).2 ⟨v.value.toList, by simp [EnvVar.entry]⟩
    rw [List.map_append, List.reverse_append, getenv_append, ih, List.filter_append, List.getLast?_append]
    by_cases hvn : v.name = n
    · subst hvn
      have hp : v.name.toList ++ ['='] <+: v.entry := (hkey v.entry).1 hvkey
      rw [List.map_singleton, List.reverse_singleton, getenv_cons, if_pos hp, v.drop_entry]
      simp
    · have hp : ¬ n.toList ++ ['='] <+: v.entry := fun h =>
        hvn (String.ext (Option.some.inj (hvkey.symm.trans ((hkey v.entry).2 h))))
      rw [List.map_singleton, List.reverse_singleton, getenv_cons, if_neg hp]
      simp [hvn]

/-- **The command sees the last stored value of each name, and the local value of the other
names.** When no stored name is empty or has `=`: `RunE` starts the command exactly when no
entry has a NUL, and then, for every name that is not empty and has no `=`, `getenv` there
gives the value of the last stored variable with that name, else the last local value, else
nothing. -/
theorem stored_value_wins (E : List (List Char)) (V : List EnvVar)
    (hV : ∀ v ∈ V, v.name ≠ "" ∧ '=' ∉ v.name.toList) :
    ((∃ env, runE E (.ok V) = .ok env) ↔ ∀ kv ∈ E ++ V.map EnvVar.entry, '\x00' ∉ kv) ∧
    ∀ env, runE E (.ok V) = .ok env → ∀ n : String, n ≠ "" → '=' ∉ n.toList →
      getenv env n = ((V.filter (·.name = n)).getLast?.map (·.value)).or (getenv E.reverse n) := by
  have hrun : runE E (.ok V) = if (dedupEnv (E ++ V.map EnvVar.entry)).2 then .error nulError
      else .ok (dedupEnv (E ++ V.map EnvVar.entry)).1 := by
    simp only [runE, bind, Except.bind]; split <;> rfl
  have hok : ∀ env, runE E (.ok V) = .ok env →
      (∀ kv ∈ E ++ V.map EnvVar.entry, '\x00' ∉ kv) ∧ env = (dedupEnv (E ++ V.map EnvVar.entry)).1 := by
    intro env h
    rw [hrun] at h
    split at h
    · cases h
    · rename_i hz
      exact ⟨(dedupEnv_snd _).1 (by simpa using hz), (Except.ok.inj h).symm⟩
  refine ⟨⟨fun ⟨env, h⟩ => (hok env h).1, fun hz => ⟨_, by rw [hrun, (dedupEnv_snd _).2 hz]; rfl⟩⟩,
    fun env h n hn he => ?_⟩
  obtain ⟨hz, rfl⟩ := hok env h
  rw [getenv_dedupEnv hz hn he, List.reverse_append, getenv_append, getenv_entries hV hn he]

theorem stored_value_wins_override :
    (∀ v ∈ [EnvVar.mk "A" "3"], v.name ≠ "" ∧ '=' ∉ v.name.toList) ∧
      ((∃ env, runE ["A=1".toList, "B=2".toList] (.ok [⟨"A", "3"⟩]) = .ok env) ↔
        ∀ kv ∈ ["A=1".toList, "B=2".toList] ++ [EnvVar.mk "A" "3"].map EnvVar.entry, '\x00' ∉ kv) ∧
      ∀ env, runE ["A=1".toList, "B=2".toList] (.ok [⟨"A", "3"⟩]) = .ok env →
        ∀ n : String, n ≠ "" → '=' ∉ n.toList →
          getenv env n = (([EnvVar.mk "A" "3"].filter (·.name = n)).getLast?.map (·.value)).or
            (getenv ["A=1".toList, "B=2".toList].reverse n) := by
  have hV : ∀ v ∈ [EnvVar.mk "A" "3"], v.name ≠ "" ∧ '=' ∉ v.name.toList := by decide
  exact ⟨hV, stored_value_wins _ _ hV⟩

/-- Two stored names the theorem leaves out. One with `=` in it: the command reads its entry
as one for the name before the `=`, which hides the local value of that name. The empty
name, with a value that starts with `=`: `dedupEnvCase` keys the entry by `=`, so an earlier
local entry for the empty name stays, and `getenv` finds that one first. -/
theorem stored_name_with_eq_hides_local :
    runE ["A=1".toList] (.ok [⟨"A=B", "c"⟩]) = .ok ["A=B=c".toList] ∧
      getenv ["A=B=c".toList] "A" = some "B=c" ∧ getenv ["A=1".toList] "A" = some "1" ∧
      runE ["=z".toList] (.ok [⟨"", "=y"⟩]) = .ok ["=z".toList, "==y".toList] ∧
      getenv ["=z".toList, "==y".toList] "" = some "z" :=
  ⟨rfl, rfl, rfl, rfl, rfl⟩

/-! ### What the command is given -/

/-- `RunE` starts the command exactly when no entry has a NUL, with the entries
`dedupEnvCase` keeps. -/
theorem runE_eq_ok {E : List (List Char)} {V : List EnvVar} {env : List (List Char)} :
    runE E (.ok V) = .ok env ↔
      (∀ kv ∈ E ++ V.map EnvVar.entry, '\x00' ∉ kv) ∧ env = (dedupEnv (E ++ V.map EnvVar.entry)).1 := by
  rw [← dedupEnv_snd]
  simp only [runE, bind, Except.bind]
  split
  · rename_i hz
    exact ⟨(fun h => by cases h), fun h => absurd h.1 (by simp [hz])⟩
  · rename_i hz
    rw [Bool.not_eq_true] at hz
    exact ⟨fun h => ⟨hz, (Except.ok.inj h).symm⟩, fun h => by rw [h.2]; rfl⟩

/-- **The command gets each key of its environment once, and nothing more.** When `RunE`
starts the command, the list it hands over keeps entries of `os.Environ()` followed by the
stored ones, in their order, adding none; no two of them have the same key (what `os/exec`
reads as the name); and every key of a local or stored entry is the key of one of them. -/
theorem command_env_keys {E : List (List Char)} {V : List EnvVar} {env : List (List Char)}
    (h : runE E (.ok V) = .ok env) :
    env.Sublist (E ++ V.map EnvVar.entry) ∧ (env.filterMap dedupKey).Nodup ∧
      ∀ k, (∃ kv ∈ env, dedupKey kv = some k) ↔ ∃ kv ∈ E ++ V.map EnvVar.entry, dedupKey kv = some k := by
  obtain ⟨hz, rfl⟩ := runE_eq_ok.1 h
  exact ⟨dedupEnv_sublist _, dedupEnv_keys_nodup _, dedupEnv_keys hz⟩

theorem command_env_keys_override :
    runE ["A=1".toList, "B=2".toList] (.ok [⟨"A", "3"⟩]) = .ok ["B=2".toList, "A=3".toList] ∧
      List.Sublist ["B=2".toList, "A=3".toList] (["A=1".toList, "B=2".toList] ++ [EnvVar.mk "A" "3"].map EnvVar.entry) ∧
      (["B=2".toList, "A=3".toList].filterMap dedupKey).Nodup ∧
      ∀ k, (∃ kv ∈ ["B=2".toList, "A=3".toList], dedupKey kv = some k) ↔
        ∃ kv ∈ ["A=1".toList, "B=2".toList] ++ [EnvVar.mk "A" "3"].map EnvVar.entry, dedupKey kv = some k :=
  ⟨rfl, command_env_keys rfl⟩

end Jetpack.Envsec
