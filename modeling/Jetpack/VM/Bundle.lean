import Jetpack.VM.Machine

/-!
# The data bundle

`fileBundle` derives the bundle's paths from `HostDataDir` when `Start` begins, and
`dataFilePath` derives one path each time a file is needed, making a temporary directory
when `HostDataDir` is empty. `loadStateData` and `saveStateData` read and write the one
value of a state file.

* `dataFilePath_of_ne`, `fileBundle_of_ne`: with `HostDataDir` set, both derive paths
  under it and change nothing.
* `loadStateData_file`, `loadStateData_none`: with `HostDataDir` set, loading changes
  nothing, and returns what `%v` scans from the file (`none` for a missing file).
* `saveStateData_of_ne`: saving leaves the text and a newline in the file.
* `dataFilePath_respects`, `saveStateData_respects`, ...: every function here is a
  configuration step (`World.Configures`), and only `saveStateData` rewrites a state file:
  its own.
-/

namespace Jetpack

open Go

/-- The `dataDirectory` that `fileBundle` returns for the root `dir`. -/
def bundle (dir : String) (isTemp : Bool) : DataDirectory where
  path := dir
  isTemp := isTemp
  init := ⟨dir, ["boot", "default", "init"]⟩
  initrd := ⟨dir, ["boot", "nixos-initrd"]⟩
  kernel := ⟨dir, ["boot", "nixos-kernel"]⟩
  bootstrap := ⟨dir, ["install", "install.sh"]⟩
  cpu := ⟨dir, ["cpu"]⟩
  image := ⟨dir, ["disk.img"]⟩
  id := ⟨dir, ["id"]⟩
  log := ⟨dir, ["log"]⟩
  memory := ⟨dir, ["mem"]⟩

/-- `fileBundle(dir)`. -/
def fileBundle (dir : String) : Go DataDirectory :=
  if dir = "" then do
    let dir ← (host Host.mkdirTemp).wrap "create temporary directory for virtual machine data"
    return bundle dir true
  else return bundle dir false

/-- `vm.dataFilePath(name)`. -/
def dataFilePath (name : String) : Go Path := do
  if (← getVM).hostDataDir = "" then
    let path ← (host Host.mkdirTemp).wrap "create temporary directory for virtual machine data"
    modifyVM fun vm => { vm with hostDataDir := path }
  return ⟨(← getVM).hostDataDir, [name]⟩

/-- `f, err := os.OpenFile(path, flag, perm)`, and when it reports `ErrNotExist`,
`os.MkdirAll(filepath.Dir(path), 0o700)` and the open once more: the pattern of
`saveStateData`, `initLogger`, `rootDisk` and `nvram`. A failed `MkdirAll` is thrown, its
error changed by `mkdirErr`; the open's own error is returned. -/
def openCreating (path : Path) (flag : Flag) (mkdirErr : Error → Error) : Go (Except Error Unit) := do
  let r ← attempt (hostDo (·.openFile path flag))
  match r with
  | .error e =>
    if e.isNotExist then
      (hostDo (·.mkdirAll path.dir)).mapError mkdirErr
      attempt (hostDo (·.openFile path flag))
    else return r
  | .ok () => return r

/-- `vm.loadStateData(name, value)`, with `scan` the `fmt.Fscanf(f, "%v", value)` of the
value's type. The value read, if any, is returned. -/
def loadStateData {α : Type} (name : String) (scan : List Char → Except Error α) : Go (Option α) := do
  let path ← dataFilePath name
  match ← attempt (hostDo (·.openFile path .rdonly)) with
  | .error e => if e.isNotExist then return none else throw e
  | .ok () =>
    let content ← host fun h => (h.read path).map (·, h)
    match scan content with
    | .ok v => return some v
    | .error e => if e = .unexpectedEOF then return none else throw e

/-- `vm.saveStateData(name, value)`, with `text` what `%v` prints for the value. -/
def saveStateData (name : String) (text : List Char) : Go Unit := do
  let path ← dataFilePath name
  match ← openCreating path .truncate id with
  | .error e => throw e
  | .ok () => hostDo fun h => .ok (h.write path (text ++ ['\n']))

/-- `vm.initLogger()`: any failure falls back to `slog.Default()`. -/
def initLogger : Go Unit := do
  let fail : Go Unit := modifyVM fun vm => { vm with logger := some .default }
  match ← attempt (dataFilePath "log") with
  | .error _ => fail
  | .ok path =>
    match ← attempt (openCreating path .append id) with
    | .ok (.ok ()) => modifyVM fun vm => { vm with logger := some (.file path) }
    | _ => fail

/-! ### With `HostDataDir` set -/

namespace Host

/-- Nothing, or a directory, is at `p`. -/
def DirOrFree (h : Host) (p : Path) : Prop := h.fs p = none ∨ h.fs p = some .dir

/-- Nothing, or a file, is at `p`. -/
def FileOrFree (h : Host) (p : Path) : Prop := h.fs p = none ∨ ∃ d, h.fs p = some (.file d)

end Host

section Set

variable {w : World} {r name : String} {flag : Flag} {f : Error → Error}

theorem fileBundle_of_ne {dir : String} (hd : dir ≠ "") (w : World) :
    fileBundle dir w = (.ok (bundle dir false), w) := by
  simp [fileBundle, hd]

theorem dataFilePath_of_ne (hd : w.vm.hostDataDir ≠ "") (name : String) :
    dataFilePath name w = (.ok ⟨w.vm.hostDataDir, [name]⟩, w) := by
  simp [dataFilePath, hd]

theorem openCreating_of_file {d : List Char} (hf : w.host.fs ⟨r, [name]⟩ = some (.file d))
    (hx : flag.excl = false) :
    openCreating ⟨r, [name]⟩ flag f w = (.ok (.ok ()),
      { w with host := if flag.trunc then w.host.setNode ⟨r, [name]⟩ (.file []) else w.host }) := by
  simp [openCreating, hostDo, Host.openFile_of_file hf hx, Except.map]

/-- A missing file is created, after its directory if that is missing too. -/
theorem openCreating_of_none (hf : w.host.fs ⟨r, [name]⟩ = none) (hr : w.host.DirOrFree ⟨r, []⟩)
    (hc : flag.create = true) :
    ∃ h' : Host, openCreating ⟨r, [name]⟩ flag f w =
        (.ok (.ok ()), { w with host := h'.setNode ⟨r, [name]⟩ (.file []) }) ∧
      h'.fs ⟨r, []⟩ = some .dir ∧ ∀ q, q ≠ ⟨r, []⟩ → h'.fs q = w.host.fs q := by
  rcases hr with hr | hr
  · refine ⟨w.host.setNode ⟨r, []⟩ .dir, ?_, by simp, fun q hq => by simp [hq]⟩
    have hp := Host.parentErr_of_none (h := w.host) (p := ⟨r, [name]⟩) (by simp) hr
    have hf' : (w.host.setNode ⟨r, []⟩ .dir).fs ⟨r, [name]⟩ = none := by simp [hf]
    have hp' := Host.parentErr_of_dir (h := w.host.setNode ⟨r, []⟩ .dir) (p := ⟨r, [name]⟩)
      (by simp) (by simp [Path.dir])
    simp [openCreating, hostDo, Host.openFile, hf, hp, Except.map, Error.isNotExist, Go.mapError,
      Host.mkdirAll, Host.mkdirAllRev, Path.dir, hr, hf', hp', hc]
  · refine ⟨w.host, ?_, hr, fun _ _ => rfl⟩
    have hp := Host.parentErr_of_dir (h := w.host) (p := ⟨r, [name]⟩) (by simp) hr
    simp [openCreating, hostDo, Host.openFile_of_none hf hp hc, Except.map]

/-- An `openCreating` that opens its path ends on the host an open of it gave: an open from the
host as it was, or from one that `MkdirAll` grew. -/
theorem openCreating_opens {path : Path} {w' : World}
    (e : openCreating path flag f w = (.ok (.ok ()), w')) : ∃ h, w.host.Grows h ∧ h.openFile path flag = .ok w'.host := by
  simp only [openCreating, bind_apply, attempt_apply, hostDo, host_apply] at e
  cases h₁ : w.host.openFile path flag with
  | ok h₁' =>
    simp only [h₁, Except.map, pure_apply, Prod.mk.injEq] at e
    exact ⟨w.host, .refl _, by rw [← e.2, h₁]⟩
  | error err =>
    simp only [h₁, Except.map] at e
    split at e
    · cases h₂ : w.host.mkdirAll path.dir with
      | error => simp [h₂, Go.mapError, Except.map] at e
      | ok h₂' =>
        cases h₃ : h₂'.openFile path flag with
        | error => simp [h₂, h₃, Go.mapError, Except.map] at e
        | ok h₃' =>
          simp only [h₂, h₃, Go.mapError, Except.map, bind_apply, attempt_apply, host_apply,
            Prod.mk.injEq] at e
          exact ⟨h₂', Host.mkdirAll_grows h₂, by rw [← e.2, h₃]⟩
    · simp at e

/-- An exclusive open that succeeds created its file, at a path that was free. -/
theorem openCreating_created {path : Path} {w' : World}
    (e : openCreating path .exclusive f w = (.ok (.ok ()), w')) :
    w.host.fs path = none ∧ w'.host.fs path = some (.file []) := by
  obtain ⟨h, g, ho⟩ := openCreating_opens e
  obtain ⟨hn, he⟩ := Host.openFile_exclusive ho
  exact ⟨not_not.1 fun hne => g.ne_none hne hn, by rw [he]; simp⟩

variable (hd : w.vm.hostDataDir ≠ "")
include hd

/-- Loading changes nothing. -/
theorem loadStateData_world {α : Type} (name : String) (scan : List Char → Except Error α) :
    (loadStateData name scan w).2 = w := by
  simp only [loadStateData, bind_apply, dataFilePath_of_ne hd, attempt_apply, hostDo, host_apply]
  cases e : w.host.openFile ⟨w.vm.hostDataDir, [name]⟩ .rdonly with
  | error err => simp [Except.map]; split <;> rfl
  | ok h' =>
    obtain rfl := Host.openFile_rdonly e
    cases hr : w.host.read ⟨w.vm.hostDataDir, [name]⟩ with
    | error => simp [Except.map, hr]
    | ok d => cases hs : scan d <;> simp [Except.map, hr, hs]; split <;> rfl

/-- Loading a file returns what `%v` scans from it. -/
theorem loadStateData_file {α : Type} {d : List Char} (scan : List Char → Except Error α)
    (hf : w.host.fs ⟨w.vm.hostDataDir, [name]⟩ = some (.file d)) :
    (loadStateData name scan w).1 = match scan d with
      | .ok v => .ok (some v)
      | .error e => if e = .unexpectedEOF then .ok none else .error e := by
  have ho : w.host.openFile _ .rdonly = .ok w.host := Host.openFile_of_file hf rfl
  cases hs : scan d <;>
    simp [loadStateData, dataFilePath_of_ne hd, hostDo, ho, Except.map, Host.read, hf, hs]
  split <;> rfl

/-- Loading a missing file returns nothing, unless the bundle root is a file. -/
theorem loadStateData_none {α : Type} (scan : List Char → Except Error α)
    (hf : w.host.fs ⟨w.vm.hostDataDir, [name]⟩ = none)
    (hr : ∀ d, w.host.fs ⟨w.vm.hostDataDir, []⟩ ≠ some (.file d)) :
    (loadStateData name scan w).1 = .ok none := by
  have ho : w.host.openFile ⟨w.vm.hostDataDir, [name]⟩ .rdonly =
      .error (.path "open" (Path.toString ⟨w.vm.hostDataDir, [name]⟩) .noent) := by
    have hp : w.host.parentErr ⟨w.vm.hostDataDir, [name]⟩ = none ∨
        w.host.parentErr ⟨w.vm.hostDataDir, [name]⟩ = some .noent := by
      unfold Host.parentErr
      rcases hn : w.host.fs ⟨w.vm.hostDataDir, []⟩ with _ | ⟨⟩ | d | t <;> simp_all [Path.dir]
    rcases hp with hp | hp <;> simp [Host.openFile, hf, hp, Flag.rdonly]
  simp [loadStateData, dataFilePath_of_ne hd, hostDo, ho, Except.map, Error.isNotExist]

/-- Saving over a file: `O_TRUNC` empties it, so it holds the text and a newline, whatever
it held before. -/
theorem saveStateData_of_file {d : List Char} (text : List Char)
    (hf : w.host.fs ⟨w.vm.hostDataDir, [name]⟩ = some (.file d)) :
    saveStateData name text w =
      (.ok (), { w with host := w.host.setNode ⟨w.vm.hostDataDir, [name]⟩ (.file (text ++ ['\n'])) }) := by
  have e : openCreating _ .truncate id w =
      (.ok (.ok ()), { w with host := w.host.setNode ⟨w.vm.hostDataDir, [name]⟩ (.file []) }) :=
    openCreating_of_file hf rfl
  simp [saveStateData, dataFilePath_of_ne hd, e, hostDo, Except.map]

/-- Saving leaves the text and a newline in the file and a directory at the bundle root,
and changes no other node. -/
theorem saveStateData_of_ne (text : List Char) (hf : w.host.FileOrFree ⟨w.vm.hostDataDir, [name]⟩)
    (hr : w.host.DirOrFree ⟨w.vm.hostDataDir, []⟩) :
    ∃ h' : Host, saveStateData name text w = (.ok (), { w with host := h' }) ∧
      h'.fs ⟨w.vm.hostDataDir, [name]⟩ = some (.file (text ++ ['\n'])) ∧
      h'.DirOrFree ⟨w.vm.hostDataDir, []⟩ ∧
      ∀ q, q ≠ ⟨w.vm.hostDataDir, [name]⟩ → q ≠ ⟨w.vm.hostDataDir, []⟩ → h'.fs q = w.host.fs q := by
  have hne : (⟨w.vm.hostDataDir, []⟩ : Path) ≠ ⟨w.vm.hostDataDir, [name]⟩ := by simp
  rcases hf with hf | ⟨d, hf⟩
  · obtain ⟨h₁, e, h1r, h1q⟩ := @openCreating_of_none _ _ _ .truncate id hf hr rfl
    refine ⟨h₁.setNode ⟨w.vm.hostDataDir, [name]⟩ (.file (text ++ ['\n'])), ?_, by simp,
      by simp [Host.DirOrFree, hne, h1r], fun q h1 h2 => by simp [h1, h1q q h2]⟩
    simp [saveStateData, dataFilePath_of_ne hd, e, hostDo, Except.map]
  · exact ⟨_, saveStateData_of_file hd text hf, by simp, by simpa [Host.DirOrFree, hne] using hr,
      fun q h1 _ => by simp [h1]⟩

end Set

/-- What `dataFilePath` returns: a path under `HostDataDir`, set now if it was empty. -/
theorem dataFilePath_ok {name : String} {w w' : World} {p : Path} (e : dataFilePath name w = (.ok p, w')) :
    p = ⟨w'.vm.hostDataDir, [name]⟩ ∧ World.KeepsVM w w' ∧ w'.calls = w.calls ∧ w'.vm.hostDataDir ≠ "" := by
  by_cases hd : w.vm.hostDataDir = ""
  · cases hm : w.host.mkdirTemp with
    | error => simp [dataFilePath, hd, hm, Go.wrap, Go.mapError] at e
    | ok r =>
      obtain ⟨-, -, hr⟩ := Host.mkdirTemp_spec hm
      simp [dataFilePath, hd, hm, Go.wrap, Go.mapError] at e
      obtain ⟨rfl, rfl⟩ := e
      exact ⟨rfl, rfl, rfl, hr⟩
  · rw [dataFilePath_of_ne hd] at e; cases e; exact ⟨rfl, rfl, rfl, hd⟩

/-- A path `dataFilePath` has resolved resolves again to itself. -/
theorem dataFilePath_resolved {name : String} {w w' : World} {p : Path}
    (e : dataFilePath name w = (.ok p, w')) : dataFilePath name w' = (.ok p, w') := by
  obtain ⟨rfl, -, -, hd⟩ := dataFilePath_ok e
  exact dataFilePath_of_ne hd name

theorem saveStateData_resolved {name : String} {w w' : World} {p : Path}
    (e : dataFilePath name w = (.ok p, w')) (text : List Char) :
    saveStateData name text w = saveStateData name text w' := by
  simp only [saveStateData, bind_apply, e, dataFilePath_resolved e]

/-- **An `int` that `saveStateData` writes, `loadStateData` reads back**, for every value of
Go's `int` (0, whose `0` `%v` scans as a base prefix, and the extremes among them), on the
VM value that saved it. The file may hold anything before, or be missing under a directory
that is there or can be made; `saveStateData` returns nil and leaves only the text and a
newline, since `O_TRUNC` drops the tail of a longer old value. -/
theorem saved_int_loads_back {name : String} {w w₀ : World} {p : Path}
    (hp : dataFilePath name w = (.ok p, w₀))
    (hf : (∃ d, w₀.host.fs p = some (.file d)) ∨ w₀.host.fs p = none ∧ w₀.host.DirOrFree p.dir)
    {n : Int} (h1 : -2 ^ 63 ≤ n) (h2 : n < 2 ^ 63) :
    (saveStateData name (Fmt.fmtInteger n) w).1 = .ok () ∧
      (saveStateData name (Fmt.fmtInteger n) w).2.host.fs p = some (.file (Fmt.fmtInteger n ++ ['\n'])) ∧
      (loadStateData name Fmt.fscanfInt (saveStateData name (Fmt.fmtInteger n) w).2).1 = .ok (some n) := by
  obtain ⟨rfl, -, -, hd⟩ := dataFilePath_ok hp
  obtain ⟨h', e, hfile⟩ : ∃ h' : Host, saveStateData name (Fmt.fmtInteger n) w₀ = (.ok (), { w₀ with host := h' }) ∧
      h'.fs ⟨w₀.vm.hostDataDir, [name]⟩ = some (.file (Fmt.fmtInteger n ++ ['\n'])) := by
    rcases hf with ⟨d, hf⟩ | ⟨hf, hr⟩
    · exact ⟨_, saveStateData_of_file hd _ hf, Host.setNode_fs_self _ _ _⟩
    · obtain ⟨h', e, hfile, -⟩ := saveStateData_of_ne hd _ (.inl hf) hr
      exact ⟨h', e, hfile⟩
  rw [saveStateData_resolved hp, e]
  refine ⟨rfl, hfile, ?_⟩
  rw [loadStateData_file (w := { w₀ with host := h' }) hd _ hfile, Fmt.fscanfInt_fmtInteger h1 h2]

/-- A `16` saved before, with its newline, is overwritten by a `0`. -/
theorem saved_int_loads_back_over_longer :
    let w : World := ⟨{ hostDataDir := "d" }, Host.empty.setNode ⟨"d", ["cpu"]⟩ (.file ['1', '6', '\n']), []⟩
    dataFilePath "cpu" w = (.ok ⟨"d", ["cpu"]⟩, w) ∧
      ((∃ d, w.host.fs ⟨"d", ["cpu"]⟩ = some (.file d)) ∨
        w.host.fs ⟨"d", ["cpu"]⟩ = none ∧ w.host.DirOrFree (Path.dir ⟨"d", ["cpu"]⟩)) ∧
      -2 ^ 63 ≤ (0 : Int) ∧ (0 : Int) < 2 ^ 63 ∧
      (saveStateData "cpu" (Fmt.fmtInteger 0) w).1 = .ok () ∧
      (saveStateData "cpu" (Fmt.fmtInteger 0) w).2.host.fs ⟨"d", ["cpu"]⟩ =
        some (.file (Fmt.fmtInteger 0 ++ ['\n'])) ∧
      (loadStateData "cpu" Fmt.fscanfInt (saveStateData "cpu" (Fmt.fmtInteger 0) w).2).1 = .ok (some 0) := by
  intro w
  have hp : dataFilePath "cpu" w = (.ok ⟨"d", ["cpu"]⟩, w) := dataFilePath_of_ne (w := w) (by decide) "cpu"
  have hf : (∃ d, w.host.fs ⟨"d", ["cpu"]⟩ = some (.file d)) ∨
      w.host.fs ⟨"d", ["cpu"]⟩ = none ∧ w.host.DirOrFree (Path.dir ⟨"d", ["cpu"]⟩) :=
    .inl ⟨_, Host.setNode_fs_self _ _ _⟩
  exact ⟨hp, hf, by decide, by decide, saved_int_loads_back hp hf (by decide) (by decide)⟩

/-! ### Frames -/

section Frames

variable (S : List String)

theorem dataFilePath_returns (name : String) :
    Returns (fun p : Path => p.rel = [name]) (dataFilePath name) := by
  intro w p e
  by_cases hd : w.vm.hostDataDir = ""
  · cases hm : w.host.mkdirTemp <;> simp [dataFilePath, hd, hm, Go.wrap, Go.mapError] at e
    rw [← e]
  · rw [dataFilePath_of_ne hd] at e; cases e; rfl

theorem dataFilePath_respects (name : String) : Respects (World.Configures S) (dataFilePath name) := by
  intro w
  by_cases hd : w.vm.hostDataDir = ""
  · cases e : w.host.mkdirTemp with
    | error => simpa [dataFilePath, hd, e, Go.wrap, Go.mapError] using World.Configures.refl S w
    | ok p =>
      obtain ⟨hn, -, hr⟩ := Host.mkdirTemp_spec e
      simp only [dataFilePath, hd, e, Go.wrap, Go.mapError, bind_apply, getVM_apply, host_apply,
        if_true, modifyVM_apply, pure_apply]
      exact ⟨⟨Host.mkdirTemp_grows e, fun q _ => Host.mkdirTemp_keeps e q, .inr ⟨hd, hr, hn⟩⟩,
        rfl, rfl, rfl, [], by simp, by simp⟩
  · rw [dataFilePath_of_ne hd]; exact .refl S w

theorem openCreating_respects {path : Path} {flag : Flag} (f : Error → Error)
    (ht : flag.trunc = false ∨ ∃ n ∈ S, path.rel = [n]) :
    Respects (World.Configures S) (openCreating path flag f) := by
  have hopen : Respects (World.Configures S) (hostDo (·.openFile path flag)) :=
    Respects.hostDo fun h h' e => ⟨Host.openFile_grows e, fun q hq => Host.openFile_keeps e <| by
      rcases ht with ht | ⟨n, hn, hp⟩
      · exact .inr ht
      · exact .inl fun hqp => hq n hn (hqp ▸ hp)⟩
  have hmk : Respects (World.Configures S) (hostDo (·.mkdirAll path.dir)) :=
    Respects.hostDo fun h h' e => ⟨Host.mkdirAll_grows e, fun q _ => Host.mkdirAll_keeps e q⟩
  refine hopen.attempt.bind fun r => ?_
  rcases r with e | ⟨⟩
  · exact Respects.ite ((hmk.mapError f).bind fun _ => hopen.attempt) (Respects.pure _)
  · exact Respects.pure _

theorem loadStateData_respects {α : Type} (name : String) (scan : List Char → Except Error α) :
    Respects (World.Configures S) (loadStateData name scan) := by
  refine (dataFilePath_respects S name).bind fun path => ?_
  have hopen : Respects (World.Configures S) (hostDo (·.openFile path .rdonly)) :=
    Respects.hostDo fun h h' e => by
      obtain rfl := Host.openFile_rdonly e; exact ⟨.refl _, fun q _ => .refl _ q⟩
  have hread : Respects (World.Configures S) (host fun h => (h.read path).map (·, h)) :=
    Respects.host fun h a h' e => by
      cases hr : h.read path <;> simp [hr, Except.map] at e
      obtain ⟨-, rfl⟩ := e; exact ⟨.refl _, fun q _ => .refl _ q⟩
  refine hopen.attempt.bind fun r => ?_
  rcases r with e | ⟨⟩
  · exact Respects.ite (Respects.pure _) (Respects.throw _)
  · refine hread.bind fun content => ?_
    rcases scan content with e | v
    · exact Respects.ite (Respects.pure _) (Respects.throw _)
    · exact Respects.pure _

/-- Saving rewrites only its own state file. -/
theorem saveStateData_respects {name : String} (hn : name ∈ S) (text : List Char) :
    Respects (World.Configures S) (saveStateData name text) := by
  refine (dataFilePath_respects S name).bind_of (dataFilePath_returns name) fun path hp => ?_
  refine (openCreating_respects S id (.inr ⟨name, hn, hp⟩)).bind fun r => ?_
  rcases r with e | ⟨⟩
  · exact Respects.throw _
  · refine Respects.hostDo fun h h' e => ?_
    cases e
    exact ⟨Host.write_grows _ _, fun q hq => Host.write_keeps _ fun hqp => hq name hn (hqp ▸ hp)⟩

theorem initLogger_respects : Respects (World.Configures S) initLogger := by
  have hfail : Respects (World.Configures S) (modifyVM fun vm => { vm with logger := some .default }) :=
    Respects.modifyVM fun _ => ⟨rfl, rfl, rfl, rfl⟩
  refine (dataFilePath_respects S "log").attempt.bind fun r => ?_
  rcases r with e | path
  · exact hfail
  · refine (openCreating_respects S id (.inl rfl)).attempt.bind fun r => ?_
    rcases r with _ | _ | ⟨⟩
    · exact hfail
    · exact hfail
    · exact Respects.modifyVM fun _ => ⟨rfl, rfl, rfl, rfl⟩

/-- `initLogger` never fails: a log file that cannot be made falls back to the default
logger. -/
theorem initLogger_throws : Throws (fun _ => False) initLogger :=
  (Throws.attempt _).bind fun r => by
    rcases r with _ | _
    · exact Throws.modifyVM _
    · refine (Throws.attempt _).bind fun r => ?_
      rcases r with _ | _ | ⟨⟩ <;> exact Throws.modifyVM _

theorem fileBundle_respects (dir : String) : Respects (World.Configures S) (fileBundle dir) :=
  Respects.ite ((Respects.wrap _ (Respects.host fun _ _ _ e =>
    ⟨Host.mkdirTemp_grows e, fun q _ => Host.mkdirTemp_keeps e q⟩)).bind fun _ => Respects.pure _)
    (Respects.pure _)

/-! Loading and saving change, in the VM, at most `HostDataDir`. -/

theorem dataFilePath_keepsVM (name : String) : Respects World.KeepsVM (dataFilePath name) := by
  intro w
  by_cases hd : w.vm.hostDataDir = ""
  · cases e : w.host.mkdirTemp <;> simp [dataFilePath, hd, e, Go.wrap, Go.mapError] <;> rfl
  · rw [dataFilePath_of_ne hd]; rfl

theorem openCreating_keepsVM (path : Path) (flag : Flag) (f : Error → Error) :
    Respects World.KeepsVM (openCreating path flag f) := by
  refine (Respects.keepsVM_host _).attempt.bind fun r => ?_
  rcases r with e | ⟨⟩
  · exact Respects.ite (((Respects.keepsVM_host _).mapError f).bind fun _ =>
      (Respects.keepsVM_host _).attempt) (Respects.pure _)
  · exact Respects.pure _

theorem openCreating_sameVM (path : Path) (flag : Flag) (f : Error → Error) :
    Respects World.SameVM (openCreating path flag f) := by
  refine (Respects.sameVM_host _).attempt.bind fun r => ?_
  rcases r with e | ⟨⟩
  · exact Respects.ite (((Respects.sameVM_host _).mapError f).bind fun _ => (Respects.sameVM_host _).attempt)
      (Respects.pure _)
  · exact Respects.pure _

theorem loadStateData_keepsVM {α : Type} (name : String) (scan : List Char → Except Error α) :
    Respects World.KeepsVM (loadStateData name scan) := by
  refine (dataFilePath_keepsVM name).bind fun path => (Respects.keepsVM_host _).attempt.bind fun r => ?_
  rcases r with e | ⟨⟩
  · exact Respects.ite (Respects.pure _) (Respects.throw _)
  · refine (Respects.keepsVM_host _).bind fun content => ?_
    rcases scan content with e | v
    · exact Respects.ite (Respects.pure _) (Respects.throw _)
    · exact Respects.pure _

theorem saveStateData_keepsVM (name : String) (text : List Char) :
    Respects World.KeepsVM (saveStateData name text) := by
  refine (dataFilePath_keepsVM name).bind fun path => (openCreating_keepsVM _ _ _).bind fun r => ?_
  rcases r with e | ⟨⟩
  · exact Respects.throw _
  · exact Respects.keepsVM_host _

end Frames

end Jetpack
