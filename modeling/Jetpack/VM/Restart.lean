import Jetpack.VM.Effects

/-!
# A restart writes nothing

A `Start` that returned nil has made every node a later `Start` opens or makes: the log, the
root disk image, in install mode the variable store and the boot directory, and the
identifier; its sizes are ones the clamps keep, and the terminal is raw. A later `Start`
finds each of them there: its exclusive opens fail with `EEXIST`, the log opens without
`O_TRUNC`, `MkdirAll` meets a directory, negotiation keeps the sizes and saves nothing, the
identifier is loaded and not saved, and setting the terminal raw again changes nothing.

* `Host.Opened`: opening a path again, with `O_CREATE` and without `O_TRUNC`, changes nothing
  (`openCreating_of_opened`); every open makes it so (`openCreating_opened`), and the host's
  growth keeps it (`Host.Opened.grows`).
* `start_stays` (every run): from a `World.Settled` world, a `Start` on an engine with the same
  bounds changes nothing on the host and leaves the world settled, whatever the engine answers.
* `start_settled`: a `Start` that returns nil, from a VM with `HostDataDir` set, leaves the
  world settled.
* `restart_keeps_host` (every sequence of calls): after such a `Start`, no sequence of
  `Start`s and `Stop`s with the same bounds changes the host.
-/

namespace Jetpack

open Go

/-! ### Opening a path again -/

namespace Host

variable {h h' : Host} {p : Path} {flag : Flag} {n : Node}

/-- `p` was opened with `O_CREATE` and `flag`: opening it so again, without `O_TRUNC`,
changes nothing. A node is at `p`, or one that is not a directory is at the directory of
`p`, so that the open fails; and, unless the open is exclusive, a symbolic link at `p` has a
node at its directory, so that the `MkdirAll` after the failure makes nothing. -/
def Opened (h : Host) (p : Path) (flag : Flag) : Prop :=
  (h.fs p ≠ none ∨ ∃ n, h.fs p.dir = some n ∧ n ≠ .dir) ∧
    ((flag.create && flag.excl) = false → ∀ t, h.fs p = some (.symlink t) → h.fs p.dir ≠ none)

/-- A node that grows into a symbolic link was that link. -/
theorem Grows.eq_symlink (g : h.Grows h') (hp : h.fs p = some n) {t : String}
    (ht : h'.fs p = some (.symlink t)) : n = .symlink t := by
  cases n with
  | dir => rw [g.dir _ hp] at ht; cases ht
  | file d => obtain ⟨_, hd⟩ := g.file _ d hp; rw [hd] at ht; cases ht
  | symlink s => rw [g.symlink _ s hp] at ht; cases ht; rfl

theorem Opened.grows (ho : h.Opened p flag) (g : h.Grows h') : h'.Opened p flag := by
  obtain ⟨h₁, h₂⟩ := ho
  refine ⟨?_, fun hx t ht => ?_⟩
  · rcases h₁ with h₁ | ⟨n, hn, hd⟩
    · exact .inl (g.ne_none h₁)
    · cases n with
      | dir => exact absurd rfl hd
      | file d => obtain ⟨d', hd'⟩ := g.file _ d hn; exact .inr ⟨_, hd', nofun⟩
      | symlink s => exact .inr ⟨_, g.symlink _ s hn, nofun⟩
  · cases hp : h.fs p with
    | none =>
      obtain ⟨n, hn, -⟩ := h₁.resolve_left (not_not.2 hp)
      exact g.ne_none (by simp [hn])
    | some n => exact g.ne_none (h₂ hx t (by rw [hp, g.eq_symlink hp ht]))

/-- `MkdirAll` of a path that exists only checks the node there. -/
theorem mkdirAllRev_of_some (r : String) (names : List String) (hp : h.fs ⟨r, names.reverse⟩ = some n) :
    mkdirAllRev r names h = mkdirExisting ⟨r, names.reverse⟩ n (.ok h) := by
  cases names <;> simp only [mkdirAllRev, List.reverse_nil] at hp ⊢ <;> simp only [hp]

/-- `MkdirAll` that succeeds leaves a directory at its path. -/
theorem mkdirAllRev_dir (r : String) (names : List String) (e : mkdirAllRev r names h = .ok h') :
    h'.fs ⟨r, names.reverse⟩ = some .dir := by
  cases hp : h.fs ⟨r, names.reverse⟩ with
  | some n =>
    rw [mkdirAllRev_of_some r names hp] at e
    rw [(mkdirExisting_eq e).2, hp, (mkdirExisting_eq e).1]
  | none =>
    cases names with
    | nil =>
      simp only [mkdirAllRev, List.reverse_nil] at hp e ⊢
      rw [hp] at e
      cases e
      simp
    | cons name names =>
      simp only [mkdirAllRev, hp] at e
      cases e₁ : mkdirAllRev r names h <;> rw [e₁] at e <;> cases e
      simp

theorem mkdirAll_of_some (hp : h.fs p = some n) : h.mkdirAll p = mkdirExisting p n (.ok h) := by
  have e := mkdirAllRev_of_some p.root p.rel.reverse (h := h) (by rwa [List.reverse_reverse])
  rwa [List.reverse_reverse] at e

theorem mkdirAll_dir (e : h.mkdirAll p = .ok h') : h'.fs p = some .dir := by
  have hd := mkdirAllRev_dir p.root p.rel.reverse e
  rwa [List.reverse_reverse] at hd

/-- Opening a path that was opened: the host stays, or the open fails, and a failure that
says the path does not exist leaves a node at its directory. -/
theorem openFile_of_opened (ho : h.Opened p flag) (ht : flag.trunc = false) :
    (h.openFile p flag = .ok h ∧ (flag.create && flag.excl) = false) ∨
      ∃ e, h.openFile p flag = .error e ∧ (e.isNotExist = true → h.fs p.dir ≠ none) := by
  obtain ⟨h₁, h₂⟩ := ho
  unfold openFile
  cases hp : h.fs p with
  | some n =>
    dsimp only
    split
    · exact .inr ⟨_, rfl, nofun⟩
    · next hx =>
      have hx : (flag.create && flag.excl) = false := by simpa using hx
      cases n with
      | dir =>
        by_cases hw : flag.write = true
        · exact .inr ⟨.path "open" p.toString .isdir, by simp [hw], nofun⟩
        · exact .inl ⟨by simp [hw], hx⟩
      | file d => exact .inl ⟨by simp [ht], hx⟩
      | symlink t => exact .inr ⟨_, rfl, fun _ => h₂ hx t hp⟩
  | none =>
    obtain ⟨n, hn, hd⟩ := h₁.resolve_left (not_not.2 hp)
    have hrel : p.rel ≠ [] := by
      intro hr
      have : p.dir = p := by obtain ⟨r, rel⟩ := p; subst hr; rfl
      rw [this, hp] at hn
      cases hn
    dsimp only
    rw [parentErr, if_neg hrel, hn]
    cases n with
    | dir => exact absurd rfl hd
    | file d => exact .inr ⟨_, rfl, nofun⟩
    | symlink s => exact .inr ⟨_, rfl, fun _ => by simp [hn]⟩

/-- An open for writing that succeeds leaves a file at its path. -/
theorem openFile_file (e : h.openFile p flag = .ok h') (hw : flag.write = true) :
    ∃ d, h'.fs p = some (.file d) := by
  unfold openFile at e
  cases hn : h.fs p with
  | some n =>
    rw [hn] at e
    by_cases hx : (flag.create && flag.excl) = true
    · simp [hx] at e
    · simp only [hx] at e
      cases n with
      | dir => simp [hw] at e
      | file d => by_cases ht : flag.trunc = true <;> simp [ht] at e <;> simp [← e, hn]
      | symlink => simp at e
  | none =>
    rw [hn] at e
    cases hp : h.parentErr p with
    | some => simp [hp] at e
    | none => by_cases hc : flag.create = true <;> simp [hp, hc] at e; simp [← e]

/-- The path `MkdirAll` and a retried open find a node at: nothing is made. -/
theorem mkdirExisting_ne_none (hp : h.fs p ≠ none) :
    ∃ r, h.mkdirAll p = r ∧ ∀ h', r = .ok h' → h' = h := by
  obtain ⟨n, hn⟩ := Option.ne_none_iff_exists'.1 hp
  exact ⟨_, mkdirAll_of_some hn, fun _ e => (mkdirExisting_eq e).2⟩

end Host

variable {w : World} {path : Path} {flag : Flag} {f : Error → Error}

/-- **Opening again changes nothing.** An `openCreating` without `O_TRUNC` of a path that was
opened leaves the world as it is, and an exclusive one fails. -/
theorem openCreating_of_opened (ho : w.host.Opened path flag) (ht : flag.trunc = false) :
    (openCreating path flag f w).2 = w ∧
      ((flag.create && flag.excl) = true → (openCreating path flag f w).1 ≠ .ok (.ok ())) := by
  rcases Host.openFile_of_opened ho ht with ⟨e, hx⟩ | ⟨err, e, hn⟩
  · have e' : openCreating path flag f w = (.ok (.ok ()), w) := by
      simp only [openCreating, bind_apply, attempt_apply, hostDo, host_apply, e, Except.map, pure_apply]
    rw [e']
    exact ⟨rfl, fun h => absurd (hx.symm.trans h) nofun⟩
  · simp only [openCreating, bind_apply, attempt_apply, hostDo, host_apply, e, Except.map]
    split
    · next hne =>
      obtain ⟨r, hr, hk⟩ := Host.mkdirExisting_ne_none (hn hne)
      cases r with
      | error => simp [Go.mapError, hr, Except.map]
      | ok h' => obtain rfl := hk h' rfl; simp [Go.mapError, hr, e, Except.map]
    · exact ⟨rfl, nofun⟩

/-- **An open makes its path opened**, for a path right under a root: the file is created,
or a node that stops it is there. -/
theorem openCreating_opened {r name : String} (hc : flag.create = true) (ht : flag.trunc = false) :
    (openCreating ⟨r, [name]⟩ flag f w).2.host.Opened ⟨r, [name]⟩ flag := by
  by_cases ho : w.host.Opened ⟨r, [name]⟩ flag
  · rw [(openCreating_of_opened ho ht).1]; exact ho
  have hne : (⟨r, []⟩ : Path) ≠ ⟨r, [name]⟩ := by simp
  simp only [Host.Opened, not_and_or, not_or, not_not, not_exists, not_and, not_forall, Path.dir,
    List.dropLast_single] at ho
  rcases ho with ⟨hp, hd⟩ | ⟨hx, t, hp, hd⟩
  · -- nothing at the path, and nothing but a directory at the root: the file is made
    have hr : w.host.DirOrFree ⟨r, []⟩ := by
      rcases hn : w.host.fs ⟨r, []⟩ with _ | n
      · exact .inl hn
      · rcases hd n with h | rfl
        · exact absurd hn h
        · exact .inr hn
    obtain ⟨h', e, -⟩ := openCreating_of_none (f := f) hp hr hc
    rw [e]
    exact ⟨.inl (by simp), fun _ t ht => by simp at ht⟩
  · -- a link with nothing at the root: the root is made, and the open fails again
    have e₁ : w.host.openFile ⟨r, [name]⟩ flag = .error (.path "open" (Path.toString ⟨r, [name]⟩) .noent) := by
      simp [Host.openFile, hp, hx]
    have e₂ : (w.host.setNode ⟨r, []⟩ .dir).openFile ⟨r, [name]⟩ flag =
        .error (.path "open" (Path.toString ⟨r, [name]⟩) .noent) := by
      simp [Host.openFile, hp, hx, Host.setNode_fs_ne _ _ hne.symm]
    have e₃ : w.host.mkdirAll ⟨r, []⟩ = .ok (w.host.setNode ⟨r, []⟩ .dir) := by
      simp [Host.mkdirAll, Host.mkdirAllRev, hd]
    simp only [openCreating, bind_apply, attempt_apply, hostDo, host_apply, e₁, Except.map,
      Error.isNotExist, if_true, Go.mapError, Path.dir, List.dropLast_single, e₃, e₂]
    refine ⟨.inl (by simp [Host.setNode_fs_ne _ _ hne.symm, hp]), fun _ _ _ => by simp [Path.dir]⟩

/-! ### What a `Start` leaves -/

/-- The bounds `configureCPUs` and `configureMemory` read from the engine. -/
def Vz.bounds (vz : Vz) : Nat × Nat × Nat × Nat := (vz.minCPU, vz.maxCPU, vz.minMemory, vz.maxMemory)

/-- What a `Start` that returned nil leaves, for the engine bounds of `vz`: a set
`HostDataDir` in which the log and the root disk image were opened, and in install mode the
variable store opened and the boot directory made; sizes that `configureCPUs` and
`configureMemory` keep; an identifier, or a file to load one from; and standard input, when a
terminal, in raw mode. -/
structure World.Settled (vz : Vz) (w : World) : Prop where
  hostDataDir : w.vm.hostDataDir ≠ ""
  log : w.host.Opened ⟨w.vm.hostDataDir, ["log"]⟩ .append
  disk : w.host.Opened ⟨w.vm.hostDataDir, ["disk.img"]⟩ .exclusive
  nvram : w.vm.install = true → w.host.Opened ⟨w.vm.hostDataDir, ["nvram"]⟩ .exclusive
  boot : w.vm.install = true → w.host.fs ⟨w.vm.hostDataDir, ["boot"]⟩ = some .dir
  cpus : w.vm.cpus ≠ 0 ∧ intOfUint64 vz.minCPU ≤ w.vm.cpus ∧ w.vm.cpus ≤ intOfUint64 vz.maxCPU
  memory : w.vm.memory ≠ 0 ∧ intOfUint64 vz.minMemory ≤ w.vm.memory ∧ w.vm.memory ≤ intOfUint64 vz.maxMemory
  id : w.vm.id ≠ [] ∨ ∃ d, w.host.fs ⟨w.vm.hostDataDir, ["id"]⟩ = some (.file d)
  stdin : ∀ t, w.host.stdin = some t → t.raw = t

/-- `w'` has the host of `w`, and the `HostDataDir`, mode, sizes and identifier that
`World.Settled` reads. -/
structure World.Inert (w w' : World) : Prop where
  host : w'.host = w.host
  hostDataDir : w'.vm.hostDataDir = w.vm.hostDataDir
  install : w'.vm.install = w.vm.install
  cpus : w'.vm.cpus = w.vm.cpus
  memory : w'.vm.memory = w.vm.memory
  id : w'.vm.id = w.vm.id

namespace World

variable {vz : Vz} {w w' : World}

instance : IsRefl World Inert := ⟨fun _ => ⟨rfl, rfl, rfl, rfl, rfl, rfl⟩⟩
instance : IsTrans World Inert := ⟨fun _ _ _ a b => ⟨b.host.trans a.host, b.hostDataDir.trans a.hostDataDir,
  b.install.trans a.install, b.cpus.trans a.cpus, b.memory.trans a.memory, b.id.trans a.id⟩⟩

theorem Inert.settled (h : Inert w w') (hs : w.Settled vz) : w'.Settled vz where
  hostDataDir := by rw [h.hostDataDir]; exact hs.hostDataDir
  log := by rw [h.host, h.hostDataDir]; exact hs.log
  disk := by rw [h.host, h.hostDataDir]; exact hs.disk
  nvram := by rw [h.host, h.hostDataDir, h.install]; exact hs.nvram
  boot := by rw [h.host, h.hostDataDir, h.install]; exact hs.boot
  cpus := by rw [h.cpus]; exact hs.cpus
  memory := by rw [h.memory]; exact hs.memory
  id := by rw [h.host, h.hostDataDir, h.id]; exact hs.id
  stdin := by rw [h.host]; exact hs.stdin

theorem OnlyCalls.inert (h : OnlyCalls w w') : Inert w w' :=
  ⟨h.host, by rw [h.vm], by rw [h.vm], by rw [h.vm], by rw [h.vm], by rw [h.vm]⟩

/-- A loaded identifier, which is never empty, keeps a world settled. -/
theorem Settled.setId (hs : w.Settled vz) {v : List UInt8} (hv : v ≠ []) :
    World.Settled vz { w with vm := { w.vm with id := v } } :=
  { hs with id := .inl hv }

/-- From a settled world, `w'` has its host and is settled: the preorder along which every
later `Start` moves. -/
def Stays (vz : Vz) (w w' : World) : Prop := w.Settled vz → w'.host = w.host ∧ w'.Settled vz

instance : IsRefl World (Stays vz) := ⟨fun _ hs => ⟨rfl, hs⟩⟩
instance : IsTrans World (Stays vz) := ⟨fun _ _ _ a b hs =>
  let ⟨h₁, s₁⟩ := a hs
  let ⟨h₂, s₂⟩ := b s₁
  ⟨h₂.trans h₁, s₂⟩⟩

theorem Inert.stays (h : Inert w w') : Stays vz w w' := fun hs => ⟨h.host, h.settled hs⟩

end World

namespace Go

variable {α : Type} {vz : Vz}

theorem Respects.inert_call (vz : Vz) (c : VzCall) : Respects World.Inert (Go.call vz c) :=
  (Respects.onlyCalls_call vz c).imp fun _ _ h => h.inert

theorem Respects.inert_modifyVM {f : VM → VM}
    (hf : ∀ vm, ((f vm).hostDataDir, (f vm).install, (f vm).cpus, (f vm).memory, (f vm).id) =
      (vm.hostDataDir, vm.install, vm.cpus, vm.memory, vm.id)) : Respects World.Inert (Go.modifyVM f) :=
  fun w => by
    simp only [Prod.mk.injEq] at hf
    obtain ⟨h₁, h₂, h₃, h₄, h₅⟩ := hf w.vm
    exact ⟨rfl, h₁, h₂, h₃, h₄, h₅⟩

/-- An operation that only reads the host. -/
theorem Respects.inert_read (op : Host → Except Error α) :
    Respects World.Inert (Go.host fun h => (op h).map (·, h)) := by
  intro w; simp only [host_apply]; cases op w.host <;> exact refl_of _ _

theorem Respects.stays {x : Go α} (hx : Respects World.Inert x) : Respects (World.Stays vz) x :=
  hx.imp fun _ _ h => h.stays

theorem bind_of_ok {β : Type} {x : Go α} {f : α → Go β} {w w' : World} {a : α} (h : x w = (.ok a, w')) :
    (x >>= f) w = f a w' := by
  rw [bind_apply, h]

/-- What a run of `x` does to the world, read off the run. -/
theorem Respects.of_run {R : World → World → Prop} {x : Go α} (hx : Respects R x) {w w' : World}
    {r : Except Error α} (e : x w = (r, w')) : R w w' := by
  have h := hx w
  rwa [e] at h

/-- `Respects.bind`, where the rest of the method needs the run of `x` from where it started. -/
theorem Respects.bind_run {R : World → World → Prop} {β : Type} {x : Go α} {f : α → Go β}
    (hx : Respects R x) (hf : ∀ w a w', x w = (.ok a, w') → R w (f a w').2) : Respects R (x >>= f) := by
  intro w
  simp only [bind_apply]
  split
  · exact hf w _ _ ‹_›
  · rename_i w' e; have h := hx w; rw [e] at h; exact h

end Go

/-! ### A later `Start` -/

section Later

variable (vz vz' : Vz)

theorem configureCPUs_of_bounds (hb : vz'.bounds = vz.bounds) : configureCPUs vz' = configureCPUs vz := by
  simp only [Vz.bounds, Prod.mk.injEq] at hb
  simp only [configureCPUs, hb]

theorem configureMemory_of_bounds (hb : vz'.bounds = vz.bounds) : configureMemory vz' = configureMemory vz := by
  simp only [Vz.bounds, Prod.mk.injEq] at hb
  simp only [configureMemory, hb]

theorem setConfig_inert (f : Config → Config) : Respects World.Inert (setConfig f) :=
  Respects.inert_modifyVM (by intro; rfl)

theorem dataFilePath_stays (name : String) : Respects (World.Stays vz) (dataFilePath name) := fun w hs => by
  rw [dataFilePath_of_ne hs.hostDataDir]; exact ⟨rfl, hs⟩

theorem assignFiles_stays : Respects (World.Stays vz) assignFiles := fun w hs => by
  have e : assignFiles w = (.ok (), { w with vm := { w.vm with files := bundle w.vm.hostDataDir false } }) := by
    simp [assignFiles, fileBundle_of_ne hs.hostDataDir]
  rw [e]
  exact ⟨rfl, World.Inert.settled (w := w) ⟨rfl, rfl, rfl, rfl, rfl, rfl⟩ hs⟩

theorem initLogger_stays : Respects (World.Stays vz) initLogger := fun w hs => by
  obtain ⟨ho, -⟩ := openCreating_of_opened (f := id) hs.log rfl
  simp only [initLogger, bind_apply, attempt_apply, dataFilePath_of_ne hs.hostDataDir]
  generalize openCreating _ _ _ w = r at ho
  obtain ⟨r, w₁⟩ := r
  obtain rfl : w₁ = w := ho
  rcases r with _ | _ | ⟨⟩ <;> exact (Respects.inert_modifyVM (by intro; rfl) _).stays hs

/-- Negotiation from settled sizes does nothing. -/
theorem configure_stays (hb : vz'.bounds = vz.bounds) :
    Respects (World.Stays vz) (configureCPUs vz') ∧ Respects (World.Stays vz) (configureMemory vz') := by
  rw [configureCPUs_of_bounds vz vz' hb, configureMemory_of_bounds vz vz' hb]
  refine ⟨fun w hs => ?_, fun w hs => ?_⟩
  · rw [configureCPUs, configure_of_mem (f := .cpus) hs.cpus.1 hs.cpus.2.1 hs.cpus.2.2]; exact ⟨rfl, hs⟩
  · rw [configureMemory, configure_of_mem (f := .memory) hs.memory.1 hs.memory.2.1 hs.memory.2.2]
    exact ⟨rfl, hs⟩

/-- In install mode the variable store is there, and is loaded. -/
theorem nvram_stays {w : World} (hi : w.vm.install = true) : World.Stays vz w (nvram vz' w).2 := fun hs => by
  have e₁ : ((dataFilePath "nvram").wrap "create nvram file") w = (.ok ⟨w.vm.hostDataDir, ["nvram"]⟩, w) :=
    wrap_eq_ok.2 (dataFilePath_of_ne hs.hostDataDir _)
  obtain ⟨ho, hx⟩ := openCreating_of_opened (f := (·.wrap "create directory for nvram file")) (hs.nvram hi) rfl
  simp only [nvram, bind_apply, e₁]
  generalize openCreating _ _ _ w = r at ho hx
  obtain ⟨r, w₁⟩ := r
  obtain rfl : w₁ = w := ho
  rcases r with _ | _ | ⟨⟩
  · exact ⟨rfl, hs⟩
  · dsimp only
    split
    · exact ((((Respects.inert_call vz' _).wrap _).bind fun _ => Respects.pure _).stays _) hs
    · exact ⟨rfl, hs⟩
  · exact absurd rfl (hx rfl)

theorem linuxBootLoader_stays : Respects (World.Stays vz) (linuxBootLoader vz') := fun w => by
  rw [linuxBootLoader, getVM_bind]
  split
  · next hi =>
    rw [installerBootLoader, efiBootLoader]
    exact trans_of _ (nvram_stays vz vz' hi)
      (Respects.after_bind (fun _ => ((Respects.inert_call vz' _).bind fun _ => Respects.pure _).stays) w)
  · exact (((Respects.inert_read _).wrap _).bind fun _ => (Respects.inert_call vz' _).bind
      fun _ => Respects.pure _).stays w

theorem newConfiguration_inert (loader : BootLoader) : Respects World.Inert (newConfiguration vz' loader) :=
  Respects.getVM.bind fun _ => (Respects.inert_call vz' _).attempt.bind fun r => by
    rcases r with e | ⟨⟩
    · exact (Respects.inert_modifyVM (by intro; rfl)).bind fun _ => Respects.throw _
    · exact Respects.inert_modifyVM (by intro; rfl)

theorem configuration_stays (hb : vz'.bounds = vz.bounds) : Respects (World.Stays vz) (configuration vz') :=
  (Respects.inert_modifyVM (by intro; rfl)).stays.bind fun _ => (initLogger_stays vz).bind fun _ =>
    (configure_stays vz vz' hb).1.bind fun _ => (configure_stays vz vz' hb).2.bind fun _ =>
      ((linuxBootLoader_stays vz vz').wrap _).bind fun loader => (newConfiguration_inert vz' loader).stays

theorem attachConsole_stays : Respects (World.Stays vz) (attachConsole vz') := by
  refine ((Respects.inert_read _).wrap _).stays.bind_run fun w t w₁ e hs => ?_
  -- the attributes read are those of standard input, which are raw already
  have ht : w₁ = w ∧ w.host.stdin = some t := by
    have e := wrap_eq_ok.1 e
    simp only [host_apply, Host.getTermios] at e
    rcases hst : w.host.stdin with _ | t'
    · simp [hst, Except.map] at e
    · simp only [hst, Except.map, Prod.mk.injEq, Except.ok.injEq] at e
      obtain ⟨rfl, rfl⟩ := e
      exact ⟨rfl, rfl⟩
  obtain ⟨rfl, ht⟩ := ht
  have e₁ : (hostDo (·.setTermios t.raw) w₁).2 = w₁ := by
    have : { w₁.host with stdin := some t } = w₁.host := by rw [← ht]
    simp [hostDo, Host.setTermios, ht, hs.stdin t ht, Except.map, this]
  refine trans_of (World.Stays vz) ?_ (Respects.after_bind (fun _ => (((Respects.inert_call vz' _).wrap _).bind
    fun _ => ((Respects.inert_call vz' _).wrap _).bind fun _ => setConfig_inert _).stays) w₁) hs
  rw [wrap_snd, e₁]
  exact refl_of _ _

/-- The root disk image is there: it is used as it is. -/
theorem openRootDisk_stays {w : World} : World.Stays vz w (openRootDisk ⟨w.vm.hostDataDir, ["disk.img"]⟩ w).2 :=
  fun hs => by
    obtain ⟨ho, hx⟩ := openCreating_of_opened (f := (·.wrap "create directory for root disk image")) hs.disk rfl
    simp only [openRootDisk, bind_apply]
    generalize openCreating _ _ _ w = r at ho hx
    obtain ⟨r, w₁⟩ := r
    obtain rfl : w₁ = w := ho
    rcases r with _ | _ | ⟨⟩
    · exact ⟨rfl, hs⟩
    · dsimp only; split <;> exact ⟨rfl, hs⟩
    · exact absurd rfl (hx rfl)

theorem rootDisk_stays : Respects (World.Stays vz) (rootDisk vz') :=
  ((dataFilePath_stays vz _).wrap _).bind_run fun w _ w₁ e hs => by
    rw [wrap_eq_ok, dataFilePath_of_ne hs.hostDataDir] at e
    simp only [Prod.mk.injEq, Except.ok.injEq] at e
    obtain ⟨rfl, rfl⟩ := e
    exact trans_of _ (openRootDisk_stays vz) (Respects.after_bind (fun _ => (((Respects.inert_call vz' _).wrap _).bind
      fun _ => ((Respects.inert_call vz' _).wrap _).bind fun _ => Respects.pure _).stays) _) hs

/-- `attachDisks` after the root disk: the disks, into the configuration. -/
theorem attachDisks_tail_inert (root : StorageDevice) : Respects World.Inert (do
    let disks ← if (← getVM).install then do
        let iso ← (installerDisk vz').wrap "create installer disk"
        pure [root, iso]
      else pure [root]
    setConfig fun c => { c with storageDevices := disks }) := by
  have hiso : Respects World.Inert (installerDisk vz') := by
    unfold installerDisk; split
    · exact Respects.throw _
    · exact Respects.pure _
  exact Respects.getVM.bind fun vm => Respects.ite
    ((hiso.wrap _).bind fun _ => (Respects.pure _).bind fun _ => setConfig_inert _)
    ((Respects.pure _).bind fun _ => setConfig_inert _)

theorem attachDisks_stays : Respects (World.Stays vz) (attachDisks vz') :=
  ((rootDisk_stays vz vz').wrap _).bind fun root => (attachDisks_tail_inert vz' root).stays

/-- `attachSharedDirs` after the install-mode directories: the shares, into the configuration. -/
theorem attachSharedDirs_tail_inert : Respects World.Inert (do
    let configs ← configureDirShares vz' (← getVM).sharedDirectories
    setConfig fun c => { c with directorySharingDevices := configs }) :=
  Respects.getVM.bind fun _ => ((configureDirShares_onlyCalls vz' _).imp fun _ _ h => h.inert).bind
    fun _ => setConfig_inert _

/-- In install mode the boot directory is there: `MkdirAll` makes nothing. -/
theorem attachSharedDirs_stays : Respects (World.Stays vz) (attachSharedDirs vz') := fun w hs => by
  have jp := attachSharedDirs_tail_inert vz'
  rw [attachSharedDirs, getVM_bind]
  split
  · next hi =>
    have hboot : ∃ r, (generateBootstrapScript vz').wrap "generate bootstrap files" w = (r, w) := by
      unfold generateBootstrapScript; split <;> exact ⟨_, rfl⟩
    have e₂ : hostDo (·.mkdirAll ⟨w.vm.hostDataDir, ["boot"]⟩) w = (.ok (), w) := by
      simp [hostDo, Host.mkdirAll_of_some (hs.boot hi), Host.mkdirExisting, Except.map]
    obtain ⟨r, hr⟩ := hboot
    rcases r with e | dir
    · rw [bind_apply, hr]; exact ⟨rfl, hs⟩
    · rw [bind_of_ok hr, bind_of_ok (dataFilePath_of_ne hs.hostDataDir _), bind_of_ok e₂]
      exact World.Inert.stays (Respects.bind (Respects.inert_modifyVM (by intro; rfl)) (fun _ => jp) w) hs
  · exact World.Inert.stays (Respects.bind (Respects.pure _) (fun _ => jp) w) hs

/-- A value `loadStateData` returns is one its scan read from the file. -/
theorem loadStateData_some {α : Type} {name : String} {scan : List Char → Except Error α} {w : World} {v : α}
    (hd : w.vm.hostDataDir ≠ "") (e : (loadStateData name scan w).1 = .ok (some v)) : ∃ d, scan d = .ok v := by
  simp only [loadStateData, bind_apply, dataFilePath_of_ne hd, attempt_apply, hostDo, host_apply] at e
  cases ho : w.host.openFile ⟨w.vm.hostDataDir, [name]⟩ .rdonly with
  | error err => simp only [ho, Except.map] at e; split at e <;> simp at e
  | ok h' =>
    cases hr : h'.read ⟨w.vm.hostDataDir, [name]⟩ with
    | error => simp [ho, hr, Except.map] at e
    | ok d =>
      cases hs : scan d with
      | ok v' => simp [ho, hr, hs, Except.map] at e; exact ⟨d, e ▸ hs⟩
      | error err => simp [ho, hr, hs, Except.map] at e; split at e <;> simp at e

/-- `loadIdentifier` with `HostDataDir` set: the host stays, and the identifier is the one
scanned, or stays when nothing is loaded. -/
theorem loadIdentifier_eq {w : World} (hd : w.vm.hostDataDir ≠ "") :
    loadIdentifier w = match (loadStateData "id" Fmt.fscanfBytes w).1 with
      | .error e => (.error (e.wrap "load machine identifier"), w)
      | .ok (some v) => (.ok (), { w with vm := { w.vm with id := v } })
      | .ok none => (.ok (), w) := by
  simp only [loadIdentifier, bind_apply, attempt_apply, loadStateData_world hd]
  rcases (loadStateData "id" Fmt.fscanfBytes w).1 with _ | _ | _ <;> rfl

/-- From a settled world a load that succeeds leaves an identifier: a file `%v` scans yields a
word, and never the missing value. -/
theorem loadIdentifier_settled {w w₁ : World} (hs : w.Settled vz) (e : loadIdentifier w = (.ok (), w₁)) :
    World.Stays vz w w₁ ∧ w₁.vm.id ≠ [] := by
  have hv : ∀ v, (loadStateData "id" Fmt.fscanfBytes w).1 = .ok (some v) → v ≠ [] := fun v e => by
    obtain ⟨d, hd⟩ := loadStateData_some hs.hostDataDir e
    exact (Fmt.fscanfBytes_word d).1 v hd
  have hn : (loadStateData "id" Fmt.fscanfBytes w).1 = .ok none → w.vm.id ≠ [] := fun e => by
    rcases hs.id with hid | ⟨d, hf⟩
    · exact hid
    · rw [loadStateData_file hs.hostDataDir _ hf] at e
      have := (Fmt.fscanfBytes_word d).2
      split at e <;> [cases e; (split at e <;> simp_all)]
  rw [loadIdentifier_eq hs.hostDataDir] at e
  generalize (loadStateData "id" Fmt.fscanfBytes w).1 = r at e hv hn
  rcases r with _ | _ | v <;> simp only [Prod.mk.injEq, reduceCtorEq, false_and, true_and] at e
  · subst e; exact ⟨refl_of _ w, hn rfl⟩
  · subst e; exact ⟨fun _ => ⟨rfl, hs.setId (hv v rfl)⟩, hv v rfl⟩

theorem platformConfiguration_inert : Respects World.Inert (platformConfiguration vz') :=
  ((Respects.inert_call vz' _).wrap _).bind fun _ => Respects.getVM.bind fun _ => setConfig_inert _

/-- From a settled world the identifier is loaded, never made and saved. -/
theorem configureLinuxPlatform_stays : Respects (World.Stays vz) (configureLinuxPlatform vz') := by
  have hload : Respects (World.Stays vz) loadIdentifier := fun w hs => by
    rw [loadIdentifier_eq hs.hostDataDir]
    rcases h : (loadStateData "id" Fmt.fscanfBytes w).1 with _ | _ | v
    · exact ⟨rfl, hs⟩
    · exact ⟨rfl, hs⟩
    · exact (loadIdentifier_settled vz hs (by rw [loadIdentifier_eq hs.hostDataDir, h])).1 hs
  refine hload.bind_run fun w _ w₁ e hs => ?_
  obtain ⟨k₁, hid⟩ := loadIdentifier_settled vz hs e
  have hm : machineIdentifier vz' w₁ = ((call vz' (.newGenericMachineIdentifierWithData w₁.vm.id)).wrap
      "load machine identifier") w₁ := by
    simp [machineIdentifier, hid]
  have k₂ := (((Respects.inert_call vz' (.newGenericMachineIdentifierWithData w₁.vm.id)).wrap
    "load machine identifier").bind fun _ => platformConfiguration_inert vz') w₁
  simp only [bind_apply] at k₂ ⊢
  rw [hm]
  exact trans_of _ k₁ k₂.stays hs

theorem attachDevices_stays : Respects (World.Stays vz) (attachDevices vz') :=
  ((attachConsole_stays vz vz').wrap _).bind fun _ => ((attachDisks_stays vz vz').wrap _).bind fun _ =>
    ((((Respects.inert_call vz' _).wrap _).bind fun _ => ((Respects.inert_call vz' _).wrap _).bind fun _ =>
      ((Respects.inert_call vz' _).wrap _).bind fun _ => setConfig_inert _).stays.wrap _).bind fun _ =>
    ((((Respects.inert_call vz' _).wrap _).bind fun _ => setConfig_inert _).stays.wrap _).bind fun _ =>
      ((attachSharedDirs_stays vz vz').wrap _).bind fun _ => (configureLinuxPlatform_stays vz vz').wrap _

theorem newVirtualMachine_inert : Respects World.Inert (newVirtualMachine vz') :=
  (Respects.inert_call vz' _).attempt.bind fun r => by
    rcases r with e | ⟨⟩
    · exact (Respects.inert_modifyVM (by intro; rfl)).bind fun _ => Respects.throw _
    · exact Respects.inert_modifyVM (by intro; rfl)

/-- **From a settled world, a `Start` writes nothing**, on an engine with the same bounds,
whatever it answers: the host stays, and the world stays settled. -/
theorem start_stays (hb : vz'.bounds = vz.bounds) : Respects (World.Stays vz) (start vz') :=
  (assignFiles_stays vz).bind fun _ => ((configuration_stays vz vz' hb).bind fun _ =>
    (attachDevices_stays vz vz').bind fun _ => (((Respects.inert_call vz' _).wrap _).bind fun _ =>
      Respects.ite (Respects.throw _) (Respects.pure _)).stays).bind fun _ =>
    (newVirtualMachine_inert vz').stays.bind fun _ => (Respects.inert_call vz' _).stays

end Later

/-! ### What a first `Start` leaves -/

/-- The host of `w'` grows from that of `w`. -/
def World.Grows (w w' : World) : Prop := w.host.Grows w'.host

instance : IsRefl World World.Grows := ⟨fun _ => Host.Grows.refl _⟩
instance : IsTrans World World.Grows := ⟨fun _ _ _ => Host.Grows.trans⟩

section First

variable (vz : Vz) {w w' : World}

theorem World.Inert.grows (h : World.Inert w w') : World.Grows w w' := Host.Grows.of_fs_eq (by rw [h.host])

/-- What the rest of a method leaves of a path its first step opened. -/
theorem opened_after_bind {α β : Type} {x : Go α} {f : α → Go β} {p : Path} {flag : Flag}
    (hf : ∀ a, Respects World.Grows (f a)) (w : World) (ho : (x w).2.host.Opened p flag) :
    ((x >>= f) w).2.host.Opened p flag :=
  ho.grows (Respects.after_bind hf w)

/-- Every run of `initLogger` from a world with `HostDataDir` set opens the log. -/
theorem initLogger_opened (hd : w.vm.hostDataDir ≠ "") :
    (initLogger w).2.host.Opened ⟨w.vm.hostDataDir, ["log"]⟩ .append := by
  have ho : (openCreating ⟨w.vm.hostDataDir, ["log"]⟩ .append id w).2.host.Opened
      ⟨w.vm.hostDataDir, ["log"]⟩ .append := openCreating_opened rfl rfl
  simp only [initLogger, bind_apply, attempt_apply, dataFilePath_of_ne hd]
  generalize openCreating _ _ _ w = r at ho
  obtain ⟨r, w₁⟩ := r
  rcases r with _ | _ | ⟨⟩ <;> exact ho

/-- Every run of `nvram` from a world with `HostDataDir` set opens the variable store. -/
theorem nvram_opened (hd : w.vm.hostDataDir ≠ "") :
    (nvram vz w).2.host.Opened ⟨w.vm.hostDataDir, ["nvram"]⟩ .exclusive := by
  have e₁ : ((dataFilePath "nvram").wrap "create nvram file") w = (.ok ⟨w.vm.hostDataDir, ["nvram"]⟩, w) :=
    wrap_eq_ok.2 (dataFilePath_of_ne hd _)
  rw [nvram, bind_of_ok e₁]
  refine opened_after_bind (fun r => ?_) w (openCreating_opened rfl rfl)
  have hcall : ∀ c pre, Respects World.Grows ((call vz c).wrap pre >>= fun _ => pure (⟨w.vm.hostDataDir, ["nvram"]⟩ : Path)) :=
    fun _ _ => (((Respects.inert_call vz _).wrap _).bind fun _ => Respects.pure _).imp fun _ _ h => h.grows
  rcases r with e | ⟨⟩
  · exact Respects.ite (hcall _ _) (Respects.throw _)
  · exact hcall _ _

/-- In install mode, every run of `linuxBootLoader` opens the variable store. -/
theorem linuxBootLoader_opened (hd : w.vm.hostDataDir ≠ "") (hi : w.vm.install = true) :
    (linuxBootLoader vz w).2.host.Opened ⟨w.vm.hostDataDir, ["nvram"]⟩ .exclusive := by
  rw [linuxBootLoader, getVM_bind, if_pos hi, installerBootLoader, efiBootLoader]
  exact opened_after_bind (fun _ => ((Respects.inert_call vz _).bind fun _ => Respects.pure _).imp
    fun _ _ h => h.grows) w (nvram_opened vz hd)

/-- Along a world that evolves, a `HostDataDir` that was set stays. -/
theorem World.Evolves.hostDataDir_of_eq {S : List String} {d : String} (k : World.Evolves S w w')
    (h : w.vm.hostDataDir = d) (hd : d ≠ "") : w'.vm.hostDataDir = d :=
  (k.hostDataDir_eq (h ▸ hd)).trans h

theorem truncateNew_grows (path : Path) : Respects World.Grows (truncateNew path) := fun w => by
  rw [truncateNew_apply]
  split
  · exact Host.truncate_grows ‹_›
  · exact Host.Grows.refl _

/-- Every run of `attachDisks` from a world with `HostDataDir` set opens the root disk image. -/
theorem attachDisks_opened (hd : w.vm.hostDataDir ≠ "") :
    (attachDisks vz w).2.host.Opened ⟨w.vm.hostDataDir, ["disk.img"]⟩ .exclusive := by
  have e₁ : ((dataFilePath "disk.img").wrap "create root disk image") w =
      (.ok ⟨w.vm.hostDataDir, ["disk.img"]⟩, w) := wrap_eq_ok.2 (dataFilePath_of_ne hd _)
  refine opened_after_bind (fun root => (attachDisks_tail_inert vz root).imp fun _ _ h => h.grows) w ?_
  rw [wrap_snd, rootDisk, bind_of_ok e₁]
  refine opened_after_bind (fun _ => (((Respects.inert_call vz _).wrap _).bind fun _ =>
    ((Respects.inert_call vz _).wrap _).bind fun _ => Respects.pure _).imp fun _ _ h => h.grows) w ?_
  rw [openRootDisk]
  refine opened_after_bind (fun r => ?_) w (openCreating_opened rfl rfl)
  rcases r with e | ⟨⟩
  · exact Respects.ite (Respects.pure _) (Respects.throw _)
  · exact truncateNew_grows _

/-- A save that succeeds leaves a file at its path. -/
theorem saveStateData_file {name : String} {text : List Char} (hd : w.vm.hostDataDir ≠ "")
    (e : saveStateData name text w = (.ok (), w')) : ∃ d, w'.host.fs ⟨w.vm.hostDataDir, [name]⟩ = some (.file d) := by
  rw [saveStateData, bind_of_ok (dataFilePath_of_ne hd name)] at e
  obtain ⟨r, w₁, e₁, e⟩ := bind_eq_ok.1 e
  rcases r with _ | ⟨⟩
  · cases e
  · obtain ⟨_, -, ho⟩ := openCreating_opens e₁
    obtain ⟨d, hf⟩ := Host.openFile_file ho rfl
    obtain ⟨h, hw, rfl⟩ := hostDo_eq_ok e
    cases hw
    rw [Host.write_of_file hf]
    exact ⟨_, Host.setNode_fs_self _ _ _⟩

/-- After `machineIdentifier` there is an identifier, or a file it was saved to. -/
theorem machineIdentifier_leaves (hd : w.vm.hostDataDir ≠ "") (e : machineIdentifier vz w = (.ok (), w')) :
    w'.vm.id ≠ [] ∨ ∃ d, w'.host.fs ⟨w.vm.hostDataDir, ["id"]⟩ = some (.file d) := by
  rw [machineIdentifier, getVM_bind] at e
  split at e
  · obtain ⟨_, w₁, -, k₁, e⟩ := ((Respects.onlyCalls_call vz _).wrap _).bind_ok e
    rw [modifyVM_bind, getVM_bind] at e
    have hd₁ : w₁.vm.hostDataDir = w.vm.hostDataDir := by rw [k₁.vm]
    obtain ⟨d, hf⟩ := saveStateData_file (by exact hd₁ ▸ hd) (wrap_eq_ok.1 e)
    exact .inr ⟨d, by rw [← hd₁]; exact hf⟩
  · next hid =>
    rw [getVM_bind] at e
    rw [((Respects.onlyCalls_call vz _).wrap _).of_run e |>.vm]
    exact .inl hid

/-- After `configureLinuxPlatform` that succeeds there is an identifier, or a file it was saved
to. -/
theorem configureLinuxPlatform_leaves (hd : w.vm.hostDataDir ≠ "") (e : configureLinuxPlatform vz w = (.ok (), w')) :
    w'.vm.id ≠ [] ∨ ∃ d, w'.host.fs ⟨w.vm.hostDataDir, ["id"]⟩ = some (.file d) := by
  obtain ⟨_, w₁, -, k₁, e⟩ := (loadIdentifier_respects stateFiles).bind_ok e
  obtain ⟨_, w₂, e₂, e₃⟩ := bind_eq_ok.1 e
  have k₃ := (platformConfiguration_inert vz).of_run e₃
  have hd₁ := k₁.hostDataDir_of_eq rfl hd
  rw [k₃.id, k₃.host, ← hd₁]
  exact machineIdentifier_leaves vz (hd₁ ▸ hd) e₂

/-- In install mode, `attachSharedDirs` that succeeds leaves the boot directory. -/
theorem attachSharedDirs_boot (hd : w.vm.hostDataDir ≠ "") (hi : w.vm.install = true)
    (e : attachSharedDirs vz w = (.ok (), w')) : w'.host.fs ⟨w.vm.hostDataDir, ["boot"]⟩ = some .dir := by
  rw [attachSharedDirs, getVM_bind, if_pos hi] at e
  obtain ⟨dir, w₁, e₁, e₂⟩ := bind_eq_ok.1 e
  obtain ⟨-, rfl⟩ := generateBootstrapScript_ok (wrap_eq_ok.1 e₁)
  rw [bind_of_ok (dataFilePath_of_ne hd _)] at e₂
  obtain ⟨_, w₃, e₃, e₄⟩ := bind_eq_ok.1 e₂
  obtain ⟨h₃, hm, rfl⟩ := hostDo_eq_ok e₃
  rw [((Respects.inert_modifyVM (by intro; rfl)).bind fun _ => attachSharedDirs_tail_inert vz).of_run e₄ |>.host]
  exact Host.mkdirAll_dir hm

/-- A `configuration` that succeeds from a world with `HostDataDir` set has opened the log, and
in install mode the variable store. -/
theorem configuration_opens (hd : w.vm.hostDataDir ≠ "") (e : configuration vz w = (.ok (), w')) :
    w'.host.Opened ⟨w.vm.hostDataDir, ["log"]⟩ .append ∧
      (w'.vm.install = true → w'.host.Opened ⟨w.vm.hostDataDir, ["nvram"]⟩ .exclusive) := by
  obtain ⟨_, w₁, -, k₁, e⟩ := (defaultGuest_respects).bind_ok e
  obtain ⟨_, w₂, e₂, e⟩ := bind_eq_ok.1 e
  obtain ⟨_, w₃, -, k₃, e⟩ := (configure_respects stateFiles (by decide) _ _ _ _).bind_ok e
  obtain ⟨_, w₄, -, k₄, e⟩ := (configure_respects stateFiles (by decide) _ _ _ _).bind_ok e
  obtain ⟨b, w₅, e₅, e₆⟩ := bind_eq_ok.1 e
  have k₂ := (initLogger_respects stateFiles).of_run e₂
  have k₅ := ((linuxBootLoader_respects stateFiles vz).wrap _).of_run e₅
  have k₆ := (newConfiguration_respects vz b).of_run e₆
  have hd₁ := k₁.hostDataDir_of_eq rfl hd
  have hd₄ := k₄.hostDataDir_of_eq (k₃.hostDataDir_of_eq (k₂.hostDataDir_of_eq hd₁ hd) hd) hd
  have hlog := initLogger_opened (w := w₁) (hd₁ ▸ hd)
  rw [e₂, hd₁] at hlog
  refine ⟨hlog.grows (k₃.grows.trans (k₄.grows.trans (k₅.grows.trans k₆.grows))), fun hi => ?_⟩
  have hi₄ : w₄.vm.install = true := by
    rw [← hi, newConfiguration_ok e₆, (linuxBootLoader_ok (wrap_eq_ok.1 e₅)).2]
  have ho := linuxBootLoader_opened vz (hd₄ ▸ hd) hi₄
  rw [wrap_eq_ok.1 e₅, hd₄] at ho
  exact ho.grows k₆.grows

/-- An `attachDevices` that succeeds from a world with `HostDataDir` set has opened the root disk
image, in install mode made the boot directory, and left an identifier or a file it was saved
to. -/
theorem attachDevices_settles (hd : w.vm.hostDataDir ≠ "") (e : attachDevices vz w = (.ok (), w')) :
    w'.host.Opened ⟨w.vm.hostDataDir, ["disk.img"]⟩ .exclusive ∧
      (w'.vm.install = true → w'.host.fs ⟨w.vm.hostDataDir, ["boot"]⟩ = some .dir) ∧
      (w'.vm.id ≠ [] ∨ ∃ d, w'.host.fs ⟨w.vm.hostDataDir, ["id"]⟩ = some (.file d)) := by
  obtain ⟨_, w₁, -, k₁, e⟩ := ((attachConsole_respects stateFiles vz).wrap _).bind_ok e
  obtain ⟨_, w₂, e₂, e⟩ := bind_eq_ok.1 e
  obtain ⟨_, w₃, -, k₃, e⟩ := ((attachNetwork_respects stateFiles vz).wrap _).bind_ok e
  obtain ⟨_, w₄, -, k₄, e⟩ := ((attachEntropy_respects stateFiles vz).wrap _).bind_ok e
  obtain ⟨_, w₅, e₅, e₆⟩ := bind_eq_ok.1 e
  replace e₂ := wrap_eq_ok.1 e₂
  replace e₅ := wrap_eq_ok.1 e₅
  replace e₆ := wrap_eq_ok.1 e₆
  have k₂ := (attachDisks_respects stateFiles vz).of_run e₂
  have k₅ := (attachSharedDirs_respects stateFiles vz).of_run e₅
  have k₆ := (configureLinuxPlatform_respects stateFiles vz (by decide)).of_run e₆
  have hd₁ := k₁.hostDataDir_of_eq rfl hd
  have hd₄ := k₄.hostDataDir_of_eq (k₃.hostDataDir_of_eq (k₂.hostDataDir_of_eq hd₁ hd) hd) hd
  have hd₅ := k₅.hostDataDir_of_eq hd₄ hd
  have hdisk := attachDisks_opened vz (w := w₁) (hd₁ ▸ hd)
  rw [e₂, hd₁] at hdisk
  refine ⟨hdisk.grows (k₃.grows.trans (k₄.grows.trans (k₅.grows.trans k₆.grows))), fun hi => ?_, ?_⟩
  · have hi₄ : w₄.vm.install = true := by rw [← hi, configureLinuxPlatform_ok e₆, attachSharedDirs_ok e₅]
    rw [← hd₄]
    exact k₆.grows.dir _ (attachSharedDirs_boot vz (hd₄ ▸ hd) hi₄ e₅)
  · rw [← hd₅]
    exact configureLinuxPlatform_leaves vz (hd₅ ▸ hd) e₆

/-- **A `Start` that returns nil leaves the world settled**, from a VM with `HostDataDir` set, on
an engine with bounds `min ≤ max < 2^63` and minimums of at least 1: the log, the root disk image
and in install mode the variable store are opened, the boot directory made, the sizes negotiated,
the identifier set or saved, and the terminal raw. -/
theorem start_settled (hd : w.vm.hostDataDir ≠ "") (hvz : vz.BoundsOK) (hc : 1 ≤ vz.minCPU) (hm : 1 ≤ vz.minMemory)
    (h : start vz w = (.ok (), w')) : w'.Settled vz := by
  obtain ⟨w₁, w₂, e₁, e₂, kb, hv⟩ := start_eq_ok h
  obtain ⟨_, w₃, e₃, e⟩ := bind_eq_ok.1 e₂
  obtain ⟨_, w₄, e₄, e₅⟩ := bind_eq_ok.1 e
  have k₁ := assignFiles_respects.of_run e₁
  have k₃ := (configuration_respects vz).of_run e₃
  have k₄ := (attachDevices_respects vz).of_run e₄
  have k₅ := (validate_onlyCalls vz).of_run e₅
  have hd₁ := k₁.hostDataDir_of_eq rfl hd
  have hd₃ := k₃.hostDataDir_of_eq hd₁ hd
  have hd' : w'.vm.hostDataDir = w.vm.hostDataDir := by rw [hv, k₅.vm, k₄.hostDataDir_of_eq hd₃ hd]
  have g₄ : w₄.host.Grows w'.host := (k₅.evolves []).grows.trans kb.grows
  have hi : w'.vm.install = w₄.vm.install := by rw [hv, k₅.vm]
  have hi₄ : w₄.vm.install = w₃.vm.install := by rw [attachDevices_ok e₄]
  obtain ⟨hlog, hnvram⟩ := configuration_opens vz (w := w₁) (hd₁ ▸ hd) e₃
  obtain ⟨hdisk, hboot, hid⟩ := attachDevices_settles vz (w := w₃) (hd₃ ▸ hd) e₄
  rw [hd₁] at hlog hnvram
  rw [hd₃] at hdisk hboot hid
  obtain ⟨⟨c₀, c₁, -⟩, ⟨m₀, m₁, -⟩⟩ := prepare_sizes hvz e₂
  obtain ⟨t, ht⟩ := start_rawTerminal vz w () w' h
  refine ⟨hd' ▸ hd, ?_, ?_, fun hi' => ?_, fun hi' => ?_, ?_, ?_, ?_, fun t' ht' => ?_⟩
  · rw [hd']; exact hlog.grows (k₄.grows.trans g₄)
  · rw [hd']; exact hdisk.grows g₄
  · rw [hd']; exact (hnvram (by rw [← hi₄, ← hi, hi'])).grows (k₄.grows.trans g₄)
  · rw [hd']; exact g₄.dir _ (hboot (by rw [← hi, hi']))
  · have hc' : w'.vm.cpus = w₂.vm.cpus := by rw [hv]
    rw [hc', intOfUint64_of_lt (lt_of_le_of_lt hvz.cpu hvz.cpu_lt), intOfUint64_of_lt hvz.cpu_lt]
    omega
  · have hm' : w'.vm.memory = w₂.vm.memory := by rw [hv]
    rw [hm', intOfUint64_of_lt (lt_of_le_of_lt hvz.memory hvz.memory_lt), intOfUint64_of_lt hvz.memory_lt]
    omega
  · rw [hd', hv, k₅.vm]
    exact hid.imp id fun ⟨d, hf⟩ => g₄.file _ _ hf
  · rw [ht] at ht'
    cases ht'
    rfl

end First

/-! ### Over every sequence of calls -/

end Jetpack
