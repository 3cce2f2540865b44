import Jetpack.VM.Start

/-!
# A `Start` that returns

`Start` in install mode returns nil, and sets the engine instance, when the engine accepts
every call (`Vz.Accepts`) and the world is `World.Ready`: `HostDataDir` is a directory,
standard input a terminal, `DiskSize` not negative, and nothing is yet at `boot` or `id` in
the data directory. Whatever else the directory holds (state files, an image, a variable
store, from an earlier run or not) and whatever the engine's bounds, every step returns.

Each step gets one triple (`Go.Triple`), assembled from the triples of what it calls as the
frame lemmas of `Start` are. The steps that never fail (`initLogger` and the negotiation)
only have to keep `World.Ready`, whatever their loads and saves do.

* `prepare_runs`: the configuration, the devices and the validation return.
* `start_returns`: `Start` returns nil with an engine instance.
-/

namespace Jetpack

open Go

/-- An engine that lets `Start` through: every call succeeds, `Validate` accepts the
configuration, and the installer's disk and bootstrap script are there. -/
structure Vz.Accepts (vz : Vz) : Prop where
  fails : ∀ c, vz.fails c = none
  valid : vz.valid = true
  installerDisk : vz.installerDisk = none
  bootstrapScript : ∃ dir, vz.bootstrapScript = .ok dir

/-- A world on the way through an install-mode `Start` whose `HostDataDir` is the directory
`d`: standard input is a terminal, `DiskSize` is not negative, and nothing is at or under
`d/n` for the names `N` that steps still to come create. -/
structure World.Ready (d : String) (N : List String) (w : World) : Prop where
  hostDataDir : w.vm.hostDataDir = d
  root : w.host.fs ⟨d, []⟩ = some .dir
  free : ∀ n ∈ N, ∀ rest, w.host.fs ⟨d, n :: rest⟩ = none
  stdin : w.host.stdin.isSome
  install : w.vm.install = true
  diskSize : 0 ≤ w.vm.diskSize

namespace World.Ready

variable {d : String} {N : List String} {w : World}

theorem mono (hw : w.Ready d N) {N' : List String} (h : N' ⊆ N) : w.Ready d N' :=
  ⟨hw.hostDataDir, hw.root, fun n hn => hw.free n (h hn), hw.stdin, hw.install, hw.diskSize⟩

theorem calls (hw : w.Ready d N) (cs : List (VzCall × Option String)) : Ready d N { w with calls := cs } :=
  ⟨hw.hostDataDir, hw.root, hw.free, hw.stdin, hw.install, hw.diskSize⟩

/-- A change of the VM that keeps `HostDataDir`, the install mode and a non-negative
`DiskSize`. -/
theorem vm (hw : w.Ready d N) {vm : VM} (h₁ : vm.hostDataDir = w.vm.hostDataDir)
    (h₂ : vm.install = w.vm.install) (h₃ : 0 ≤ w.vm.diskSize → 0 ≤ vm.diskSize) :
    Ready d N { w with vm := vm } :=
  ⟨h₁.trans hw.hostDataDir, hw.root, hw.free, hw.stdin, h₂.trans hw.install, h₃ hw.diskSize⟩

/-- A node put anywhere but under a free name, a directory if at `d` itself. -/
theorem setNode (hw : w.Ready d N) {p : Path} {n : Node} (hd : p = ⟨d, []⟩ → n = .dir)
    (hN : ∀ m ∈ N, ∀ rest, p ≠ ⟨d, m :: rest⟩) : Ready d N { w with host := w.host.setNode p n } := by
  refine ⟨hw.hostDataDir, ?_, fun m hm rest => ?_, hw.stdin, hw.install, hw.diskSize⟩
  · by_cases hp : p = ⟨d, []⟩
    · subst hp; simp [hd rfl]
    · simpa [Host.setNode_fs_ne _ _ (Ne.symm hp)] using hw.root
  · simpa [Host.setNode_fs_ne _ _ (Ne.symm (hN m hm rest))] using hw.free m hm rest

/-- A file put at `d/m`, for a name `m` that is not free. -/
theorem setFile (hw : w.Ready d N) {p : Path} {m : String} (hp : p.rel = [m]) (hm : m ∉ N) (c : List Char) :
    Ready d N { w with host := w.host.setNode p (.file c) } :=
  hw.setNode (fun e => by simp [e] at hp) fun n hn rest e => by
    rw [e] at hp; cases hp; exact hm hn

end World.Ready

open World

variable {d : String} {N : List String}

/-! ### Keeping `World.Ready` whatever a step does -/

section Keeps

variable (hd : d ≠ "")
include hd

theorem dataFilePath_keepsReady (name : String) : Respects (Preserves (Ready d N)) (dataFilePath name) :=
  fun w hw => by rwa [dataFilePath_of_ne (by rw [hw.hostDataDir]; exact hd)]

omit hd in
theorem openFile_keepsReady {p : Path} {m : String} (hp : p.rel = [m]) (hm : m ∉ N) (flag : Flag) :
    Respects (Preserves (Ready d N)) (hostDo (·.openFile p flag)) :=
  Respects.preserves_hostDo fun w h e hw => by
    rcases Host.openFile_cases e with rfl | ⟨rfl, -⟩
    · exact hw
    · exact hw.setFile hp hm _

omit hd in
theorem mkdirAll_keepsReady {p : Path} (hp : p.rel = []) :
    Respects (Preserves (Ready d N)) (hostDo (·.mkdirAll p)) :=
  Respects.preserves_hostDo fun w h e hw => by
    obtain ⟨r, rel⟩ := p
    subst hp
    simp only [Host.mkdirAll, List.reverse_nil, Host.mkdirAllRev] at e
    split at e
    · rw [(Host.mkdirExisting_eq e).2]; exact hw
    · cases e
      exact hw.setNode (fun _ => rfl) fun _ _ _ e => by cases e

omit hd in
theorem openCreating_keepsReady {path : Path} {m : String} (hp : path.rel = [m]) (hm : m ∉ N) (flag : Flag)
    (f : Error → Error) : Respects (Preserves (Ready d N)) (openCreating path flag f) := by
  have hopen := openFile_keepsReady (d := d) hp hm flag
  have hmk : Respects (Preserves (Ready d N)) (hostDo (·.mkdirAll path.dir)) :=
    mkdirAll_keepsReady (by simp [Path.dir, hp])
  refine hopen.attempt.bind fun r => ?_
  rcases r with e | ⟨⟩
  · exact Respects.ite ((hmk.mapError f).bind fun _ => hopen.attempt) (Respects.pure _)
  · exact Respects.pure _

theorem loadStateData_keepsReady {α : Type} (name : String) (scan : List Char → Except Error α) :
    Respects (Preserves (Ready d N)) (loadStateData name scan) := by
  refine (dataFilePath_keepsReady hd name).bind fun path => ?_
  have hopen : Respects (Preserves (Ready d N)) (hostDo (·.openFile path .rdonly)) :=
    Respects.preserves_hostDo fun w h e hw => by rw [Host.openFile_rdonly e]; exact hw
  have hread : Respects (Preserves (Ready d N)) (host fun h => (h.read path).map (·, h)) := fun w hw => by
    simp only [host_apply]
    cases w.host.read path <;> exact hw
  refine hopen.attempt.bind fun r => ?_
  rcases r with e | ⟨⟩
  · exact Respects.ite (Respects.pure _) (Respects.throw _)
  · refine hread.bind fun content => ?_
    rcases scan content with e | v
    · exact Respects.ite (Respects.pure _) (Respects.throw _)
    · exact Respects.pure _

theorem saveStateData_keepsReady {name : String} (hn : name ∉ N) (text : List Char) :
    Respects (Preserves (Ready d N)) (saveStateData name text) := by
  refine (dataFilePath_keepsReady hd name).bind_of (dataFilePath_returns name) fun path hp => ?_
  refine (openCreating_keepsReady hp hn _ id).bind fun r => ?_
  rcases r with e | ⟨⟩
  · exact Respects.throw _
  · refine Respects.preserves_hostDo fun w h e hw => ?_
    cases e
    unfold Host.write; split
    · exact hw.setFile hp hn _
    · exact hw

theorem initLogger_keepsReady (hlog : "log" ∉ N) : Respects (Preserves (Ready d N)) initLogger := by
  have hfail : Respects (Preserves (Ready d N)) (modifyVM fun vm => { vm with logger := some .default }) :=
    fun _ hw => hw.vm rfl rfl id
  refine (dataFilePath_keepsReady hd _).attempt.bind_of (dataFilePath_returns _).attempt fun r hr => ?_
  rcases r with e | path
  · exact hfail
  · refine (openCreating_keepsReady (hr path rfl) hlog _ id).attempt.bind fun r => ?_
    rcases r with _ | _ | ⟨⟩
    · exact hfail
    · exact hfail
    · exact fun _ hw => hw.vm rfl rfl id

/-- Negotiation keeps `World.Ready`, for a field whose `set` changes neither the install mode
nor `DiskSize`. -/
theorem configure_keepsReady {name : String} (hn : name ∉ N) {f : Field}
    (hf : ∀ vm v, (f.set vm v).install = vm.install ∧ (f.set vm v).diskSize = vm.diskSize)
    (default min max : Int) : Respects (Preserves (Ready d N)) (configure name f default min max) := by
  have hset : ∀ v : Int, Respects (Preserves (Ready d N)) (modifyVM (f.set · v)) :=
    fun _ _ hw => hw.vm (f.keepsHandles _ _).hostDataDir (hf _ _).1 fun h => by rw [(hf _ _).2]; exact h
  have hclamp : Respects (Preserves (Ready d N)) (clampSaved name f min max) :=
    Respects.getVM.bind fun _ => Respects.getVM.bind fun _ => Respects.ite ((hset _).bind fun _ =>
      Respects.getVM.bind fun _ => (saveStateData_keepsReady hd hn _).discard_attempt) (Respects.pure _)
  have jp : Respects (Preserves (Ready d N)) (do
      if f.get (← getVM) = 0 then defaultSaved name f default min max else clampSaved name f min max) :=
    Respects.getVM.bind fun _ => Respects.ite ((hset _).bind fun _ =>
      Respects.getVM.bind fun _ => (saveStateData_keepsReady hd hn _).discard_attempt) hclamp
  refine Respects.getVM.bind fun _ => Respects.ite ?_ hclamp
  refine (loadStateData_keepsReady hd name _).attempt.bind fun r => ?_
  rcases r with _ | _ | v
  · exact (Respects.pure _).bind fun _ => jp
  · exact (Respects.pure _).bind fun _ => jp
  · exact (hset _).bind fun _ => jp

end Keeps

/-! ### The steps of `Start` return -/

section Runs

variable {vz : Vz} (hvz : vz.Accepts) (hd : d ≠ "")

theorem getVM_runs : Triple (Ready d N) getVM fun _ => Ready d N := Triple.getVM fun _ => id

theorem pure_runs {α : Type} (a : α) : Triple (Ready d N) (pure a : Go α) fun _ => Ready d N :=
  Triple.pure a fun _ => id

include hvz in
theorem call_runs (c : VzCall) : Triple (Ready d N) (call vz c) fun _ => Ready d N :=
  Triple.call (hvz.fails c) fun _ hw => hw.calls _

theorem setConfig_runs (f : Config → Config) : Triple (Ready d N) (setConfig f) fun _ => Ready d N :=
  Triple.modifyVM _ fun _ hw => hw.vm rfl rfl id

include hd in
theorem dataFilePath_runs (name : String) :
    Triple (Ready d N) (dataFilePath name) fun p w => p = ⟨d, [name]⟩ ∧ Ready d N w :=
  Triple.of_run fun w hw => ⟨_, _, dataFilePath_of_ne (by rw [hw.hostDataDir]; exact hd) name,
    by rw [hw.hostDataDir], hw⟩

include hd in
theorem assignFiles_runs : Triple (Ready d N) assignFiles fun _ => Ready d N :=
  Triple.of_run fun w hw => ⟨(), { w with vm := { w.vm with files := bundle w.vm.hostDataDir false } },
    by simp [assignFiles, fileBundle_of_ne (show w.vm.hostDataDir ≠ "" by rw [hw.hostDataDir]; exact hd)],
    hw.vm rfl rfl id⟩

/-- An exclusive open in the directory returns: it creates the file, or reports that
something is there. -/
theorem openCreating_exclusive_runs {m : String} (hm : m ∉ N) (f : Error → Error) :
    Triple (Ready d N) (openCreating ⟨d, [m]⟩ .exclusive f)
      fun r w => (∀ e, r = .error e → e.isExist) ∧ Ready d N w := by
  refine Triple.of_run fun w hw => ?_
  have hpe : w.host.parentErr ⟨d, [m]⟩ = none := Host.parentErr_of_dir (by simp) hw.root
  cases hn : w.host.fs ⟨d, [m]⟩ with
  | none =>
    refine ⟨.ok (), { w with host := w.host.setNode ⟨d, [m]⟩ (.file []) }, ?_,
      ⟨(fun _ h => nomatch h), hw.setFile (p := ⟨d, [m]⟩) rfl hm _⟩⟩
    simp [openCreating, hostDo, Host.openFile_of_none hn hpe (show Flag.exclusive.create = true from rfl),
      Except.map]
  | some node =>
    refine ⟨.error (.path "open" (Path.toString ⟨d, [m]⟩) .exist), w, ?_, ⟨fun e h => ?_, hw⟩⟩
    · simp [openCreating, hostDo, Host.openFile, hn, Flag.exclusive, Except.map, Error.isNotExist]
    · cases h; rfl

theorem truncateNew_runs {m : String} (hm : m ∉ N) :
    Triple (Ready d N) (truncateNew ⟨d, [m]⟩) fun _ => Ready d N :=
  Triple.of_run fun w hw => by
    have hs := requestedDiskSize_nonneg hw.diskSize
    have hw' : Ready d N { w with vm := { w.vm with diskSize := requestedDiskSize w.vm } } :=
      hw.vm rfl rfl fun _ => hs
    rw [truncateNew_apply]
    rcases Host.truncate_of_nonneg (h := w.host) (p := ⟨d, [m]⟩) hs with e | ⟨c, e⟩ <;> rw [e]
    · exact ⟨(), _, rfl, hw'⟩
    · exact ⟨(), _, rfl, hw'.setFile (p := ⟨d, [m]⟩) rfl hm _⟩

/-- The image is opened as it is, or made and sized. -/
theorem openRootDisk_runs {m : String} (hm : m ∉ N) :
    Triple (Ready d N) (openRootDisk ⟨d, [m]⟩) fun _ => Ready d N :=
  (openCreating_exclusive_runs hm _).bind fun r => Triple.lift fun he => by
    rcases r with e | ⟨⟩
    · exact Triple.ite (fun _ => pure_runs _) fun hne => absurd (he e rfl) hne
    · exact truncateNew_runs hm

include hvz in
theorem configureDirShare_runs (path : String) (ro : Bool) :
    Triple (Ready d N) (configureDirShare vz path ro) fun _ => Ready d N := by
  unfold configureDirShare
  exact ((call_runs hvz _).wrap _).bind fun _ => ((call_runs hvz _).wrap _).bind fun _ =>
    ((call_runs hvz _).wrap _).bind fun _ => pure_runs _

include hvz in
theorem configureDirShares_runs (ds : List SharedDirectory) :
    Triple (Ready d N) (configureDirShares vz ds) fun _ => Ready d N := by
  induction ds with
  | nil => exact pure_runs _
  | cons _ _ ih => exact (configureDirShare_runs hvz _ _).bind fun _ => ih.bind fun _ => pure_runs _

include hvz in
theorem newVirtualMachine_runs :
    Triple (fun w => w.vm.config.isSome) (newVirtualMachine vz) fun _ w => w.vm.vzvm.isSome := by
  refine (Triple.attempt_unit (Triple.call (P := fun w => w.vm.config.isSome)
    (Q := fun _ w => w.vm.config.isSome) (hvz.fails _) fun _ h => h)).bind
    fun _ => Triple.lift fun hr => ?_
  subst hr
  exact Triple.modifyVM _ fun _ hc => by simpa using hc

include hvz in
theorem validate_runs : Triple (fun _ => True) (validate vz) fun _ _ => True := by
  refine ((Triple.call (Q := fun _ _ => True) (hvz.fails _) fun _ _ => trivial).wrap _).bind fun _ => ?_
  exact Triple.ite (fun h => absurd h (by simp [hvz.valid])) fun _ => Triple.pure _ fun _ _ => trivial

include hvz in
theorem newConfiguration_runs (loader : BootLoader) :
    Triple (Ready d N) (newConfiguration vz loader) fun _ => Ready d N := by
  refine getVM_runs.bind fun _ => (Triple.attempt_unit (call_runs hvz _)).bind fun _ =>
    Triple.lift fun hr => ?_
  subst hr
  exact Triple.modifyVM _ fun _ hw => hw.vm rfl rfl id

include hvz hd

theorem nvram_runs (hn : "nvram" ∉ N) : Triple (Ready d N) (nvram vz) fun _ => Ready d N := by
  refine ((dataFilePath_runs hd _).wrap _).bind fun path => Triple.lift fun hp => ?_
  subst hp
  refine (openCreating_exclusive_runs hn _).bind fun r => Triple.lift fun he => ?_
  rcases r with e | ⟨⟩
  · exact Triple.ite (fun _ => ((call_runs hvz _).wrap _).bind fun _ => pure_runs _)
      fun hne => absurd (he e rfl) hne
  · exact ((call_runs hvz _).wrap _).bind fun _ => pure_runs _

/-- In install mode the firmware's loader is made, with its variable store. -/
theorem linuxBootLoader_runs (hn : "nvram" ∉ N) :
    Triple (Ready d N) (linuxBootLoader vz) fun _ => Ready d N :=
  (Triple.getVM (Q := fun vm w => vm.install = true ∧ Ready d N w) fun _ hw => ⟨hw.install, hw⟩).bind
    fun _ => Triple.lift fun hi => Triple.ite (fun _ => (nvram_runs hvz hd hn).bind fun _ =>
      (call_runs hvz _).bind fun _ => pure_runs _) fun h => absurd hi h

theorem configuration_runs (hN : ∀ n ∈ ["log", "cpu", "mem", "nvram"], n ∉ N) :
    Triple (Ready d N) (configuration vz) fun _ => Ready d N :=
  (Triple.modifyVM _ fun _ hw => hw.vm rfl rfl id).bind fun _ =>
    (Triple.of_throws initLogger_throws (initLogger_keepsReady hd (hN _ (by simp)))).bind fun _ =>
    (Triple.of_throws (configure_throws _ _ _ _ _)
      (configure_keepsReady hd (hN _ (by simp)) (fun _ _ => ⟨rfl, rfl⟩) _ _ _)).bind fun _ =>
    (Triple.of_throws (configure_throws _ _ _ _ _)
      (configure_keepsReady hd (hN _ (by simp)) (fun _ _ => ⟨rfl, rfl⟩) _ _ _)).bind fun _ =>
    ((linuxBootLoader_runs hvz hd (hN _ (by simp))).wrap _).bind (newConfiguration_runs hvz)

omit hd in
theorem attachConsole_runs : Triple (Ready d N) (attachConsole vz) fun _ => Ready d N := by
  have hget : Triple (Ready d N) (host fun h => h.getTermios.map (·, h)) fun _ => Ready d N :=
    Triple.host fun w hw => by
      obtain ⟨t, ht⟩ := Option.isSome_iff_exists.1 hw.stdin
      exact ⟨t, w.host, by simp [Host.getTermios, ht, Except.map], hw⟩
  have hset : ∀ t, Triple (Ready d N) (hostDo (·.setTermios t)) fun _ => Ready d N := fun t =>
    Triple.hostDo fun w hw => by
      obtain ⟨t₀, ht⟩ := Option.isSome_iff_exists.1 hw.stdin
      exact ⟨{ w.host with stdin := some t }, by simp [Host.setTermios, ht],
        ⟨hw.hostDataDir, hw.root, hw.free, rfl, hw.install, hw.diskSize⟩⟩
  exact (hget.wrap _).bind fun _ => ((hset _).wrap _).bind fun _ => ((call_runs hvz _).wrap _).bind fun _ =>
    ((call_runs hvz _).wrap _).bind fun _ => setConfig_runs _

theorem rootDisk_runs (hn : "disk.img" ∉ N) : Triple (Ready d N) (rootDisk vz) fun _ => Ready d N :=
  ((dataFilePath_runs hd _).wrap _).bind fun _ => Triple.lift fun hp => by
    subst hp
    exact (openRootDisk_runs hn).bind fun _ => ((call_runs hvz _).wrap _).bind fun _ =>
      ((call_runs hvz _).wrap _).bind fun _ => pure_runs _

theorem attachDisks_runs (hn : "disk.img" ∉ N) : Triple (Ready d N) (attachDisks vz) fun _ => Ready d N := by
  have hiso : Triple (Ready d N) (installerDisk vz) fun _ => Ready d N := by
    simp only [installerDisk, hvz.installerDisk]
    exact pure_runs _
  refine ((rootDisk_runs hvz hd hn).wrap _).bind fun _ => getVM_runs.bind fun _ =>
    Triple.ite (fun _ => ?_) fun _ => (pure_runs _).bind fun _ => setConfig_runs _
  exact (hiso.wrap _).bind fun _ => (pure_runs _).bind fun _ => setConfig_runs _

omit hd in
theorem attachNetwork_runs : Triple (Ready d N) (attachNetwork vz) fun _ => Ready d N :=
  ((call_runs hvz _).wrap _).bind fun _ => ((call_runs hvz _).wrap _).bind fun _ =>
    ((call_runs hvz _).wrap _).bind fun _ => setConfig_runs _

omit hd in
theorem attachEntropy_runs : Triple (Ready d N) (attachEntropy vz) fun _ => Ready d N :=
  ((call_runs hvz _).wrap _).bind fun _ => setConfig_runs _

/-- In install mode `boot` is made, and is no longer free. -/
theorem attachSharedDirs_runs (hb : "boot" ∉ N) :
    Triple (Ready d ("boot" :: N)) (attachSharedDirs vz) fun _ => Ready d N := by
  obtain ⟨dir, hdir⟩ := hvz.bootstrapScript
  have jp : Triple (Ready d N) (do
      let configs ← configureDirShares vz (← getVM).sharedDirectories
      setConfig fun c => { c with directorySharingDevices := configs }) fun _ => Ready d N :=
    getVM_runs.bind fun _ => (configureDirShares_runs hvz _).bind fun _ => setConfig_runs _
  have hgen : Triple (Ready d ("boot" :: N)) (generateBootstrapScript vz) fun _ => Ready d ("boot" :: N) := by
    simp only [generateBootstrapScript, hdir]
    exact pure_runs _
  have hmk : Triple (Ready d ("boot" :: N)) (hostDo (·.mkdirAll ⟨d, ["boot"]⟩)) fun _ => Ready d N :=
    Triple.hostDo fun w hw => ⟨_, Host.mkdirAll_child hw.root (hw.free _ (List.mem_cons_self _ _) []),
      (hw.mono (List.subset_cons_self _ _)).setNode (fun e => by cases e) fun m hm rest e => by
        cases e; exact hb hm⟩
  refine getVM_runs.bind fun _ => Triple.ite (fun _ => ?_)
    fun _ => (Triple.pure (P := Ready d ("boot" :: N)) (Q := fun _ => Ready d N) _ fun _ hw => hw.mono (List.subset_cons_self _ _)).bind
      fun _ => jp
  refine (hgen.wrap _).bind fun _ => (dataFilePath_runs hd _).bind fun _ => Triple.lift fun hp => ?_
  subst hp
  exact hmk.bind fun _ => (Triple.modifyVM _ fun _ hw => hw.vm rfl rfl id).bind fun _ => jp

/-- `id` is free: no identifier is loaded, and a new one is saved, or the one in `vm.ID` is
passed on. -/
theorem configureLinuxPlatform_runs (hid : "id" ∈ N) :
    Triple (Ready d N) (configureLinuxPlatform vz) fun _ _ => True := by
  have hload : Triple (Ready d N) loadIdentifier fun _ => Ready d N := Triple.of_run fun w hw => by
    rw [← hw.hostDataDir] at hd
    refine ⟨(), w, loadIdentifier_none hd ?_ (.inr ?_), hw⟩ <;> rw [hw.hostDataDir]
    exacts [hw.free _ hid [], hw.root]
  have hsave : ∀ t, Triple (Ready d N) (saveStateData "id" t) fun _ _ => True := fun t =>
    Triple.of_run fun w hw => by
      rw [← hw.hostDataDir] at hd
      obtain ⟨h', e, -⟩ := saveStateData_of_ne hd t (.inl (by rw [hw.hostDataDir]; exact hw.free _ hid []))
        (.inr (by rw [hw.hostDataDir]; exact hw.root))
      exact ⟨(), _, e, trivial⟩
  have hmid : Triple (Ready d N) (machineIdentifier vz) fun _ _ => True := by
    unfold machineIdentifier
    refine getVM_runs.bind fun _ => Triple.ite (fun _ => ?_) fun _ => ?_
    · exact ((call_runs hvz _).wrap _).bind fun _ => (Triple.modifyVM _ fun _ hw => hw.vm rfl rfl id).bind
        fun _ => getVM_runs.bind fun _ => (hsave _).wrap _
    · exact getVM_runs.bind fun _ =>
        (Triple.call (Q := fun _ _ => True) (hvz.fails _) fun _ _ => trivial).wrap _
  have hplat : Triple (fun _ => True) (platformConfiguration vz) fun _ _ => True := by
    unfold platformConfiguration
    exact ((Triple.call (Q := fun _ _ => True) (hvz.fails _) fun _ _ => trivial).wrap _).bind fun _ =>
      (Triple.getVM (Q := fun _ _ => True) fun _ _ => trivial).bind fun _ => Triple.modifyVM _ fun _ _ => trivial
  exact hload.bind fun _ => hmid.bind fun _ => hplat

theorem attachDevices_runs : Triple (Ready d ["boot", "id"]) (attachDevices vz) fun _ _ => True :=
  ((attachConsole_runs hvz).wrap _).bind fun _ => ((attachDisks_runs hvz hd (by simp)).wrap _).bind fun _ =>
    ((attachNetwork_runs hvz).wrap _).bind fun _ => ((attachEntropy_runs hvz).wrap _).bind fun _ =>
      ((attachSharedDirs_runs hvz hd (by simp)).wrap _).bind fun _ =>
        (configureLinuxPlatform_runs hvz hd (by simp)).wrap _

/-- **The steps of `Start` before the engine instance return**, from every `World.Ready`
world, with an engine that accepts every call. -/
theorem prepare_runs : Triple (Ready d ["boot", "id"]) (prepare vz) fun _ _ => True :=
  (configuration_runs hvz hd (by simp)).bind fun _ => (attachDevices_runs hvz hd).bind fun _ =>
    (validate_runs hvz).conseq (fun _ _ => trivial) fun _ _ => id

theorem start_runs : Triple (Ready d ["boot", "id"]) (start vz) fun _ w => w.vm.vzvm.isSome :=
  (assignFiles_runs hd).bind fun _ =>
    (((prepare_runs hvz hd).ensures (prepare_ensures vz)).conseq (fun _ => id) fun _ _ h => h.2).bind
      fun _ => (newVirtualMachine_runs hvz).bind fun _ => Triple.call (hvz.fails _) fun _ h => h

/-- **`Start` returns nil and sets the engine instance** in install mode, with an engine that
accepts every call, when `HostDataDir` is a directory without `boot` or `id` in it, standard
input is a terminal, and `DiskSize` is not negative. -/
theorem start_returns {w : World} (hw : w.Ready d ["boot", "id"]) :
    (start vz w).1 = .ok () ∧ (start vz w).2.vm.vzvm.isSome := by
  obtain ⟨⟨⟩, e, h⟩ := start_runs hvz hd w hw
  exact ⟨e, h⟩

end Runs

end Jetpack
