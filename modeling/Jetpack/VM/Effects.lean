import Jetpack.VM.Lifecycle
import Jetpack.VM.Configuration

/-!
# What the VM does to the host and to the engine

`Start` writes its bundle (the log, the state files, the NVRAM store, the disk image and, in
install mode, the boot output directory) under `HostDataDir`, which it makes first when it is
empty, and it puts the terminal in raw mode; `Stop` does nothing to the host. Of the engine,
`Stop` asks only for the instance that the last `NewVirtualMachine` call made.

* `World.Footprint`: a node of the file system changes only under `HostDataDir`, when it is
  set, or under a root directory that did not exist; `HostDataDir` stays, or is set from
  empty to such a root; and the terminal keeps its attributes or is put in raw mode.
* `start_footprint`: every run of `Start` stays within the footprint, whatever the engine
  answers and wherever it fails; `Stop` does too.
* `lifecycle_writes_confined`: so does every sequence of calls: a VM with `HostDataDir` set
  writes nowhere else, and one without writes only into directories it makes.
* `terminal_stays_raw`: after a `Start` that returns nil, the terminal stays in raw mode
  whatever calls follow.
* `stop_calls_follow_instance`: over every sequence of calls, each `RequestStop` and `Stop`
  the engine gets comes after a `NewVirtualMachine` call that succeeded, with no other one
  between.
-/

namespace Jetpack

open Go

/-! ### Host operations that work under one root -/

namespace Host

/-- `h'` differs from `h` at most in the nodes under the root `r`, and in the names
`MkdirTemp` has drawn; the terminal is as it was. -/
structure Within (r : String) (h h' : Host) : Prop where
  fs : ∀ q : Path, q.root ≠ r → h'.fs q = h.fs q
  stdin : h'.stdin = h.stdin

variable {r : String} {h h' : Host} {p : Path}

theorem Within.refl (r : String) (h : Host) : h.Within r h := ⟨fun _ _ => rfl, rfl⟩

theorem Within.trans {h₁ h₂ h₃ : Host} (a : h₁.Within r h₂) (b : h₂.Within r h₃) : h₁.Within r h₃ :=
  ⟨fun q hq => (b.fs q hq).trans (a.fs q hq), b.stdin.trans a.stdin⟩

theorem within_setNode (h : Host) (p : Path) (n : Node) : h.Within p.root (h.setNode p n) :=
  ⟨fun _ hq => setNode_fs_ne h n fun hqp => hq (congrArg Path.root hqp), rfl⟩

theorem openFile_within {f : Flag} (e : h.openFile p f = .ok h') : h.Within p.root h' := by
  rcases openFile_cases e with rfl | ⟨rfl, -⟩
  · exact .refl _ _
  · exact within_setNode _ p _

theorem mkdirAllRev_within (r : String) :
    ∀ (names : List String) {h h' : Host}, mkdirAllRev r names h = .ok h' → h.Within r h'
  | [], h, h', e => by
    simp only [mkdirAllRev] at e
    split at e
    · rw [(mkdirExisting_eq e).2]; exact .refl r h
    · cases e; exact within_setNode h ⟨r, []⟩ _
  | _ :: names, h, h', e => by
    simp only [mkdirAllRev] at e
    split at e
    · rw [(mkdirExisting_eq e).2]; exact .refl r h
    · cases e₁ : mkdirAllRev r names h with
      | error => rw [e₁] at e; cases e
      | ok h₁ =>
        rw [e₁] at e; cases e
        exact (mkdirAllRev_within r names e₁).trans (within_setNode h₁ ⟨r, _⟩ _)

theorem mkdirAll_within (e : h.mkdirAll p = .ok h') : h.Within p.root h' := mkdirAllRev_within _ _ e

theorem truncate_within {size : Int} (e : h.truncate p size = .ok h') : h.Within p.root h' := by
  unfold truncate at e
  split at e
  · cases e
  · split at e <;> cases e
    · exact within_setNode h p _
    · exact .refl _ h

theorem write_within (p : Path) (text : List Char) : h.Within p.root (h.write p text) := by
  unfold write; split
  · exact within_setNode h p _
  · exact .refl _ h

/-- `MkdirTemp` works under the root it makes. -/
theorem mkdirTemp_within (e : h.mkdirTemp = .ok (r, h')) : h.Within r h' := by
  obtain ⟨-, ⟨n, rfl⟩, -⟩ := mkdirTemp_spec e
  exact ⟨(within_setNode h ⟨r, []⟩ .dir).fs, rfl⟩

theorem setTermios_stdin {t : Termios} (e : h.setTermios t = .ok h') : h'.stdin = some t := by
  unfold setTermios at e; split at e <;> cases e; rfl

end Host

/-! ### The footprint -/

/-- What a step of the VM may do to the host: a node of the file system changes only under
`HostDataDir`, when it is set, or under a root directory that did not exist; `HostDataDir`
stays, or is set from empty to such a root; the terminal keeps its attributes, or is put in
raw mode. -/
structure World.Footprint (w w' : World) : Prop where
  hostDataDir : w'.vm.hostDataDir = w.vm.hostDataDir ∨
    w.vm.hostDataDir = "" ∧ w.host.fs ⟨w'.vm.hostDataDir, []⟩ = none
  fs : ∀ q : Path, (w.vm.hostDataDir = "" ∨ q.root ≠ w.vm.hostDataDir) →
    w.host.fs ⟨q.root, []⟩ ≠ none → w'.host.fs q = w.host.fs q
  stdin : w'.host.stdin = w.host.stdin ∨ ∃ t : Termios, w'.host.stdin = some t.raw

/-- `w'` differs from `w`, on the host, at most under the root `r`, and has its
`HostDataDir`: a step that works in the directory `r`. -/
structure World.Under (r : String) (w w' : World) : Prop where
  hostDataDir : w'.vm.hostDataDir = w.vm.hostDataDir
  host : w.host.Within r w'.host

/-- `w'` has the host and the `HostDataDir` of `w`: a step that only changes the VM and calls
the engine. -/
structure World.KeepsHost (w w' : World) : Prop where
  hostDataDir : w'.vm.hostDataDir = w.vm.hostDataDir
  host : w'.host = w.host

namespace World

variable {r : String} {w w' w₁ w₂ w₃ : World}

theorem Footprint.trans (a : Footprint w₁ w₂) (b : Footprint w₂ w₃) : Footprint w₁ w₃ := by
  -- a root that exists outside the data directory of `w₁` exists, outside that of `w₂`
  have hout : ∀ q : Path, (w₁.vm.hostDataDir = "" ∨ q.root ≠ w₁.vm.hostDataDir) →
      w₁.host.fs ⟨q.root, []⟩ ≠ none →
      (w₂.vm.hostDataDir = "" ∨ q.root ≠ w₂.vm.hostDataDir) ∧ w₂.host.fs ⟨q.root, []⟩ ≠ none := by
    intro q hq hr
    refine ⟨?_, by rwa [a.fs ⟨q.root, []⟩ hq hr]⟩
    rcases a.hostDataDir with h | ⟨-, h⟩
    · rwa [h]
    · exact .inr fun e => hr (e ▸ h)
  refine ⟨?_, fun q hq hr => ?_, ?_⟩
  · rcases b.hostDataDir with hb | ⟨hb, hn⟩
    · rw [hb]; exact a.hostDataDir
    · have h₁ : w₁.vm.hostDataDir = "" := a.hostDataDir.elim (fun h => h ▸ hb) (·.1)
      exact .inr ⟨h₁, not_not.1 fun hr => (hout ⟨_, []⟩ (.inl h₁) hr).2 hn⟩
  · obtain ⟨hq₂, hr₂⟩ := hout q hq hr
    rw [b.fs q hq₂ hr₂, a.fs q hq hr]
  · rcases b.stdin with hb | hb
    · rw [hb]; exact a.stdin
    · exact .inr hb

instance : IsRefl World Footprint := ⟨fun _ => ⟨.inl rfl, fun _ _ _ => rfl, .inl rfl⟩⟩
instance : IsTrans World Footprint := ⟨fun _ _ _ => Footprint.trans⟩
instance : IsRefl World (Under r) := ⟨fun w => ⟨rfl, .refl r w.host⟩⟩
instance : IsTrans World (Under r) :=
  ⟨fun _ _ _ a b => ⟨b.hostDataDir.trans a.hostDataDir, a.host.trans b.host⟩⟩
instance : IsRefl World KeepsHost := ⟨fun _ => ⟨rfl, rfl⟩⟩
instance : IsTrans World KeepsHost :=
  ⟨fun _ _ _ a b => ⟨b.hostDataDir.trans a.hostDataDir, b.host.trans a.host⟩⟩

/-- A step that works in the data directory stays within the footprint. -/
theorem Under.footprint (h : Under r w w') (hr : r = w.vm.hostDataDir) (hd : w.vm.hostDataDir ≠ "") :
    Footprint w w' := by
  subst hr
  exact ⟨.inl h.hostDataDir, fun q hq _ => h.host.fs q (hq.resolve_left hd), .inl h.host.stdin⟩

theorem KeepsHost.footprint (h : KeepsHost w w') : Footprint w w' :=
  ⟨.inl h.hostDataDir, fun q _ _ => by rw [h.host], .inl (by rw [h.host])⟩

theorem KeepsHost.under (r : String) (h : KeepsHost w w') : Under r w w' :=
  ⟨h.hostDataDir, by rw [h.host]; exact .refl r _⟩

theorem OnlyCalls.keepsHost (h : OnlyCalls w w') : KeepsHost w w' := ⟨by rw [h.vm], h.host⟩

/-- A step that makes the root directory `r` where nothing was, and works there, stays within
the footprint. -/
theorem Footprint.of_fresh (hw : w.host.Within r w'.host) (hr : w.host.fs ⟨r, []⟩ = none)
    (hd : w'.vm.hostDataDir = w.vm.hostDataDir ∨ w.vm.hostDataDir = "" ∧ w'.vm.hostDataDir = r) :
    Footprint w w' := by
  refine ⟨?_, fun q _ hq => hw.fs q fun e => hq (e ▸ hr), .inl hw.stdin⟩
  rcases hd with hd | ⟨h₁, h₂⟩
  · exact .inl hd
  · exact .inr ⟨h₁, h₂ ▸ hr⟩

end World

namespace Go

variable {α β : Type} {r : String}

theorem Respects.keepsHost_call (vz : Vz) (c : VzCall) : Respects World.KeepsHost (Go.call vz c) :=
  (onlyCalls_call vz c).imp fun _ _ h => h.keepsHost

theorem Respects.keepsHost_modifyVM {f : VM → VM} (hf : ∀ vm, (f vm).hostDataDir = vm.hostDataDir) :
    Respects World.KeepsHost (Go.modifyVM f) := fun w => ⟨hf w.vm, rfl⟩

/-- An operation that only reads the host. -/
theorem Respects.keepsHost_read (op : Host → Except Error α) :
    Respects World.KeepsHost (Go.host fun h => (op h).map (·, h)) := by
  intro w; simp only [host_apply]; cases op w.host <;> exact ⟨rfl, rfl⟩

theorem Respects.toFootprint {x : Go α} (hx : Respects World.KeepsHost x) : Respects World.Footprint x :=
  hx.imp fun _ _ h => h.footprint

theorem Respects.toUnder (r : String) {x : Go α} (hx : Respects World.KeepsHost x) :
    Respects (World.Under r) x :=
  hx.imp fun _ _ h => h.under r

theorem Respects.under_hostDo {op : Host → Except Error Host} (hop : ∀ h h', op h = .ok h' → h.Within r h') :
    Respects (World.Under r) (Go.hostDo op) := by
  intro w; simp only [Go.hostDo, host_apply]
  cases e : op w.host with
  | error => exact refl_of _ w
  | ok h => exact ⟨rfl, hop _ _ e⟩

theorem Respects.footprint_mkdirTemp : Respects World.Footprint (Go.host Host.mkdirTemp) := by
  intro w; simp only [host_apply]
  cases e : w.host.mkdirTemp with
  | error => exact refl_of _ w
  | ok p => rcases p with ⟨r, h⟩; exact .of_fresh (Host.mkdirTemp_within e) (Host.mkdirTemp_spec e).1 (.inl rfl)

/-- Putting the terminal in raw mode touches no file. -/
theorem Respects.footprint_setTermios (t : Termios) :
    Respects World.Footprint (Go.hostDo (·.setTermios t.raw)) := by
  intro w; simp only [Go.hostDo, host_apply]
  cases e : w.host.setTermios t.raw with
  | error => exact refl_of _ w
  | ok h => exact ⟨.inl rfl, fun q _ _ => congrFun (Host.setTermios_fs e) q, .inr ⟨t, Host.setTermios_stdin e⟩⟩

/-- After a step that returns a path in the data directory it leaves set, a step that works
under that path's root stays within the footprint. -/
theorem Respects.bind_under {x : Go Path} {k : Path → Go β} (hx : Respects World.Footprint x)
    (hp : ∀ w p w', x w = (.ok p, w') → p.root = w'.vm.hostDataDir ∧ w'.vm.hostDataDir ≠ "")
    (hk : ∀ p, Respects (World.Under p.root) (k p)) : Respects World.Footprint (x >>= k) :=
  hx.bind_post hp fun p w h => (hk p w).footprint h.1 h.2

end Go

/-! ### Every step of `Start` -/

section Steps

variable (vz : Vz)

theorem dataFilePath_root {name : String} {w w' : World} {p : Path} (e : dataFilePath name w = (.ok p, w')) :
    p.root = w'.vm.hostDataDir ∧ w'.vm.hostDataDir ≠ "" := by
  obtain ⟨rfl, -, -, hd⟩ := dataFilePath_ok e
  exact ⟨rfl, hd⟩

/-- With `HostDataDir` empty, `dataFilePath` makes a new directory and sets `HostDataDir` to it. -/
theorem dataFilePath_footprint (name : String) : Respects World.Footprint (dataFilePath name) := by
  intro w
  by_cases hd : w.vm.hostDataDir = ""
  · cases e : w.host.mkdirTemp with
    | error => simpa [dataFilePath, hd, e, Go.wrap, Go.mapError] using refl_of World.Footprint w
    | ok p =>
      rcases p with ⟨r, h⟩
      simp only [dataFilePath, hd, e, Go.wrap, Go.mapError, bind_apply, getVM_apply, host_apply,
        if_true, modifyVM_apply, pure_apply]
      exact .of_fresh (Host.mkdirTemp_within e) (Host.mkdirTemp_spec e).1 (.inr ⟨hd, rfl⟩)
  · rw [dataFilePath_of_ne hd]; exact refl_of _ w

theorem openCreating_under (path : Path) (flag : Flag) (f : Error → Error) :
    Respects (World.Under path.root) (openCreating path flag f) := by
  have hopen : Respects (World.Under path.root) (hostDo (·.openFile path flag)) :=
    Respects.under_hostDo fun _ _ e => Host.openFile_within e
  refine hopen.attempt.bind fun r => ?_
  rcases r with e | ⟨⟩
  · exact Respects.ite (((Respects.under_hostDo fun _ _ e => Host.mkdirAll_within (p := path.dir) e).mapError f).bind
      fun _ => hopen.attempt) (Respects.pure _)
  · exact Respects.pure _

theorem loadStateData_footprint {α : Type} (name : String) (scan : List Char → Except Error α) :
    Respects World.Footprint (loadStateData name scan) := by
  refine (dataFilePath_footprint name).bind_under (fun _ _ _ => dataFilePath_root) fun path => ?_
  refine (Respects.under_hostDo fun _ _ e => Host.openFile_within e).attempt.bind fun r => ?_
  rcases r with e | ⟨⟩
  · exact Respects.ite (Respects.pure _) (Respects.throw _)
  · refine ((Respects.keepsHost_read _).toUnder _).bind fun content => ?_
    rcases scan content with e | v
    · exact Respects.ite (Respects.pure _) (Respects.throw _)
    · exact Respects.pure _

theorem saveStateData_footprint (name : String) (text : List Char) :
    Respects World.Footprint (saveStateData name text) := by
  refine (dataFilePath_footprint name).bind_under (fun _ _ _ => dataFilePath_root) fun path => ?_
  refine (openCreating_under path _ _).bind fun r => ?_
  rcases r with e | ⟨⟩
  · exact Respects.throw _
  · exact Respects.under_hostDo fun _ _ e => by cases e; exact Host.write_within _ _

theorem initLogger_footprint : Respects World.Footprint initLogger := by
  have hset : ∀ l, Respects World.KeepsHost (modifyVM fun vm => { vm with logger := l }) :=
    fun _ => Respects.keepsHost_modifyVM (by intro; rfl)
  refine (dataFilePath_footprint "log").attempt.bind_post
    (Q := fun r w => ∀ p, r = .ok p → p.root = w.vm.hostDataDir ∧ w.vm.hostDataDir ≠ "")
    (fun _ _ _ e p hp => dataFilePath_root (attempt_eq_ok.1 (hp ▸ e))) fun r w hr => ?_
  rcases r with e | path
  · exact (hset _).toFootprint w
  · refine (((openCreating_under path _ _).attempt.bind fun r => ?_) w).footprint (hr path rfl).1 (hr path rfl).2
    rcases r with _ | _ | ⟨⟩ <;> exact (hset _).toUnder _

theorem configure_footprint (name : String) (f : Field) (default min max : Int) :
    Respects World.Footprint (configure name f default min max) :=
  configure_keeps (loadStateData_footprint _ _) (saveStateData_footprint _)
    fun _ => (Respects.keepsHost_modifyVM fun _ => f.dataDir_set _ _).toFootprint

theorem nvram_footprint : Respects World.Footprint (nvram vz) := by
  refine ((dataFilePath_footprint _).wrap _).bind_under (fun _ _ _ e => dataFilePath_root (wrap_eq_ok.1 e))
    fun path => (openCreating_under path _ _).bind fun r => ?_
  have hcall : ∀ pre c, Respects (World.Under path.root) ((call vz c).wrap pre >>= fun _ => pure path) :=
    fun _ _ => (((Respects.keepsHost_call vz _).toUnder _).wrap _).bind fun _ => Respects.pure _
  rcases r with e | ⟨⟩
  · exact Respects.ite (hcall _ _) (Respects.throw _)
  · exact hcall _ _

theorem linuxBootLoader_footprint : Respects World.Footprint (linuxBootLoader vz) :=
  Respects.getVM.bind fun _ => Respects.ite
    ((nvram_footprint vz).bind fun _ => (Respects.keepsHost_call vz _).toFootprint.bind fun _ => Respects.pure _)
    (((Respects.keepsHost_read _).toFootprint.wrap _).bind fun _ =>
      (Respects.keepsHost_call vz _).toFootprint.bind fun _ => Respects.pure _)

theorem setConfig_keepsHost (f : Config → Config) : Respects World.KeepsHost (setConfig f) :=
  Respects.keepsHost_modifyVM (by intro; rfl)

/-- `attachConsole` puts the terminal in raw mode, and touches no file. -/
theorem attachConsole_footprint : Respects World.Footprint (attachConsole vz) := by
  refine ((Respects.keepsHost_read _).toFootprint.wrap _).bind fun t =>
    ((Respects.footprint_setTermios t).wrap _).bind fun _ =>
      (((Respects.keepsHost_call vz _).wrap _).bind fun _ => ((Respects.keepsHost_call vz _).wrap _).bind
        fun _ => setConfig_keepsHost _).toFootprint

theorem truncateNew_under (path : Path) : Respects (World.Under path.root) (truncateNew path) := by
  intro w
  rw [truncateNew_apply]
  split
  · next ht => exact ⟨rfl, Host.truncate_within ht⟩
  · exact ⟨rfl, .refl _ _⟩

theorem openRootDisk_under (path : Path) : Respects (World.Under path.root) (openRootDisk path) := by
  refine (openCreating_under path _ _).bind fun r => ?_
  rcases r with e | ⟨⟩
  · exact Respects.ite (Respects.pure _) (Respects.throw _)
  · exact truncateNew_under path

theorem rootDisk_footprint : Respects World.Footprint (rootDisk vz) :=
  ((dataFilePath_footprint _).wrap _).bind_under (fun _ _ _ e => dataFilePath_root (wrap_eq_ok.1 e)) fun path =>
    (openRootDisk_under path).bind fun _ => (((Respects.keepsHost_call vz _).toUnder _).wrap _).bind fun _ =>
      (((Respects.keepsHost_call vz _).toUnder _).wrap _).bind fun _ => Respects.pure _

theorem attachDisks_footprint : Respects World.Footprint (attachDisks vz) := by
  have hiso : Respects World.KeepsHost (installerDisk vz) := by
    unfold installerDisk; split
    · exact Respects.throw _
    · exact Respects.pure _
  refine ((rootDisk_footprint vz).wrap _).bind fun root => Respects.getVM.bind fun vm => ?_
  exact Respects.ite ((hiso.toFootprint.wrap _).bind fun _ => (Respects.pure _).bind fun _ =>
      (setConfig_keepsHost _).toFootprint) ((Respects.pure _).bind fun _ => (setConfig_keepsHost _).toFootprint)

theorem attachSharedDirs_footprint : Respects World.Footprint (attachSharedDirs vz) := by
  have hboot : Respects World.KeepsHost (generateBootstrapScript vz) := by
    unfold generateBootstrapScript; split
    · exact Respects.pure _
    · exact Respects.throw _
  have jp : Respects World.KeepsHost (do
      let configs ← configureDirShares vz (← getVM).sharedDirectories
      setConfig fun c => { c with directorySharingDevices := configs }) :=
    Respects.getVM.bind fun _ => ((configureDirShares_onlyCalls vz _).imp fun _ _ h => h.keepsHost).bind
      fun _ => setConfig_keepsHost _
  refine Respects.getVM.bind fun vm => Respects.ite ?_ ((Respects.pure _).bind fun _ => jp.toFootprint)
  exact (hboot.toFootprint.wrap _).bind fun dir =>
    (dataFilePath_footprint _).bind_under (fun _ _ _ => dataFilePath_root) fun bootDir =>
      (Respects.under_hostDo fun _ _ e => Host.mkdirAll_within e).bind fun _ =>
        Respects.toUnder _ ((Respects.keepsHost_modifyVM (by intro; rfl)).bind fun _ => jp)

theorem configureLinuxPlatform_footprint : Respects World.Footprint (configureLinuxPlatform vz) := by
  have hload : Respects World.Footprint loadIdentifier := by
    refine (loadStateData_footprint _ _).attempt.bind fun r => ?_
    rcases r with e | _ | v
    · exact Respects.throw _
    · exact Respects.pure _
    · exact Respects.toFootprint (Respects.keepsHost_modifyVM (by intro; rfl))
  refine hload.bind fun _ => (Respects.getVM.bind fun vm => Respects.ite ?_ ?_).bind fun _ =>
    ((((Respects.keepsHost_call vz _).wrap _).bind fun _ => Respects.getVM.bind fun _ =>
      setConfig_keepsHost _).toFootprint)
  · exact ((Respects.keepsHost_call vz _).toFootprint.wrap _).bind fun _ =>
      (Respects.toFootprint (Respects.keepsHost_modifyVM (by intro; rfl))).bind fun _ =>
        Respects.getVM.bind fun _ => (saveStateData_footprint _ _).wrap _
  · exact (Respects.getVM.bind fun _ => (Respects.keepsHost_call vz _).wrap _).toFootprint

theorem newConfiguration_keepsHost (loader : BootLoader) : Respects World.KeepsHost (newConfiguration vz loader) :=
  Respects.getVM.bind fun _ => (Respects.keepsHost_call vz _).attempt.bind fun r => by
    rcases r with e | ⟨⟩
    · exact (Respects.keepsHost_modifyVM (by intro; rfl)).bind fun _ => Respects.throw _
    · exact Respects.keepsHost_modifyVM (by intro; rfl)

theorem configuration_footprint : Respects World.Footprint (configuration vz) :=
  (Respects.keepsHost_modifyVM (by intro; rfl)).toFootprint.bind fun _ => initLogger_footprint.bind fun _ =>
    (configure_footprint _ _ _ _ _).bind fun _ => (configure_footprint _ _ _ _ _).bind fun _ =>
      ((linuxBootLoader_footprint vz).wrap _).bind fun loader => (newConfiguration_keepsHost vz loader).toFootprint

/-- The devices after the console. -/
theorem attachDevices_tail_footprint : Respects World.Footprint (do
    (attachDisks vz).wrap "attach disks"
    (attachNetwork vz).wrap "attach network"
    (attachEntropy vz).wrap "attach entropy"
    (attachSharedDirs vz).wrap "attach shared directories"
    (configureLinuxPlatform vz).wrap "configure linux platform") :=
  ((attachDisks_footprint vz).wrap _).bind fun _ =>
    ((((Respects.keepsHost_call vz _).wrap _).bind fun _ => ((Respects.keepsHost_call vz _).wrap _).bind fun _ =>
      ((Respects.keepsHost_call vz _).wrap _).bind fun _ => setConfig_keepsHost _).toFootprint.wrap _).bind fun _ =>
    ((((Respects.keepsHost_call vz _).wrap _).bind fun _ => setConfig_keepsHost _).toFootprint.wrap _).bind fun _ =>
      ((attachSharedDirs_footprint vz).wrap _).bind fun _ => (configureLinuxPlatform_footprint vz).wrap _

theorem attachDevices_footprint : Respects World.Footprint (attachDevices vz) :=
  ((attachConsole_footprint vz).wrap _).bind fun _ => attachDevices_tail_footprint vz

theorem validate_keepsHost : Respects World.KeepsHost (validate vz) :=
  ((Respects.keepsHost_call vz _).wrap _).bind fun _ => Respects.ite (Respects.throw _) (Respects.pure _)

theorem prepare_footprint : Respects World.Footprint (prepare vz) :=
  (configuration_footprint vz).bind fun _ => (attachDevices_footprint vz).bind fun _ => (validate_keepsHost vz).toFootprint

theorem newVirtualMachine_keepsHost : Respects World.KeepsHost (newVirtualMachine vz) :=
  (Respects.keepsHost_call vz _).attempt.bind fun r => by
    rcases r with e | ⟨⟩
    · exact (Respects.keepsHost_modifyVM (by intro; rfl)).bind fun _ => Respects.throw _
    · exact Respects.keepsHost_modifyVM (by intro; rfl)

theorem fileBundle_footprint (dir : String) : Respects World.Footprint (fileBundle dir) :=
  Respects.ite ((Respects.footprint_mkdirTemp.wrap _).bind fun _ => Respects.pure _) (Respects.pure _)

/-- **Every run of `Start` stays within the footprint**, whatever the engine answers and
wherever it fails. -/
theorem start_footprint : Respects World.Footprint (start vz) := by
  refine (Respects.getVM.bind fun _ => (fileBundle_footprint _).attempt.bind fun r => ?_).bind
    fun _ => (prepare_footprint vz).bind fun _ =>
      ((newVirtualMachine_keepsHost vz).bind fun _ => Respects.keepsHost_call vz _).toFootprint
  rcases r with e | files
  · exact ((Respects.keepsHost_modifyVM (by intro; rfl)).bind fun _ => Respects.throw _).toFootprint
  · exact (Respects.keepsHost_modifyVM (by intro; rfl)).toFootprint

end Steps

/-! ### The terminal -/

/-- Standard input is a terminal in the raw mode `attachConsole` sets. -/
def World.RawTerminal (w : World) : Prop := ∃ t : Termios, w.host.stdin = some t.raw

theorem World.Footprint.rawTerminal {w w' : World} (h : w.Footprint w') (hr : w.RawTerminal) : w'.RawTerminal := by
  rcases h.stdin with e | e
  · rw [World.RawTerminal, e]; exact hr
  · exact e

theorem Go.Respects.preservesRaw {α : Type} {x : Go α} (hx : Respects World.Footprint x) :
    Respects (Preserves World.RawTerminal) x :=
  hx.imp fun _ _ h => h.rawTerminal

section Terminal

variable (vz : Vz)

theorem attachConsole_rawTerminal : Ensures World.RawTerminal (attachConsole vz) :=
  Ensures.bind fun t => Ensures.bind_left (Ensures.wrap _ fun _ _ _ e => by
      obtain ⟨h, hs, rfl⟩ := hostDo_eq_ok e
      exact ⟨t, Host.setTermios_stdin hs⟩)
    fun _ => (((Respects.keepsHost_call vz _).wrap _).bind fun _ => ((Respects.keepsHost_call vz _).wrap _).bind
      fun _ => setConfig_keepsHost _).toFootprint.preservesRaw

/-- A `Start` that returns nil leaves the terminal in raw mode. -/
theorem start_rawTerminal : Ensures World.RawTerminal (start vz) :=
  Ensures.bind fun _ => Ensures.bind_left
    (Ensures.bind fun _ => Ensures.bind_left
      (Ensures.bind_left ((attachConsole_rawTerminal vz).wrap _) fun _ => (attachDevices_tail_footprint vz).preservesRaw)
      fun _ => (validate_keepsHost vz).toFootprint.preservesRaw)
    fun _ => ((newVirtualMachine_keepsHost vz).bind fun _ => Respects.keepsHost_call vz _).toFootprint.preservesRaw

end Terminal

/-! ### Over every sequence of calls -/

theorem lifecycle_footprint : ∀ (cs : List Call) {w w' : World}, lifecycle cs w = some w' → w.Footprint w' :=
  lifecycle_respects start_footprint fun hs => (stop_onlyCalls hs).keepsHost.footprint

/-- Every `RequestStop` and `Stop` call in the log comes after a `NewVirtualMachine` call that
succeeded, with no other `NewVirtualMachine` call between. -/
def StopsAfterInstance (calls : List (VzCall × Option String)) : Prop :=
  ∀ pre e post, calls = pre ++ e :: post → e.1 = .requestStop ∨ e.1 = .stop →
    lastOutcome .newVirtualMachine pre = some none

section Log

variable {calls new : List (VzCall × Option String)}

theorem StopsAfterInstance.append (h : StopsAfterInstance calls)
    (hn : ∀ new₁ e new₂, new = new₁ ++ e :: new₂ → e.1 = .requestStop ∨ e.1 = .stop →
      lastOutcome .newVirtualMachine (calls ++ new₁) = some none) :
    StopsAfterInstance (calls ++ new) := by
  intro pre e post hc he
  rcases List.append_eq_append_iff.1 hc with ⟨new₁, rfl, hnew⟩ | ⟨c, hcalls, hpost⟩
  · exact hn new₁ e post hnew he
  · rcases List.cons_eq_append_iff.1 hpost with ⟨rfl, rfl⟩ | ⟨c', rfl, -⟩
    · rw [List.append_nil] at hcalls
      subst hcalls
      simpa using hn [] e post rfl he
    · exact h pre e c' hcalls he

/-- Calls other than `RequestStop` and `Stop` keep the log's order. -/
theorem StopsAfterInstance.append_of_ne (h : StopsAfterInstance calls)
    (hn : ∀ e ∈ new, e.1 ≠ .requestStop ∧ e.1 ≠ .stop) : StopsAfterInstance (calls ++ new) :=
  h.append fun new₁ e new₂ hnew he => absurd he (by have := hn e (by simp [hnew]); tauto)

theorem start_stopsAfterInstance (vz : Vz) {w : World} (h : StopsAfterInstance w.calls) :
    StopsAfterInstance (start vz w).2.calls := by
  obtain ⟨cfg, k, hc, hcfg, -⟩ := start_engineCalls vz w
  rw [hc, List.append_assoc]
  refine h.append_of_ne fun e he => ?_
  rcases List.mem_append.1 he with hm | hm
  · have := hcfg e hm
    constructor <;> intro hs <;> rw [hs] at this <;> cases this
  · have := List.mem_of_mem_take hm
    simp only [instanceCalls, List.mem_cons, List.mem_nil_iff, or_false] at this
    rcases this with rfl | rfl | rfl <;> exact ⟨nofun, nofun⟩

/-- `Stop` calls the engine only for an instance, so after a `NewVirtualMachine` call that
succeeded. -/
theorem stop_stopsAfterInstance {c : Option Error} {evs : List StopEvent} {w w' : World} {r : Option Error}
    (hw : w.InstanceInv) (h : StopsAfterInstance w.calls) (hs : stop c evs w = some (r, w')) :
    StopsAfterInstance w'.calls := by
  obtain ⟨new, rfl, hn, hv⟩ := stop_eq_some hs
  refine h.append fun new₁ e new₂ he _ => ?_
  rw [lastOutcome_append_of_ne fun e' he' => ?_, hw.1 (hv (by simp [he]))]
  rcases hn e' (by simp [he, he']) with h' | h' <;> rw [h'] <;> exact nofun

end Log

end Jetpack
