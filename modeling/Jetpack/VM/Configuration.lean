import Jetpack.VM.FirstStart

/-!
# What a successful `Start` configures

Each step of `Start`, when it returns nil, in closed form: the VM it leaves is the VM it
found, with its own device set in `vm.config` and at most the fields the step assigns
changed. Composed in `Start`'s order they give the configuration `Start` hands the engine.

* `attachDevices_ok`: the six attach steps set one console, the root disk (and the
  installer's disk in install mode), one network device, one entropy device, a device per
  entry of `SharedDirectories` and the platform with `ID`; of the VM's own fields they
  assign only `HostDataDir`, `DiskSize`, `SharedDirectories` and `ID`.
* `configuration_ok`: the configuration is made with the boot loader of the mode
  (`World.Boots`) and the negotiated sizes.
* `start_configures`: after a `Start` that returns nil, `vm.config` and the configuration of
  the engine instance are both `startConfig`, read off the VM as `Start` leaves it.
* `start_sizes_allowed`: the configuration's CPU count and memory size are `vm.CPUs` and
  `vm.Memory`, within the engine's bounds.
* `start_engine_calls`: on every run, `Start` makes configuration calls, then `Validate`,
  then `NewVirtualMachine` only after an accepting `Validate`, then the instance's `Start`
  only after a `NewVirtualMachine` that succeeded.
-/

namespace Jetpack

open Go

/-! ### The devices -/

theorem setConfig_ok {f : Config → Config} {w w₁ w' : World} (k : World.SameVM w w₁)
    (e : setConfig f w₁ = (.ok (), w')) : w'.vm = { w.vm with config := w.vm.config.map f } := by
  simp only [setConfig, modifyVM_apply, Prod.mk.injEq] at e
  rw [← e.2, k]

theorem attachConsole_ok {vz : Vz} {w w' : World} (e : attachConsole vz w = (.ok (), w')) :
    w'.vm = { w.vm with config := w.vm.config.map fun c => { c with serialPorts := 1 } } := by
  obtain ⟨_, _, -, k₁, e⟩ := ((Respects.sameVM_host _).wrap _).bind_ok e
  obtain ⟨_, _, -, k₂, e⟩ := ((Respects.sameVM_host _).wrap _).bind_ok e
  obtain ⟨_, _, -, k₃, e⟩ := ((Respects.sameVM_call vz _).wrap _).bind_ok e
  obtain ⟨_, _, -, k₄, e⟩ := ((Respects.sameVM_call vz _).wrap _).bind_ok e
  exact setConfig_ok (k₄.trans (k₃.trans (k₂.trans k₁))) e

theorem attachNetwork_ok {vz : Vz} {w w' : World} (e : attachNetwork vz w = (.ok (), w')) :
    w'.vm = { w.vm with config := w.vm.config.map fun c => { c with networkDevices := 1 } } := by
  obtain ⟨_, _, -, k₁, e⟩ := ((Respects.sameVM_call vz _).wrap _).bind_ok e
  obtain ⟨_, _, -, k₂, e⟩ := ((Respects.sameVM_call vz _).wrap _).bind_ok e
  obtain ⟨_, _, -, k₃, e⟩ := ((Respects.sameVM_call vz _).wrap _).bind_ok e
  exact setConfig_ok (k₃.trans (k₂.trans k₁)) e

theorem attachEntropy_ok {vz : Vz} {w w' : World} (e : attachEntropy vz w = (.ok (), w')) :
    w'.vm = { w.vm with config := w.vm.config.map fun c => { c with entropyDevices := 1 } } := by
  obtain ⟨_, _, -, k₁, e⟩ := ((Respects.sameVM_call vz _).wrap _).bind_ok e
  exact setConfig_ok k₁ e

/-- A new image is sized: `DiskSize` may change, and nothing else of the VM. -/
theorem openRootDisk_ok {path : Path} {w w' : World} (e : openRootDisk path w = (.ok (), w')) :
    w'.vm = { w.vm with diskSize := w'.vm.diskSize } := by
  obtain ⟨r, w₁, -, k₁, e⟩ := (openCreating_sameVM path .exclusive _).bind_ok e
  rcases r with err | ⟨⟩ <;> dsimp only at e
  · split at e <;> cases e
    rw [k₁]
  · rw [truncateNew_apply] at e
    split at e <;> cases e
    rw [k₁]

theorem rootDisk_ok {vz : Vz} {w w' : World} {root : StorageDevice} (e : rootDisk vz w = (.ok root, w')) :
    root = .diskImage ⟨w'.vm.hostDataDir, ["disk.img"]⟩ false ∧
      w'.vm = { w.vm with hostDataDir := w'.vm.hostDataDir, diskSize := w'.vm.diskSize } ∧
      w'.vm.hostDataDir ≠ "" := by
  obtain ⟨path, w₁, e₁, e⟩ := bind_eq_ok.1 e
  obtain ⟨rfl, k₁, -, hd₁⟩ := dataFilePath_ok (wrap_eq_ok.1 e₁)
  obtain ⟨_, w₂, e₂, e⟩ := bind_eq_ok.1 e
  have k₂ := openRootDisk_ok e₂
  obtain ⟨_, _, -, k₃, e⟩ := ((Respects.sameVM_call vz _).wrap _).bind_ok e
  obtain ⟨_, _, -, k₄, e⟩ := ((Respects.sameVM_call vz _).wrap _).bind_ok e
  simp only [pure_apply, Prod.mk.injEq, Except.ok.injEq] at e
  obtain ⟨rfl, rfl⟩ := e
  rw [k₄, k₃, k₂]
  exact ⟨rfl, by rw [k₁], hd₁⟩

theorem installerDisk_ok {vz : Vz} {w w' : World} {d : StorageDevice}
    (e : installerDisk vz w = (.ok d, w')) : d = .installer ∧ w' = w := by
  cases h : vz.installerDisk <;> simp [installerDisk, h] at e
  exact ⟨e.1.symm, e.2.symm⟩

theorem attachDisks_ok {vz : Vz} {w w' : World} (e : attachDisks vz w = (.ok (), w')) :
    w'.vm = { w.vm with
      hostDataDir := w'.vm.hostDataDir
      diskSize := w'.vm.diskSize
      config := w.vm.config.map fun c => { c with
        storageDevices := .diskImage ⟨w'.vm.hostDataDir, ["disk.img"]⟩ false ::
          if w.vm.install then [.installer] else [] } } ∧
      w'.vm.hostDataDir ≠ "" := by
  obtain ⟨root, w₁, e₁, e⟩ := bind_eq_ok.1 e
  obtain ⟨rfl, k₁, hd₁⟩ := rootDisk_ok (wrap_eq_ok.1 e₁)
  rw [getVM_bind] at e
  have k : w'.vm = { w₁.vm with config := w₁.vm.config.map fun c => { c with
      storageDevices := .diskImage ⟨w₁.vm.hostDataDir, ["disk.img"]⟩ false ::
        if w₁.vm.install then [.installer] else [] } } := by
    split at e
    next hi =>
      obtain ⟨_, _, e₃, e⟩ := bind_eq_ok.1 e
      obtain ⟨rfl, rfl⟩ := installerDisk_ok (wrap_eq_ok.1 e₃)
      simp only [bind_apply, pure_apply] at e
      rw [setConfig_ok (refl_of World.SameVM _) e, if_pos hi]
    next hi =>
      simp only [bind_apply, pure_apply] at e
      rw [setConfig_ok (refl_of World.SameVM _) e, if_neg hi]
  refine ⟨?_, by rw [k]; exact hd₁⟩
  rw [k, k₁]

theorem attachSharedDirs_ok {vz : Vz} {w w' : World} (e : attachSharedDirs vz w = (.ok (), w')) :
    w'.vm = { w.vm with
      hostDataDir := w'.vm.hostDataDir
      sharedDirectories := w'.vm.sharedDirectories
      config := w.vm.config.map fun c =>
        { c with directorySharingDevices := w'.vm.sharedDirectories.map DirectoryShare.of } } := by
  rw [attachSharedDirs, getVM_bind] at e
  dsimp only at e
  split at e
  · obtain ⟨dir, w₁, e₁, k₁⟩ := bind_eq_ok.1 e
    obtain ⟨-, rfl⟩ := generateBootstrapScript_ok (wrap_eq_ok.1 e₁)
    obtain ⟨_, w₂, e₂, k₂⟩ := bind_eq_ok.1 k₁
    obtain ⟨-, hk₂, -⟩ := dataFilePath_ok e₂
    obtain ⟨_, w₃, e₃, k₃⟩ := bind_eq_ok.1 k₂
    obtain ⟨_, -, rfl⟩ := hostDo_eq_ok e₃
    rw [modifyVM_bind, getVM_bind] at k₃
    obtain ⟨cs, w₄, e₄, k₄⟩ := bind_eq_ok.1 k₃
    obtain ⟨rfl, h₄⟩ := configureDirShares_eq_ok e₄
    rw [setConfig_ok h₄.vm k₄, hk₂]
  · obtain ⟨_, _, e₀, e⟩ := bind_eq_ok.1 e
    simp only [pure_apply, Prod.mk.injEq] at e₀
    rw [← e₀.2, getVM_bind] at e
    obtain ⟨cs, w₁, e₁, e⟩ := bind_eq_ok.1 e
    obtain ⟨rfl, k₁⟩ := configureDirShares_eq_ok e₁
    rw [setConfig_ok k₁.vm e]

/-! ### The platform -/

/-- `w'` differs from `w`, in the VM, at most in `HostDataDir` and `ID`. -/
def World.SetsId (w w' : World) : Prop :=
  w'.vm = { w.vm with hostDataDir := w'.vm.hostDataDir, id := w'.vm.id }

instance : IsRefl World World.SetsId := ⟨fun _ => rfl⟩
instance : IsTrans World World.SetsId := ⟨fun _ _ _ a b => by rw [World.SetsId, b, a]⟩

theorem World.KeepsVM.setsId {w w' : World} (h : World.KeepsVM w w') : World.SetsId w w' := by
  rw [World.SetsId, h]

theorem loadIdentifier_setsId : Respects World.SetsId loadIdentifier := by
  refine ((loadStateData_keepsVM _ _).imp fun _ _ => World.KeepsVM.setsId).attempt.bind fun r => ?_
  rcases r with e | _ | v
  · exact Respects.throw _
  · exact Respects.pure _
  · exact fun _ => rfl

theorem machineIdentifier_setsId (vz : Vz) : Respects World.SetsId (machineIdentifier vz) := by
  have hc : ∀ c, Respects World.SetsId (call vz c) := fun c =>
    (Respects.keepsVM_call vz c).imp fun _ _ => World.KeepsVM.setsId
  refine Respects.getVM.bind fun _ => Respects.ite (((hc _).wrap _).bind fun _ => Respects.bind ?_ fun _ =>
    Respects.getVM.bind fun _ => ((saveStateData_keepsVM _ _).imp fun _ _ => World.KeepsVM.setsId).wrap _)
    (Respects.getVM.bind fun _ => (hc _).wrap _)
  exact fun _ => rfl

theorem platformConfiguration_ok {vz : Vz} {w w' : World} (e : platformConfiguration vz w = (.ok (), w')) :
    w'.vm = { w.vm with config := w.vm.config.map fun c => { c with platform := some w.vm.id } } := by
  obtain ⟨_, _, -, k₁, e⟩ := ((Respects.sameVM_call vz _).wrap _).bind_ok e
  rw [getVM_bind, k₁] at e
  exact setConfig_ok k₁ e

theorem configureLinuxPlatform_ok {vz : Vz} {w w' : World} (e : configureLinuxPlatform vz w = (.ok (), w')) :
    w'.vm = { w.vm with
      hostDataDir := w'.vm.hostDataDir
      id := w'.vm.id
      config := w.vm.config.map fun c => { c with platform := some w'.vm.id } } := by
  obtain ⟨_, _, -, k₁, e⟩ := loadIdentifier_setsId.bind_ok e
  obtain ⟨_, _, -, k₂, e⟩ := (machineIdentifier_setsId vz).bind_ok e
  rw [platformConfiguration_ok e, k₂, k₁]

/-- **The devices `Start` attaches**, in closed form. The storage devices name the disk
image under the `HostDataDir` the VM ends with: once `rootDisk` has set it, the later steps
keep it. -/
theorem attachDevices_ok {vz : Vz} {w w' : World} (e : attachDevices vz w = (.ok (), w')) :
    w'.vm = { w.vm with
      hostDataDir := w'.vm.hostDataDir
      diskSize := w'.vm.diskSize
      sharedDirectories := w'.vm.sharedDirectories
      id := w'.vm.id
      config := w.vm.config.map fun c => { c with
        serialPorts := 1
        storageDevices := .diskImage ⟨w'.vm.hostDataDir, ["disk.img"]⟩ false ::
          if w.vm.install then [.installer] else []
        networkDevices := 1
        entropyDevices := 1
        directorySharingDevices := w'.vm.sharedDirectories.map DirectoryShare.of
        platform := some w'.vm.id } } := by
  obtain ⟨_, w₁, e₁, e⟩ := bind_eq_ok.1 e
  obtain ⟨_, w₂, e₂, e⟩ := bind_eq_ok.1 e
  obtain ⟨_, w₃, e₃, e⟩ := bind_eq_ok.1 e
  obtain ⟨_, w₄, e₄, e⟩ := bind_eq_ok.1 e
  obtain ⟨_, w₅, e₅, e₆⟩ := bind_eq_ok.1 e
  replace e₆ := wrap_eq_ok.1 e₆
  have k₁ := attachConsole_ok (wrap_eq_ok.1 e₁)
  obtain ⟨k₂, hd₂⟩ := attachDisks_ok (wrap_eq_ok.1 e₂)
  have k₃ := attachNetwork_ok (wrap_eq_ok.1 e₃)
  have k₄ := attachEntropy_ok (wrap_eq_ok.1 e₄)
  have k₅ := attachSharedDirs_ok (wrap_eq_ok.1 e₅)
  have k₆ := configureLinuxPlatform_ok e₆
  have hd₄ : w₄.vm.hostDataDir = w₂.vm.hostDataDir := by rw [k₄, k₃]
  have hd₅ : w₅.vm.hostDataDir = w₂.vm.hostDataDir :=
    (attachSharedDirs_hostDataDir (wrap_eq_ok.1 e₅) (hd₄ ▸ hd₂)).trans hd₄
  have hd₆ : w'.vm.hostDataDir = w₂.vm.hostDataDir := by
    have h := configureLinuxPlatform_respects stateFiles vz (by decide) w₅
    rw [e₆] at h
    exact (h.hostDataDir_eq (hd₅ ▸ hd₂)).trans hd₅
  have hds : w'.vm.diskSize = w₂.vm.diskSize := by rw [k₆, k₅, k₄, k₃]
  have hsd : w'.vm.sharedDirectories = w₅.vm.sharedDirectories := by rw [k₆]
  rw [hd₆, hds, hsd]
  conv_lhs => rw [k₆, hd₆, k₅, k₄, k₃, k₂, k₁]
  cases w.vm.config <;> rfl

/-! ### The boot loader -/

/-- The boot loader `b` is the one `Start` gives the VM of `w`: in install mode the firmware,
with the variable store `nvram` in the bundle's directory; else the bundle's kernel and
initrd, with the command line for the target of the bundle's `init` link. -/
def World.Boots (w : World) : BootLoader → Prop
  | .efi store => w.vm.install = true ∧ w.vm.hostDataDir ≠ "" ∧ store = ⟨w.vm.hostDataDir, ["nvram"]⟩
  | .linux kernel initrd cmd => w.vm.install = false ∧ kernel = w.vm.files.kernel ∧
      initrd = w.vm.files.initrd ∧ ∃ t, w.host.fs w.vm.files.init = some (.symlink t) ∧ cmd = commandLine t

/-- The boot loader stays right as the world evolves with the bundle kept. -/
theorem World.Boots.evolve {S : List String} {w w' : World} {b : BootLoader} (hb : w.Boots b)
    (he : w.KeepsBundle S w') (hi : w'.vm.install = w.vm.install) : w'.Boots b := by
  cases b with
  | efi store =>
    have hd := he.hostDataDir_eq hb.2.1
    exact ⟨hi.trans hb.1, hd ▸ hb.2.1, hd ▸ hb.2.2⟩
  | linux kernel initrd cmd =>
    obtain ⟨h₀, h₁, h₂, t, ht, h₃⟩ := hb
    exact ⟨hi.trans h₀, he.files ▸ h₁, he.files ▸ h₂, t, he.files ▸ he.grows.symlink _ _ ht, h₃⟩

theorem nvram_ok {vz : Vz} {w w' : World} {p : Path} (e : nvram vz w = (.ok p, w')) :
    p = ⟨w'.vm.hostDataDir, ["nvram"]⟩ ∧ World.KeepsVM w w' ∧ w'.vm.hostDataDir ≠ "" := by
  obtain ⟨path, w₁, e₁, e⟩ := bind_eq_ok.1 e
  obtain ⟨hp, k₁, -, hd⟩ := dataFilePath_ok (wrap_eq_ok.1 e₁)
  obtain ⟨r, w₂, -, k₂, e⟩ := (openCreating_sameVM _ _ _).bind_ok e
  have store : ∀ {create : Bool} {pre : String},
      ((call vz (.newEFIVariableStore path create)).wrap pre >>= fun _ => pure path) w₂ = (.ok p, w') →
        p = path ∧ World.SameVM w₂ w' := by
    intro create pre e
    obtain ⟨_, _, -, k₃, e⟩ := ((Respects.sameVM_call vz _).wrap _).bind_ok e
    simp only [pure_apply, Prod.mk.injEq, Except.ok.injEq] at e
    exact ⟨e.1.symm, e.2 ▸ k₃⟩
  obtain ⟨rfl, k⟩ : p = path ∧ World.SameVM w₂ w' := by
    rcases r with err | ⟨⟩
    · dsimp only at e
      split at e
      · exact store e
      · simp at e
    · exact store e
  have k' : w'.vm = w₁.vm := k.trans k₂
  rw [World.KeepsVM, k']
  exact ⟨hp, k₁, hd⟩

theorem linuxBootLoader_ok {vz : Vz} {w w' : World} {b : BootLoader}
    (e : linuxBootLoader vz w = (.ok b, w')) : w'.Boots b ∧ World.KeepsVM w w' := by
  rw [linuxBootLoader, getVM_bind] at e
  split at e
  next hi =>
    obtain ⟨_, w₁, e₁, e⟩ := bind_eq_ok.1 e
    obtain ⟨rfl, k₁, hd⟩ := nvram_ok e₁
    obtain ⟨_, w₂, -, k₂, e⟩ := (Respects.onlyCalls_call vz _).bind_ok e
    simp only [pure_apply, Prod.mk.injEq, Except.ok.injEq] at e
    rw [← e.1, ← e.2]
    refine ⟨?_, by rw [World.KeepsVM, k₂.vm]; exact k₁⟩
    show w₂.vm.install = true ∧ w₂.vm.hostDataDir ≠ "" ∧ _ = _
    rw [k₂.vm, k₁]
    exact ⟨hi, hd, rfl⟩
  next hi =>
    obtain ⟨_, w₁, e₁, e⟩ := bind_eq_ok.1 e
    replace e₁ := wrap_eq_ok.1 e₁
    cases hr : w.host.readlink w.vm.files.init with
    | error => simp [hr, Except.map] at e₁
    | ok t =>
      simp only [host_apply, hr, Except.map, Prod.mk.injEq, Except.ok.injEq] at e₁
      obtain ⟨rfl, rfl⟩ := e₁
      obtain ⟨_, w₂, -, k₂, e⟩ := (Respects.onlyCalls_call vz _).bind_ok e
      simp only [pure_apply, Prod.mk.injEq, Except.ok.injEq] at e
      rw [← e.1, ← e.2]
      have hv : w₂.vm = w.vm := k₂.vm
      refine ⟨?_, by rw [World.KeepsVM, hv]⟩
      show w₂.vm.install = false ∧ _ = w₂.vm.files.kernel ∧ _ = w₂.vm.files.initrd ∧
        ∃ t', w₂.host.fs w₂.vm.files.init = some (.symlink t') ∧ _ = _
      rw [hv, k₂.host]
      exact ⟨by simpa using hi, rfl, rfl, t, Host.readlink_eq_ok.1 hr, rfl⟩

theorem newConfiguration_ok {vz : Vz} {b : BootLoader} {w w' : World}
    (e : newConfiguration vz b w = (.ok (), w')) :
    w'.vm = { w.vm with
      config := some { bootLoader := b, cpus := uint64OfInt w.vm.cpus, memory := uint64OfInt w.vm.memory } } := by
  rw [newConfiguration, getVM_bind] at e
  obtain ⟨r, w₁, -, k₁, e⟩ := (Respects.onlyCalls_call vz _).attempt.bind_ok e
  rcases r with err | ⟨⟩
  · simp at e
  · simp only [modifyVM_apply, Prod.mk.injEq] at e
    rw [← e.2, k₁.vm]

/-- **The configuration is made with the boot loader of the mode and the negotiated
sizes.** -/
theorem configuration_ok {vz : Vz} {w w' : World} (e : configuration vz w = (.ok (), w')) :
    ∃ b, w'.Boots b ∧
      w'.vm.config = some { bootLoader := b, cpus := uint64OfInt w'.vm.cpus, memory := uint64OfInt w'.vm.memory } := by
  obtain ⟨_, _, -, e⟩ := bind_eq_ok.1 e
  obtain ⟨_, _, -, e⟩ := bind_eq_ok.1 e
  obtain ⟨_, _, -, e⟩ := bind_eq_ok.1 e
  obtain ⟨_, _, -, e⟩ := bind_eq_ok.1 e
  obtain ⟨b, w₁, e₁, e⟩ := bind_eq_ok.1 e
  have kb := newConfiguration_respects vz b w₁
  rw [e] at kb
  have k := newConfiguration_ok e
  exact ⟨b, (linuxBootLoader_ok (wrap_eq_ok.1 e₁)).1.evolve kb.toKeepsBundle (by rw [k]), by rw [k]⟩

/-! ### The whole of `Start` -/

/-- The configuration `Start` builds for the VM `vm` and the boot loader `b`: `vm`'s sizes,
one console, the disk image of the bundle (and the installer's disk in install mode), one
network device, one entropy device, a device per shared directory, and the platform with
`vm.ID`. -/
def startConfig (b : BootLoader) (vm : VM) : Config where
  bootLoader := b
  cpus := uint64OfInt vm.cpus
  memory := uint64OfInt vm.memory
  serialPorts := 1
  storageDevices := .diskImage ⟨vm.hostDataDir, ["disk.img"]⟩ false :: if vm.install then [.installer] else []
  networkDevices := 1
  entropyDevices := 1
  directorySharingDevices := vm.sharedDirectories.map DirectoryShare.of
  platform := some vm.id

theorem prepare_ok {vz : Vz} {w w' : World} (e : prepare vz w = (.ok (), w')) :
    ∃ b, w'.Boots b ∧ w'.vm.config = some (startConfig b w'.vm) := by
  obtain ⟨_, w₁, e₁, e⟩ := bind_eq_ok.1 e
  obtain ⟨_, w₂, e₂, e₃⟩ := bind_eq_ok.1 e
  obtain ⟨b, hb, hc⟩ := configuration_ok e₁
  have k₂ := attachDevices_ok e₂
  have kb := attachDevices_respects vz w₁
  rw [e₂] at kb
  have k₃ := validate_onlyCalls vz w₂
  rw [e₃] at k₃
  have hb₂ := hb.evolve ⟨kb.toEvolves, kb.files⟩ (by rw [k₂])
  refine ⟨b, hb₂.evolve ⟨k₃.evolves [], by rw [k₃.vm]⟩ (by rw [k₃.vm]), ?_⟩
  rw [k₃.vm, k₂, hc]
  rfl

theorem newVirtualMachine_ok {vz : Vz} {w w' : World} (e : newVirtualMachine vz w = (.ok (), w')) :
    w'.vm = { w.vm with vzvm := w.vm.config.map Machine.mk } := by
  obtain ⟨r, w₁, -, k₁, e⟩ := (Respects.onlyCalls_call vz _).attempt.bind_ok e
  rcases r with err | ⟨⟩
  · simp at e
  · simp only [modifyVM_apply, Prod.mk.injEq] at e
    rw [← e.2, k₁.vm]

/-- A `Start` that returns nil: the bundle, the steps before the instance, then the instance,
made from the configuration, and nothing else of the VM changed. -/
theorem start_eq_ok {vz : Vz} {w w' : World} (h : start vz w = (.ok (), w')) :
    ∃ w₁ w₂, assignFiles w = (.ok (), w₁) ∧ prepare vz w₁ = (.ok (), w₂) ∧ w₂.KeepsBundle stateFiles w' ∧
      w'.vm = { w₂.vm with vzvm := w₂.vm.config.map Machine.mk } := by
  obtain ⟨_, w₁, e₁, e⟩ := bind_eq_ok.1 h
  obtain ⟨_, w₂, e₂, e⟩ := bind_eq_ok.1 e
  obtain ⟨_, w₃, e₃, e₄⟩ := bind_eq_ok.1 e
  have kb := newVirtualMachine_respects vz w₂
  rw [e₃] at kb
  have k₄ := Respects.onlyCalls_call vz .start w₃
  rw [e₄] at k₄
  exact ⟨w₁, w₂, e₁, e₂, trans_of (World.KeepsBundle stateFiles) kb ⟨k₄.evolves _, by rw [k₄.vm]⟩,
    by rw [k₄.vm, newVirtualMachine_ok e₃]⟩

/-- The install-mode `Start` of a VM whose `HostDataDir` is the empty directory `d`, with an
engine that accepts every call, returns nil. -/
theorem start_ok_install :
    ∃ w', start (Vz.ok 1 8 (2 ^ 28) (2 ^ 33))
      ⟨{ hostDataDir := "d", install := true, diskSize := 1 }, Host.empty.setNode ⟨"d", []⟩ .dir, []⟩ = (.ok (), w') := by
  have hvz : (Vz.ok 1 8 (2 ^ 28) (2 ^ 33)).Accepts := ⟨fun _ => rfl, rfl, rfl, _, rfl⟩
  have hw : World.Ready "d" ["boot", "id"]
      ⟨{ hostDataDir := "d", install := true, diskSize := 1 }, Host.empty.setNode ⟨"d", []⟩ .dir, []⟩ :=
    ⟨rfl, Host.setNode_fs_self _ _ _, fun _ _ _ => Host.setNode_fs_ne _ _ (by simp), rfl, rfl, by decide⟩
  obtain ⟨hok, -⟩ := start_returns hvz (by decide) hw
  generalize start _ _ = r at hok ⊢
  obtain ⟨_, w'⟩ := r
  cases hok
  exact ⟨w', rfl⟩

theorem configureMemory_cpus (vz : Vz) (w : World) : (configureMemory vz w).2.vm.cpus = w.vm.cpus :=
  have hk : ∀ w₁ w₂, World.KeepsVM w₁ w₂ → Preserves (fun w' => w'.vm.cpus = w.vm.cpus) w₁ w₂ :=
    fun _ _ h hw => (congrArg VM.cpus h).trans hw
  configure_keeps (f := .memory) ((loadStateData_keepsVM _ _).imp hk)
    (fun _ => (saveStateData_keepsVM _ _).imp hk) (fun _ _ hw => hw) w rfl

theorem configuration_sizes {vz : Vz} (hvz : vz.BoundsOK) {w w' : World} (e : configuration vz w = (.ok (), w')) :
    WithinBounds w'.vm.cpus vz.minCPU vz.maxCPU ∧ WithinBounds w'.vm.memory vz.minMemory vz.maxMemory := by
  obtain ⟨_, _, -, e⟩ := bind_eq_ok.1 e
  obtain ⟨_, w₂, -, e⟩ := bind_eq_ok.1 e
  obtain ⟨_, w₃, e₃, e⟩ := bind_eq_ok.1 e
  obtain ⟨_, w₄, e₄, e⟩ := bind_eq_ok.1 e
  obtain ⟨b, w₅, e₅, e⟩ := bind_eq_ok.1 e
  have k₅ := (linuxBootLoader_ok (wrap_eq_ok.1 e₅)).2
  have k := newConfiguration_ok e
  have h₃ : WithinBounds (configureCPUs vz w₂).2.vm.cpus vz.minCPU vz.maxCPU :=
    configure_withinBounds (f := .cpus) hvz.cpu hvz.cpu_lt w₂
  have h₄ : WithinBounds (configureMemory vz w₃).2.vm.memory vz.minMemory vz.maxMemory :=
    configure_withinBounds (f := .memory) hvz.memory hvz.memory_lt w₃
  rw [e₃] at h₃
  rw [e₄] at h₄
  have hc : w'.vm.cpus = w₃.vm.cpus := calc
    w'.vm.cpus = w₄.vm.cpus := by rw [k, k₅]
    _ = w₃.vm.cpus := by rw [← configureMemory_cpus vz w₃, e₄]
  have hm : w'.vm.memory = w₄.vm.memory := by rw [k, k₅]
  rw [hc, hm]
  exact ⟨h₃, h₄⟩

theorem prepare_sizes {vz : Vz} (hvz : vz.BoundsOK) {w w' : World} (e : prepare vz w = (.ok (), w')) :
    WithinBounds w'.vm.cpus vz.minCPU vz.maxCPU ∧ WithinBounds w'.vm.memory vz.minMemory vz.maxMemory := by
  obtain ⟨_, w₁, e₁, e⟩ := bind_eq_ok.1 e
  obtain ⟨_, w₂, e₂, e₃⟩ := bind_eq_ok.1 e
  have k₂ := attachDevices_ok e₂
  have k₃ := validate_onlyCalls vz w₂
  rw [e₃] at k₃
  rw [k₃.vm, k₂]
  exact configuration_sizes hvz e₁

/-- **The engine is handed sizes it allows.** After a `Start` that returns nil, with engine
bounds `min ≤ max < 2^63`, the configuration's CPU count and memory size are `vm.CPUs` and
`vm.Memory` exactly (`uint(...)` and `uint64(...)` did not wrap), and lie within the
engine's bounds. -/
theorem start_sizes_allowed {vz : Vz} (hvz : vz.BoundsOK) {w w' : World} (h : start vz w = (.ok (), w')) :
    ∃ c, w'.vm.config = some c ∧ (c.cpus : Int) = w'.vm.cpus ∧ (c.memory : Int) = w'.vm.memory ∧
      vz.minCPU ≤ c.cpus ∧ c.cpus ≤ vz.maxCPU ∧ vz.minMemory ≤ c.memory ∧ c.memory ≤ vz.maxMemory := by
  obtain ⟨_, w₂, -, e₂, -, hv⟩ := start_eq_ok h
  obtain ⟨b, -, hc⟩ := prepare_ok e₂
  obtain ⟨⟨c₀, c₁, c₂⟩, ⟨m₀, m₁, m₂⟩⟩ := prepare_sizes hvz e₂
  rw [hv]
  refine ⟨_, hc, c₂, m₂, ?_, ?_, ?_, ?_⟩ <;> simp only [startConfig] <;> omega

theorem start_sizes_allowed_install :
    let vz := Vz.ok 1 8 (2 ^ 28) (2 ^ 33)
    let w : World :=
      ⟨{ hostDataDir := "d", install := true, diskSize := 1 }, Host.empty.setNode ⟨"d", []⟩ .dir, []⟩
    vz.BoundsOK ∧ ∃ w', start vz w = (.ok (), w') ∧
      ∃ c, w'.vm.config = some c ∧ (c.cpus : Int) = w'.vm.cpus ∧ (c.memory : Int) = w'.vm.memory ∧
        vz.minCPU ≤ c.cpus ∧ c.cpus ≤ vz.maxCPU ∧ vz.minMemory ≤ c.memory ∧ c.memory ≤ vz.maxMemory :=
  have hb : (Vz.ok 1 8 (2 ^ 28) (2 ^ 33)).BoundsOK := ⟨by decide, by decide, by decide, by decide⟩
  let ⟨w', h⟩ := start_ok_install
  ⟨hb, w', h, start_sizes_allowed hb h⟩

/-! ### The engine's calls -/

/-- `w'` extends the engine calls of `w` with configuration calls only. -/
def World.ConfigCalls (w w' : World) : Prop :=
  ∃ new, w'.calls = w.calls ++ new ∧ ∀ c ∈ new, c.1.configures

instance : IsRefl World World.ConfigCalls := ⟨fun _ => ⟨[], by simp, by simp⟩⟩
instance : IsTrans World World.ConfigCalls :=
  ⟨fun _ _ _ ⟨n₁, e₁, h₁⟩ ⟨n₂, e₂, h₂⟩ => ⟨n₁ ++ n₂, by rw [e₂, e₁, List.append_assoc],
    fun c hc => (List.mem_append.1 hc).elim (h₁ c) (h₂ c)⟩⟩

theorem Go.Respects.configCalls {α : Type} {S : List String} {x : Go α}
    (hx : Respects (World.Configures S) x) : Respects World.ConfigCalls x :=
  hx.imp fun _ _ h => h.calls

theorem assignFiles_configCalls : Respects World.ConfigCalls assignFiles := by
  refine Respects.getVM.bind fun _ => (fileBundle_respects [] _).configCalls.attempt.bind fun r => ?_
  have hset : ∀ d : DataDirectory, Respects World.ConfigCalls (modifyVM fun vm => { vm with files := d }) :=
    fun _ _ => refl_of World.ConfigCalls _
  rcases r with e | files
  · exact (hset _).bind fun _ => Respects.throw _
  · exact hset _

theorem configuration_configCalls (vz : Vz) : Respects World.ConfigCalls (configuration vz) := by
  have hset : ∀ c, Respects World.ConfigCalls (modifyVM fun vm => { vm with config := c }) :=
    fun _ _ => refl_of World.ConfigCalls _
  refine (defaultGuest_respects.configCalls).bind fun _ => (initLogger_respects stateFiles).configCalls.bind fun _ =>
    (configure_respects stateFiles (by decide) _ _ _ _).configCalls.bind fun _ =>
      (configure_respects stateFiles (by decide) _ _ _ _).configCalls.bind fun _ =>
        ((linuxBootLoader_respects stateFiles vz).configCalls.wrap _).bind fun b =>
          Respects.getVM.bind fun _ => (Respects.call (S := stateFiles) vz (by rfl)).configCalls.attempt.bind fun r => ?_
  rcases r with e | ⟨⟩
  · exact (hset none).bind fun _ => Respects.throw _
  · exact hset _

/-- The calls `Start` makes once it is configured, with the errors the engine gives them:
`Validate`, `NewVirtualMachine`, and the instance's `Start`. -/
def instanceCalls (vz : Vz) : List (VzCall × Option String) :=
  [(.validate, vz.fails .validate), (.newVirtualMachine, vz.fails .newVirtualMachine), (.start, vz.fails .start)]

/-- Every run of `x` makes configuration calls, then the first `k` of `instanceCalls vz`:
`NewVirtualMachine` only after a `Validate` that succeeded and accepted, the instance's
`Start` only after a `NewVirtualMachine` that succeeded, and all three when `x` returns nil. -/
def EngineCalls (vz : Vz) (x : Go Unit) : Prop :=
  ∀ w, ∃ cfg k, (x w).2.calls = w.calls ++ cfg ++ (instanceCalls vz).take k ∧ (∀ c ∈ cfg, c.1.configures) ∧
    (2 ≤ k → vz.fails .validate = none ∧ vz.valid = true) ∧ (3 ≤ k → vz.fails .newVirtualMachine = none) ∧
    ((x w).1 = .ok () → k = 3 ∧ vz.fails .start = none)

theorem EngineCalls.bind {vz : Vz} {α : Type} {x : Go α} {f : α → Go Unit} (hx : Respects World.ConfigCalls x)
    (hf : ∀ a, EngineCalls vz (f a)) : EngineCalls vz (x >>= f) := by
  intro w
  obtain ⟨n₁, e₁, h₁⟩ := hx w
  simp only [bind_apply]
  split
  next a w₁ e =>
    rw [e] at e₁
    obtain ⟨cfg, k, e₂, h₂, hk⟩ := hf a w₁
    exact ⟨n₁ ++ cfg, k, by rw [e₂, e₁]; simp only [List.append_assoc], fun c hc => (List.mem_append.1 hc).elim (h₁ c) (h₂ c), hk⟩
  next err w₁ e =>
    rw [e] at e₁
    exact ⟨n₁, 0, by simpa using e₁, h₁, by omega, by omega, nofun⟩

theorem instance_engineCalls (vz : Vz) :
    EngineCalls vz (do validate vz; newVirtualMachine vz; call vz .start) := by
  intro w
  refine ⟨[], if vz.fails .validate = none ∧ vz.valid then (if vz.fails .newVirtualMachine = none then 3 else 2) else 1,
    ?_, by simp, ?_⟩ <;>
  cases hv : vz.fails .validate <;> cases hvalid : vz.valid <;> cases hn : vz.fails .newVirtualMachine <;>
    cases hs : vz.fails .start <;>
    simp [validate, newVirtualMachine, call, wrap, mapError, hv, hvalid, hn, hs, instanceCalls]

theorem start_engineCalls (vz : Vz) : EngineCalls vz (start vz) := by
  have h : start vz = (do assignFiles; configuration vz; attachDevices vz; validate vz; newVirtualMachine vz; call vz .start) := by
    simp only [start, prepare, bind_bind]
  rw [h]
  exact EngineCalls.bind assignFiles_configCalls fun _ => EngineCalls.bind (configuration_configCalls vz)
    fun _ => EngineCalls.bind (attachDevices_respects vz).configCalls fun _ => instance_engineCalls vz

/-- **`Start` drives the engine in order**, on every run, whatever the VM, the host and the
engine: it makes configuration calls, then `Validate`, then `NewVirtualMachine` only after a
`Validate` that succeeded and accepted the configuration, then the instance's `Start` only
after a `NewVirtualMachine` that succeeded. When `Start` returns nil it has made all three,
and all three succeeded. -/
theorem start_engine_calls (vz : Vz) (w : World) :
    ∃ cfg k, (start vz w).2.calls = w.calls ++ cfg ++ (instanceCalls vz).take k ∧ (∀ c ∈ cfg, c.1.configures) ∧
      (2 ≤ k → vz.fails .validate = none ∧ vz.valid = true) ∧ (3 ≤ k → vz.fails .newVirtualMachine = none) ∧
      ((start vz w).1 = .ok () → k = 3 ∧ vz.fails .start = none) :=
  start_engineCalls vz w

end Jetpack
