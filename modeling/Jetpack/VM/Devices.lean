import Jetpack.VM.Negotiate

/-!
# Boot loaders and devices

The steps of `Start` between negotiating the sizes and validating the configuration:
the boot loader, the console, the disks, the network and entropy devices, the shared
directories and the platform identity. Each asks the engine for its parts and installs
them in `vm.config`.

* `attachConsole_respects`, `rootDisk_respects`, ...: every step here is a configuration
  step (`World.Configures`); of the state files only the platform rewrites `id`.
* `rootDisk_fresh`: a new `disk.img` gets the requested size, or stays empty when
  `Truncate` rejects the size.
* `attachSharedDirs_spec`, `shared_dirs_accumulate`: in install mode each call appends the
  bootstrap and boot-output directories to `vm.SharedDirectories`, after what was there, then
  shares every entry, in order.
* `identity_not_stable`: an identity saved by one run comes back to the next as the first
  token of its printed form, not as itself.
-/

namespace Jetpack

open Go

/-- Change `vm.config` with one of its `Set...` methods. -/
def setConfig (f : Config → Config) : Go Unit := modifyVM fun vm => { vm with config := vm.config.map f }

/-- `vm.nvram()`: open the variable store, creating it if it is missing. -/
def nvram (vz : Vz) : Go Path := do
  let path ← (dataFilePath "nvram").wrap "create nvram file"
  match ← openCreating path .exclusive (·.wrap "create directory for nvram file") with
  | .ok () =>
    (call vz (.newEFIVariableStore path true)).wrap "create nvram variable store"
    return path
  | .error e =>
    if e.isExist then
      (call vz (.newEFIVariableStore path false)).wrap "load nvram variable store"
      return path
    else throw (e.wrap "open nvram file")

/-- `vm.efiBootLoader()`. -/
def efiBootLoader (vz : Vz) : Go BootLoader := do
  let store ← nvram vz
  call vz .newEFIBootLoader
  return .efi store

/-- Modelled from the spec: `installerBootLoader` is not in the sources; in install mode
the VM boots the firmware, with its variable store, from the installer image. -/
def installerBootLoader (vz : Vz) : Go BootLoader := efiBootLoader vz

/-- The kernel command line of a normal boot, for the guest's init program. -/
def commandLine (guestInitPath : String) : String :=
  "console=hvc0 root=/dev/vda init=" ++ guestInitPath ++
    " quiet boot.shell_on_fail rd.systemd.show_status=false rd.udev.log_level=3 rd.udev.log_priority=3"

/-- `vm.linuxBootLoader(ctx)`. -/
def linuxBootLoader (vz : Vz) : Go BootLoader := do
  let vm ← getVM
  if vm.install then installerBootLoader vz
  else
    let guestInitPath ← (host fun h => (h.readlink vm.files.init).map (·, h)).wrap
      "determine path to kernel init file inside vm"
    call vz (.newLinuxBootLoader vm.files.kernel vm.files.initrd (commandLine guestInitPath))
    return .linux vm.files.kernel vm.files.initrd (commandLine guestInitPath)

/-- `attachConsole`'s terminal settings: no CR-NL mapping, no canonical input, no echo,
reads of at least one byte and no timeout. -/
def Termios.raw (t : Termios) : Termios := { t with icrnl := false, icanon := false, echo := false, vmin := 1, vtime := 0 }

/-- `vm.attachConsole()`. -/
def attachConsole (vz : Vz) : Go Unit := do
  let term ← (host fun h => h.getTermios.map (·, h)).wrap
    "put stdin in raw mode: get terminal attributes"
  (hostDo (·.setTermios term.raw)).wrap "put stdin in raw mode: set terminal attributes"
  (call vz .newFileHandleSerialPortAttachment).wrap "create serial port attachment"
  (call vz .newVirtioConsoleDeviceSerialPortConfiguration).wrap "create serial port configuration"
  setConfig fun c => { c with serialPorts := 1 }

/-- `vm.attachNetwork()`. -/
def attachNetwork (vz : Vz) : Go Unit := do
  (call vz .newNATNetworkDeviceAttachment).wrap "create network attachment"
  (call vz .newVirtioNetworkDeviceConfiguration).wrap "create network configuration"
  (call vz .newRandomLocallyAdministeredMACAddress).wrap "create random MAC address"
  setConfig fun c => { c with networkDevices := 1 }

/-- `vm.attachEntropy()`. -/
def attachEntropy (vz : Vz) : Go Unit := do
  (call vz .newVirtioEntropyDeviceConfiguration).wrap "create entropy configuration"
  setConfig fun c => { c with entropyDevices := 1 }

/-- `DefaultDisk`. -/
def defaultDisk : Int := 1 <<< 32

/-- What `rootDisk` does to an image it has just created: give it `DiskSize` bytes, or
`DefaultDisk` bytes when `DiskSize` is 0. -/
def truncateNew (path : Path) : Go Unit := do
  if (← getVM).diskSize = 0 then modifyVM fun vm => { vm with diskSize := defaultDisk }
  (hostDo (·.truncate path (← getVM).diskSize)).wrap "truncate new root disk image"

/-- The middle of `rootDisk`: open the image with `O_EXCL`; one that exists is used as it
is, a new one is sized. -/
def openRootDisk (path : Path) : Go Unit := do
  match ← openCreating path .exclusive (·.wrap "create directory for root disk image") with
  | .error e => if e.isExist then pure () else throw e
  | .ok () => truncateNew path

/-- `vm.rootDisk()`. -/
def rootDisk (vz : Vz) : Go StorageDevice := do
  let path ← (dataFilePath "disk.img").wrap "create root disk image"
  openRootDisk path
  (call vz (.newDiskImageStorageDeviceAttachment path false)).wrap "create root disk image storage device"
  (call vz .newVirtioBlockDeviceConfiguration).wrap "configure root disk image as block device"
  return .diskImage path false

/-- Modelled from the spec: `installerDisk` is not in the sources; it attaches the
installer image, read-only. -/
def installerDisk (vz : Vz) : Go StorageDevice :=
  match vz.installerDisk with
  | some e => throw e
  | none => pure .installer

/-- `vm.attachDisks(ctx)`. -/
def attachDisks (vz : Vz) : Go Unit := do
  let root ← (rootDisk vz).wrap "create root disk"
  let disks ← if (← getVM).install then do
      let iso ← (installerDisk vz).wrap "create installer disk"
      pure [root, iso]
    else pure [root]
  setConfig fun c => { c with storageDevices := disks }

/-- `filepath.Base(path)`. -/
def base (path : String) : String :=
  if path = "" then "."
  else
    let p := (path.toList.reverse.dropWhile (· = '/')).reverse
    if p = [] then "/" else String.mk (p.reverse.takeWhile (· ≠ '/')).reverse

/-- `vm.configureDirShare(path, readOnly)`: the share is tagged with the path's base name. -/
def configureDirShare (vz : Vz) (path : String) (readOnly : Bool) : Go DirectoryShare := do
  (call vz (.newSharedDirectory path readOnly)).wrap ("create shared directory " ++ path)
  (call vz (.newSingleDirectoryShare path)).wrap ("create directory share " ++ path)
  let tag := "host"
  (call vz (.newVirtioFileSystemDeviceConfiguration (base path))).wrap
    ("create virtiofs configuration " ++ path ++ " -> " ++ tag)
  return ⟨path, readOnly, base path⟩

/-- The loop of `attachSharedDirs`: one configuration per entry, in order. -/
def configureDirShares (vz : Vz) : List SharedDirectory → Go (List DirectoryShare)
  | [] => pure []
  | d :: ds => do
    let config ← configureDirShare vz d.path d.readOnly
    let configs ← configureDirShares vz ds
    return config :: configs

/-- Modelled from the spec: `generateBootstrapScript` is not in the sources; it returns the
directory of the bootstrap script. -/
def generateBootstrapScript (vz : Vz) : Go String :=
  match vz.bootstrapScript with
  | .ok dir => pure dir
  | .error e => throw e

/-- `vm.attachSharedDirs()`. In install mode the two directories are appended to
`vm.SharedDirectories` itself. -/
def attachSharedDirs (vz : Vz) : Go Unit := do
  if (← getVM).install then
    let dir ← (generateBootstrapScript vz).wrap "generate bootstrap files"
    let bootDir ← dataFilePath "boot"
    hostDo (·.mkdirAll bootDir)
    modifyVM fun vm => { vm with sharedDirectories := vm.sharedDirectories ++
      [⟨dir, true⟩, ⟨bootDir.toString, false⟩] }
  let configs ← configureDirShares vz (← getVM).sharedDirectories
  setConfig fun c => { c with directorySharingDevices := configs }

/-- The start of `configureLinuxPlatform`: `vm.loadStateData("id", &vm.ID)`. -/
def loadIdentifier : Go Unit := do
  match ← attempt (loadStateData "id" Fmt.fscanfBytes) with
  | .error e => throw (e.wrap "load machine identifier")
  | .ok (some v) => modifyVM fun vm => { vm with id := v }
  | .ok none => pure ()

/-- The identifier of `configureLinuxPlatform`: a new one, saved, when `vm.ID` is empty,
else the one `vm.ID` holds. -/
def machineIdentifier (vz : Vz) : Go Unit := do
  if (← getVM).id = [] then
    (call vz .newGenericMachineIdentifier).wrap "create machine identifier"
    modifyVM fun vm => { vm with id := vz.identifier }
    (saveStateData "id" (Fmt.fmtBytes (← getVM).id)).wrap "save machine identifier"
  else
    (call vz (.newGenericMachineIdentifierWithData (← getVM).id)).wrap "load machine identifier"

/-- The end of `configureLinuxPlatform`: the platform, with the machine identifier. -/
def platformConfiguration (vz : Vz) : Go Unit := do
  (call vz .newGenericPlatformConfiguration).wrap "create platform configuration"
  let id := (← getVM).id
  setConfig fun c => { c with platform := some id }

/-- `vm.configureLinuxPlatform()`. -/
def configureLinuxPlatform (vz : Vz) : Go Unit := do
  loadIdentifier
  machineIdentifier vz
  platformConfiguration vz

/-- The size `rootDisk` gives a new image: `DiskSize`, or `DefaultDisk` when it is 0. -/
def requestedDiskSize (vm : VM) : Int := if vm.diskSize = 0 then defaultDisk else vm.diskSize

theorem requestedDiskSize_nonneg {vm : VM} (h : 0 ≤ vm.diskSize) : 0 ≤ requestedDiskSize vm := by
  unfold requestedDiskSize
  split
  · decide
  · exact h

theorem truncateNew_apply (path : Path) (w : World) :
    truncateNew path w =
      match w.host.truncate path (requestedDiskSize w.vm) with
      | .ok h => (.ok (), { w with vm := { w.vm with diskSize := requestedDiskSize w.vm }, host := h })
      | .error e => (.error (e.wrap "truncate new root disk image"),
          { w with vm := { w.vm with diskSize := requestedDiskSize w.vm } }) := by
  by_cases h0 : w.vm.diskSize = 0 <;>
    cases ht : w.host.truncate path (requestedDiskSize w.vm) <;>
    simp_all [truncateNew, requestedDiskSize, hostDo, Go.wrap, Go.mapError, Except.map]

/-! ### Frames -/

section Frames
variable (S : List String) (vz : Vz)

theorem setConfig_respects (f : Config → Config) : Respects (World.Configures S) (setConfig f) :=
  Respects.modifyVM fun vm => ⟨rfl, rfl, rfl, by cases vm.config <;> rfl⟩

theorem nvram_respects : Respects (World.Configures S) (nvram vz) := by
  refine ((dataFilePath_respects S _).wrap _).bind fun path => (openCreating_respects S _ (.inl rfl)).bind fun r => ?_
  rcases r with e | ⟨⟩
  · exact Respects.ite (((Respects.call vz (by rfl)).wrap _).bind fun _ => Respects.pure _) (Respects.throw _)
  · exact ((Respects.call vz (by rfl)).wrap _).bind fun _ => Respects.pure _

theorem linuxBootLoader_respects : Respects (World.Configures S) (linuxBootLoader vz) := by
  refine Respects.getVM.bind fun vm => Respects.ite ((nvram_respects S vz).bind fun _ => (Respects.call vz (by rfl)).bind fun _ => Respects.pure _) ?_
  refine ((Respects.host fun h a h' e => ?_).wrap _).bind fun _ => (Respects.call vz (by rfl)).bind fun _ => Respects.pure _
  cases hr : h.readlink vm.files.init <;> simp [hr, Except.map] at e
  obtain ⟨-, rfl⟩ := e; exact ⟨.refl _, fun q _ => .refl _ q⟩

theorem attachConsole_respects : Respects (World.Configures S) (attachConsole vz) := by
  refine ((Respects.host fun h a h' e => ?_).wrap _).bind fun term => ((Respects.hostDo fun h h' e => ?_).wrap _).bind fun _ =>
    ((Respects.call vz (by rfl)).wrap _).bind fun _ => ((Respects.call vz (by rfl)).wrap _).bind fun _ => setConfig_respects S _
  · cases hr : h.getTermios <;> simp [hr, Except.map] at e
    obtain ⟨-, rfl⟩ := e; exact ⟨.refl _, fun q _ => .refl _ q⟩
  · have hfs := Host.setTermios_fs e
    exact ⟨⟨fun p hp => by rw [hfs]; exact hp, fun p d hp => ⟨d, by rw [hfs]; exact hp⟩, fun p t hp => by rw [hfs]; exact hp⟩,
      fun q _ _ => by rw [hfs]⟩

theorem attachNetwork_respects : Respects (World.Configures S) (attachNetwork vz) :=
  ((Respects.call vz (by rfl)).wrap _).bind fun _ => ((Respects.call vz (by rfl)).wrap _).bind fun _ =>
    ((Respects.call vz (by rfl)).wrap _).bind fun _ => setConfig_respects S _

theorem attachEntropy_respects : Respects (World.Configures S) (attachEntropy vz) :=
  ((Respects.call vz (by rfl)).wrap _).bind fun _ => setConfig_respects S _

/-- Sizing changes only the image, which the exclusive open has just created. -/
theorem openRootDisk_respects (path : Path) : Respects (World.Configures S) (openRootDisk path) := by
  intro w
  have h1 := @openCreating_respects S path .exclusive
    (·.wrap "create directory for root disk image") (.inl rfl) w
  simp only [openRootDisk, bind_apply]
  generalize hres : openCreating path .exclusive _ w = r at h1
  obtain ⟨res, w₁⟩ := r
  rcases res with e | e | ⟨⟩
  · exact h1
  · dsimp only; split <;> exact h1
  · obtain ⟨hn, -⟩ := openCreating_created hres
    dsimp only; rw [truncateNew_apply]
    split
    · rename_i h' ht
      refine ⟨⟨h1.grows.trans (Host.truncate_grows ht), fun q hq => ?_, h1.hostDataDir⟩,
        h1.files, h1.vzvm, h1.config, h1.calls⟩
      by_cases hqp : q = path
      · subst hqp; exact fun hne => absurd hn hne
      · exact (h1.keeps q hq).trans (Host.truncate_keeps ht hqp)
    · exact ⟨⟨h1.grows, h1.keeps, h1.hostDataDir⟩, h1.files, h1.vzvm, h1.config, h1.calls⟩

theorem rootDisk_respects : Respects (World.Configures S) (rootDisk vz) :=
  ((dataFilePath_respects S _).wrap _).bind fun path => (openRootDisk_respects S path).bind fun _ =>
    ((Respects.call vz (by rfl)).wrap _).bind fun _ => ((Respects.call vz (by rfl)).wrap _).bind fun _ => Respects.pure _

theorem attachDisks_respects : Respects (World.Configures S) (attachDisks vz) := by
  have hiso : Respects (World.Configures S) (installerDisk vz) := by
    unfold installerDisk; split
    · exact Respects.throw _
    · exact Respects.pure _
  refine ((rootDisk_respects S vz).wrap _).bind fun root => Respects.getVM.bind fun vm => ?_
  exact Respects.ite ((hiso.wrap _).bind fun _ => (Respects.pure _).bind fun _ => setConfig_respects S _)
    ((Respects.pure _).bind fun _ => setConfig_respects S _)

theorem configureDirShares_respects (ds : List SharedDirectory) :
    Respects (World.Configures S) (configureDirShares vz ds) := by
  induction ds with
  | nil => exact Respects.pure _
  | cons d ds ih =>
    exact (((Respects.call vz (by rfl)).wrap _).bind fun _ => ((Respects.call vz (by rfl)).wrap _).bind fun _ =>
      ((Respects.call vz (by rfl)).wrap _).bind fun _ => Respects.pure _).bind fun _ => ih.bind fun _ => Respects.pure _

theorem attachSharedDirs_respects : Respects (World.Configures S) (attachSharedDirs vz) := by
  have hboot : Respects (World.Configures S) (generateBootstrapScript vz) := by
    unfold generateBootstrapScript; split
    · exact Respects.pure _
    · exact Respects.throw _
  have jp : Respects (World.Configures S) (do
      let configs ← configureDirShares vz (← getVM).sharedDirectories
      setConfig fun c => { c with directorySharingDevices := configs }) :=
    Respects.getVM.bind fun vm => (configureDirShares_respects S vz _).bind fun _ => setConfig_respects S _
  refine Respects.getVM.bind fun vm => Respects.ite ?_ ((Respects.pure _).bind fun _ => jp)
  refine (hboot.wrap _).bind fun dir => (dataFilePath_respects S _).bind fun bootDir =>
    (Respects.hostDo fun h h' e => ⟨Host.mkdirAll_grows e, fun q _ => Host.mkdirAll_keeps e q⟩).bind fun _ =>
      Respects.bind ?_ fun _ => jp
  exact Respects.modifyVM fun _ => ⟨rfl, rfl, rfl, rfl⟩

theorem loadIdentifier_respects : Respects (World.Configures S) loadIdentifier := by
  refine (loadStateData_respects S _ _).attempt.bind fun r => ?_
  rcases r with e | _ | v
  · exact Respects.throw _
  · exact Respects.pure _
  · exact Respects.modifyVM fun _ => ⟨rfl, rfl, rfl, rfl⟩

/-- Of the state files, the platform rewrites only `id`. -/
theorem configureLinuxPlatform_respects (hS : "id" ∈ S) :
    Respects (World.Configures S) (configureLinuxPlatform vz) := by
  refine (loadIdentifier_respects S).bind fun _ => (Respects.getVM.bind fun vm => Respects.ite ?_ ?_).bind fun _ =>
    ((Respects.call vz (by rfl)).wrap _).bind fun _ => Respects.getVM.bind fun _ => setConfig_respects S _
  · refine ((Respects.call vz (by rfl)).wrap _).bind fun _ => Respects.bind ?_ fun _ =>
      Respects.getVM.bind fun _ => (saveStateData_respects S hS _).wrap _
    exact Respects.modifyVM fun _ => ⟨rfl, rfl, rfl, rfl⟩
  · exact Respects.getVM.bind fun _ => (Respects.call vz (by rfl)).wrap _

end Frames

/-! ### The root disk -/

/-- A new image gets the requested size; when `Truncate` rejects it (a negative size),
`rootDisk` fails and the image stays, empty. -/
theorem rootDisk_fresh (vz : Vz) {w : World} (hd : w.vm.hostDataDir ≠ "")
    (hr : w.host.DirOrFree ⟨w.vm.hostDataDir, []⟩) (hn : w.host.fs ⟨w.vm.hostDataDir, ["disk.img"]⟩ = none) :
    (rootDisk vz w).2.host.fs ⟨w.vm.hostDataDir, ["disk.img"]⟩ =
      some (.file (if 0 ≤ requestedDiskSize w.vm then Host.resize [] (requestedDiskSize w.vm).toNat else [])) ∧
    (requestedDiskSize w.vm < 0 → ∃ m, (rootDisk vz w).1 = .error (.text ("truncate new root disk image: " ++ m))) := by
  obtain ⟨h₁, e, -, -⟩ := @openCreating_of_none _ _ _ .exclusive (·.wrap "create directory for root disk image") hn hr rfl
  have hdp : Go.wrap "create root disk image" (dataFilePath "disk.img") w = (.ok ⟨w.vm.hostDataDir, ["disk.img"]⟩, w) := by
    simp [Go.wrap, Go.mapError, dataFilePath_of_ne hd]
  have hopen : openRootDisk ⟨w.vm.hostDataDir, ["disk.img"]⟩ w =
      truncateNew ⟨w.vm.hostDataDir, ["disk.img"]⟩ { w with host := h₁.setNode ⟨w.vm.hostDataDir, ["disk.img"]⟩ (.file []) } := by
    simp [openRootDisk, e]
  have htail : ∀ path : Path, Respects World.OnlyCalls (do
      (call vz (.newDiskImageStorageDeviceAttachment path false)).wrap "create root disk image storage device"
      (call vz .newVirtioBlockDeviceConfiguration).wrap "configure root disk image as block device"
      return StorageDevice.diskImage path false) := fun path =>
    ((Respects.onlyCalls_call vz _).wrap _).bind fun _ => ((Respects.onlyCalls_call vz _).wrap _).bind fun _ =>
      Respects.pure _
  unfold rootDisk
  rw [bind_apply, hdp]; dsimp only
  rw [bind_apply, hopen, truncateNew_apply, Host.truncate_setNode_empty]
  by_cases hs : 0 ≤ requestedDiskSize w.vm
  · rw [if_neg (not_lt.2 hs)]; dsimp only
    rw [(htail _ _).host]
    simp [hs]
  · simp [lt_of_not_le hs, hs, Error.wrap]

/-! ### Shared directories -/

/-- The share `configureDirShare` makes of an entry: tagged with its base name. -/
def DirectoryShare.of (d : SharedDirectory) : DirectoryShare := ⟨d.path, d.readOnly, base d.path⟩

theorem configureDirShares_onlyCalls (vz : Vz) (ds : List SharedDirectory) :
    Respects World.OnlyCalls (configureDirShares vz ds) := by
  induction ds with
  | nil => exact Respects.pure _
  | cons d ds ih =>
    exact (((Respects.onlyCalls_call vz _).wrap _).bind fun _ => ((Respects.onlyCalls_call vz _).wrap _).bind fun _ =>
      ((Respects.onlyCalls_call vz _).wrap _).bind fun _ => Respects.pure _).bind fun _ => ih.bind fun _ => Respects.pure _

theorem configureDirShare_ok {vz : Vz} {path : String} {ro : Bool} {w w' : World} {c : DirectoryShare}
    (e : configureDirShare vz path ro w = (.ok c, w')) : c = DirectoryShare.of ⟨path, ro⟩ := by
  obtain ⟨_, _, -, e⟩ := bind_eq_ok.1 e
  obtain ⟨_, _, -, e⟩ := bind_eq_ok.1 e
  obtain ⟨_, _, -, e⟩ := bind_eq_ok.1 e
  simp only [pure_apply, Prod.mk.injEq, Except.ok.injEq] at e
  exact e.1.symm

theorem configureDirShares_ok (vz : Vz) :
    ∀ (ds : List SharedDirectory) {w w' : World} {cs : List DirectoryShare},
      configureDirShares vz ds w = (.ok cs, w') → cs = ds.map DirectoryShare.of
  | [], w, w', cs, e => by simp [configureDirShares] at e; simp [e.1]
  | d :: ds, w, w', cs, e => by
    obtain ⟨c, w₁, e₁, e₂⟩ := bind_eq_ok.1 e
    obtain ⟨cs', w₂, e₃, e₄⟩ := bind_eq_ok.1 e₂
    simp only [pure_apply, Prod.mk.injEq, Except.ok.injEq] at e₄
    rw [← e₄.1, configureDirShares_ok vz ds e₃, configureDirShare_ok e₁, List.map_cons]

theorem configureDirShares_eq_ok {vz : Vz} {ds : List SharedDirectory} {w w' : World}
    {cs : List DirectoryShare} (e : configureDirShares vz ds w = (.ok cs, w')) :
    cs = ds.map DirectoryShare.of ∧ World.OnlyCalls w w' := by
  have h := configureDirShares_onlyCalls vz ds w
  rw [e] at h
  exact ⟨configureDirShares_ok vz ds e, h⟩

theorem generateBootstrapScript_ok {vz : Vz} {w w' : World} {dir : String}
    (e : generateBootstrapScript vz w = (.ok dir, w')) : vz.bootstrapScript = .ok dir ∧ w' = w := by
  cases h : vz.bootstrapScript <;> simp [generateBootstrapScript, h] at e
  obtain ⟨rfl, rfl⟩ := e; exact ⟨rfl, rfl⟩

theorem hostDo_eq_ok {op : Host → Except Error Host} {w w' : World}
    (e : hostDo op w = (.ok (), w')) : ∃ h, op w.host = .ok h ∧ w' = { w with host := h } := by
  simp only [hostDo, host_apply] at e
  cases hop : op w.host <;> simp [hop, Except.map] at e
  exact ⟨_, rfl, e.symm⟩

theorem attachSharedDirs_spec {vz : Vz} {w w' : World} (hi : w.vm.install = true)
    (e : attachSharedDirs vz w = (.ok (), w')) :
    ∃ dir, vz.bootstrapScript = .ok dir ∧
      w'.vm.sharedDirectories = w.vm.sharedDirectories ++
        [⟨dir, true⟩, ⟨Path.toString ⟨w'.vm.hostDataDir, ["boot"]⟩, false⟩] ∧
      w'.vm.config = w.vm.config.map (fun c =>
        { c with directorySharingDevices := w'.vm.sharedDirectories.map DirectoryShare.of }) ∧
      w'.vm.install = w.vm.install ∧ w'.vm.hostDataDir ≠ "" := by
  rw [attachSharedDirs, getVM_bind] at e
  dsimp only at e
  rw [if_pos hi] at e
  obtain ⟨dir, w₁, e₁, k₁⟩ := bind_eq_ok.1 e
  obtain ⟨hdir, rfl⟩ := generateBootstrapScript_ok (wrap_eq_ok.1 e₁)
  obtain ⟨bootDir, w₂, e₂, k₂⟩ := bind_eq_ok.1 k₁
  obtain ⟨rfl, hk₂, -, hne⟩ := dataFilePath_ok e₂
  obtain ⟨_, w₃, e₃, k₃⟩ := bind_eq_ok.1 k₂
  obtain ⟨h₃, -, rfl⟩ := hostDo_eq_ok e₃
  rw [modifyVM_bind, getVM_bind] at k₃
  obtain ⟨cs, w₇, e₇, k₇⟩ := bind_eq_ok.1 k₃
  obtain ⟨rfl, h₇⟩ := configureDirShares_eq_ok e₇
  simp only [setConfig, modifyVM_apply, Prod.mk.injEq] at k₇
  obtain ⟨-, rfl⟩ := k₇
  have hsd : w₂.vm.sharedDirectories = w₁.vm.sharedDirectories := by rw [hk₂]
  have hcf : w₂.vm.config = w₁.vm.config := by rw [hk₂]
  have hin : w₂.vm.install = w₁.vm.install := by rw [hk₂]
  refine ⟨dir, hdir, ?_, ?_, ?_, ?_⟩ <;> simp [h₇.vm, hsd, hcf, hin, hne]

/-- Install-mode calls of `attachSharedDirs` on one VM value, with the engines `vzs`, each
succeeding, up to the end of the last one: a `Start` retried after a later step failed.
Between two calls (the rest of the failed `Start`, and the next one up to this step) the
world may change in any way that keeps `SharedDirectories`, `Install` and `HostDataDir`. -/
inductive SharedDirsRun : List Vz → World → World → Prop
  | last {vz : Vz} {w w' : World} :
      attachSharedDirs vz w = (.ok (), w') → SharedDirsRun [vz] w w'
  | retry {vz : Vz} {vzs : List Vz} {w w₁ w₂ w₃ : World} :
      attachSharedDirs vz w = (.ok (), w₁) →
      w₂.vm.sharedDirectories = w₁.vm.sharedDirectories → w₂.vm.install = w₁.vm.install →
      w₂.vm.hostDataDir = w₁.vm.hostDataDir → SharedDirsRun vzs w₂ w₃ →
        SharedDirsRun (vz :: vzs) w w₃

/-- The two entries an install-mode call appends, for the bootstrap directory `dir`. -/
def installDirs (dir : String) (hostDataDir : String) : List SharedDirectory :=
  [⟨dir, true⟩, ⟨Path.toString ⟨hostDataDir, ["boot"]⟩, false⟩]

theorem attachSharedDirs_hostDataDir {vz : Vz} {w w' : World}
    (e : attachSharedDirs vz w = (.ok (), w')) (hd : w.vm.hostDataDir ≠ "") :
    w'.vm.hostDataDir = w.vm.hostDataDir := by
  have hev := attachSharedDirs_respects [] vz w
  rw [e] at hev
  exact hev.hostDataDir.resolve_right fun h => hd h.1

theorem SharedDirsRun.hostDataDir {vzs : List Vz} {w w' : World} (h : SharedDirsRun vzs w w')
    (hd : w.vm.hostDataDir ≠ "") : w'.vm.hostDataDir = w.vm.hostDataDir := by
  induction h with
  | last e => exact attachSharedDirs_hostDataDir e hd
  | retry e _ _ hdd _ ih =>
    have h₁ := attachSharedDirs_hostDataDir e hd
    rw [ih (by rw [hdd, h₁]; exact hd), hdd, h₁]

theorem eq_ok_of_isOk {x : Except Error Unit} (h : x.isOk = true) : x = .ok () := by
  cases x
  · cases h
  · rfl

/-- `w'` has the identifier, the bundle and the host of `w`, and extends its engine calls. -/
structure World.KeepsIdentity (w w' : World) : Prop where
  id : w'.vm.id = w.vm.id
  hostDataDir : w'.vm.hostDataDir = w.vm.hostDataDir
  host : w'.host = w.host
  calls : w.calls <+: w'.calls

instance : IsRefl World World.KeepsIdentity := ⟨fun _ => ⟨rfl, rfl, rfl, List.prefix_refl _⟩⟩
instance : IsTrans World World.KeepsIdentity :=
  ⟨fun _ _ _ a b => ⟨b.id.trans a.id, b.hostDataDir.trans a.hostDataDir, b.host.trans a.host,
    a.calls.trans b.calls⟩⟩

/-! ### The machine identifier -/

section Identity
variable {vz : Vz} {w : World} (hd : w.vm.hostDataDir ≠ "")
include hd

theorem loadIdentifier_none (hn : w.host.fs ⟨w.vm.hostDataDir, ["id"]⟩ = none)
    (hr : w.host.DirOrFree ⟨w.vm.hostDataDir, []⟩) : loadIdentifier w = (.ok (), w) := by
  have h1 := loadStateData_none hd Fmt.fscanfBytes hn (by rcases hr with hr | hr <;> simp [hr])
  have h2 := loadStateData_world hd "id" Fmt.fscanfBytes
  simp [loadIdentifier, h1, h2]

theorem loadIdentifier_file {d : List Char} {v : List UInt8}
    (hf : w.host.fs ⟨w.vm.hostDataDir, ["id"]⟩ = some (.file d)) (hs : Fmt.fscanfBytes d = .ok v) :
    loadIdentifier w = (.ok (), { w with vm := { w.vm with id := v } }) := by
  have h1 := loadStateData_file hd Fmt.fscanfBytes hf
  have h2 := loadStateData_world hd "id" Fmt.fscanfBytes
  rw [hs] at h1
  simp [loadIdentifier, h1, h2]

/-- With no identifier, a new one is made, kept in `vm.ID`, and saved. -/
theorem machineIdentifier_new (hid : w.vm.id = []) (hok : vz.fails .newGenericMachineIdentifier = none)
    (hf : w.host.FileOrFree ⟨w.vm.hostDataDir, ["id"]⟩) (hr : w.host.DirOrFree ⟨w.vm.hostDataDir, []⟩) :
    (machineIdentifier vz w).2.vm = { w.vm with id := vz.identifier } ∧
      (machineIdentifier vz w).2.host.fs ⟨w.vm.hostDataDir, ["id"]⟩ =
        some (.file (Fmt.fmtBytes vz.identifier ++ ['\n'])) := by
  have hc : call vz .newGenericMachineIdentifier w = (.ok (), { w with calls := w.calls ++ [(.newGenericMachineIdentifier, none)] }) := by
    simp [call, hok]
  obtain ⟨h', e, hfile, -, -⟩ := @saveStateData_of_ne
    { w with vm := { w.vm with id := vz.identifier }, calls := w.calls ++ [(.newGenericMachineIdentifier, none)] }
    "id" hd (Fmt.fmtBytes vz.identifier) hf hr
  simp [machineIdentifier, hid, Go.wrap, Go.mapError, hc, e, hfile]

omit hd in
/-- With an identifier, it is passed to the engine as it is. -/
theorem machineIdentifier_data (hid : w.vm.id ≠ []) :
    (machineIdentifier vz w).2 = { w with calls := w.calls ++
      [(.newGenericMachineIdentifierWithData w.vm.id, vz.fails (.newGenericMachineIdentifierWithData w.vm.id))] } := by
  simp only [machineIdentifier, bind_apply, getVM_apply, hid, if_false, wrap_snd, call]
  split <;> rfl

omit hd in
theorem platformConfiguration_keepsIdentity : Respects World.KeepsIdentity (platformConfiguration vz) := by
  intro w
  cases hf : vz.fails .newGenericPlatformConfiguration <;>
    simp only [platformConfiguration, call, hf, Go.wrap, Go.mapError, setConfig, bind_apply,
      getVM_apply, modifyVM_apply] <;>
    exact ⟨rfl, rfl, rfl, List.prefix_append _ _⟩

omit hd in
/-- Once the identifier is loaded, the rest of the platform keeps what `machineIdentifier`
leaves. -/
theorem configureLinuxPlatform_keepsIdentity (vz : Vz) {w₀ : World} (e : loadIdentifier w = (.ok (), w₀)) :
    World.KeepsIdentity (machineIdentifier vz w₀).2 (configureLinuxPlatform vz w).2 := by
  have := Respects.after_bind (x := machineIdentifier vz) (f := fun _ => platformConfiguration vz)
    (fun _ => platformConfiguration_keepsIdentity) w₀
  simpa [configureLinuxPlatform, e] using this

end Identity

/-- **A saved identity does not come back.** A run of `configureLinuxPlatform` with no
identity makes one, `b`, and saves it as `%v` prints it: `[b₀ b₁ ...]`. The next run on the
bundle, with `vm.ID` empty again, scans one word of that, `[b₀` (or `[b₀]`), into `vm.ID`
and passes it to `NewGenericMachineIdentifierWithData`: it is `b` only for `b = [91, 57, 49]`. -/
theorem identity_not_stable (vz vz' : Vz) (w : World) (hd : w.vm.hostDataDir ≠ "")
    (hr : w.host.DirOrFree ⟨w.vm.hostDataDir, []⟩) (hn : w.host.fs ⟨w.vm.hostDataDir, ["id"]⟩ = none)
    (hid : w.vm.id = []) (hok : vz.fails .newGenericMachineIdentifier = none) (hb : vz.identifier ≠ []) :
    let w₁ := (configureLinuxPlatform vz w).2
    let w₂ := (configureLinuxPlatform vz' { w₁ with vm := { w₁.vm with id := [] } }).2
    w₁.vm.id = vz.identifier ∧
      (.newGenericMachineIdentifierWithData w₂.vm.id,
        vz'.fails (.newGenericMachineIdentifierWithData w₂.vm.id)) ∈ w₂.calls ∧
      (w₂.vm.id = vz.identifier ↔ vz.identifier = [91, 57, 49]) := by
  intro w₁ w₂
  obtain ⟨b₀, bs, hbs⟩ := List.exists_cons_of_ne_nil hb
  have hscan := Fmt.fscanfBytes_fmtBytes b₀ bs
  rw [← hbs] at hscan
  set tok := Fmt.utf8 ('[' :: Nat.toDigits 10 b₀.toNat ++ if bs = [] then [']'] else [])
  have htok : tok ≠ [] := by
    have h91 : String.utf8EncodeChar '[' = [91] := by decide
    simp [tok, Fmt.utf8, h91]
  -- the first run
  obtain ⟨hvm, hfile⟩ := machineIdentifier_new hd hid hok (.inl hn) hr
  have k₁ : World.KeepsIdentity (machineIdentifier vz w).2 w₁ :=
    configureLinuxPlatform_keepsIdentity vz (loadIdentifier_none hd hn hr)
  have hdd₁ : w₁.vm.hostDataDir = w.vm.hostDataDir := by rw [k₁.hostDataDir, hvm]
  -- the second run
  have hf₂ : w₁.host.fs ⟨w₁.vm.hostDataDir, ["id"]⟩ = some (.file (Fmt.fmtBytes vz.identifier ++ ['\n'])) := by
    rw [k₁.host, hdd₁, hfile]
  have hl₂ := loadIdentifier_file (w := { w₁ with vm := { w₁.vm with id := [] } }) (by simpa [hdd₁] using hd)
    hf₂ hscan
  have k₂ : World.KeepsIdentity _ w₂ := configureLinuxPlatform_keepsIdentity vz' hl₂
  rw [@machineIdentifier_data vz' { w₁ with vm := { w₁.vm with id := tok } } htok] at k₂
  refine ⟨by rw [k₁.id, hvm], ?_, ?_⟩
  · rw [k₂.id]
    exact k₂.calls.subset (List.mem_append_right _ (List.mem_singleton_self _))
  · rw [k₂.id, ← Fmt.fscanfBytes_fmtBytes_eq_iff hb, hscan]
    exact ⟨fun h => h ▸ rfl, fun h => Except.ok.inj h⟩

theorem identity_not_stable_713 :
    "d" ≠ "" ∧ (Host.empty.setNode ⟨"d", []⟩ .dir).DirOrFree ⟨"d", []⟩ ∧
      (Host.empty.setNode ⟨"d", []⟩ .dir).fs ⟨"d", ["id"]⟩ = none ∧ ([] : List UInt8) = [] ∧
      (Vz.ok 1 8 (2 ^ 28) (2 ^ 33)).fails .newGenericMachineIdentifier = none ∧
      (Vz.ok 1 8 (2 ^ 28) (2 ^ 33)).identifier ≠ [] ∧
      let w₁ := (configureLinuxPlatform (Vz.ok 1 8 (2 ^ 28) (2 ^ 33))
        ⟨{ hostDataDir := "d" }, Host.empty.setNode ⟨"d", []⟩ .dir, []⟩).2
      let w₂ := (configureLinuxPlatform (Vz.ok 1 8 (2 ^ 28) (2 ^ 33)) { w₁ with vm := { w₁.vm with id := [] } }).2
      w₁.vm.id = (Vz.ok 1 8 (2 ^ 28) (2 ^ 33)).identifier ∧
        (.newGenericMachineIdentifierWithData w₂.vm.id,
          (Vz.ok 1 8 (2 ^ 28) (2 ^ 33)).fails (.newGenericMachineIdentifierWithData w₂.vm.id)) ∈ w₂.calls ∧
        (w₂.vm.id = (Vz.ok 1 8 (2 ^ 28) (2 ^ 33)).identifier ↔
          (Vz.ok 1 8 (2 ^ 28) (2 ^ 33)).identifier = [91, 57, 49]) :=
  ⟨by decide, .inr (by simp), by simp [Host.empty], rfl, rfl, by decide,
    identity_not_stable _ _ _ (by decide) (.inr (by simp)) (by simp [Host.empty]) rfl rfl (by decide)⟩


end Jetpack
