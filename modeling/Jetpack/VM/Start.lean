import Jetpack.VM.Negotiate
import Jetpack.VM.Devices

/-!
# Starting the VM

`start` is `VM.Start`: it makes the bundle, sets the guest's defaults, negotiates the sizes,
makes the configuration and its devices, validates it, and creates and starts the engine
instance. Only `start` itself assigns the bundle (`vm.files`), the configuration and the
instance (`vm.vzvm`); the steps it calls assign none of them (`World.Configures`).

* `start_respects`: every run of `Start` evolves the world: the host only grows, and of the
  files of the bundle only `cpu`, `mem` and `id` are rewritten.
* `start_instanceInv`: `vm.vzvm` is set exactly when the last `NewVirtualMachine` call
  succeeded, before and after any run of `Start`.
* `start_throws`: every error `Start` returns names the step that failed, but the instance's
  own `Start` error.
-/

namespace Jetpack

open Go

/-- The outcome of the last call `c` in the log, if there is one. -/
def lastOutcome (c : VzCall) (calls : List (VzCall × Option String)) : Option (Option String) :=
  (calls.filter (·.1 = c)).getLast?.map (·.2)

theorem lastOutcome_append_of_ne {c : VzCall} {calls new : List (VzCall × Option String)}
    (h : ∀ e ∈ new, e.1 ≠ c) : lastOutcome c (calls ++ new) = lastOutcome c calls := by
  have hn : new.filter (·.1 = c) = [] := List.filter_eq_nil_iff.2 fun e he => by simpa using h e he
  simp only [lastOutcome, List.filter_append, hn, List.append_nil]

@[simp] theorem lastOutcome_append_self (c : VzCall) (o : Option String)
    (calls : List (VzCall × Option String)) : lastOutcome c (calls ++ [(c, o)]) = some o := by
  simp [lastOutcome, List.filter_append]

/-! ### The steps of `Start` -/

/-- `vm.files, err = fileBundle(vm.HostDataDir)`: after an error `vm.files` is the zero
`dataDirectory`. -/
def assignFiles : Go Unit := do
  match ← attempt (fileBundle (← getVM).hostDataDir) with
  | .ok files => modifyVM fun vm => { vm with files := files }
  | .error e =>
    modifyVM fun vm => { vm with files := {} }
    throw (e.wrap "create directory for virtual machine data")

/-- `if vm.OS == "" { vm.OS = "linux" }` and `if vm.Arch == "" { vm.Arch = "aarch64" }`. -/
def defaultGuest : Go Unit :=
  modifyVM fun vm => { vm with
    os := if vm.os = "" then "linux" else vm.os
    arch := if vm.arch = "" then "aarch64" else vm.arch }

/-- `vm.config, err = vz.NewVirtualMachineConfiguration(loader, uint(vm.CPUs),
uint64(vm.Memory))`: after an error `vm.config` is nil. -/
def newConfiguration (vz : Vz) (loader : BootLoader) : Go Unit := do
  let vm ← getVM
  match ← attempt (call vz (.newVirtualMachineConfiguration (uint64OfInt vm.cpus) (uint64OfInt vm.memory))) with
  | .ok () => modifyVM fun vm' => { vm' with
      config := some { bootLoader := loader, cpus := uint64OfInt vm.cpus, memory := uint64OfInt vm.memory } }
  | .error e =>
    modifyVM fun vm => { vm with config := none }
    throw (e.wrap "create virtual machine configuration")

/-- The steps of `Start` from the guest's defaults to the configuration. -/
def configuration (vz : Vz) : Go Unit := do
  defaultGuest
  initLogger
  configureCPUs vz
  configureMemory vz
  let loader ← (linuxBootLoader vz).wrap "create boot loader"
  newConfiguration vz loader

/-- The devices of `Start`, each step's error wrapped with its name. -/
def attachDevices (vz : Vz) : Go Unit := do
  (attachConsole vz).wrap "attach console"
  (attachDisks vz).wrap "attach disks"
  (attachNetwork vz).wrap "attach network"
  (attachEntropy vz).wrap "attach entropy"
  (attachSharedDirs vz).wrap "attach shared directories"
  (configureLinuxPlatform vz).wrap "configure linux platform"

/-- `valid, err := vm.config.Validate()`. -/
def validate (vz : Vz) : Go Unit := do
  (call vz .validate).wrap "invalid configuration"
  if !vz.valid then throw (.text "invalid configuration")

/-- The steps of `Start` before the engine instance. -/
def prepare (vz : Vz) : Go Unit := do
  configuration vz
  attachDevices vz
  validate vz

/-- `vm.vzvm, err = vz.NewVirtualMachine(vm.config)`: after an error `vm.vzvm` is nil. -/
def newVirtualMachine (vz : Vz) : Go Unit := do
  match ← attempt (call vz .newVirtualMachine) with
  | .ok () => modifyVM fun vm => { vm with vzvm := vm.config.map Machine.mk }
  | .error e =>
    modifyVM fun vm => { vm with vzvm := none }
    throw (e.wrap "create virtual machine")

/-- `vm.Start(ctx)`. The instance's own `Start` error is returned as it is. -/
def start (vz : Vz) : Go Unit := do
  assignFiles
  prepare vz
  newVirtualMachine vz
  call vz .start

/-! ### Frames -/

/-- `w'` follows `w` by steps of `Start` after the bundle is made: the world evolves and
`vm.files` stays. -/
structure World.KeepsBundle (S : List String) (w w' : World) extends World.Evolves S w w' : Prop where
  files : w'.vm.files = w.vm.files

/-- `w'` has the engine instance of `w`, and no `NewVirtualMachine` call was made since. -/
structure World.KeepsInstance (w w' : World) : Prop where
  vzvm : w'.vm.vzvm = w.vm.vzvm
  instanceCall : lastOutcome .newVirtualMachine w'.calls = lastOutcome .newVirtualMachine w.calls

/-- `w'` follows `w` by steps of `Start` before the engine instance. -/
structure World.Prepares (S : List String) (w w' : World) extends World.KeepsBundle S w w',
    World.KeepsInstance w w' : Prop

namespace World

variable {S : List String} {w w₁ w₂ : World}

instance : IsRefl World (KeepsBundle S) := ⟨fun w => ⟨.refl S w, rfl⟩⟩
instance : IsTrans World (KeepsBundle S) :=
  ⟨fun _ _ _ a b => ⟨a.toEvolves.trans b.toEvolves, b.files.trans a.files⟩⟩
instance : IsRefl World KeepsInstance := ⟨fun _ => ⟨rfl, rfl⟩⟩
instance : IsTrans World KeepsInstance :=
  ⟨fun _ _ _ a b => ⟨b.vzvm.trans a.vzvm, b.instanceCall.trans a.instanceCall⟩⟩
instance : IsRefl World (Prepares S) := ⟨fun w => ⟨refl_of (KeepsBundle S) w, rfl, rfl⟩⟩
instance : IsTrans World (Prepares S) := ⟨fun _ _ _ a b =>
  { toKeepsBundle := trans_of (KeepsBundle S) a.toKeepsBundle b.toKeepsBundle
    toKeepsInstance := trans_of KeepsInstance a.toKeepsInstance b.toKeepsInstance }⟩

/-- A configuration step of `Start` comes before the engine instance. -/
theorem Configures.prepares (a : Configures S w₁ w₂) : Prepares S w₁ w₂ := by
  obtain ⟨new, e, h⟩ := a.calls
  refine ⟨⟨a.toEvolves, a.files⟩, a.vzvm, ?_⟩
  rw [e]
  refine lastOutcome_append_of_ne fun c hc hce => ?_
  have := h c hc
  rw [hce] at this
  exact absurd this (by decide)

end World

section Frames

variable (vz : Vz)

/-- A configuration step of `Start` comes before the engine instance. -/
theorem Go.Respects.prepares {α : Type} {x : Go α} (hx : Respects (World.Configures stateFiles) x) :
    Respects (World.Prepares stateFiles) x :=
  hx.imp fun _ _ h => h.prepares

theorem Go.Respects.prepares_call {c : VzCall} (hc : c ≠ .newVirtualMachine) :
    Respects (World.Prepares stateFiles) (Go.call vz c) := by
  intro w; simp only [Go.call]
  split <;> exact ⟨⟨⟨.refl _, fun p _ => .refl _ p, .inl rfl⟩, rfl⟩, rfl,
    lastOutcome_append_of_ne (by simpa using hc)⟩

theorem defaultGuest_respects : Respects (World.Configures stateFiles) defaultGuest :=
  Respects.modifyVM fun _ => ⟨rfl, rfl, rfl, rfl⟩

theorem newConfiguration_respects (loader : BootLoader) :
    Respects (World.Prepares stateFiles) (newConfiguration vz loader) := by
  have hset : ∀ c, Respects (World.Prepares stateFiles) (modifyVM fun vm => { vm with config := c }) :=
    fun c w => ⟨⟨⟨.refl _, fun p _ => .refl _ p, .inl rfl⟩, rfl⟩, rfl, rfl⟩
  refine Respects.getVM.bind fun vm => (Respects.prepares_call vz (by simp)).attempt.bind fun r => ?_
  rcases r with e | ⟨⟩
  · exact (hset none).bind fun _ => Respects.throw _
  · exact hset _

theorem configuration_respects : Respects (World.Prepares stateFiles) (configuration vz) :=
  (defaultGuest_respects.prepares).bind fun _ => (initLogger_respects _).prepares.bind fun _ =>
    (configure_respects _ (by decide) _ _ _ _).prepares.bind fun _ =>
      (configure_respects _ (by decide) _ _ _ _).prepares.bind fun _ =>
        ((linuxBootLoader_respects _ vz).wrap _).prepares.bind (newConfiguration_respects vz)

theorem attachDevices_respects : Respects (World.Configures stateFiles) (attachDevices vz) :=
  ((attachConsole_respects _ vz).wrap _).bind fun _ => ((attachDisks_respects _ vz).wrap _).bind fun _ =>
    ((attachNetwork_respects _ vz).wrap _).bind fun _ => ((attachEntropy_respects _ vz).wrap _).bind fun _ =>
      ((attachSharedDirs_respects _ vz).wrap _).bind fun _ =>
        (configureLinuxPlatform_respects _ vz (by decide)).wrap _

theorem validate_respects : Respects (World.Prepares stateFiles) (validate vz) :=
  ((Respects.prepares_call vz (by simp)).wrap _).bind fun _ => Respects.ite (Respects.throw _) (Respects.pure _)

theorem prepare_respects : Respects (World.Prepares stateFiles) (prepare vz) :=
  (configuration_respects vz).bind fun _ => (attachDevices_respects vz).prepares.bind fun _ => validate_respects vz

theorem assignFiles_respects : Respects (World.Evolves stateFiles) assignFiles := by
  refine Respects.getVM.bind fun vm => ((fileBundle_respects _ _).imp fun _ _ h => h.toEvolves).attempt.bind fun r => ?_
  rcases r with e | files
  · refine Respects.bind ?_ fun _ => Respects.throw _
    exact Respects.evolves_modifyVM fun _ => rfl
  · exact Respects.evolves_modifyVM fun _ => rfl

theorem assignFiles_keepsInstance : Respects World.KeepsInstance assignFiles := by
  have hset : ∀ d : DataDirectory, Respects World.KeepsInstance (modifyVM fun vm => { vm with files := d }) :=
    fun _ _ => ⟨rfl, rfl⟩
  refine Respects.getVM.bind fun vm =>
    ((fileBundle_respects stateFiles _).imp fun _ _ h => h.prepares.toKeepsInstance).attempt.bind fun r => ?_
  rcases r with e | files
  · exact (hset _).bind fun _ => Respects.throw _
  · exact hset _

theorem Go.Respects.keepsBundle_call (c : VzCall) : Respects (World.KeepsBundle stateFiles) (Go.call vz c) := by
  intro w; simp only [Go.call]; split <;> exact ⟨⟨.refl _, fun p _ => .refl _ p, .inl rfl⟩, rfl⟩

/-- The instance is made after the bundle, and leaves it as it is. -/
theorem newVirtualMachine_respects : Respects (World.KeepsBundle stateFiles) (newVirtualMachine vz) := by
  have hset : ∀ f : VM → Option Machine,
      Respects (World.KeepsBundle stateFiles) (modifyVM fun vm => { vm with vzvm := f vm }) :=
    fun _ _ => ⟨⟨.refl _, fun p _ => .refl _ p, .inl rfl⟩, rfl⟩
  refine (Respects.keepsBundle_call vz _).attempt.bind fun r => ?_
  · rcases r with e | ⟨⟩
    · exact (hset fun _ => none).bind fun _ => Respects.throw _
    · exact hset _

/-- The steps of `Start` after the bundle keep it. -/
theorem start_tail_respects : Respects (World.KeepsBundle stateFiles) (do
    prepare vz
    newVirtualMachine vz
    call vz .start) :=
  ((prepare_respects vz).imp fun _ _ h => h.toKeepsBundle).bind fun _ =>
    (newVirtualMachine_respects vz).bind fun _ =>
      (Respects.prepares_call vz (by simp)).imp fun _ _ h => h.toKeepsBundle

/-- **Every run of `Start` evolves the world.** The host only grows, and of the bundle's
files only `cpu`, `mem` and `id` are rewritten once they exist. -/
theorem start_respects : Respects (World.Evolves stateFiles) (start vz) :=
  assignFiles_respects.bind fun _ => (start_tail_respects vz).imp fun _ _ h => h.toEvolves

end Frames

/-! ### What a failed `Start` returns -/

/-- The descriptions `Start` puts before the error of a step. -/
def startSteps : List String :=
  ["create directory for virtual machine data", "create boot loader",
    "create virtual machine configuration", "attach console", "attach disks", "attach network",
    "attach entropy", "attach shared directories", "configure linux platform",
    "invalid configuration", "create virtual machine"]

/-- An error `Start` can return: the failing step's description before the step's error, the
engine's verdict `invalid configuration`, or the instance's own `Start` error, as it is. -/
def StartError (vz : Vz) (e : Error) : Prop :=
  (∃ pre ∈ startSteps, ∃ m, e = .text (pre ++ ": " ++ m)) ∨ e = .text "invalid configuration" ∨
    ∃ m, vz.fails .start = some m ∧ e = .text m

section Errors

variable (vz : Vz)

theorem Go.Throws.startStep {α : Type} {pre : String} (h : pre ∈ startSteps) (x : Go α) :
    Throws (StartError vz) (Go.wrap pre x) :=
  (Throws.wrap pre x).mono fun _ ⟨m, he⟩ => .inl ⟨pre, h, m, he⟩

theorem StartError.wrap {pre : String} (h : pre ∈ startSteps) (e : Error) : StartError vz (e.wrap pre) :=
  .inl ⟨pre, h, e.msg, rfl⟩

theorem assignFiles_throws : Throws (StartError vz) assignFiles :=
  Throws.getVM.bind fun _ => (Throws.attempt _).bind fun r => by
    rcases r with e | _
    · exact (Throws.modifyVM _).bind fun _ => Throws.throw (StartError.wrap vz (by decide) e)
    · exact Throws.modifyVM _

theorem newConfiguration_throws (loader : BootLoader) :
    Throws (StartError vz) (newConfiguration vz loader) :=
  Throws.getVM.bind fun _ => (Throws.attempt _).bind fun r => by
    rcases r with e | ⟨⟩
    · exact (Throws.modifyVM _).bind fun _ => Throws.throw (StartError.wrap vz (by decide) e)
    · exact Throws.modifyVM _

theorem configuration_throws : Throws (StartError vz) (configuration vz) :=
  (Throws.modifyVM _).bind fun _ => (initLogger_throws.mono fun _ => False.elim).bind fun _ =>
    ((configure_throws _ _ _ _ _).mono fun _ => False.elim).bind fun _ =>
      ((configure_throws _ _ _ _ _).mono fun _ => False.elim).bind fun _ =>
        (Throws.startStep vz (by decide) _).bind (newConfiguration_throws vz)

theorem attachDevices_throws : Throws (StartError vz) (attachDevices vz) :=
  (Throws.startStep vz (by decide) _).bind fun _ => (Throws.startStep vz (by decide) _).bind fun _ =>
    (Throws.startStep vz (by decide) _).bind fun _ => (Throws.startStep vz (by decide) _).bind fun _ =>
      (Throws.startStep vz (by decide) _).bind fun _ => Throws.startStep vz (by decide) _

theorem validate_throws : Throws (StartError vz) (validate vz) :=
  (Throws.startStep vz (by decide) _).bind fun _ => Throws.ite (Throws.throw (.inr (.inl rfl))) (Throws.pure _)

theorem newVirtualMachine_throws : Throws (StartError vz) (newVirtualMachine vz) :=
  (Throws.attempt _).bind fun r => by
    rcases r with e | ⟨⟩
    · exact (Throws.modifyVM _).bind fun _ => Throws.throw (StartError.wrap vz (by decide) e)
    · exact Throws.modifyVM _

end Errors

/-! ### The bundle of a temporary VM -/

/-- For a temporary VM, `Start` makes the bundle in one new directory, and `initLogger`'s
`dataFilePath("log")` sets `HostDataDir` to another: the bundle and `HostDataDir` differ
after the run, whatever its outcome. -/
theorem temporary_bundle_split (vz : Vz) {w : World} {A : String} {h : Host}
    (hd : w.vm.hostDataDir = "") (ht : w.host.mkdirTemp = .ok (A, h)) :
    (start vz w).2.vm.files = bundle A true ∧ (start vz w).2.vm.hostDataDir ≠ A := by
  obtain ⟨-, ⟨n, rfl⟩, hA⟩ := Host.mkdirTemp_spec ht
  set w₁ : World := ⟨{ w.vm with files := bundle A true }, { w.host.setNode ⟨A, []⟩ .dir with drawn := n }, w.calls⟩
  have e : assignFiles w = (.ok (), w₁) := by
    simp [assignFiles, fileBundle, hd, ht, Go.wrap, Go.mapError, w₁]
  have k := Respects.after_bind (x := assignFiles) (fun _ => start_tail_respects vz) w
  rw [e] at k
  unfold start
  refine ⟨k.files, fun hA' => ?_⟩
  rcases k.hostDataDir with h₁ | ⟨-, -, h₁⟩
  · exact hA (hA'.symm.trans (h₁.trans hd))
  · rw [hA'] at h₁
    simp [w₁] at h₁

theorem temporary_bundle_split_empty :
    ({} : VM).hostDataDir = "" ∧
      Host.empty.mkdirTemp = .ok ("/tmp/devboxvm-0", { Host.empty with drawn := 1 }.setNode ⟨"/tmp/devboxvm-0", []⟩ .dir) ∧
      (start (Vz.ok 1 8 (2 ^ 28) (2 ^ 33)) ⟨{}, Host.empty, []⟩).2.vm.files = bundle "/tmp/devboxvm-0" true ∧
      (start (Vz.ok 1 8 (2 ^ 28) (2 ^ 33)) ⟨{}, Host.empty, []⟩).2.vm.hostDataDir ≠ "/tmp/devboxvm-0" := by
  have hj : Host.joinPath "/tmp" "devboxvm-" ++ toString 0 = "/tmp/devboxvm-0" := by decide
  have ht : Host.empty.mkdirTemp = .ok ("/tmp/devboxvm-0",
      { Host.empty with drawn := 1 }.setNode ⟨"/tmp/devboxvm-0", []⟩ .dir) := by
    simp [Host.mkdirTemp, Host.mkdirTempLoop, Host.empty, hj]
  exact ⟨rfl, ht, temporary_bundle_split (Vz.ok 1 8 (2 ^ 28) (2 ^ 33)) (w := ⟨{}, Host.empty, []⟩) rfl ht⟩

/-! ### The root disk over `Start`s -/

/-- `Start`s in a row on one VM value, each with its engine and with `DiskSize` set first. -/
def starts : List (Vz × Int) → World → World
  | [], w => w
  | (vz, d) :: runs, w => starts runs (start vz { w with vm := { w.vm with diskSize := d } }).2

theorem starts_evolves : ∀ (runs : List (Vz × Int)) (w : World), w.Evolves stateFiles (starts runs w)
  | [], w => .refl _ w
  | (vz, d) :: runs, w =>
    (Respects.evolves_modifyVM (f := fun vm => { vm with diskSize := d }) (fun _ => rfl) w).trans
      ((start_respects vz _).trans (starts_evolves runs _))

/-- **An image, once it exists, never changes; a new one gets the requested size, and stays
empty when `Truncate` rejects a negative size.** Over `Start`s in a row, whatever their
engines, `DiskSize`s and outcomes, an existing `disk.img` stays as it is and the VM keeps its
data directory; `rootDisk` creates a missing image with `DiskSize` bytes (`DefaultDisk` for
0), or, for a negative `DiskSize`, fails and leaves it empty. -/
theorem disk_image_fixed (runs : List (Vz × Int)) (w : World) :
    (∀ n, w.host.fs ⟨w.vm.hostDataDir, ["disk.img"]⟩ = some n →
      (starts runs w).host.fs ⟨w.vm.hostDataDir, ["disk.img"]⟩ = some n) ∧
    (w.vm.hostDataDir ≠ "" → (starts runs w).vm.hostDataDir = w.vm.hostDataDir) ∧
    ∀ vz, w.vm.hostDataDir ≠ "" → w.host.DirOrFree ⟨w.vm.hostDataDir, []⟩ →
      w.host.fs ⟨w.vm.hostDataDir, ["disk.img"]⟩ = none →
      (rootDisk vz w).2.host.fs ⟨w.vm.hostDataDir, ["disk.img"]⟩ = some (.file
          (if 0 ≤ requestedDiskSize w.vm then Host.resize [] (requestedDiskSize w.vm).toNat else [])) ∧
        (requestedDiskSize w.vm < 0 →
          ∃ m, (rootDisk vz w).1 = .error (.text ("truncate new root disk image: " ++ m))) := by
  have k := starts_evolves runs w
  refine ⟨fun n hn => ?_, fun hd => ?_, fun vz hd hr hn => rootDisk_fresh vz hd hr hn⟩
  · rw [k.keeps ⟨w.vm.hostDataDir, ["disk.img"]⟩ (by simp [stateFiles]) (by simp [hn]), hn]
  · rcases k.hostDataDir with h | ⟨h, -⟩
    · exact h
    · exact absurd h hd

theorem disk_image_fixed_fresh :
    (∀ n, (Host.empty.setNode ⟨"d", []⟩ .dir).fs ⟨"d", ["disk.img"]⟩ = some n →
      (starts [] ⟨{ hostDataDir := "d" }, Host.empty.setNode ⟨"d", []⟩ .dir, []⟩).host.fs
        ⟨"d", ["disk.img"]⟩ = some n) ∧
    ("d" ≠ "" → (starts [] ⟨{ hostDataDir := "d" }, Host.empty.setNode ⟨"d", []⟩ .dir, []⟩).vm.hostDataDir = "d") ∧
    ∀ vz, "d" ≠ "" → (Host.empty.setNode ⟨"d", []⟩ .dir).DirOrFree ⟨"d", []⟩ →
      (Host.empty.setNode ⟨"d", []⟩ .dir).fs ⟨"d", ["disk.img"]⟩ = none →
      (rootDisk vz ⟨{ hostDataDir := "d" }, Host.empty.setNode ⟨"d", []⟩ .dir, []⟩).2.host.fs ⟨"d", ["disk.img"]⟩ =
          some (.file (if 0 ≤ requestedDiskSize { hostDataDir := "d" } then
            Host.resize [] (requestedDiskSize { hostDataDir := "d" }).toNat else [])) ∧
        (requestedDiskSize { hostDataDir := "d" } < 0 → ∃ m,
          (rootDisk vz ⟨{ hostDataDir := "d" }, Host.empty.setNode ⟨"d", []⟩ .dir, []⟩).1 =
            .error (.text ("truncate new root disk image: " ++ m))) :=
  disk_image_fixed [] ⟨{ hostDataDir := "d" }, Host.empty.setNode ⟨"d", []⟩ .dir, []⟩

theorem starts_append (runs runs' : List (Vz × Int)) (w : World) :
    starts (runs ++ runs') w = starts runs' (starts runs w) := by
  induction runs generalizing w with
  | nil => rfl
  | cons r runs ih => exact ih _

/-- Two `Start`s on a new directory: the first, with `DiskSize` -1, fails and leaves an
empty image; the second, with `DiskSize` 0, opens it as it is (its `rootDisk` returns nil),
and it stays empty. -/
theorem negative_disk_size_leaves_empty_image :
    let vz := Vz.ok 1 8 (2 ^ 28) (2 ^ 33)
    let w : World := ⟨{ hostDataDir := "d", install := true }, Host.empty.setNode ⟨"d", []⟩ .dir, []⟩
    let w₁ := starts [(vz, -1)] w
    (start vz { w with vm := { w.vm with diskSize := -1 } }).1.isOk = false ∧
      w₁.host.fs ⟨"d", ["disk.img"]⟩ = some (.file []) ∧
      (rootDisk vz { w₁ with vm := { w₁.vm with diskSize := 0 } }).1.isOk = true ∧
      (starts [(vz, -1), (vz, 0)] w).host.fs ⟨"d", ["disk.img"]⟩ = some (.file []) := by
  intro vz w w₁
  have h₁ : w₁.host.fs ⟨"d", ["disk.img"]⟩ = some (.file []) := by decide
  refine ⟨by decide, h₁, by decide, ?_⟩
  rw [show [(vz, -1), (vz, 0)] = [(vz, -1)] ++ [(vz, 0)] from rfl, starts_append,
    show starts [(vz, -1)] w = w₁ from rfl]
  clear_value w₁
  exact ((starts_evolves [(vz, 0)] w₁).keeps _ (by simp [stateFiles]) (by simp [h₁])).trans h₁

/-! ### The engine instance -/

/-- `vm.vzvm` is set exactly when the last `NewVirtualMachine` call succeeded. -/
def World.InstanceInv (w : World) : Prop :=
  w.vm.vzvm ≠ none ↔ lastOutcome .newVirtualMachine w.calls = some none

theorem World.KeepsInstance.preserves {w w' : World} (h : w.KeepsInstance w') :
    Preserves World.InstanceInv w w' := by
  intro hi; rw [World.InstanceInv, h.vzvm, h.instanceCall]; exact hi

section Instance

variable (vz : Vz)

theorem newConfiguration_ensures (loader : BootLoader) :
    Ensures (fun w => w.vm.config.isSome) (newConfiguration vz loader) := by
  intro w _ w' e
  simp only [newConfiguration, bind_apply, getVM_apply, attempt_apply, Go.call] at e
  cases h : vz.fails (.newVirtualMachineConfiguration (uint64OfInt w.vm.cpus) (uint64OfInt w.vm.memory)) <;>
    simp [h] at e
  rw [← e]; rfl

theorem configuration_ensures : Ensures (fun w => w.vm.config.isSome) (configuration vz) :=
  Ensures.bind fun _ => Ensures.bind fun _ => Ensures.bind fun _ => Ensures.bind fun _ =>
    Ensures.bind (newConfiguration_ensures vz)

theorem validate_onlyCalls : Respects World.OnlyCalls (validate vz) :=
  ((Respects.onlyCalls_call vz _).wrap _).bind fun _ => Respects.ite (Respects.throw _) (Respects.pure _)

/-- A `Start` that reaches `NewVirtualMachine` has a configuration. -/
theorem prepare_ensures : Ensures (fun w => w.vm.config.isSome) (prepare vz) := by
  intro w _ w' e
  obtain ⟨_, w₁, e₁, k₁⟩ := bind_eq_ok.1 e
  obtain ⟨_, w₂, e₂, k₂⟩ := bind_eq_ok.1 k₁
  have h₂ := attachDevices_respects vz w₁
  have h₃ := validate_onlyCalls vz w₂
  rw [e₂] at h₂
  rw [k₂] at h₃
  show w'.vm.config.isSome
  rw [h₃.vm, h₂.config]
  exact configuration_ensures vz w _ w₁ e₁

theorem newVirtualMachine_instanceInv {w : World} (hc : w.vm.config.isSome) :
    (newVirtualMachine vz w).2.InstanceInv := by
  simp only [newVirtualMachine, bind_apply, attempt_apply, Go.call]
  cases h : vz.fails .newVirtualMachine <;>
    simp [World.InstanceInv, h, Option.isSome_iff_ne_none.1 hc]

/-- **`Start` keeps the instance invariant**, whatever the engine does: the steps before
`NewVirtualMachine` touch neither `vm.vzvm` nor the call, and that call sets both. -/
theorem start_instanceInv : Respects (Preserves World.InstanceInv) (start vz) :=
  (assignFiles_keepsInstance.imp fun _ _ h => h.preserves).bind fun _ =>
    ((prepare_respects vz).imp fun _ _ h => h.toKeepsInstance.preserves).bind_ensures (prepare_ensures vz)
      fun _ w hc _ => Respects.after_bind (fun _ => (Respects.prepares_call vz (by simp)).imp
        fun _ _ h => h.toKeepsInstance.preserves) w (newVirtualMachine_instanceInv vz hc)

end Instance

end Jetpack
