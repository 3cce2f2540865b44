import Jetpack.Go.Fmt
import Mathlib.Order.Defs.Unbundled

/-!
# The VM, its engine, and the `Go` monad

A method on `*VM` reads and changes the VM and the host, and asks the virtualization engine
(`vz`) for devices. `Go α` is such a method returning an `α` or an error; as in Go, what it
changed before an error stays changed. The engine is a `Vz`: the host's bounds on CPUs and
memory and the outcome of every call. The world logs each engine call with its outcome.

* `Go.Respects R x`: every run of `x` moves the world along the preorder `R`;
  `Respects.bind`, `Respects.wrap`, ... assemble it for a method from its steps.
* `Go.Throws P x`: every error `x` returns satisfies `P`; `Throws.wrap` says the error of
  `wrap pre x` starts with `pre`.
* `World.Evolves`: the preorder every step of `Start` and `Stop` follows: the host only
  grows, no file outside `cpu`, `mem` and `id` changes once it exists, and `HostDataDir` is
  set at most once, to a directory that did not exist.
* `World.Configures`: the steps `Start` calls moreover keep the bundle, the engine instance
  and the presence of a configuration, and make configuration calls only.
-/

namespace Jetpack

/-- `SharedDirectory`. -/
structure SharedDirectory where
  path : String
  readOnly : Bool
  deriving DecidableEq, Repr

/-- `dataDirectory`: the bundle root and the paths under it. -/
structure DataDirectory where
  path : String := ""
  isTemp : Bool := false
  init : Path := ⟨"", []⟩
  initrd : Path := ⟨"", []⟩
  kernel : Path := ⟨"", []⟩
  bootstrap : Path := ⟨"", []⟩
  image : Path := ⟨"", []⟩
  cpu : Path := ⟨"", []⟩
  memory : Path := ⟨"", []⟩
  id : Path := ⟨"", []⟩
  log : Path := ⟨"", []⟩
  deriving DecidableEq, Repr

/-- The boot loader of a configuration: a kernel, or the firmware with its variable store. -/
inductive BootLoader
  | linux (kernel initrd : Path) (commandLine : String)
  | efi (variableStore : Path)
  deriving DecidableEq, Repr

/-- `*vz.VirtioFileSystemDeviceConfiguration`: a shared directory under a tag. -/
structure DirectoryShare where
  path : String
  readOnly : Bool
  tag : String
  deriving DecidableEq, Repr

/-- A storage device of a configuration. -/
inductive StorageDevice
  | diskImage (path : Path) (readOnly : Bool)
  | installer
  deriving DecidableEq, Repr

/-- `*vz.VirtualMachineConfiguration`: the boot loader, the sizes, and the devices each
`Set...VirtualMachineConfiguration` call installs (console, network and entropy devices by
number). -/
structure Config where
  bootLoader : BootLoader
  cpus : Nat
  memory : Nat
  serialPorts : Nat := 0
  storageDevices : List StorageDevice := []
  networkDevices : Nat := 0
  entropyDevices : Nat := 0
  directorySharingDevices : List DirectoryShare := []
  platform : Option (List UInt8) := none
  deriving DecidableEq, Repr

/-- `*vz.VirtualMachine`, made from a configuration. -/
structure Machine where
  config : Config
  deriving DecidableEq, Repr

/-- Where `vm.Logger` writes: the bundle's log file, or `slog.Default()`. -/
inductive Logger
  | file (p : Path)
  | default
  deriving DecidableEq, Repr

/-- `VM`. The zero value is a temporary VM. -/
structure VM where
  id : List UInt8 := []
  cpus : Int := 0
  memory : Int := 0
  diskSize : Int := 0
  os : String := ""
  arch : String := ""
  install : Bool := false
  sharedDirectories : List SharedDirectory := []
  hostDataDir : String := ""
  logger : Option Logger := none
  vzvm : Option Machine := none
  config : Option Config := none
  files : DataDirectory := {}
  deriving DecidableEq, Repr

/-- The engine calls the VM makes, with the arguments that vary. -/
inductive VzCall
  | newLinuxBootLoader (kernel initrd : Path) (commandLine : String)
  | newVirtualMachineConfiguration (cpus memory : Nat)
  | newFileHandleSerialPortAttachment
  | newVirtioConsoleDeviceSerialPortConfiguration
  | newDiskImageStorageDeviceAttachment (path : Path) (readOnly : Bool)
  | newVirtioBlockDeviceConfiguration
  | newNATNetworkDeviceAttachment
  | newVirtioNetworkDeviceConfiguration
  | newRandomLocallyAdministeredMACAddress
  | newVirtioEntropyDeviceConfiguration
  | newSharedDirectory (path : String) (readOnly : Bool)
  | newSingleDirectoryShare (path : String)
  | newVirtioFileSystemDeviceConfiguration (tag : String)
  | newGenericMachineIdentifier
  | newGenericMachineIdentifierWithData (data : List UInt8)
  | newGenericPlatformConfiguration
  | newEFIVariableStore (path : Path) (create : Bool)
  | newEFIBootLoader
  | validate
  | newVirtualMachine
  | start
  | requestStop
  | stop
  deriving DecidableEq, Repr

/-- The calls of `Start`'s configuration steps, as against `Validate`, `NewVirtualMachine`,
the instance's `Start`, and the calls of `Stop`. -/
def VzCall.configures : VzCall → Bool
  | .validate | .newVirtualMachine | .start | .requestStop | .stop => false
  | _ => true

/-- The engine, as one `Start` meets it: the host's bounds, the error (if any) of each call,
the data of a new machine identifier, and `Validate`'s verdict. `installerDisk` and
`generateBootstrapScript` are not in the sources; their outcomes are given here. -/
structure Vz where
  minCPU : Nat
  maxCPU : Nat
  minMemory : Nat
  maxMemory : Nat
  fails : VzCall → Option String
  identifier : List UInt8
  valid : Bool
  installerDisk : Option Error
  bootstrapScript : Except Error String

/-- The conditions on the engine's bounds under which `int(...)` keeps them. -/
structure Vz.BoundsOK (vz : Vz) : Prop where
  cpu : vz.minCPU ≤ vz.maxCPU
  cpu_lt : vz.maxCPU < 2 ^ 63
  memory : vz.minMemory ≤ vz.maxMemory
  memory_lt : vz.maxMemory < 2 ^ 63

/-- An engine with the given bounds on which every call succeeds. -/
def Vz.ok (minCPU maxCPU minMemory maxMemory : Nat) : Vz where
  minCPU := minCPU
  maxCPU := maxCPU
  minMemory := minMemory
  maxMemory := maxMemory
  fails _ := none
  identifier := [7, 1, 3]
  valid := true
  installerDisk := none
  bootstrapScript := .ok "/nix/store/bootstrap"

/-- A host with an empty file system, `/tmp` as its temporary directory, and a terminal
on standard input. -/
def Host.empty : Host where
  fs _ := none
  tempDir := "/tmp"
  rand := id
  drawn := 0
  stdin := some ⟨true, true, true, 0, 1⟩

/-- The VM, the host, and the engine calls made so far with their errors. -/
structure World where
  vm : VM
  host : Host
  calls : List (VzCall × Option String)

/-- A method on `*VM`. -/
def Go (α : Type) : Type := World → Except Error α × World

namespace Go

variable {α β : Type}

/-- `return a`. -/
protected def pure (a : α) : Go α := fun w => (.ok a, w)

/-- Run `x`, then `f` on its result; an error skips `f`. -/
protected def bind (x : Go α) (f : α → Go β) : Go β := fun w =>
  match x w with
  | (.ok a, w') => f a w'
  | (.error e, w') => (.error e, w')

instance : Monad Go where
  pure := Go.pure
  bind := Go.bind

instance : MonadExceptOf Error Go where
  throw e := fun w => (.error e, w)
  tryCatch x h := fun w =>
    match x w with
    | (.ok a, w') => (.ok a, w')
    | (.error e, w') => h e w'

@[simp] theorem pure_apply (a : α) (w : World) : (pure a : Go α) w = (.ok a, w) := rfl

@[simp] theorem bind_apply (x : Go α) (f : α → Go β) (w : World) :
    (x >>= f) w = match x w with
      | (.ok a, w') => f a w'
      | (.error e, w') => (.error e, w') := rfl

@[simp] theorem throw_apply (e : Error) (w : World) : (throw e : Go α) w = (.error e, w) := rfl

theorem bind_bind {γ : Type} (x : Go α) (f : α → Go β) (g : β → Go γ) :
    (x >>= f) >>= g = x >>= fun a => f a >>= g := by
  funext w
  simp only [bind_apply]
  rcases x w with ⟨_ | a, w'⟩ <;> rfl

/-- The VM. -/
def getVM : Go VM := fun w => (.ok w.vm, w)

/-- Change the VM. -/
def modifyVM (f : VM → VM) : Go Unit := fun w => (.ok (), { w with vm := f w.vm })

/-- Run an operation on the host. -/
def host (op : Host → Except Error (α × Host)) : Go α := fun w =>
  match op w.host with
  | .ok (a, h) => (.ok a, { w with host := h })
  | .error e => (.error e, w)

/-- Run an operation on the host that returns nothing. -/
def hostDo (op : Host → Except Error Host) : Go Unit := host fun h => (op h).map ((), ·)

/-- Call the engine: log the call, and fail with its error. -/
def call (vz : Vz) (c : VzCall) : Go Unit := fun w =>
  let w := { w with calls := w.calls ++ [(c, vz.fails c)] }
  match vz.fails c with
  | some m => (.error (.text m), w)
  | none => (.ok (), w)

/-- Run `x` and catch its error: `v, err := x()`. -/
def attempt (x : Go α) : Go (Except Error α) := fun w =>
  let r := x w
  (.ok r.1, r.2)

/-- `x`, its error changed by `f`. -/
def mapError (f : Error → Error) (x : Go α) : Go α := fun w =>
  match x w with
  | (.error e, w') => (.error (f e), w')
  | r => r

/-- `if err != nil { return fmt.Errorf(pre + ": %v", err) }` around `x`. -/
def wrap (pre : String) (x : Go α) : Go α := mapError (·.wrap pre) x

@[simp] theorem getVM_apply (w : World) : getVM w = (.ok w.vm, w) := rfl
@[simp] theorem modifyVM_apply (f : VM → VM) (w : World) :
    modifyVM f w = (.ok (), { w with vm := f w.vm }) := rfl
@[simp] theorem host_apply (op : Host → Except Error (α × Host)) (w : World) :
    host op w = match op w.host with
      | .ok (a, h) => (.ok a, { w with host := h })
      | .error e => (.error e, w) := rfl
@[simp] theorem attempt_apply (x : Go α) (w : World) : attempt x w = (.ok (x w).1, (x w).2) := rfl
@[simp] theorem mapError_snd (f : Error → Error) (x : Go α) (w : World) :
    (mapError f x w).2 = (x w).2 := by
  simp only [mapError]; split <;> simp_all
@[simp] theorem wrap_snd (pre : String) (x : Go α) (w : World) : (wrap pre x w).2 = (x w).2 :=
  mapError_snd _ x w
@[simp] theorem discard_attempt_apply (x : Go α) (w : World) :
    discard (attempt x) w = (.ok (), (x w).2) := rfl
theorem getVM_bind (f : VM → Go β) (w : World) : (getVM >>= f) w = f w.vm w := rfl
theorem modifyVM_bind (g : VM → VM) (f : Unit → Go β) (w : World) :
    (modifyVM g >>= f) w = f () { w with vm := g w.vm } := rfl

/-! ### Frames -/

/-- Every run of `x` moves the world along `R`. -/
def Respects (R : World → World → Prop) (x : Go α) : Prop := ∀ w, R w (x w).2

section Respects

variable {R : World → World → Prop}

theorem Respects.pure [IsRefl World R] (a : α) : Respects R (pure a : Go α) := fun w => refl_of R w

theorem Respects.throw [IsRefl World R] (e : Error) : Respects R (throw e : Go α) :=
  fun w => refl_of R w

theorem Respects.getVM [IsRefl World R] : Respects R Go.getVM := fun w => refl_of R w

theorem Respects.bind [IsTrans World R] {x : Go α} {f : α → Go β} (hx : Respects R x)
    (hf : ∀ a, Respects R (f a)) : Respects R (x >>= f) := by
  intro w
  have h := hx w
  simp only [bind_apply]
  split
  · rename_i a w' e; rw [e] at h; exact trans_of R h (hf a w')
  · rename_i w' e; rw [e] at h; exact h

/-- Whatever `x` does, the rest of `x >>= f` moves the world along `R`. -/
theorem Respects.after_bind [IsRefl World R] {x : Go α} {f : α → Go β} (hf : ∀ a, Respects R (f a))
    (w : World) : R (x w).2 ((x >>= f) w).2 := by
  simp only [bind_apply]
  split
  · rename_i a w' e; rw [e]; exact hf a w'
  · rename_i w' e; rw [e]; exact refl_of R w'

/-- A run of `x >>= f` that succeeds is a run of `x` that succeeds, then one of `f`. -/
theorem bind_eq_ok {x : Go α} {f : α → Go β} {w w'' : World} {b : β} :
    (x >>= f) w = (.ok b, w'') ↔ ∃ a w', x w = (.ok a, w') ∧ f a w' = (.ok b, w'') := by
  simp only [bind_apply]
  constructor
  · intro h; split at h
    · exact ⟨_, _, ‹_›, h⟩
    · cases h
  · rintro ⟨a, w', e, h⟩; rw [e]; exact h

theorem mapError_eq_ok {f : Error → Error} {x : Go α} {w w' : World} {a : α} :
    mapError f x w = (.ok a, w') ↔ x w = (.ok a, w') := by
  simp only [mapError]; split <;> simp_all

theorem wrap_eq_ok {pre : String} {x : Go α} {w w' : World} {a : α} :
    wrap pre x w = (.ok a, w') ↔ x w = (.ok a, w') := mapError_eq_ok

theorem attempt_eq_ok {x : Go α} {w w' : World} {r : Except Error α} :
    attempt x w = (.ok r, w') ↔ x w = (r, w') := by
  simp [Prod.ext_iff]

/-- `bind_eq_ok`, with what `x` does to the world. -/
theorem Respects.bind_ok {x : Go α} {f : α → Go β} (hx : Respects R x) {w w'' : World} {b : β}
    (e : (x >>= f) w = (.ok b, w'')) : ∃ a w', x w = (.ok a, w') ∧ R w w' ∧ f a w' = (.ok b, w'') := by
  obtain ⟨a, w', e₁, e₂⟩ := bind_eq_ok.1 e
  have h := hx w
  rw [e₁] at h
  exact ⟨a, w', e₁, h, e₂⟩

/-- Every value `x` returns satisfies `P`. -/
def Returns (P : α → Prop) (x : Go α) : Prop := ∀ w a, (x w).1 = .ok a → P a

theorem Returns.attempt {P : α → Prop} {x : Go α} (h : Returns P x) :
    Returns (fun r => ∀ a, r = .ok a → P a) (Go.attempt x) := fun w _ e a ha =>
  h w a (by rw [attempt_apply] at e; cases e; exact ha)

/-- `Respects.bind`, where the rest of the method needs what `x` returns. -/
theorem Respects.bind_of [IsTrans World R] {P : α → Prop} {x : Go α} {f : α → Go β}
    (hx : Respects R x) (hP : Returns P x) (hf : ∀ a, P a → Respects R (f a)) :
    Respects R (x >>= f) := by
  intro w
  have h := hx w
  simp only [bind_apply]
  split
  · rename_i a w' e; rw [e] at h; exact trans_of R h (hf a (hP w a (by rw [e])) w')
  · rename_i w' e; rw [e] at h; exact h

/-- Every run of `x` that succeeds ends in a world where `P` holds. -/
def Ensures (P : World → Prop) (x : Go α) : Prop := ∀ w a w', x w = (.ok a, w') → P w'

theorem Ensures.bind {P : World → Prop} {x : Go α} {f : α → Go β} (hf : ∀ a, Ensures P (f a)) :
    Ensures P (x >>= f) := fun _ _ _ e => by
  obtain ⟨a, w', -, e'⟩ := bind_eq_ok.1 e
  exact hf a w' _ _ e'

theorem Ensures.wrap {P : World → Prop} {x : Go α} (pre : String) (h : Ensures P x) : Ensures P (Go.wrap pre x) :=
  fun w a w' e => h w a w' (wrap_eq_ok.1 e)

/-- `P w → P w'`: the preorder of the worlds along which `P` is kept. -/
def Preserves (P : World → Prop) (w w' : World) : Prop := P w → P w'

instance {P : World → Prop} : IsRefl World (Preserves P) := ⟨fun _ => id⟩
instance {P : World → Prop} : IsTrans World (Preserves P) := ⟨fun _ _ _ a b => b ∘ a⟩

/-- `Respects.bind`, where the rest of the method needs what a successful `x` ensures. -/
theorem Respects.bind_ensures [IsTrans World R] {P : World → Prop} {x : Go α} {f : α → Go β}
    (hx : Respects R x) (hP : Ensures P x) (hf : ∀ a w, P w → R w (f a w).2) : Respects R (x >>= f) := by
  intro w
  have h := hx w
  simp only [bind_apply]
  split
  · rename_i a w' e; rw [e] at h; exact trans_of R h (hf a w' (hP w a w' e))
  · rename_i w' e; rw [e] at h; exact h

/-- `Respects.bind`, where the rest of the method needs what a successful `x` returns and the
world it leaves. -/
theorem Respects.bind_post [IsTrans World R] {Q : α → World → Prop} {x : Go α} {f : α → Go β}
    (hx : Respects R x) (hQ : ∀ w a w', x w = (.ok a, w') → Q a w') (hf : ∀ a w, Q a w → R w (f a w).2) :
    Respects R (x >>= f) := by
  intro w
  have h := hx w
  simp only [bind_apply]
  split
  · rename_i a w' e; rw [e] at h; exact trans_of R h (hf a w' (hQ w a w' e))
  · rename_i w' e; rw [e] at h; exact h

/-- What `x` ensures, the rest of `x >>= f` keeps. -/
theorem Ensures.bind_left {P : World → Prop} {x : Go α} {f : α → Go β} (hx : Ensures P x)
    (hf : ∀ a, Respects (Preserves P) (f a)) : Ensures P (x >>= f) := fun w _ _ e => by
  obtain ⟨a, w', e₁, e₂⟩ := bind_eq_ok.1 e
  have h := hf a w' (hx w a w' e₁)
  rwa [e₂] at h

theorem Respects.imp {R' : World → World → Prop} (h : ∀ w w', R w w' → R' w w') {x : Go α}
    (hx : Respects R x) : Respects R' x := fun w => h _ _ (hx w)

theorem Respects.ite {c : Prop} [Decidable c] {x y : Go α} (hx : Respects R x) (hy : Respects R y) :
    Respects R (if c then x else y) := by
  split <;> assumption

theorem Respects.attempt {x : Go α} (hx : Respects R x) : Respects R (Go.attempt x) := hx

theorem Respects.discard_attempt {x : Go α} (hx : Respects R x) : Respects R (discard (Go.attempt x)) :=
  fun w => by simpa only [discard_attempt_apply] using hx w

theorem Respects.mapError {x : Go α} (f : Error → Error) (hx : Respects R x) :
    Respects R (Go.mapError f x) := by
  intro w; have h := hx w; simp only [Go.mapError]; split <;> simp_all

theorem Respects.wrap {x : Go α} (pre : String) (hx : Respects R x) : Respects R (Go.wrap pre x) :=
  hx.mapError _

/-- A host operation that keeps `P`, from where `P` holds. -/
theorem Respects.preserves_hostDo {P : World → Prop} {op : Host → Except Error Host}
    (hop : ∀ w h, op w.host = .ok h → P w → P { w with host := h }) : Respects (Preserves P) (hostDo op) := by
  intro w hw
  simp only [hostDo, host_apply]
  cases e : op w.host with
  | error => exact hw
  | ok h => exact hop w h e hw

end Respects

/-! ### Errors -/

/-- Every error `x` returns satisfies `P`. -/
def Throws (P : Error → Prop) (x : Go α) : Prop := ∀ w e, (x w).1 = .error e → P e

section Throws

variable {P Q : Error → Prop}

theorem Throws.pure (a : α) : Throws P (pure a : Go α) := fun _ _ h => nomatch h

theorem Throws.throw {e : Error} (h : P e) : Throws P (throw e : Go α) := fun _ _ h' => by
  cases h'; exact h

theorem Throws.getVM : Throws P Go.getVM := fun _ _ h => nomatch h

theorem Throws.modifyVM (f : VM → VM) : Throws P (Go.modifyVM f) := fun _ _ h => nomatch h

theorem Throws.attempt (x : Go α) : Throws P (Go.attempt x) := fun _ _ h => nomatch h

theorem Throws.discard_attempt (x : Go α) : Throws P (discard (Go.attempt x)) := fun w _ h => by
  rw [discard_attempt_apply] at h; cases h

theorem Throws.bind {x : Go α} {f : α → Go β} (hx : Throws P x) (hf : ∀ a, Throws P (f a)) :
    Throws P (x >>= f) := by
  intro w e h
  simp only [bind_apply] at h
  split at h
  · exact hf _ _ _ h
  · rename_i hxw; cases h; exact hx w e (by rw [hxw])

theorem Throws.mono (h : ∀ e, P e → Q e) {x : Go α} (hx : Throws P x) : Throws Q x :=
  fun w e he => h e (hx w e he)

theorem Throws.ite {c : Prop} [Decidable c] {x y : Go α} (hx : Throws P x) (hy : Throws P y) :
    Throws P (if c then x else y) := by
  split <;> assumption

/-- `wrap pre x` fails only with `pre` and the error of `x`. -/
theorem Throws.wrap (pre : String) (x : Go α) :
    Throws (fun e => ∃ m, e = .text (pre ++ ": " ++ m)) (Go.wrap pre x) := by
  intro w e h
  simp only [Go.wrap, Go.mapError] at h
  split at h
  · cases h; exact ⟨_, rfl⟩
  · rename_i hne
    exact (hne e _ (Prod.ext h rfl)).elim

/-- A call fails only with the error the engine gives it. -/
theorem Throws.call (vz : Vz) (c : VzCall) :
    Throws (fun e => ∃ m, vz.fails c = some m ∧ e = .text m) (Go.call vz c) := by
  intro w e h
  simp only [Go.call] at h
  split at h
  · rename_i m hm; cases h; exact ⟨m, hm, rfl⟩
  · cases h

end Throws

/-! ### Runs that return -/

/-- From every world where `P` holds, `x` returns (it throws no error), with a value and a
world where `Q` holds. -/
def Triple (P : World → Prop) (x : Go α) (Q : α → World → Prop) : Prop :=
  ∀ w, P w → ∃ a, (x w).1 = .ok a ∧ Q a (x w).2

section Triple

variable {P P' : World → Prop} {Q Q' : α → World → Prop} {x : Go α}

theorem Triple.of_run (h : ∀ w, P w → ∃ a w', x w = (.ok a, w') ∧ Q a w') : Triple P x Q := by
  intro w hw
  obtain ⟨a, w', e, hq⟩ := h w hw
  exact ⟨a, by rw [e], by rw [e]; exact hq⟩

theorem Triple.conseq (h : Triple P x Q) (hp : ∀ w, P' w → P w) (hq : ∀ a w, Q a w → Q' a w) :
    Triple P' x Q' := fun w hw =>
  (h w (hp w hw)).imp fun a ⟨e, hqa⟩ => ⟨e, hq a _ hqa⟩

theorem Triple.bind {f : α → Go β} {R : β → World → Prop} (hx : Triple P x Q)
    (hf : ∀ a, Triple (Q a) (f a) R) : Triple P (x >>= f) R := by
  intro w hw
  obtain ⟨a, e, hq⟩ := hx w hw
  have hxf : (x >>= f) w = f a (x w).2 := by
    rw [bind_apply]; generalize x w = r at e; obtain ⟨_, _⟩ := r; cases e; rfl
  rw [hxf]
  exact hf a _ hq

/-- A fact the precondition states may be used to prove the triple. -/
theorem Triple.lift {φ : Prop} (h : φ → Triple P x Q) : Triple (fun w => φ ∧ P w) x Q :=
  fun w ⟨hφ, hw⟩ => h hφ w hw

/-- What a successful run ensures holds after a run that returns. -/
theorem Triple.ensures {E : World → Prop} (h : Triple P x Q) (he : Ensures E x) :
    Triple P x fun a w => Q a w ∧ E w := by
  intro w hw
  obtain ⟨a, e, hq⟩ := h w hw
  exact ⟨a, e, hq, he w a _ (Prod.ext e rfl)⟩

theorem Triple.pure (a : α) (h : ∀ w, P w → Q a w) : Triple P (pure a : Go α) Q :=
  fun w hw => ⟨a, rfl, h w hw⟩

theorem Triple.getVM {Q : VM → World → Prop} (h : ∀ w, P w → Q w.vm w) : Triple P getVM Q :=
  fun w hw => ⟨_, rfl, h w hw⟩

theorem Triple.modifyVM (f : VM → VM) {Q : Unit → World → Prop}
    (h : ∀ w, P w → Q () { w with vm := f w.vm }) : Triple P (modifyVM f) Q :=
  fun w hw => ⟨(), rfl, h w hw⟩

/-- A call the engine accepts. -/
theorem Triple.call {vz : Vz} {c : VzCall} (hc : vz.fails c = none) {Q : Unit → World → Prop}
    (h : ∀ w, P w → Q () { w with calls := w.calls ++ [(c, none)] }) : Triple P (call vz c) Q :=
  fun w hw => ⟨(), by simp [Go.call, hc], by simpa [Go.call, hc] using h w hw⟩

theorem Triple.mapError (f : Error → Error) (h : Triple P x Q) : Triple P (Go.mapError f x) Q := by
  intro w hw
  obtain ⟨a, e, hq⟩ := h w hw
  refine ⟨a, ?_, by rw [mapError_snd]; exact hq⟩
  simp only [Go.mapError]; split <;> simp_all

theorem Triple.wrap (pre : String) (h : Triple P x Q) : Triple P (Go.wrap pre x) Q := h.mapError _

theorem Triple.ite {c : Prop} [Decidable c] {y : Go α} (hx : c → Triple P x Q) (hy : ¬ c → Triple P y Q) :
    Triple P (if c then x else y) Q := by
  split
  · exact hx ‹_›
  · exact hy ‹_›

theorem Triple.host {op : Host → Except Error (α × Host)}
    (h : ∀ w, P w → ∃ a h', op w.host = .ok (a, h') ∧ Q a { w with host := h' }) : Triple P (host op) Q :=
  Triple.of_run fun w hw => by
    obtain ⟨a, h', e, hq⟩ := h w hw
    exact ⟨a, _, by rw [host_apply, e], hq⟩

theorem Triple.hostDo {op : Host → Except Error Host} {Q : Unit → World → Prop}
    (h : ∀ w, P w → ∃ h', op w.host = .ok h' ∧ Q () { w with host := h' }) : Triple P (hostDo op) Q :=
  Triple.host fun w hw => by
    obtain ⟨h', e, hq⟩ := h w hw
    exact ⟨(), h', by rw [e]; rfl, hq⟩

/-- `attempt x` returns, whatever `x` does; what `x` keeps holds after it. -/
theorem Triple.attempt {R : α → Prop} (hp : Respects (Preserves P) x) (hr : Returns R x) :
    Triple P (Go.attempt x) fun r w => (∀ a, r = .ok a → R a) ∧ P w :=
  fun w hw => ⟨_, rfl, hr.attempt w _ rfl, hp w hw⟩

theorem Triple.attempt_unit {y : Go Unit} {R : World → Prop} (h : Triple P y fun _ => R) :
    Triple P (Go.attempt y) fun r w => r = .ok () ∧ R w := fun w hw => by
  obtain ⟨⟨⟩, e, hr⟩ := h w hw
  exact ⟨_, rfl, e, hr⟩

theorem Triple.discard_attempt (hp : Respects (Preserves P) x) : Triple P (discard (Go.attempt x)) fun _ => P :=
  fun w hw => ⟨(), by rw [discard_attempt_apply], by rw [discard_attempt_apply]; exact hp w hw⟩

/-- A step that never fails and keeps `P` runs through from `P`. -/
theorem Triple.of_throws (hx : Throws (fun _ => False) x) (hp : Respects (Preserves P) x) :
    Triple P x fun _ => P := by
  intro w hw
  cases e : (x w).1 with
  | error err => exact (hx w err e).elim
  | ok a => exact ⟨a, rfl, hp w hw⟩

end Triple

end Go

/-! ### How the world evolves -/

/-- The bundle files `saveStateData` rewrites. -/
def stateFiles : List String := ["cpu", "mem", "id"]

/-- `w'` follows `w` by steps of the VM that may rewrite the state files named in `S`: the
host only grows, a node at any other path does not change once it exists, and
`HostDataDir` stays, or goes from empty to a directory that did not exist. -/
structure World.Evolves (S : List String) (w w' : World) : Prop where
  grows : w.host.Grows w'.host
  keeps : ∀ p : Path, (∀ n ∈ S, p.rel ≠ [n]) → w.host.Keeps w'.host p
  hostDataDir : w'.vm.hostDataDir = w.vm.hostDataDir ∨
    w.vm.hostDataDir = "" ∧ w'.vm.hostDataDir ≠ "" ∧ w.host.fs ⟨w'.vm.hostDataDir, []⟩ = none

namespace World

variable {S T : List String} {w w₁ w₂ w₃ : World}

theorem Evolves.refl (S : List String) (w : World) : w.Evolves S w :=
  ⟨Host.Grows.refl _, fun p _ => Host.Keeps.refl _ p, .inl rfl⟩

theorem Evolves.trans (a : Evolves S w₁ w₂) (b : Evolves S w₂ w₃) : Evolves S w₁ w₃ where
  grows := a.grows.trans b.grows
  keeps p hp := (a.keeps p hp).trans (b.keeps p hp)
  hostDataDir := by
    rcases b.hostDataDir with hb | ⟨hb0, hb1, hb2⟩
    · rw [hb]; exact a.hostDataDir
    · rcases a.hostDataDir with ha | ⟨-, ha1, -⟩
      · rw [← ha]
        exact .inr ⟨hb0, hb1, not_not.mp fun hn => a.grows.ne_none hn hb2⟩
      · exact absurd hb0 ha1

/-- A step that may rewrite fewer state files may rewrite more. -/
theorem Evolves.mono (a : Evolves S w₁ w₂) (hST : S ⊆ T) : Evolves T w₁ w₂ :=
  ⟨a.grows, fun p hp => a.keeps p fun n hn => hp n (hST hn), a.hostDataDir⟩

/-- A `HostDataDir` that is set stays. -/
theorem Evolves.hostDataDir_eq (h : Evolves S w₁ w₂) (hd : w₁.vm.hostDataDir ≠ "") :
    w₂.vm.hostDataDir = w₁.vm.hostDataDir :=
  h.hostDataDir.resolve_right fun h => hd h.1

instance : IsRefl World (Evolves S) := ⟨Evolves.refl S⟩
instance : IsTrans World (Evolves S) := ⟨fun _ _ _ => Evolves.trans⟩

/-- A host operation that grows the host and keeps every node outside `S`. -/
theorem Evolves.of_host {h : Host} (hg : w.host.Grows h)
    (hk : ∀ p : Path, (∀ n ∈ S, p.rel ≠ [n]) → w.host.Keeps h p) :
    w.Evolves S { w with host := h } :=
  ⟨hg, hk, .inl rfl⟩

end World

/-- `vm'` has the `HostDataDir`, the bundle and the engine instance of `vm`, and has a
configuration exactly when `vm` has one: what no configuration step of `Start` assigns. -/
structure VM.KeepsHandles (vm vm' : VM) : Prop where
  hostDataDir : vm'.hostDataDir = vm.hostDataDir
  files : vm'.files = vm.files
  vzvm : vm'.vzvm = vm.vzvm
  config : vm'.config.isSome = vm.config.isSome

/-- `w'` follows `w` by configuration steps of `Start`: the world evolves as
`World.Evolves S` says, the bundle, the engine instance and the presence of a
configuration stay, and only configuration calls are added to the log. -/
structure World.Configures (S : List String) (w w' : World) extends World.Evolves S w w' : Prop where
  files : w'.vm.files = w.vm.files
  vzvm : w'.vm.vzvm = w.vm.vzvm
  config : w'.vm.config.isSome = w.vm.config.isSome
  calls : ∃ new, w'.calls = w.calls ++ new ∧ ∀ c ∈ new, c.1.configures

namespace World

variable {S T : List String} {w w₁ w₂ w₃ : World}

theorem Configures.refl (S : List String) (w : World) : w.Configures S w :=
  ⟨.refl S w, rfl, rfl, rfl, [], by simp, by simp⟩

theorem Configures.trans (a : Configures S w₁ w₂) (b : Configures S w₂ w₃) : Configures S w₁ w₃ where
  toEvolves := a.toEvolves.trans b.toEvolves
  files := b.files.trans a.files
  vzvm := b.vzvm.trans a.vzvm
  config := b.config.trans a.config
  calls := by
    obtain ⟨n₁, e₁, h₁⟩ := a.calls
    obtain ⟨n₂, e₂, h₂⟩ := b.calls
    exact ⟨n₁ ++ n₂, by rw [e₂, e₁, List.append_assoc], fun c hc =>
      (List.mem_append.1 hc).elim (h₁ c) (h₂ c)⟩

theorem Configures.mono (a : Configures S w₁ w₂) (hST : S ⊆ T) : Configures T w₁ w₂ :=
  { a with toEvolves := a.toEvolves.mono hST }

instance : IsRefl World (Configures S) := ⟨Configures.refl S⟩
instance : IsTrans World (Configures S) := ⟨fun _ _ _ => Configures.trans⟩

/-- A change of the VM by `f`, which assigns none of its handles. -/
theorem Configures.of_vm {f : VM → VM} (hf : VM.KeepsHandles w.vm (f w.vm)) :
    w.Configures S { w with vm := f w.vm } :=
  ⟨⟨.refl _, fun p _ => .refl _ p, .inl hf.hostDataDir⟩, hf.files, hf.vzvm, hf.config, [], by simp, by simp⟩

end World

/-- `w'` differs from `w`, in the VM, at most in `HostDataDir`. -/
def World.KeepsVM (w w' : World) : Prop := w'.vm = { w.vm with hostDataDir := w'.vm.hostDataDir }

instance : IsRefl World World.KeepsVM := ⟨fun _ => rfl⟩
instance : IsTrans World World.KeepsVM := ⟨fun _ _ _ a b => by rw [World.KeepsVM, b, a]⟩

/-- `w'` differs from `w` at most in the engine calls made. -/
structure World.OnlyCalls (w w' : World) : Prop where
  vm : w'.vm = w.vm
  host : w'.host = w.host

instance : IsRefl World World.OnlyCalls := ⟨fun _ => ⟨rfl, rfl⟩⟩
instance : IsTrans World World.OnlyCalls := ⟨fun _ _ _ a b => ⟨b.vm.trans a.vm, b.host.trans a.host⟩⟩

theorem World.OnlyCalls.evolves {w w' : World} (h : World.OnlyCalls w w') (S : List String) :
    w.Evolves S w' :=
  ⟨h.host ▸ .refl _, fun p _ => h.host ▸ .refl _ p, .inl (by rw [h.vm])⟩

/-- `w'` has the VM of `w`: only host operations and engine calls ran. -/
def World.SameVM (w w' : World) : Prop := w'.vm = w.vm

instance : IsRefl World World.SameVM := ⟨fun _ => rfl⟩
instance : IsTrans World World.SameVM := ⟨fun _ _ _ a b => b.trans a⟩

namespace Go

variable {α : Type} {S : List String}

theorem Respects.onlyCalls_call (vz : Vz) (c : VzCall) : Respects World.OnlyCalls (call vz c) := by
  intro w; simp only [Go.call]; split <;> exact ⟨rfl, rfl⟩

theorem Respects.keepsVM_host (op : Host → Except Error (α × Host)) :
    Respects World.KeepsVM (host op) := by
  intro w; simp only [host_apply]; split <;> rfl

theorem Respects.keepsVM_call (vz : Vz) (c : VzCall) : Respects World.KeepsVM (call vz c) := by
  intro w; simp only [Go.call]; split <;> rfl

theorem Respects.sameVM_host (op : Host → Except Error (α × Host)) : Respects World.SameVM (host op) := by
  intro w; simp only [host_apply]; split <;> rfl

theorem Respects.sameVM_call (vz : Vz) (c : VzCall) : Respects World.SameVM (call vz c) :=
  fun w => (onlyCalls_call vz c w).vm

theorem Respects.keepsVM_setDataDir (d : String) :
    Respects World.KeepsVM (modifyVM fun vm => { vm with hostDataDir := d }) := fun _ => rfl

theorem Respects.mono {x : Go α} {T : List String} (hx : Respects (World.Configures S) x) (hST : S ⊆ T) :
    Respects (World.Configures T) x := fun w => (hx w).mono hST

theorem Respects.modifyVM {f : VM → VM} (hf : ∀ vm, VM.KeepsHandles vm (f vm)) :
    Respects (World.Configures S) (modifyVM f) := fun w => World.Configures.of_vm (hf w.vm)

theorem Respects.host {op : Host → Except Error (α × Host)}
    (hop : ∀ h a h', op h = .ok (a, h') → h.Grows h' ∧
      ∀ p : Path, (∀ n ∈ S, p.rel ≠ [n]) → h.Keeps h' p) :
    Respects (World.Configures S) (host op) := by
  intro w
  simp only [Go.host]
  split
  · rename_i a h e
    exact ⟨World.Evolves.of_host (hop _ _ _ e).1 (hop _ _ _ e).2, rfl, rfl, rfl, [], by simp, by simp⟩
  · exact World.Configures.refl S w

theorem Respects.hostDo {op : Host → Except Error Host}
    (hop : ∀ h h', op h = .ok h' → h.Grows h' ∧ ∀ p : Path, (∀ n ∈ S, p.rel ≠ [n]) → h.Keeps h' p) :
    Respects (World.Configures S) (hostDo op) :=
  Respects.host fun h _ h' e => by
    cases e' : op h <;> simp only [e', Except.map] at e <;> cases e
    exact hop h _ e'

theorem Respects.call (vz : Vz) {c : VzCall} (hc : c.configures) :
    Respects (World.Configures S) (call vz c) := by
  intro w; simp only [Go.call]
  split <;> exact ⟨⟨.refl _, fun p _ => .refl _ p, .inl rfl⟩, rfl, rfl, rfl, _, rfl, by simpa using hc⟩

/-! `Start`'s own steps assign the handles and make the other calls. -/

theorem Respects.evolves_modifyVM {f : VM → VM} (hf : ∀ vm, (f vm).hostDataDir = vm.hostDataDir) :
    Respects (World.Evolves S) (Go.modifyVM f) :=
  fun w => ⟨Host.Grows.refl _, fun p _ => Host.Keeps.refl _ p, .inl (hf w.vm)⟩

theorem Respects.evolves_call (vz : Vz) (c : VzCall) : Respects (World.Evolves S) (Go.call vz c) := by
  intro w; simp only [Go.call]; split <;> exact ⟨Host.Grows.refl _, fun p _ => Host.Keeps.refl _ p, .inl rfl⟩

end Go

end Jetpack
