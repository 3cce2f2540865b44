import Jetpack.VM.Lifecycle

/-!
# The variable store is created once

In install mode `nvram` opens `nvram` in the bundle with `O_EXCL`: only when that open creates
the file does it ask the engine for a new EFI variable store; a file that is there is loaded as
it is. No other step asks the engine to create a store, and no step removes a file.

* `World.CreatesOnce p`: the host only grows, and at most one call creating a store at `p` was
  made, when nothing was at `p`, which is there afterwards.
* `start_createsOnce`: every run of `Start` stays within `World.CreatesOnce p`, for every `p`.
* `store_created_once`: over every sequence of calls, the engine is asked to create a store at
  `p` at most once, and only if nothing was at `p` before the calls.
-/

namespace Jetpack

open Go

/-- The calls among `calls` that create a variable store at `p`. -/
def storeCreations (p : Path) (calls : List (VzCall × Option String)) : Nat :=
  (calls.filter fun e => e.1 = .newEFIVariableStore p true).length

@[simp] theorem storeCreations_append (p : Path) (a b : List (VzCall × Option String)) :
    storeCreations p (a ++ b) = storeCreations p a + storeCreations p b := by
  simp only [storeCreations, List.filter_append, List.length_append]

/-- `w'` follows `w` with the host only growing and at most one new call creating a variable
store at `p`, made when nothing was at `p`, which is there afterwards. -/
structure World.CreatesOnce (p : Path) (w w' : World) : Prop where
  grows : w.host.Grows w'.host
  calls : ∃ new, w'.calls = w.calls ++ new ∧
    (storeCreations p new = 0 ∨ storeCreations p new = 1 ∧ w.host.fs p = none ∧ w'.host.fs p ≠ none)

namespace World

variable {p : Path} {w w' w₁ w₂ w₃ : World}

theorem CreatesOnce.trans (a : CreatesOnce p w₁ w₂) (b : CreatesOnce p w₂ w₃) : CreatesOnce p w₁ w₃ := by
  obtain ⟨n₁, e₁, h₁⟩ := a.calls
  obtain ⟨n₂, e₂, h₂⟩ := b.calls
  refine ⟨a.grows.trans b.grows, n₁ ++ n₂, by rw [e₂, e₁, List.append_assoc], ?_⟩
  rw [storeCreations_append]
  rcases h₁ with h₁ | ⟨h₁, hn₁, hs₁⟩ <;> rcases h₂ with h₂ | ⟨h₂, hn₂, hs₂⟩
  · exact .inl (by omega)
  · exact .inr ⟨by omega, not_not.1 fun h => a.grows.ne_none h hn₂, hs₂⟩
  · exact .inr ⟨by omega, hn₁, b.grows.ne_none hs₁⟩
  · exact absurd hn₂ hs₁

instance : IsRefl World (CreatesOnce p) := ⟨fun _ => ⟨.refl _, [], by simp, .inl rfl⟩⟩
instance : IsTrans World (CreatesOnce p) := ⟨fun _ _ _ => CreatesOnce.trans⟩

/-- A step that grows the host and makes no call. -/
theorem CreatesOnce.of_grows (hg : w.host.Grows w'.host) (hc : w'.calls = w.calls) : CreatesOnce p w w' :=
  ⟨hg, [], by simp [hc], .inl rfl⟩

end World

/-- `w'` has the engine log of `w`: no call was made. -/
def World.SameCalls (w w' : World) : Prop := w'.calls = w.calls

instance : IsRefl World World.SameCalls := ⟨fun _ => rfl⟩
instance : IsTrans World World.SameCalls := ⟨fun _ _ _ a b => b.trans a⟩

namespace Go

variable {α : Type} {p : Path}

theorem Respects.sameCalls_host (op : Host → Except Error (α × Host)) : Respects World.SameCalls (Go.host op) := by
  intro w; simp only [host_apply]; split <;> rfl

/-- The engine's log records each call, whatever it answers. -/
@[simp] theorem call_snd (vz : Vz) (c : VzCall) (w : World) :
    (Go.call vz c w).2 = { w with calls := w.calls ++ [(c, vz.fails c)] } := by
  simp only [Go.call]; split <;> rfl

@[simp] theorem bind_pure_snd {β : Type} (x : Go α) (b : β) (w : World) :
    ((x >>= fun _ => pure b) w).2 = (x w).2 := by
  simp only [bind_apply]; rcases x w with ⟨_ | _, _⟩ <;> rfl

theorem Respects.createsOnce_modifyVM (f : VM → VM) : Respects (World.CreatesOnce p) (Go.modifyVM f) :=
  fun _ => .of_grows (.refl _) rfl

theorem Respects.createsOnce_host {op : Host → Except Error (α × Host)}
    (hop : ∀ h a h', op h = .ok (a, h') → h.Grows h') : Respects (World.CreatesOnce p) (Go.host op) := by
  intro w; simp only [host_apply]; split
  · exact .of_grows (hop _ _ _ ‹_›) rfl
  · exact refl_of _ w

theorem Respects.createsOnce_hostDo {op : Host → Except Error Host} (hop : ∀ h h', op h = .ok h' → h.Grows h') :
    Respects (World.CreatesOnce p) (Go.hostDo op) := by
  intro w; simp only [Go.hostDo, host_apply]
  cases e : op w.host with
  | error => exact refl_of _ w
  | ok h => exact .of_grows (hop _ _ e) rfl

/-- An operation that only reads the host. -/
theorem Respects.createsOnce_read (op : Host → Except Error α) :
    Respects (World.CreatesOnce p) (Go.host fun h => (op h).map (·, h)) := by
  intro w; simp only [host_apply]; cases op w.host <;> exact .of_grows (.refl _) rfl

theorem Respects.createsOnce_call (vz : Vz) {c : VzCall} (hc : c ≠ .newEFIVariableStore p true) :
    Respects (World.CreatesOnce p) (Go.call vz c) := by
  intro w; simp only [Go.call]
  split <;> exact ⟨.refl _, _, rfl, .inl (by simp [storeCreations, hc])⟩

end Go

/-! ### Every step of `Start` -/

section Steps

variable (vz : Vz) (p : Path)

theorem dataFilePath_createsOnce (name : String) : Respects (World.CreatesOnce p) (dataFilePath name) := by
  have jp : Respects (World.CreatesOnce p) (getVM >>= fun vm => pure (⟨vm.hostDataDir, [name]⟩ : Path)) :=
    Respects.getVM.bind fun _ => Respects.pure _
  unfold dataFilePath
  refine Respects.getVM.bind fun vm => ?_
  dsimp only
  exact Respects.ite (((Respects.createsOnce_host fun _ _ _ e => Host.mkdirTemp_grows e).wrap _).bind
    fun _ => (Respects.createsOnce_modifyVM _).bind fun _ => jp) ((Respects.pure _).bind fun _ => jp)

theorem openCreating_createsOnce (path : Path) (flag : Flag) (f : Error → Error) :
    Respects (World.CreatesOnce p) (openCreating path flag f) := by
  have hopen : Respects (World.CreatesOnce p) (hostDo (·.openFile path flag)) :=
    Respects.createsOnce_hostDo fun _ _ e => Host.openFile_grows e
  refine hopen.attempt.bind fun r => ?_
  rcases r with e | ⟨⟩
  · exact Respects.ite (((Respects.createsOnce_hostDo fun _ _ e => Host.mkdirAll_grows e).mapError f).bind
      fun _ => hopen.attempt) (Respects.pure _)
  · exact Respects.pure _

theorem loadStateData_createsOnce {α : Type} (name : String) (scan : List Char → Except Error α) :
    Respects (World.CreatesOnce p) (loadStateData name scan) := by
  refine (dataFilePath_createsOnce p name).bind fun path => ?_
  refine (Respects.createsOnce_hostDo fun _ _ e => Host.openFile_grows e).attempt.bind fun r => ?_
  rcases r with e | ⟨⟩
  · exact Respects.ite (Respects.pure _) (Respects.throw _)
  · refine (Respects.createsOnce_read _).bind fun content => ?_
    rcases scan content with e | v
    · exact Respects.ite (Respects.pure _) (Respects.throw _)
    · exact Respects.pure _

theorem saveStateData_createsOnce (name : String) (text : List Char) :
    Respects (World.CreatesOnce p) (saveStateData name text) := by
  refine (dataFilePath_createsOnce p name).bind fun path => (openCreating_createsOnce p path _ _).bind fun r => ?_
  rcases r with e | ⟨⟩
  · exact Respects.throw _
  · exact Respects.createsOnce_hostDo fun _ _ e => by cases e; exact Host.write_grows _ _

theorem initLogger_createsOnce : Respects (World.CreatesOnce p) initLogger := by
  refine (dataFilePath_createsOnce p "log").attempt.bind fun r => ?_
  rcases r with e | path
  · exact Respects.createsOnce_modifyVM _
  · refine (openCreating_createsOnce p path _ _).attempt.bind fun r => ?_
    rcases r with _ | _ | ⟨⟩ <;> exact Respects.createsOnce_modifyVM _

theorem openCreating_sameCalls (path : Path) (flag : Flag) (f : Error → Error) :
    Respects World.SameCalls (openCreating path flag f) := by
  refine (Respects.sameCalls_host _).attempt.bind fun r => ?_
  rcases r with e | ⟨⟩
  · exact Respects.ite (((Respects.sameCalls_host _).mapError f).bind fun _ => (Respects.sameCalls_host _).attempt)
      (Respects.pure _)
  · exact Respects.pure _

/-- `nvram` asks for a new store only after its exclusive open has made the file. -/
theorem nvram_createsOnce : Respects (World.CreatesOnce p) (nvram vz) := by
  refine ((dataFilePath_createsOnce p _).wrap _).bind fun path w => ?_
  simp only [bind_apply]
  have ho := openCreating_createsOnce p path .exclusive (·.wrap "create directory for nvram file") w
  have hc := openCreating_sameCalls path .exclusive (·.wrap "create directory for nvram file") w
  generalize e : openCreating path .exclusive _ w = r at ho hc
  obtain ⟨_ | _ | ⟨⟩, w₁⟩ := r
  · exact ho
  · dsimp only
    split
    · exact trans_of _ ho ((((Respects.createsOnce_call vz (by simp)).wrap _).bind fun _ => Respects.pure _) w₁)
    · exact ho
  · obtain ⟨hn, hf⟩ := openCreating_created e
    dsimp only
    rw [bind_pure_snd, wrap_snd, call_snd]
    refine ⟨ho.grows, _, by rw [← hc], ?_⟩
    by_cases hp : path = p
    · subst hp
      exact .inr ⟨by simp [storeCreations], hn, by simp [hf]⟩
    · exact .inl (by simp [storeCreations, hp])

theorem configure_createsOnce (name : String) (f : Field) (default min max : Int) :
    Respects (World.CreatesOnce p) (configure name f default min max) :=
  configure_keeps (loadStateData_createsOnce p _ _) (saveStateData_createsOnce p _)
    fun _ => Respects.createsOnce_modifyVM _

theorem linuxBootLoader_createsOnce : Respects (World.CreatesOnce p) (linuxBootLoader vz) :=
  Respects.getVM.bind fun _ => Respects.ite
    ((nvram_createsOnce vz p).bind fun _ => (Respects.createsOnce_call vz (by simp)).bind fun _ => Respects.pure _)
    (((Respects.createsOnce_read _).wrap _).bind fun _ =>
      (Respects.createsOnce_call vz (by simp)).bind fun _ => Respects.pure _)

theorem setConfig_createsOnce (f : Config → Config) : Respects (World.CreatesOnce p) (setConfig f) :=
  Respects.createsOnce_modifyVM _

theorem attachConsole_createsOnce : Respects (World.CreatesOnce p) (attachConsole vz) :=
  ((Respects.createsOnce_read _).wrap _).bind fun _ =>
    ((Respects.createsOnce_hostDo fun _ _ e => .of_fs_eq (Host.setTermios_fs e)).wrap _).bind fun _ =>
      ((Respects.createsOnce_call vz (by simp)).wrap _).bind fun _ =>
        ((Respects.createsOnce_call vz (by simp)).wrap _).bind fun _ => setConfig_createsOnce p _

theorem truncateNew_createsOnce (path : Path) : Respects (World.CreatesOnce p) (truncateNew path) := by
  intro w
  rw [truncateNew_apply]
  split
  · next ht => exact .of_grows (Host.truncate_grows ht) rfl
  · exact .of_grows (.refl _) rfl

theorem rootDisk_createsOnce : Respects (World.CreatesOnce p) (rootDisk vz) := by
  have hopen : ∀ path, Respects (World.CreatesOnce p) (openRootDisk path) := fun path =>
    (openCreating_createsOnce p path _ _).bind fun r => by
      rcases r with e | ⟨⟩
      · exact Respects.ite (Respects.pure _) (Respects.throw _)
      · exact truncateNew_createsOnce p path
  exact ((dataFilePath_createsOnce p _).wrap _).bind fun path => (hopen path).bind fun _ =>
    ((Respects.createsOnce_call vz (by simp)).wrap _).bind fun _ =>
      ((Respects.createsOnce_call vz (by simp)).wrap _).bind fun _ => Respects.pure _

theorem attachDisks_createsOnce : Respects (World.CreatesOnce p) (attachDisks vz) := by
  have hiso : Respects (World.CreatesOnce p) (installerDisk vz) := by
    unfold installerDisk; split
    · exact Respects.throw _
    · exact Respects.pure _
  refine ((rootDisk_createsOnce vz p).wrap _).bind fun root => Respects.getVM.bind fun vm => ?_
  exact Respects.ite ((hiso.wrap _).bind fun _ => (Respects.pure _).bind fun _ => setConfig_createsOnce p _)
    ((Respects.pure _).bind fun _ => setConfig_createsOnce p _)

theorem configureDirShares_createsOnce :
    ∀ ds : List SharedDirectory, Respects (World.CreatesOnce p) (configureDirShares vz ds)
  | [] => Respects.pure _
  | _ :: ds => (((Respects.createsOnce_call vz (by simp)).wrap _).bind fun _ =>
      ((Respects.createsOnce_call vz (by simp)).wrap _).bind fun _ =>
        ((Respects.createsOnce_call vz (by simp)).wrap _).bind fun _ => Respects.pure _).bind fun _ =>
    (configureDirShares_createsOnce ds).bind fun _ => Respects.pure _

theorem attachSharedDirs_createsOnce : Respects (World.CreatesOnce p) (attachSharedDirs vz) := by
  have hboot : Respects (World.CreatesOnce p) (generateBootstrapScript vz) := by
    unfold generateBootstrapScript; split
    · exact Respects.pure _
    · exact Respects.throw _
  have jp : Respects (World.CreatesOnce p) (do
      let configs ← configureDirShares vz (← getVM).sharedDirectories
      setConfig fun c => { c with directorySharingDevices := configs }) :=
    Respects.getVM.bind fun _ => (configureDirShares_createsOnce vz p _).bind fun _ => setConfig_createsOnce p _
  refine Respects.getVM.bind fun vm => Respects.ite ?_ ((Respects.pure _).bind fun _ => jp)
  exact (hboot.wrap _).bind fun _ => (dataFilePath_createsOnce p _).bind fun _ =>
    (Respects.createsOnce_hostDo fun _ _ e => Host.mkdirAll_grows e).bind fun _ =>
      (Respects.createsOnce_modifyVM _).bind fun _ => jp

theorem configureLinuxPlatform_createsOnce : Respects (World.CreatesOnce p) (configureLinuxPlatform vz) := by
  have hload : Respects (World.CreatesOnce p) loadIdentifier := by
    refine (loadStateData_createsOnce p _ _).attempt.bind fun r => ?_
    rcases r with e | _ | v
    · exact Respects.throw _
    · exact Respects.pure _
    · exact Respects.createsOnce_modifyVM _
  refine hload.bind fun _ => (Respects.getVM.bind fun vm => Respects.ite ?_ ?_).bind fun _ =>
    ((Respects.createsOnce_call vz (by simp)).wrap _).bind fun _ => Respects.getVM.bind fun _ =>
      setConfig_createsOnce p _
  · exact ((Respects.createsOnce_call vz (by simp)).wrap _).bind fun _ => (Respects.createsOnce_modifyVM _).bind
      fun _ => Respects.getVM.bind fun _ => (saveStateData_createsOnce p _ _).wrap _
  · exact Respects.getVM.bind fun _ => (Respects.createsOnce_call vz (by simp)).wrap _

theorem newConfiguration_createsOnce (loader : BootLoader) :
    Respects (World.CreatesOnce p) (newConfiguration vz loader) :=
  Respects.getVM.bind fun _ => (Respects.createsOnce_call vz (by simp)).attempt.bind fun r => by
    rcases r with e | ⟨⟩
    · exact (Respects.createsOnce_modifyVM _).bind fun _ => Respects.throw _
    · exact Respects.createsOnce_modifyVM _

theorem configuration_createsOnce : Respects (World.CreatesOnce p) (configuration vz) :=
  (Respects.createsOnce_modifyVM _).bind fun _ => (initLogger_createsOnce p).bind fun _ =>
    (configure_createsOnce p _ _ _ _ _).bind fun _ => (configure_createsOnce p _ _ _ _ _).bind fun _ =>
      ((linuxBootLoader_createsOnce vz p).wrap _).bind fun loader => newConfiguration_createsOnce vz p loader

theorem attachDevices_createsOnce : Respects (World.CreatesOnce p) (attachDevices vz) :=
  ((attachConsole_createsOnce vz p).wrap _).bind fun _ => ((attachDisks_createsOnce vz p).wrap _).bind fun _ =>
    ((((Respects.createsOnce_call vz (by simp)).wrap _).bind fun _ =>
      ((Respects.createsOnce_call vz (by simp)).wrap _).bind fun _ =>
        ((Respects.createsOnce_call vz (by simp)).wrap _).bind fun _ => setConfig_createsOnce p _).wrap _).bind fun _ =>
    ((((Respects.createsOnce_call vz (by simp)).wrap _).bind fun _ => setConfig_createsOnce p _).wrap _).bind fun _ =>
      ((attachSharedDirs_createsOnce vz p).wrap _).bind fun _ => (configureLinuxPlatform_createsOnce vz p).wrap _

theorem prepare_createsOnce : Respects (World.CreatesOnce p) (prepare vz) :=
  (configuration_createsOnce vz p).bind fun _ => (attachDevices_createsOnce vz p).bind fun _ =>
    ((Respects.createsOnce_call vz (by simp)).wrap _).bind fun _ => Respects.ite (Respects.throw _) (Respects.pure _)

theorem newVirtualMachine_createsOnce : Respects (World.CreatesOnce p) (newVirtualMachine vz) :=
  (Respects.createsOnce_call vz (by simp)).attempt.bind fun r => by
    rcases r with e | ⟨⟩
    · exact (Respects.createsOnce_modifyVM _).bind fun _ => Respects.throw _
    · exact Respects.createsOnce_modifyVM _

theorem fileBundle_createsOnce (dir : String) : Respects (World.CreatesOnce p) (fileBundle dir) :=
  Respects.ite (((Respects.createsOnce_host fun _ _ _ e => Host.mkdirTemp_grows e).wrap _).bind fun _ => Respects.pure _)
    (Respects.pure _)

/-- **Every run of `Start` asks for at most one new store at `p`**, and only when its own
exclusive open has made the file at `p`; whatever the engine answers and wherever `Start`
fails. -/
theorem start_createsOnce : Respects (World.CreatesOnce p) (start vz) := by
  refine (Respects.getVM.bind fun _ => (fileBundle_createsOnce p _).attempt.bind fun r => ?_).bind
    fun _ => (prepare_createsOnce vz p).bind fun _ =>
      (newVirtualMachine_createsOnce vz p).bind fun _ => Respects.createsOnce_call vz (by simp)
  rcases r with e | files
  · exact (Respects.createsOnce_modifyVM _).bind fun _ => Respects.throw _
  · exact Respects.createsOnce_modifyVM _

end Steps

/-- `Stop` makes no new store: it only asks the instance to stop. -/
theorem stop_createsOnce {c : Option Error} {evs : List StopEvent} {w w' : World} {r : Option Error} (p : Path)
    (h : stop c evs w = some (r, w')) : World.CreatesOnce p w w' := by
  obtain ⟨new, rfl, hn, -⟩ := stop_eq_some h
  refine ⟨.refl _, new, rfl, .inl ?_⟩
  simp only [storeCreations, List.length_eq_zero, List.filter_eq_nil_iff, decide_eq_true_eq]
  intro e he
  rcases hn e he with h' | h' <;> rw [h'] <;> exact nofun

end Jetpack
