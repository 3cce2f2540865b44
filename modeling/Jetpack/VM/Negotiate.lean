import Jetpack.VM.Bundle

/-!
# Negotiating CPUs and memory

`configureCPUs` and `configureMemory` are one procedure, `configure`, over a field of the
VM, its state file, its default and the engine's bounds: an explicit request is clamped; an
unset one is loaded from the state file, or falls back to the default; a value that
clamping changed, or the default, is saved.

* `configure_get`: the value `configure` leaves is the clamp of the request, the loaded
  value, or the default.
* `configure_withinBounds`: it lies within the engine's bounds, which `int(...)` keeps when
  they are below `2^63`; then `uint64(...)` gives the value back.
* `configure_file`: afterwards the state file reads back as the value, unless the request
  was explicit and already within the bounds; then nothing changed.
* `negotiation_settles`: with lower bounds of at least 1, a second run changes nothing.
-/

namespace Jetpack

open Go

/-- `DefaultCPUs`. -/
def defaultCPUs : Int := 1

/-- `DefaultMemory`. -/
def defaultMemory : Int := 1 <<< 30

/-- `int(x)` for a `uint64` `x`. -/
def intOfUint64 (x : Nat) : Int :=
  if x % 2 ^ 64 < 2 ^ 63 then (x % 2 ^ 64 : Nat) else (x % 2 ^ 64 : Nat) - 2 ^ 64

/-- `uint64(x)` (and `uint(x)`) for an `int` `x`. -/
def uint64OfInt (x : Int) : Nat := (x % 2 ^ 64).toNat

theorem intOfUint64_of_lt {x : Nat} (h : x < 2 ^ 63) : intOfUint64 x = x := by
  have hx : x % 2 ^ 64 = x := Nat.mod_eq_of_lt (by omega)
  rw [intOfUint64, hx, if_pos h]

theorem uint64OfInt_of_mem {x : Int} (h0 : 0 ≤ x) (h1 : x < 2 ^ 63) : (uint64OfInt x : Int) = x := by
  have hx : x % 2 ^ 64 = x := Int.emod_eq_of_lt h0 (by omega)
  rw [uint64OfInt, hx, Int.toNat_of_nonneg h0]

/-- `clamp(value, min, max)`. -/
def clamp {α : Type} [LinearOrder α] (value min max : α) : α :=
  if value < min then min else if value > max then max else value

theorem clamp_mem {α : Type} [LinearOrder α] {min max : α} (value : α) (h : min ≤ max) :
    min ≤ clamp value min max ∧ clamp value min max ≤ max := by
  unfold clamp
  split
  · exact ⟨le_rfl, h⟩
  · split <;> simp_all [le_of_lt]

theorem clamp_of_mem {α : Type} [LinearOrder α] {value min max : α} (h₀ : min ≤ value)
    (h₁ : value ≤ max) : clamp value min max = value := by
  simp [clamp, not_lt.2 h₀, not_lt.2 h₁]

/-- A field of the VM that `configure` negotiates. -/
structure Field where
  get : VM → Int
  set : VM → Int → VM
  get_set : ∀ vm v, get (set vm v) = v
  get_dataDir : ∀ vm d, get { vm with hostDataDir := d } = get vm
  keepsHandles : ∀ vm v, VM.KeepsHandles vm (set vm v)

/-- `vm.CPUs`. -/
def Field.cpus : Field :=
  ⟨VM.cpus, fun vm v => { vm with cpus := v }, fun _ _ => rfl, fun _ _ => rfl, fun _ _ => ⟨rfl, rfl, rfl, rfl⟩⟩

/-- `vm.Memory`. -/
def Field.memory : Field :=
  ⟨VM.memory, fun vm v => { vm with memory := v }, fun _ _ => rfl, fun _ _ => rfl,
    fun _ _ => ⟨rfl, rfl, rfl, rfl⟩⟩

@[simp] theorem Field.dataDir_set (f : Field) (vm : VM) (v : Int) : (f.set vm v).hostDataDir = vm.hostDataDir :=
  (f.keepsHandles vm v).hostDataDir

attribute [simp] Field.get_set Field.get_dataDir

/-- The end of `configureCPUs`: clamp the value, and save it if that changed it. -/
def clampSaved (name : String) (f : Field) (min max : Int) : Go Unit := do
  let clamped := clamp (f.get (← getVM)) min max
  if f.get (← getVM) ≠ clamped then
    modifyVM (f.set · clamped)
    discard <| attempt (saveStateData name (Fmt.fmtInteger (f.get (← getVM))))

/-- The fallback of `configureCPUs`: the clamped default, saved. -/
def defaultSaved (name : String) (f : Field) (default min max : Int) : Go Unit := do
  modifyVM (f.set · (clamp default min max))
  discard <| attempt (saveStateData name (Fmt.fmtInteger (f.get (← getVM))))

/-- The body of `configureCPUs` and `configureMemory`, for the field `f` with state file
`name`. Errors of loading and saving are dropped, as there. -/
def configure (name : String) (f : Field) (default min max : Int) : Go Unit := do
  if f.get (← getVM) = 0 then
    match ← attempt (loadStateData name Fmt.fscanfInt) with
    | .ok (some v) => modifyVM (f.set · v)
    | _ => pure ()
    if f.get (← getVM) = 0 then defaultSaved name f default min max
    else clampSaved name f min max
  else clampSaved name f min max

/-- `vm.configureCPUs()`. -/
def configureCPUs (vz : Vz) : Go Unit :=
  configure "cpu" .cpus defaultCPUs (intOfUint64 vz.minCPU) (intOfUint64 vz.maxCPU)

/-- `vm.configureMemory()`. -/
def configureMemory (vz : Vz) : Go Unit :=
  configure "mem" .memory defaultMemory (intOfUint64 vz.minMemory) (intOfUint64 vz.maxMemory)

/-! ### Frames -/

section Frames

variable (S : List String) {name : String} (hn : name ∈ S) (f : Field) (default min max : Int)
include hn

/-- Of the state files, negotiation rewrites only its own. -/
theorem clampSaved_respects : Respects (World.Configures S) (clampSaved name f min max) :=
  Respects.getVM.bind fun _ => Respects.getVM.bind fun _ =>
    Respects.ite ((Respects.modifyVM fun _ => f.keepsHandles _ _).bind fun _ =>
      Respects.getVM.bind fun _ => (saveStateData_respects S hn _).discard_attempt) (Respects.pure _)

theorem defaultSaved_respects : Respects (World.Configures S) (defaultSaved name f default min max) :=
  (Respects.modifyVM fun _ => f.keepsHandles _ _).bind fun _ =>
    Respects.getVM.bind fun _ => (saveStateData_respects S hn _).discard_attempt

theorem configure_respects : Respects (World.Configures S) (configure name f default min max) := by
  have jp : Respects (World.Configures S) (do
      if f.get (← getVM) = 0 then defaultSaved name f default min max else clampSaved name f min max) :=
    Respects.getVM.bind fun _ =>
      Respects.ite (defaultSaved_respects S hn f default min max) (clampSaved_respects S hn f min max)
  refine Respects.getVM.bind fun _ => Respects.ite ?_ (clampSaved_respects S hn f min max)
  refine (loadStateData_respects S name _).attempt.bind fun r => ?_
  rcases r with _ | _ | v
  · exact (Respects.pure _).bind fun _ => jp
  · exact (Respects.pure _).bind fun _ => jp
  · exact (Respects.modifyVM fun _ => f.keepsHandles _ _).bind fun _ => jp

end Frames

/-- What loading, saving and `f.set` keep, `configure` keeps. -/
theorem configure_keeps {R : World → World → Prop} [IsRefl World R] [IsTrans World R]
    {name : String} {f : Field} {default min max : Int} (hload : Respects R (loadStateData name Fmt.fscanfInt))
    (hsave : ∀ text, Respects R (saveStateData name text)) (hset : ∀ v, Respects R (modifyVM (f.set · v))) :
    Respects R (configure name f default min max) := by
  have hclamp : Respects R (clampSaved name f min max) :=
    Respects.getVM.bind fun _ => Respects.getVM.bind fun _ => Respects.ite
      ((hset _).bind fun _ => Respects.getVM.bind fun _ => (hsave _).discard_attempt) (Respects.pure _)
  have jp : Respects R (do
      if f.get (← getVM) = 0 then defaultSaved name f default min max else clampSaved name f min max) :=
    Respects.getVM.bind fun _ => Respects.ite ((hset _).bind fun _ =>
      Respects.getVM.bind fun _ => (hsave _).discard_attempt) hclamp
  refine Respects.getVM.bind fun _ => Respects.ite (hload.attempt.bind fun r => ?_) hclamp
  rcases r with _ | _ | _
  · exact (Respects.pure _).bind fun _ => jp
  · exact (Respects.pure _).bind fun _ => jp
  · exact (hset _).bind fun _ => jp

/-- Negotiation never fails: the errors of loading and saving are dropped. -/
theorem configure_throws (name : String) (f : Field) (default min max : Int) :
    Throws (fun _ => False) (configure name f default min max) := by
  have hclamp : Throws (fun _ => False) (clampSaved name f min max) :=
    Throws.getVM.bind fun _ => Throws.getVM.bind fun _ => Throws.ite
      ((Throws.modifyVM _).bind fun _ => Throws.getVM.bind fun _ => Throws.discard_attempt _)
      (Throws.pure _)
  have jp : Throws (fun _ => False) (do
      if f.get (← getVM) = 0 then defaultSaved name f default min max else clampSaved name f min max) :=
    Throws.getVM.bind fun _ => Throws.ite ((Throws.modifyVM _).bind fun _ =>
      Throws.getVM.bind fun _ => Throws.discard_attempt _) hclamp
  refine Throws.getVM.bind fun _ => Throws.ite ((Throws.attempt _).bind fun r => ?_) hclamp
  rcases r with _ | _ | _
  · exact (Throws.pure _).bind fun _ => jp
  · exact (Throws.pure _).bind fun _ => jp
  · exact (Throws.modifyVM _).bind fun _ => jp

/-! ### The value `configure` leaves -/

theorem Field.get_of_keepsVM (f : Field) {w w' : World} (h : World.KeepsVM w w') :
    f.get w'.vm = f.get w.vm := by
  rw [h]; exact f.get_dataDir _ _

variable {name : String} {f : Field} {default min max : Int}

theorem clampSaved_get (w : World) :
    f.get (clampSaved name f min max w).2.vm = clamp (f.get w.vm) min max := by
  by_cases hc : f.get w.vm = clamp (f.get w.vm) min max
  · simp only [clampSaved, bind_apply, getVM_apply]
    rw [if_neg (not_not.2 hc)]; exact hc
  · simp only [clampSaved, bind_apply, getVM_apply, hc, ne_eq, not_false_eq_true, if_true, modifyVM_apply, discard_attempt_apply]
    rw [f.get_of_keepsVM (saveStateData_keepsVM _ _ _), f.get_set]

theorem defaultSaved_get (w : World) :
    f.get (defaultSaved name f default min max w).2.vm = clamp default min max := by
  simp only [defaultSaved, bind_apply, getVM_apply, modifyVM_apply, discard_attempt_apply]
  rw [f.get_of_keepsVM (saveStateData_keepsVM _ _ _), f.get_set]

/-- The request `configure` clamps: an explicit value, else the loaded one, else the
default. -/
def request (name : String) (f : Field) (default : Int) (w : World) : Int :=
  if f.get w.vm ≠ 0 then f.get w.vm
  else match (loadStateData name Fmt.fscanfInt w).1 with
    | .ok (some v) => if v = 0 then default else v
    | _ => default

theorem configure_get (w : World) :
    f.get (configure name f default min max w).2.vm = clamp (request name f default w) min max := by
  by_cases h0 : f.get w.vm = 0
  · have hk := loadStateData_keepsVM name Fmt.fscanfInt w
    have h1 : f.get (loadStateData name Fmt.fscanfInt w).2.vm = 0 := by rw [f.get_of_keepsVM hk, h0]
    simp only [configure, request, bind_apply, getVM_apply, h0, if_true, attempt_apply, ne_eq,
      not_true_eq_false, if_false]
    generalize loadStateData name Fmt.fscanfInt w = r at h1
    obtain ⟨res, w₁⟩ := r
    rcases res with e | _ | v
    · simp only [pure_apply, bind_apply, getVM_apply, h1, if_true]; exact defaultSaved_get _
    · simp only [pure_apply, bind_apply, getVM_apply, h1, if_true]; exact defaultSaved_get _
    · by_cases hv : v = 0
      · simp only [bind_apply, modifyVM_apply, getVM_apply, f.get_set, hv, if_true]; exact defaultSaved_get _
      · simp only [bind_apply, modifyVM_apply, getVM_apply, f.get_set, hv, if_false]
        rw [clampSaved_get, f.get_set]
  · simp only [configure, request, bind_apply, getVM_apply, h0, if_false, ne_eq, not_false_eq_true, if_true]
    exact clampSaved_get w

theorem configure_bounds (hmm : min ≤ max) (w : World) :
    min ≤ f.get (configure name f default min max w).2.vm ∧
      f.get (configure name f default min max w).2.vm ≤ max := by
  rw [configure_get]; exact clamp_mem _ hmm

/-- A value within bounds that `int(...)` keeps: `uint64(...)` gives it back. -/
def WithinBounds (v : Int) (min max : Nat) : Prop := min ≤ v ∧ v ≤ max ∧ (uint64OfInt v : Int) = v

theorem configure_withinBounds {min max : Nat} (hmm : min ≤ max) (hmax : max < 2 ^ 63) (w : World) :
    WithinBounds (f.get (configure name f default (intOfUint64 min) (intOfUint64 max) w).2.vm) min max := by
  have hlt : min < 2 ^ 63 := by omega
  have hb := @configure_bounds name f default _ _ (Int.ofNat_le.2 hmm) w
  rw [intOfUint64_of_lt hmax, intOfUint64_of_lt hlt] at *
  exact ⟨hb.1, hb.2, uint64OfInt_of_mem (by omega) (by omega)⟩

/-- **The negotiated sizes stay within the host's bounds**, for every request and every
content of the state files; so `uint(vm.CPUs)` and `uint64(vm.Memory)` do not wrap. -/
theorem negotiated_within_bounds (vz : Vz) (w : World) (hvz : vz.BoundsOK) :
    WithinBounds (configureCPUs vz w).2.vm.cpus vz.minCPU vz.maxCPU ∧
      WithinBounds (configureMemory vz w).2.vm.memory vz.minMemory vz.maxMemory :=
  ⟨configure_withinBounds (f := .cpus) hvz.cpu hvz.cpu_lt w,
    configure_withinBounds (f := .memory) hvz.memory hvz.memory_lt w⟩

theorem negotiated_within_bounds_ok :
    (Vz.ok 1 8 (2 ^ 28) (2 ^ 33)).BoundsOK ∧
      WithinBounds (configureCPUs (Vz.ok 1 8 (2 ^ 28) (2 ^ 33)) ⟨{}, Host.empty, []⟩).2.vm.cpus 1 8 ∧
      WithinBounds (configureMemory (Vz.ok 1 8 (2 ^ 28) (2 ^ 33)) ⟨{}, Host.empty, []⟩).2.vm.memory
        (2 ^ 28) (2 ^ 33) :=
  have h : (Vz.ok 1 8 (2 ^ 28) (2 ^ 33)).BoundsOK := ⟨by decide, by decide, by decide, by decide⟩
  ⟨h, negotiated_within_bounds _ _ h⟩

/-! ### A second run -/

theorem clampSaved_of_mem {w : World} (h₀ : min ≤ f.get w.vm) (h₁ : f.get w.vm ≤ max) :
    clampSaved name f min max w = (.ok (), w) := by
  have he : f.get w.vm = clamp (f.get w.vm) min max := (clamp_of_mem h₀ h₁).symm
  simp only [clampSaved, bind_apply, getVM_apply]
  rw [if_neg (not_not.2 he)]; rfl

/-- An explicit request within the bounds is kept, and nothing is done. -/
theorem configure_of_mem {w : World} (hz : f.get w.vm ≠ 0) (h₀ : min ≤ f.get w.vm) (h₁ : f.get w.vm ≤ max) :
    configure name f default min max w = (.ok (), w) := by
  simp only [configure, bind_apply, getVM_apply, if_neg hz]
  exact clampSaved_of_mem h₀ h₁

/-- With a positive lower bound, what `configure` leaves it leaves alone on the next run. -/
theorem configure_settles (h1 : 1 ≤ min) (hmm : min ≤ max) (w : World) :
    configure name f default min max (configure name f default min max w).2 =
      (.ok (), (configure name f default min max w).2) := by
  obtain ⟨h₀, h₁⟩ : min ≤ f.get (configure name f default min max w).2.vm ∧
      f.get (configure name f default min max w).2.vm ≤ max := configure_bounds hmm w
  exact configure_of_mem (by omega) h₀ h₁

/-- **Negotiation settles in one run.** When the host's lower bounds are at least 1, a second
`configureCPUs` (or `configureMemory`) on the VM and host the first one left, with the same
engine, keeps the value, writes no file and calls nothing: a retried `Start` does not
negotiate again. -/
theorem negotiation_settles (vz : Vz) (hvz : vz.BoundsOK) (hc : 1 ≤ vz.minCPU) (hm : 1 ≤ vz.minMemory)
    (w : World) :
    configureCPUs vz (configureCPUs vz w).2 = (.ok (), (configureCPUs vz w).2) ∧
      configureMemory vz (configureMemory vz w).2 = (.ok (), (configureMemory vz w).2) := by
  have h₁ := intOfUint64_of_lt (lt_of_le_of_lt hvz.cpu hvz.cpu_lt)
  have h₂ := intOfUint64_of_lt hvz.cpu_lt
  have h₃ := intOfUint64_of_lt (lt_of_le_of_lt hvz.memory hvz.memory_lt)
  have h₄ := intOfUint64_of_lt hvz.memory_lt
  have := hvz.cpu
  have := hvz.memory
  exact ⟨configure_settles (by omega) (by omega) w, configure_settles (by omega) (by omega) w⟩

theorem negotiation_settles_fresh :
    (Vz.ok 1 8 (2 ^ 28) (2 ^ 33)).BoundsOK ∧ 1 ≤ (Vz.ok 1 8 (2 ^ 28) (2 ^ 33)).minCPU ∧
      1 ≤ (Vz.ok 1 8 (2 ^ 28) (2 ^ 33)).minMemory ∧
      configureCPUs (Vz.ok 1 8 (2 ^ 28) (2 ^ 33)) (configureCPUs (Vz.ok 1 8 (2 ^ 28) (2 ^ 33)) ⟨{}, Host.empty, []⟩).2 =
        (.ok (), (configureCPUs (Vz.ok 1 8 (2 ^ 28) (2 ^ 33)) ⟨{}, Host.empty, []⟩).2) ∧
      configureMemory (Vz.ok 1 8 (2 ^ 28) (2 ^ 33)) (configureMemory (Vz.ok 1 8 (2 ^ 28) (2 ^ 33)) ⟨{}, Host.empty, []⟩).2 =
        (.ok (), (configureMemory (Vz.ok 1 8 (2 ^ 28) (2 ^ 33)) ⟨{}, Host.empty, []⟩).2) :=
  have hvz : (Vz.ok 1 8 (2 ^ 28) (2 ^ 33)).BoundsOK := ⟨by decide, by decide, by decide, by decide⟩
  ⟨hvz, by decide, by decide, negotiation_settles _ hvz (by decide) (by decide) _⟩

/-! ### What the state file holds afterwards -/

/-- The state file `name` reads back, with `%v`, as the field's value. -/
def ReadsBack (name : String) (f : Field) (w : World) : Prop :=
  ∃ d, w.host.fs ⟨w.vm.hostDataDir, [name]⟩ = some (.file d) ∧ Fmt.fscanfInt d = .ok (f.get w.vm)

section File

variable {w : World} (hd : w.vm.hostDataDir ≠ "") (hf : w.host.FileOrFree ⟨w.vm.hostDataDir, [name]⟩)
  (hr : w.host.DirOrFree ⟨w.vm.hostDataDir, []⟩)
include hd hf hr

theorem saveStateData_readsBack (h1 : -2 ^ 63 ≤ f.get w.vm) (h2 : f.get w.vm < 2 ^ 63) :
    ReadsBack name f (saveStateData name (Fmt.fmtInteger (f.get w.vm)) w).2 := by
  obtain ⟨h', e, hfile, -, -⟩ := saveStateData_of_ne hd (Fmt.fmtInteger (f.get w.vm)) hf hr
  rw [e]
  exact ⟨_, hfile, Fmt.fscanfInt_fmtInteger h1 h2⟩

variable (hlo : 0 ≤ min) (hmm : min ≤ max) (hhi : max < 2 ^ 63)
include hlo hmm hhi

theorem defaultSaved_readsBack : ReadsBack name f (defaultSaved name f default min max w).2 := by
  have hb := clamp_mem default hmm
  simp only [defaultSaved, bind_apply, getVM_apply, modifyVM_apply, discard_attempt_apply]
  exact saveStateData_readsBack (w := { w with vm := f.set w.vm _ }) (by simpa using hd) (by simpa using hf)
    (by simpa using hr) (by simp; omega) (by simp; omega)

theorem clampSaved_readsBack :
    (min ≤ f.get w.vm ∧ f.get w.vm ≤ max ∧ clampSaved name f min max w = (.ok (), w)) ∨
      ReadsBack name f (clampSaved name f min max w).2 := by
  by_cases hc : min ≤ f.get w.vm ∧ f.get w.vm ≤ max
  · have he : f.get w.vm = clamp (f.get w.vm) min max := (clamp_of_mem hc.1 hc.2).symm
    refine .inl ⟨hc.1, hc.2, ?_⟩
    simp only [clampSaved, bind_apply, getVM_apply]
    rw [if_neg (not_not.2 he)]; rfl
  · have hb := clamp_mem (f.get w.vm) hmm
    have he : f.get w.vm ≠ clamp (f.get w.vm) min max := fun he => hc ⟨he ▸ hb.1, he ▸ hb.2⟩
    refine .inr ?_
    simp only [clampSaved, bind_apply, getVM_apply, he, ne_eq, not_false_eq_true, if_true,
      modifyVM_apply, discard_attempt_apply]
    exact saveStateData_readsBack (w := { w with vm := f.set w.vm _ }) (by simpa using hd)
      (by simpa using hf) (by simpa using hr) (by simp; omega) (by simp; omega)

/-- After `configure`, the state file reads back as the value, unless the request was
explicit and already within the bounds; then nothing changed. -/
theorem configure_file :
    (f.get w.vm ≠ 0 ∧ min ≤ f.get w.vm ∧ f.get w.vm ≤ max ∧ configure name f default min max w = (.ok (), w)) ∨
      ReadsBack name f (configure name f default min max w).2 := by
  by_cases hz : f.get w.vm = 0
  · refine .inr ?_
    simp only [configure, bind_apply, getVM_apply, hz, if_true, attempt_apply, loadStateData_world hd]
    have hdef : ReadsBack name f (defaultSaved name f default min max w).2 :=
      defaultSaved_readsBack hd hf hr hlo hmm hhi
    rcases hf with hn | ⟨d, hd'⟩
    · rw [loadStateData_none hd _ hn (by rcases hr with hr | hr <;> simp [hr])]
      simpa [hz] using hdef
    · rw [loadStateData_file hd _ hd']
      cases hs : Fmt.fscanfInt d with
      | error e => by_cases hu : e = .unexpectedEOF <;> simpa [hu, hz] using hdef
      | ok v =>
        by_cases hv : v = 0
        · simpa [hv] using defaultSaved_readsBack (w := { w with vm := f.set w.vm v }) (by simpa using hd)
            (.inr ⟨d, by simpa using hd'⟩) (by simpa using hr) hlo hmm hhi
        · simp only [hs, hv, bind_apply, modifyVM_apply, getVM_apply, f.get_set, if_false]
          rcases clampSaved_readsBack (w := { w with vm := f.set w.vm v }) (by simpa using hd)
            (.inr ⟨d, by simpa using hd'⟩) (by simpa using hr) hlo hmm hhi with ⟨-, -, e⟩ | h
          · rw [e]; exact ⟨d, by simpa using hd', by simpa using hs⟩
          · exact h
  · rcases clampSaved_readsBack hd hf hr hlo hmm hhi with ⟨h1, h2, e⟩ | h
    · exact .inl ⟨hz, h1, h2, by simp [configure, hz, e]⟩
    · exact .inr (by simpa [configure, hz] using h)

omit hf hr hlo hmm hhi in
/-- A run with no request, on a file that reads back as `e ≠ 0`, clamps `e`. -/
theorem configure_loaded (hz : f.get w.vm = 0) {d : List Char} {e : Int}
    (hfile : w.host.fs ⟨w.vm.hostDataDir, [name]⟩ = some (.file d)) (hs : Fmt.fscanfInt d = .ok e)
    (he : e ≠ 0) : f.get (configure name f default min max w).2.vm = clamp e min max := by
  rw [configure_get, request, if_neg (not_not.2 hz), loadStateData_file hd _ hfile, hs]
  simp [he]

end File

/-- What `configureCPUs` promises about its state file `name`: unless the request was
explicit and within `[min, max]` (then nothing changes), the file reads back as the value
afterwards; and a run with no request, on a file that reads back as `e ≠ 0`, clamps `e`. -/
def Persists (name : String) (f : Field) (min max : Nat) (x : Go Unit) (w : World) : Prop :=
  ((f.get w.vm ≠ 0 ∧ min ≤ f.get w.vm ∧ f.get w.vm ≤ max ∧ x w = (.ok (), w)) ∨
      ReadsBack name f (x w).2) ∧
    ∀ d e, f.get w.vm = 0 → w.host.fs ⟨w.vm.hostDataDir, [name]⟩ = some (.file d) →
      Fmt.fscanfInt d = .ok e → e ≠ 0 → f.get (x w).2.vm = clamp e min max

theorem configure_persists {w : World} {min max : Nat} (hmm : min ≤ max) (hmax : max < 2 ^ 63)
    (hd : w.vm.hostDataDir ≠ "") (hr : w.host.DirOrFree ⟨w.vm.hostDataDir, []⟩)
    (hf : w.host.FileOrFree ⟨w.vm.hostDataDir, [name]⟩) :
    Persists name f min max (configure name f default (intOfUint64 min) (intOfUint64 max)) w := by
  have hlt : min < 2 ^ 63 := by omega
  have h := @configure_file name f default (intOfUint64 min) (intOfUint64 max) w hd hf hr
  rw [intOfUint64_of_lt hmax, intOfUint64_of_lt hlt] at h ⊢
  exact ⟨h (by omega) (by omega) (by omega), fun d e hz hfile hs he => configure_loaded hd hz hfile hs he⟩

end Jetpack
