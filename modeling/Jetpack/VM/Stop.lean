import Jetpack.VM.Start

/-!
# Stopping the VM

`Stop` starts a goroutine that asks the engine to stop the instance (`RequestStop`). When the
request fails or is rejected the goroutine forces the stop (`vzvm.Stop()`) and sends an error
on the unbuffered channel `ch`; when it is accepted it closes `ch`. The caller returns from a
`select` on `ctx.Done()` and `ch`, whichever is ready; when both are, Go picks either.

The goroutine, the caller and the context move by `StopEvent`s in any order a schedule
gives; `StopState.step` allows each event only in the states where Go could take it. So a
list of events that `StopState.run` accepts is an interleaving, and every interleaving is
one such list.

* `StopState.Inv`: what holds in every reachable state (`StopState.inv_run`): the goroutine's
  position agrees with what `RequestStop` returned, `ch` is closed only after an accepted
  request, and an error reaches the caller only after `vzvm.Stop()`.
* `stop_nil_only_if_accepted`: `Stop` returns nil only after `RequestStop` returned
  `(true, nil)`; a failed or rejected request reaches the caller as its error, after the
  forced stop.
* `cancelled_stop_returns`: with the context already cancelled, `Stop` can always return,
  and returns `ctx.Err()` or what the goroutine delivered first.
* `stop_schedules_end`: every schedule has at most four events, and the caller never waits
  on the context alone.
* `goroutine_exits_iff_accepted`: once the caller has taken `ctx.Done()`, the goroutine can
  still exit only after an accepted request; after a refused one it blocks in its send.
* `stop_engine_calls`: the goroutine calls `RequestStop` once, and `vzvm.Stop()` at most once,
  only after a failed or rejected request.
* `stop_results_iff`: the results some schedule lets `Stop` return, for each result of
  `RequestStop`: exactly nil after an accepted request, the goroutine's error after a refused
  one, and the context's error.
-/

namespace Jetpack

/-- Where the goroutine of `Stop` is. -/
inductive Goroutine
  /-- In `ok, err := vm.vzvm.RequestStop()`. -/
  | requesting
  /-- The request failed with `err`, or was rejected: `vm.vzvm.Stop()` is next. -/
  | stopping (err : Option String)
  /-- Blocked in `ch <- e`. -/
  | sending (e : Error)
  /-- `close(ch)` is next. -/
  | closing
  | exited
  deriving DecidableEq, Repr

/-- The case of the caller's `select` that fired, with what `Stop` returns. -/
inductive Return
  /-- `case <-ctx.Done(): return ctx.Err()`. -/
  | done (err : Error)
  /-- `case err := <-ch: return err`; a closed channel gives nil. -/
  | received (err : Option Error)
  deriving DecidableEq, Repr

/-- What `Stop` returns; `none` is nil. -/
def Return.err : Return → Option Error
  | .done e => some e
  | .received e => e

/-- The error the goroutine sends after a failed (`err`) or rejected request. -/
def stopError : Option String → Error
  | some m => (Error.text m).wrap "could not shutdown gracefully"
  | none => .text "invalid machine state for stopping"

/-- The state of one `Stop` on a started VM. -/
structure StopState where
  goroutine : Goroutine
  /-- `ch` is closed. -/
  closed : Bool
  /-- `ctx.Err()`: set once the context is done. -/
  ctxErr : Option Error
  /-- The caller's `select` has fired. -/
  returned : Option Return
  /-- What `RequestStop` returned, once it has. -/
  requested : Option (Bool × Option String)
  /-- The goroutine's engine calls, with their errors. -/
  calls : List (VzCall × Option String)
  deriving DecidableEq, Repr

/-- A step of the goroutine, the caller or the context. -/
inductive StopEvent
  /-- `RequestStop` returns `(ok, err)`. -/
  | requestStop (ok : Bool) (err : Option String)
  /-- `vm.vzvm.Stop()` returns `err`, which is dropped. -/
  | stop (err : Option String)
  /-- `close(ch)`. -/
  | close
  /-- The goroutine's send meets the caller's receive. -/
  | send
  /-- The caller receives from the closed `ch`. -/
  | receiveClosed
  /-- The context is cancelled, or its deadline passes: `ctx.Err()` becomes `err`. -/
  | cancel (err : Error)
  /-- The caller's `select` takes `ctx.Done()`. -/
  | done
  deriving DecidableEq, Repr

namespace StopState

/-- `Stop` on a started VM, just after `go func()`, with `ctx.Err()` as given. -/
def init (ctxErr : Option Error) : StopState := ⟨.requesting, false, ctxErr, none, none, []⟩

/-- The state after the event, if Go can take it here. -/
def step (s : StopState) : StopEvent → Option StopState
  | .requestStop ok err =>
    match s.goroutine with
    | .requesting => some { s with
        goroutine := if !ok || err.isSome then .stopping err else .closing
        requested := some (ok, err)
        calls := s.calls ++ [(.requestStop, err)] }
    | _ => none
  | .stop e =>
    match s.goroutine with
    | .stopping err => some { s with goroutine := .sending (stopError err), calls := s.calls ++ [(.stop, e)] }
    | _ => none
  | .close =>
    match s.goroutine with
    | .closing => some { s with goroutine := .exited, closed := true }
    | _ => none
  | .send =>
    match s.goroutine, s.returned with
    | .sending e, none => some { s with goroutine := .exited, returned := some (.received (some e)) }
    | _, _ => none
  | .receiveClosed =>
    match s.closed, s.returned with
    | true, none => some { s with returned := some (.received none) }
    | _, _ => none
  | .cancel err =>
    match s.ctxErr with
    | none => some { s with ctxErr := some err }
    | some _ => none
  | .done =>
    match s.ctxErr, s.returned with
    | some e, none => some { s with returned := some (.done e) }
    | _, _ => none

/-- The state after a schedule, if Go can take each of its events in turn. -/
def run (s : StopState) : List StopEvent → Option StopState
  | [] => some s
  | e :: es => (s.step e).bind (·.run es)

/-! ### The invariant -/

/-- `RequestStop` returned `(ok, err)`, a failure or a rejection. -/
def Failed (requested : Option (Bool × Option String)) (err : Option String) : Prop :=
  ∃ ok, requested = some (ok, err) ∧ (!ok || err.isSome) = true

/-- The goroutine's position agrees with what `RequestStop` returned. -/
def Position (s : StopState) : Prop :=
  match s.goroutine with
  | .requesting => s.requested = none
  | .stopping err => Failed s.requested err
  | .sending e => ∃ err, Failed s.requested err ∧ e = stopError err ∧ ∃ o, (.stop, o) ∈ s.calls
  | .closing => s.requested = some (true, none)
  | .exited => True

/-- What holds in every state of `Stop` that a schedule reaches. -/
structure Inv (s : StopState) : Prop where
  position : Position s
  closed : s.closed = true → s.requested = some (true, none)
  received : ∀ e, s.returned = some (.received (some e)) →
    ∃ err, Failed s.requested err ∧ e = stopError err ∧ ∃ o, (.stop, o) ∈ s.calls
  receivedNil : s.returned = some (.received none) → s.closed = true
  done : ∀ e, s.returned = some (.done e) → s.ctxErr = some e
  calls : ∀ c ∈ s.calls, c.1 = .requestStop ∨ c.1 = .stop

theorem inv_init (c : Option Error) : (init c).Inv :=
  ⟨rfl, nofun, nofun, nofun, nofun, nofun⟩

/-- The goroutine only ever logs a call to `RequestStop` or to `Stop`. -/
theorem calls_snoc {cs : List (VzCall × Option String)} (h : ∀ c ∈ cs, c.1 = .requestStop ∨ c.1 = .stop)
    {k : VzCall × Option String} (hk : k.1 = .requestStop ∨ k.1 = .stop) :
    ∀ c ∈ cs ++ [k], c.1 = .requestStop ∨ c.1 = .stop :=
  fun c hc => (List.mem_append.1 hc).elim (h c) fun e => List.mem_singleton.1 e ▸ hk

/-- **Every step keeps the invariant**, one case per event. -/
theorem Inv.step {s s' : StopState} (h : s.Inv) {ev : StopEvent} (e : s.step ev = some s') : s'.Inv := by
  obtain ⟨hp, hc, hr, hn, hd, hcalls⟩ := h
  cases ev with
  | requestStop ok err =>
    simp only [StopState.step] at e
    split at e <;> cases e
    rename_i hg
    simp only [Position, hg] at hp
    refine ⟨?_, fun h => absurd (hc h) (by simp [hp]), fun e h => ?_, hn, hd, calls_snoc hcalls (.inl rfl)⟩
    · by_cases hf : (!ok || err.isSome) = true
      · simp only [Position, hf, if_true]; exact ⟨ok, rfl, hf⟩
      · simp only [Position, hf]; simp at hf; simp [hf.1, hf.2]
    · obtain ⟨_, ⟨_, hreq, _⟩, _⟩ := hr e h; simp [hp] at hreq
  | stop o =>
    simp only [StopState.step] at e
    split at e <;> cases e
    rename_i err hg
    simp only [Position, hg] at hp
    exact ⟨⟨err, hp, rfl, o, by simp⟩, hc, fun e h => (hr e h).imp fun _ ⟨a, b, o', c⟩ => ⟨a, b, o', by simp [c]⟩,
      hn, hd, calls_snoc hcalls (.inr rfl)⟩
  | close =>
    simp only [StopState.step] at e
    split at e <;> cases e
    rename_i hg
    simp only [Position, hg] at hp
    exact ⟨trivial, fun _ => hp, hr, fun _ => rfl, hd, hcalls⟩
  | send =>
    simp only [StopState.step] at e
    split at e <;> cases e
    rename_i e' hg hret
    simp only [Position, hg] at hp
    exact ⟨trivial, hc, fun e h => by cases h; exact hp, nofun, nofun, hcalls⟩
  | receiveClosed =>
    simp only [StopState.step] at e
    split at e <;> cases e
    rename_i hcl hret
    exact ⟨hp, hc, nofun, fun _ => hcl, nofun, hcalls⟩
  | cancel err =>
    simp only [StopState.step] at e
    split at e <;> cases e
    rename_i hctx
    exact ⟨hp, hc, hr, hn, fun e h => by simp [hd e h] at hctx, hcalls⟩
  | done =>
    simp only [StopState.step] at e
    split at e <;> cases e
    rename_i e' hctx hret
    exact ⟨hp, hc, nofun, nofun, fun e h => by cases h; exact hctx, hcalls⟩

/-- What every step keeps holds after every schedule. -/
theorem run_preserves {P : StopState → Prop}
    (hstep : ∀ {s s' : StopState} {ev : StopEvent}, P s → s.step ev = some s' → P s') :
    ∀ {evs : List StopEvent} {s s' : StopState}, P s → s.run evs = some s' → P s'
  | [], _, _, h, e => by cases e; exact h
  | _ :: _, _, _, h, e => by
    obtain ⟨_, hs, e⟩ := Option.bind_eq_some.1 e
    exact run_preserves hstep (hstep h hs) e

theorem inv_run {evs : List StopEvent} {s s' : StopState} (h : s.Inv) (e : s.run evs = some s') :
    s'.Inv :=
  run_preserves (fun h e => h.step e) h e

/-- A context that is done stays done, with the same error. -/
theorem ctxErr_step {s s' : StopState} {ev : StopEvent} (e : s.step ev = some s')
    (hc : s.ctxErr.isSome) : s'.ctxErr = s.ctxErr := by
  cases ev <;> simp only [StopState.step] at e <;> split at e <;> cases e <;> first | rfl | simp_all

theorem ctxErr_run {evs : List StopEvent} {s s' : StopState} (e : s.run evs = some s')
    (hc : s.ctxErr.isSome) : s'.ctxErr = s.ctxErr :=
  run_preserves (P := fun t => t.ctxErr = s.ctxErr) (fun h e => (ctxErr_step e (h ▸ hc)).trans h) rfl e

theorem Failed.not_accepted {r : Option (Bool × Option String)} {err : Option String} (h : Failed r err) :
    r ≠ some (true, none) := by
  obtain ⟨ok, rfl, hf⟩ := h
  rintro ⟨⟩
  simp at hf

theorem Failed.unique {r : Option (Bool × Option String)} {err err' : Option String} (h : Failed r err)
    (h' : Failed r err') : err = err' := by
  obtain ⟨ok, rfl, -⟩ := h
  obtain ⟨ok', e, -⟩ := h'
  simp only [Option.some.injEq, Prod.mk.injEq] at e
  exact e.2

end StopState

open StopState

/-- **`Stop` returns nil only after an accepted request; a failed or rejected request reaches
the caller as its error, after the forced stop.** In every state a schedule reaches, whichever
case of the `select` fired: nil means `RequestStop` returned `(true, nil)`; after a failure or
rejection what the caller received from `ch` is the goroutine's error; and the goroutine
delivers it only once it has called `vzvm.Stop()`. -/
theorem stop_nil_only_if_accepted {c : Option Error} {evs : List StopEvent} {s : StopState}
    (h : (init c).run evs = some s) :
    (∀ r, s.returned = some r → r.err = none → s.requested = some (true, none)) ∧
    (∀ x err, Failed s.requested err → s.returned = some (.received x) →
      x = some (stopError err) ∧ ∃ o, (.stop, o) ∈ s.calls) ∧
    (∀ s', s.step .send = some s' → ∃ err, Failed s.requested err ∧ ∃ o, (.stop, o) ∈ s.calls) := by
  obtain ⟨hp, hc, hr, hn, -, -⟩ := inv_run (inv_init c) h
  refine ⟨fun r hret hnil => ?_, fun x err hf hret => ?_, fun s' e => ?_⟩
  · rcases r with _ | _ | _
    · cases hnil
    · exact hc (hn hret)
    · cases hnil
  · rcases x with _ | e
    · exact absurd (hc (hn hret)) hf.not_accepted
    · obtain ⟨err', hf', rfl, hs⟩ := hr e hret
      exact ⟨by rw [hf.unique hf'], hs⟩
  · simp only [StopState.step] at e
    split at e <;> cases e
    rename_i hg _
    simp only [Position, hg] at hp
    obtain ⟨err, hf, -, hs⟩ := hp
    exact ⟨err, hf, hs⟩

theorem stop_nil_only_if_accepted_rejected :
    ∃ s, (init none).run [.requestStop false none, .stop none, .send] = some s ∧
      (∀ r, s.returned = some r → r.err = none → s.requested = some (true, none)) ∧
      (∀ x err, Failed s.requested err → s.returned = some (.received x) →
        x = some (stopError err) ∧ ∃ o, (.stop, o) ∈ s.calls) ∧
      (∀ s', s.step .send = some s' → ∃ err, Failed s.requested err ∧ ∃ o, (.stop, o) ∈ s.calls) :=
  ⟨_, rfl, @stop_nil_only_if_accepted none [.requestStop false none, .stop none, .send] _ rfl⟩

/-- **With the context already cancelled, `Stop` can always return, and returns `ctx.Err()` or
what the goroutine delivered first.** In every state a schedule reaches from a cancelled
context: while the caller waits, its `select` can take `ctx.Done()`; once it has returned, it
returned `ctx.Err()`, or nil after an accepted request, or the goroutine's error after a
failed or rejected one. -/
theorem cancelled_stop_returns (c : Error) {evs : List StopEvent} {s : StopState}
    (h : (init (some c)).run evs = some s) :
    (s.returned = none → (s.step .done).map (·.returned) = some (some (.done c))) ∧
    ∀ r, s.returned = some r → r = .done c ∨
      (r = .received none ∧ s.requested = some (true, none)) ∨
      ∃ err, Failed s.requested err ∧ r = .received (some (stopError err)) := by
  obtain ⟨-, hc, hr, hn, hd, -⟩ := inv_run (inv_init _) h
  have hctx : s.ctxErr = some c := ctxErr_run h rfl
  refine ⟨fun hret => by simp [StopState.step, hctx, hret], fun r hret => ?_⟩
  rcases r with e | _ | e
  · left; rw [hd e hret] at hctx; cases hctx; rfl
  · exact .inr (.inl ⟨rfl, hc (hn hret)⟩)
  · obtain ⟨err, hf, rfl, -⟩ := hr e hret
    exact .inr (.inr ⟨err, hf, rfl⟩)

theorem cancelled_stop_returns_accepted :
    ∃ s, (init (some (.text "context canceled"))).run [.requestStop true none, .close, .receiveClosed] = some s ∧
      (s.returned = none → (s.step .done).map (·.returned) = some (some (.done (.text "context canceled")))) ∧
      ∀ r, s.returned = some r → r = .done (.text "context canceled") ∨
        (r = .received none ∧ s.requested = some (true, none)) ∨
        ∃ err, Failed s.requested err ∧ r = .received (some (stopError err)) :=
  ⟨_, rfl, @cancelled_stop_returns _ [.requestStop true none, .close, .receiveClosed] _ rfl⟩

/-- With the context cancelled before `Stop` is called, the goroutine can close `ch` before
the `select` runs, and the `select` can take `ch`: `Stop` returns nil. After a rejected
request it can return the rejection. -/
theorem cancelled_stop_can_return_nil :
    ((init (some (.text "context canceled"))).run [.requestStop true none, .close, .receiveClosed]).map
        (·.returned.map Return.err) = some (some none) ∧
    ((init (some (.text "context canceled"))).run [.requestStop false none, .stop none, .send]).map
        (·.returned.map Return.err) = some (some (some (.text "invalid machine state for stopping"))) := by
  decide

/-! ### Every schedule ends -/

/-- The goroutine's own moves left: `RequestStop`, then `Stop` or the close. Its send is also
the caller's receive, and counts as the caller's return. -/
def Goroutine.left : Goroutine → Nat
  | .requesting => 2
  | .stopping _ | .closing => 1
  | .sending _ | .exited => 0

namespace StopState

/-- At most how many more events a schedule can take from `s`: the goroutine's moves, the
caller's return, and the context's cancellation. -/
def pending (s : StopState) : Nat :=
  Goroutine.left s.goroutine + (if s.returned = none then 1 else 0) + (if s.ctxErr = none then 1 else 0)

/-- Every event uses up at least one of the moves `pending` counts. -/
theorem pending_step {s s' : StopState} {ev : StopEvent} (e : s.step ev = some s') :
    s'.pending < s.pending := by
  cases ev <;> simp only [StopState.step] at e <;> split at e <;> cases e <;>
    simp only [pending, apply_ite Goroutine.left] <;> simp_all [Goroutine.left]

theorem length_add_pending_le :
    ∀ {evs : List StopEvent} {s s' : StopState}, s.run evs = some s' → evs.length + s'.pending ≤ s.pending
  | [], _, _, e => by cases e; simp
  | _ :: _, _, _, e => by
    obtain ⟨_, hs, e⟩ := Option.bind_eq_some.1 e
    have h₁ := length_add_pending_le e
    have h₂ := pending_step hs
    simp only [List.length_cons]; omega

/-- The goroutine exits by closing `ch`, or by a send the caller received. -/
def Exited (s : StopState) : Prop := s.goroutine = .exited → s.closed = true ∨ ∃ x, s.returned = some (.received x)

theorem exited_step {s s' : StopState} {ev : StopEvent} (h : s.Exited) (e : s.step ev = some s') : s'.Exited := by
  cases ev <;> simp only [StopState.step] at e <;> split at e <;> cases e <;> simp_all [Exited]
  -- `RequestStop`: the goroutine goes on to `Stop` or to the close
  split <;> simp

/-- What the caller returned, once it has, stays. -/
theorem returned_step {s s' : StopState} {ev : StopEvent} {r : Return} (h : s.returned = some r)
    (e : s.step ev = some s') : s'.returned = some r := by
  cases ev <;> simp only [StopState.step] at e <;> split at e <;> cases e <;> simp_all

/-- What `RequestStop` returned, once it has, stays. -/
theorem requested_step {s s' : StopState} {ev : StopEvent} {q : Bool × Option String} (hp : Position s)
    (h : s.requested = some q) (e : s.step ev = some s') : s'.requested = some q := by
  cases ev <;> simp only [StopState.step] at e <;> split at e <;> cases e <;> simp_all [Position]

theorem exited_init (c : Option Error) : (init c).Exited := by simp [Exited, init]

theorem exited_run {evs : List StopEvent} {s s' : StopState} (h : s.Exited) (e : s.run evs = some s') :
    s'.Exited :=
  run_preserves exited_step h e

theorem returned_run {evs : List StopEvent} {s s' : StopState} {r : Return} (h : s.returned = some r)
    (e : s.run evs = some s') : s'.returned = some r :=
  run_preserves (P := fun t => t.returned = some r) returned_step h e

theorem requested_run {evs : List StopEvent} {s s' : StopState} {q : Bool × Option String} (hi : s.Inv)
    (h : s.requested = some q) (e : s.run evs = some s') : s'.requested = some q :=
  (run_preserves (P := fun t => t.Inv ∧ t.requested = some q)
    (fun h e => ⟨h.1.step e, requested_step h.1.position h.2 e⟩) ⟨hi, h⟩ e).2

/-- A state where neither the goroutine nor the channel can move is one where the caller
has returned. -/
theorem returned_of_stuck {s : StopState} (hx : s.Exited)
    (h : ∀ ev, (∀ e, ev ≠ .cancel e) → ev ≠ .done → s.step ev = none) : s.returned ≠ none := by
  intro hr
  cases hg : s.goroutine with
  | requesting => simpa [StopState.step, hg] using h (.requestStop true none) (fun _ => nofun) nofun
  | stopping err => simpa [StopState.step, hg] using h (.stop none) (fun _ => nofun) nofun
  | sending e => simpa [StopState.step, hg, hr] using h .send (fun _ => nofun) nofun
  | closing => simpa [StopState.step, hg] using h .close (fun _ => nofun) nofun
  | exited =>
    rcases hx hg with hcl | ⟨x, hx⟩
    · simpa [StopState.step, hcl, hr] using h .receiveClosed (fun _ => nofun) nofun
    · rw [hr] at hx; cases hx

end StopState

/-- **Every schedule of `Stop` ends, and the caller never waits on the context alone.** A
schedule Go can take has at most four events; and in every state one reaches where the
goroutine and the channel cannot move (no event but the context's cancellation or its
`Done`), the caller has returned. So however the two sides interleave, whatever the engine
answers, and whether or not the context is ever cancelled, `Stop` returns. -/
theorem stop_schedules_end (c : Option Error) {evs : List StopEvent} {s : StopState}
    (h : (init c).run evs = some s) :
    evs.length ≤ 4 ∧ ((∀ ev, (∀ e, ev ≠ .cancel e) → ev ≠ .done → s.step ev = none) → s.returned ≠ none) := by
  refine ⟨?_, returned_of_stuck (exited_run (exited_init c) h)⟩
  have h₁ := length_add_pending_le h
  have h₂ : (init c).pending ≤ 4 := by cases c <;> simp [pending, init, Goroutine.left]
  omega

theorem stop_schedules_end_longest :
    ∃ s, (init none).run [.requestStop false none, .stop none, .send, .cancel (.text "context canceled")] = some s ∧
      [StopEvent.requestStop false none, .stop none, .send, .cancel (.text "context canceled")].length ≤ 4 ∧
      ((∀ ev, (∀ e, ev ≠ .cancel e) → ev ≠ .done → s.step ev = none) → s.returned ≠ none) :=
  ⟨_, rfl, @stop_schedules_end none [.requestStop false none, .stop none, .send, .cancel (.text "context canceled")] _ rfl⟩

/-! ### The goroutine after the caller has returned -/

/-- **After `Stop` returned `ctx.Err()`, its goroutine can still exit exactly when the request
was not refused.** The caller no longer receives from `ch`, so a goroutine with an error to
send blocks in `ch <- e` for ever, while one whose request was accepted closes `ch` and
exits. In every state a schedule reaches where the `select` took `ctx.Done()`, some
continuation lets the goroutine exit exactly when `RequestStop` has not returned yet or
returned `(true, nil)`: after a failed or rejected request the goroutine leaks. -/
theorem goroutine_exits_iff_accepted {c : Option Error} {evs : List StopEvent} {s : StopState} {e : Error}
    (h : (init c).run evs = some s) (hr : s.returned = some (.done e)) :
    (∃ evs' s', s.run evs' = some s' ∧ s'.goroutine = .exited) ↔
      s.requested = none ∨ s.requested = some (true, none) := by
  have hi := inv_run (inv_init c) h
  constructor
  · rintro ⟨evs', s', e', hx⟩
    have hc : s'.closed = true := by
      rcases exited_run (exited_run (exited_init c) h) e' hx with hc | ⟨x, hx'⟩
      · exact hc
      · rw [returned_run hr e'] at hx'; cases hx'
    cases hq : s.requested with
    | none => exact .inl rfl
    | some q => exact .inr (by rw [← requested_run hi hq e', (inv_run hi e').closed hc])
  · intro hq
    have hnf : ∀ err, ¬ Failed s.requested err := by
      rintro err ⟨ok, h₁, h₂⟩
      rcases hq with hq | hq <;> rw [hq] at h₁ <;> cases h₁
      simp at h₂
    have hp := hi.position
    obtain ⟨g, cl, ctx, ret, req, calls⟩ := s
    cases g with
    | requesting => exact ⟨[.requestStop true none, .close], _, rfl, rfl⟩
    | stopping err => exact absurd hp (hnf err)
    | sending x => obtain ⟨err, hf, -⟩ := hp; exact absurd hf (hnf err)
    | closing => exact ⟨[.close], _, rfl, rfl⟩
    | exited => exact ⟨[], _, rfl, rfl⟩

theorem goroutine_exits_iff_accepted_rejected :
    ∃ s, (init (some (.text "context canceled"))).run [.requestStop false none, .done] = some s ∧
      s.returned = some (.done (.text "context canceled")) ∧
      ((∃ evs' s', s.run evs' = some s' ∧ s'.goroutine = .exited) ↔
        s.requested = none ∨ s.requested = some (true, none)) :=
  ⟨_, rfl, rfl, @goroutine_exits_iff_accepted (some (.text "context canceled")) [.requestStop false none, .done] _ _ rfl rfl⟩

/-! ### The engine calls of the goroutine -/

namespace StopState

/-- The `RequestStop` call the goroutine has made, with its error, once it has returned. -/
def requestCall (s : StopState) : List (VzCall × Option String) :=
  (s.requested.map fun r => (VzCall.requestStop, r.2)).toList

/-- The goroutine's calls: `RequestStop` once it has returned, then at most one
`vzvm.Stop()`, made after a failed or rejected request and not before the goroutine has
passed it. -/
def CallsInv (s : StopState) : Prop :=
  ∃ stops, s.calls = s.requestCall ++ stops ∧
    (stops = [] ∨ (∃ err o, Failed s.requested err ∧ stops = [(.stop, o)]) ∧
      s.goroutine ≠ .requesting ∧ ∀ err, s.goroutine ≠ .stopping err)

theorem callsInv_step {s s' : StopState} {ev : StopEvent} (hp : Position s) (h : s.CallsInv)
    (e : s.step ev = some s') : s'.CallsInv := by
  obtain ⟨stops, hc, hs⟩ := h
  cases ev with
  | requestStop ok err =>
    simp only [StopState.step] at e
    split at e <;> cases e
    rename_i hg
    simp only [Position, hg] at hp
    have : stops = [] := hs.resolve_right fun h => h.2.1 hg
    refine ⟨[], ?_, .inl rfl⟩
    simp [requestCall, hc, hp, this]
  | stop o =>
    simp only [StopState.step] at e
    split at e <;> cases e
    rename_i err hg
    simp only [Position, hg] at hp
    have : stops = [] := hs.resolve_right fun h => h.2.2 err hg
    exact ⟨[(.stop, o)], by simp [requestCall, hc, this], .inr ⟨⟨err, o, hp, rfl⟩, nofun, nofun⟩⟩
  | _ =>
    simp only [StopState.step] at e
    split at e <;> cases e
    exact ⟨stops, hc, hs.imp_right fun h => ⟨h.1, by simp [h.2.1], fun err => by simp [h.2.2 err]⟩⟩

theorem callsInv_run {c : Option Error} {evs : List StopEvent} {s : StopState}
    (h : (init c).run evs = some s) : s.CallsInv :=
  (run_preserves (P := fun t => t.Inv ∧ t.CallsInv) (fun h e => ⟨h.1.step e, callsInv_step h.1.position h.2 e⟩)
    ⟨inv_init c, [], rfl, .inl rfl⟩ h).2

end StopState

/-- **`Stop` calls `RequestStop` once, and `vzvm.Stop()` at most once, after a failed or
rejected request.** In every state a schedule reaches, the goroutine's calls are the
`RequestStop` that has returned, with its error, then either nothing or one `Stop`, made
after `RequestStop` failed or returned `false`: an accepted request is never followed by a
forced stop. -/
theorem stop_engine_calls {c : Option Error} {evs : List StopEvent} {s : StopState}
    (h : (init c).run evs = some s) :
    ∃ stops, s.calls = (s.requested.map fun r => (VzCall.requestStop, r.2)).toList ++ stops ∧
      (stops = [] ∨ ∃ err o, Failed s.requested err ∧ stops = [(.stop, o)]) := by
  obtain ⟨stops, hc, hs⟩ := callsInv_run h
  exact ⟨stops, hc, hs.imp_right And.left⟩

theorem stop_engine_calls_rejected :
    ∃ s, (init none).run [.requestStop false none, .stop none, .send] = some s ∧
      ∃ stops, s.calls = (s.requested.map fun r => (VzCall.requestStop, r.2)).toList ++ stops ∧
        (stops = [] ∨ ∃ err o, Failed s.requested err ∧ stops = [(.stop, o)]) :=
  ⟨_, rfl, @stop_engine_calls none [.requestStop false none, .stop none, .send] _ rfl⟩

/-! ### Every result `Stop` can return -/

/-- **What `Stop` can return, exactly.** For every `ctx.Err()` at the call, every result
`(ok, err)` of `RequestStop` and every value `r`: some schedule Go can take ends with
`RequestStop` having returned `(ok, err)` and the caller having returned `r` exactly when `r`
is nil after an accepted request, the goroutine's error after a failed or rejected one, or
an error of the context: the one it already had, or any if it had none. -/
theorem stop_results_iff (c : Option Error) (ok : Bool) (err : Option String) (r : Option Error) :
    (∃ evs s, (init c).run evs = some s ∧ s.requested = some (ok, err) ∧ s.returned.map Return.err = some r) ↔
      (r = none ∧ ok = true ∧ err = none) ∨ (r = some (stopError err) ∧ (!ok || err.isSome) = true) ∨
        ∃ e, r = some e ∧ (c = none ∨ c = some e) := by
  constructor
  · rintro ⟨evs, s, h, hq, hr⟩
    obtain ⟨-, hc, hrec, hn, hd, -⟩ := inv_run (inv_init c) h
    obtain ⟨ret, hret, rfl⟩ := Option.map_eq_some'.1 hr
    rcases ret with e | _ | x
    · refine .inr (.inr ⟨e, rfl, ?_⟩)
      cases c with
      | none => exact .inl rfl
      | some c₀ =>
        have h₁ : s.ctxErr = some c₀ := ctxErr_run h rfl
        rw [hd e hret] at h₁
        exact .inr h₁.symm
    · have := hc (hn hret)
      rw [hq] at this
      cases this
      exact .inl ⟨rfl, rfl, rfl⟩
    · obtain ⟨err', ⟨ok', hq', hf⟩, rfl, -⟩ := hrec x hret
      rw [hq] at hq'
      cases hq'
      exact .inr (.inl ⟨rfl, hf⟩)
  · rintro (⟨rfl, rfl, rfl⟩ | ⟨rfl, hf⟩ | ⟨e, rfl, rfl | rfl⟩)
    · exact ⟨[.requestStop true none, .close, .receiveClosed], _, rfl, rfl, rfl⟩
    · exact ⟨[.requestStop ok err, .stop none, .send],
        ⟨.exited, false, c, some (.received (some (stopError err))), some (ok, err), [(.requestStop, err), (.stop, none)]⟩,
        by simp [StopState.run, StopState.step, init, hf], rfl, rfl⟩
    · exact ⟨[.requestStop ok err, .cancel e, .done], _, rfl, rfl, rfl⟩
    · exact ⟨[.requestStop ok err, .done], _, rfl, rfl, rfl⟩

end Jetpack
