import WorkloadScan.Engine.Step

/-! What the parts of a step leave as it is. -/
namespace WorkloadScan.Engine
variable {β : Type} (f : Engine → β)

theorem ask_frame
    (hf : ∀ e requests replies journal, f { e with requests, replies, journal } = f e)
    (caller : Caller) (q : Registry.Request) (e : Engine) : f (ask caller q e) = f e := by
  unfold ask
  split
  · exact hf e _ _ _
  · exact hf e _ e.replies e.journal

theorem recordObject_frame
    (hf : ∀ e debouncer unsignalled journal, f { e with debouncer, unsignalled, journal } = f e)
    (c : Config) (kind : Kind) (object : Cluster.Object) (targets : List Target) (e : Engine) :
    f (recordObject c kind object targets e) = f e := by
  unfold recordObject
  split
  · rfl
  · split
    · exact hf e _ _ _
    · rfl

theorem flush_frame
    (hf : ∀ e flusher requests replies journal,
      f { e with flusher, requests, replies, journal } = f e)
    (batch : Batch) (final : Bool) (e : Engine) : f (flush batch final e) = f e := by
  have hask := ask_frame f (fun e requests replies journal => hf e e.flusher requests replies journal)
  rw [flush, hask]
  exact hf e _ e.requests e.replies e.journal

theorem firePoll_frame
    (hf : ∀ e flusher requests replies journal,
      f { e with flusher, requests, replies, journal } = f e)
    (e : Engine) (p : Debouncer.Poll) : f (firePoll e p) = f e := by
  cases p with
  | ready batch =>
    rw [firePoll, flush_frame f hf]
    exact hf e e.flusher e.requests e.replies _
  | idle | discarded | postponed => exact hf e _ e.requests e.replies _

theorem flushRest_frame
    (hf : ∀ e flusher requests replies journal,
      f { e with flusher, requests, replies, journal } = f e)
    (e : Engine) (r : Debouncer.Remainder) : f (flushRest e r) = f e := by
  cases r with
  | discarded batch => exact hf e _ e.requests e.replies _
  | ready batch =>
    rw [flushRest]
    split
    · exact hf e _ e.requests e.replies _
    · rw [flush_frame f hf]
      exact hf e e.flusher e.requests e.replies _

section Fields
variable (caller : Caller) (q : Registry.Request) (e : Engine) (c : Config) (kind : Kind)
  (object : Cluster.Object) (targets : List Target) (p : Debouncer.Poll)
  (r : Debouncer.Remainder)

@[simp] theorem ask_debouncer : (ask caller q e).debouncer = e.debouncer :=
  ask_frame (·.debouncer) (fun _ _ _ _ => rfl) caller q e

@[simp] theorem ask_flusher : (ask caller q e).flusher = e.flusher :=
  ask_frame (·.flusher) (fun _ _ _ _ => rfl) caller q e

@[simp] theorem ask_registry : (ask caller q e).registry = e.registry :=
  ask_frame (·.registry) (fun _ _ _ _ => rfl) caller q e

@[simp] theorem ask_reconciling : (ask caller q e).reconciling = e.reconciling :=
  ask_frame (·.reconciling) (fun _ _ _ _ => rfl) caller q e

@[simp] theorem ask_watches : (ask caller q e).watches = e.watches :=
  ask_frame (·.watches) (fun _ _ _ _ => rfl) caller q e

@[simp] theorem ask_service : (ask caller q e).service = e.service :=
  ask_frame (·.service) (fun _ _ _ _ => rfl) caller q e

@[simp] theorem ask_now : (ask caller q e).now = e.now :=
  ask_frame (·.now) (fun _ _ _ _ => rfl) caller q e

@[simp] theorem ask_held : (ask caller q e).held = e.held :=
  ask_frame (·.held) (fun _ _ _ _ => rfl) caller q e

@[simp] theorem ask_signal : (ask caller q e).signal = e.signal :=
  ask_frame (·.signal) (fun _ _ _ _ => rfl) caller q e

@[simp] theorem ask_unsignalled : (ask caller q e).unsignalled = e.unsignalled :=
  ask_frame (·.unsignalled) (fun _ _ _ _ => rfl) caller q e

@[simp] theorem ask_metrics : (ask caller q e).journal.metrics = e.journal.metrics := by
  unfold ask
  split <;> rfl

@[simp] theorem recordObject_now : (recordObject c kind object targets e).now = e.now :=
  recordObject_frame (·.now) (fun _ _ _ _ => rfl) c kind object targets e

@[simp] theorem recordObject_flusher :
    (recordObject c kind object targets e).flusher = e.flusher :=
  recordObject_frame (·.flusher) (fun _ _ _ _ => rfl) c kind object targets e

@[simp] theorem recordObject_registry :
    (recordObject c kind object targets e).registry = e.registry :=
  recordObject_frame (·.registry) (fun _ _ _ _ => rfl) c kind object targets e

@[simp] theorem recordObject_requests :
    (recordObject c kind object targets e).requests = e.requests :=
  recordObject_frame (·.requests) (fun _ _ _ _ => rfl) c kind object targets e

@[simp] theorem recordObject_replies :
    (recordObject c kind object targets e).replies = e.replies :=
  recordObject_frame (·.replies) (fun _ _ _ _ => rfl) c kind object targets e

@[simp] theorem recordObject_reconciling :
    (recordObject c kind object targets e).reconciling = e.reconciling :=
  recordObject_frame (·.reconciling) (fun _ _ _ _ => rfl) c kind object targets e

@[simp] theorem recordObject_watches :
    (recordObject c kind object targets e).watches = e.watches :=
  recordObject_frame (·.watches) (fun _ _ _ _ => rfl) c kind object targets e

@[simp] theorem recordObject_service :
    (recordObject c kind object targets e).service = e.service :=
  recordObject_frame (·.service) (fun _ _ _ _ => rfl) c kind object targets e

@[simp] theorem firePoll_now : (firePoll e p).now = e.now :=
  firePoll_frame (·.now) (fun _ _ _ _ _ => rfl) e p

@[simp] theorem firePoll_debouncer : (firePoll e p).debouncer = e.debouncer :=
  firePoll_frame (·.debouncer) (fun _ _ _ _ _ => rfl) e p

@[simp] theorem firePoll_reconciling : (firePoll e p).reconciling = e.reconciling :=
  firePoll_frame (·.reconciling) (fun _ _ _ _ _ => rfl) e p

@[simp] theorem firePoll_watches : (firePoll e p).watches = e.watches :=
  firePoll_frame (·.watches) (fun _ _ _ _ _ => rfl) e p

@[simp] theorem firePoll_held : (firePoll e p).held = e.held :=
  firePoll_frame (·.held) (fun _ _ _ _ _ => rfl) e p

@[simp] theorem firePoll_service : (firePoll e p).service = e.service :=
  firePoll_frame (·.service) (fun _ _ _ _ _ => rfl) e p

@[simp] theorem flushRest_now : (flushRest e r).now = e.now :=
  flushRest_frame (·.now) (fun _ _ _ _ _ => rfl) e r

@[simp] theorem flushRest_debouncer : (flushRest e r).debouncer = e.debouncer :=
  flushRest_frame (·.debouncer) (fun _ _ _ _ _ => rfl) e r

@[simp] theorem flushRest_reconciling : (flushRest e r).reconciling = e.reconciling :=
  flushRest_frame (·.reconciling) (fun _ _ _ _ _ => rfl) e r

@[simp] theorem flushRest_watches : (flushRest e r).watches = e.watches :=
  flushRest_frame (·.watches) (fun _ _ _ _ _ => rfl) e r

@[simp] theorem flushRest_held : (flushRest e r).held = e.held :=
  flushRest_frame (·.held) (fun _ _ _ _ _ => rfl) e r

@[simp] theorem flushRest_service : (flushRest e r).service = e.service :=
  flushRest_frame (·.service) (fun _ _ _ _ _ => rfl) e r

end Fields
end WorkloadScan.Engine
