import AuthService.RabbitMQClient

/-!
# AuthService.Reconnect

The reconnect loop of `RabbitMQClient`, for any order of failing and succeeding awaits, of connection
and channel events, of timers and of `publish` calls.

* `SelfHealing`         — while not connected, a `connect()` call is in progress or a timer is pending.
* `failing`, `returning` — the `connect()` call that a turn ends, by an exception or normally.
* `EndCovered`          — a call that ends without a connection leaves a retry behind: it schedules one,
  or another call or timer is there already.
* `self_healing_iff`    — a run is self-healing throughout iff every turn is so covered.

`scheduleReconnect` does nothing while `reconnecting` is set, and only a successful `connect()` clears
it. The first retry that fails is therefore the last: `retries_only_once`.
-/

namespace Auth

open Transition

namespace RabbitMQClient

variable {P : Type} {s : RabbitMQClient P}

def SelfHealing (s : RabbitMQClient P) : Prop :=
  s.connected = false → s.connects ≠ [] ∨ s.timers ≠ []

instance : DecidablePred (SelfHealing (P := P)) := fun _ => inferInstanceAs (Decidable (_ → _))

/-- The `connect()` call that fails in this turn. -/
def failing (s : RabbitMQClient P) : Turn P → Option Nat
  | .rejected i =>
    match s.connects[i]? with
    | none => none
    | some .flushing => none
    | some _ => some i
  | .resolved i _ => if s.connects[i]? = some .prefetching ∧ s.channel = none then some i else none
  | _ => none

/-- The `connect()` call that returns after its flush in this turn. -/
def returning (s : RabbitMQClient P) : Turn P → Option Nat
  | .resolved i _ => if s.connects[i]? = some .flushing then some i else none
  | _ => none

/-- Beside the `i`-th `connect()` call, another one is in progress or a timer is pending. -/
def RetryWaits (s : RabbitMQClient P) (i : Nat) : Prop := s.connects.eraseIdx i ≠ [] ∨ s.timers ≠ []

structure EndCovered (s : RabbitMQClient P) (t : Turn P) : Prop where
  failing : ∀ i, s.failing t = some i → s.reconnecting = false ∨ s.RetryWaits i
  returning : ∀ i, s.returning t = some i → s.connected = true ∨ s.RetryWaits i

/-! ## What the way of an event leaves alone -/

/-- The fields of the reconnect loop. -/
def loop (s : RabbitMQClient P) : Bool × Bool × List ConnectPhase × List Int :=
  (s.connected, s.reconnecting, s.connects, s.timers)

@[simp] theorem loop_bufferEvent (event : BufferedEvent P) : (s.bufferEvent event).loop = s.loop := by
  unfold bufferEvent
  split <;> rfl

@[simp] theorem loop_publish (eventType : String) (payload : P) (correlationId : Option String)
    (accepts : EventEnvelope P → Bool) :
    (s.publish eventType payload correlationId accepts).loop = s.loop := by
  simp only [publish]
  split
  · rfl
  · split
    · rw [loop_bufferEvent]; rfl
    · split
      · rfl
      · rw [loop_bufferEvent]; rfl

@[simp] theorem loop_flushEvent (accepts : EventEnvelope P → Bool) (event : BufferedEvent P) :
    (s.flushEvent accepts event).loop = s.loop := by
  unfold flushEvent
  split
  · rfl
  · split <;> rfl

theorem loop_foldl_flushEvent (accepts : EventEnvelope P → Bool) (events : List (BufferedEvent P)) :
    (events.foldl (flushEvent accepts) s).loop = s.loop := by
  induction events generalizing s with
  | nil => rfl
  | cons event events ih => rw [List.foldl_cons, ih, loop_flushEvent]

@[simp] theorem loop_flushBuffer (accepts : EventEnvelope P → Bool) :
    (s.flushBuffer accepts).loop = s.loop := by
  unfold flushBuffer
  split
  · rfl
  · rw [loop_foldl_flushEvent]; rfl

/-! ## One turn -/

/-- A client that is connected has no retry loop running, and one that is not will try again. -/
structure Healing (s : RabbitMQClient P) : Prop where
  idle : s.connected = true → s.reconnecting = false
  heals : s.SelfHealing

theorem healing_of_loop {s' : RabbitMQClient P} (h : s'.loop = s.loop) (hI : s.Healing) :
    s'.Healing := by
  simp only [loop, Prod.mk.injEq] at h
  obtain ⟨hconn, hre, hcalls, htimers⟩ := h
  exact ⟨by rw [hconn, hre]; exact hI.idle,
    by unfold SelfHealing; rw [hconn, hcalls, htimers]; exact hI.heals⟩

/-- After a loss the retry loop runs already, or it is started. -/
theorem healing_scheduleReconnect (hconn : s.connected = false)
    (h : s.reconnecting = false ∨ s.connects ≠ [] ∨ s.timers ≠ []) :
    s.scheduleReconnect.Healing := by
  unfold scheduleReconnect
  split
  · rename_i hre
    refine ⟨fun hc => ?_, fun _ => ?_⟩
    · rw [hconn] at hc; cases hc
    · rcases h with h | h
      · rw [h] at hre; cases hre
      · exact h
  · refine ⟨fun hc => ?_, fun _ => .inr (by simp [tryReconnect])⟩
    rw [show _ = s.connected from rfl, hconn] at hc; cases hc

theorem healing_connectFailed {i : Nat} (h : s.reconnecting = false ∨ s.RetryWaits i) :
    (s.connectFailed i).Healing := healing_scheduleReconnect rfl h

theorem healing_connectionLost (hI : s.Healing) (connection : Nat) :
    (s.connectionLost connection).Healing := by
  unfold connectionLost
  split
  · refine healing_scheduleReconnect rfl ?_
    cases hconn : s.connected with
    | true => exact .inl (hI.idle hconn)
    | false => exact .inr (hI.heals hconn)
  · exact hI

theorem healing_resolved (hI : s.Healing) {i : Nat} {accepts : EventEnvelope P → Bool}
    (hC : s.EndCovered (.resolved i accepts)) : (s.resolved i accepts).Healing := by
  have hset : ∀ φ, s.connects.set i φ = [] → s.connects = [] := fun φ h => by simpa using h
  unfold resolved
  split
  · exact hI
  · exact ⟨hI.idle, fun hc => (hI.heals hc).imp_left fun h h' => h (hset _ h')⟩
  · exact ⟨hI.idle, fun hc => (hI.heals hc).imp_left fun h h' => h (hset _ h')⟩
  · rename_i hphase
    split
    · rename_i hnull
      exact healing_connectFailed (hC.failing i (by simp [failing, hphase, hnull]))
    · exact ⟨hI.idle, fun hc => (hI.heals hc).imp_left fun h h' => h (hset _ h')⟩
  · exact healing_of_loop (loop_flushBuffer accepts) ⟨fun _ => rfl, fun hc => by cases hc⟩
  · rename_i hphase
    refine ⟨hI.idle, fun hc => ?_⟩
    rcases hC.returning i (by simp [returning, hphase]) with h | h
    · rw [show _ = s.connected from rfl, h] at hc; cases hc
    · exact h

theorem healing_rejected (hI : s.Healing) {i : Nat} (hC : s.EndCovered (.rejected i)) :
    (s.rejected i).Healing := by
  unfold rejected
  cases hphase : s.connects[i]? with
  | none => exact hI
  | some phase =>
    cases phase with
    | flushing => exact hI
    | _ => exact healing_connectFailed (hC.failing i (by simp [failing, hphase]))

theorem healing_timerFired (hI : s.Healing) (i : Nat) : (s.timerFired i).Healing := by
  unfold timerFired
  split
  · exact hI
  · split
    · exact ⟨hI.idle, fun _ => .inl (by simp)⟩
    · exact hI

theorem healing_step (hI : s.Healing) {t : Turn P} (hC : s.EndCovered t) : (s.step t).Healing := by
  cases t with
  | publish eventType payload correlationId accepts =>
    exact healing_of_loop (loop_publish eventType payload correlationId accepts) hI
  | resolved i accepts => exact healing_resolved hI hC
  | rejected i => exact healing_rejected hI hC
  | connectionLost connection => exact healing_connectionLost hI connection
  | channelLost channel =>
    refine healing_of_loop ?_ hI
    show (s.channelLost channel).loop = _
    unfold channelLost
    split <;> rfl
  | timerFired i => exact healing_timerFired hI i
  | pass milliseconds => exact ⟨hI.idle, hI.heals⟩

theorem step_of_failing {t : Turn P} {i : Nat} (h : s.failing t = some i) :
    s.step t = s.connectFailed i := by
  cases t with
  | rejected j =>
    cases hphase : s.connects[j]? with
    | none => simp [failing, hphase] at h
    | some phase => cases phase <;> simp_all [failing, step, rejected]
  | resolved j accepts =>
    simp only [failing] at h
    split at h
    · rename_i hj
      cases h
      simp only [step, resolved, hj.1, hj.2]
    · cases h
  | _ => cases h

theorem step_of_returning {t : Turn P} {i : Nat} (h : s.returning t = some i) :
    s.step t = { s with connects := s.connects.eraseIdx i } := by
  cases t with
  | resolved j accepts =>
    simp only [returning] at h
    split at h
    · rename_i hj
      cases h
      simp only [step, resolved, hj]
    · cases h
  | _ => cases h

/-- A call that ends uncovered leaves the client disconnected for good. -/
theorem endCovered_of_step {t : Turn P} (h : (s.step t).SelfHealing) : s.EndCovered t := by
  refine ⟨fun i hi => ?_, fun i hi => ?_⟩
  · rw [step_of_failing hi, connectFailed, scheduleReconnect] at h
    cases hre : s.reconnecting with
    | false => exact .inl rfl
    | true =>
      simp only [hre, if_true] at h
      exact .inr (h rfl)
  · rw [step_of_returning hi] at h
    cases hconn : s.connected with
    | true => exact .inl rfl
    | false => exact .inr (h hconn)

/-! ## Runs -/

/-- From `onModuleInit` on, the client keeps healing itself iff no `connect()` call ends uncovered. -/
theorem self_healing_iff (exchange : String) (supply : Nat) (now : Int) (ts : List (Turn P)) :
    Always step SelfHealing (onModuleInit exchange supply now) ts ↔
      Along step EndCovered (onModuleInit exchange supply now) ts := by
  constructor
  · exact along_of_always fun s t h => endCovered_of_step h
  · intro hC
    have h0 : (onModuleInit exchange supply now : RabbitMQClient P).Healing :=
      ⟨fun hc => (by cases hc), fun _ => .inl (by simp [onModuleInit])⟩
    have hall := always_of_along (I := Healing) (fun s t hI hC => healing_step hI hC) h0 hC
    exact hall.mono fun s h => h.heals

/-- The initial connect and the first retry fail. -/
def retryFails : List (Turn Unit) := [.rejected 0, .pass 2000, .timerFired 0, .rejected 0]

theorem retries_only_once :
    ¬ ∀ (exchange : String) (supply : Nat) (now : Int) (ts : List (Turn Unit)),
      Always step SelfHealing (onModuleInit exchange supply now) ts := by
  intro h
  have hend : SelfHealing (run step (onModuleInit "auth.events" 0 0) retryFails) :=
    (h "auth.events" 0 0 retryFails).final
  revert hend
  decide +kernel

end RabbitMQClient
end Auth
