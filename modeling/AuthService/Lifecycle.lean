import AuthService.Reconnect

/-!
# AuthService.Lifecycle

Connections and channels that outlive their use: `RabbitMQClient` after a reconnect, and after
`onModuleDestroy`.

* `Superseded`, `Ignores`   — an event of a connection or channel that is not the current one, and a
  client that takes no notice of it.
* `superseded_ignored_iff`  — runs in which all such events are ignored.
* `Module`, `Module.step`   — the client together with `onModuleDestroy`, await by await.
* `Final`, `GivenUp`        — a shutdown that is final, and the clients for which it is:
  `shutdown_final_iff`.

The handlers test neither which object they stand for nor whether the client has been shut down. The
handshake of `connection.close()` itself runs one of them: `shutdown_reconnects`.
-/

namespace Auth

open Transition

namespace RabbitMQClient

variable {P : Type} {s : RabbitMQClient P} {t : Turn P}

/-! ## Events of superseded objects -/

/-- The turn is an event of a connection or channel other than the current one. -/
def Superseded (s : RabbitMQClient P) : Turn P → Prop
  | .connectionLost connection => s.connection ≠ some connection
  | .channelLost channel => s.channel ≠ some channel
  | _ => False

instance (s : RabbitMQClient P) : (t : Turn P) → Decidable (s.Superseded t)
  | .connectionLost connection => inferInstanceAs (Decidable (s.connection ≠ some connection))
  | .channelLost channel => inferInstanceAs (Decidable (s.channel ≠ some channel))
  | .publish _ _ _ _ => .isFalse not_false
  | .resolved _ _ => .isFalse not_false
  | .rejected _ => .isFalse not_false
  | .timerFired _ => .isFalse not_false
  | .pass _ => .isFalse not_false

/-- The turn leaves `connected` and `channel` alone and schedules no reconnect. -/
structure Ignores (s : RabbitMQClient P) (t : Turn P) : Prop where
  connected : (s.step t).connected = s.connected
  channel : (s.step t).channel = s.channel
  timers : (s.step t).timers = s.timers

instance (s : RabbitMQClient P) (t : Turn P) : Decidable (s.Ignores t) :=
  decidable_of_iff ((s.step t).connected = s.connected ∧ (s.step t).channel = s.channel ∧
      (s.step t).timers = s.timers)
    ⟨fun h => ⟨h.1, h.2.1, h.2.2⟩, fun h => ⟨h.connected, h.channel, h.timers⟩⟩

/-- The object of the event carries no handlers, or these find nothing to do: the client is not
connected and a retry loop is under way, or there is no channel. -/
def Idle (s : RabbitMQClient P) : Turn P → Prop
  | .connectionLost connection =>
    connection ∈ s.watchedConnections → s.connected = false ∧ s.reconnecting = true
  | .channelLost channel => channel ∈ s.watchedChannels → s.channel = none
  | _ => True

theorem scheduleReconnect_timers : s.scheduleReconnect.timers = s.timers ↔ s.reconnecting = true := by
  unfold scheduleReconnect
  cases hre : s.reconnecting with
  | true => simp
  | false => simp [tryReconnect]

@[simp] theorem scheduleReconnect_connected : s.scheduleReconnect.connected = s.connected := by
  unfold scheduleReconnect
  split <;> rfl

@[simp] theorem scheduleReconnect_channel : s.scheduleReconnect.channel = s.channel := by
  unfold scheduleReconnect
  split <;> rfl

theorem ignores_connectionLost (connection : Nat) :
    s.Ignores (.connectionLost connection) ↔ s.Idle (.connectionLost connection) := by
  by_cases hw : connection ∈ s.watchedConnections
  · have hstep : s.step (.connectionLost connection) =
        scheduleReconnect { s with connected := false } := if_pos hw
    constructor
    · intro h _
      have hconn := h.connected
      have htimers := h.timers
      rw [hstep] at hconn htimers
      have hre : { s with connected := false }.reconnecting = true :=
        scheduleReconnect_timers.mp htimers
      exact ⟨by simpa using hconn.symm, hre⟩
    · intro h
      obtain ⟨hconn, hre⟩ := h hw
      refine ⟨?_, ?_, ?_⟩
      · rw [hstep, hconn]
        simp
      · rw [hstep]
        simp
      · rw [hstep]
        exact scheduleReconnect_timers.mpr hre
  · have hstep : s.step (.connectionLost connection) = s := if_neg hw
    constructor
    · intro _ h
      exact absurd h hw
    · intro _
      exact ⟨by rw [hstep], by rw [hstep], by rw [hstep]⟩

theorem ignores_channelLost (channel : Nat) :
    s.Ignores (.channelLost channel) ↔ s.Idle (.channelLost channel) := by
  by_cases hw : channel ∈ s.watchedChannels
  · have hstep : s.step (.channelLost channel) = { s with channel := none } := if_pos hw
    constructor
    · intro h _
      have hchannel := h.channel
      rw [hstep] at hchannel
      exact hchannel.symm
    · intro h
      exact ⟨by rw [hstep], by rw [hstep, h hw], by rw [hstep]⟩
  · have hstep : s.step (.channelLost channel) = s := if_neg hw
    constructor
    · intro _ h
      exact absurd h hw
    · intro _
      exact ⟨by rw [hstep], by rw [hstep], by rw [hstep]⟩

theorem ignores_iff (h : s.Superseded t) : s.Ignores t ↔ s.Idle t := by
  cases t with
  | connectionLost connection => exact ignores_connectionLost connection
  | channelLost channel => exact ignores_channelLost channel
  | _ => exact h.elim

/-- From `onModuleInit` on, the events of superseded objects are ignored iff each finds the handlers
with nothing to do. -/
theorem superseded_ignored_iff (exchange : String) (supply : Nat) (now : Int) (ts : List (Turn P)) :
    Along step (fun s t => s.Superseded t → s.Ignores t) (onModuleInit exchange supply now) ts ↔
      Along step (fun s t => s.Superseded t → s.Idle t) (onModuleInit exchange supply now) ts :=
  along_congr fun _ _ => forall_congr' ignores_iff

/-- The first attempt gets a connection but no channel. The second one succeeds, and then the
connection of the first one closes. -/
def lateClose : List (Turn Unit) :=
  [.resolved 0 (fun _ => true), .rejected 0, .pass 2000, .timerFired 0] ++
    List.replicate 4 (.resolved 0 fun _ => true) ++ [.connectionLost 0]

theorem superseded_not_ignored :
    ¬ ∀ (exchange : String) (supply : Nat) (now : Int) (ts : List (Turn Unit)),
      Along step (fun s t => s.Superseded t → s.Ignores t) (onModuleInit exchange supply now) ts := by
  intro h
  have hrun := h "auth.events" 0 0 lateClose
  revert hrun
  decide +kernel

/-! ## What every state has in common -/

/-- The current channel and the connections that carry handlers. -/
def handles (s : RabbitMQClient P) : Option Nat × List Nat := (s.channel, s.watchedConnections)

@[simp] theorem handles_bufferEvent (event : BufferedEvent P) :
    (s.bufferEvent event).handles = s.handles := by
  unfold bufferEvent
  split <;> rfl

@[simp] theorem handles_publish (eventType : String) (payload : P) (correlationId : Option String)
    (accepts : EventEnvelope P → Bool) :
    (s.publish eventType payload correlationId accepts).handles = s.handles := by
  simp only [publish]
  split
  · rfl
  · split
    · rw [handles_bufferEvent]; rfl
    · split
      · rfl
      · rw [handles_bufferEvent]; rfl

theorem handles_foldl_flushEvent (accepts : EventEnvelope P → Bool) (events : List (BufferedEvent P)) :
    (events.foldl (flushEvent accepts) s).handles = s.handles := by
  induction events generalizing s with
  | nil => rfl
  | cons event events ih =>
    rw [List.foldl_cons, ih]
    unfold flushEvent
    split
    · rfl
    · split <;> rfl

@[simp] theorem handles_flushBuffer (accepts : EventEnvelope P → Bool) :
    (s.flushBuffer accepts).handles = s.handles := by
  unfold flushBuffer
  split
  · rfl
  · rw [handles_foldl_flushEvent]; rfl

/-- A connected client has no retry loop running. Before the first connection the first `connect()`
call is still under way, as long as it has not failed. -/
structure Tracked (s : RabbitMQClient P) : Prop where
  idle : s.connected = true → s.reconnecting = false
  opened : s.watchedConnections = [] → ∀ φ ∈ s.connects, φ = .connecting
  fresh : s.reconnecting = false → s.watchedConnections = [] → s.connects ≠ []

theorem tracked_of_same {s' : RabbitMQClient P} (hloop : s'.loop = s.loop)
    (hhandles : s'.handles = s.handles) (h : s.Tracked) : s'.Tracked := by
  simp only [loop, handles, Prod.mk.injEq] at hloop hhandles
  obtain ⟨hconn, hre, hcalls, -⟩ := hloop
  obtain ⟨-, hwatched⟩ := hhandles
  refine ⟨?_, ?_, ?_⟩
  · rw [hconn, hre]
    exact h.idle
  · rw [hwatched, hcalls]
    exact h.opened
  · rw [hre, hwatched, hcalls]
    exact h.fresh

@[simp] theorem scheduleReconnect_reconnecting : s.scheduleReconnect.reconnecting = true := by
  unfold scheduleReconnect
  split
  · assumption
  · rfl

@[simp] theorem scheduleReconnect_connects : s.scheduleReconnect.connects = s.connects := by
  unfold scheduleReconnect
  split <;> rfl

@[simp] theorem scheduleReconnect_watched :
    s.scheduleReconnect.watchedConnections = s.watchedConnections := by
  unfold scheduleReconnect
  split <;> rfl

theorem tracked_connectFailed (h : s.Tracked) (i : Nat) : (s.connectFailed i).Tracked := by
  unfold connectFailed
  refine ⟨?_, ?_, ?_⟩
  · intro hconn
    simp at hconn
  · intro hwatched φ hφ
    rw [scheduleReconnect_connects] at hφ
    rw [scheduleReconnect_watched] at hwatched
    exact h.opened hwatched φ (List.mem_of_mem_eraseIdx hφ)
  · intro hre
    simp at hre

theorem tracked_resolved (h : s.Tracked) (i : Nat) (accepts : EventEnvelope P → Bool) :
    (s.resolved i accepts).Tracked := by
  have hopened : ∀ φ, s.connects[i]? = some φ → φ ≠ .connecting → s.watchedConnections ≠ [] := by
    intro φ hφ hne hwatched
    exact hne (h.opened hwatched φ (List.mem_of_getElem? hφ))
  unfold resolved
  split
  · exact h
  · refine ⟨h.idle, ?_, ?_⟩
    · intro hw
      simp at hw
    · intro _ hw
      simp at hw
  · rename_i hphase
    have hw := hopened _ hphase (by simp)
    exact ⟨h.idle, fun h' => absurd h' hw, fun _ h' => absurd h' hw⟩
  · rename_i hphase
    have hw := hopened _ hphase (by simp)
    split
    · exact tracked_connectFailed h i
    · exact ⟨h.idle, fun h' => absurd h' hw, fun _ h' => absurd h' hw⟩
  · rename_i hphase
    have hw := hopened _ hphase (by simp)
    refine tracked_of_same (loop_flushBuffer accepts) (handles_flushBuffer accepts) ?_
    exact ⟨fun _ => rfl, fun h' => absurd h' hw, fun _ h' => absurd h' hw⟩
  · rename_i hphase
    have hw := hopened _ hphase (by simp)
    exact ⟨h.idle, fun h' => absurd h' hw, fun _ h' => absurd h' hw⟩

theorem tracked_step (h : s.Tracked) (t : Turn P) : (s.step t).Tracked := by
  cases t with
  | publish eventType payload correlationId accepts =>
    exact tracked_of_same (loop_publish _ _ _ _) (handles_publish _ _ _ _) h
  | resolved i accepts => exact tracked_resolved h i accepts
  | rejected i =>
    show (s.rejected i).Tracked
    unfold rejected
    split
    · exact h
    · exact h
    · exact tracked_connectFailed h i
  | connectionLost connection =>
    show (s.connectionLost connection).Tracked
    unfold connectionLost
    split
    · rename_i hmem
      have hw : s.watchedConnections ≠ [] := List.ne_nil_of_mem hmem
      refine ⟨?_, ?_, ?_⟩
      · intro hconn
        simp at hconn
      · intro hwatched
        simp [hw] at hwatched
      · intro hre
        simp at hre
    · exact h
  | channelLost channel =>
    show (s.channelLost channel).Tracked
    unfold channelLost
    split
    · exact ⟨h.idle, h.opened, h.fresh⟩
    · exact h
  | timerFired i =>
    show (s.timerFired i).Tracked
    unfold timerFired
    split
    · exact h
    · split
      · refine ⟨h.idle, ?_, ?_⟩
        · intro hw φ hφ
          rcases List.mem_append.mp hφ with hφ | hφ
          · exact h.opened hw φ hφ
          · simpa using hφ
        · intro _ _
          simp
      · exact h
  | pass milliseconds => exact ⟨h.idle, h.opened, h.fresh⟩

theorem tracked_run (exchange : String) (supply : Nat) (now : Int) (ts : List (Turn P)) :
    (run step (onModuleInit exchange supply now) ts).Tracked := by
  have hstart : (onModuleInit exchange supply now : RabbitMQClient P).Tracked := by
    refine ⟨?_, ?_, ?_⟩
    · intro hconn
      cases hconn
    · intro _ φ hφ
      simpa [onModuleInit] using hφ
    · intro _ _
      simp [onModuleInit]
  have hall : Always step Tracked (onModuleInit exchange supply now) ts :=
    always_of_invariant (fun _ t h => tracked_step h t) hstart
  exact hall.final

/-- The client will not connect any more, whatever happens: its retry loop has ended without clearing
`reconnecting`, and the `connect()` calls left have done their work or are about to fail. -/
structure GivenUp (s : RabbitMQClient P) : Prop where
  reconnecting : s.reconnecting = true
  timers : s.timers = []
  connects : ∀ φ ∈ s.connects, φ = .flushing ∨ φ = .prefetching ∧ s.channel = none

theorem scheduleReconnect_eq_self (h : s.reconnecting = true) : s.scheduleReconnect = s := if_pos h

theorem givenUp_connectFailed (h : s.GivenUp) (i : Nat) :
    (s.connectFailed i).GivenUp ∧ (s.connectFailed i).connected = false := by
  have heq : s.connectFailed i = { s with connected := false, connects := s.connects.eraseIdx i } :=
    scheduleReconnect_eq_self h.reconnecting
  rw [heq]
  exact ⟨⟨h.reconnecting, h.timers, fun φ hφ => h.connects φ (List.mem_of_mem_eraseIdx hφ)⟩, rfl⟩

/-- A client that has given up stays so, and disconnected. -/
theorem givenUp_step (h : s.GivenUp) (hconn : s.connected = false) (t : Turn P) :
    (s.step t).GivenUp ∧ (s.step t).connected = false := by
  cases t with
  | publish eventType payload correlationId accepts =>
    have hloop := loop_publish (s := s) eventType payload correlationId accepts
    have hhandles := handles_publish (s := s) eventType payload correlationId accepts
    simp only [loop, handles, Prod.mk.injEq] at hloop hhandles
    obtain ⟨hc, hre, hcalls, htimers⟩ := hloop
    refine ⟨⟨hre.trans h.reconnecting, htimers.trans h.timers, ?_⟩, hc.trans hconn⟩
    show ∀ φ ∈ (s.publish eventType payload correlationId accepts).connects, φ = .flushing ∨
      φ = .prefetching ∧ (s.publish eventType payload correlationId accepts).channel = none
    rw [hcalls, hhandles.1]
    exact h.connects
  | resolved i accepts =>
    show (s.resolved i accepts).GivenUp ∧ (s.resolved i accepts).connected = false
    have hphases : ∀ φ, s.connects[i]? = some φ → φ = .flushing ∨ φ = .prefetching ∧ s.channel = none :=
      fun φ hφ => h.connects φ (List.mem_of_getElem? hφ)
    unfold resolved
    split
    · exact ⟨h, hconn⟩
    · rename_i hphase
      simpa using hphases _ hphase
    · rename_i hphase
      simpa using hphases _ hphase
    · rename_i hphase
      have hnull : s.channel = none := by simpa using hphases _ hphase
      rw [hnull]
      exact givenUp_connectFailed h i
    · rename_i hphase
      simpa using hphases _ hphase
    · exact ⟨⟨h.reconnecting, h.timers, fun φ hφ => h.connects φ (List.mem_of_mem_eraseIdx hφ)⟩, hconn⟩
  | rejected i =>
    show (s.rejected i).GivenUp ∧ (s.rejected i).connected = false
    unfold rejected
    split
    · exact ⟨h, hconn⟩
    · exact ⟨h, hconn⟩
    · exact givenUp_connectFailed h i
  | connectionLost connection =>
    show (s.connectionLost connection).GivenUp ∧ (s.connectionLost connection).connected = false
    unfold connectionLost
    split
    · have heq : scheduleReconnect { s with connected := false } = { s with connected := false } :=
        scheduleReconnect_eq_self h.reconnecting
      rw [heq]
      exact ⟨⟨h.reconnecting, h.timers, h.connects⟩, rfl⟩
    · exact ⟨h, hconn⟩
  | channelLost channel =>
    show (s.channelLost channel).GivenUp ∧ (s.channelLost channel).connected = false
    unfold channelLost
    split
    · exact ⟨⟨h.reconnecting, h.timers, fun φ hφ => (h.connects φ hφ).imp_right
        fun hφ => ⟨hφ.1, rfl⟩⟩, hconn⟩
    · exact ⟨h, hconn⟩
  | timerFired i =>
    have heq : s.step (.timerFired i) = s := by
      simp [step, timerFired, h.timers]
    rw [heq]
    exact ⟨h, hconn⟩
  | pass milliseconds => exact ⟨⟨h.reconnecting, h.timers, h.connects⟩, hconn⟩

end RabbitMQClient

/-! ## Shutdown -/

open RabbitMQClient

variable {P : Type}

/-- The await at which `onModuleDestroy` is suspended; `destroyed` once it has completed. -/
inductive ShutdownPhase where
  | closingChannel
  | closingConnection
  | destroyed
  deriving DecidableEq

/-- A client for which `onModuleDestroy` has been called. -/
structure Shutdown (P : Type) where
  client : RabbitMQClient P
  phase : ShutdownPhase

/-- A turn of the client, or the `close()` that `onModuleDestroy` awaits resolves or rejects. -/
inductive ShutdownTurn (P : Type) where
  | client (t : Turn P)
  | closed
  | closeFailed

namespace Shutdown

/-- `onModuleDestroy` from its second `if` on. -/
def closeConnection (client : RabbitMQClient P) : Shutdown P :=
  match client.connection with
  | some _ => ⟨client, .closingConnection⟩
  | none => ⟨{ client with connected := false }, .destroyed⟩

/-- `onModuleDestroy` up to its first await. -/
def onModuleDestroy (client : RabbitMQClient P) : Shutdown P :=
  match client.channel with
  | some _ => ⟨client, .closingChannel⟩
  | none => closeConnection client

def closed (m : Shutdown P) : Shutdown P :=
  match m.phase with
  | .closingChannel => closeConnection { m.client with channel := none }
  | .closingConnection => ⟨{ m.client with connection := none, connected := false }, .destroyed⟩
  | .destroyed => m

/-- The error is logged, and the fields stay as they are. -/
def closeFailed (m : Shutdown P) : Shutdown P := { m with phase := .destroyed }

def step (m : Shutdown P) : ShutdownTurn P → Shutdown P
  | .client t => { m with client := m.client.step t }
  | .closed => m.closed
  | .closeFailed => m.closeFailed

/-- The turn in which `amqplib.connect` resolves. -/
def Opens (m : Shutdown P) : ShutdownTurn P → Prop
  | .client (.resolved i _) => m.client.connects[i]? = some .connecting
  | _ => False

/-- Once `onModuleDestroy` has completed, the client is disconnected and opens no connection. -/
structure Final (m : Shutdown P) (ts : List (ShutdownTurn P)) : Prop where
  disconnected : Always step (fun m => m.phase = .destroyed → m.client.connected = false) m ts
  unopened : Along step (fun m t => m.phase = .destroyed → ¬ m.Opens t) m ts

variable {m : Shutdown P} {s : RabbitMQClient P}

/-! ### A client that has given up -/

theorem givenUp_closeConnection (h : s.GivenUp) (hconn : s.connected = false) :
    (closeConnection s).client.GivenUp ∧ (closeConnection s).client.connected = false := by
  unfold closeConnection
  split
  · exact ⟨h, hconn⟩
  · exact ⟨⟨h.reconnecting, h.timers, h.connects⟩, rfl⟩

theorem givenUp_module (h : m.client.GivenUp) (hconn : m.client.connected = false)
    (t : ShutdownTurn P) : (m.step t).client.GivenUp ∧ (m.step t).client.connected = false := by
  cases t with
  | client t => exact givenUp_step h hconn t
  | closed =>
    show m.closed.client.GivenUp ∧ m.closed.client.connected = false
    unfold closed
    split
    · refine givenUp_closeConnection ⟨h.reconnecting, h.timers, ?_⟩ hconn
      intro φ hφ
      exact (h.connects φ hφ).imp_right fun hφ => ⟨hφ.1, rfl⟩
    · exact ⟨⟨h.reconnecting, h.timers, h.connects⟩, rfl⟩
    · exact ⟨h, hconn⟩
  | closeFailed => exact ⟨h, hconn⟩

theorem not_opens_of_givenUp (h : m.client.GivenUp) (t : ShutdownTurn P) : ¬ m.Opens t := by
  intro hopens
  unfold Opens at hopens
  split at hopens
  · have hφ := h.connects _ (List.mem_of_getElem? hopens)
    simp at hφ
  · exact hopens

theorem final_of_givenUp (h : m.client.GivenUp) (hconn : m.client.connected = false)
    (ts : List (ShutdownTurn P)) : m.Final ts := by
  induction ts generalizing m with
  | nil => exact ⟨fun _ => hconn, trivial⟩
  | cons t ts ih =>
    obtain ⟨h', hconn'⟩ := givenUp_module h hconn t
    have hrest := ih h' hconn'
    exact ⟨⟨fun _ => hconn, hrest.disconnected⟩, fun _ => not_opens_of_givenUp h t, hrest.unopened⟩

/-! ### A client that can still connect -/

/-- Whatever happens from here on, the shutdown is final. -/
def Lasting (m : Shutdown P) : Prop := ∀ ts, m.Final ts

theorem Lasting.step (h : m.Lasting) (t : ShutdownTurn P) : (m.step t).Lasting :=
  fun ts => ⟨(h (t :: ts)).disconnected.2, (h (t :: ts)).unopened.2⟩

theorem getElem?_set_of_some {φ φ' : ConnectPhase} {i : Nat} {l : List ConnectPhase}
    (h : l[i]? = some φ) : (l.set i φ')[i]? = some φ' := by
  obtain ⟨hi, -⟩ := List.getElem?_eq_some_iff.mp h
  simp [hi]

theorem not_lasting_connecting {i : Nat} (h : s.connects[i]? = some .connecting) :
    ¬ Lasting ⟨s, .destroyed⟩ := by
  intro hlast
  exact (hlast [.client (.resolved i fun _ => true)]).unopened.1 rfl h

/-- A pending timer comes due, and its `connect()` call gets a connection. -/
theorem not_lasting_timer (h : s.timers ≠ []) : ¬ Lasting ⟨s, .destroyed⟩ := by
  intro hlast
  obtain ⟨due, timers, htimers⟩ := List.exists_cons_of_ne_nil h
  have hdue : due ≤ s.now + ((due - s.now).toNat : Int) := by omega
  have hfired := (hlast.step (.client (.pass (due - s.now).toNat))).step (.client (.timerFired 0))
  have hstep : (RabbitMQClient.step { s with now := s.now + ((due - s.now).toNat : Int) }
      (.timerFired 0)).connects = s.connects ++ [.connecting] := by
    simp only [RabbitMQClient.step, timerFired, htimers, List.getElem?_cons_zero, if_pos hdue]
  refine not_lasting_connecting (i := s.connects.length) ?_ hfired
  show (RabbitMQClient.step { s with now := s.now + ((due - s.now).toNat : Int) }
    (.timerFired 0)).connects[s.connects.length]? = some .connecting
  rw [hstep]
  simp

theorem scheduleReconnect_timers_ne (h : s.reconnecting = false) : s.scheduleReconnect.timers ≠ [] := by
  simp [scheduleReconnect, h, tryReconnect]

theorem not_lasting_loss {connection : Nat} (hw : connection ∈ s.watchedConnections)
    (hre : s.reconnecting = false) : ¬ Lasting ⟨s, .destroyed⟩ := by
  intro hlast
  have hlost := hlast.step (.client (.connectionLost connection))
  have hstep : s.step (.connectionLost connection) =
      scheduleReconnect { s with connected := false } := if_pos hw
  refine not_lasting_timer ?_ hlost
  show (s.step (.connectionLost connection)).timers ≠ []
  rw [hstep]
  exact scheduleReconnect_timers_ne hre

theorem not_lasting_asserting {i : Nat} (h : s.connects[i]? = some .assertingExchange) :
    ¬ Lasting ⟨s, .destroyed⟩ := by
  intro hlast
  have hconn := (hlast.step (.client (.resolved i fun _ => true)) []).disconnected rfl
  have hloop := loop_flushBuffer (s := { s with
    connected := true, reconnecting := false, connects := s.connects.set i .flushing }) fun _ => true
  have hstep : s.step (.resolved i fun _ => true) = flushBuffer { s with
      connected := true, reconnecting := false, connects := s.connects.set i .flushing }
        (fun _ => true) := by
    simp only [RabbitMQClient.step, resolved, h]
  have htrue : (s.step (.resolved i fun _ => true)).connected = true := by
    rw [hstep]
    exact congrArg Prod.fst hloop
  rw [show (Shutdown.step ⟨s, .destroyed⟩ (.client (.resolved i fun _ => true))).client =
    s.step (.resolved i fun _ => true) from rfl, htrue] at hconn
  cases hconn

theorem step_prefetching {i channel : Nat} (h : s.connects[i]? = some .prefetching)
    (hchannel : s.channel = some channel) :
    s.step (.resolved i fun _ => true) = { s with
      watchedChannels := channel :: s.watchedChannels
      connects := s.connects.set i .assertingExchange } := by
  simp only [RabbitMQClient.step, resolved, h, hchannel]

theorem not_lasting_creating {i : Nat} (h : s.connects[i]? = some .creatingChannel) :
    ¬ Lasting ⟨s, .destroyed⟩ := by
  intro hlast
  let s₁ : RabbitMQClient P := { s with
    channel := some s.supply, supply := s.supply + 1, connects := s.connects.set i .prefetching }
  have hcreated : s.step (.resolved i fun _ => true) = s₁ := by
    simp only [RabbitMQClient.step, resolved, h, s₁]
  have hphase : s₁.connects[i]? = some .prefetching := getElem?_set_of_some h
  have hlast₁ := hlast.step (.client (.resolved i fun _ => true))
  rw [show Shutdown.step ⟨s, .destroyed⟩ (.client (.resolved i fun _ => true)) = ⟨s₁, .destroyed⟩ from
    congrArg (Shutdown.mk · .destroyed) hcreated] at hlast₁
  have hlast₂ := hlast₁.step (.client (.resolved i fun _ => true))
  rw [show Shutdown.step ⟨s₁, .destroyed⟩ (.client (.resolved i fun _ => true)) = ⟨_, .destroyed⟩ from
    congrArg (Shutdown.mk · .destroyed) (step_prefetching hphase rfl)] at hlast₂
  exact not_lasting_asserting (getElem?_set_of_some hphase) hlast₂

/-- The client after the two `close()` calls. -/
def torn (s : RabbitMQClient P) : RabbitMQClient P :=
  { s with channel := none, connection := none, connected := false }

theorem lasting_closeConnection (hchannel : s.channel = none) (h : (closeConnection s).Lasting) :
    Lasting ⟨torn s, .destroyed⟩ := by
  unfold closeConnection at h
  split at h
  · have hclosed := h.step .closed
    rw [show Shutdown.step ⟨s, .closingConnection⟩ .closed = ⟨torn s, .destroyed⟩ by
      simp [Shutdown.step, closed, torn, ← hchannel]] at hclosed
    exact hclosed
  · rename_i hconnection
    rw [show ({ s with connected := false } : RabbitMQClient P) = torn s by
      simp [torn, hchannel, hconnection]] at h
    exact h

/-- Both `close()` calls resolve. -/
theorem lasting_torn (h : (onModuleDestroy s).Lasting) : Lasting ⟨torn s, .destroyed⟩ := by
  unfold onModuleDestroy at h
  split at h
  · exact lasting_closeConnection (s := { s with channel := none }) rfl (h.step .closed)
  · rename_i hchannel
    exact lasting_closeConnection hchannel h

/-- A `connect()` call whose channel is there goes on while the channel is being closed. -/
theorem not_lasting_prefetching {i channel : Nat} (h : s.connects[i]? = some .prefetching)
    (hchannel : s.channel = some channel) : ¬ (onModuleDestroy s).Lasting := by
  intro hlast
  let s₁ : RabbitMQClient P := { s with
    watchedChannels := channel :: s.watchedChannels
    connects := s.connects.set i .assertingExchange }
  have hstep : (onModuleDestroy s).step (.client (.resolved i fun _ => true)) = onModuleDestroy s₁ := by
    simp only [onModuleDestroy, hchannel, Shutdown.step, step_prefetching h hchannel, s₁]
  have hlast₁ := hlast.step (.client (.resolved i fun _ => true))
  rw [hstep] at hlast₁
  refine not_lasting_asserting (i := i) ?_ (lasting_torn hlast₁)
  exact getElem?_set_of_some h

theorem givenUp_of_lasting (hs : s.Tracked) (h : (onModuleDestroy s).Lasting) : s.GivenUp := by
  have htorn := lasting_torn h
  have hre : s.reconnecting = true := by
    by_contra hre
    rw [Bool.not_eq_true] at hre
    cases hw : s.watchedConnections with
    | nil =>
      obtain ⟨φ, rest, hcalls⟩ := List.exists_cons_of_ne_nil (hs.fresh hre hw)
      have hφ : φ = .connecting := hs.opened hw φ (by simp [hcalls])
      refine not_lasting_connecting (s := torn s) (i := 0) ?_ htorn
      show s.connects[0]? = some .connecting
      simp [hcalls, hφ]
    | cons connection rest =>
      have hmem : connection ∈ (torn s).watchedConnections := by
        show connection ∈ s.watchedConnections
        simp [hw]
      exact not_lasting_loss hmem hre htorn
  refine ⟨hre, ?_, ?_⟩
  · by_contra htimers
    exact not_lasting_timer (s := torn s) htimers htorn
  · intro φ hφ
    obtain ⟨i, hi⟩ := List.mem_iff_getElem?.mp hφ
    cases φ with
    | flushing => exact .inl rfl
    | connecting => exact (not_lasting_connecting (s := torn s) hi htorn).elim
    | creatingChannel => exact (not_lasting_creating (s := torn s) hi htorn).elim
    | assertingExchange => exact (not_lasting_asserting (s := torn s) hi htorn).elim
    | prefetching =>
      cases hchannel : s.channel with
      | none => exact .inr ⟨rfl, rfl⟩
      | some channel => exact (not_lasting_prefetching hi hchannel h).elim

/-- The shutdown of a client is final iff the client had given up for good when `onModuleDestroy` was
called. -/
theorem shutdown_final_iff (exchange : String) (supply : Nat) (now : Int) (before : List (Turn P)) :
    (∀ after, (onModuleDestroy
        (run RabbitMQClient.step (onModuleInit exchange supply now) before)).Final after) ↔
      (run RabbitMQClient.step (onModuleInit exchange supply now : RabbitMQClient P) before).GivenUp := by
  have hs := tracked_run (P := P) exchange supply now before
  constructor
  · exact givenUp_of_lasting hs
  · intro h after
    have hconn : (run RabbitMQClient.step (onModuleInit exchange supply now : RabbitMQClient P)
        before).connected = false := by
      by_contra hconn
      have hidle := hs.idle (by simpa using hconn)
      rw [h.reconnecting] at hidle
      cases hidle
    have hstart : (onModuleDestroy (run RabbitMQClient.step (onModuleInit exchange supply now)
        before)).client.GivenUp ∧ (onModuleDestroy (run RabbitMQClient.step
          (onModuleInit exchange supply now : RabbitMQClient P) before)).client.connected = false := by
      unfold onModuleDestroy
      split
      · exact ⟨h, hconn⟩
      · exact givenUp_closeConnection h hconn
    exact final_of_givenUp hstart.1 hstart.2 after

/-- The client connects and is shut down; the handshake of `connection.close()` emits 'close', and
the reconnect that this schedules opens a new connection. -/
theorem shutdown_reconnects :
    ¬ ∀ (exchange : String) (supply : Nat) (now : Int) (before : List (Turn Unit))
      (after : List (ShutdownTurn Unit)), (onModuleDestroy
        (run RabbitMQClient.step (onModuleInit exchange supply now) before)).Final after := by
  intro h
  have hrun := (h "auth.events" 0 0 (List.replicate 5 (.resolved 0 fun _ => true))
    ([.closed, .client (.connectionLost 0), .closed, .client (.pass 2000), .client (.timerFired 0)] ++
      List.replicate 4 (.client (.resolved 0 fun _ => true)))).disconnected.final
  revert hrun
  decide +kernel

end Shutdown
end Auth
