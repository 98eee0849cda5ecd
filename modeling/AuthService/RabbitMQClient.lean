import AuthService.Transition.Run
import Mathlib.Algebra.Group.Nat.Defs
import Mathlib.Data.Finset.Card
import Mathlib.Data.List.Perm.Basic

/-!
# AuthService.RabbitMQClient

`RabbitMQClient` on the Node event loop, method by method. A step (`Turn`) runs one piece of code
between two awaits: a `publish` call, the continuation of a suspended `connect()` call, the handler
of a connection or channel event, or a reconnect timer.

* `EventEnvelope`, `BufferedEvent`, `Delivery` — an event when published, buffered, handed to the channel.
* `publish`, `bufferEvent`, `flushBuffer`, `trackMessageId` — what happens to it.
* `ConnectPhase`, `resolved`, `rejected`       — a `connect()` call, await by await.
* `scheduleReconnect`, `timerFired`            — the reconnect loop.
* `step`                                       — one turn of the event loop.

The broker decides for every message whether `channel.publish` takes it or throws: `accepts`. A payload
that `JSON.stringify` rejects counts as not accepted, since both calls stand in the same `try`. The
fields `published`, `handed` and `overflows` are the history of the client. `ping` and the shutdown
are left out.
-/

namespace Auth

open Transition

/-- `correlationId || uuidv4()`. -/
inductive CorrelationId where
  | given (id : String)
  | generated (uuid : Nat)
  deriving DecidableEq

structure EventEnvelope (P : Type) where
  messageId : Nat
  timestamp : Int
  source : String
  type : String
  correlationId : CorrelationId
  payload : P
  deriving DecidableEq

structure BufferedEvent (P : Type) where
  eventType : String
  envelope : EventEnvelope P
  deriving DecidableEq

/-- The arguments of one `channel.publish`; `timestamp` is in seconds. -/
structure Delivery (P : Type) where
  exchange : String
  routingKey : String
  envelope : EventEnvelope P
  persistent : Bool
  messageId : Nat
  correlationId : CorrelationId
  contentType : String
  timestamp : Int
  appId : String
  deriving DecidableEq

/-- The await at which a `connect()` call is suspended. -/
inductive ConnectPhase where
  | connecting
  | creatingChannel
  | prefetching
  | assertingExchange
  | flushing
  deriving DecidableEq

def MAX_BUFFER_SIZE : Nat := 1000

def MAX_IDEMPOTENCY_SET_SIZE : Nat := 10000

def MAX_RECONNECT_DELAY_MS : Nat := 30000

structure RabbitMQClient (P : Type) where
  exchange : String
  connection : Option Nat
  channel : Option Nat
  connected : Bool
  eventBuffer : List (BufferedEvent P)
  publishedMessageIds : Finset Nat
  reconnecting : Bool
  /-- The `connect()` calls in progress. -/
  connects : List ConnectPhase
  /-- The pending reconnect timers, each with the instant it is due. -/
  timers : List Int
  /-- Connections and channels that carry the handlers of `connect()`. -/
  watchedConnections : List Nat
  watchedChannels : List Nat
  supply : Nat
  now : Int
  /-- Every envelope that `publish` was called for, in order. -/
  published : List (EventEnvelope P)
  /-- Every message that `channel.publish` took, in order. -/
  handed : List (Delivery P)
  /-- The buffers that were found full, each as it was before its head was dropped. -/
  overflows : List (List (BufferedEvent P))

namespace RabbitMQClient

variable {P : Type}

/-- `onModuleInit` has called `connect()`. -/
def onModuleInit (exchange : String) (supply : Nat) (now : Int) : RabbitMQClient P where
  exchange := exchange
  connection := none
  channel := none
  connected := false
  eventBuffer := []
  publishedMessageIds := ∅
  reconnecting := false
  connects := [.connecting]
  timers := []
  watchedConnections := []
  watchedChannels := []
  supply := supply
  now := now
  published := []
  handed := []
  overflows := []

/-! ## Publishing -/

def trackMessageId (s : RabbitMQClient P) (messageId : Nat) : RabbitMQClient P :=
  { s with
    publishedMessageIds :=
      if s.publishedMessageIds.card ≥ MAX_IDEMPOTENCY_SET_SIZE then {messageId}
      else insert messageId s.publishedMessageIds }

def bufferEvent (s : RabbitMQClient P) (event : BufferedEvent P) : RabbitMQClient P :=
  if s.eventBuffer.length ≥ MAX_BUFFER_SIZE then
    { s with
      eventBuffer := s.eventBuffer.tail ++ [event], overflows := s.overflows ++ [s.eventBuffer] }
  else { s with eventBuffer := s.eventBuffer ++ [event] }

def delivery (s : RabbitMQClient P) (event : BufferedEvent P) : Delivery P where
  exchange := s.exchange
  routingKey := event.eventType
  envelope := event.envelope
  persistent := true
  messageId := event.envelope.messageId
  correlationId := event.envelope.correlationId
  contentType := "application/json"
  timestamp := s.now / 1000
  appId := "auth-service"

/-- `channel.publish` takes the message. -/
def handOver (s : RabbitMQClient P) (event : BufferedEvent P) : RabbitMQClient P :=
  { s with handed := s.handed ++ [s.delivery event] }.trackMessageId event.envelope.messageId

/-- The envelope that `publish` builds next. -/
def newEnvelope (s : RabbitMQClient P) (eventType : String) (payload : P)
    (correlationId : Option String) : EventEnvelope P where
  messageId := s.supply
  timestamp := s.now
  source := "auth-service"
  type := eventType
  correlationId :=
    match correlationId with
    | some id => if id = "" then .generated (s.supply + 1) else .given id
    | none => .generated (s.supply + 1)
  payload := payload

def publish (s : RabbitMQClient P) (eventType : String) (payload : P)
    (correlationId : Option String) (accepts : EventEnvelope P → Bool) : RabbitMQClient P :=
  let envelope := s.newEnvelope eventType payload correlationId
  let s := { s with supply := s.supply + 2, published := s.published ++ [envelope] }
  if envelope.messageId ∈ s.publishedMessageIds then s
  else if !s.connected || s.channel.isNone then s.bufferEvent ⟨eventType, envelope⟩
  else if accepts envelope then s.handOver ⟨eventType, envelope⟩
  else s.bufferEvent ⟨eventType, envelope⟩

/-- One pass of the flush loop. -/
def flushEvent (accepts : EventEnvelope P → Bool) (s : RabbitMQClient P)
    (buffered : BufferedEvent P) : RabbitMQClient P :=
  if s.channel.isNone then { s with eventBuffer := s.eventBuffer ++ [buffered] }
  else if accepts buffered.envelope then s.handOver buffered
  else { s with eventBuffer := s.eventBuffer ++ [buffered] }

def flushBuffer (s : RabbitMQClient P) (accepts : EventEnvelope P → Bool) : RabbitMQClient P :=
  if s.eventBuffer.isEmpty then s
  else s.eventBuffer.foldl (flushEvent accepts) { s with eventBuffer := [] }

/-! ## Connecting -/

def reconnectDelay (attempt : Nat) : Nat := min (2 ^ attempt * 1000) MAX_RECONNECT_DELAY_MS

/-- The timer of the `attempt`-th try. -/
def tryReconnect (s : RabbitMQClient P) (attempt : Nat) : RabbitMQClient P :=
  { s with timers := s.timers ++ [s.now + reconnectDelay attempt] }

def scheduleReconnect (s : RabbitMQClient P) : RabbitMQClient P :=
  if s.reconnecting then s else tryReconnect { s with reconnecting := true } 1

/-- The `catch` of `connect()`; the call then returns normally. -/
def connectFailed (s : RabbitMQClient P) (i : Nat) : RabbitMQClient P :=
  scheduleReconnect { s with connected := false, connects := s.connects.eraseIdx i }

/-- The await of the `i`-th `connect()` call resolves. -/
def resolved (s : RabbitMQClient P) (i : Nat) (accepts : EventEnvelope P → Bool) :
    RabbitMQClient P :=
  match s.connects[i]? with
  | none => s
  | some .connecting =>
    { s with
      connection := some s.supply, watchedConnections := s.supply :: s.watchedConnections
      supply := s.supply + 1, connects := s.connects.set i .creatingChannel }
  | some .creatingChannel =>
    { s with
      channel := some s.supply, supply := s.supply + 1, connects := s.connects.set i .prefetching }
  | some .prefetching =>
    match s.channel with
    -- `this.channel.on` on a channel that was set to null meanwhile
    | none => s.connectFailed i
    | some channel =>
      { s with
        watchedChannels := channel :: s.watchedChannels
        connects := s.connects.set i .assertingExchange }
  | some .assertingExchange =>
    { s with connected := true, reconnecting := false,
             connects := s.connects.set i .flushing }.flushBuffer accepts
  | some .flushing => { s with connects := s.connects.eraseIdx i }

/-- The await of the `i`-th `connect()` call rejects; `flushBuffer` never does. -/
def rejected (s : RabbitMQClient P) (i : Nat) : RabbitMQClient P :=
  match s.connects[i]? with
  | none => s
  | some .flushing => s
  | some _ => s.connectFailed i

/-- The 'error' and the 'close' handler of a connection. -/
def connectionLost (s : RabbitMQClient P) (connection : Nat) : RabbitMQClient P :=
  if connection ∈ s.watchedConnections then scheduleReconnect { s with connected := false } else s

/-- The 'error' and the 'close' handler of a channel. -/
def channelLost (s : RabbitMQClient P) (channel : Nat) : RabbitMQClient P :=
  if channel ∈ s.watchedChannels then { s with channel := none } else s

/-- The `i`-th timer, when it is due: `tryReconnect` calls `connect()`. That call never rejects, so
the `catch` of `tryReconnect` with its next attempt is never entered. -/
def timerFired (s : RabbitMQClient P) (i : Nat) : RabbitMQClient P :=
  match s.timers[i]? with
  | none => s
  | some due =>
    if due ≤ s.now then
      { s with timers := s.timers.eraseIdx i, connects := s.connects ++ [.connecting] }
    else s

/-! ## The event loop -/

inductive Turn (P : Type) where
  | publish (eventType : String) (payload : P) (correlationId : Option String)
      (accepts : EventEnvelope P → Bool)
  | resolved (i : Nat) (accepts : EventEnvelope P → Bool)
  | rejected (i : Nat)
  | connectionLost (connection : Nat)
  | channelLost (channel : Nat)
  | timerFired (i : Nat)
  | pass (milliseconds : Nat)

def step (s : RabbitMQClient P) : Turn P → RabbitMQClient P
  | .publish eventType payload correlationId accepts =>
    s.publish eventType payload correlationId accepts
  | .resolved i accepts => s.resolved i accepts
  | .rejected i => s.rejected i
  | .connectionLost connection => s.connectionLost connection
  | .channelLost channel => s.channelLost channel
  | .timerFired i => s.timerFired i
  | .pass milliseconds => { s with now := s.now + milliseconds }

end RabbitMQClient
end Auth
