import AuthService.Messaging.Outbox
import AuthService.RabbitMQClient

/-!
# AuthService.EventDelivery

The way of an event through `RabbitMQClient`, for any run of publish calls, losses and flushes.

* `outbox`, `outboxOp`, `outbox_step` — the client refines a store-and-forward outbox: a turn is one of
  its operations or none.
* `EventsAccounted`, `events_accounted` — every event is handed over, buffered or dropped, exactly once,
  and both bounds hold.
* `Drains`, `publish_drains_iff`      — when the next `publish` brings everything to the broker.
* `NoneOvertaken`, `handed_in_order`  — the broker gets the events in the order they were published.

A buffered event leaves the buffer only in the flush of a later `connect()`: `publish` neither creates
a channel nor flushes, `event_stranded`, and hands later events over meanwhile, `event_overtaken`.
-/

namespace Auth

open Transition Messaging

namespace RabbitMQClient

variable {P : Type} {s : RabbitMQClient P}

/-- The envelopes that were dropped as the head of a full buffer. -/
def dropped (s : RabbitMQClient P) : List (EventEnvelope P) :=
  s.overflows.filterMap fun buffer => buffer.head?.map BufferedEvent.envelope

def outbox (s : RabbitMQClient P) : Outbox (EventEnvelope P) where
  offered := s.published
  delivered := s.handed.map Delivery.envelope
  waiting := s.eventBuffer.map BufferedEvent.envelope
  dropped := s.dropped

/-- The channel is there and takes the message. -/
def takes (s : RabbitMQClient P) (accepts : EventEnvelope P → Bool) (e : EventEnvelope P) : Bool :=
  s.channel.isSome && accepts e

/-- The outbox operation that a turn carries out. -/
def outboxOp (s : RabbitMQClient P) : Turn P → Option (Op (EventEnvelope P))
  | .publish eventType payload correlationId accepts =>
    let envelope := s.newEnvelope eventType payload correlationId
    if s.connected && s.takes accepts envelope then some (.deliver envelope)
    else some (.park envelope)
  | .resolved i accepts =>
    if s.connects[i]? = some .assertingExchange then some (.flush (s.takes accepts)) else none
  | _ => none

/-! ## Refinement -/

theorem outbox_handOver (event : BufferedEvent P) :
    (s.handOver event).outbox =
      { s.outbox with delivered := s.outbox.delivered ++ [event.envelope] } := by
  simp [handOver, trackMessageId, outbox, dropped, delivery]

theorem outbox_bufferEvent (event : BufferedEvent P) (offered : List (EventEnvelope P)) :
    ({ s with published := offered ++ [event.envelope] }.bufferEvent event).outbox =
      Outbox.apply MAX_BUFFER_SIZE { s.outbox with offered } (.park event.envelope) := by
  by_cases hfull : s.eventBuffer.length ≥ MAX_BUFFER_SIZE
  · cases hbuf : s.eventBuffer with
    | nil => simp [hbuf, MAX_BUFFER_SIZE] at hfull
    | cons head tail =>
      rw [hbuf] at hfull
      simp only [ge_iff_le, List.length_cons] at hfull
      simp [bufferEvent, outbox, dropped, Outbox.apply, hbuf, hfull]
  · simp [bufferEvent, outbox, dropped, Outbox.apply, hfull]

/-- A flush loop over `events`: what the channel does not take goes to the buffer, in order. -/
theorem outbox_foldl_flushEvent (accepts : EventEnvelope P → Bool)
    (events : List (BufferedEvent P)) :
    (events.foldl (flushEvent accepts) s).outbox =
      { s.outbox with
        delivered := s.outbox.delivered ++
          (events.map BufferedEvent.envelope).filter (s.takes accepts)
        waiting := s.outbox.waiting ++
          (events.map BufferedEvent.envelope).filter fun e => !s.takes accepts e } := by
  induction events generalizing s with
  | nil => simp
  | cons event events ih =>
    have htakes : (s.flushEvent accepts event).takes accepts = s.takes accepts := by
      unfold takes flushEvent
      split
      · rfl
      · split <;> rfl
    rw [List.foldl_cons, ih, htakes]
    cases ht : s.takes accepts event.envelope with
    | true =>
      have hstep : s.flushEvent accepts event = s.handOver event := by
        simp_all [flushEvent, takes, Option.isSome_iff_ne_none]
      rw [hstep, outbox_handOver]
      simp [ht]
    | false =>
      have hstep : s.flushEvent accepts event =
          { s with eventBuffer := s.eventBuffer ++ [event] } := by
        unfold flushEvent
        split
        · rfl
        · rename_i hch
          rw [if_neg]
          intro hacc
          simp_all [takes]
      rw [hstep]
      simp [outbox, dropped, ht]

theorem outbox_flushBuffer (accepts : EventEnvelope P → Bool) :
    (s.flushBuffer accepts).outbox =
      s.outbox.apply MAX_BUFFER_SIZE (.flush (s.takes accepts)) := by
  unfold flushBuffer
  split
  · rename_i hempty
    simp [Outbox.apply, outbox, List.isEmpty_iff.mp hempty]
  · rw [outbox_foldl_flushEvent]
    rfl

theorem outbox_publish (hfresh : s.supply ∉ s.publishedMessageIds) (eventType : String)
    (payload : P) (correlationId : Option String) (accepts : EventEnvelope P → Bool) :
    (s.publish eventType payload correlationId accepts).outbox =
      s.outbox.apply MAX_BUFFER_SIZE
        (if s.connected && s.takes accepts (s.newEnvelope eventType payload correlationId) then
          .deliver (s.newEnvelope eventType payload correlationId)
        else .park (s.newEnvelope eventType payload correlationId)) := by
  have hid : (s.newEnvelope eventType payload correlationId).messageId = s.supply := rfl
  simp only [publish, hid, hfresh, if_false]
  generalize s.newEnvelope eventType payload correlationId = e
  have hpark : ({ s with supply := s.supply + 2, published := s.published ++ [e] }.bufferEvent
      ⟨eventType, e⟩).outbox = s.outbox.apply MAX_BUFFER_SIZE (.park e) :=
    outbox_bufferEvent (s := { s with supply := s.supply + 2 }) ⟨eventType, e⟩ s.published
  by_cases hsend : (s.connected && s.takes accepts e) = true
  · rw [if_pos hsend]
    simp only [takes, Bool.and_eq_true] at hsend
    obtain ⟨hconn, hch, hacc⟩ := hsend
    simp only [hconn, hacc, Option.isNone_eq_false_iff.mpr hch, Bool.not_true, Bool.or_false,
      Bool.false_eq_true, if_false, if_true, outbox_handOver]
    rfl
  · rw [if_neg hsend]
    split
    · exact hpark
    · rename_i hup
      split
      · rename_i hacc
        simp only [Bool.or_eq_true, Bool.not_eq_true', not_or, Bool.not_eq_false,
          Option.isNone_iff_eq_none] at hup
        simp [takes, hup.1, hacc, Option.isSome_iff_ne_none, hup.2] at hsend
      · exact hpark

/-- A turn that concerns no event. -/
structure SameEvents (s s' : RabbitMQClient P) : Prop where
  published : s'.published = s.published
  handed : s'.handed = s.handed
  eventBuffer : s'.eventBuffer = s.eventBuffer
  overflows : s'.overflows = s.overflows
  publishedMessageIds : s'.publishedMessageIds = s.publishedMessageIds
  supply : s.supply ≤ s'.supply

theorem SameEvents.outbox {s' : RabbitMQClient P} (h : SameEvents s s') : s'.outbox = s.outbox := by
  simp only [RabbitMQClient.outbox, dropped, h.published, h.handed, h.eventBuffer, h.overflows]

theorem sameEvents_scheduleReconnect : SameEvents s s.scheduleReconnect := by
  unfold scheduleReconnect
  split <;> exact ⟨rfl, rfl, rfl, rfl, rfl, Nat.le_refl _⟩

theorem sameEvents_connectFailed (i : Nat) : SameEvents s (s.connectFailed i) := by
  have h := sameEvents_scheduleReconnect
    (s := { s with connected := false, connects := s.connects.eraseIdx i })
  exact ⟨h.published, h.handed, h.eventBuffer, h.overflows, h.publishedMessageIds, h.supply⟩

theorem sameEvents_step {t : Turn P} (h : s.outboxOp t = none) : SameEvents s (s.step t) := by
  have hrefl : SameEvents s s := ⟨rfl, rfl, rfl, rfl, rfl, Nat.le_refl _⟩
  cases t with
  | publish eventType payload correlationId accepts =>
    simp only [outboxOp] at h
    split at h <;> cases h
  | resolved i accepts =>
    simp only [step, resolved]
    cases hphase : s.connects[i]? with
    | none => exact hrefl
    | some phase =>
      cases phase with
      | assertingExchange => simp [outboxOp, hphase] at h
      | prefetching =>
        simp only
        split
        · exact sameEvents_connectFailed i
        · exact ⟨rfl, rfl, rfl, rfl, rfl, Nat.le_refl _⟩
      | flushing => exact ⟨rfl, rfl, rfl, rfl, rfl, Nat.le_refl _⟩
      | connecting | creatingChannel => exact ⟨rfl, rfl, rfl, rfl, rfl, Nat.le_succ _⟩
  | rejected i =>
    simp only [step, rejected]
    split
    · exact hrefl
    · exact hrefl
    · exact sameEvents_connectFailed i
  | connectionLost connection =>
    simp only [step, connectionLost]
    split
    · have hl := sameEvents_scheduleReconnect (s := { s with connected := false })
      exact ⟨hl.published, hl.handed, hl.eventBuffer, hl.overflows, hl.publishedMessageIds, hl.supply⟩
    · exact hrefl
  | channelLost channel =>
    simp only [step, channelLost]
    split <;> exact ⟨rfl, rfl, rfl, rfl, rfl, Nat.le_refl _⟩
  | timerFired i =>
    simp only [step, timerFired]
    split
    · exact hrefl
    · split <;> exact ⟨rfl, rfl, rfl, rfl, rfl, Nat.le_refl _⟩
  | pass milliseconds => exact ⟨rfl, rfl, rfl, rfl, rfl, Nat.le_refl _⟩

/-- A turn of a client whose next message id is new is at most one outbox operation. -/
theorem outbox_step (hfresh : s.supply ∉ s.publishedMessageIds) (t : Turn P) :
    (s.step t).outbox =
      match s.outboxOp t with
      | none => s.outbox
      | some op => s.outbox.apply MAX_BUFFER_SIZE op := by
  cases hop : s.outboxOp t with
  | none => exact (sameEvents_step hop).outbox
  | some op =>
    cases t with
    | publish eventType payload correlationId accepts =>
      simp only [outboxOp] at hop
      simp only [step, outbox_publish hfresh]
      split at hop
      · rename_i hsend; cases hop; rw [if_pos hsend]
      · rename_i hsend; cases hop; rw [if_neg hsend]
    | resolved i accepts =>
      simp only [outboxOp] at hop
      split at hop
      · rename_i hphase
        cases hop
        simp only [step, resolved, hphase]
        exact outbox_flushBuffer accepts
      · cases hop
    | _ => cases hop

/-! ## Every event in one place -/

/-- Every event passed to `publish` is handed over, buffered or dropped, and so only once. -/
structure EventsAccounted (s : RabbitMQClient P) : Prop where
  once : (s.published.map EventEnvelope.messageId).Nodup
  places : (s.handed.map Delivery.envelope ++ s.eventBuffer.map BufferedEvent.envelope ++
    s.dropped).Perm s.published
  full : ∀ buffer ∈ s.overflows, buffer.length = 1000
  buffer_le : s.eventBuffer.length ≤ 1000
  ids_le : s.publishedMessageIds.card ≤ 10000

/-- Ids are tracked for messages handed over only. -/
structure Tracking (s : RabbitMQClient P) : Prop where
  handed : ∀ id ∈ s.publishedMessageIds, ∃ d ∈ s.handed, d.envelope.messageId = id
  ids_le : s.publishedMessageIds.card ≤ MAX_IDEMPOTENCY_SET_SIZE

/-- The invariant: message ids come from the supply, so the next one is new. -/
structure Accounting (s : RabbitMQClient P) : Prop where
  accounted : s.EventsAccounted
  tracking : s.Tracking
  below : ∀ e ∈ s.published, e.messageId < s.supply

theorem Accounting.fresh (h : s.Accounting) : s.supply ∉ s.publishedMessageIds := by
  intro hid
  obtain ⟨d, hd, heq⟩ := h.tracking.handed _ hid
  have hmem : d.envelope ∈ s.published := by
    refine h.accounted.places.subset (List.mem_append_left _ (List.mem_append_left _ ?_))
    exact List.mem_map_of_mem hd
  have := h.below _ hmem
  omega

theorem tracking_of_eq {s' : RabbitMQClient P} (h : s.Tracking)
    (hids : s'.publishedMessageIds = s.publishedMessageIds) (hhanded : s'.handed = s.handed) :
    s'.Tracking :=
  ⟨by rw [hids, hhanded]; exact h.handed, by rw [hids]; exact h.ids_le⟩

theorem tracking_handOver (h : s.Tracking) (event : BufferedEvent P) :
    (s.handOver event).Tracking := by
  have hnew : ∃ d ∈ s.handed ++ [s.delivery event],
      d.envelope.messageId = event.envelope.messageId := ⟨s.delivery event, by simp, rfl⟩
  unfold handOver trackMessageId
  by_cases hfull : s.publishedMessageIds.card ≥ MAX_IDEMPOTENCY_SET_SIZE
  · simp only [hfull, if_true]
    refine ⟨fun id hid => ?_, by simp [MAX_IDEMPOTENCY_SET_SIZE]⟩
    rw [Finset.mem_singleton.mp hid]
    exact hnew
  · simp only [hfull, if_false]
    refine ⟨fun id hid => ?_, ?_⟩
    · rcases Finset.mem_insert.mp hid with rfl | hid
      · exact hnew
      · obtain ⟨d, hd, heq⟩ := h.handed id hid
        exact ⟨d, List.mem_append_left _ hd, heq⟩
    · have hcard := Finset.card_insert_le event.envelope.messageId s.publishedMessageIds
      show (insert event.envelope.messageId s.publishedMessageIds).card ≤ _
      omega

theorem tracking_flushEvent (h : s.Tracking) (accepts : EventEnvelope P → Bool)
    (event : BufferedEvent P) : (s.flushEvent accepts event).Tracking := by
  unfold flushEvent
  split
  · exact tracking_of_eq h rfl rfl
  · split
    · exact tracking_handOver h event
    · exact tracking_of_eq h rfl rfl

theorem tracking_flushBuffer (h : s.Tracking) (accepts : EventEnvelope P → Bool) :
    (s.flushBuffer accepts).Tracking := by
  unfold flushBuffer
  split
  · exact h
  · exact List.foldlRecOn (motive := Tracking) _ _ (tracking_of_eq h rfl rfl)
      fun s hs event _ => tracking_flushEvent hs accepts event

theorem tracking_bufferEvent (h : s.Tracking) (event : BufferedEvent P) :
    (s.bufferEvent event).Tracking := by
  unfold bufferEvent
  split <;> exact tracking_of_eq h rfl rfl

theorem tracking_publish (h : s.Tracking) (eventType : String) (payload : P)
    (correlationId : Option String) (accepts : EventEnvelope P → Bool) :
    (s.publish eventType payload correlationId accepts).Tracking := by
  unfold publish
  simp only
  generalize s.newEnvelope eventType payload correlationId = e
  have h' : Tracking { s with supply := s.supply + 2, published := s.published ++ [e] } :=
    tracking_of_eq h rfl rfl
  split
  · exact h'
  · split
    · exact tracking_bufferEvent h' _
    · split
      · exact tracking_handOver h' _
      · exact tracking_bufferEvent h' _

theorem full_bufferEvent (hle : s.eventBuffer.length ≤ MAX_BUFFER_SIZE)
    (h : ∀ buffer ∈ s.overflows, buffer.length = MAX_BUFFER_SIZE) (event : BufferedEvent P) :
    ∀ buffer ∈ (s.bufferEvent event).overflows, buffer.length = MAX_BUFFER_SIZE := by
  unfold bufferEvent
  split
  · rename_i hfull
    intro buffer hb
    rcases List.mem_append.mp hb with hb | hb
    · exact h buffer hb
    · rw [List.mem_singleton.mp hb]
      omega
  · exact h

/-- A flush leaves the history of overflows and the supply alone. -/
theorem flushBuffer_rest (accepts : EventEnvelope P → Bool) :
    (s.flushBuffer accepts).overflows = s.overflows ∧ (s.flushBuffer accepts).supply = s.supply := by
  unfold flushBuffer
  split
  · exact ⟨rfl, rfl⟩
  · refine List.foldlRecOn (motive := fun s' : RabbitMQClient P =>
      s'.overflows = s.overflows ∧ s'.supply = s.supply) _ _ ⟨rfl, rfl⟩ fun s' hs event _ => ?_
    unfold flushEvent
    split
    · exact hs
    · split <;> exact hs

theorem publish_rest (hle : s.eventBuffer.length ≤ MAX_BUFFER_SIZE)
    (h : ∀ buffer ∈ s.overflows, buffer.length = MAX_BUFFER_SIZE) (eventType : String) (payload : P)
    (correlationId : Option String) (accepts : EventEnvelope P → Bool) :
    (∀ buffer ∈ (s.publish eventType payload correlationId accepts).overflows,
      buffer.length = MAX_BUFFER_SIZE) ∧
    (s.publish eventType payload correlationId accepts).supply = s.supply + 2 := by
  unfold publish
  simp only
  generalize s.newEnvelope eventType payload correlationId = e
  have hbuffer : ∀ event : BufferedEvent P,
      (∀ buffer ∈ ({ s with supply := s.supply + 2, published := s.published ++ [e] }.bufferEvent
        event).overflows, buffer.length = MAX_BUFFER_SIZE) ∧
      ({ s with supply := s.supply + 2, published := s.published ++ [e] }.bufferEvent event).supply =
        s.supply + 2 := by
    intro event
    let s₁ := { s with supply := s.supply + 2, published := s.published ++ [e] }
    have hover : ∀ buffer ∈ (s₁.bufferEvent event).overflows, buffer.length = MAX_BUFFER_SIZE :=
      full_bufferEvent (s := s₁) hle h event
    refine ⟨hover, ?_⟩
    unfold bufferEvent
    split <;> rfl
  split
  · exact ⟨h, rfl⟩
  · split
    · exact hbuffer _
    · split
      · exact ⟨h, rfl⟩
      · exact hbuffer _

/-- An outbox operation loses nothing and keeps the bound. -/
theorem accounted_of_outbox {s' : RabbitMQClient P} {op : Op (EventEnvelope P)}
    (h : s.EventsAccounted) (hout : s'.outbox = s.outbox.apply MAX_BUFFER_SIZE op) :
    (s'.handed.map Delivery.envelope ++ s'.eventBuffer.map BufferedEvent.envelope ++
      s'.dropped).Perm s'.published ∧ s'.eventBuffer.length ≤ 1000 := by
  have hplaces : s.outbox.Conserved := h.places
  have hwait : s.outbox.waiting.length ≤ MAX_BUFFER_SIZE := by
    show (s.eventBuffer.map _).length ≤ _
    rw [List.length_map]
    exact h.buffer_le
  have hplaces' := hplaces.apply MAX_BUFFER_SIZE op
  have hwait' := Outbox.waiting_apply_le (by decide) hwait op
  rw [← hout] at hplaces' hwait'
  refine ⟨hplaces', ?_⟩
  rw [← List.length_map BufferedEvent.envelope]
  exact hwait'

theorem accounting_publish (h : s.Accounting) (eventType : String) (payload : P)
    (correlationId : Option String) (accepts : EventEnvelope P → Bool) :
    (s.publish eventType payload correlationId accepts).Accounting := by
  obtain ⟨hfull, hsupply⟩ := publish_rest h.accounted.buffer_le h.accounted.full eventType payload
    correlationId accepts
  have htracking := tracking_publish h.tracking eventType payload correlationId accepts
  have hout := outbox_publish h.fresh eventType payload correlationId accepts
  have hpublished : (s.publish eventType payload correlationId accepts).published =
      s.published ++ [s.newEnvelope eventType payload correlationId] := by
    have hoffered := congrArg Outbox.offered hout
    refine hoffered.trans ?_
    split
    · rfl
    · unfold Outbox.apply; dsimp only; split <;> rfl
  obtain ⟨hplaces, hle⟩ := accounted_of_outbox h.accounted hout
  refine ⟨⟨?_, hplaces, hfull, hle, htracking.ids_le⟩, htracking, fun e he => ?_⟩
  · rw [hpublished, List.map_append, List.map_singleton]
    refine h.accounted.once.append (List.nodup_singleton _) ?_
    rw [List.disjoint_singleton]
    intro hmem
    obtain ⟨e, he, heq⟩ := List.mem_map.mp hmem
    have hlt := h.below e he
    rw [heq] at hlt
    exact Nat.lt_irrefl _ hlt
  · rw [hpublished] at he
    rw [hsupply]
    rcases List.mem_append.mp he with he | he
    · have hlt := h.below e he
      omega
    · rw [List.mem_singleton.mp he]
      show s.supply < s.supply + 2
      omega

theorem accounting_flushBuffer (h : s.Accounting) (accepts : EventEnvelope P → Bool) :
    (s.flushBuffer accepts).Accounting := by
  obtain ⟨hover, hsupply⟩ := flushBuffer_rest (s := s) accepts
  have hout := outbox_flushBuffer (s := s) accepts
  have hpublished : (s.flushBuffer accepts).published = s.published := congrArg Outbox.offered hout
  have htracking := tracking_flushBuffer h.tracking accepts
  obtain ⟨hplaces, hle⟩ := accounted_of_outbox h.accounted hout
  refine ⟨⟨?_, hplaces, ?_, hle, htracking.ids_le⟩, htracking, ?_⟩
  · rw [hpublished]; exact h.accounted.once
  · rw [hover]; exact h.accounted.full
  · rw [hpublished, hsupply]; exact h.below

theorem accounting_sameEvents {s' : RabbitMQClient P} (h : s.Accounting) (hs : SameEvents s s') :
    s'.Accounting := by
  have hdropped : s'.dropped = s.dropped := by simp only [dropped, hs.overflows]
  refine ⟨⟨?_, ?_, ?_, ?_, ?_⟩, tracking_of_eq h.tracking hs.publishedMessageIds hs.handed, ?_⟩
  · rw [hs.published]; exact h.accounted.once
  · rw [hs.published, hs.handed, hs.eventBuffer, hdropped]; exact h.accounted.places
  · rw [hs.overflows]; exact h.accounted.full
  · rw [hs.eventBuffer]; exact h.accounted.buffer_le
  · rw [hs.publishedMessageIds]; exact h.accounted.ids_le
  · rw [hs.published]
    exact fun e he => Nat.lt_of_lt_of_le (h.below e he) hs.supply

theorem accounting_step (h : s.Accounting) (t : Turn P) : (s.step t).Accounting := by
  cases hop : s.outboxOp t with
  | none => exact accounting_sameEvents h (sameEvents_step hop)
  | some op =>
    cases t with
    | publish eventType payload correlationId accepts =>
      exact accounting_publish h eventType payload correlationId accepts
    | resolved i accepts =>
      simp only [outboxOp] at hop
      split at hop
      · rename_i hphase
        simp only [step, resolved, hphase]
        refine accounting_flushBuffer (accounting_sameEvents h ?_) accepts
        exact ⟨rfl, rfl, rfl, rfl, rfl, Nat.le_refl _⟩
      · cases hop
    | _ => cases hop

theorem accounting_start (exchange : String) (supply : Nat) (now : Int) :
    (onModuleInit exchange supply now : RabbitMQClient P).Accounting :=
  ⟨⟨List.nodup_nil, List.Perm.refl _, (fun _ h => nomatch h), Nat.zero_le _, Nat.zero_le _⟩,
    ⟨(fun _ h => absurd h (Finset.notMem_empty _)), Nat.zero_le _⟩, (fun _ h => nomatch h)⟩

/-- In every run no event is lost or duplicated, and both bounds hold at every point. -/
theorem events_accounted (exchange : String) (supply : Nat) (now : Int) (ts : List (Turn P)) :
    Always step EventsAccounted (onModuleInit exchange supply now) ts :=
  (always_of_invariant (I := Accounting) (fun _ t h => accounting_step h t)
    (accounting_start exchange supply now)).mono fun _ h => h.accounted

theorem reachable_accounting (exchange : String) (supply : Nat) (now : Int) (ts : List (Turn P)) :
    (run step (onModuleInit exchange supply now) ts).Accounting :=
  (always_of_invariant (I := Accounting) (fun _ t h => accounting_step h t)
    (accounting_start exchange supply now)).final

/-! ## The next publish -/

/-- What a `publish` that the broker accepts should do: `e` and all that was buffered is delivered. -/
structure Drains (s : RabbitMQClient P) (e : EventEnvelope P) (s' : RabbitMQClient P) : Prop where
  channel : s'.channel ≠ none
  empty : s'.eventBuffer = []
  handed : ∀ e' ∈ s.eventBuffer.map BufferedEvent.envelope ++ [e],
    e' ∈ s'.handed.map Delivery.envelope

theorem channel_publish (eventType : String) (payload : P) (correlationId : Option String)
    (accepts : EventEnvelope P → Bool) :
    (s.publish eventType payload correlationId accepts).channel = s.channel := by
  have hbuffer : ∀ (s : RabbitMQClient P) (event : BufferedEvent P),
      (s.bufferEvent event).channel = s.channel := by
    intro s event
    unfold bufferEvent
    split <;> rfl
  unfold publish
  simp only
  split
  · rfl
  · split
    · exact hbuffer _ _
    · split
      · rfl
      · exact hbuffer _ _

theorem drains_iff_of_fresh (hfresh : s.supply ∉ s.publishedMessageIds)
    (hconn : s.connected = true) (eventType : String) (payload : P)
    (correlationId : Option String) :
    Drains s (s.newEnvelope eventType payload correlationId)
        (s.publish eventType payload correlationId fun _ => true) ↔
      s.channel ≠ none ∧ s.eventBuffer = [] := by
  have hout := outbox_publish hfresh eventType payload correlationId fun _ => true
  have hchannel := channel_publish (s := s) eventType payload correlationId fun _ => true
  generalize s.newEnvelope eventType payload correlationId = e at hout ⊢
  generalize s.publish eventType payload correlationId (fun _ => true) = s' at hout hchannel ⊢
  constructor
  · intro h
    have hch : s.channel ≠ none := hchannel ▸ h.channel
    refine ⟨hch, ?_⟩
    -- the channel takes the message, and the buffer stays as it is
    rw [if_pos (by simp [hconn, takes, Option.isSome_iff_ne_none, hch])] at hout
    have hwaiting := congrArg Outbox.waiting hout
    simpa [outbox, Outbox.apply, h.empty] using hwaiting.symm
  · rintro ⟨hch, hempty⟩
    rw [if_pos (by simp [hconn, takes, Option.isSome_iff_ne_none, hch])] at hout
    have hwaiting := congrArg Outbox.waiting hout
    have hdelivered := congrArg Outbox.delivered hout
    simp only [outbox, Outbox.apply, hempty, List.map_nil, List.map_eq_nil_iff] at hwaiting
    refine ⟨hchannel ▸ hch, hwaiting, fun e' he' => ?_⟩
    rw [hempty, List.map_nil, List.nil_append, List.mem_singleton] at he'
    show e' ∈ s'.outbox.delivered
    rw [hdelivered, he']
    exact List.mem_append_right _ (List.mem_singleton.mpr rfl)

/-- While connected, the next `publish` drains the client iff its channel is there and nothing waits. -/
theorem publish_drains_iff (exchange : String) (supply : Nat) (now : Int) (ts : List (Turn P))
    (s : RabbitMQClient P) (hs : s = run step (onModuleInit exchange supply now) ts)
    (hconn : s.connected = true) (eventType : String) (payload : P)
    (correlationId : Option String) :
    Drains s (s.newEnvelope eventType payload correlationId)
        (s.publish eventType payload correlationId fun _ => true) ↔
      s.channel ≠ none ∧ s.eventBuffer = [] := by
  subst hs
  have hI := reachable_accounting exchange supply now ts
  exact drains_iff_of_fresh hI.fresh hconn eventType payload correlationId

/-- The initial `connect()` succeeds: connection 0, channel 1. -/
def connectSucceeds : List (Turn Unit) := List.replicate 5 (.resolved 0 fun _ => true)

def connectedClient : RabbitMQClient Unit := run step (onModuleInit "auth.events" 0 0) connectSucceeds

theorem publish_drains_connected :
    Drains connectedClient (connectedClient.newEnvelope "user.logged.in" () none)
      (connectedClient.publish "user.logged.in" () none fun _ => true) :=
  (publish_drains_iff "auth.events" 0 0 connectSucceeds connectedClient rfl (by decide +kernel)
    "user.logged.in" () none).mpr ⟨by decide +kernel, by decide +kernel⟩

/-- A channel error sets the channel to null; the connection stays up. -/
theorem event_stranded :
    ¬ ∀ (exchange : String) (supply : Nat) (now : Int) (ts : List (Turn Unit))
        (s : RabbitMQClient Unit), s = run step (onModuleInit exchange supply now) ts →
      s.connected = true → ∀ (eventType : String) (correlationId : Option String),
        Drains s (s.newEnvelope eventType () correlationId)
          (s.publish eventType () correlationId fun _ => true) := by
  intro h
  have hdrains := h "auth.events" 0 0 (connectSucceeds ++ [.channelLost 1]) _ rfl (by decide +kernel)
    "user.logged.in" none
  exact hdrains.channel (by decide +kernel)

/-! ## The order of events -/

/-- No event is handed over while an earlier one stays behind it in the buffer. -/
def NoneOvertaken (s : RabbitMQClient P) (t : Turn P) : Prop :=
  match s.outboxOp t with
  | none => True
  | some op => s.outbox.Patient op

instance (s : RabbitMQClient P) (t : Turn P) : Decidable (NoneOvertaken s t) :=
  match hop : s.outboxOp t with
  | none => .isTrue (by unfold NoneOvertaken; rw [hop]; trivial)
  | some op => decidable_of_iff (s.outbox.Patient op) (by unfold NoneOvertaken; rw [hop])

theorem ordered_step (h : s.Accounting ∧ s.outbox.Ordered) {t : Turn P} (hC : NoneOvertaken s t) :
    (s.step t).Accounting ∧ (s.step t).outbox.Ordered := by
  refine ⟨accounting_step h.1 t, ?_⟩
  rw [outbox_step h.1.fresh t]
  unfold NoneOvertaken at hC
  cases hop : s.outboxOp t with
  | none => exact h.2
  | some op =>
    rw [hop] at hC
    exact h.2.apply MAX_BUFFER_SIZE hC

/-- As long as no event overtakes a buffered one, the broker gets a subsequence of what was published. -/
theorem handed_in_order (exchange : String) (supply : Nat) (now : Int) (ts : List (Turn P))
    (hC : Along step NoneOvertaken (onModuleInit exchange supply now) ts) :
    Always step (fun s => (s.handed.map Delivery.envelope).Sublist s.published)
      (onModuleInit exchange supply now) ts := by
  have h0 : (onModuleInit exchange supply now : RabbitMQClient P).Accounting ∧
      (onModuleInit exchange supply now : RabbitMQClient P).outbox.Ordered :=
    ⟨accounting_start exchange supply now, List.Sublist.refl _⟩
  have hall := always_of_along (I := fun s => s.Accounting ∧ s.outbox.Ordered)
    (fun _ _ h hC => ordered_step h hC) h0 hC
  exact hall.mono fun _ h => h.2.delivered

/-- The channel rejects a first event and takes a second one of the same type; a reconnect follows. -/
def rejectFirst : List (Turn Unit) :=
  connectSucceeds ++
    [.publish "user.logged.in" () none fun _ => false, .publish "user.logged.in" () none fun _ => true,
      .connectionLost 0, .pass 2000, .timerFired 0] ++
    List.replicate 4 (.resolved 0 fun _ => true)

theorem event_overtaken :
    ¬ ∀ (exchange : String) (supply : Nat) (now : Int) (ts : List (Turn Unit)),
      Always step (fun s => (s.handed.map Delivery.envelope).Sublist s.published)
        (onModuleInit exchange supply now) ts := by
  intro h
  have hend := (h "auth.events" 0 0 rejectFirst).final
  revert hend
  decide +kernel

/-- Both events meet an outage and are flushed after it. -/
def outageFirst : List (Turn Unit) :=
  [.publish "user.logged.in" () none fun _ => true, .publish "user.logged.out" () none fun _ => true] ++
    connectSucceeds

theorem handed_in_order_outage :
    ((run step (onModuleInit "auth.events" 0 0) outageFirst).handed.map Delivery.routingKey =
        ["user.logged.in", "user.logged.out"]) ∧
      Always step (fun s => (s.handed.map Delivery.envelope).Sublist s.published)
        (onModuleInit "auth.events" 0 0) outageFirst :=
  ⟨by decide +kernel, handed_in_order "auth.events" 0 0 outageFirst (by decide +kernel)⟩

end RabbitMQClient
end Auth
