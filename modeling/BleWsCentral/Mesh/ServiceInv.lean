import BleWsCentral.Mesh.Steps

/-!
# What holds of the mesh service

The facts about the service that its properties rest on.

* `configuring_of_loop` — the only way into the part of `LoopCtx::run` that asks a new node for its
  statuses is an event.
* `Subscriber.Named`, `Wf` — channels are not mixed up, and there is never more in the channel of a
  stream than its capacity. `Wf.run`: this holds in every run.
* `QueueStep`, `queue_cases` — where channels are not mixed up, these are the steps of the queue task.
-/

set_option linter.unusedSectionVars false

namespace BleWsCentral.Mesh

open BleWsCentral.Found

/-- `LoopCtx::run` is in the branch for `NodeAdded(Ok(node))` and has not got both statuses yet. -/
def LoopPc.configuring : LoopPc → Bool
  | .nodeAdded _ .locking => false
  | .nodeAdded _ _ => true
  | _ => false

theorem PullSite.configuring_pc (site : PullSite) (pull : Pull) :
    (site.pc pull).configuring = site.before.configuring := by
  cases site <;> rfl

theorem PullSite.configuring_before {site : PullSite} (h : site.next.configuring = true) :
    site.before.configuring = true := by
  cases site <;> first | rfl | cases h

/-- The stream that the queue task works on. -/
def QueuePc.stream : QueuePc → Option ChanId
  | .pulling _ tx _ => some tx
  | .pullSending _ tx _ _ => some tx
  | .streamSending tx _ => some tx
  | _ => none

/-- What the queue task awaits to send to a stream. -/
def QueuePc.sends : QueuePc → Option (ChanId × GenericMessage)
  | .pullSending _ tx _ msg => some (tx, msg)
  | .streamSending tx msg => some (tx, msg)
  | _ => none

/-- The channel of a subscriber is one of its kind, and was made already. -/
def Subscriber.Named (streams : ℕ) : Subscriber → Prop
  | .oneshot tx => ∃ n, tx = some (oneshotId n)
  | .stream tx => ∃ g < streams, tx = streamId g

theorem Subscriber.Named.mono {streams streams' : ℕ} {chan : Subscriber} (h : chan.Named streams)
    (hle : streams ≤ streams') : chan.Named streams' := by
  cases chan with
  | oneshot tx => exact h
  | stream tx =>
      obtain ⟨g, hg, rfl⟩ := h
      exact ⟨g, hg.trans_le hle, rfl⟩

namespace Service

variable {K M : Type} [DecidableEq K] [DenseSlotMap K GenericFilter M] {units : Units}
  {s s' : Service K M} {a : Label}

/-! ## The configuration of a node -/

/-- A step of `LoopCtx::run` after which it configures a node either takes the event for that node, or
is one of the configuration. It leaves the collection task alone. -/
theorem configuring_of_loop (h : s.step units a = some s') (ha : a.party = .loop)
    (hc : s'.loopCtx.pc.configuring = true) :
    s'.loopCtx.run = s.loopCtx.run ∧ s'.collections = s.collections ∧
      ((a = .event ∧ (∃ node, s.events = some (.nodeAdded (.ok node))) ∧ s'.events = none) ∨
        s.loopCtx.pc.configuring = true ∧ s'.events = s.events) := by
  have hpoll : ∀ addrs, (poll addrs).configuring ≠ true := by
    intro addrs
    cases addrs <;> exact Bool.false_ne_true
  cases loop_cases h ha with
  | pulls site hpc =>
      have hbefore := (site.configuring_pc _).symm.trans hc
      exact ⟨rfl, rfl, .inr ⟨hpc ▸ hbefore, rfl⟩⟩
  | scanned hpc => exact ⟨rfl, rfl, .inr ⟨by rw [hpc]; rfl, rfl⟩⟩
  | requested site hpc _ =>
      have hbefore := (site.configuring_pc _).symm.trans hc
      exact ⟨rfl, rfl, .inr ⟨by rw [hpc, site.configuring_pc]; exact hbefore, rfl⟩⟩
  | replied site hpc _ _ =>
      have hbefore := PullSite.configuring_before hc
      exact ⟨rfl, rfl, .inr ⟨by rw [hpc, site.configuring_pc]; exact hbefore, rfl⟩⟩
  | attachFailed _ => exact ⟨rfl, rfl, .inr ⟨hc, rfl⟩⟩
  | polled _ => exact absurd hc (hpoll _)
  | triggered _ _ => exact absurd hc (hpoll _)
  | known hpc _ _ =>
      have hc : s.loopCtx.pc.configuring = true := hc
      rw [hpc] at hc
      cases hc
  | nodeAdded _ hevent => exact ⟨rfl, rfl, .inl ⟨rfl, ⟨_, hevent⟩, rfl⟩⟩
  | nodeNotAdded hpc _ =>
      have hc : s.loopCtx.pc.configuring = true := hc
      rw [hpc] at hc
      cases hc
  | _ => cases hc

/-! ## The channels -/

/-- The queue task has got the request of the `g`-th stream. -/
def Serves (s : Service K M) (g : ℕ) : Prop :=
  (∃ key, s.queue.state.subscribers.get key = some (.stream (streamId g))) ∨
    s.queue.pc.stream = some (streamId g)

/-- Channels are not mixed up, and none holds more than its capacity. -/
structure Wf (s : Service K M) : Prop where
  request : ∀ filter chan, s.requests = some (filter, chan) → chan.Named s.loopCtx.streams
  subscriber : ∀ key chan, s.queue.state.subscribers.get key = some chan →
    chan.Named s.loopCtx.streams
  pc : ∀ tx, s.queue.pc.stream = some tx → ∃ g < s.loopCtx.streams, tx = streamId g
  pull : ∀ filter tx, s.loopCtx.pc.pull = some (.requesting filter tx) → ∃ n, tx = oneshotId n
  /-- Nobody lets go of the receiver of a oneshot that is waited for. -/
  alive : ∀ n, s.channels.dropped (oneshotId n) = false
  taken_le : ∀ c, s.taken c ≤ (s.channels.handed c).length
  capacity : ∀ g, (s.channels.handed (streamId g)).length ≤ s.taken (streamId g) + 1
  fresh : ∀ g, s.loopCtx.streams ≤ g → s.channels.handed (streamId g) = []
  /-- A stream is empty until the queue task gets its request. -/
  pending : ∀ filter g, s.requests = some (filter, .stream (streamId g)) →
    s.channels.handed (streamId g) = [] ∧ ¬ s.Serves g

/-! ## The queue task -/

/-- The steps of the queue task. -/
inductive QueueStep (s : Service K M) : Label → Service K M → Prop
  | requestPanicked {filter : GenericFilter} {tx : Option ChanId} (hpc : s.queue.pc = .selecting)
      (hrequest : s.requests = some (filter, .oneshot tx)) :
      QueueStep s .queueRequest { s.setQueuePc .panicked with requests := none }
  | found {filter : GenericFilter} {n i : ℕ} {msg : GenericMessage} (hpc : s.queue.pc = .selecting)
      (hrequest : s.requests = some (filter, .oneshot (some (oneshotId n))))
      (hmsg : s.queue.state.messages[i]? = some msg) (hmatch : filter.isMatch msg = true) :
      QueueStep s .queueRequest { s with
        requests := none
        queue := { s.queue with state := { s.queue.state with
          messages := s.queue.state.messages.eraseIdx i } }
        channels := { s.channels with
          handed := Function.update s.channels.handed (oneshotId n)
            (s.channels.handed (oneshotId n) ++ [msg]) } }
  | registered {filter : GenericFilter} {n : ℕ} (hpc : s.queue.pc = .selecting)
      (hrequest : s.requests = some (filter, .oneshot (some (oneshotId n)))) :
      QueueStep s .queueRequest { s with
        requests := none
        queue := { s.queue with
          state := s.queue.state.addSubscriber filter (.oneshot (some (oneshotId n))) } }
  | pulls {filter : GenericFilter} {g : ℕ} (hpc : s.queue.pc = .selecting)
      (hrequest : s.requests = some (filter, .stream (streamId g))) (hg : g < s.loopCtx.streams) :
      QueueStep s .queueRequest
        { s.setQueuePc (.pulling filter (streamId g) (iterFilter filter s.queue.state.messages)) with
          requests := none }
  | pulledAll {filter : GenericFilter} {tx : ChanId} (hpc : s.queue.pc = .pulling filter tx []) :
      QueueStep s .queuePull { s with queue :=
        { pc := .selecting, state := s.queue.state.addSubscriber filter (.stream tx) } }
  | pullPanicked {filter : GenericFilter} {tx : ChanId} {index : ℕ} {indexes : List ℕ}
      (hpc : s.queue.pc = .pulling filter tx (index :: indexes)) :
      QueueStep s .queuePull (s.setQueuePc .panicked)
  | pulled {filter : GenericFilter} {tx : ChanId} {index : ℕ} {indexes : List ℕ} {msg : GenericMessage}
      (hpc : s.queue.pc = .pulling filter tx (index :: indexes))
      (hmsg : s.queue.state.messages[index]? = some msg) :
      QueueStep s .queuePull { s with queue :=
        { pc := .pullSending filter tx indexes msg
          state := { s.queue.state with messages := s.queue.state.messages.eraseIdx index } } }
  | messagePanicked {msg : GenericMessage} (hpc : s.queue.pc = .selecting)
      (hmessages : s.messages = some msg) :
      QueueStep s .queueMessage { s.setQueuePc .panicked with messages := none }
  | stored {msg : GenericMessage} (hpc : s.queue.pc = .selecting) (hmessages : s.messages = some msg) :
      QueueStep s .queueMessage { s with
        messages := none
        queue := { s.queue with state := { s.queue.state with
          messages := s.queue.state.messages ++ [msg] } } }
  | handed {msg : GenericMessage} {key : K} {n : ℕ} (hpc : s.queue.pc = .selecting)
      (hmessages : s.messages = some msg) (hkey : s.queue.state.matchFilter msg = some key)
      (hget : s.queue.state.subscribers.get key = some (.oneshot (some (oneshotId n)))) :
      QueueStep s .queueMessage { s with
        messages := none
        queue := { s.queue with state := s.queue.state.removeSubscriber key }
        channels := { s.channels with
          handed := Function.update s.channels.handed (oneshotId n)
            (s.channels.handed (oneshotId n) ++ [msg]) } }
  | routed {msg : GenericMessage} {key : K} {tx : ChanId} (hpc : s.queue.pc = .selecting)
      (hmessages : s.messages = some msg)
      (hroute : s.queue.state.routeMessage s.channels msg = .ok (.sending tx msg))
      (hget : s.queue.state.subscribers.get key = some (.stream tx)) :
      QueueStep s .queueMessage { s.setQueuePc (.streamSending tx msg) with messages := none }
  | sendPanicked {tx : ChanId} {msg : GenericMessage} (hsends : s.queue.pc.sends = some (tx, msg))
      (hdropped : s.channels.dropped tx = true) : QueueStep s .queueSend (s.setQueuePc .panicked)
  | pullSent {filter : GenericFilter} {tx : ChanId} {indexes : List ℕ} {msg : GenericMessage}
      (hpc : s.queue.pc = .pullSending filter tx indexes msg) (hdropped : s.channels.dropped tx = false)
      (hroom : s.hasRoom tx = true) :
      QueueStep s .queueSend { s.setQueuePc (.pulling filter tx indexes) with
        channels := { s.channels with
          handed := Function.update s.channels.handed tx (s.channels.handed tx ++ [msg]) } }
  | messageSent {tx : ChanId} {msg : GenericMessage} (hpc : s.queue.pc = .streamSending tx msg)
      (hdropped : s.channels.dropped tx = false) (hroom : s.hasRoom tx = true) :
      QueueStep s .queueSend { s.setQueuePc .selecting with
        channels := { s.channels with
          handed := Function.update s.channels.handed tx (s.channels.handed tx ++ [msg]) } }

/-- A send to a stream goes through, or its receiver is gone. -/
theorem sendStream_cases {tx : ChanId} {msg : GenericMessage} {pc : QueuePc}
    (h : s.sendStream tx msg pc = some s') :
    s.channels.dropped tx = true ∧ s' = s.setQueuePc .panicked ∨
      s.channels.dropped tx = false ∧ s.hasRoom tx = true ∧ s' = { s.setQueuePc pc with
        channels := { s.channels with
          handed := Function.update s.channels.handed tx (s.channels.handed tx ++ [msg]) } } := by
  unfold sendStream at h
  cases hdropped : s.channels.dropped tx with
  | true =>
      rw [Channels.send_of_dropped hdropped] at h
      cases h
      exact .inl ⟨rfl, rfl⟩
  | false =>
      rw [Channels.send_of_alive hdropped] at h
      simp only at h
      split at h <;> cases h
      rename_i hroom
      exact .inr ⟨rfl, hroom, rfl⟩

/-- These are the steps of the queue task. -/
theorem queue_cases (hwf : s.Wf) (h : s.step units a = some s') (ha : a.party = .queue) :
    s.QueueStep a s' := by
  cases a <;> cases ha
  case queueRequest =>
    simp only [step, queueRequest] at h
    split at h
    · rename_i filter tx hpc hrequest
      split at h <;> cases h
      · exact .requestPanicked hpc hrequest
      · rename_i state channels honsub
        obtain ⟨n, rfl⟩ := hwf.request _ _ hrequest
        rcases State.onSubscription_oneshot (hwf.alive n) honsub with
          ⟨i, msg, hmsg, hmatch, rfl, hsend⟩ | ⟨rfl, rfl⟩
        · obtain ⟨-, rfl⟩ := Channels.send_eq_ok.mp hsend
          exact .found hpc hrequest hmsg hmatch
        · exact .registered hpc hrequest
    · rename_i filter tx hpc hrequest
      cases h
      obtain ⟨g, hg, rfl⟩ := hwf.request _ _ hrequest
      exact .pulls hpc hrequest hg
    · cases h
  case queuePull =>
    simp only [step, queuePull] at h
    split at h
    · rename_i hpc
      cases h
      exact .pulledAll hpc
    · rename_i hpc
      split at h <;> cases h
      · exact .pullPanicked hpc
      · rename_i hremove
        obtain ⟨hmsg, rfl⟩ := State.removeMessage_eq_ok.mp hremove
        exact .pulled hpc hmsg
    · cases h
  case queueMessage =>
    simp only [step, queueMessage] at h
    split at h
    · rename_i msg hpc hmessages
      split at h <;> cases h <;> rename_i hroute
      · exact .messagePanicked hpc hmessages
      · rcases State.routeMessage_cases hroute with heq | ⟨key, tx, w', hkey, hget, hsend, heq⟩ |
          ⟨key, tx, -, hget, heq⟩ <;> cases heq
        · exact .stored hpc hmessages
        · obtain ⟨n, htx⟩ := hwf.subscriber _ _ hget
          cases htx
          obtain ⟨-, rfl⟩ := Channels.send_eq_ok.mp hsend
          exact .handed hpc hmessages hkey hget
      · rcases State.routeMessage_cases hroute with heq | ⟨key, tx, w', -, -, -, heq⟩ |
          ⟨key, tx, -, hget, heq⟩ <;> cases heq
        exact .routed hpc hmessages hroute hget
    · cases h
  case queueSend =>
    simp only [step, queueSend] at h
    split at h
    · rename_i hpc
      rcases sendStream_cases h with ⟨hdropped, rfl⟩ | ⟨hdropped, hroom, rfl⟩
      · exact .sendPanicked (by rw [hpc]; rfl) hdropped
      · exact .pullSent hpc hdropped hroom
    · rename_i hpc
      rcases sendStream_cases h with ⟨hdropped, rfl⟩ | ⟨hdropped, hroom, rfl⟩
      · exact .sendPanicked (by rw [hpc]; rfl) hdropped
      · exact .messageSent hpc hdropped hroom
    · cases h

namespace Wf

theorem init : (Service.init : Service K M).Wf where
  request _ _ h := by cases h
  subscriber _ _ h := by cases h
  pc _ h := by cases h
  pull _ _ h := by cases h
  alive _ := rfl
  taken_le _ := Nat.le_refl _
  capacity _ := Nat.zero_le _
  fresh _ _ := rfl
  pending _ _ h := by cases h

/-- What the queue task serves is not served twice: a pending stream is none of its streams. -/
theorem pending_ne (hwf : s.Wf) {filter : GenericFilter} {g : ℕ} {tx : ChanId}
    (hpending : s.requests = some (filter, .stream (streamId g)))
    (hpc : s.queue.pc.stream = some tx) : tx ≠ streamId g := by
  rintro rfl
  exact (hwf.pending filter g hpending).2 (.inr hpc)

/-- The queue task panics. -/
theorem setQueuePc_panicked (hwf : s.Wf) : (s.setQueuePc .panicked).Wf where
  request := hwf.request
  subscriber := hwf.subscriber
  pc _ h := by cases h
  pull := hwf.pull
  alive := hwf.alive
  taken_le := hwf.taken_le
  capacity := hwf.capacity
  fresh := hwf.fresh
  pending filter g h := by
    refine ⟨(hwf.pending filter g h).1, ?_⟩
    rintro (hserves | hserves)
    · exact (hwf.pending filter g h).2 (.inl hserves)
    · cases hserves

/-- The request is taken. -/
theorem takeRequest (hwf : s.Wf) : { s with requests := none }.Wf where
  request _ _ h := by cases h
  subscriber := hwf.subscriber
  pc := hwf.pc
  pull := hwf.pull
  alive := hwf.alive
  taken_le := hwf.taken_le
  capacity := hwf.capacity
  fresh := hwf.fresh
  pending _ _ h := by cases h

/-- The message is taken. -/
theorem takeMessage (hwf : s.Wf) : { s with messages := none }.Wf :=
  ⟨hwf.request, hwf.subscriber, hwf.pc, hwf.pull, hwf.alive, hwf.taken_le, hwf.capacity, hwf.fresh,
    hwf.pending⟩

/-- A message is handed to a oneshot, and its subscriber is not registered, or not any more. -/
theorem handOneshot (hwf : s.Wf) (state : State K M) (n : ℕ) (msg : GenericMessage)
    (hsub : ∀ key chan, state.subscribers.get key = some chan →
      s.queue.state.subscribers.get key = some chan) :
    { s with
      queue := { s.queue with state }
      channels := { s.channels with
        handed := Function.update s.channels.handed (oneshotId n)
          (s.channels.handed (oneshotId n) ++ [msg]) } }.Wf := by
  have hother : ∀ g, Function.update s.channels.handed (oneshotId n)
      (s.channels.handed (oneshotId n) ++ [msg]) (streamId g) = s.channels.handed (streamId g) :=
    fun g => Function.update_of_ne (oneshotId_ne_streamId n g).symm _ _
  refine ⟨hwf.request, fun key chan h => hwf.subscriber key chan (hsub key chan h), hwf.pc, hwf.pull,
    hwf.alive, ?_, ?_, ?_, ?_⟩
  · intro c
    by_cases hc : c = oneshotId n
    · subst hc
      have := hwf.taken_le (oneshotId n)
      simp only [Function.update_self, List.length_append]
      omega
    · simpa only [Function.update_of_ne hc] using hwf.taken_le c
  · intro g
    simpa only [hother g] using hwf.capacity g
  · intro g hg
    simpa only [hother g] using hwf.fresh g hg
  · intro filter g h
    obtain ⟨hempty, hserves⟩ := hwf.pending filter g h
    refine ⟨by simpa only [hother g] using hempty, ?_⟩
    rintro (⟨key, hkey⟩ | hpc)
    · exact hserves (.inl ⟨key, hsub key _ hkey⟩)
    · exact hserves (.inr hpc)

/-- A subscriber is registered, whose request is not pending any more. -/
theorem register (hwf : s.Wf) (filter : GenericFilter) {chan : Subscriber}
    (hchan : chan.Named s.loopCtx.streams)
    (hpending : ∀ filter g, s.requests = some (filter, .stream (streamId g)) →
      chan ≠ .stream (streamId g)) :
    { s with queue :=
      { pc := .selecting, state := s.queue.state.addSubscriber filter chan } }.Wf := by
  have hget : ∀ key chan', (s.queue.state.addSubscriber filter chan).subscribers.get key = some chan' →
      chan' = chan ∨ s.queue.state.subscribers.get key = some chan' := by
    intro key chan' h
    rw [State.addSubscriber, SecondaryMap.get_insert] at h
    split at h
    · cases h
      exact .inl rfl
    · exact .inr h
  refine ⟨hwf.request, ?_, (fun _ h => by cases h), hwf.pull, hwf.alive, hwf.taken_le, hwf.capacity,
    hwf.fresh, ?_⟩
  · intro key chan' h
    rcases hget key chan' h with rfl | h
    · exact hchan
    · exact hwf.subscriber key chan' h
  · intro filter g h
    obtain ⟨hempty, hserves⟩ := hwf.pending filter g h
    refine ⟨hempty, ?_⟩
    rintro (⟨key, hkey⟩ | hpc)
    · rcases hget key _ hkey with heq | hkey
      · exact hpending filter g h heq.symm
      · exact hserves (.inl ⟨key, hkey⟩)
    · cases hpc

/-- A message is sent to a stream that the queue task serves. -/
theorem sendStream (hwf : s.Wf) {tx : ChanId} {msg : GenericMessage} {pc : QueuePc}
    (htx : s.queue.pc.stream = some tx) (hpc : ∀ tx', pc.stream = some tx' → tx' = tx)
    (hroom : s.hasRoom tx = true) :
    { s.setQueuePc pc with channels := { s.channels with
      handed := Function.update s.channels.handed tx (s.channels.handed tx ++ [msg]) } }.Wf := by
  obtain ⟨g, hg, rfl⟩ := hwf.pc tx htx
  have hroom : (s.channels.handed (streamId g)).length ≤ s.taken (streamId g) := by
    simpa [hasRoom] using hroom
  have hother : ∀ c, c ≠ streamId g → Function.update s.channels.handed (streamId g)
      (s.channels.handed (streamId g) ++ [msg]) c = s.channels.handed c :=
    fun c hc => Function.update_of_ne hc _ _
  refine ⟨hwf.request, hwf.subscriber, fun tx' htx' => ⟨g, hg, hpc tx' htx'⟩, hwf.pull, hwf.alive,
    ?_, ?_, ?_, ?_⟩
  · intro c
    by_cases hc : c = streamId g
    · subst hc
      have := hwf.taken_le (streamId g)
      simp only [setQueuePc, Function.update_self, List.length_append]
      omega
    · simpa only [setQueuePc, hother c hc] using hwf.taken_le c
  · intro g'
    by_cases hg' : g' = g
    · subst hg'
      simp only [setQueuePc, Function.update_self, List.length_append, List.length_singleton]
      omega
    · simpa only [setQueuePc, hother _ (streamId_injective.ne hg')] using hwf.capacity g'
  · intro g' hg'
    have hne : g' ≠ g := (hg.trans_le hg').ne'
    simpa only [hother _ (streamId_injective.ne hne)] using hwf.fresh g' hg'
  · intro filter g' h
    obtain ⟨hempty, hserves⟩ := hwf.pending filter g' h
    have hne := (hwf.pending_ne h htx).symm
    refine ⟨by simpa only [hother _ hne] using hempty, ?_⟩
    rintro (hkey | hstream)
    · exact hserves (.inl hkey)
    · exact hne (hpc _ hstream)

/-- The queue task keeps the channels in order. -/
theorem step_queue (hwf : s.Wf) (h : s.step units a = some s') (ha : a.party = .queue) : s'.Wf := by
  have hpanicked := hwf.setQueuePc_panicked
  cases queue_cases hwf h ha with
  | requestPanicked _ _ => exact hpanicked.takeRequest
  | @found filter n i msg _ _ _ _ =>
      have := hwf.handOneshot { s.queue.state with messages := s.queue.state.messages.eraseIdx i } n msg
        fun _ _ h => h
      exact this.takeRequest
  | @registered filter n hpc _ =>
      have hchan : Subscriber.Named s.loopCtx.streams (.oneshot (some (oneshotId n))) := ⟨n, rfl⟩
      have := hwf.takeRequest.register filter hchan fun _ _ h => by cases h
      rwa [← hpc] at this
  | @pulls filter g _ _ hg =>
      refine ⟨fun _ _ h => (by cases h), hwf.subscriber, fun tx htx => ?_, hwf.pull, hwf.alive,
        hwf.taken_le, hwf.capacity, hwf.fresh, fun _ _ h => by cases h⟩
      cases htx
      exact ⟨g, hg, rfl⟩
  | @pulledAll filter tx hpc =>
      have hstream : s.queue.pc.stream = some tx := by rw [hpc]; rfl
      refine hwf.register filter (hwf.pc tx hstream) fun _ g hpending htx => ?_
      exact hwf.pending_ne hpending hstream (Subscriber.stream.inj htx)
  | pullPanicked _ => exact hpanicked
  | @pulled filter tx index indexes msg hpc _ =>
      have hstream : s.queue.pc.stream = some tx := by rw [hpc]; rfl
      refine ⟨hwf.request, hwf.subscriber, fun tx' htx' => ?_, hwf.pull, hwf.alive, hwf.taken_le,
        hwf.capacity, hwf.fresh, fun filter g hpending => ?_⟩
      · cases htx'
        exact hwf.pc tx hstream
      · obtain ⟨hempty, hserves⟩ := hwf.pending filter g hpending
        refine ⟨hempty, ?_⟩
        rintro (hkey | htx')
        · exact hserves (.inl hkey)
        · exact hserves (.inr (hstream.trans htx'))
  | messagePanicked _ _ => exact hpanicked.takeMessage
  | stored _ _ => exact ⟨hwf.1, hwf.2, hwf.3, hwf.4, hwf.5, hwf.6, hwf.7, hwf.8, hwf.9⟩
  | @handed msg key n _ _ _ _ =>
      refine (hwf.handOneshot (s.queue.state.removeSubscriber key) n msg ?_).takeMessage
      intro key' chan h
      rw [State.removeSubscriber, SecondaryMap.get_remove] at h
      split at h
      · cases h
      · exact h
  | @routed msg key tx _ _ _ hget =>
      refine ⟨hwf.request, hwf.subscriber, fun tx' htx' => ?_, hwf.pull, hwf.alive,
        hwf.taken_le, hwf.capacity, hwf.fresh, fun filter g hpending => ?_⟩
      · cases htx'
        exact hwf.subscriber _ _ hget
      · obtain ⟨hempty, hserves⟩ := hwf.pending filter g hpending
        refine ⟨hempty, ?_⟩
        rintro (hkey | htx')
        · exact hserves (.inl hkey)
        · cases htx'
          exact hserves (.inl ⟨key, hget⟩)
  | sendPanicked _ _ => exact hpanicked
  | pullSent hpc _ hroom =>
      refine hwf.sendStream (by rw [hpc]; rfl) (fun tx' htx' => ?_) hroom
      cases htx'
      rfl
  | messageSent hpc _ hroom =>
      exact hwf.sendStream (by rw [hpc]; rfl) (fun tx' htx' => by cases htx') hroom

/-- `LoopCtx::run` goes on, without a new channel. -/
theorem setLoop (hwf : s.Wf) {loopCtx : LoopCtx} {collections : ℕ → Collection}
    {events : Option Event} (hstreams : loopCtx.streams = s.loopCtx.streams)
    (hpull : ∀ filter tx, loopCtx.pc.pull = some (.requesting filter tx) → ∃ n, tx = oneshotId n) :
    { s with events, loopCtx, collections }.Wf where
  request filter chan h := hstreams ▸ hwf.request filter chan h
  subscriber key chan h := hstreams ▸ hwf.subscriber key chan h
  pc tx h := by
    obtain ⟨g, hg, htx⟩ := hwf.pc tx h
    exact ⟨g, hstreams ▸ hg, htx⟩
  pull := hpull
  alive := hwf.alive
  taken_le := hwf.taken_le
  capacity := hwf.capacity
  fresh g hg := hwf.fresh g (hstreams ▸ hg)
  pending := hwf.pending

/-- `LoopCtx::run` is in no `pull_msg`. -/
theorem setLoop_rest (hwf : s.Wf) {loopCtx : LoopCtx} {collections : ℕ → Collection}
    {events : Option Event} (hstreams : loopCtx.streams = s.loopCtx.streams)
    (hpull : loopCtx.pc.pull = none) : { s with events, loopCtx, collections }.Wf :=
  hwf.setLoop hstreams fun _ _ h => by cases hpull.symm.trans h

/-- A request of `pull_msg` is sent. -/
theorem requested (hwf : s.Wf) {site : PullSite} {filter : GenericFilter} {tx : ChanId}
    (hpc : s.loopCtx.pc = site.pc (.requesting filter tx)) :
    { s.setLoopPc (site.pc (.waiting tx)) with requests := some (filter, .oneshot (some tx)) }.Wf := by
  obtain ⟨n, rfl⟩ := hwf.pull filter tx (by rw [hpc, site.pull_pc])
  refine ⟨fun filter chan h => ?_, hwf.subscriber, hwf.pc, fun filter tx h => ?_, hwf.alive,
    hwf.taken_le, hwf.capacity, hwf.fresh, fun _ _ h => by cases h⟩
  · cases h
    exact ⟨n, rfl⟩
  · cases (site.pull_pc _).symm.trans h

/-- The request of `subscribe` is sent. -/
theorem subscribed (hwf : s.Wf) {loopCtx : LoopCtx} {collections : ℕ → Collection}
    (hpull : loopCtx.pc.pull = none) (hstreams : loopCtx.streams = s.loopCtx.streams + 1) :
    { s with
      requests := some (sensorFilter, .stream (streamId s.loopCtx.streams))
      loopCtx, collections }.Wf := by
  refine ⟨fun filter chan h => ?_, fun key chan h => ?_, fun tx h => ?_,
    fun _ _ h => (by cases hpull.symm.trans h), hwf.alive, hwf.taken_le, hwf.capacity,
    fun g hg => ?_, fun filter g h => ?_⟩
  · cases h
    exact ⟨s.loopCtx.streams, hstreams ▸ Nat.lt_succ_self _, rfl⟩
  · exact (hwf.subscriber key chan h).mono (hstreams ▸ Nat.le_succ _)
  · obtain ⟨g, hg, rfl⟩ := hwf.pc tx h
    exact ⟨g, hstreams ▸ hg.trans (Nat.lt_succ_self _), rfl⟩
  · have hg : loopCtx.streams ≤ g := hg
    exact hwf.fresh g (by omega)
  · have hg : g = s.loopCtx.streams := by
      simp only [Option.some.injEq, Prod.mk.injEq, Subscriber.stream.injEq, streamId_inj] at h
      exact h.2.symm
    subst hg
    refine ⟨hwf.fresh _ (Nat.le_refl _), ?_⟩
    -- the channel is new, so nothing that the queue task serves goes by its number
    rintro (⟨key, hkey⟩ | hpc)
    · obtain ⟨g, hg, heq⟩ := hwf.subscriber _ _ hkey
      exact hg.ne (streamId_injective heq).symm
    · obtain ⟨g, hg, heq⟩ := hwf.pc _ hpc
      exact hg.ne (streamId_injective heq).symm

/-- `LoopCtx::run` keeps the channels in order. -/
theorem step_loop (hwf : s.Wf) (h : s.step units a = some s') (ha : a.party = .loop) : s'.Wf := by
  cases loop_cases h ha with
  | pulls site _ =>
      -- `pull_msg` asks with a channel of its own
      refine hwf.setLoop rfl fun filter tx h => ?_
      cases (site.pull_pc _).symm.trans h
      exact ⟨_, rfl⟩
  | attachFailed _ => exact hwf
  | requested site hpc _ => exact hwf.requested hpc
  | subscribed _ _ => exact hwf.subscribed rfl rfl
  | replied site _ _ _ => exact hwf.setLoop_rest rfl site.pull_next
  | polled _ => exact hwf.setLoop_rest rfl (pull_poll _)
  | triggered _ _ => exact hwf.setLoop_rest rfl (pull_poll _)
  | known _ _ _ => exact hwf.setLoop rfl hwf.pull
  | nodeNotAdded _ _ => exact hwf.setLoop rfl hwf.pull
  | _ => exact hwf.setLoop_rest rfl rfl

/-- The collection tasks go on, without taking anything. -/
theorem setCollections (hwf : s.Wf) {collections : ℕ → Collection} {batches : Option UpdateItem} :
    { s with collections, batches }.Wf :=
  ⟨hwf.1, hwf.2, hwf.3, hwf.4, hwf.5, hwf.6, hwf.7, hwf.8, hwf.9⟩

/-- The receiver of a stream is dropped. -/
theorem stopCollection (hwf : s.Wf) (g : ℕ) : (s.stopCollection g).Wf := by
  refine ⟨hwf.1, hwf.2, hwf.3, hwf.4, fun n => ?_, hwf.6, hwf.7, hwf.8, hwf.9⟩
  have hne : oneshotId n ≠ streamId g := oneshotId_ne_streamId n g
  exact (Function.update_of_ne hne _ _).trans (hwf.alive n)

/-- A message is taken out of the channel of a stream. -/
theorem take (hwf : s.Wf) {g : ℕ} {msg : GenericMessage}
    (hmsg : (s.channels.handed (streamId g))[s.taken (streamId g)]? = some msg) :
    { s with taken := Function.update s.taken (streamId g) (s.taken (streamId g) + 1) }.Wf := by
  obtain ⟨hlt, -⟩ := List.getElem?_eq_some_iff.mp hmsg
  refine ⟨hwf.1, hwf.2, hwf.3, hwf.4, hwf.5, fun c => ?_, fun g' => ?_, hwf.8, hwf.9⟩
  · by_cases hc : c = streamId g
    · subst hc
      simpa only [Function.update_self] using Nat.succ_le_of_lt hlt
    · simpa only [Function.update_of_ne hc] using hwf.taken_le c
  · have hcap := hwf.capacity g'
    by_cases hg : g' = g
    · subst hg
      simp only [Function.update_self]
      omega
    · simpa only [Function.update_of_ne (streamId_injective.ne hg)] using hcap

/-- A collection task keeps the channels in order. -/
theorem step_collection (hwf : s.Wf) (h : s.step units a = some s') (ha : a.party = .collection) :
    s'.Wf := by
  cases collection_cases h ha with
  | ended g _ => exact hwf.stopCollection g
  | panicked g _ hmsg _ => exact (hwf.take hmsg).stopCollection g
  | waits g _ hmsg _ => exact (hwf.take hmsg).setCollections
  | completed g _ hmsg _ => exact (hwf.take hmsg).setCollections
  | refused g _ _ => exact hwf.stopCollection g
  | _ => exact hwf.setCollections

/-- Every step keeps the channels in order. -/
theorem step (hwf : s.Wf) (h : s.step units a = some s') : s'.Wf := by
  cases ha : a.party with
  | dbus =>
      rw [frame_dbus h ha]
      exact ⟨hwf.1, hwf.2, hwf.3, hwf.4, hwf.5, hwf.6, hwf.7, hwf.8, hwf.9⟩
  | queue => exact hwf.step_queue h ha
  | loop => exact hwf.step_loop h ha
  | collection => exact hwf.step_collection h ha
  | update =>
      rw [frame_update h ha]
      exact ⟨hwf.1, hwf.2, hwf.3, hwf.4, hwf.5, hwf.6, hwf.7, hwf.8, hwf.9⟩

/-- The channels are in order in every run. -/
theorem run {l : List Label} (h : Run (Partial (Service.step units)) Service.init l s) : s.Wf :=
  h.invariant (I := Wf) (fun _ _ _ hwf hstep => hwf.step hstep) init

end Wf

end Service

end BleWsCentral.Mesh
