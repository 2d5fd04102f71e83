import BleWsCentral.Found.Account
import BleWsCentral.Mesh.Configured
import BleWsCentral.Mesh.Senders

/-!
# Where messages and nodes come from

The messages and the nodes that the service works on come in over D-Bus, in the calls of its run.

* `Label.incoming` — the messages that a call brings in; `Service.stock` — those that are on their way, in
  the backlog, in the hand of the queue task, or were handed to one of some channels.
* `stock_of_step` — a step moves messages, and may lose some. It loses none as long as the queue task runs
  and all the channels that are used are counted.
* `conserved` — so no message is ever in two places, and none is lost until the queue task panics.
* `Added`, `Registered` — a call of `add_node_complete` reported a node. All nodes that `LoopCtx::run` works on
  and that windows are opened with are such ones, in every run (`registered`).
-/

set_option linter.unusedSectionVars false

namespace BleWsCentral.Mesh

open BleWsCentral.Found

/-- The messages that come in with a label. -/
def Label.incoming : Label → Multiset GenericMessage
  | .call c now => (c.handle now).message
  | _ => 0

theorem Label.incoming_of_party {a : Label} (h : a.party ≠ .dbus) : a.incoming = 0 := by
  cases a <;> first | rfl | exact absurd rfl h

theorem Label.incoming_dbusSend : Label.dbusSend.incoming = 0 := rfl

/-- The message that the queue task has in hand. -/
def QueuePc.hand (pc : QueuePc) : Multiset GenericMessage := held (pc.sends.map Prod.snd)

section Hand

variable (filter : GenericFilter) (tx : ChanId) (indexes : List ℕ) (msg : GenericMessage)

@[simp] theorem QueuePc.hand_selecting : QueuePc.selecting.hand = 0 := rfl

@[simp] theorem QueuePc.hand_pulling : (QueuePc.pulling filter tx indexes).hand = 0 := rfl

@[simp] theorem QueuePc.hand_pullSending : (QueuePc.pullSending filter tx indexes msg).hand = {msg} :=
  rfl

@[simp] theorem QueuePc.hand_streamSending : (QueuePc.streamSending tx msg).hand = {msg} := rfl

@[simp] theorem QueuePc.hand_panicked : QueuePc.panicked.hand = 0 := rfl

end Hand

theorem QueuePc.hand_of_sends {pc : QueuePc} {tx : ChanId} {msg : GenericMessage}
    (h : pc.sends = some (tx, msg)) : pc.hand = {msg} := by
  rw [hand, h, Option.map_some, held_some]

namespace Service

variable {K M : Type} [DecidableEq K] [DenseSlotMap K GenericFilter M] {units : Units}
  {s s' : Service K M} {a : Label}

/-! ## Messages -/

/-- The messages in the service, with those that the channels of `places` were handed. -/
def stock (places : Finset ChanId) (s : Service K M) : Multiset GenericMessage :=
  held s.messages + s.dbus.message + s.queue.state.messages + s.queue.pc.hand +
    ∑ c ∈ places, (s.channels.handed c : Multiset GenericMessage)

/-- The queue task runs, and the other channels were handed nothing. -/
structure Accounted (places : Finset ChanId) (s : Service K M) : Prop where
  runs : s.queue.pc ≠ .panicked
  unused : ∀ c ∉ places, s.channels.handed c = []

/-- A call brings in its message, and a blocking send hands it on or loses it. -/
theorem stock_of_dbus (places : Finset ChanId) (h : s.step units a = some s') (ha : a.party = .dbus) :
    ∃ lost, s'.stock places + lost = s.stock places + a.incoming ∧
      (s'.Accounted places → lost = 0) := by
  cases a <;> cases ha
  case call call now =>
    simp only [step, Service.call] at h
    split at h <;> cases h
    rename_i hidle
    have hnone : s.dbus.message = [] := by rw [hidle]; rfl
    refine ⟨0, ?_, fun _ => rfl⟩
    rw [stock, stock, hnone, Multiset.coe_nil, Label.incoming]
    abel
  case dbusSend =>
    simp only [step, dbusSend] at h
    split at h
    · rename_i event hdbus
      have hnone : s.dbus.message = [] := by rw [hdbus]; rfl
      refine ⟨0, ?_, fun _ => rfl⟩
      -- an event is none of the messages
      split at h
      · cases h
        rw [add_zero, stock, stock, hnone, Label.incoming_dbusSend, add_zero]
        rfl
      · split at h <;> cases h
        rw [add_zero, stock, stock, hnone, Label.incoming_dbusSend, add_zero]
        rfl
    · rename_i msg hdbus
      have hone : (s.dbus.message : Multiset GenericMessage) = {msg} := by rw [hdbus]; rfl
      have hidle : ((DbusThread.idle).message : Multiset GenericMessage) = 0 := rfl
      have hdead : ((DbusThread.panicked).message : Multiset GenericMessage) = 0 := rfl
      split at h
      · rename_i hpanicked
        cases h
        refine ⟨{msg}, ?_, fun haccounted => absurd hpanicked haccounted.runs⟩
        rw [stock, stock, hone, hdead, Label.incoming_dbusSend]
        abel
      · split at h <;> cases h
        rename_i hmessages
        refine ⟨0, ?_, fun _ => rfl⟩
        rw [stock, stock, hone, hmessages, hidle, Label.incoming_dbusSend, held_none, held_some]
        abel
    · cases h

/-- What a step of the queue task does to what it has in stock. -/
def Moves (places : Finset ChanId) (s s' : Service K M) : Prop :=
  ∃ lost, s'.stock places + lost = s.stock places ∧ (s'.Accounted places → lost = 0)

/-- A message goes to a channel: it is counted there, or the channel is not among `places`. -/
theorem moves_to (places : Finset ChanId) {c : ChanId} {msg : GenericMessage}
    (hhanded : s'.channels.handed = Function.update s.channels.handed c (s.channels.handed c ++ [msg]))
    (hdbus : s'.dbus = s.dbus)
    (hrest : held s'.messages + s'.queue.state.messages + s'.queue.pc.hand + {msg} =
      held s.messages + s.queue.state.messages + s.queue.pc.hand) : Moves places s s' := by
  refine ⟨if c ∈ places then 0 else {msg}, ?_, fun haccounted => if_pos ?_⟩
  · have hsplit : ({msg} : Multiset GenericMessage) =
        (if c ∈ places then {msg} else 0) + if c ∈ places then 0 else {msg} := by
      split
      · rw [add_zero]
      · rw [zero_add]
    rw [stock, hhanded, sum_concat_at, hdbus, stock]
    calc _ = held s'.messages + s'.queue.state.messages + s'.queue.pc.hand +
            ((if c ∈ places then {msg} else 0) + if c ∈ places then 0 else {msg}) +
            (s.dbus.message + ∑ c ∈ places, (s.channels.handed c : Multiset GenericMessage)) := by abel
      _ = _ := by
        rw [← hsplit, hrest]
        abel
  · by_contra hc
    have hempty := haccounted.unused c hc
    rw [hhanded, Function.update_self] at hempty
    simp at hempty

/-- No message goes to a channel. -/
theorem moves_within (places : Finset ChanId) (lost : Multiset GenericMessage)
    (hhanded : s'.channels.handed = s.channels.handed) (hdbus : s'.dbus = s.dbus)
    (hrest : held s'.messages + s'.queue.state.messages + s'.queue.pc.hand + lost =
      held s.messages + s.queue.state.messages + s.queue.pc.hand)
    (hlost : s'.queue.pc ≠ .panicked → lost = 0) : Moves places s s' := by
  refine ⟨lost, ?_, fun haccounted => hlost haccounted.runs⟩
  rw [stock, stock, hhanded, hdbus]
  calc _ = held s'.messages + s'.queue.state.messages + s'.queue.pc.hand + lost +
          (s.dbus.message + ∑ c ∈ places, (s.channels.handed c : Multiset GenericMessage)) := by abel
    _ = _ := by
      rw [hrest]
      abel

/-- The queue task moves messages, and loses the one it works on when it panics. -/
theorem moves_of_queue (places : Finset ChanId) (hwf : s.Wf) (h : s.step units a = some s')
    (ha : a.party = .queue) : Moves places s s' := by
  have hpanic : (QueuePc.panicked ≠ .panicked) → ∀ lost : Multiset GenericMessage, lost = 0 :=
    fun h => absurd rfl h
  cases queue_cases hwf h ha with
  | requestPanicked hpc _ => exact moves_within places 0 rfl rfl (by simp [setQueuePc, hpc]) fun _ => rfl
  | found _ _ hmsg _ =>
      refine moves_to places rfl rfl ?_
      simp only [← coe_eraseIdx hmsg]
      abel
  | registered _ _ => exact moves_within places 0 rfl rfl (add_zero _) fun _ => rfl
  | pulls hpc _ _ => exact moves_within places 0 rfl rfl (by simp [setQueuePc, hpc]) fun _ => rfl
  | pulledAll hpc =>
      exact moves_within places 0 rfl rfl (by simp [State.addSubscriber, hpc]) fun _ => rfl
  | pullPanicked hpc => exact moves_within places 0 rfl rfl (by simp [setQueuePc, hpc]) fun _ => rfl
  | pulled hpc hmsg =>
      refine moves_within places 0 rfl rfl ?_ fun _ => rfl
      simp only [hpc, QueuePc.hand_pulling, QueuePc.hand_pullSending, ← coe_eraseIdx hmsg]
      abel
  | @messagePanicked msg hpc hmessages =>
      refine moves_within places {msg} rfl rfl ?_ fun h => hpanic h _
      simp only [setQueuePc, hpc, hmessages, QueuePc.hand_selecting, QueuePc.hand_panicked, held_none,
        held_some]
      abel
  | stored hpc hmessages =>
      refine moves_within places 0 rfl rfl ?_ fun _ => rfl
      simp only [hmessages, held_none, held_some, coe_concat]
      abel
  | handed hpc hmessages _ _ =>
      refine moves_to places rfl rfl ?_
      simp only [State.removeSubscriber, hmessages, held_none, held_some]
      abel
  | routed hpc hmessages _ _ =>
      refine moves_within places 0 rfl rfl ?_ fun _ => rfl
      simp only [setQueuePc, hpc, hmessages, QueuePc.hand_selecting, QueuePc.hand_streamSending, held_none,
        held_some]
      abel
  | @sendPanicked tx msg hsends _ =>
      refine moves_within places {msg} rfl rfl ?_ fun h => hpanic h _
      simp only [setQueuePc, QueuePc.hand_of_sends hsends, QueuePc.hand_panicked]
      abel
  | pullSent hpc _ _ =>
      refine moves_to places rfl rfl ?_
      simp only [setQueuePc, hpc, QueuePc.hand_pulling, QueuePc.hand_pullSending, add_zero]
  | messageSent hpc _ _ =>
      refine moves_to places rfl rfl ?_
      simp only [setQueuePc, hpc, QueuePc.hand_selecting, QueuePc.hand_streamSending, add_zero]

/-- A step brings in the message of its call, moves messages, and may lose some. -/
theorem stock_of_step (places : Finset ChanId) (hwf : s.Wf) (h : s.step units a = some s') :
    ∃ lost, s'.stock places + lost = s.stock places + a.incoming ∧
      (s'.Accounted places → lost = 0) := by
  cases ha : a.party with
  | dbus => exact stock_of_dbus places h ha
  | queue =>
      obtain ⟨lost, hstock, hnone⟩ := moves_of_queue places hwf h ha
      rw [Label.incoming_of_party (by simp [ha]), add_zero]
      exact ⟨lost, hstock, hnone⟩
  | loop =>
      rw [Label.incoming_of_party (by simp [ha]), add_zero, frame_loop h ha]
      exact ⟨0, add_zero _, fun _ => rfl⟩
  | collection =>
      obtain ⟨g, hg⟩ := Label.exists_collectionOf ha
      have hhanded := (frame_collectionOf h hg).2.1
      have hstock : s'.stock places = s.stock places := by
        rw [stock, hhanded, frame_collection h ha]
        rfl
      rw [Label.incoming_of_party (by simp [ha]), hstock]
      exact ⟨0, rfl, fun _ => rfl⟩
  | update =>
      rw [Label.incoming_of_party (by simp [ha]), add_zero, frame_update h ha]
      exact ⟨0, add_zero _, fun _ => rfl⟩

/-- The queue task does not run again after a panic. -/
theorem runs_of_step (h : s.step units a = some s') (hruns : s'.queue.pc ≠ .panicked) :
    s.queue.pc ≠ .panicked := by
  intro hpc
  refine hruns ?_
  cases ha : a.party with
  | dbus => rw [frame_dbus h ha, hpc]
  | queue => cases a <;> cases ha <;> simp [step, queueRequest, queuePull, queueMessage, queueSend, hpc] at h
  | loop => rw [frame_loop h ha, hpc]
  | collection => rw [frame_collection h ha, hpc]
  | update => rw [frame_update h ha, hpc]

/-- What is accounted for after a step was so before it. -/
theorem Accounted.of_step {places : Finset ChanId} (hwf : s.Wf) (h : s.step units a = some s')
    (haccounted : s'.Accounted places) : s.Accounted places := by
  refine ⟨runs_of_step h haccounted.runs, fun c hc => ?_⟩
  have hbefore : s.channels.handed c <+: s'.channels.handed c := handed_of_step hwf h c
  rw [haccounted.unused c hc] at hbefore
  exact List.prefix_nil.mp hbefore

/-- **Conservation.** In every run, whatever the order in which the tasks take turns: a message that is on its
way to the queue task, in its backlog or in its hand, or that was handed to one of any number of channels, is
one that a call brought in, and none of them is in two places. As long as the queue task has not panicked,
none is lost either. -/
theorem conserved {l : List Label} (h : Run (Partial (step units)) (init : Service K M) l s)
    (places : Finset ChanId) :
    s.stock places ≤ income Label.incoming l ∧
      (s.queue.pc ≠ .panicked → (∀ c ∉ places, s.channels.handed c = []) →
        s.stock places = income Label.incoming l) := by
  have hinit : (init : Service K M).stock places = 0 := by
    simp [stock, init, State.init, DbusThread.message, Channels.init]
  have hwf : ∀ (s : Service K M) (a : Label) (t : Service K M), s.Wf →
      Partial (step units) s a t → t.Wf := fun _ _ _ hwf hstep => hwf.step hstep
  constructor
  · have hle := h.stock_le (stock places) Label.incoming hwf ?_ Wf.init
    · rwa [hinit, zero_add] at hle
    · intro s a t hwf hstep
      obtain ⟨lost, hstock, -⟩ := stock_of_step places hwf hstep
      rw [← hstock]
      exact Multiset.le_add_right _ _
  · intro hruns hunused
    have heq := h.stock_eq (P := Accounted places) (stock places) Label.incoming hwf ?_ Wf.init ⟨hruns, hunused⟩
    · rwa [hinit, zero_add] at heq
    · intro s a t hwf hstep haccounted
      obtain ⟨lost, hstock, hnone⟩ := stock_of_step places hwf hstep
      refine ⟨haccounted.of_step hwf hstep, ?_⟩
      rw [← hstock, hnone haccounted, add_zero]

set_option maxRecDepth 4000 in
/-- The theorem for a node that answers before the window: the answer lies in the channel of the stream, and
the channels that were used hold all that came in. -/
theorem conserved_answer :
    ∃ s : Service ℕ (DenseVec GenericFilter),
      Run (Partial (step .total)) init
        (attach ++ provision ++ configure ++ sensorValues 100 ++ [.queueSend]) s ∧
        (s.buffered 0).length = 1 ∧ s.stock {0, 1, 2, 4} = income Label.incoming
          (attach ++ provision ++ configure ++ sensorValues 100 ++ [.queueSend]) := by
  have hrun : ∃ s : Service ℕ (DenseVec GenericFilter),
      Run (Partial (step .total)) init
        (attach ++ provision ++ configure ++ sensorValues 100 ++ [.queueSend]) s ∧
        (s.buffered 0).length = 1 ∧ s.queue.pc = .selecting ∧
        ∃ a b c d, s.channels.handed = Function.update (Function.update (Function.update
            (Function.update (fun _ => []) 0 a) 2 b) 4 c) 1 d :=
    ⟨_, run_partial_iff.mpr rfl, rfl, rfl, _, _, _, _, rfl⟩
  obtain ⟨s, hrun, hlength, hpc, a, b, c, d, hhanded⟩ := hrun
  refine ⟨s, hrun, hlength, (conserved hrun {0, 1, 2, 4}).2 (by simp [hpc]) ?_⟩
  intro place hplace
  simp only [Finset.mem_insert, Finset.mem_singleton, not_or] at hplace
  simp [hhanded, Function.update_of_ne, hplace]

/-! ## Nodes -/

/-- A call of `add_node_complete` reported the node. -/
def Added (l : List Label) (node : Node) : Prop :=
  ∃ uuid addr count now, Label.call (.addNodeComplete uuid addr count) now ∈ l ∧
    Provisioner.addNodeComplete uuid addr = some (.nodeAdded (.ok node))

theorem Added.concat {l : List Label} {node : Node} (h : Added l node) (a : Label) :
    Added (l ++ [a]) node := by
  obtain ⟨uuid, addr, count, now, hmem, hevent⟩ := h
  exact ⟨uuid, addr, count, now, List.mem_append_left _ hmem, hevent⟩

/-- The nodes in a map were all reported. -/
def AllAdded (l : List Label) (connected : BTreeMap MeshAddr Uuid) : Prop :=
  ∀ (addr : MeshAddr) (id : Uuid), connected[addr]? = some id → Added l ⟨id, addr⟩

theorem AllAdded.concat {l : List Label} {connected : BTreeMap MeshAddr Uuid} (h : AllAdded l connected)
    (a : Label) : AllAdded (l ++ [a]) connected :=
  fun addr id hid => (h addr id hid).concat a

/-- The nodes that the service works on, wherever they are, were all reported. -/
structure Registered (s : Service K M) (l : List Label) : Prop where
  sending : ∀ node, s.dbus = .sendingEvent (.nodeAdded (.ok node)) → Added l node
  event : ∀ node, s.events = some (.nodeAdded (.ok node)) → Added l node
  adding : ∀ node adding, s.loopCtx.pc = .nodeAdded node adding → Added l node
  connected : ∀ g, AllAdded l (s.collections g).connected
  window : ∀ g, ∀ window ∈ (s.collections g).windows, AllAdded l window.connected

/-- The node of an event is that of a call. -/
theorem addNodeComplete_of_handle {call : DbusCall} {now : Timestamp} {node : Node}
    (h : call.handle now = .sendingEvent (.nodeAdded (.ok node))) :
    ∃ uuid addr count, call = .addNodeComplete uuid addr count ∧
      Provisioner.addNodeComplete uuid addr = some (.nodeAdded (.ok node)) := by
  have hmessage : ∀ msg : Option GenericMessage,
      DbusThread.ofMessage msg ≠ .sendingEvent (.nodeAdded (.ok node)) := by
    rintro (_ | msg) h <;> cases h
  have hevent : ∀ event, DbusThread.ofEvent event = .sendingEvent (.nodeAdded (.ok node)) →
      event = some (.nodeAdded (.ok node)) := by
    rintro (_ | event) h <;> cases h
    rfl
  cases call with
  | scanResult rssi data =>
      obtain ⟨uuid, -, huuid⟩ := Option.map_eq_some_iff.mp (hevent _ h)
      cases huuid
  | addNodeComplete uuid addr count => exact ⟨uuid, addr, count, rfl, hevent _ h⟩
  | addNodeFailed uuid reason =>
      obtain ⟨id, -, hid⟩ := Option.map_eq_some_iff.mp (hevent _ h)
      cases hid
  | messageReceived sourceAddr keyIndex destination data =>
      cases destination with
      | garbage => cases h
      | _ => exact absurd h (hmessage _)
  | devKeyMessageReceived sourceAddr remote netIndex data => exact absurd h (hmessage _)

/-- `LoopCtx::run` works on the node of the event that it takes, and puts the node it works on into
`connected`. -/
theorem nodes_of_loop (h : s.step units a = some s') (ha : a.party = .loop) :
    (∀ e, s'.events = some e → s.events = some e) ∧
      (∀ node adding, s'.loopCtx.pc = .nodeAdded node adding →
        s.events = some (.nodeAdded (.ok node)) ∨ ∃ adding', s.loopCtx.pc = .nodeAdded node adding') ∧
      ∀ g (addr : MeshAddr) (id : Uuid), (s'.collections g).connected[addr]? = some id →
        (s.collections g).connected[addr]? = some id ∨
          ∃ adding, s.loopCtx.pc = .nodeAdded ⟨id, addr⟩ adding := by
  have hpoll : ∀ addrs node adding, poll addrs ≠ .nodeAdded node adding := by
    intro addrs node adding
    cases addrs <;> exact fun h => by cases h
  have hleave : ∀ (pc : LoopPc) (g : ℕ) (addr : MeshAddr) (id : Uuid),
      ((s.leave pc).collections g).connected[addr]? = some id →
        (s.collections g).connected[addr]? = some id := by
    intro pc g addr id hid
    rwa [connected_leave] at hid
  have hsite : ∀ (site : PullSite) (pc : Pull) node adding, site.pc pc = .nodeAdded node adding →
      (∃ adding', site.before = .nodeAdded node adding') ∧
        ∀ pc, ∃ adding', site.pc pc = .nodeAdded node adding' := by
    intro site pc node adding heq
    cases site <;> cases heq <;> exact ⟨⟨_, rfl⟩, fun _ => ⟨_, rfl⟩⟩
  have hnext : ∀ (site : PullSite) (pc : Pull) node adding, site.next = .nodeAdded node adding →
      ∃ adding', site.pc pc = .nodeAdded node adding' := by
    intro site pc node adding heq
    cases site <;> cases heq <;> exact ⟨_, rfl⟩
  cases loop_cases h ha with
  | pulls site hpc =>
      refine ⟨fun _ h => h, fun node adding heq => .inr ?_, fun _ _ _ h => .inl h⟩
      rw [hpc]
      exact (hsite site _ node adding heq).1
  | requested site hpc _ =>
      refine ⟨fun _ h => h, fun node adding heq => .inr ?_, fun _ _ _ h => .inl h⟩
      rw [hpc]
      exact (hsite site _ node adding heq).2 _
  | replied site hpc _ _ =>
      refine ⟨fun _ h => h, fun node adding heq => .inr ?_, fun _ _ _ h => .inl h⟩
      rw [hpc]
      exact hnext site _ node adding heq
  | scanned hpc =>
      refine ⟨fun _ h => h, fun node adding heq => .inr ?_, fun _ _ _ h => .inl h⟩
      cases heq
      exact ⟨_, hpc⟩
  | attachFailed _ => exact ⟨fun _ h => h, fun _ _ h => .inr ⟨_, h⟩, fun _ _ _ h => .inl h⟩
  | known _ _ _ => exact ⟨(fun _ h => by cases h), fun _ _ h => .inr ⟨_, h⟩, fun _ _ _ h => .inl h⟩
  | nodeNotAdded _ _ =>
      exact ⟨(fun _ h => by cases h), fun _ _ h => .inr ⟨_, h⟩, fun _ _ _ h => .inl h⟩
  | discovered _ _ _ => exact ⟨(fun _ h => by cases h), (fun _ _ h => by cases h), fun _ _ _ h => .inl h⟩
  | nodeAdded hpc hevent =>
      refine ⟨(fun _ h => by cases h), fun node adding heq => .inl ?_, fun _ _ _ h => .inl h⟩
      cases heq
      exact hevent
  | polled _ => exact ⟨fun _ h => h, fun _ _ h => absurd h (hpoll _ _ _), fun _ _ _ h => .inl h⟩
  | failed _ | requestPanicked _ _ | subscribePanicked _ | replyPanicked _ _ _ | triggerPanicked _ =>
      exact ⟨fun _ h => h, (fun _ _ h => by cases h), fun _ _ _ h => .inl (hleave _ _ _ _ h)⟩
  | triggered _ _ =>
      refine ⟨fun _ h => h, fun _ _ h => absurd h (hpoll _ _ _), fun g addr id hid => .inl ?_⟩
      by_cases hg : g = s.loopCtx.run
      · subst hg
        simp only [setCollection, setLoopPc, Function.update_self] at hid
        exact hid
      · simp only [setCollection, setLoopPc, Function.update_of_ne hg] at hid
        exact hid
  | subscribed _ _ =>
      refine ⟨fun _ h => h, (fun _ _ h => by cases h), fun g addr id hid => .inl ?_⟩
      by_cases hg : g = s.loopCtx.streams
      · subst hg
        simp only [Function.update_self] at hid
        simp at hid
      · simp only [Function.update_of_ne hg] at hid
        exact hid
  | @inserted node hpc _ =>
      refine ⟨fun _ h => h, (fun _ _ h => by cases h), fun g addr id hid => ?_⟩
      by_cases hg : g = s.loopCtx.run
      · subst hg
        simp only [setCollection, setLoopPc, Function.update_self, Std.ExtTreeMap.getElem?_insert] at hid
        split at hid
        · rename_i heq
          cases Std.LawfulEqCmp.compare_eq_iff_eq.mp heq
          cases hid
          exact .inr ⟨_, hpc⟩
        · exact .inl hid
      · simp only [setCollection, setLoopPc, Function.update_of_ne hg] at hid
        exact .inl hid
  | started _ | nodeSent _ | attachPanicked _ | ticked _ | restarted _ =>
      exact ⟨fun _ h => h, (fun _ _ h => by cases h), fun _ _ _ h => .inl h⟩

/-- A collection task goes on with the nodes of its window, or opens one with the nodes of its run. -/
theorem windows_of_collection (h : s.step units a = some s') {g : ℕ} (ha : a.collectionOf = some g)
    {window : Window} (hwindow : window ∈ (s'.collections g).windows) :
    (∃ window' ∈ (s.collections g).windows, window'.connected = window.connected) ∨
      window.connected = (s.collections g).connected := by
  have hsent : ∀ window ∈ (s.collections g).sent, window ∈ (s.collections g).windows :=
    fun _ hmem => List.mem_append_left _ hmem
  have hcurrent : ∀ window, (s.collections g).pc.current = some window →
      window ∈ (s.collections g).windows := by
    intro window hpc
    rw [Collection.windows, hpc]
    exact List.mem_append_right _ (List.mem_singleton.mpr rfl)
  cases collection_cases h (Label.party_of_collectionOf ha) with
  | triggered g' hpc _ | ended g' _ | panicked g' _ _ _ | refused g' _ _ =>
      -- no window is left but those that were sent
      cases ha
      simp only [Collection.windows, setCollection, setCollectionPc, stopCollection, Function.update_self,
        CollectionPc.current, Option.toList_none, List.append_nil] at hwindow
      exact .inl ⟨window, hsent window hwindow, rfl⟩
  | opened g' _ _ =>
      cases ha
      simp only [Collection.windows, setCollection, setCollectionPc, Function.update_self,
        CollectionPc.current, Option.toList_some, List.mem_append, List.mem_singleton] at hwindow
      rcases hwindow with hold | rfl
      · exact .inl ⟨window, hsent window hold, rfl⟩
      · exact .inr rfl
  | @waits g' window₀ window₁ msg hpc _ hreceive =>
      cases ha
      simp only [Collection.windows, setCollection, setCollectionPc, Function.update_self,
        CollectionPc.current, Option.toList_some, List.mem_append, List.mem_singleton] at hwindow
      rcases hwindow with hold | rfl
      · exact .inl ⟨window, hsent window hold, rfl⟩
      · exact .inl ⟨window₀, hcurrent window₀ (by rw [hpc]; rfl), (Window.receive_frame (.inl hreceive)).1.symm⟩
  | @completed g' window₀ window₁ msg hpc _ hreceive =>
      cases ha
      simp only [Collection.windows, setCollection, setCollectionPc, Function.update_self,
        CollectionPc.current, Option.toList_some, List.mem_append, List.mem_singleton] at hwindow
      rcases hwindow with hold | rfl
      · exact .inl ⟨window, hsent window hold, rfl⟩
      · exact .inl ⟨window₀, hcurrent window₀ (by rw [hpc]; rfl), (Window.receive_frame (.inr hreceive)).1.symm⟩
  | @timedOut g' window₀ hpc =>
      cases ha
      simp only [Collection.windows, setCollection, setCollectionPc, Function.update_self,
        CollectionPc.current, Option.toList_some, List.mem_append, List.mem_singleton] at hwindow
      rcases hwindow with hold | rfl
      · exact .inl ⟨window, hsent window hold, rfl⟩
      · exact .inl ⟨window, hcurrent window (by rw [hpc]; rfl), rfl⟩
  | @sent g' window₀ hpc _ _ =>
      cases ha
      simp only [Collection.windows, setCollection, Function.update_self, CollectionPc.current,
        Option.toList_none, List.append_nil, List.mem_append, List.mem_singleton] at hwindow
      rcases hwindow with hold | rfl
      · exact .inl ⟨window, hsent window hold, rfl⟩
      · exact .inl ⟨window, hcurrent window (by rw [hpc]; rfl), rfl⟩

/-- A window has the nodes of one that was there before, or is opened with the nodes of its run. -/
theorem windows_of_step (h : s.step units a = some s') (g : ℕ) {window : Window}
    (hwindow : window ∈ (s'.collections g).windows) :
    (∃ window' ∈ (s.collections g).windows, window'.connected = window.connected) ∨
      window.connected = (s.collections g).connected := by
  have hsame : (s'.collections g).sent = (s.collections g).sent →
      (s'.collections g).pc.current = (s.collections g).pc.current →
        ∃ window' ∈ (s.collections g).windows, window'.connected = window.connected := by
    intro hsent hpc
    rw [Collection.windows, hsent, hpc] at hwindow
    exact ⟨window, hwindow, rfl⟩
  cases ha : a.party with
  | dbus =>
      rw [frame_dbus h ha] at hwindow
      exact .inl ⟨window, hwindow, rfl⟩
  | queue =>
      rw [frame_queue h ha] at hwindow
      exact .inl ⟨window, hwindow, rfl⟩
  | loop =>
      rcases collections_of_loop h ha g with ⟨hsent, hpc⟩ | ⟨-, hsent, hpc⟩
      · exact .inl (hsame hsent (by rw [hpc]))
      · rw [Collection.windows, hsent, hpc] at hwindow
        cases hwindow
  | collection =>
      obtain ⟨g', hg'⟩ := Label.exists_collectionOf ha
      by_cases hg : g = g'
      · subst hg
        exact windows_of_collection h hg' hwindow
      · obtain ⟨⟨c, hcollections⟩, -⟩ := frame_collectionOf h hg'
        rw [hcollections, Function.update_of_ne hg] at hwindow
        exact .inl ⟨window, hwindow, rfl⟩
  | update =>
      rw [frame_update h ha] at hwindow
      exact .inl ⟨window, hwindow, rfl⟩

/-- What the D-Bus thread does with the events. -/
theorem nodes_of_dbus {l : List Label} (h : s.Registered l) (hstep : s.step units a = some s')
    (ha : a.party = .dbus) :
    (∀ node, s'.dbus = .sendingEvent (.nodeAdded (.ok node)) → Added (l ++ [a]) node) ∧
      ∀ node, s'.events = some (.nodeAdded (.ok node)) → Added (l ++ [a]) node := by
  cases a <;> cases ha
  case call call now =>
    simp only [step, Service.call] at hstep
    split at hstep <;> cases hstep
    refine ⟨fun node hnode => ?_, fun node hnode => (h.event node hnode).concat _⟩
    obtain ⟨uuid, addr, count, rfl, hevent⟩ := addNodeComplete_of_handle hnode
    exact ⟨uuid, addr, count, now, List.mem_append_right _ (List.mem_singleton.mpr rfl), hevent⟩
  case dbusSend =>
    simp only [step, dbusSend] at hstep
    split at hstep
    · rename_i event hdbus
      split at hstep
      · cases hstep
        exact ⟨(fun node hnode => by cases hnode), fun node hnode => (h.event node hnode).concat _⟩
      · split at hstep <;> cases hstep
        refine ⟨(fun node hnode => by cases hnode), fun node hnode => ?_⟩
        cases hnode
        exact (h.sending node hdbus).concat _
    · split at hstep
      · cases hstep
        exact ⟨(fun node hnode => by cases hnode), fun node hnode => (h.event node hnode).concat _⟩
      · split at hstep <;> cases hstep
        exact ⟨(fun node hnode => by cases hnode), fun node hnode => (h.event node hnode).concat _⟩
    · cases hstep

/-- Every step keeps the nodes among those that were reported. -/
theorem Registered.step {l : List Label} (h : s.Registered l) (hstep : s.step units a = some s') :
    s'.Registered (l ++ [a]) := by
  have hwindow : ∀ g, ∀ window ∈ (s'.collections g).windows, AllAdded (l ++ [a]) window.connected := by
    intro g window hmem
    rcases windows_of_step hstep g hmem with ⟨window', hmem', hsame⟩ | hopened
    · rw [← hsame]
      exact (h.window g window' hmem').concat a
    · rw [hopened]
      exact (h.connected g).concat a
  have hothers : a.party ≠ .loop →
      (∀ node adding, s'.loopCtx.pc = .nodeAdded node adding → Added (l ++ [a]) node) ∧
        ∀ g, AllAdded (l ++ [a]) (s'.collections g).connected := by
    intro ha
    obtain ⟨hloop, hconnected⟩ := frame_others hstep ha
    refine ⟨fun node adding hpc => ?_, fun g => ?_⟩
    · exact (h.adding node adding (hloop ▸ hpc)).concat a
    · rw [hconnected]
      exact (h.connected g).concat a
  have hkeep : s'.dbus = s.dbus → s'.events = s.events →
      (∀ node, s'.dbus = .sendingEvent (.nodeAdded (.ok node)) → Added (l ++ [a]) node) ∧
        ∀ node, s'.events = some (.nodeAdded (.ok node)) → Added (l ++ [a]) node := by
    intro hdbus hevents
    rw [hdbus, hevents]
    exact ⟨fun node hnode => (h.sending node hnode).concat a,
      fun node hnode => (h.event node hnode).concat a⟩
  by_cases ha : a.party = .loop
  · obtain ⟨hevents, hadding, hconnected⟩ := nodes_of_loop hstep ha
    have hdbus : s'.dbus = s.dbus := by rw [frame_loop hstep ha]
    refine ⟨fun node hnode => ?_, fun node hnode => ?_, fun node adding hpc => ?_, fun g addr id hid => ?_,
      hwindow⟩
    · exact (h.sending node (hdbus ▸ hnode)).concat a
    · exact (h.event node (hevents _ hnode)).concat a
    · rcases hadding node adding hpc with hevent | ⟨adding', hbefore⟩
      · exact (h.event node hevent).concat a
      · exact (h.adding node adding' hbefore).concat a
    · rcases hconnected g addr id hid with hbefore | ⟨adding, hpc⟩
      · exact (h.connected g addr id hbefore).concat a
      · exact (h.adding _ adding hpc).concat a
  · obtain ⟨hadding, hconnected⟩ := hothers ha
    have hevents : (∀ node, s'.dbus = .sendingEvent (.nodeAdded (.ok node)) → Added (l ++ [a]) node) ∧
        ∀ node, s'.events = some (.nodeAdded (.ok node)) → Added (l ++ [a]) node := by
      cases hp : a.party with
      | dbus => exact nodes_of_dbus h hstep hp
      | queue => exact hkeep (by rw [frame_queue hstep hp]) (by rw [frame_queue hstep hp])
      | loop => exact absurd hp ha
      | collection => exact hkeep (by rw [frame_collection hstep hp]) (by rw [frame_collection hstep hp])
      | update => exact hkeep (by rw [frame_update hstep hp]) (by rw [frame_update hstep hp])
    exact ⟨hevents.1, hevents.2, hadding, hconnected, hwindow⟩

/-- In every run, the nodes that the service works on are among those that were reported. -/
theorem Registered.run {l : List Label} (h : Run (Partial (Service.step units)) (init : Service K M) l s) :
    s.Registered l := by
  refine h.history (I := fun l s => s.Registered l) (fun l s a t hs hstep => hs.step hstep) ?_
  refine ⟨(fun _ h => by cases h), (fun _ h => by cases h), (fun _ _ h => by cases h), fun g => ?_, ?_⟩
  · intro addr id hid
    simp [init] at hid
  · intro g window hmem
    simp [init, Collection.windows, CollectionPc.current] at hmem

end Service

end BleWsCentral.Mesh
