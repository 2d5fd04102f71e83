import BleWsCentral.Found.Removals
import BleWsCentral.Mesh.ServiceInv

/-!
# The order of the messages

Messages are stamped in the D-Bus thread. As long as its clock does not go backwards, they keep their
order on the way through the queue task and the stream into the windows.

* `InOrder` — a list of messages with stamps that do not decrease.
* `Stamped` — the backlog, what the queue task has in hand and what is on the way to it are in order,
  behind what the streams were handed. `Stamped.step`: this stays so if the clock does not go backwards.
* `Windows` — the windows of a collection task have got the messages of its stream one after the other,
  and their batches hold the last valid readings.
* `windows_inOrder` — so all the messages of the windows of a collection task are in order.
-/

set_option linter.unusedSectionVars false

namespace BleWsCentral.Mesh

open BleWsCentral.Found

/-! ## Stamps -/

/-- Stamps that do not decrease. -/
def InOrder (msgs : List GenericMessage) : Prop :=
  msgs.Pairwise fun m m' => m.received ≤ m'.received

theorem InOrder.sublist {msgs msgs' : List GenericMessage} (h : InOrder msgs')
    (hsub : msgs.Sublist msgs') : InOrder msgs :=
  List.Pairwise.sublist hsub h

/-- A list is in order if its parts are, and the first part is not later than the second. -/
theorem inOrder_append {msgs msgs' : List GenericMessage} :
    InOrder (msgs ++ msgs') ↔ InOrder msgs ∧ InOrder msgs' ∧
      ∀ m ∈ msgs, ∀ m' ∈ msgs', m.received ≤ m'.received :=
  List.pairwise_append

/-- A message that is not earlier than the other ones comes last. -/
theorem inOrder_concat {msgs : List GenericMessage} {msg : GenericMessage} (h : InOrder msgs)
    (hlast : ∀ m ∈ msgs, m.received ≤ msg.received) : InOrder (msgs ++ [msg]) := by
  refine inOrder_append.mpr ⟨h, List.pairwise_singleton _ _, ?_⟩
  intro m hm m' hm'
  rw [List.mem_singleton] at hm'
  exact hm' ▸ hlast m hm

/-- The message that the queue task has in hand for a stream. -/
def QueuePc.inHand (pc : QueuePc) (tx : ChanId) : List GenericMessage :=
  match pc with
  | .pullSending _ tx' _ msg => if tx' = tx then [msg] else []
  | .streamSending tx' msg => if tx' = tx then [msg] else []
  | _ => []

/-- The stream for which `try_pull_many` is run, with the positions that are left. -/
def QueuePc.pulls : QueuePc → Option (ChanId × List ℕ)
  | .pulling _ tx indexes => some (tx, indexes)
  | .pullSending _ tx indexes _ => some (tx, indexes)
  | _ => none

/-- The window that is open or about to be sent. -/
def CollectionPc.current : CollectionPc → Option Window
  | .window w => some w
  | .sending w => some w
  | _ => none

/-- The task has not ended. -/
def CollectionPc.runs : CollectionPc → Bool
  | .gone => false
  | _ => true

/-- The windows of a collection task, the oldest first. -/
def Collection.windows (c : Collection) : List Window := c.sent ++ c.pc.current.toList

/-- The messages in them. -/
def Collection.msgs (c : Collection) : List GenericMessage := c.windows.flatMap Window.msgs

namespace Service

variable {K M : Type} [DecidableEq K] [DenseSlotMap K GenericFilter M] {units : Units}
  {s s' : Service K M} {a : Label}

/-- The messages on their way to the queue task. -/
def inFlight (s : Service K M) : List GenericMessage := s.messages.toList ++ s.dbus.message

/-- What a stream was handed, and what the queue task is about to hand it. -/
def line (s : Service K M) (tx : ChanId) : List GenericMessage :=
  s.channels.handed tx ++ s.queue.pc.inHand tx

/-- All the messages are in order, and none is later than the last call. -/
structure Stamped (s : Service K M) : Prop where
  backlog : InOrder (s.queue.state.messages ++ s.inFlight)
  stream : ∀ g, InOrder (s.line (streamId g) ++ s.inFlight)
  /-- What `try_pull_many` has sent is not later than what it still may come to. -/
  pulls : ∀ tx indexes, s.queue.pc.pulls = some (tx, indexes) → indexes.Pairwise (· < ·) ∧
    ∀ m ∈ s.line tx, ∀ i ∈ indexes, ∀ m' ∈ s.queue.state.messages.drop i, m.received ≤ m'.received
  backlog_past : ∀ m ∈ s.queue.state.messages ++ s.inFlight, m.received ≤ s.clock
  stream_past : ∀ g, ∀ m ∈ s.line (streamId g), m.received ≤ s.clock

/-- The clock of the D-Bus thread does not go backwards. -/
def clockRuns (s : Service K M) : Label → Bool
  | .call _ now => s.clock ≤ now
  | _ => true

namespace Stamped

theorem init : (Service.init : Service K M).Stamped where
  backlog := .nil
  stream _ := .nil
  pulls _ _ h := by cases h
  backlog_past _ h := by cases h
  stream_past _ _ h := by cases h

/-- It is about the queue task and the messages. -/
theorem congr (h : s.Stamped) (hqueue : s'.queue = s.queue) (hchannels : s'.channels.handed =
    s.channels.handed) (hflight : s'.inFlight = s.inFlight) (hclock : s'.clock = s.clock) :
    s'.Stamped := by
  have hline : ∀ tx, s'.line tx = s.line tx := fun tx => by rw [line, line, hqueue, hchannels]
  refine ⟨?_, fun g => ?_, fun tx indexes hpulls => ?_, ?_, fun g => ?_⟩
  · rw [hqueue, hflight]
    exact h.backlog
  · rw [hline, hflight]
    exact h.stream g
  · rw [hqueue] at hpulls ⊢
    rw [hline]
    exact h.pulls tx indexes hpulls
  · rw [hqueue, hflight, hclock]
    exact h.backlog_past
  · rw [hline, hclock]
    exact h.stream_past g

/-- Messages may get lost, and the queue task may be done with what it was at. -/
theorem lose (h : s.Stamped)
    (hbacklog : (s'.queue.state.messages ++ s'.inFlight).Sublist
      (s.queue.state.messages ++ s.inFlight))
    (hstream : ∀ g, (s'.line (streamId g) ++ s'.inFlight).Sublist (s.line (streamId g) ++ s.inFlight))
    (hline : ∀ g, (s'.line (streamId g)).Sublist (s.line (streamId g)))
    (hpulls : s'.queue.pc.pulls = none) (hclock : s'.clock = s.clock) : s'.Stamped where
  backlog := h.backlog.sublist hbacklog
  stream g := (h.stream g).sublist (hstream g)
  pulls tx indexes hsome := by cases hpulls.symm.trans hsome
  backlog_past m hm := hclock ▸ h.backlog_past m (hbacklog.mem hm)
  stream_past g m hm := hclock ▸ h.stream_past g m ((hline g).mem hm)

/-- A call comes in, not before the last one. -/
theorem call (h : s.Stamped) {call : DbusCall} {now : Timestamp} (hnow : s.clock ≤ now)
    (hstep : s.call call now = some s') : s'.Stamped := by
  unfold Service.call at hstep
  split at hstep <;> cases hstep
  rename_i hidle
  have hold : s.inFlight = s.messages.toList := by simp [inFlight, hidle, DbusThread.message]
  have hnew : ∀ m ∈ (call.handle now).message, m.received = now := fun m hm => received_of_handle hm
  have hcons : ∀ msgs : List GenericMessage, InOrder (msgs ++ s.messages.toList) →
      (∀ m ∈ msgs ++ s.messages.toList, m.received ≤ s.clock) →
      InOrder (msgs ++ (s.messages.toList ++ (call.handle now).message)) := by
    intro msgs horder hpast
    rw [← List.append_assoc]
    refine inOrder_append.mpr ⟨horder, ?_, ?_⟩
    · cases hmsg : call.handle now <;> simp [DbusThread.message, InOrder]
    · intro m hm m' hm'
      rw [hnew m' hm']
      exact UInt32.le_trans (hpast m hm) hnow
  have hbacklog := h.backlog
  have hpast := h.backlog_past
  rw [hold] at hbacklog hpast
  refine ⟨hcons _ hbacklog hpast, fun g => ?_, h.pulls, fun m hm => ?_, fun g m hm => ?_⟩
  · apply hcons _ (hold ▸ h.stream g)
    intro m hm
    rcases List.mem_append.mp hm with hm | hm
    · exact h.stream_past g m hm
    · exact hpast m (List.mem_append_right _ hm)
  · rw [inFlight, ← List.append_assoc] at hm
    rcases List.mem_append.mp hm with hm | hm
    · exact UInt32.le_trans (hpast m hm) hnow
    · rw [hnew m hm]
      exact UInt32.le_refl _
  · exact UInt32.le_trans (h.stream_past g m hm) hnow

/-- A blocking send hands on what the D-Bus thread was about to push. -/
theorem dbusSend (h : s.Stamped) (hstep : s.dbusSend = some s') : s'.Stamped := by
  unfold Service.dbusSend at hstep
  split at hstep
  · rename_i event hdbus
    split at hstep
    · cases hstep
      exact h.congr rfl rfl (by simp [inFlight, hdbus, DbusThread.message]) rfl
    · split at hstep <;> cases hstep
      exact h.congr rfl rfl (by simp [inFlight, hdbus, DbusThread.message]) rfl
  · rename_i msg hdbus
    split at hstep
    · rename_i hpanicked
      cases hstep
      have hsub : (s.messages.toList ++ []).Sublist (s.messages.toList ++ s.dbus.message) :=
        (List.nil_sublist _).append_left _
      refine h.lose (hsub.append_left _) (fun g => hsub.append_left _) (fun g => .refl _) ?_ rfl
      rw [hpanicked]
      rfl
    · split at hstep <;> cases hstep
      rename_i hmessages
      exact h.congr rfl rfl (by simp [inFlight, hdbus, hmessages, DbusThread.message]) rfl
  · cases hstep

/-- The queue task panics, or is done with a message that it does not send to a stream. -/
theorem dropHand (h : s.Stamped) {pc : QueuePc} {state : State K M} {channels : Channels}
    {messages : Option GenericMessage} {requests : Option (GenericFilter × Subscriber)}
    (hpc : ∀ tx, pc.inHand tx = []) (hpulls : pc.pulls = none)
    (hchannels : ∀ g, channels.handed (streamId g) = s.channels.handed (streamId g))
    (hmessages : messages.toList.Sublist s.messages.toList)
    (hbacklog : (state.messages ++ messages.toList).Sublist
      (s.queue.state.messages ++ s.messages.toList)) :
    { s with queue := { pc, state }, channels, messages, requests }.Stamped := by
  have hflight : (messages.toList ++ s.dbus.message).Sublist s.inFlight :=
    hmessages.append_right _
  have hline : ∀ g, (channels.handed (streamId g) ++ pc.inHand (streamId g)).Sublist
      (s.line (streamId g)) := by
    intro g
    rw [hpc, hchannels, List.append_nil]
    exact List.sublist_append_left _ _
  refine h.lose ?_ (fun g => (hline g).append hflight) hline hpulls rfl
  have := hbacklog.append_right s.dbus.message
  simpa only [inFlight, List.append_assoc] using this

/-- The messages for a new stream are looked up. -/
theorem pulls_for (h : s.Stamped) (hwf : s.Wf) {filter : GenericFilter} {g : ℕ}
    (hpc : s.queue.pc = .selecting) (hrequest : s.requests = some (filter, .stream (streamId g))) :
    { s.setQueuePc (.pulling filter (streamId g) (iterFilter filter s.queue.state.messages)) with
      requests := none }.Stamped := by
  obtain ⟨hempty, -⟩ := hwf.pending _ _ hrequest
  have hline : ∀ tx, s.line tx = s.channels.handed tx ++ [] := by
    intro tx
    rw [line, hpc]
    rfl
  have hstream := h.stream
  have hpast := h.stream_past
  simp only [hline] at hstream hpast
  refine ⟨h.backlog, hstream, ?_, h.backlog_past, hpast⟩
  intro tx indexes hpulls
  cases hpulls
  refine ⟨iterFilter_eq_findIdxs _ _ ▸ List.pairwise_findIdxs, ?_⟩
  -- nothing was sent on the new stream yet
  intro m hm
  simp [line, setQueuePc, QueuePc.inHand, hempty] at hm

/-- A turn of `try_pull_many` takes a message that is not earlier than what was sent. -/
theorem pulled (h : s.Stamped) (hwf : s.Wf) {filter : GenericFilter} {tx : ChanId} {index : ℕ}
    {indexes : List ℕ} {msg : GenericMessage}
    (hpc : s.queue.pc = .pulling filter tx (index :: indexes))
    (hmsg : s.queue.state.messages[index]? = some msg) :
    { s with queue :=
      { pc := .pullSending filter tx indexes msg
        state := { s.queue.state with messages := s.queue.state.messages.eraseIdx index } } }.Stamped := by
  obtain ⟨g, -, rfl⟩ := hwf.pc tx (by rw [hpc]; rfl)
  obtain ⟨hindexes, hpulls⟩ := h.pulls (streamId g) (index :: indexes) (by rw [hpc]; rfl)
  rw [List.pairwise_cons] at hindexes
  obtain ⟨hlt, hget⟩ := List.getElem?_eq_some_iff.mp hmsg
  have hmem : msg ∈ s.queue.state.messages := List.mem_of_getElem? hmsg
  have hdrop : s.queue.state.messages.drop index =
      msg :: s.queue.state.messages.drop (index + 1) := by
    rw [List.drop_eq_getElem_cons hlt, hget]
  have hline : ∀ tx, s.line tx = s.channels.handed tx := by
    intro tx
    rw [line, hpc]
    exact List.append_nil _
  have hsent : ∀ m ∈ s.channels.handed (streamId g), m.received ≤ msg.received := by
    intro m hm
    apply hpulls m (hline _ ▸ hm) index List.mem_cons_self msg
    rw [hdrop]
    exact List.mem_cons_self
  obtain ⟨hbacklog, hflight, hle⟩ := inOrder_append.mp h.backlog
  have hsub := (List.eraseIdx_sublist s.queue.state.messages index).append_right s.inFlight
  have hhand : ∀ g', (QueuePc.pullSending filter (streamId g) indexes msg).inHand (streamId g') =
      if g = g' then [msg] else [] := by
    intro g'
    simp [QueuePc.inHand]
  refine ⟨h.backlog.sublist hsub, fun g' => ?_, ?_, fun m hm => h.backlog_past m (hsub.mem hm),
    fun g' m hm => ?_⟩
  · have hstream := h.stream g'
    rw [hline] at hstream
    by_cases hg : g = g'
    · subst hg
      obtain ⟨hhanded, -, hbefore⟩ := inOrder_append.mp hstream
      simp only [line, hhand, if_true]
      refine inOrder_append.mpr ⟨inOrder_concat hhanded hsent, hflight, ?_⟩
      intro m hm m' hm'
      rcases List.mem_append.mp hm with hm | hm
      · exact hbefore m hm m' hm'
      · rw [List.mem_singleton] at hm
        exact hm ▸ hle msg hmem m' hm'
    · simp only [line, hhand, if_neg hg, List.append_nil]
      exact hstream
  · intro tx indexes' heq
    cases heq
    refine ⟨hindexes.2, ?_⟩
    intro m hm i hi m' hm'
    have hi' : index < i := hindexes.1 i hi
    have hm' : m' ∈ s.queue.state.messages.drop (index + 1) := by
      rw [drop_eraseIdx_of_le hi'.le] at hm'
      exact (List.drop_sublist_drop_left _ (by omega)).mem hm'
    simp only [line, hhand, if_true] at hm
    rcases List.mem_append.mp hm with hm | hm
    · apply hpulls m (hline _ ▸ hm) index List.mem_cons_self m'
      rw [hdrop]
      exact List.mem_cons_of_mem _ hm'
    · rw [List.mem_singleton] at hm
      have htail := List.Pairwise.sublist (List.drop_sublist index s.queue.state.messages) hbacklog
      rw [hdrop, List.pairwise_cons] at htail
      exact hm ▸ htail.1 m' hm'
  · simp only [line, hhand] at hm
    rcases List.mem_append.mp hm with hm | hm
    · exact h.stream_past g' m (hline _ ▸ hm)
    · split at hm
      · rw [List.mem_singleton] at hm
        exact hm ▸ h.backlog_past msg (List.mem_append_left _ hmem)
      · cases hm

/-- A message is for a stream. -/
theorem routed (h : s.Stamped) {tx : ChanId} {msg : GenericMessage} (hpc : s.queue.pc = .selecting)
    (hmessages : s.messages = some msg) :
    { s.setQueuePc (.streamSending tx msg) with messages := none }.Stamped := by
  have hflight : s.inFlight = msg :: s.dbus.message := by simp [inFlight, hmessages]
  have hsub : s.dbus.message.Sublist s.inFlight := hflight ▸ List.sublist_cons_self _ _
  have hline : ∀ tx, s.line tx = s.channels.handed tx := by
    intro tx
    rw [line, hpc]
    exact List.append_nil _
  have hhand' : ∀ g, ((QueuePc.streamSending tx msg).inHand (streamId g) ++
      s.dbus.message).Sublist s.inFlight := by
    intro g
    rw [hflight]
    rw [QueuePc.inHand]
    split
    · exact .refl _
    · exact List.sublist_cons_self _ _
  refine ⟨h.backlog.sublist (hsub.append_left _), fun g => ?_, fun _ _ hsome => ?_,
    fun m hm => h.backlog_past m ((hsub.append_left _).mem hm), fun g m hm => ?_⟩
  · have hstream := h.stream g
    rw [hline] at hstream
    apply hstream.sublist
    have := (hhand' g).append_left (s.channels.handed (streamId g))
    rw [← List.append_assoc] at this
    exact this
  · cases hsome
  · rcases List.mem_append.mp hm with hm | hm
    · exact h.stream_past g m (hline _ ▸ hm)
    · refine h.backlog_past m (List.mem_append_right _ ?_)
      exact (hhand' g).mem (List.mem_append_left _ hm)

/-- What the queue task has in hand goes to the end of what the stream was handed. -/
theorem sendStream (h : s.Stamped) {tx : ChanId} {msg : GenericMessage} {pc : QueuePc}
    (hhand : ∀ tx', s.queue.pc.inHand tx' = if tx = tx' then [msg] else [])
    (hpc : ∀ tx', pc.inHand tx' = []) (hpulls : pc.pulls = none ∨ pc.pulls = s.queue.pc.pulls) :
    { s.setQueuePc pc with channels := { s.channels with
      handed := Function.update s.channels.handed tx (s.channels.handed tx ++ [msg]) } }.Stamped := by
  have hline : ∀ tx', Function.update s.channels.handed tx (s.channels.handed tx ++ [msg]) tx' ++
      pc.inHand tx' = s.line tx' := by
    intro tx'
    rw [hpc, List.append_nil, line, hhand]
    by_cases htx : tx = tx'
    · subst htx
      rw [Function.update_self, if_pos rfl]
    · rw [Function.update_of_ne (Ne.symm htx), if_neg htx, List.append_nil]
  refine ⟨h.backlog, fun g => ?_, fun tx' indexes hsome => ?_, h.backlog_past, fun g m hm => ?_⟩
  · have hstream := h.stream g
    rw [← hline] at hstream
    exact hstream
  · rcases hpulls with hnone | hsame
    · cases hnone.symm.trans hsome
    · obtain ⟨hindexes, hle⟩ := h.pulls tx' indexes (hsame.symm.trans hsome)
      rw [← hline] at hle
      exact ⟨hindexes, hle⟩
  · exact h.stream_past g m (hline (streamId g) ▸ hm)

/-- The queue task keeps the messages in order. -/
theorem step_queue (h : s.Stamped) (hwf : s.Wf) (hstep : s.step units a = some s')
    (ha : a.party = .queue) : s'.Stamped := by
  have hnil : ([] : List GenericMessage).Sublist s.messages.toList := List.nil_sublist _
  have hpanicked : (s.setQueuePc .panicked).Stamped :=
    h.dropHand (fun _ => rfl) rfl (fun _ => rfl) (.refl _) (.refl _)
  have hoff : ∀ n msg g, Function.update s.channels.handed (oneshotId n)
      (s.channels.handed (oneshotId n) ++ [msg]) (streamId g) = s.channels.handed (streamId g) :=
    fun n msg g => Function.update_of_ne (oneshotId_ne_streamId n g).symm _ _
  -- a task that selects has nothing in hand
  have hhand : s.queue.pc = .selecting → ∀ tx, s.queue.pc.inHand tx = [] := by
    intro hpc tx
    rw [hpc]
    rfl
  have hpulls : s.queue.pc = .selecting → s.queue.pc.pulls = none := by
    intro hpc
    rw [hpc]
    rfl
  cases queue_cases hwf hstep ha with
  | requestPanicked _ _ => exact hpanicked.congr rfl rfl rfl rfl
  | found hpc _ _ _ =>
      exact h.dropHand (hhand hpc) (hpulls hpc) (hoff _ _) (.refl _)
        ((List.eraseIdx_sublist _ _).append_right _)
  | registered hpc _ =>
      exact h.dropHand (hhand hpc) (hpulls hpc) (fun _ => rfl) (.refl _) (.refl _)
  | pulls hpc hrequest _ => exact h.pulls_for hwf hpc hrequest
  | pulledAll _ => exact h.dropHand (fun _ => rfl) rfl (fun _ => rfl) (.refl _) (.refl _)
  | pullPanicked _ => exact hpanicked
  | pulled hpc hmsg => exact h.pulled hwf hpc hmsg
  | messagePanicked _ _ =>
      exact h.dropHand (fun _ => rfl) rfl (fun _ => rfl) hnil (hnil.append_left _)
  | stored hpc hmessages =>
      refine h.dropHand (hhand hpc) (hpulls hpc) (fun _ => rfl) hnil ?_
      rw [hmessages, Option.toList_none, List.append_nil]
      exact .refl _
  | handed hpc _ _ _ =>
      exact h.dropHand (hhand hpc) (hpulls hpc) (hoff _ _) hnil (hnil.append_left _)
  | routed hpc hmessages _ _ => exact h.routed hpc hmessages
  | sendPanicked _ _ => exact hpanicked
  | pullSent hpc _ _ =>
      refine h.sendStream (fun tx' => by rw [hpc]; rfl) (fun _ => rfl) (.inr ?_)
      rw [hpc]
      rfl
  | messageSent hpc _ _ =>
      exact h.sendStream (fun tx' => by rw [hpc]; rfl) (fun _ => rfl) (.inl rfl)

/-- The D-Bus thread keeps the messages in order, if its clock does not go backwards. -/
theorem step_dbus (h : s.Stamped) (hclock : s.clockRuns a = true)
    (hstep : s.step units a = some s') (ha : a.party = .dbus) : s'.Stamped := by
  cases a <;> cases ha
  case call call now => exact h.call (of_decide_eq_true hclock) hstep
  case dbusSend => exact h.dbusSend hstep

end Stamped

/-- Every step keeps the messages in order, if the clock does not go backwards. -/
theorem Stamped.step (h : s.Stamped) (hwf : s.Wf) (hclock : s.clockRuns a = true)
    (hstep : s.step units a = some s') : s'.Stamped := by
  cases ha : a.party with
  | dbus => exact h.step_dbus hclock hstep ha
  | queue => exact h.step_queue hwf hstep ha
  | loop =>
      rw [frame_loop hstep ha]
      exact h.congr rfl rfl rfl rfl
  | collection =>
      obtain ⟨g, hg⟩ := Label.exists_collectionOf ha
      have hhanded := (frame_collectionOf hstep hg).2.1
      rw [frame_collection hstep ha]
      exact h.congr rfl hhanded rfl rfl
  | update =>
      rw [frame_update hstep ha]
      exact h.congr rfl rfl rfl rfl

/-! ## Windows -/

/-- The messages in the windows of a collection task are those that it took out of its stream, and the
batches hold the last valid readings of them. -/
structure Windows (units : Units) (s : Service K M) : Prop where
  msgs : ∀ g, (s.collections g).msgs <+: s.channels.handed (streamId g)
  /-- As long as the task runs, none of them is lost. -/
  taken : ∀ g, (s.collections g).pc.runs = true → (s.collections g).msgs =
    (s.channels.handed (streamId g)).take (s.taken (streamId g))
  sound : ∀ g, ∀ window ∈ (s.collections g).windows, window.Sound units

/-- The queue task hands nothing over, a message to a oneshot, or the message it awaits to send to a
stream. -/
theorem handed_cases (hwf : s.Wf) (h : s.step units a = some s') (ha : a.party = .queue) :
    s'.channels.handed = s.channels.handed ∨
      (∃ n msg, s'.channels.handed = Function.update s.channels.handed (oneshotId n)
        (s.channels.handed (oneshotId n) ++ [msg])) ∨
      ∃ tx msg, a = .queueSend ∧ s.queue.pc.sends = some (tx, msg) ∧ s.channels.dropped tx = false ∧
        s.hasRoom tx = true ∧ s'.channels.handed =
          Function.update s.channels.handed tx (s.channels.handed tx ++ [msg]) := by
  cases queue_cases hwf h ha with
  | found _ _ _ _ | handed _ _ _ _ => exact .inr (.inl ⟨_, _, rfl⟩)
  | pullSent hpc hdropped hroom | messageSent hpc hdropped hroom =>
      exact .inr (.inr ⟨_, _, rfl, by rw [hpc]; rfl, hdropped, hroom, rfl⟩)
  | _ => exact .inl rfl

/-- The queue task only adds to what the channels were handed. -/
theorem handed_of_queue (hwf : s.Wf) (h : s.step units a = some s') (ha : a.party = .queue) (c : ChanId) :
    s.channels.handed c <+: s'.channels.handed c := by
  have hupdate : ∀ (tx : ChanId) (msg : GenericMessage), s.channels.handed c <+:
      Function.update s.channels.handed tx (s.channels.handed tx ++ [msg]) c := by
    intro tx msg
    by_cases hc : c = tx
    · subst hc
      rw [Function.update_self]
      exact List.prefix_append _ _
    · rw [Function.update_of_ne hc]
  rcases handed_cases hwf h ha with hsame | ⟨n, msg, hhanded⟩ | ⟨tx, msg, -, -, -, -, hhanded⟩
  · rw [hsame]
  · rw [hhanded]
    exact hupdate _ _
  · rw [hhanded]
    exact hupdate _ _

/-- `LoopCtx::run` leaves the windows alone, or starts a new collection task. -/
theorem collections_of_loop (h : s.step units a = some s') (ha : a.party = .loop) (g : ℕ) :
    ((s'.collections g).sent = (s.collections g).sent ∧
      (s'.collections g).pc = (s.collections g).pc) ∨
      g = s.loopCtx.streams ∧ (s'.collections g).sent = [] ∧ (s'.collections g).pc = .awaiting := by
  have hset : ∀ c : Collection, c.sent = s.collection.sent → c.pc = s.collection.pc →
      (Function.update s.collections s.loopCtx.run c g).sent = (s.collections g).sent ∧
        (Function.update s.collections s.loopCtx.run c g).pc = (s.collections g).pc := by
    intro c hsent hpc
    by_cases hg : g = s.loopCtx.run
    · subst hg
      rw [Function.update_self]
      exact ⟨hsent, hpc⟩
    · rw [Function.update_of_ne hg]
      exact ⟨rfl, rfl⟩
  cases loop_cases h ha with
  | failed _ | requestPanicked _ _ | subscribePanicked _ | replyPanicked _ _ _ | triggerPanicked _ =>
      exact .inl (hset _ rfl rfl)
  | triggered _ _ | inserted _ _ => exact .inl (hset _ rfl rfl)
  | subscribed _ _ =>
      by_cases hg : g = s.loopCtx.streams
      · subst hg
        simp only [Function.update_self]
        exact .inr ⟨trivial, trivial, trivial⟩
      · simp only [Function.update_of_ne hg]
        exact .inl ⟨trivial, trivial⟩
  | _ => exact .inl ⟨rfl, rfl⟩

namespace Windows

theorem init : (Service.init : Service K M).Windows units where
  msgs _ := List.nil_prefix
  taken _ h := by cases h
  sound _ _ h := by cases h

/-- The steps of the other tasks. -/
theorem of_same (h : s.Windows units) (hwf : s.Wf)
    (hcollections : ∀ g, ((s'.collections g).sent = (s.collections g).sent ∧
      (s'.collections g).pc = (s.collections g).pc) ∨
      g = s.loopCtx.streams ∧ (s'.collections g).sent = [] ∧ (s'.collections g).pc = .awaiting)
    (hhanded : ∀ c, s.channels.handed c <+: s'.channels.handed c)
    (hfresh : ∀ g, s.loopCtx.streams ≤ g → s'.channels.handed (streamId g) = [])
    (htaken : s'.taken = s.taken) : s'.Windows units := by
  refine ⟨fun g => ?_, fun g hruns => ?_, fun g window hwindow => ?_⟩
  · rcases hcollections g with ⟨hsent, hpc⟩ | ⟨-, hsent, hpc⟩
    · rw [Collection.msgs, Collection.windows, hsent, hpc]
      exact (h.msgs g).trans (hhanded _)
    · rw [Collection.msgs, Collection.windows, hsent, hpc]
      exact List.nil_prefix
  · rcases hcollections g with ⟨hsent, hpc⟩ | ⟨rfl, hsent, hpc⟩
    · rw [hpc] at hruns
      have htaken_le := hwf.taken_le (streamId g)
      obtain ⟨rest, hrest⟩ := hhanded (streamId g)
      rw [Collection.msgs, Collection.windows, hsent, hpc, htaken, ← hrest,
        List.take_append_of_le_length htaken_le]
      exact h.taken g hruns
    · rw [Collection.msgs, Collection.windows, hsent, hpc, hfresh _ (Nat.le_refl _), List.take_nil]
      rfl
  · rcases hcollections g with ⟨hsent, hpc⟩ | ⟨-, hsent, hpc⟩
    · rw [Collection.windows, hsent, hpc] at hwindow
      exact h.sound g window hwindow
    · rw [Collection.windows, hsent, hpc] at hwindow
      cases hwindow

/-- A step of a collection task, by what becomes of its windows. -/
theorem of_own (h : s.Windows units) (hstep : s.step units a = some s') {g : ℕ}
    (ha : a.collectionOf = some g)
    (hmsgs : (s'.collections g).msgs <+: s.channels.handed (streamId g))
    (htaken : (s'.collections g).pc.runs = true → (s'.collections g).msgs =
      (s.channels.handed (streamId g)).take (s'.taken (streamId g)))
    (hsound : ∀ window ∈ (s'.collections g).windows, window.Sound units) : s'.Windows units := by
  obtain ⟨⟨c, hcollections⟩, hhanded, -, hothers⟩ := frame_collectionOf hstep ha
  have hsame : ∀ g', g' ≠ g → s'.collections g' = s.collections g' ∧
      s'.taken (streamId g') = s.taken (streamId g') := by
    intro g' hg
    rw [hcollections, Function.update_of_ne hg]
    exact ⟨rfl, hothers _ (streamId_injective.ne hg)⟩
  refine ⟨fun g' => ?_, fun g' => ?_, fun g' => ?_⟩
  · rw [hhanded]
    by_cases hg : g' = g
    · exact hg ▸ hmsgs
    · rw [(hsame g' hg).1]
      exact h.msgs g'
  · rw [hhanded]
    by_cases hg : g' = g
    · exact hg ▸ htaken
    · rw [(hsame g' hg).1, (hsame g' hg).2]
      exact h.taken g'
  · by_cases hg : g' = g
    · exact hg ▸ hsound
    · rw [(hsame g' hg).1]
      exact h.sound g'

/-- A collection task that goes on with the same windows. -/
theorem of_sameWindows (h : s.Windows units) (hstep : s.step units a = some s') {g : ℕ}
    (ha : a.collectionOf = some g) (hruns : (s.collections g).pc.runs = true)
    (hwindows : (s'.collections g).windows = (s.collections g).windows)
    (htaken : s'.taken = s.taken) : s'.Windows units := by
  have hmsgs : (s'.collections g).msgs = (s.collections g).msgs := by
    rw [Collection.msgs, hwindows, Collection.msgs]
  refine h.of_own hstep ha (hmsgs ▸ h.msgs g) (fun _ => ?_) (hwindows ▸ h.sound g)
  rw [hmsgs, htaken]
  exact h.taken g hruns

/-- A collection task that ends, and may lose the window it is at. -/
theorem of_stop (h : s.Windows units) (hstep : s.step units a = some s') {g : ℕ}
    (ha : a.collectionOf = some g) (hgone : (s'.collections g).pc = .gone)
    (hsent : (s'.collections g).sent = (s.collections g).sent) : s'.Windows units := by
  have hwindows : (s'.collections g).windows = (s.collections g).sent := by
    rw [Collection.windows, hgone, hsent]
    exact List.append_nil _
  refine h.of_own hstep ha ?_ (fun hruns => by rw [hgone] at hruns; cases hruns) ?_
  · rw [Collection.msgs, hwindows]
    refine List.IsPrefix.trans ?_ (h.msgs g)
    rw [Collection.msgs, Collection.windows, List.flatMap_append]
    exact List.prefix_append _ _
  · rw [hwindows]
    exact fun window hwindow => h.sound g window (List.mem_append_left _ hwindow)

/-- A collection task that takes a message into its window. -/
theorem of_receive (h : s.Windows units) {g : ℕ} (hstep : s.step units (.collect g) = some s')
    {window window' : Window} {msg : GenericMessage} (hpc : (s.collections g).pc = .window window)
    (hmsg : (s.channels.handed (streamId g))[s.taken (streamId g)]? = some msg)
    (hreceive : window.receive units msg = .waiting window' ∨
      window.receive units msg = .complete window')
    (hsent : (s'.collections g).sent = (s.collections g).sent)
    (hpc' : (s'.collections g).pc.current = some window')
    (htaken : s'.taken (streamId g) = s.taken (streamId g) + 1) : s'.Windows units := by
  obtain ⟨-, hmsgs⟩ := Window.receive_frame hreceive
  have htake := h.taken g (by rw [hpc]; rfl)
  have hwindows : (s.collections g).windows = (s.collections g).sent ++ [window] := by
    rw [Collection.windows, hpc]
    rfl
  have hwindows' : (s'.collections g).windows = (s.collections g).sent ++ [window'] := by
    rw [Collection.windows, hpc', hsent]
    rfl
  have hall : (s'.collections g).msgs =
      (s.channels.handed (streamId g)).take (s.taken (streamId g) + 1) := by
    rw [Collection.msgs, hwindows] at htake
    rw [Collection.msgs, hwindows', List.take_add_one, hmsg, ← htake]
    simp [hmsgs]
  refine h.of_own hstep rfl (hall ▸ List.take_prefix _ _) (fun _ => htaken ▸ hall) ?_
  rw [hwindows']
  intro w hw
  rcases List.mem_append.mp hw with hw | hw
  · apply h.sound g w
    rw [hwindows]
    exact List.mem_append_left _ hw
  · rw [List.mem_singleton] at hw
    subst hw
    refine Window.Sound.receive (h.sound g window ?_) hreceive
    rw [hwindows]
    exact List.mem_append_right _ (List.mem_singleton.mpr rfl)

/-- A collection task fills its windows one after the other. -/
theorem step_collection (h : s.Windows units) (hstep : s.step units a = some s')
    (ha : a.party = .collection) : s'.Windows units := by
  have hstop : ∀ (t : Service K M) (g : ℕ), t.collections = s.collections →
      ((t.stopCollection g).collections g).pc = .gone ∧
        ((t.stopCollection g).collections g).sent = (s.collections g).sent := by
    intro t g ht
    simp [stopCollection, setCollectionPc, setCollection, ht]
  have hgoOn : ∀ (t : Service K M) (g : ℕ) (pc : CollectionPc), t.collections = s.collections →
      ((t.setCollectionPc g pc).collections g).pc = pc ∧
        ((t.setCollectionPc g pc).collections g).sent = (s.collections g).sent := by
    intro t g pc ht
    simp [setCollectionPc, setCollection, ht]
  cases collection_cases hstep ha with
  | triggered g hpc _ =>
      refine h.of_sameWindows hstep rfl (by rw [hpc]; rfl) ?_ rfl
      simp [Collection.windows, setCollection, hpc, CollectionPc.current]
  | ended g _ => exact h.of_stop hstep rfl (hstop s g rfl).1 (hstop s g rfl).2
  | opened g hpc _ =>
      have hwindows : (s.collections g).windows = (s.collections g).sent := by
        simp [Collection.windows, hpc, CollectionPc.current]
      have hwindows' : ∀ c, ((s.setCollectionPc g (.window (.opened c))).collections g).windows =
          (s.collections g).sent ++ [.opened c] := by
        simp [Collection.windows, setCollectionPc, setCollection, CollectionPc.current]
      have hmsgs : ∀ c, ((s.setCollectionPc g (.window (.opened c))).collections g).msgs =
          (s.collections g).msgs := by
        intro c
        rw [Collection.msgs, hwindows', Collection.msgs, hwindows, List.flatMap_append]
        exact List.append_nil _
      refine h.of_own hstep rfl (hmsgs _ ▸ h.msgs g) (fun _ => ?_) fun w hw => ?_
      · rw [hmsgs]
        exact h.taken g (by rw [hpc]; rfl)
      · rw [hwindows'] at hw
        rcases List.mem_append.mp hw with hw | hw
        · exact h.sound g w (hwindows ▸ hw)
        · rw [List.mem_singleton] at hw
          exact hw ▸ Window.sound_opened _
  | panicked g _ _ _ => exact h.of_stop hstep rfl (hstop _ g rfl).1 (hstop _ g rfl).2
  | waits g hpc hmsg hreceive =>
      refine h.of_receive hstep hpc hmsg (.inl hreceive) (hgoOn _ g _ rfl).2 ?_ ?_
      · simp [setCollectionPc, setCollection, CollectionPc.current]
      · simp [setCollectionPc, setCollection]
  | completed g hpc hmsg hreceive =>
      refine h.of_receive hstep hpc hmsg (.inr hreceive) (hgoOn _ g _ rfl).2 ?_ ?_
      · simp [setCollectionPc, setCollection, CollectionPc.current]
      · simp [setCollectionPc, setCollection]
  | timedOut g hpc =>
      refine h.of_sameWindows hstep rfl (by rw [hpc]; rfl) ?_ rfl
      rw [Collection.windows, (hgoOn s g _ rfl).1, (hgoOn s g _ rfl).2, Collection.windows, hpc]
      rfl
  | sent g hpc _ _ =>
      refine h.of_sameWindows hstep rfl (by rw [hpc]; rfl) ?_ rfl
      simp [Collection.windows, setCollection, hpc, CollectionPc.current]
  | refused g _ _ => exact h.of_stop hstep rfl (hstop s g rfl).1 (hstop s g rfl).2

/-- Every step fills the windows one after the other. -/
theorem step (h : s.Windows units) (hwf : s.Wf) (hstep : s.step units a = some s') :
    s'.Windows units := by
  have hwf' := hwf.step hstep
  cases ha : a.party with
  | dbus =>
      rw [frame_dbus hstep ha]
      exact h.of_same hwf (fun _ => .inl ⟨rfl, rfl⟩) (fun _ => List.prefix_rfl) hwf.fresh rfl
  | queue =>
      have hhanded := handed_of_queue hwf hstep ha
      have hframe := frame_queue hstep ha
      have hfresh := hwf'.fresh
      rw [hframe] at hfresh ⊢
      exact h.of_same hwf (fun _ => .inl ⟨rfl, rfl⟩) hhanded hfresh rfl
  | loop =>
      have hcollections := collections_of_loop hstep ha
      rw [frame_loop hstep ha]
      exact h.of_same hwf hcollections (fun _ => List.prefix_rfl) hwf.fresh rfl
  | collection => exact h.step_collection hstep ha
  | update =>
      rw [frame_update hstep ha]
      exact h.of_same hwf (fun _ => .inl ⟨rfl, rfl⟩) (fun _ => List.prefix_rfl) hwf.fresh rfl

end Windows

/-- In a run in which the clock does not go backwards, the messages in the windows of a collection task
are in order, and the batches hold the last valid readings of them. -/
theorem windows_inOrder {l : List Label}
    (h : Run (Guarded (Partial (step units)) fun s a => s.clockRuns a = true)
      (Service.init : Service K M) l s) (g : ℕ) :
    InOrder (s.collections g).msgs ∧ ∀ window ∈ (s.collections g).windows, window.Sound units := by
  obtain ⟨-, hstamped, hwindows⟩ := h.invariant
    (I := fun s : Service K M => s.Wf ∧ s.Stamped ∧ s.Windows units)
    (fun _ _ _ ⟨hwf, hstamped, hwindows⟩ hstep =>
      ⟨hwf.step hstep.2, hstamped.step hwf hstep.1 hstep.2, hwindows.step hwf hstep.2⟩)
    ⟨Wf.init, Stamped.init, Windows.init⟩
  refine ⟨?_, hwindows.sound g⟩
  have hline := (inOrder_append.mp (hstamped.stream g)).1
  exact (inOrder_append.mp hline).1.sublist (hwindows.msgs g).sublist

end Service

end BleWsCentral.Mesh
