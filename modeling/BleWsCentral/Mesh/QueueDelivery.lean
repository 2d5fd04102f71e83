import BleWsCentral.Found.Ledger
import BleWsCentral.Mesh.QueueTurns

/-!
# Delivery by the message queue

While every receiver is alive, the queue task is an exact account of the messages pushed to it.

* `Accounts L pushed messages handed` — the ledger `L` says where every pushed message is: the backlog
  and the channels hold the messages at the positions that `L` gives, in that order. Arrival numbers
  tell two messages of equal content apart.
* `LiveInv q L` — the invariant: `L` accounts for the messages, every registered filter belongs to a
  request whose channel is still waiting, and no message in the backlog matches a registered filter.
* `LiveInv.exists_step` — one turn of the task keeps it: a pushed message is kept or passed on, a
  request is answered from the backlog or registered.
* `live_run` — every run keeps it, and `delivery` says what follows for the callers.
-/

set_option linter.unusedSectionVars false

namespace BleWsCentral.Mesh

open BleWsCentral.Found

/-! ## The account -/

/-- `messages` are the pushed messages at the positions `is`, in this order. -/
def LiesAt (pushed : List GenericMessage) (is : List ℕ) (messages : List GenericMessage) : Prop :=
  messages.map some = is.map fun i => pushed[i]?

namespace LiesAt

variable {pushed messages : List GenericMessage} {is : List ℕ}

theorem length_eq (h : LiesAt pushed is messages) : messages.length = is.length := by
  simpa using congrArg List.length h

theorem getElem? (h : LiesAt pushed is messages) {k : ℕ} (hk : k < is.length) :
    messages[k]? = pushed[is[k]]? := by
  have := congrArg (fun l => l[k]?) h
  have hk' : k < messages.length := h.length_eq ▸ hk
  simpa [hk, hk'] using this

/-- Later messages lie behind the ones there. -/
theorem push (h : LiesAt pushed is messages) (his : ∀ i ∈ is, i < pushed.length)
    (msg : GenericMessage) : LiesAt (pushed ++ [msg]) is messages := by
  unfold LiesAt at h ⊢
  rw [h]
  apply List.map_congr_left
  intro i hi
  rw [List.getElem?_append_left (his i hi)]

theorem snoc (h : LiesAt pushed is messages) {i : ℕ} {msg : GenericMessage}
    (hmsg : pushed[i]? = some msg) : LiesAt pushed (is ++ [i]) (messages ++ [msg]) := by
  unfold LiesAt at h ⊢
  simp [h, hmsg]

theorem eraseIdx (h : LiesAt pushed is messages) (k : ℕ) :
    LiesAt pushed (is.eraseIdx k) (messages.eraseIdx k) := by
  unfold LiesAt at h ⊢
  rw [← List.eraseIdx_map, ← List.eraseIdx_map, h]

end LiesAt

/-- The ledger says where the pushed messages are. -/
structure Accounts (L : Ledger ChanId) (pushed messages : List GenericMessage)
    (handed : ChanId → List GenericMessage) : Prop where
  arrived : L.arrived = pushed.length
  backlog : LiesAt pushed L.backlog messages
  handed : ∀ c, LiesAt pushed (L.handed c) (handed c)

namespace Accounts

variable {L : Ledger ChanId} {pushed messages : List GenericMessage}
  {handed : ChanId → List GenericMessage} {msg : GenericMessage}

theorem lt_of_mem_backlog (h : Accounts L pushed messages handed) : ∀ i ∈ L.backlog, i < pushed.length :=
  fun _ hi => h.arrived ▸ L.lt_of_mem_backlog hi

theorem lt_of_mem_handed (h : Accounts L pushed messages handed) (c : ChanId) :
    ∀ i ∈ L.handed c, i < pushed.length :=
  fun _ hi => h.arrived ▸ L.lt_of_mem_handed hi

/-- A new message that is put into the backlog. -/
theorem keep (h : Accounts L pushed messages handed) (msg : GenericMessage) :
    Accounts L.keep (pushed ++ [msg]) (messages ++ [msg]) handed where
  arrived := by simp [Ledger.keep, h.arrived]
  backlog := (h.backlog.push h.lt_of_mem_backlog msg).snoc (by simp [h.arrived])
  handed c := (h.handed c).push (h.lt_of_mem_handed c) msg

/-- What the channels hold after one of them was handed one more message. -/
theorem handTo {pushed' : List GenericMessage}
    (h : ∀ c, LiesAt pushed' (L.handed c) (handed c)) {i : ℕ} (hmsg : pushed'[i]? = some msg)
    (c c' : ChanId) :
    LiesAt pushed' (L.handTo c i c') (Function.update handed c (handed c ++ [msg]) c') := by
  unfold Ledger.handTo
  by_cases hc : c' = c
  · subst hc
    rw [Function.update_self, Function.update_self]
    exact (h c').snoc hmsg
  · rw [Function.update_of_ne hc, Function.update_of_ne hc]
    exact h c'

/-- A new message that is handed to `c`. -/
theorem pass (h : Accounts L pushed messages handed) (msg : GenericMessage) (c : ChanId) :
    Accounts (L.pass c) (pushed ++ [msg]) messages
      (Function.update handed c (handed c ++ [msg])) where
  arrived := by simp [Ledger.pass, h.arrived]
  backlog := h.backlog.push h.lt_of_mem_backlog msg
  handed := handTo (fun c => (h.handed c).push (h.lt_of_mem_handed c) msg) (by simp [h.arrived]) c

/-- A message of the backlog that is handed to `c`. -/
theorem answer (h : Accounts L pushed messages handed) {k : ℕ} (hk : k < L.backlog.length)
    (hmsg : messages[k]? = some msg) {c : ChanId} (hc : ∀ j ∈ L.handed c, j < L.backlog[k]) :
    Accounts (L.answer c k hk hc) pushed (messages.eraseIdx k)
      (Function.update handed c (handed c ++ [msg])) where
  arrived := h.arrived
  backlog := h.backlog.eraseIdx k
  handed := handTo h.handed (by rw [← h.backlog.getElem? hk, hmsg]) c

end Accounts

/-! ## The invariant of a run with live receivers -/

theorem RequestKind.subscriber_inj {kind kind' : RequestKind} {c c' : ChanId}
    (h : kind.subscriber c = kind'.subscriber c') : c = c' := by
  cases kind <;> cases kind' <;> simp_all [RequestKind.subscriber]

variable {K M : Type} [DecidableEq K] [DenseSlotMap K GenericFilter M]

/-- The events of a run in which every receiver stays alive, and a stream is only asked for when no
message in the backlog matches its filter. -/
def Queue.Live (q : Queue K M) : QueueEvent → Prop
  | .pushMsg .. => True
  | .pullMsg .. => True
  | .subscribe filter => ∀ m ∈ q.state.messages, filter.isMatch m = false
  | .dropReceiver _ => False

/-- What holds of the queue after every turn of a live run, with the ledger of the messages. -/
structure LiveInv (q : Queue K M) (L : Ledger ChanId) : Prop where
  accounts : Accounts L q.pushed q.state.messages q.channels.handed
  alive : ∀ c, q.channels.dropped c = false
  /-- A registered filter is that of a request, whose subscriber is registered under the same key and
  got no message yet if it waits for one only. -/
  registered : ∀ key f, (key, f) ∈ DenseSlotMap.iter q.state.filters →
    ∃ kind c, q.requests[c]? = some ⟨kind, f⟩ ∧
      q.state.subscribers.get key = some (kind.subscriber c) ∧
      (kind = .oneshot → q.channels.handed c = [])
  /-- Two keys do not share a channel. -/
  key_unique : ∀ e ∈ DenseSlotMap.iter q.state.filters, ∀ e' ∈ DenseSlotMap.iter q.state.filters,
    q.state.subscribers.get e.1 = q.state.subscribers.get e'.1 → e.1 = e'.1
  unmatched : ∀ m ∈ q.state.messages, ∀ e ∈ DenseSlotMap.iter q.state.filters,
    e.2.isMatch m = false
  matching : ∀ c, ∀ m ∈ q.channels.handed c,
    ∃ kind f, q.requests[c]? = some ⟨kind, f⟩ ∧ f.isMatch m = true
  oneshot : ∀ c f, q.requests[c]? = some ⟨.oneshot, f⟩ → (q.channels.handed c).length ≤ 1

namespace LiveInv

variable {q : Queue K M} {L : Ledger ChanId}

theorem init : LiveInv (Queue.init : Queue K M) Ledger.empty where
  accounts := ⟨rfl, rfl, fun _ => rfl⟩
  alive _ := rfl
  registered := by simp [Queue.init, State.init]
  key_unique := by simp [Queue.init, State.init]
  unmatched := by simp [Queue.init, State.init]
  matching := by simp [Queue.init, Channels.init]
  oneshot := by simp [Queue.init]

/-- A channel nobody asked for yet holds nothing. -/
theorem handed_eq_nil (h : LiveInv q L) {c : ChanId} (hc : q.requests.length ≤ c) :
    q.channels.handed c = [] := by
  rw [List.eq_nil_iff_forall_not_mem]
  intro m hm
  obtain ⟨kind, f, hreq, -⟩ := h.matching c m hm
  rw [List.getElem?_eq_none hc] at hreq
  cases hreq

/-- A pushed message that no filter matches is kept. -/
theorem keep (h : LiveInv q L) {msg : GenericMessage}
    (hmsg : ∀ e ∈ DenseSlotMap.iter q.state.filters, e.2.isMatch msg = false) :
    LiveInv { q with state := { q.state with messages := q.state.messages ++ [msg] },
                     pushed := q.pushed ++ [msg] } L.keep where
  accounts := h.accounts.keep msg
  alive := h.alive
  registered := h.registered
  key_unique := h.key_unique
  unmatched := by
    intro m hm e he
    rcases List.mem_append.mp hm with hm | hm
    · exact h.unmatched m hm e he
    · rw [List.mem_singleton] at hm
      exact hm ▸ hmsg e he
  matching := h.matching
  oneshot := h.oneshot

/-- Handing a message that the filter of channel `c` matches keeps what the channels promise, as long
as a oneshot got nothing before. -/
theorem handed_spec (h : LiveInv q L) {msg : GenericMessage} {kind : RequestKind} {c : ChanId}
    {f : GenericFilter} (hreq : q.requests[c]? = some ⟨kind, f⟩) (hf : f.isMatch msg = true)
    (hnew : kind = .oneshot → q.channels.handed c = []) :
    (∀ c', ∀ m ∈ Function.update q.channels.handed c (q.channels.handed c ++ [msg]) c',
      ∃ kind f, q.requests[c']? = some ⟨kind, f⟩ ∧ f.isMatch m = true) ∧
    ∀ c' f, q.requests[c']? = some ⟨.oneshot, f⟩ →
      (Function.update q.channels.handed c (q.channels.handed c ++ [msg]) c').length ≤ 1 := by
  constructor
  · intro c' m hm
    by_cases hc : c' = c
    · subst hc
      rw [Function.update_self] at hm
      rcases List.mem_append.mp hm with hm | hm
      · exact h.matching c' m hm
      · rw [List.mem_singleton] at hm
        exact ⟨kind, f, hreq, hm ▸ hf⟩
    · rw [Function.update_of_ne hc] at hm
      exact h.matching c' m hm
  · intro c' f' hreq'
    by_cases hc : c' = c
    · subst hc
      obtain rfl : kind = .oneshot := by
        rw [hreq] at hreq'
        simpa using congrArg (Option.map Request.kind) hreq'
      rw [Function.update_self, hnew rfl]
      simp
    · rw [Function.update_of_ne hc]
      exact h.oneshot c' f' hreq'

/-- The channels after `c` was handed `msg`. -/
def handTo (w : Channels) (c : ChanId) (msg : GenericMessage) : Channels :=
  { w with handed := Function.update w.handed c (w.handed c ++ [msg]) }

/-- A pushed message that goes to a stream subscriber. -/
theorem pass_stream (h : LiveInv q L) {msg : GenericMessage} {c : ChanId} {f : GenericFilter}
    (hreq : q.requests[c]? = some ⟨.stream, f⟩) (hf : f.isMatch msg = true) :
    LiveInv { q with channels := handTo q.channels c msg, pushed := q.pushed ++ [msg] }
      (L.pass c) where
  accounts := h.accounts.pass msg c
  alive := h.alive
  registered := by
    intro key f' hkey
    obtain ⟨kind, c', hreq', hsub, hnew⟩ := h.registered key f' hkey
    refine ⟨kind, c', hreq', hsub, ?_⟩
    rintro rfl
    have hne : c' ≠ c := by
      rintro rfl
      simp [hreq] at hreq'
    simpa [handTo, hne] using hnew rfl
  key_unique := h.key_unique
  unmatched := h.unmatched
  matching := (h.handed_spec hreq hf (by simp)).1
  oneshot := (h.handed_spec hreq hf (by simp)).2

/-- A pushed message that goes to a oneshot subscriber, which is removed. -/
theorem pass_oneshot (h : LiveInv q L) {msg : GenericMessage} {key : K} {c : ChanId}
    {f : GenericFilter} (hreq : q.requests[c]? = some ⟨.oneshot, f⟩)
    (hkey : (key, f) ∈ DenseSlotMap.iter q.state.filters)
    (hsub : q.state.subscribers.get key = some (.oneshot (some c)))
    (hnew : q.channels.handed c = []) (hf : f.isMatch msg = true) :
    LiveInv { q with state := q.state.removeSubscriber key, channels := handTo q.channels c msg,
                     pushed := q.pushed ++ [msg] } (L.pass c) where
  accounts := h.accounts.pass msg c
  alive := h.alive
  registered := by
    intro key' f' hkey'
    obtain ⟨hmem, hne⟩ := State.mem_filters_removeSubscriber.mp hkey'
    obtain ⟨kind, c', hreq', hsub', hnew'⟩ := h.registered key' f' hmem
    refine ⟨kind, c', hreq', (State.get_removeSubscriber_of_ne hne).trans hsub', ?_⟩
    rintro rfl
    have hcne : c' ≠ c := by
      rintro rfl
      exact hne (h.key_unique _ hmem _ hkey (hsub'.trans hsub.symm))
    simpa [handTo, hcne] using hnew' rfl
  key_unique := by
    intro e he e' he' heq
    obtain ⟨hmem, hne⟩ := State.mem_filters_removeSubscriber.mp he
    obtain ⟨hmem', hne'⟩ := State.mem_filters_removeSubscriber.mp he'
    rw [State.get_removeSubscriber_of_ne hne, State.get_removeSubscriber_of_ne hne'] at heq
    exact h.key_unique e hmem e' hmem' heq
  unmatched m hm e he := h.unmatched m hm e (State.mem_filters_removeSubscriber.mp he).1
  matching := (h.handed_spec hreq hf fun _ => hnew).1
  oneshot := (h.handed_spec hreq hf fun _ => hnew).2

/-- A request on a channel of its own, before it is answered or registered. -/
theorem ask (h : LiveInv q L) (r : Request) :
    LiveInv { q with requests := q.requests ++ [r] } L where
  accounts := h.accounts
  alive := h.alive
  registered := by
    intro key f hkey
    obtain ⟨kind, c, hreq, hrest⟩ := h.registered key f hkey
    exact ⟨kind, c, List.getElem?_append_left (List.getElem?_eq_some_iff.mp hreq).1 ▸ hreq, hrest⟩
  key_unique := h.key_unique
  unmatched := h.unmatched
  matching := by
    intro c m hm
    obtain ⟨kind, f, hreq, hf⟩ := h.matching c m hm
    exact ⟨kind, f, List.getElem?_append_left (List.getElem?_eq_some_iff.mp hreq).1 ▸ hreq, hf⟩
  oneshot := by
    intro c f hreq
    by_cases hc : c < q.requests.length
    · exact h.oneshot c f (List.getElem?_append_left hc ▸ hreq)
    · simp [h.handed_eq_nil (not_lt.mp hc)]

/-- No registered subscriber has the channel of a new request. -/
theorem get_ne_new (h : LiveInv q L) (kind : RequestKind) {e : K × GenericFilter}
    (he : e ∈ DenseSlotMap.iter q.state.filters) :
    q.state.subscribers.get e.1 ≠ some (kind.subscriber q.requests.length) := by
  intro heq
  obtain ⟨kind', c, hreq, hsub, -⟩ := h.registered e.1 e.2 he
  rw [hsub, Option.some_inj] at heq
  have hc : c < q.requests.length := (List.getElem?_eq_some_iff.mp hreq).1
  exact hc.ne (RequestKind.subscriber_inj heq)

/-- A request that is registered, since nothing in the backlog matches its filter. -/
theorem register (h : LiveInv q L) (kind : RequestKind) {f : GenericFilter}
    (hf : ∀ m ∈ q.state.messages, f.isMatch m = false) :
    LiveInv { q with state := q.state.addSubscriber f (kind.subscriber q.requests.length),
                     requests := q.requests ++ [⟨kind, f⟩] } L where
  accounts := h.accounts
  alive := h.alive
  registered := by
    intro key f' hkey
    rcases State.mem_filters_addSubscriber.mp hkey with heq | hmem
    · obtain ⟨rfl, rfl⟩ := Prod.mk.inj heq
      exact ⟨kind, q.requests.length, by simp, State.get_addSubscriber_self,
        fun _ => h.handed_eq_nil le_rfl⟩
    · obtain ⟨kind', c, hreq, hsub, hnew⟩ := (h.ask ⟨kind, f⟩).registered key f' hmem
      exact ⟨kind', c, hreq, (State.get_addSubscriber_of_mem hmem).trans hsub, hnew⟩
  key_unique := by
    intro e he e' he' heq
    rcases State.mem_filters_addSubscriber.mp he with rfl | hmem <;>
      rcases State.mem_filters_addSubscriber.mp he' with rfl | hmem'
    · rfl
    · rw [State.get_addSubscriber_self, State.get_addSubscriber_of_mem hmem'] at heq
      exact absurd heq.symm (h.get_ne_new kind hmem')
    · rw [State.get_addSubscriber_self, State.get_addSubscriber_of_mem hmem] at heq
      exact absurd heq (h.get_ne_new kind hmem)
    · rw [State.get_addSubscriber_of_mem hmem, State.get_addSubscriber_of_mem hmem'] at heq
      exact h.key_unique e hmem e' hmem' heq
  unmatched := by
    intro m hm e he
    rcases State.mem_filters_addSubscriber.mp he with rfl | hmem
    · exact hf m hm
    · exact h.unmatched m hm e hmem
  matching := (h.ask ⟨kind, f⟩).matching
  oneshot := (h.ask ⟨kind, f⟩).oneshot

/-- A oneshot request that is answered with the message at position `k` of the backlog. -/
theorem answer (h : LiveInv q L) {f : GenericFilter} {k : ℕ} {m : GenericMessage}
    (hk : k < L.backlog.length) (hm : q.state.messages[k]? = some m) (hf : f.isMatch m = true) :
    LiveInv { q with state := { q.state with messages := q.state.messages.eraseIdx k },
                     channels := handTo q.channels q.requests.length m,
                     requests := q.requests ++ [⟨.oneshot, f⟩] }
      (L.answer q.requests.length k hk (by
        have := (h.accounts.handed q.requests.length).length_eq
        rw [h.handed_eq_nil le_rfl, List.length_nil, eq_comm, List.length_eq_zero_iff] at this
        simp [this])) where
  accounts := h.accounts.answer hk hm _
  alive := h.alive
  registered := by
    intro key f' hkey
    obtain ⟨kind, c, hreq, hsub, hnew⟩ := (h.ask ⟨.oneshot, f⟩).registered key f' hkey
    refine ⟨kind, c, hreq, hsub, ?_⟩
    rintro rfl
    have hne : c ≠ q.requests.length := by
      rintro rfl
      exact h.get_ne_new .oneshot hkey hsub
    simpa [handTo, hne] using hnew rfl
  key_unique := h.key_unique
  unmatched m' hm' := h.unmatched m' (List.mem_of_mem_eraseIdx hm')
  matching := ((h.ask ⟨.oneshot, f⟩).handed_spec List.getElem?_concat_length hf
    fun _ => h.handed_eq_nil le_rfl).1
  oneshot := ((h.ask ⟨.oneshot, f⟩).handed_spec List.getElem?_concat_length hf
    fun _ => h.handed_eq_nil le_rfl).2

/-! ### One turn of the task -/

/-- A pushed message is kept or passed on. -/
theorem exists_push (h : LiveInv q L) (msg : Message) (info : MessageMeta) (now : Timestamp) :
    ∃ q' L', q.step (.pushMsg msg info now) = .ok q' ∧ LiveInv q' L' := by
  generalize hm : GenericMessage.new msg info now = m
  rcases hmatch : q.state.matchFilter m with _ | key
  · refine ⟨_, _, ?_, h.keep (State.matchFilter_eq_none.mp hmatch)⟩
    simp [Queue.step, hm, State.onMessage, State.routeMessage, hmatch, bind, Except.bind]
  · obtain ⟨f, hkey, hf⟩ := State.exists_of_matchFilter hmatch
    obtain ⟨kind, c, hreq, hsub, hnew⟩ := h.registered key f hkey
    have hsend := Channels.send_of_alive (h.alive c) m
    cases kind with
    | oneshot =>
        refine ⟨_, _, ?_, h.pass_oneshot hreq hkey hsub (hnew rfl) hf⟩
        simp [Queue.step, hm, State.onMessage, State.routeMessage, hmatch, hsub, hsend,
          RequestKind.subscriber, bind, Except.bind, handTo]
    | stream =>
        refine ⟨_, _, ?_, h.pass_stream hreq hf⟩
        simp [Queue.step, hm, State.onMessage, State.routeMessage, hmatch, hsub, hsend,
          RequestKind.subscriber, bind, Except.bind, handTo]

/-- A stream request is registered, when nothing in the backlog matches its filter. -/
theorem exists_subscribe (h : LiveInv q L) {f : GenericFilter}
    (hf : ∀ m ∈ q.state.messages, f.isMatch m = false) :
    ∃ q', q.step (.subscribe f) = .ok q' ∧ LiveInv q' L := by
  refine ⟨_, ?_, h.register .stream hf⟩
  simp [Queue.step, Queue.request, State.onSubscription, State.tryPullMany_of_unmatched hf,
    RequestKind.subscriber, bind, Except.bind]

/-- A oneshot request gets the first message of the backlog that matches, if there is one; otherwise
it is registered. -/
theorem exists_pull (h : LiveInv q L) (opcode : Opcode) (filter : GenericFilter) :
    ∃ q' L', q.step (.pullMsg opcode filter) = .ok q' ∧ LiveInv q' L' ∧
      ((q'.channels.handed q.requests.length = [] ∧
          ∀ m ∈ q.state.messages, (filter.withOpcode opcode).isMatch m = false) ∨
        ∃ (k : ℕ) (m : GenericMessage), q.state.messages[k]? = some m ∧
          (filter.withOpcode opcode).isMatch m = true ∧
          (∀ j < k, ∀ m' : GenericMessage, q.state.messages[j]? = some m' →
            (filter.withOpcode opcode).isMatch m' = false) ∧
          q'.channels.handed q.requests.length = [m]) := by
  generalize hf : filter.withOpcode opcode = f
  rcases hfirst : q.state.messages.findIdx? f.isMatch with _ | k
  · have hnone : ∀ m ∈ q.state.messages, f.isMatch m = false := by
      simpa [List.findIdx?_eq_none_iff] using hfirst
    refine ⟨_, _, ?_, h.register .oneshot hnone, .inl ⟨h.handed_eq_nil le_rfl, hnone⟩⟩
    simp [Queue.step, Queue.request, hf, State.onSubscription,
      State.tryPullOne_of_unmatched hnone, RequestKind.subscriber, bind, Except.bind]
  · obtain ⟨hk, hmatch, hbefore⟩ := List.findIdx?_eq_some_iff_getElem.mp hfirst
    have hm : q.state.messages[k]? = some q.state.messages[k] := List.getElem?_eq_getElem hk
    have hsend := Channels.send_of_alive (h.alive q.requests.length) q.state.messages[k]
    refine ⟨_, _, ?_, h.answer (h.accounts.backlog.length_eq ▸ hk) hm hmatch,
      .inr ⟨k, _, hm, hmatch, ?_, ?_⟩⟩
    · simp [Queue.step, Queue.request, hf, State.onSubscription,
        State.tryPullOne_of_first hfirst hm, hsend, bind, Except.bind, handTo]
    · intro j hj m' hm'
      obtain ⟨hj', rfl⟩ := List.getElem?_eq_some_iff.mp hm'
      simpa using hbefore j hj
    · simp [handTo, h.handed_eq_nil le_rfl]

/-- Every event of a live run is processed, and the invariant holds again afterwards. -/
theorem exists_step (h : LiveInv q L) {ev : QueueEvent} (hev : q.Live ev) :
    ∃ q' L', q.step ev = .ok q' ∧ LiveInv q' L' := by
  cases ev with
  | pushMsg msg info now => exact h.exists_push msg info now
  | pullMsg opcode filter =>
      obtain ⟨q', L', hstep, hinv, -⟩ := h.exists_pull opcode filter
      exact ⟨q', L', hstep, hinv⟩
  | subscribe filter =>
      obtain ⟨q', hstep, hinv⟩ := h.exists_subscribe hev
      exact ⟨q', L, hstep, hinv⟩
  | dropReceiver c => exact hev.elim

end LiveInv

/-- Every live run keeps the invariant. -/
theorem live_run {evs : List QueueEvent} {q : Queue K M}
    (hrun : Run (Guarded (Fallible Queue.step) Queue.Live) Queue.init evs q) :
    ∃ L, LiveInv q L := by
  refine hrun.invariant (I := fun q => ∃ L, LiveInv q L) ?_ ⟨_, LiveInv.init⟩
  rintro q ev q' ⟨L, hinv⟩ ⟨hlive, hstep⟩
  obtain ⟨q'', L', hstep', hinv'⟩ := hinv.exists_step hlive
  obtain rfl : q' = q'' := Except.ok.inj (hstep.symm.trans hstep')
  exact ⟨L', hinv'⟩

/-! ## What the callers get -/

/-- What the callers of the queue can rely on, with the ledger of the messages. -/
structure Delivery (q : Queue K M) (L : Ledger ChanId) : Prop where
  /-- The backlog and the channels hold what the ledger says, in its order. -/
  accounts : Accounts L q.pushed q.state.messages q.channels.handed
  /-- A pushed message is in one place: once in the backlog, or once in the channel of one request,
  whose filter matches it. -/
  placed : ∀ i m, q.pushed[i]? = some m →
    (L.backlog.count i = 1 ∧ ∀ c, (L.handed c).count i = 0) ∨
      (L.backlog.count i = 0 ∧ ∃ c kind f, q.requests[c]? = some ⟨kind, f⟩ ∧ f.isMatch m = true ∧
        (L.handed c).count i = 1 ∧ ∀ c', c' ≠ c → (L.handed c').count i = 0)
  /-- No message in the backlog matches a registered filter. -/
  unmatched : ∀ m ∈ q.state.messages, ∀ e ∈ DenseSlotMap.iter q.state.filters,
    e.2.isMatch m = false
  oneshot_le_one : ∀ c f, q.requests[c]? = some ⟨.oneshot, f⟩ → (q.channels.handed c).length ≤ 1
  /-- The next oneshot request gets the earliest message that was pushed, was not delivered and
  matches its filter, if there is one. -/
  pull_earliest : ∀ opcode filter, ∃ q', q.step (.pullMsg opcode filter) = .ok q' ∧
    ((q'.channels.handed q.requests.length = [] ∧ ∀ i ∈ L.backlog, ∀ m, q.pushed[i]? = some m →
        (filter.withOpcode opcode).isMatch m = false) ∨
      ∃ i ∈ L.backlog, ∃ m, q.pushed[i]? = some m ∧ (filter.withOpcode opcode).isMatch m = true ∧
        (∀ j ∈ L.backlog, j < i → ∀ m', q.pushed[j]? = some m' →
          (filter.withOpcode opcode).isMatch m' = false) ∧
        q'.channels.handed q.requests.length = [m])
  /-- A stream subscriber gets its messages in the order in which they were pushed. -/
  stream_in_order : ∀ c f, q.requests[c]? = some ⟨.stream, f⟩ → (L.handed c).Pairwise (· < ·)
  /-- The task does not panic. -/
  processed : ∀ ev, q.Live ev → ∃ q', q.step ev = .ok q'

namespace LiveInv

variable {q : Queue K M} {L : Ledger ChanId}

/-- A message that was handed over lies in the channel of a request whose filter matches it. -/
theorem exists_matching (h : LiveInv q L) {c : ChanId} {i : ℕ} {m : GenericMessage}
    (hi : i ∈ L.handed c) (hm : q.pushed[i]? = some m) :
    ∃ kind f, q.requests[c]? = some ⟨kind, f⟩ ∧ f.isMatch m = true := by
  apply h.matching c m
  have hmem : some m ∈ (q.channels.handed c).map some := by
    rw [h.accounts.handed c]
    exact List.mem_map.mpr ⟨i, hi, hm⟩
  simpa using hmem

/-- The message at position `i` of the pushed ones is the one at its position in the backlog. -/
theorem exists_backlog_pos (h : LiveInv q L) {i : ℕ} (hi : i ∈ L.backlog) :
    ∃ j, ∃ hj : j < L.backlog.length, L.backlog[j] = i ∧ q.state.messages[j]? = q.pushed[i]? := by
  obtain ⟨j, hj, rfl⟩ := List.getElem_of_mem hi
  exact ⟨j, hj, rfl, h.accounts.backlog.getElem? hj⟩

theorem pull_earliest (h : LiveInv q L) (opcode : Opcode) (filter : GenericFilter) :
    ∃ q', q.step (.pullMsg opcode filter) = .ok q' ∧
      ((q'.channels.handed q.requests.length = [] ∧ ∀ i ∈ L.backlog, ∀ m, q.pushed[i]? = some m →
          (filter.withOpcode opcode).isMatch m = false) ∨
        ∃ i ∈ L.backlog, ∃ m, q.pushed[i]? = some m ∧ (filter.withOpcode opcode).isMatch m = true ∧
          (∀ j ∈ L.backlog, j < i → ∀ m', q.pushed[j]? = some m' →
            (filter.withOpcode opcode).isMatch m' = false) ∧
          q'.channels.handed q.requests.length = [m]) := by
  obtain ⟨q', L', hstep, -, hcase⟩ := h.exists_pull opcode filter
  refine ⟨q', hstep, ?_⟩
  rcases hcase with ⟨hnil, hnone⟩ | ⟨k, m, hm, hmatch, hbefore, hhanded⟩
  · refine .inl ⟨hnil, fun i hi m hm => hnone m ?_⟩
    obtain ⟨j, -, -, hj⟩ := h.exists_backlog_pos hi
    exact List.mem_of_getElem? (hj.trans hm)
  · have hk : k < L.backlog.length :=
      h.accounts.backlog.length_eq ▸ (List.getElem?_eq_some_iff.mp hm).1
    refine .inr ⟨L.backlog[k], List.getElem_mem hk, m,
      (h.accounts.backlog.getElem? hk).symm.trans hm, hmatch, ?_, hhanded⟩
    intro i hi hlt m' hm'
    obtain ⟨j, hj, rfl, hpos⟩ := h.exists_backlog_pos hi
    -- the backlog is in order of arrival, so an earlier arrival lies at an earlier position
    have hjk : j < k := by
      by_contra hle
      rcases Nat.eq_or_lt_of_le (not_lt.mp hle) with rfl | hlt'
      · exact lt_irrefl _ hlt
      · exact lt_asymm hlt (List.pairwise_iff_getElem.mp L.backlog_sorted k j hk hj hlt')
    exact hbefore j hjk m' (hpos.trans hm')

theorem delivery (h : LiveInv q L) : Delivery q L where
  accounts := h.accounts
  placed := by
    intro i m hm
    have hi : i < L.arrived := h.accounts.arrived ▸ (List.getElem?_eq_some_iff.mp hm).1
    rcases L.placed_once hi with hback | ⟨hback, c, hone, hothers⟩
    · exact .inl hback
    · have hmem : i ∈ L.handed c := List.count_pos_iff.mp (by omega)
      obtain ⟨kind, f, hreq, hf⟩ := h.exists_matching hmem hm
      exact .inr ⟨hback, c, kind, f, hreq, hf, hone, hothers⟩
  unmatched := h.unmatched
  oneshot_le_one := h.oneshot
  pull_earliest := h.pull_earliest
  stream_in_order c _ _ := L.handed_sorted c
  processed ev hev := by
    obtain ⟨q', -, hstep, -⟩ := h.exists_step hev
    exact ⟨q', hstep⟩

end LiveInv

/-- **Exactly-once delivery.** In every run in which the receivers stay alive and no stream is asked
for while the backlog holds a message for it, every pushed message is in one place after every turn:
once in the backlog, which then has no registered subscriber for it, or once with one subscriber that
asked for it. Oneshots get the earliest message there is for them, and streams get theirs in order. -/
theorem exactly_once_delivery {evs : List QueueEvent} {q : Queue K M}
    (hrun : Run (Guarded (Fallible Queue.step) Queue.Live) Queue.init evs q) :
    ∃ L, Delivery q L := by
  obtain ⟨L, hinv⟩ := live_run hrun
  exact ⟨L, hinv.delivery⟩

/-- The theorem at a run with two requests for replies of node `5`, of which one is answered from the
backlog, next to the subscription of sensor values. -/
theorem exactly_once_delivery_node_five :
    ∃ q : Queue ℕ (DenseVec GenericFilter),
      (q.channels.handed 0).map GenericMessage.received = [11] ∧
      (q.channels.handed 1).map GenericMessage.received = [12] ∧
      (q.channels.handed 2).map GenericMessage.received = [10] ∧ ∃ L, Delivery q L := by
  have hrun : ∃ q : Queue ℕ (DenseVec GenericFilter),
      Run (Guarded (Fallible Queue.step) Queue.Live) Queue.init
        [.subscribe sensorFilter,
          .pushMsg ⟨ConfigModelAppStatus.opcode, []⟩ (.device 5 mainNetIndex) 10,
          .pullMsg ConfigAppKeyStatus.opcode (nodeFilter 5),
          .pushMsg ⟨BleWsSensorValues.opcode, []⟩ (.normal 6 mainAppIndex) 11,
          .pushMsg ⟨ConfigAppKeyStatus.opcode, []⟩ (.device 5 mainNetIndex) 12,
          .pullMsg ConfigModelAppStatus.opcode (nodeFilter 5)] q ∧
      (q.channels.handed 0).map GenericMessage.received = [11] ∧
      (q.channels.handed 1).map GenericMessage.received = [12] ∧
      (q.channels.handed 2).map GenericMessage.received = [10] := by
    refine ⟨_, .cons ⟨by simp [Queue.Live, Queue.init, State.init], rfl⟩ <|
      .cons ⟨trivial, rfl⟩ <| .cons ⟨trivial, rfl⟩ <| .cons ⟨trivial, rfl⟩ <|
      .cons ⟨trivial, rfl⟩ <| .cons ⟨trivial, rfl⟩ <| .nil _, rfl, rfl, rfl⟩
  obtain ⟨q, hrun, h₀, h₁, h₂⟩ := hrun
  exact ⟨q, h₀, h₁, h₂, exactly_once_delivery hrun⟩

end BleWsCentral.Mesh
