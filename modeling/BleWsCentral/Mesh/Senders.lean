import BleWsCentral.Mesh.Stamps

/-!
# Who sends sensor values

The collection task looks up the sender of every message of its stream among the nodes that were
connected when the window was opened, and expects it to be there. But the filter of the stream asks for
an opcode and an application key, and not for a sender.

* `UnknownSender` — the next message for an open window has a sender that is not among its nodes; the
  branch for it panics.
* `SendersKnown` — the messages that are in the channel when a window is opened, or come into it while the
  window is open, are from its nodes. Messages may be in the channel that came before the window.
* `sender_known` — where all steps meet this, the lookup never fails; after any other step it does.
-/

set_option linter.unusedSectionVars false

namespace BleWsCentral.Mesh

open BleWsCentral.Found

namespace Service

variable {K M : Type} [DecidableEq K] [DenseSlotMap K GenericFilter M] {units : Units}
  {s s' : Service K M} {a : Label}

/-- What is in the channel of the stream of run `g`. -/
def buffered (s : Service K M) (g : ℕ) : List GenericMessage :=
  (s.channels.handed (streamId g)).drop (s.taken (streamId g))

/-- The next message for the open window of run `g` has a sender that is not among its nodes. -/
def UnknownSender (s : Service K M) (g : ℕ) : Prop :=
  ∃ window msg, (s.collections g).pc = .window window ∧
    (s.channels.handed (streamId g))[s.taken (streamId g)]? = some msg ∧
    msg.sourceAddr ∉ window.connected

/-- A window is opened when only messages of its nodes are in the channel, and while it is open only
messages of its nodes are sent there. -/
def SendersKnown (s : Service K M) : Label → Prop
  | .openWindow g => ∀ msg ∈ s.buffered g, msg.sourceAddr ∈ (s.collections g).connected
  | .queueSend => ∀ g window msg, (s.collections g).pc = .window window →
      s.queue.pc.sends = some (streamId g, msg) → s.channels.dropped (streamId g) = false →
        msg.sourceAddr ∈ window.connected
  | _ => True

/-- What is in the channel of an open window is from its nodes. -/
def BufferKnown (s : Service K M) : Prop :=
  ∀ g window, (s.collections g).pc = .window window →
    ∀ msg ∈ s.buffered g, msg.sourceAddr ∈ window.connected

/-- The branch for that message panics, which ends the task. -/
theorem UnknownSender.collect {g : ℕ} (h : s.UnknownSender g) :
    ∃ t, s.step units (.collect g) = some t ∧ (t.collections g).pc = .gone := by
  obtain ⟨window, msg, hpc, hmsg, hsender⟩ := h
  have hpanic : window.receive units msg = .panicked := by
    rw [Window.receive, Std.ExtTreeMap.getElem?_eq_none hsender]
  refine ⟨{ s with taken := Function.update s.taken (streamId g) (s.taken (streamId g) + 1) }.stopCollection
    g, ?_, ?_⟩
  · simp only [step, Service.collect, hpc, hmsg, hpanic]
  · simp [stopCollection, setCollectionPc, setCollection]

/-- The queue task sends a message to a stream when it awaits that, or sends it nothing. -/
theorem handed_stream_of_queue (hwf : s.Wf) (h : s.step units a = some s') (ha : a.party = .queue)
    (g : ℕ) :
    s'.channels.handed (streamId g) = s.channels.handed (streamId g) ∨
      ∃ msg, a = .queueSend ∧ s.queue.pc.sends = some (streamId g, msg) ∧
        s.channels.dropped (streamId g) = false ∧ s.hasRoom (streamId g) = true ∧
        s'.channels.handed (streamId g) = s.channels.handed (streamId g) ++ [msg] := by
  rcases handed_cases hwf h ha with hsame | ⟨n, msg, hhanded⟩ |
    ⟨tx, msg, ha', hsends, hdropped, hroom, hhanded⟩
  · rw [hsame]
    exact .inl rfl
  · rw [hhanded]
    exact .inl (Function.update_of_ne (oneshotId_ne_streamId n g).symm _ _)
  · rw [hhanded]
    by_cases htx : streamId g = tx
    · subst htx
      exact .inr ⟨msg, ha', hsends, hdropped, hroom, Function.update_self _ _ _⟩
    · exact .inl (Function.update_of_ne htx _ _)

namespace BufferKnown

theorem init : (Service.init : Service K M).BufferKnown := by
  intro g window hpc
  cases hpc

/-- The steps by which the windows that are open stay open, and nothing comes into their channels. -/
theorem keep (h : s.BufferKnown)
    (hpc : ∀ g window, (s'.collections g).pc = .window window → (s.collections g).pc = .window window)
    (hbuffered : ∀ g, s'.buffered g = s.buffered g) : s'.BufferKnown := by
  intro g window hwindow msg hmsg
  rw [hbuffered] at hmsg
  exact h g window (hpc g window hwindow) msg hmsg

/-- A step of a collection task, by what becomes of its window and its channel. -/
theorem own (h : s.BufferKnown) (hstep : s.step units a = some s') {g : ℕ}
    (ha : a.collectionOf = some g)
    (hown : ∀ window, (s'.collections g).pc = .window window →
      ∀ msg ∈ s'.buffered g, msg.sourceAddr ∈ window.connected) : s'.BufferKnown := by
  obtain ⟨⟨c, hcollections⟩, hhanded, -, htaken⟩ := frame_collectionOf hstep ha
  intro g' window hwindow msg hmsg
  by_cases hg : g' = g
  · subst hg
    exact hown window hwindow msg hmsg
  · rw [hcollections, Function.update_of_ne hg] at hwindow
    rw [buffered, hhanded, htaken _ (streamId_injective.ne hg)] at hmsg
    exact h g' window hwindow msg hmsg

/-- A collection task takes the messages of its window, and opens a new one when only messages of its
nodes are there. -/
theorem step_collection (h : s.BufferKnown) (hknown : s.SendersKnown a)
    (hstep : s.step units a = some s') (ha : a.party = .collection) : s'.BufferKnown := by
  cases collection_cases hstep ha with
  | opened g hpc _ =>
      apply h.own hstep rfl
      intro window hwindow msg hmsg
      obtain rfl : Window.opened (s.collections g).connected = window := by
        simpa [setCollectionPc, setCollection] using hwindow
      exact hknown msg hmsg
  | @waits g window window' msg' hpc hmsg' hreceive =>
      apply h.own hstep rfl
      intro window'' hwindow msg hmsg
      obtain rfl : window' = window'' := by
        simpa [setCollectionPc, setCollection] using hwindow
      rw [(Window.receive_frame (.inl hreceive)).1]
      apply h g window hpc msg
      have hrest : msg ∈ (s.channels.handed (streamId g)).drop (s.taken (streamId g) + 1) := by
        simpa [buffered, setCollectionPc, setCollection] using hmsg
      rw [← List.drop_drop] at hrest
      exact List.mem_of_mem_drop hrest
  | triggered g _ _ | ended g _ | panicked g _ _ _ | completed g _ _ _ | timedOut g _ | sent g _ _ _
  | refused g _ _ =>
      -- there is no window afterwards
      apply h.own hstep rfl
      intro window hwindow
      simp [stopCollection, setCollectionPc, setCollection] at hwindow

/-- Every step whose senders are known keeps the channels so. -/
theorem step (h : s.BufferKnown) (hwf : s.Wf) (hknown : s.SendersKnown a)
    (hstep : s.step units a = some s') : s'.BufferKnown := by
  cases ha : a.party with
  | dbus =>
      rw [frame_dbus hstep ha]
      exact h.keep (fun _ _ hpc => hpc) fun _ => rfl
  | queue =>
      intro g window hwindow msg hmsg
      have hframe := frame_queue hstep ha
      have hpc : (s.collections g).pc = .window window := by
        rw [hframe] at hwindow
        exact hwindow
      have htaken : s'.taken = s.taken := by rw [hframe]
      rcases handed_stream_of_queue hwf hstep ha g with hsame | ⟨msg', rfl, hsends, hdropped, -, hmore⟩
      · rw [buffered, hsame, htaken] at hmsg
        exact h g window hpc msg hmsg
      · rw [buffered, hmore, htaken, List.drop_append_of_le_length (hwf.taken_le _)] at hmsg
        rcases List.mem_append.mp hmsg with hold | hnew
        · exact h g window hpc msg hold
        · rw [List.mem_singleton.mp hnew]
          exact hknown g window msg' hpc hsends hdropped
  | loop =>
      have hcollections := collections_of_loop hstep ha
      rw [frame_loop hstep ha]
      refine h.keep (fun g window hpc => ?_) fun _ => rfl
      rcases hcollections g with ⟨-, hsame⟩ | ⟨-, -, hnew⟩
      · exact hsame ▸ hpc
      · cases hnew.symm.trans hpc
  | collection => exact h.step_collection hknown hstep ha
  | update =>
      rw [frame_update hstep ha]
      exact h.keep (fun _ _ hpc => hpc) fun _ => rfl

end BufferKnown

/-- A channel whose messages are known has no unknown sender next. -/
theorem BufferKnown.not_unknownSender (h : s.BufferKnown) (g : ℕ) : ¬ s.UnknownSender g := by
  rintro ⟨window, msg, hpc, hmsg, hsender⟩
  refine hsender (h g window hpc msg ?_)
  rw [buffered, List.mem_iff_getElem?]
  exact ⟨0, by rw [List.getElem?_drop]; exact hmsg⟩

/-- After a step whose senders are not known, the next message has an unknown sender: there is never more
than one message in the channel. -/
theorem exists_unknownSender (hwf : s.Wf) (hstep : s.step units a = some s')
    (hknown : ¬ s.SendersKnown a) : ∃ g, s'.UnknownSender g := by
  cases a with
  | openWindow g =>
      simp only [SendersKnown, not_forall] at hknown
      obtain ⟨msg, hmsg, hsender⟩ := hknown
      cases collection_cases hstep rfl with
      | opened =>
          refine ⟨g, .opened (s.collections g).connected, msg, ?_, ?_, hsender⟩
          · simp [setCollectionPc, setCollection]
          · show (s.channels.handed (streamId g))[s.taken (streamId g)]? = some msg
            have hlength : (s.buffered g).length ≤ 1 := by
              have := hwf.capacity g
              rw [buffered, List.length_drop]
              omega
            obtain ⟨i, hi⟩ := List.mem_iff_getElem?.mp hmsg
            obtain ⟨hlt, -⟩ := List.getElem?_eq_some_iff.mp hi
            obtain rfl : i = 0 := by omega
            rwa [buffered, List.getElem?_drop] at hi
  | queueSend =>
      simp only [SendersKnown, not_forall] at hknown
      obtain ⟨g, window, msg, hpc, hsends, hdropped, hsender⟩ := hknown
      have hframe := frame_queue hstep rfl
      refine ⟨g, window, msg, by rw [hframe]; exact hpc, ?_, hsender⟩
      have hsent : s'.channels.handed (streamId g) = s.channels.handed (streamId g) ++ [msg] ∧
          (s.channels.handed (streamId g)).length ≤ s.taken (streamId g) := by
        cases queue_cases hwf hstep rfl with
        | sendPanicked hsends' hdropped' =>
            cases hsends.symm.trans hsends'
            cases hdropped.symm.trans hdropped'
        | pullSent hqueue _ hroom =>
            rw [hqueue] at hsends
            cases hsends
            exact ⟨Function.update_self _ _ _, by simpa [hasRoom] using hroom⟩
        | messageSent hqueue _ hroom =>
            rw [hqueue] at hsends
            cases hsends
            exact ⟨Function.update_self _ _ _, by simpa [hasRoom] using hroom⟩
      have htaken : s'.taken = s.taken := by rw [hframe]
      have hle := hwf.taken_le (streamId g)
      rw [hsent.1, htaken, List.getElem?_append_right hsent.2, Nat.sub_eq_zero_of_le hle]
      rfl
  | _ => exact absurd trivial hknown

/-- **Senders.** In a run in which the messages in the channel of a window that is opened, and those that
are sent there while it is open, are from its nodes, the lookup of a sender never fails. After any other
step it does: the next message ends the collection task. -/
theorem sender_known (units : Units) :
    (∀ (l : List Label) (s : Service K M),
      Run (Guarded (Partial (step units)) SendersKnown) init l s → ∀ g, ¬ s.UnknownSender g) ∧
    ∀ (l : List Label) (s s' : Service K M) (a : Label), Run (Partial (step units)) init l s →
      s.step units a = some s' → ¬ s.SendersKnown a →
        ∃ g t, s'.UnknownSender g ∧ s'.step units (.collect g) = some t ∧
          (t.collections g).pc = .gone := by
  constructor
  · intro l s hrun
    obtain ⟨-, hknown⟩ := hrun.invariant (I := fun s : Service K M => s.Wf ∧ s.BufferKnown)
      (fun _ _ _ ⟨hwf, hknown⟩ hstep =>
        ⟨hwf.step hstep.2, hknown.step hwf hstep.1 hstep.2⟩)
      ⟨Wf.init, BufferKnown.init⟩
    exact hknown.not_unknownSender
  · intro l s s' a hrun hstep hknown
    obtain ⟨g, hsender⟩ := exists_unknownSender (Wf.run hrun) hstep hknown
    obtain ⟨t, hcollect, hgone⟩ := hsender.collect
    exact ⟨g, t, hsender, hcollect, hgone⟩

/-- The steps that the condition is not about. -/
def quiet : Label → Bool
  | .openWindow _ => false
  | .queueSend => false
  | _ => true

theorem sendersKnown_of_quiet (h : quiet a = true) (s : Service K M) : s.SendersKnown a := by
  cases a <;> trivial

set_option maxRecDepth 4000 in
/-- The theorem for a node that answers in a window. -/
theorem sender_known_one_node :
    ∃ s : Service ℕ (DenseVec GenericFilter),
      Run (Partial (step .total)) init
        (attach ++ provision ++ configure ++ [.tick, .trigger, .takeTrigger 0] ++
          ([.openWindow 0] ++ ([.callOk] ++ sensorValues 100 ++ [.queueSend]))) s ∧
        (s.buffered 0).length = 1 ∧ ∀ g, ¬ s.UnknownSender g := by
  have hrun : ∃ (s₀ s₁ s₂ s : Service ℕ (DenseVec GenericFilter)) (window : Window)
      (msg : GenericMessage),
      Run (Partial (step .total)) init
        (attach ++ provision ++ configure ++ [.tick, .trigger, .takeTrigger 0]) s₀ ∧
      s₀.step .total (.openWindow 0) = some s₁ ∧ s₀.buffered 0 = [] ∧
      Run (Partial (step .total)) s₁ ([.callOk] ++ sensorValues 100) s₂ ∧
      s₂.step .total .queueSend = some s ∧ (s₂.collections 0).pc = .window window ∧
      s₂.queue.pc.sends = some (streamId 0, msg) ∧ (s.buffered 0).length = 1 ∧
      msg.sourceAddr ∈ window.connected :=
    ⟨_, _, _, _, _, _, run_partial_iff.mpr rfl, rfl, rfl, run_partial_iff.mpr rfl, rfl, rfl, rfl, rfl,
      by decide +kernel⟩
  obtain ⟨s₀, s₁, s₂, s, window, msg, hrun₀, hopen, hempty, hrun₁, hsend, hpc, hsends, hlength,
    hsender⟩ := hrun
  have hquiet : ∀ {l : List Label} {t t' : Service ℕ (DenseVec GenericFilter)},
      Run (Partial (step .total)) t l t' → l.all quiet = true →
        Run (Guarded (Partial (step .total)) SendersKnown) t l t' := fun h hl =>
    h.guarded_of_forall fun a ha => sendersKnown_of_quiet (List.all_eq_true.mp hl a ha)
  have hopened : s₀.SendersKnown (.openWindow 0) := by
    intro msg hmsg
    rw [hempty] at hmsg
    cases hmsg
  have hsent : s₂.SendersKnown .queueSend := by
    intro g window' msg' hpc' hsends' _
    obtain ⟨hg, rfl⟩ : streamId 0 = streamId g ∧ msg = msg' := by
      simpa [hsends] using hsends'
    obtain rfl := streamId_injective hg
    obtain rfl : window = window' := by simpa [hpc] using hpc'
    exact hsender
  have hguarded := (hquiet hrun₀ rfl).append
    (.cons ⟨hopened, hopen⟩ (.snoc (hquiet hrun₁ rfl) ⟨hsent, hsend⟩))
  exact ⟨s, hguarded.of_guarded, hlength, (sender_known .total).1 _ s hguarded⟩

set_option maxRecDepth 4000 in
/-- A node that was never connected sends sensor values while a window is open. -/
theorem sender_unknown :
    ∃ s : Service ℕ (DenseVec GenericFilter),
      Run (Partial (step .total)) init
        (attach ++ [.tick, .trigger, .takeTrigger 0, .openWindow 0] ++ sensorValues 100 ++
          [.queueSend]) s ∧ s.UnknownSender 0 :=
  ⟨_, run_partial_iff.mpr rfl, _, _, rfl, rfl, by decide +kernel⟩

end Service

end BleWsCentral.Mesh
