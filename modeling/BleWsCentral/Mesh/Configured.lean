import BleWsCentral.Mesh.Replies

/-!
# The configuration of new nodes

The branch of `LoopCtx::run` for `NodeAdded(Ok(node))`: the node is given the application key and asked to
bind it, and then it is put into `connected`. It answers both with a status. A status other than `Success`
is logged, and the branch goes on; a payload that does not parse is a panic.

* `Service.received` — what a call of `pull_msg` makes of the message it waits for.
* `BranchStep`, `branch_cases` — what a step in the branch does.
* `Accepted`, `Handled` — the node answered both requests with `Success`, and the branch did what it should.
* `Configured` — the nodes in `connected` answered both requests with `Success`.
* `configured_iff` — the branch does what it should exactly if both statuses are `Success`; and where all
  replies are so, all nodes in `connected` are configured.
-/

set_option linter.unusedSectionVars false

namespace BleWsCentral.Mesh

open BleWsCentral.Found

/-- The channel of a `pull_msg`. -/
def Pull.chan : Pull → ChanId
  | .requesting _ tx => tx
  | .waiting rx => rx

/-- `LoopCtx::run` is in the branch for `NodeAdded(Ok(node))`. -/
def LoopPc.adds : LoopPc → Bool
  | .nodeAdded _ _ => true
  | _ => false

theorem LoopPc.exists_of_adds {pc : LoopPc} (h : pc.adds = true) :
    ∃ node adding, pc = .nodeAdded node adding := by
  cases pc with
  | nodeAdded node adding => exact ⟨node, adding, rfl⟩
  | _ => cases h

/-- The branch awaits a call over D-Bus. -/
def Adding.calls : Adding → Bool
  | .scanning | .addingAppKey | .binding => true
  | _ => false

/-- The branch got past the status of the application key. -/
def Adding.keyAdded : Adding → Bool
  | .binding | .pullingModelApp _ | .locking => true
  | _ => false

/-- The branch got past the status of the model. -/
def Adding.keyBound : Adding → Bool
  | .locking => true
  | _ => false

/-- The status in the payload of a `ConfigAppKeyStatus`, if it parses. -/
def appKeyStatus (payload : List UInt8) : Option Status :=
  (ConfigAppKeyStatus.parsePayload payload).map ConfigAppKeyStatus.status

/-- The same for a `ConfigModelAppStatus`. -/
def modelAppStatus (payload : List UInt8) : Option Status :=
  (ConfigModelAppStatus.parsePayload payload).map ConfigModelAppStatus.status

namespace Service

variable {K M : Type} [DecidableEq K] [DenseSlotMap K GenericFilter M] {units : Units}
  {s s' t t' : Service K M} {a : Label} {node : Node} {adding : Adding}

/-- What `pull_msg` makes of the message that was sent to its channel; none if there is no message, or its
payload does not parse. -/
def received {α : Type} (s : Service K M) (parsePayload : List UInt8 → Option α) (rx : ChanId) :
    Option α :=
  (s.channels.handed rx).head?.bind fun msg => parsePayload msg.content.payload

theorem received_eq_none {α : Type} {parsePayload : List UInt8 → Option α} {rx : ChanId}
    (h : s.channels.handed rx = []) : s.received parsePayload rx = none := by
  rw [received, h]
  rfl

/-- The node answers the requests of the branch that was entered in state `s` with `Success`. -/
def Accepted (s t : Service K M) : Prop :=
  (t.received appKeyStatus (oneshotId s.loopCtx.pulls)).map Status.isOk = some true ∧
    (t.received modelAppStatus (oneshotId (s.loopCtx.pulls + 1))).map Status.isOk = some true

/-- The branch that was entered in state `s` did what it should, with the steps `l`: `LoopCtx::run` goes on,
and the node was put into `connected` exactly if it answered both requests with `Success`. -/
structure Handled (node : Node) (s : Service K M) (l : List Label) (t : Service K M) : Prop where
  selecting : t.loopCtx.pc = .selecting
  inserted : .insert ∈ l ↔ Accepted s t
  accepted : Accepted s t →
    t.collection.connected = s.collection.connected.insert node.unicastAddr node.uuid
  refused : ¬ Accepted s t → t.collection.connected = s.collection.connected

/-! ## What the other tasks leave alone -/

/-- A collection task leaves the nodes alone. -/
theorem connected_of_collection (h : s.step units a = some s') (ha : a.party = .collection) (g : ℕ) :
    (s'.collections g).connected = (s.collections g).connected := by
  have hset : ∀ (g' : ℕ) (c : Collection), c.connected = (s.collections g').connected →
      (Function.update s.collections g' c g).connected = (s.collections g).connected := by
    intro g' c hc
    by_cases hg : g = g'
    · subst hg
      rw [Function.update_self, hc]
    · rw [Function.update_of_ne hg]
  cases collection_cases h ha <;> exact hset _ _ rfl

/-- What the channels were handed stays in front. -/
theorem handed_of_step (hwf : s.Wf) (h : s.step units a = some s') (c : ChanId) :
    s.channels.handed c <+: s'.channels.handed c := by
  cases ha : a.party with
  | dbus => rw [frame_dbus h ha]
  | queue => exact handed_of_queue hwf h ha c
  | loop => rw [frame_loop h ha]
  | collection =>
      obtain ⟨g, hg⟩ := Label.exists_collectionOf ha
      rw [(frame_collectionOf h hg).2.1]
  | update => rw [frame_update h ha]

/-- The tasks other than `LoopCtx::run` leave it and the nodes alone. -/
theorem frame_others (h : s.step units a = some s') (ha : a.party ≠ .loop) :
    s'.loopCtx = s.loopCtx ∧ ∀ g, (s'.collections g).connected = (s.collections g).connected := by
  cases hp : a.party with
  | dbus =>
      rw [frame_dbus h hp]
      exact ⟨rfl, fun _ => rfl⟩
  | queue =>
      rw [frame_queue h hp]
      exact ⟨rfl, fun _ => rfl⟩
  | loop => exact absurd hp ha
  | collection =>
      refine ⟨?_, connected_of_collection h hp⟩
      rw [frame_collection h hp]
  | update =>
      rw [frame_update h hp]
      exact ⟨rfl, fun _ => rfl⟩

/-! ## The branch -/

/-- A step of `LoopCtx::run` in the branch for `NodeAdded(Ok(node))`. -/
inductive BranchStep (node : Node) (s : Service K M) : Adding → Label → Service K M → Prop
  | scanned : BranchStep node s .scanning .callOk (s.setLoopPc (.nodeAdded node .addingAppKey))
  | keySent : BranchStep node s .addingAppKey .callOk
      (s.pullMsg ConfigAppKeyStatus.opcode (nodeFilter node.unicastAddr) fun pull =>
        .nodeAdded node (.pullingAppKey pull))
  | keyAsked {filter : GenericFilter} {tx : ChanId} :
      BranchStep node s (.pullingAppKey (.requesting filter tx)) .request
        { s.setLoopPc (.nodeAdded node (.pullingAppKey (.waiting tx))) with
          requests := some (filter, .oneshot (some tx)) }
  | keyAdded {rx : ChanId} {status : Status} (hstatus : s.received appKeyStatus rx = some status) :
      BranchStep node s (.pullingAppKey (.waiting rx)) .reply (s.setLoopPc (.nodeAdded node .binding))
  | keyLost {rx : ChanId} (hstatus : s.received appKeyStatus rx = none) :
      BranchStep node s (.pullingAppKey (.waiting rx)) .reply (s.leave .panicked)
  | bindSent : BranchStep node s .binding .callOk
      (s.pullMsg ConfigModelAppStatus.opcode (nodeFilter node.unicastAddr) fun pull =>
        .nodeAdded node (.pullingModelApp pull))
  | bindAsked {filter : GenericFilter} {tx : ChanId} :
      BranchStep node s (.pullingModelApp (.requesting filter tx)) .request
        { s.setLoopPc (.nodeAdded node (.pullingModelApp (.waiting tx))) with
          requests := some (filter, .oneshot (some tx)) }
  | keyBound {rx : ChanId} {status : Status} (hstatus : s.received modelAppStatus rx = some status) :
      BranchStep node s (.pullingModelApp (.waiting rx)) .reply (s.setLoopPc (.nodeAdded node .locking))
  | bindLost {rx : ChanId} (hstatus : s.received modelAppStatus rx = none) :
      BranchStep node s (.pullingModelApp (.waiting rx)) .reply (s.leave .panicked)
  | inserted : BranchStep node s .locking .insert
      ((s.setLoopPc .selecting).setCollection s.loopCtx.run
        { s.collection with connected := s.collection.connected.insert node.unicastAddr node.uuid })
  | failed {adding : Adding} (hcalls : adding.calls = true) :
      BranchStep node s adding .callErr (s.leave .failed)
  | crashed {adding : Adding} {filter : GenericFilter} {tx : ChanId}
      (hpull : (LoopPc.nodeAdded node adding).pull = some (.requesting filter tx)) :
      BranchStep node s adding .request (s.leave .panicked)

/-- A message that parses is received. -/
theorem received_of_parses {α β : Type} {rx : ChanId} {msg : GenericMessage}
    {parsePayload : List UInt8 → Option α} (f : α → β)
    (hmsg : (s.channels.handed rx).head? = some msg)
    (hparses : (parsePayload msg.content.payload).isSome = true) :
    ∃ value, s.received (fun payload => (parsePayload payload).map f) rx = some value := by
  obtain ⟨value, hvalue⟩ := Option.isSome_iff_exists.mp hparses
  refine ⟨f value, ?_⟩
  unfold received
  rw [hmsg, Option.bind_some]
  exact congrArg (Option.map f) hvalue

/-- Nothing else is. -/
theorem received_of_lost {α β : Type} {rx : ChanId} {parsePayload : List UInt8 → Option α} (f : α → β)
    (hlost : ∀ msg, (s.channels.handed rx).head? = some msg →
      (parsePayload msg.content.payload).isSome = false) :
    s.received (fun payload => (parsePayload payload).map f) rx = none := by
  unfold received
  cases hmsg : (s.channels.handed rx).head? with
  | none => rfl
  | some msg =>
      have hvalue := Option.isNone_iff_eq_none.mp (Option.isSome_eq_false_iff.mp (hlost msg hmsg))
      exact congrArg (Option.map f) hvalue

/-- These are the steps in the branch. -/
theorem branch_cases (h : s.step units a = some s') (ha : a.party = .loop)
    (hpc : s.loopCtx.pc = .nodeAdded node adding) : BranchStep node s adding a s' := by
  cases loop_cases h ha
  case pulls site hat =>
    cases site <;> cases hpc.symm.trans hat
    · exact .keySent
    · exact .bindSent
  case scanned hat =>
    cases hpc.symm.trans hat
    exact .scanned
  case failed hcalls =>
    rw [hpc] at hcalls
    cases adding <;> first | exact .failed rfl | cases hcalls
  case requested site filter tx hat _ =>
    cases site <;> cases hpc.symm.trans hat
    · exact .keyAsked
    · exact .bindAsked
  case requestPanicked site filter tx hat =>
    cases site <;> cases hpc.symm.trans hat <;> exact .crashed rfl
  case replied site rx msg hat hmsg hparses =>
    cases site <;> cases hpc.symm.trans hat
    · obtain ⟨status, hstatus⟩ := received_of_parses ConfigAppKeyStatus.status hmsg hparses
      exact .keyAdded hstatus
    · obtain ⟨status, hstatus⟩ := received_of_parses ConfigModelAppStatus.status hmsg hparses
      exact .keyBound hstatus
  case replyPanicked site rx hat hlost =>
    cases site <;> cases hpc.symm.trans hat
    · exact .keyLost (received_of_lost ConfigAppKeyStatus.status hlost)
    · exact .bindLost (received_of_lost ConfigModelAppStatus.status hlost)
  case inserted hat _ =>
    cases hpc.symm.trans hat
    exact .inserted
  case polled hat => cases hpc.symm.trans hat
  case triggered hat _ => cases hpc.symm.trans hat
  all_goals simp_all only [reduceCtorEq]

/-- The number of the calls of `pull_msg` tells how far the branch got that was entered in state `s`. -/
def Progress (s t : Service K M) : Adding → Prop
  | .scanning | .addingAppKey => t.loopCtx.pulls = s.loopCtx.pulls
  | .pullingAppKey pull =>
      t.loopCtx.pulls = s.loopCtx.pulls + 1 ∧ pull.chan = oneshotId s.loopCtx.pulls
  | .binding => t.loopCtx.pulls = s.loopCtx.pulls + 1
  | .pullingModelApp pull => pull.chan = oneshotId (s.loopCtx.pulls + 1)
  | .locking => True

/-- In state `t` the branch is not left that was entered in state `s`. -/
structure InBranch (node : Node) (s t : Service K M) (adding : Adding) : Prop where
  wf : t.Wf
  pulls : t.Pulls
  pc : t.loopCtx.pc = .nodeAdded node adding
  connected : t.collection.connected = s.collection.connected
  progress : Progress s t adding

/-- It ended without the node, which did not answer both requests with `Success`, or with it. -/
def Left (node : Node) (s : Service K M) (a : Label) (t : Service K M) : Prop :=
  (t.loopCtx.pc = .failed ∨ t.loopCtx.pc = .panicked) ∧ a ≠ .insert ∧ ¬ Accepted s t ∨
  t.loopCtx.pc = .selecting ∧ a = .insert ∧
    t.collection.connected = s.collection.connected.insert node.unicastAddr node.uuid

/-- The calls that were not made have no replies. -/
theorem InBranch.not_accepted (h : InBranch node s t adding) (hcalls : adding.calls = true) :
    ¬ Accepted s t := by
  rintro ⟨hkey, hbind⟩
  have hprogress := h.progress
  have hfresh := h.pulls.fresh (s.loopCtx.pulls + 1)
  have hle : t.loopCtx.pulls ≤ s.loopCtx.pulls + 1 := by
    cases adding with
    | scanning => exact hprogress.le.trans (Nat.le_succ _)
    | addingAppKey => exact hprogress.le.trans (Nat.le_succ _)
    | binding => exact hprogress.le
    | _ => cases hcalls
  rw [received_eq_none (hfresh hle)] at hbind
  cases hbind

/-- A step in the branch leads on, or out of it. -/
theorem InBranch.step (h : InBranch node s t adding) (hstep : t.step units a = some t') :
    (a ≠ .insert ∧ ∃ adding', InBranch node s t' adding') ∨ Left node s a t' := by
  have hwf := h.wf.step hstep
  have hpulls : t'.loopCtx.pc ≠ .panicked → t'.Pulls := h.pulls.step h.wf hstep
  by_cases ha : a.party = .loop
  · have hprogress := h.progress
    have hconnected := h.connected
    have hnone := h.not_accepted
    cases branch_cases hstep ha h.pc with
    | scanned =>
        exact .inl ⟨(by decide), _, hwf, hpulls (fun h => by cases h), rfl, hconnected, hprogress⟩
    | keySent =>
        refine .inl ⟨(by decide), _, hwf, hpulls (fun h => by cases h), rfl, hconnected, ?_⟩
        have hprogress : t.loopCtx.pulls = s.loopCtx.pulls := hprogress
        exact ⟨congrArg (· + 1) hprogress, congrArg oneshotId hprogress⟩
    | keyAsked =>
        exact .inl ⟨(by decide), _, hwf, hpulls (fun h => by cases h), rfl, hconnected, hprogress⟩
    | keyAdded hstatus =>
        exact .inl ⟨(by decide), _, hwf, hpulls (fun h => by cases h), rfl, hconnected, hprogress.1⟩
    | keyLost hstatus =>
        obtain ⟨-, hchan⟩ := hprogress
        refine .inr (.inl ⟨.inr rfl, (by decide), fun haccepted => ?_⟩)
        have hkey := haccepted.1
        rw [← hchan] at hkey
        cases (congrArg (Option.map Status.isOk) hstatus).symm.trans hkey
    | bindSent =>
        refine .inl ⟨(by decide), _, hwf, hpulls (fun h => by cases h), rfl, hconnected, ?_⟩
        exact congrArg oneshotId hprogress
    | bindAsked =>
        exact .inl ⟨(by decide), _, hwf, hpulls (fun h => by cases h), rfl, hconnected, hprogress⟩
    | keyBound hstatus =>
        exact .inl ⟨(by decide), _, hwf, hpulls (fun h => by cases h), rfl, hconnected, trivial⟩
    | bindLost hstatus =>
        refine .inr (.inl ⟨.inr rfl, (by decide), fun haccepted => ?_⟩)
        have hbind := haccepted.2
        rw [← hprogress] at hbind
        cases (congrArg (Option.map Status.isOk) hstatus).symm.trans hbind
    | inserted =>
        refine .inr (.inr ⟨rfl, rfl, ?_⟩)
        rw [← hconnected]
        simp [collection, setCollection, setLoopPc]
    | failed hcalls => exact .inr (.inl ⟨.inl rfl, (by decide), hnone hcalls⟩)
    | crashed hpull =>
        refine .inr (.inl ⟨.inr rfl, (by decide), fun haccepted => ?_⟩)
        obtain ⟨-, hempty⟩ := h.pulls.asking _ _ ((congrArg LoopPc.pull h.pc).trans hpull)
        cases adding <;> cases hpull
        · have hkey := haccepted.1
          rw [← hprogress.2] at hkey
          cases (congrArg (Option.map Status.isOk) (received_eq_none hempty)).symm.trans hkey
        · have hbind := haccepted.2
          rw [← hprogress] at hbind
          cases (congrArg (Option.map Status.isOk) (received_eq_none hempty)).symm.trans hbind
  · obtain ⟨hloop, hconnected⟩ := frame_others hstep ha
    refine .inl ⟨?_, adding, hwf, hpulls ?_, hloop ▸ h.pc, ?_, ?_⟩
    · rintro rfl
      exact ha rfl
    · rw [hloop, h.pc]
      exact fun h => by cases h
    · rw [collection, hloop, hconnected]
      exact h.connected
    · have hprogress := h.progress
      unfold Progress
      rw [hloop]
      exact hprogress

/-- What is on its way is in order in every run, until `LoopCtx::run` panics. -/
theorem Pulls.run {l : List Label} (h : Run (Partial (Service.step units)) Service.init l s)
    (halive : s.loopCtx.pc ≠ .panicked) : s.Pulls := by
  have hinv := h.invariant (I := fun s : Service K M => s.Wf ∧ (s.loopCtx.pc ≠ .panicked → s.Pulls))
    (fun t a t' ⟨hwf, hpulls⟩ hstep => ?_) ⟨Wf.init, fun _ => Pulls.init⟩
  · exact hinv.2 halive
  · refine ⟨hwf.step hstep, fun halive => (hpulls fun hpc => ?_).step hwf hstep halive⟩
    exact halive (panicked_of_step hstep hpc)

/-- When the event is taken, the branch is entered. -/
theorem InBranch.enter (hwf : s.Wf) (hpulls : s.Pulls)
    (hevent : s.events = some (.nodeAdded (.ok node))) (hstep : s.step units .event = some t) :
    InBranch node s t .scanning := by
  have hwf' := hwf.step hstep
  have hpulls' := hpulls.step hwf hstep
  simp only [Service.step, event, hevent] at hstep
  split at hstep
  · rename_i heq
    cases heq
  · rename_i heq
    cases heq
    cases hstep
    exact ⟨hwf', hpulls' (fun h => by cases h), rfl, rfl, rfl⟩
  · rename_i heq
    cases heq
  · cases hstep

/-- The branch is not left, and the node is not in yet, or it is left. -/
theorem InBranch.run {l : List Label} (h : InBranch node s t adding)
    (hrun : Run (Guarded (Partial (Service.step units)) fun t _ => t.loopCtx.pc.adds = true) t l t') :
    (.insert ∉ l ∧ ∃ adding', InBranch node s t' adding') ∨
      (t'.loopCtx.pc.adds = false ∧ ∃ l' a, l = l' ++ [a] ∧ .insert ∉ l' ∧ Left node s a t') := by
  induction hrun with
  | nil => exact .inl ⟨List.not_mem_nil, adding, h⟩
  | @snoc _ t' l a _ hstep ih =>
      obtain ⟨hadds, hstep⟩ := hstep
      rcases ih with ⟨hnot, adding', hwithin⟩ | ⟨hout, -⟩
      · rcases hwithin.step hstep with ⟨ha, hnext⟩ | hleft
        · refine .inl ⟨fun hmem => ?_, hnext⟩
          rcases List.mem_append.mp hmem with hmem | hmem
          · exact hnot hmem
          · exact ha (List.mem_singleton.mp hmem).symm
        · refine .inr ⟨?_, l, a, rfl, hnot, hleft⟩
          rcases hleft with ⟨hfailed | hpanicked, -⟩ | ⟨hselecting, -⟩
          · rw [hfailed]
            rfl
          · rw [hpanicked]
            rfl
          · rw [hselecting]
            rfl
      · cases hadds.symm.trans hout

/-- The branch does what it should exactly if the node answers both requests with `Success`. -/
theorem handled_iff {l l' : List Label} (h : Run (Partial (step units)) Service.init l s)
    (hevent : s.events = some (.nodeAdded (.ok node))) (hstep : s.step units .event = some t)
    (hrun : Run (Guarded (Partial (step units)) fun t _ => t.loopCtx.pc.adds = true) t l' t')
    (hleft : t'.loopCtx.pc.adds = false) : Handled node s l' t' ↔ Accepted s t' := by
  have halive : s.loopCtx.pc ≠ .panicked := by
    intro hpc
    simp [step, event, hpc] at hstep
  have henter := InBranch.enter (Wf.run h) (Pulls.run h halive) hevent hstep
  rcases henter.run hrun with ⟨-, adding', hwithin⟩ | ⟨-, l'', a, rfl, hnot, hend⟩
  · rw [hwithin.pc] at hleft
    cases hleft
  · rcases hend with ⟨hpc, ha, hrefused⟩ | ⟨hselecting, rfl, hconnected⟩
    · refine ⟨fun hhandled => ?_, fun haccepted => absurd haccepted hrefused⟩
      rcases hpc with hpc | hpc
      · cases hpc.symm.trans hhandled.selecting
      · cases hpc.symm.trans hhandled.selecting
    · have hmem : Label.insert ∈ l'' ++ [.insert] := List.mem_append_right _ List.mem_cons_self
      constructor
      · intro hhandled
        exact hhandled.inserted.mp hmem
      · intro haccepted
        exact ⟨hselecting, ⟨fun _ => haccepted, fun _ => hmem⟩, fun _ => hconnected,
          fun hrefused => absurd haccepted hrefused⟩

/-! ## The nodes in `connected` -/

/-- A node with this address sent a message with this opcode and the status `Success`, in reply to a call of
`pull_msg`. -/
def Reported (s : Service K M) (opcode : Opcode) (status : List UInt8 → Option Status)
    (addr : MeshAddr) : Prop :=
  ∃ n, ∃ msg ∈ s.channels.handed (oneshotId n),
    ((nodeFilter addr).withOpcode opcode).isMatch msg = true ∧
      (status msg.content.payload).map Status.isOk = some true

/-- The node has added the application key. -/
def KeyAdded (s : Service K M) (addr : MeshAddr) : Prop :=
  s.Reported ConfigAppKeyStatus.opcode appKeyStatus addr

/-- The node has bound it. -/
def KeyBound (s : Service K M) (addr : MeshAddr) : Prop :=
  s.Reported ConfigModelAppStatus.opcode modelAppStatus addr

/-- The nodes in `connected` have added the key and bound it. -/
def Configured (s : Service K M) : Prop :=
  ∀ g addr, addr ∈ (s.collections g).connected → s.KeyAdded addr ∧ s.KeyBound addr

/-- So has the node that is being added, as far as the branch got. -/
structure ConfiguredSoFar (s : Service K M) : Prop where
  configured : s.Configured
  keyAdded : ∀ node adding, s.loopCtx.pc = .nodeAdded node adding → adding.keyAdded = true →
    s.KeyAdded node.unicastAddr
  keyBound : ∀ node adding, s.loopCtx.pc = .nodeAdded node adding → adding.keyBound = true →
    s.KeyBound node.unicastAddr

/-- A reply that is taken in the branch for `NodeAdded(Ok(node))` is there, parses, and its status is
`Success`. -/
def RepliesOk (s : Service K M) (a : Label) : Prop :=
  a = .reply → ∀ node rx,
    (s.loopCtx.pc = .nodeAdded node (.pullingAppKey (.waiting rx)) →
      (s.received appKeyStatus rx).map Status.isOk = some true) ∧
    (s.loopCtx.pc = .nodeAdded node (.pullingModelApp (.waiting rx)) →
      (s.received modelAppStatus rx).map Status.isOk = some true)

theorem Reported.step {opcode : Opcode} {status : List UInt8 → Option Status} {addr : MeshAddr}
    (h : s.Reported opcode status addr) (hwf : s.Wf) (hstep : s.step units a = some s') :
    s'.Reported opcode status addr := by
  obtain ⟨n, msg, hmsg, hmatch, hstatus⟩ := h
  exact ⟨n, msg, (handed_of_step hwf hstep _).subset hmsg, hmatch, hstatus⟩

/-- The message that `LoopCtx::run` waits for is from the node that was asked. -/
theorem Pulls.reported (h : s.Pulls) {opcode : Opcode} {status : List UInt8 → Option Status}
    {addr : MeshAddr} {rx : ChanId} (hpull : s.loopCtx.pc.pull = some (.waiting rx))
    (hfilter : s.loopCtx.pc.pullFilter = some ((nodeFilter addr).withOpcode opcode))
    (hok : (s.received status rx).map Status.isOk = some true) : s.Reported opcode status addr := by
  obtain ⟨value, hvalue, hsuccess⟩ := Option.map_eq_some_iff.mp hok
  obtain ⟨msg, hmsg, hstatus⟩ := Option.bind_eq_some_iff.mp hvalue
  have hmem : msg ∈ s.channels.handed rx := List.mem_of_mem_head? hmsg
  obtain ⟨n, -, heq | ⟨filter, heq⟩⟩ := h.numbered _ hpull
  · cases heq
    refine ⟨n, msg, hmem, h.matching _ _ hpull hfilter msg hmem, ?_⟩
    rw [hstatus]
    exact congrArg some hsuccess
  · cases heq

/-- When a run is over, its nodes stay as they are. -/
theorem connected_leave (s : Service K M) (pc : LoopPc) (g : ℕ) :
    ((s.leave pc).collections g).connected = (s.collections g).connected := by
  by_cases hg : g = s.loopCtx.run
  · subst hg
    simp [leave, setCollection, setLoopPc, collection]
  · simp [leave, setCollection, setLoopPc, Function.update_of_ne hg]

/-- Outside of the branch, `LoopCtx::run` puts no node into `connected`. -/
theorem outside_of_loop (h : s.step units a = some s') (ha : a.party = .loop)
    (hout : s.loopCtx.pc.adds = false) :
    (∀ node adding, s'.loopCtx.pc = .nodeAdded node adding → adding = .scanning) ∧
      ∀ g addr, addr ∈ (s'.collections g).connected → addr ∈ (s.collections g).connected := by
  have hin : ∀ node adding, s.loopCtx.pc ≠ .nodeAdded node adding := by
    intro node adding hpc
    rw [hpc] at hout
    cases hout
  have hpoll : ∀ addrs node adding, poll addrs ≠ .nodeAdded node adding := by
    intro addrs node adding
    cases addrs <;> exact fun h => by cases h
  have hleave : ∀ (pc : LoopPc) (g : ℕ) (addr : MeshAddr),
      addr ∈ ((s.leave pc).collections g).connected → addr ∈ (s.collections g).connected := by
    intro pc g addr haddr
    rwa [connected_leave] at haddr
  cases loop_cases h ha
  case pulls site hpc =>
    cases site with
    | attach => exact ⟨(fun _ _ h => by cases h), fun _ _ h => h⟩
    | _ => exact absurd hpc (hin _ _)
  case replied site _ _ hpc _ _ =>
    cases site with
    | attach => exact ⟨(fun _ _ h => by cases h), fun _ _ h => h⟩
    | _ => exact absurd hpc (hin _ _)
  case requested site _ _ hpc _ =>
    cases site with
    | attach => exact ⟨(fun _ _ h => by cases h), fun _ _ h => h⟩
    | _ => exact absurd hpc (hin _ _)
  case scanned hpc => exact absurd hpc (hin _ _)
  case inserted hpc _ => exact absurd hpc (hin _ _)
  case nodeAdded => exact ⟨(fun _ _ h => by cases h; rfl), fun _ _ h => h⟩
  case attachFailed => exact ⟨fun node adding hpc => absurd hpc (hin _ _), fun _ _ h => h⟩
  case known => exact ⟨fun node adding hpc => absurd hpc (hin _ _), fun _ _ h => h⟩
  case nodeNotAdded => exact ⟨fun node adding hpc => absurd hpc (hin _ _), fun _ _ h => h⟩
  case polled => exact ⟨fun node adding hpc => absurd hpc (hpoll _ _ _), fun _ _ h => h⟩
  case failed => exact ⟨(fun _ _ h => by cases h), hleave _⟩
  case requestPanicked => exact ⟨(fun _ _ h => by cases h), hleave _⟩
  case subscribePanicked => exact ⟨(fun _ _ h => by cases h), hleave _⟩
  case replyPanicked => exact ⟨(fun _ _ h => by cases h), hleave _⟩
  case triggerPanicked => exact ⟨(fun _ _ h => by cases h), hleave _⟩
  case subscribed =>
    refine ⟨(fun _ _ h => by cases h), fun g addr haddr => ?_⟩
    by_cases hg : g = s.loopCtx.streams
    · subst hg
      simp only [Function.update_self] at haddr
      exact absurd haddr Std.ExtTreeMap.not_mem_empty
    · simp only [Function.update_of_ne hg] at haddr
      exact haddr
  case triggered =>
    refine ⟨fun node adding hpc => absurd hpc (hpoll _ _ _), fun g addr haddr => ?_⟩
    by_cases hg : g = s.loopCtx.run
    · subst hg
      simp only [setCollection, setLoopPc, Function.update_self] at haddr
      exact haddr
    · simp only [setCollection, setLoopPc, Function.update_of_ne hg] at haddr
      exact haddr
  -- the other steps move `LoopCtx::run` and leave the nodes alone
  all_goals exact ⟨(fun _ _ h => by cases h), fun _ _ h => h⟩

/-- The nodes of the next state, by what is known in this one. -/
theorem ConfiguredSoFar.next (h : s.ConfiguredSoFar) (hwf : s.Wf) (hstep : s.step units a = some s')
    (hconnected : ∀ g addr, addr ∈ (s'.collections g).connected →
      addr ∈ (s.collections g).connected ∨ s.KeyAdded addr ∧ s.KeyBound addr)
    (hadded : ∀ node adding, s'.loopCtx.pc = .nodeAdded node adding → adding.keyAdded = true →
      s.KeyAdded node.unicastAddr)
    (hbound : ∀ node adding, s'.loopCtx.pc = .nodeAdded node adding → adding.keyBound = true →
      s.KeyBound node.unicastAddr) : s'.ConfiguredSoFar := by
  refine ⟨fun g addr haddr => ?_, fun node adding hpc hkey => ?_, fun node adding hpc hkey => ?_⟩
  · have hboth : s.KeyAdded addr ∧ s.KeyBound addr :=
      (hconnected g addr haddr).elim (h.configured g addr) id
    exact ⟨hboth.1.step hwf hstep, hboth.2.step hwf hstep⟩
  · exact (hadded node adding hpc hkey).step hwf hstep
  · exact (hbound node adding hpc hkey).step hwf hstep

/-- Where the replies are `Success`, every step keeps the nodes configured. -/
theorem ConfiguredSoFar.step (h : s.ConfiguredSoFar) (hwf : s.Wf)
    (hpulls : s.loopCtx.pc ≠ .panicked → s.Pulls) (hok : s.RepliesOk a)
    (hstep : s.step units a = some s') : s'.ConfiguredSoFar := by
  by_cases ha : a.party = .loop
  · by_cases hin : s.loopCtx.pc.adds = true
    · obtain ⟨node, adding, hpc⟩ := LoopPc.exists_of_adds hin
      have hpulls := hpulls (by rw [hpc]; exact fun h => by cases h)
      have hadded := h.keyAdded node adding hpc
      have hbound := h.keyBound node adding hpc
      have hmove : ∀ adding', s'.loopCtx.pc = .nodeAdded node adding' → s'.collections = s.collections →
          (adding'.keyAdded = true → s.KeyAdded node.unicastAddr) →
          (adding'.keyBound = true → s.KeyBound node.unicastAddr) → s'.ConfiguredSoFar := by
        intro adding' hpc' hcollections hadded hbound
        refine h.next hwf hstep (fun g addr haddr => .inl (hcollections ▸ haddr)) ?_ ?_
        · intro node' adding'' heq
          cases hpc'.symm.trans heq
          exact hadded
        · intro node' adding'' heq
          cases hpc'.symm.trans heq
          exact hbound
      have hleave : ∀ pc, (∀ node adding, pc ≠ .nodeAdded node adding) → s' = s.leave pc →
          s'.ConfiguredSoFar := by
        rintro pc hout rfl
        refine h.next hwf hstep (fun g addr haddr => .inl ?_) ?_ ?_
        · rwa [connected_leave] at haddr
        · exact fun node adding heq => absurd heq (hout node adding)
        · exact fun node adding heq => absurd heq (hout node adding)
      have hpanicked : s' = s.leave .panicked → s'.ConfiguredSoFar :=
        hleave .panicked fun _ _ h => by cases h
      cases branch_cases hstep ha hpc with
      | scanned => exact hmove _ rfl rfl (fun h => by cases h) (fun h => by cases h)
      | keySent => exact hmove _ rfl rfl (fun h => by cases h) (fun h => by cases h)
      | keyAsked => exact hmove _ rfl rfl (fun h => by cases h) (fun h => by cases h)
      | @keyAdded rx status hstatus =>
          refine hmove _ rfl rfl (fun _ => ?_) (fun h => by cases h)
          have hsuccess := (hok rfl node rx).1 hpc
          exact hpulls.reported (by rw [hpc]; rfl) (by rw [hpc]; rfl) hsuccess
      | keyLost hstatus => exact hpanicked rfl
      | bindSent => exact hmove _ rfl rfl hadded (fun h => by cases h)
      | bindAsked => exact hmove _ rfl rfl hadded (fun h => by cases h)
      | @keyBound rx status hstatus =>
          refine hmove _ rfl rfl hadded (fun _ => ?_)
          have hsuccess := (hok rfl node rx).2 hpc
          exact hpulls.reported (by rw [hpc]; rfl) (by rw [hpc]; rfl) hsuccess
      | bindLost hstatus => exact hpanicked rfl
      | inserted =>
          refine h.next hwf hstep (fun g addr haddr => ?_) (fun _ _ h => by cases h)
            (fun _ _ h => by cases h)
          by_cases hg : g = s.loopCtx.run
          · subst hg
            simp only [setCollection, setLoopPc, Function.update_self, Std.ExtTreeMap.mem_insert,
              Std.LawfulEqCmp.compare_eq_iff_eq] at haddr
            rcases haddr with rfl | haddr
            · exact .inr ⟨hadded rfl, hbound rfl⟩
            · exact .inl haddr
          · simp only [setCollection, setLoopPc, Function.update_of_ne hg] at haddr
            exact .inl haddr
      | failed hcalls => exact hleave .failed (fun _ _ h => by cases h) rfl
      | crashed hpull => exact hpanicked rfl
    · obtain ⟨hscanning, hconnected⟩ := outside_of_loop hstep ha (Bool.eq_false_iff.mpr hin)
      refine h.next hwf hstep (fun g addr haddr => .inl (hconnected g addr haddr)) ?_ ?_
      · intro node adding hpc hadded
        cases hscanning node adding hpc
        cases hadded
      · intro node adding hpc hbound
        cases hscanning node adding hpc
        cases hbound
  · obtain ⟨hloop, hconnected⟩ := frame_others hstep ha
    refine h.next hwf hstep (fun g addr haddr => .inl (hconnected g ▸ haddr)) ?_ ?_
    · exact fun node adding hpc => h.keyAdded node adding (hloop ▸ hpc)
    · exact fun node adding hpc => h.keyBound node adding (hloop ▸ hpc)

/-- **The configuration of new nodes.** For every event that a node was added, the branch for it ends with
`LoopCtx::run` going on, and with the node in `connected` exactly if it answered both requests with
`Success`, if and only if it did answer so. And in every run in which all replies in that branch are so, all
nodes in `connected` have added the key and bound it. -/
theorem configured_iff (units : Units) :
    (∀ (l l' : List Label) (s t t' : Service K M) (node : Node),
      Run (Partial (step units)) init l s → s.events = some (.nodeAdded (.ok node)) →
        s.step units .event = some t →
          Run (Guarded (Partial (step units)) fun t _ => t.loopCtx.pc.adds = true) t l' t' →
            t'.loopCtx.pc.adds = false →
            (Handled node s l' t' ↔ Accepted s t')) ∧
    ∀ (l : List Label) (s : Service K M),
      Run (Guarded (Partial (step units)) RepliesOk) init l s → s.Configured := by
  constructor
  · intro l l' s t t' node hrun hevent hstep hbranch hleft
    exact handled_iff hrun hevent hstep hbranch hleft
  · intro l s hrun
    have hinv := hrun.invariant (I := fun s : Service K M =>
      s.Wf ∧ (s.loopCtx.pc ≠ .panicked → s.Pulls) ∧ s.ConfiguredSoFar)
      (fun t a t' ⟨hwf, hpulls, hconfigured⟩ ⟨hok, hstep⟩ => ?step) ⟨Wf.init, fun _ => Pulls.init, ?init⟩
    case step =>
      refine ⟨hwf.step hstep, fun halive => ?_, hconfigured.step hwf hpulls hok hstep⟩
      exact (hpulls fun hpc => halive (panicked_of_step hstep hpc)).step hwf hstep halive
    case init =>
      refine ⟨fun g addr haddr => absurd haddr Std.ExtTreeMap.not_mem_empty, ?_, ?_⟩
      · exact fun _ _ h => by cases h
      · exact fun _ _ h => by cases h
    exact hinv.2.2.configured

/-- The node answers both requests with `InsufficientResources`, and the branch goes on. -/
def refuse : List Label :=
  [.queueRequest, .call (.devKeyMessageReceived 5 false mainNetIndex [0x80, 0x03, 5, 0, 0, 0]) 0,
    .dbusSend, .queueMessage, .reply, .callOk, .request, .queueRequest,
    .call (.devKeyMessageReceived 5 false mainNetIndex [0x80, 0x3e, 5, 5, 0, 0, 0, 0, 0]) 0,
    .dbusSend, .queueMessage, .reply, .insert]

/-- The node answers the first request with an opcode and nothing else. -/
def answerNothing : List Label :=
  [.queueRequest, .call (.devKeyMessageReceived 5 false mainNetIndex [0x80, 0x03]) 0, .dbusSend,
    .queueMessage, .reply]

/-- Steps other than replies meet the condition on replies. -/
theorem run_of_ne_reply {l : List Label} (h : Run (Partial (step units)) s l s')
    (hl : ∀ a ∈ l, a ≠ .reply) : Run (Guarded (Partial (step units)) RepliesOk) s l s' :=
  h.guarded_of_forall fun a ha _ heq => absurd heq (hl a ha)

set_option maxRecDepth 4000 in
/-- The theorem for a node that answers both requests with `Success`. -/
theorem configured_iff_one_node :
    (∃ s t t' : Service ℕ (DenseVec GenericFilter),
      Run (Partial (step .total)) init (attach ++ provision.take 6) s ∧
        s.step .total .event = some t ∧
        Handled ⟨.fromBytes deviceUuid, 5⟩ s (provision.drop 7 ++ configure) t') ∧
    ∃ s : Service ℕ (DenseVec GenericFilter),
      Run (Guarded (Partial (step .total)) RepliesOk) init (attach ++ provision ++ configure) s ∧
        s.collection.connected[(5 : MeshAddr)]? = some (.fromBytes deviceUuid) ∧ s.Configured := by
  constructor
  · have hrun : ∃ s t t' : Service ℕ (DenseVec GenericFilter),
        Run (Partial (step .total)) init (attach ++ provision.take 6) s ∧
          s.events = some (.nodeAdded (.ok ⟨.fromBytes deviceUuid, 5⟩)) ∧
          s.step .total .event = some t ∧
          Run (Guarded (Partial (step .total)) fun t _ => t.loopCtx.pc.adds = true) t
            (provision.drop 7 ++ configure) t' ∧ t'.loopCtx.pc.adds = false ∧ Accepted s t' :=
      ⟨_, _, _, run_partial_iff.mpr rfl, rfl, rfl, run_guarded_iff.mpr rfl, rfl, rfl, rfl⟩
    obtain ⟨s, t, t', hrun, hevent, hstep, hbranch, hleft, haccepted⟩ := hrun
    have hiff := (configured_iff .total).1 _ _ s t t' _ hrun hevent hstep hbranch hleft
    exact ⟨s, t, t', hrun, hstep, hiff.mpr haccepted⟩
  · let node : Node := ⟨.fromBytes deviceUuid, 5⟩
    have hrun : ∃ s₁ s₂ s₃ s₄ s₅ s₆ s : Service ℕ (DenseVec GenericFilter),
        Run (Partial (step .total)) init (attach.take 6) s₁ ∧
          s₁.loopCtx.pc = .pullingAttach (.waiting 0) ∧ s₁.step .total .reply = some s₂ ∧
        Run (Partial (step .total)) s₂ (attach.drop 7 ++ provision ++ configure.take 4) s₃ ∧
          s₃.loopCtx.pc = .nodeAdded node (.pullingAppKey (.waiting 2)) ∧
          (s₃.received appKeyStatus 2).map Status.isOk = some true ∧ s₃.step .total .reply = some s₄ ∧
        Run (Partial (step .total)) s₄ ((configure.drop 5).take 6) s₅ ∧
          s₅.loopCtx.pc = .nodeAdded node (.pullingModelApp (.waiting 4)) ∧
          (s₅.received modelAppStatus 4).map Status.isOk = some true ∧ s₅.step .total .reply = some s₆ ∧
        Run (Partial (step .total)) s₆ [.insert] s ∧
          s.collection.connected[(5 : MeshAddr)]? = some node.uuid :=
      ⟨_, _, _, _, _, _, _, run_partial_iff.mpr rfl, rfl, rfl, run_partial_iff.mpr rfl, rfl, rfl, rfl,
        run_partial_iff.mpr rfl, rfl, rfl, rfl, run_partial_iff.mpr rfl, rfl⟩
    obtain ⟨s₁, s₂, s₃, s₄, s₅, s₆, s, hrun₁, hpc₁, hstep₁, hrun₂, hpc₃, hstatus₃, hstep₃, hrun₄, hpc₅,
      hstatus₅, hstep₅, hrun₆, hnode⟩ := hrun
    have hok₁ : s₁.RepliesOk .reply := fun _ node' rx =>
      ⟨(fun h => by cases hpc₁.symm.trans h), fun h => by cases hpc₁.symm.trans h⟩
    have hok₃ : s₃.RepliesOk .reply := fun _ node' rx =>
      ⟨(fun h => by cases hpc₃.symm.trans h; exact hstatus₃), fun h => by cases hpc₃.symm.trans h⟩
    have hok₅ : s₅.RepliesOk .reply := fun _ node' rx =>
      ⟨(fun h => by cases hpc₅.symm.trans h), fun h => by cases hpc₅.symm.trans h; exact hstatus₅⟩
    have hrun₁ := Run.snoc (run_of_ne_reply hrun₁ (by decide)) ⟨hok₁, hstep₁⟩
    have hrun₃ := Run.snoc (hrun₁.append (run_of_ne_reply hrun₂ (by decide))) ⟨hok₃, hstep₃⟩
    have hrun₅ := Run.snoc (hrun₃.append (run_of_ne_reply hrun₄ (by decide))) ⟨hok₅, hstep₅⟩
    have hrun := hrun₅.append (run_of_ne_reply hrun₆ (by decide))
    exact ⟨s, hrun, hnode, (configured_iff .total).2 _ s hrun⟩

set_option maxRecDepth 4000 in
/-- A node that answers both requests with `InsufficientResources` is put into `connected`, and one that
answers with a payload that does not parse ends `LoopCtx::run` with a panic. -/
theorem not_configured :
    (∃ s t t' : Service ℕ (DenseVec GenericFilter),
      Run (Partial (step .total)) init (attach ++ provision.take 6) s ∧
        s.step .total .event = some t ∧
        Run (Partial (step .total)) t (provision.drop 7 ++ refuse) t' ∧ ¬ Accepted s t' ∧
        ¬ Handled ⟨.fromBytes deviceUuid, 5⟩ s (provision.drop 7 ++ refuse) t' ∧
        t'.collection.connected[(5 : MeshAddr)]? = some (.fromBytes deviceUuid)) ∧
    ∃ s : Service ℕ (DenseVec GenericFilter),
      Run (Partial (step .total)) init (attach ++ provision ++ answerNothing) s ∧
        s.loopCtx.pc = .panicked := by
  constructor
  · have hrun : ∃ s t t' : Service ℕ (DenseVec GenericFilter),
        Run (Partial (step .total)) init (attach ++ provision.take 6) s ∧
          s.step .total .event = some t ∧
          Run (Partial (step .total)) t (provision.drop 7 ++ refuse) t' ∧
          t'.received appKeyStatus (oneshotId s.loopCtx.pulls) = some .insufficientResources ∧
          s.collection.connected[(5 : MeshAddr)]? = none ∧
          t'.collection.connected[(5 : MeshAddr)]? = some (.fromBytes deviceUuid) :=
      ⟨_, _, _, run_partial_iff.mpr rfl, rfl, run_partial_iff.mpr rfl, rfl, rfl, rfl⟩
    obtain ⟨s, t, t', hrun, hstep, hbranch, hstatus, hbefore, hafter⟩ := hrun
    have hrefused : ¬ Accepted s t' := by
      intro haccepted
      cases (congrArg (Option.map Status.isOk) hstatus).symm.trans haccepted.1
    refine ⟨s, t, t', hrun, hstep, hbranch, hrefused, fun hhandled => ?_, hafter⟩
    rw [hhandled.refused hrefused, hbefore] at hafter
    cases hafter
  · exact ⟨_, run_partial_iff.mpr rfl, rfl⟩

end Service

end BleWsCentral.Mesh
