import BleWsCentral.Mesh.ServiceInv

/-!
# Devices that are being added

`LoopCtx::run` remembers in `discovering` for which devices it called `add_node`, so that it does not do so
twice. A device is taken out again when it was added, but not when that failed: the event of
`add_node_failed` has the device in the text of its error only.

* `Issued` — the service, with the calls of `add_node` that the current run issued and that were not
  answered yet.
* `Answers` — the events of the provisioner answer such calls, each one at most once.
* `discovering_iff` — `discovering` is the set of these calls as long as no call fails; after a failure it
  is not, for the rest of the run.
-/

set_option linter.unusedSectionVars false

namespace BleWsCentral.Mesh

open BleWsCentral.Found

/-- The device for which an event answers a call of `add_node`. -/
def Event.answered : Event → Option Uuid
  | .deviceDiscovered _ _ => none
  | .nodeAdded (.ok node) => some node.uuid
  | .nodeAdded (.error e) => some e.uuid

/-- The device an event reports as not added. -/
def Event.failed : Event → Option Uuid
  | .nodeAdded (.error e) => some e.uuid
  | _ => none

/-- The service, with the calls of `add_node` of the current run that are not answered yet. -/
structure Issued (K M : Type) where
  service : Service K M
  pending : List Uuid

namespace Service

variable {K M : Type} [DecidableEq K] [DenseSlotMap K GenericFilter M] {units : Units}
  {s s' : Service K M} {a : Label}

/-- What an event that `LoopCtx::run` takes makes of the calls that are not answered yet. -/
def issue (s : Service K M) (event : Event) (pending : List Uuid) : List Uuid :=
  match event with
  | .deviceDiscovered uuid _ =>
      if uuid ∈ s.loopCtx.discovering then pending else pending ++ [uuid]
  | .nodeAdded (.ok node) => pending.erase node.uuid
  | .nodeAdded (.error e) => pending.erase e.uuid

/-- The calls that are not answered after a step to `s'`; a new run has not made any. -/
def pendingAfter (s : Service K M) (a : Label) (s' : Service K M) (pending : List Uuid) : List Uuid :=
  match a, s.events with
  | .event, some event => s.issue event pending
  | _, _ => if s'.loopCtx.streams = s.loopCtx.streams then pending else []

/-- Apart from the branch for an event, `LoopCtx::run` forgets all the devices when it starts, and else
none. -/
theorem discovering_of_loop (h : s.step units a = some s') (ha : a.party = .loop) (hne : a ≠ .event) :
    (s'.loopCtx.discovering = s.loopCtx.discovering ∧ s'.loopCtx.streams = s.loopCtx.streams) ∨
      s'.loopCtx.discovering = ∅ ∧ s'.loopCtx.streams = s.loopCtx.streams + 1 := by
  cases loop_cases h ha with
  | subscribed _ _ => exact .inr ⟨rfl, rfl⟩
  | known _ _ _ | discovered _ _ _ | nodeAdded _ _ | nodeNotAdded _ _ => exact absurd rfl hne
  | _ => exact .inl ⟨rfl, rfl⟩

/-- The same for the steps of all tasks. -/
theorem discovering_of_ne_event (h : s.step units a = some s') (hne : a ≠ .event) :
    (s'.loopCtx.discovering = s.loopCtx.discovering ∧ s'.loopCtx.streams = s.loopCtx.streams) ∨
      s'.loopCtx.discovering = ∅ ∧ s'.loopCtx.streams = s.loopCtx.streams + 1 := by
  cases ha : a.party with
  | dbus => exact .inl (by rw [frame_dbus h ha]; exact ⟨rfl, rfl⟩)
  | queue => exact .inl (by rw [frame_queue h ha]; exact ⟨rfl, rfl⟩)
  | loop => exact discovering_of_loop h ha hne
  | collection => exact .inl (by rw [frame_collection h ha]; exact ⟨rfl, rfl⟩)
  | update => exact .inl (by rw [frame_update h ha]; exact ⟨rfl, rfl⟩)

/-- What the branch for an event makes of the devices. -/
theorem discovering_of_event (h : s.step units .event = some s') :
    ∃ event, s.events = some event ∧ s'.loopCtx.streams = s.loopCtx.streams ∧
      ∀ uuid, uuid ∈ s'.loopCtx.discovering ↔ match event with
        | .deviceDiscovered uuid' _ => uuid' = uuid ∨ uuid ∈ s.loopCtx.discovering
        | .nodeAdded (.ok node) => node.uuid ≠ uuid ∧ uuid ∈ s.loopCtx.discovering
        | .nodeAdded (.error _) => uuid ∈ s.loopCtx.discovering := by
  cases loop_cases h rfl with
  | @known uuid' rssi hpc hevent hknown =>
      refine ⟨_, hevent, rfl, fun uuid => ⟨.inr, ?_⟩⟩
      rintro (rfl | hold)
      · exact hknown
      · exact hold
  | @discovered uuid' rssi hpc hevent hnew =>
      refine ⟨_, hevent, rfl, fun uuid => ?_⟩
      rw [Std.ExtTreeSet.mem_insert, Std.LawfulEqOrd.compare_eq_iff_eq]
  | @nodeAdded node hpc hevent =>
      refine ⟨_, hevent, rfl, fun uuid => ?_⟩
      rw [Std.ExtTreeSet.mem_erase, Ne, Std.LawfulEqOrd.compare_eq_iff_eq]
  | @nodeNotAdded e hpc hevent => exact ⟨_, hevent, rfl, fun _ => Iff.rfl⟩

end Service

namespace Issued

variable {K M : Type} [DecidableEq K] [DenseSlotMap K GenericFilter M] {units : Units}
  {s s' : Issued K M} {a : Label}

/-- No run has issued a call. -/
def init : Issued K M := ⟨.init, []⟩

def step (units : Units) (s : Issued K M) (a : Label) : Option (Issued K M) :=
  (s.service.step units a).map fun t => ⟨t, s.service.pendingAfter a t s.pending⟩

/-- An event that reports on a device answers a call for it. -/
def Answers (s : Issued K M) (a : Label) : Prop :=
  a = .event → ∀ uuid ∈ s.service.events.bind Event.answered, uuid ∈ s.pending

/-- No device is reported as not added. -/
def NoneFails (s : Issued K M) (a : Label) : Prop :=
  a = .event → s.service.events.bind Event.failed = none

/-- A device is in `discovering` if it is being added. -/
def Exact (s : Issued K M) : Prop := ∀ uuid, uuid ∈ s.service.loopCtx.discovering ↔ uuid ∈ s.pending

/-- What holds in every run in which the events answer calls: there is one call at most for a device, and
it is in `discovering` then. -/
structure Inv (s : Issued K M) : Prop where
  nodup : s.pending.Nodup
  discovering : ∀ uuid ∈ s.pending, uuid ∈ s.service.loopCtx.discovering

theorem Inv.init : (Issued.init : Issued K M).Inv where
  nodup := .nil
  discovering _ h := by cases h

/-- A step is one of the service: it handles an event, starts a run anew, or changes nothing here. -/
theorem step_cases (h : s.step units a = some s') :
    (∃ event, a = .event ∧ s.service.events = some event ∧
      s.service.step units .event = some s'.service ∧ s'.pending = s.service.issue event s.pending) ∨
    (a ≠ .event ∧ s'.service.loopCtx.discovering = s.service.loopCtx.discovering ∧
      s'.service.loopCtx.streams = s.service.loopCtx.streams ∧ s'.pending = s.pending) ∨
    a ≠ .event ∧ s'.service.loopCtx.discovering = ∅ ∧
      s'.service.loopCtx.streams = s.service.loopCtx.streams + 1 ∧ s'.pending = [] := by
  obtain ⟨t, ht, rfl⟩ := Option.map_eq_some_iff.mp h
  by_cases ha : a = .event
  · subst ha
    obtain ⟨event, hevent, -, -⟩ := Service.discovering_of_event ht
    exact .inl ⟨event, rfl, hevent, ht, by simp only [Service.pendingAfter, hevent]⟩
  · have hafter : s.service.pendingAfter a t s.pending =
        if t.loopCtx.streams = s.service.loopCtx.streams then s.pending else [] := by
      unfold Service.pendingAfter
      split
      · exact absurd rfl ha
      · rfl
    rcases Service.discovering_of_ne_event ht ha with ⟨hsame, hstreams⟩ | ⟨hnew, hstreams⟩
    · exact .inr (.inl ⟨ha, hsame, hstreams, by rw [hafter, if_pos hstreams]⟩)
    · exact .inr (.inr ⟨ha, hnew, hstreams, by rw [hafter, if_neg (by omega)]⟩)

theorem Inv.step (h : s.Inv) (hstep : s.step units a = some s') : s'.Inv := by
  rcases step_cases hstep with ⟨event, rfl, hevent, hservice, hpending⟩ |
    ⟨-, hsame, -, hpending⟩ | ⟨-, -, -, hpending⟩
  · obtain ⟨event', hevent', -, hmem⟩ := Service.discovering_of_event hservice
    obtain rfl : event = event' := Option.some.inj (hevent.symm.trans hevent')
    cases event with
    | deviceDiscovered uuid rssi =>
        simp only [Service.issue] at hpending
        split at hpending
        · exact ⟨hpending ▸ h.nodup, fun uuid' hold => (hmem uuid').mpr
            (.inr (h.discovering uuid' (hpending ▸ hold)))⟩
        · rename_i hnew
          have hnot : uuid ∉ s.pending := fun hold => hnew (h.discovering uuid hold)
          refine ⟨?_, fun uuid' huuid' => (hmem uuid').mpr ?_⟩
          · rw [hpending, List.nodup_append]
            refine ⟨h.nodup, List.nodup_singleton _, fun uuid' hold uuid'' huuid'' heq => ?_⟩
            rw [List.mem_singleton.mp huuid''] at heq
            exact hnot (heq ▸ hold)
          · rw [hpending, List.mem_append, List.mem_singleton] at huuid'
            rcases huuid' with hold | rfl
            · exact .inr (h.discovering uuid' hold)
            · exact .inl rfl
    | nodeAdded result =>
        cases result with
        | ok node =>
            simp only [Service.issue] at hpending
            refine ⟨hpending ▸ h.nodup.erase _, fun uuid' huuid' => (hmem uuid').mpr ?_⟩
            rw [hpending, h.nodup.mem_erase_iff] at huuid'
            exact ⟨huuid'.1.symm, h.discovering uuid' huuid'.2⟩
        | error e =>
            simp only [Service.issue] at hpending
            refine ⟨hpending ▸ h.nodup.erase _, fun uuid' huuid' => (hmem uuid').mpr ?_⟩
            exact h.discovering uuid' (List.mem_of_mem_erase (hpending ▸ huuid'))
  · refine ⟨hpending ▸ h.nodup, fun uuid huuid => ?_⟩
    rw [hsame]
    exact h.discovering uuid (hpending ▸ huuid)
  · refine ⟨hpending ▸ .nil, fun uuid huuid => ?_⟩
    rw [hpending] at huuid
    cases huuid

/-- As long as no device is reported as not added, `discovering` is exact. -/
theorem Exact.step (h : s.Exact) (hinv : s.Inv) (hnone : s.NoneFails a)
    (hstep : s.step units a = some s') : s'.Exact := by
  rcases step_cases hstep with ⟨event, rfl, hevent, hservice, hpending⟩ |
    ⟨-, hsame, -, hpending⟩ | ⟨-, hnew, -, hpending⟩
  · obtain ⟨event', hevent', -, hmem⟩ := Service.discovering_of_event hservice
    obtain rfl : event = event' := Option.some.inj (hevent.symm.trans hevent')
    intro uuid
    rw [hmem, hpending]
    cases event with
    | deviceDiscovered uuid' rssi =>
        simp only [Service.issue]
        split
        · rename_i hold
          refine ⟨?_, fun hpending => .inr ((h uuid).mpr hpending)⟩
          rintro (rfl | hmem)
          · exact (h uuid').mp hold
          · exact (h uuid).mp hmem
        · rw [List.mem_append, List.mem_singleton, ← h uuid, or_comm, eq_comm]
    | nodeAdded result =>
        cases result with
        | ok node =>
            simp only [Service.issue]
            rw [hinv.nodup.mem_erase_iff, ← h uuid, ne_comm]
        | error e =>
            have hfailed := hnone rfl
            rw [hevent] at hfailed
            cases hfailed
  · intro uuid
    rw [hsame, hpending]
    exact h uuid
  · intro uuid
    rw [hnew, hpending]
    simp

/-- A device is in `discovering`, and no call for it is waiting for its answer. -/
def Blocked (s : Issued K M) (uuid : Uuid) : Prop :=
  uuid ∈ s.service.loopCtx.discovering ∧ uuid ∉ s.pending

/-- A device that is reported as not added stays in `discovering`. -/
theorem blocked_of_failed (hinv : s.Inv) (hanswers : s.Answers .event)
    (hstep : s.step units .event = some s') {uuid : Uuid}
    (hfailed : s.service.events.bind Event.failed = some uuid) :
    s'.Blocked uuid ∧ s'.service.loopCtx.streams = s.service.loopCtx.streams := by
  rcases step_cases hstep with ⟨event, -, hevent, hservice, hpending⟩ | ⟨hne, -⟩ | ⟨hne, -⟩
  · obtain ⟨event', hevent', hstreams, hmem⟩ := Service.discovering_of_event hservice
    obtain rfl : event = event' := Option.some.inj (hevent.symm.trans hevent')
    rw [hevent, Option.bind_some] at hfailed
    unfold Event.failed at hfailed
    split at hfailed <;> cases hfailed
    rename_i e
    have hanswered : e.uuid ∈ s.pending := hanswers rfl e.uuid (by rw [hevent]; rfl)
    refine ⟨⟨(hmem _).mpr (hinv.discovering _ hanswered), ?_⟩, hstreams⟩
    rw [hpending, Service.issue, hinv.nodup.mem_erase_iff]
    exact fun hold => hold.1 rfl
  · exact absurd rfl hne
  · exact absurd rfl hne

/-- It stays so until a new run starts: no other call is issued for it, and so none is answered. -/
theorem Blocked.step {uuid : Uuid} (h : s.Blocked uuid) (hanswers : s.Answers a)
    (hstep : s.step units a = some s')
    (hrun : s'.service.loopCtx.streams = s.service.loopCtx.streams) : s'.Blocked uuid := by
  rcases step_cases hstep with ⟨event, rfl, hevent, hservice, hpending⟩ |
    ⟨-, hsame, -, hpending⟩ | ⟨-, -, hnew, -⟩
  · obtain ⟨event', hevent', -, hmem⟩ := Service.discovering_of_event hservice
    obtain rfl : event = event' := Option.some.inj (hevent.symm.trans hevent')
    unfold Blocked
    rw [hmem, hpending]
    cases event with
    | deviceDiscovered uuid' rssi =>
        refine ⟨.inr h.1, ?_⟩
        simp only [Service.issue]
        split
        · exact h.2
        · rename_i hnot
          rw [List.mem_append, List.mem_singleton, not_or]
          exact ⟨h.2, fun heq => hnot (heq ▸ h.1)⟩
    | nodeAdded result =>
        cases result with
        | ok node =>
            refine ⟨⟨?_, h.1⟩, fun hold => h.2 (List.mem_of_mem_erase hold)⟩
            rintro rfl
            exact h.2 (hanswers rfl _ (by rw [hevent]; rfl))
        | error e => exact ⟨h.1, fun hold => h.2 (List.mem_of_mem_erase hold)⟩
  · unfold Blocked
    rw [hsame, hpending]
    exact h
  · omega

/-- Runs are counted up. -/
theorem streams_le (h : s.step units a = some s') :
    s.service.loopCtx.streams ≤ s'.service.loopCtx.streams := by
  rcases step_cases h with ⟨event, -, -, hservice, -⟩ | ⟨-, -, hstreams, -⟩ | ⟨-, -, hstreams, -⟩
  · obtain ⟨-, -, hstreams, -⟩ := Service.discovering_of_event hservice
    exact hstreams.ge
  · exact hstreams.ge
  · omega

/-- A device that was reported as not added is blocked in all that follows in the same run. -/
theorem Blocked.run {uuid : Uuid} (h : s.Blocked uuid) {l : List Label}
    (hrun : Run (Guarded (Partial (Issued.step units)) Answers) s l s')
    (hsame : s'.service.loopCtx.streams = s.service.loopCtx.streams) : s'.Blocked uuid := by
  have hblocked : s.service.loopCtx.streams ≤ s'.service.loopCtx.streams ∧
      (s'.service.loopCtx.streams = s.service.loopCtx.streams → s'.Blocked uuid) := by
    refine hrun.invariant (I := fun t => s.service.loopCtx.streams ≤ t.service.loopCtx.streams ∧
      (t.service.loopCtx.streams = s.service.loopCtx.streams → t.Blocked uuid))
      (fun t a t' ⟨hle, hblocked⟩ ⟨hanswers, hstep⟩ => ?_) ⟨Nat.le_refl _, fun _ => h⟩
    have hle' := streams_le hstep
    refine ⟨hle.trans hle', fun heq => ?_⟩
    have ht : t.service.loopCtx.streams = s.service.loopCtx.streams := by omega
    exact (hblocked ht).step hanswers hstep (by omega)
  exact hblocked.2 hsame

theorem Inv.run {l : List Label} (h : Run (Guarded (Partial (Issued.step units)) Answers) Issued.init l s) :
    s.Inv :=
  h.invariant (I := Inv) (fun _ _ _ hinv hstep => hinv.step hstep.2) .init

/-- **Devices that are being added.** If the events of the provisioner answer calls of `add_node`, each of
them at most once: as long as no device is reported as not added, `discovering` is in every state the set
of the devices for which a call of the current run is not answered yet, and there is one such call at most
for a device. A device that is reported as not added stays in `discovering` without such a call to the
end of the run, so that nothing is done for it when it is discovered again. -/
theorem discovering_iff (units : Units) :
    (∀ (l : List Label) (s : Issued K M),
      Run (Guarded (Guarded (Partial (step units)) Answers) NoneFails) init l s →
        s.Exact ∧ s.pending.Nodup) ∧
    ∀ (l : List Label) (s s' : Issued K M) (uuid : Uuid),
      Run (Guarded (Partial (step units)) Answers) init l s →
        Guarded (Partial (step units)) Answers s .event s' →
          s.service.events.bind Event.failed = some uuid → ∀ (l' : List Label) (t : Issued K M),
            Run (Guarded (Partial (step units)) Answers) s' l' t →
              t.service.loopCtx.streams = s.service.loopCtx.streams → t.Blocked uuid ∧ ¬ t.Exact := by
  constructor
  · intro l s hrun
    obtain ⟨hinv, hexact⟩ := hrun.invariant (I := fun s : Issued K M => s.Inv ∧ s.Exact)
      (fun _ _ _ ⟨hinv, hexact⟩ ⟨hnone, _, hstep⟩ =>
        ⟨hinv.step hstep, hexact.step hinv hnone hstep⟩)
      ⟨.init, fun uuid => by simp [init, Service.init]⟩
    exact ⟨hexact, hinv.nodup⟩
  · intro l s s' uuid hrun hstep hfailed l' t hrun' hsame
    obtain ⟨hblocked, hstreams⟩ := blocked_of_failed (Inv.run hrun) hstep.1 hstep.2 hfailed
    have ht := hblocked.run hrun' (hsame.trans hstreams.symm)
    exact ⟨ht, fun hexact => ht.2 ((hexact uuid).mp ht.1)⟩

/-- The steps by which a device is found, up to the event. -/
def discover : List Label := [.call (.scanResult 0 Service.deviceUuid) 0, .dbusSend]

/-- The steps by which it could not be added, up to the event. -/
def failToAdd : List Label :=
  [.callOk, .call (.addNodeFailed Service.deviceUuid "timeout") 0, .dbusSend]

/-- Steps other than those for events meet the conditions. -/
theorem run_of_ne_event {l : List Label} (h : Run (Partial (step units)) s l s')
    (hl : ∀ a ∈ l, a ≠ .event) :
    Run (Guarded (Guarded (Partial (step units)) Answers) NoneFails) s l s' := by
  have hguarded := h.guarded_of_forall (G := fun s a => NoneFails s a ∧ Answers s a) fun a ha s =>
    ⟨fun heq => absurd heq (hl a ha), fun heq => absurd heq (hl a ha)⟩
  exact hguarded.mono fun _ _ _ hstep => ⟨hstep.1.1, hstep.1.2, hstep.2⟩

set_option maxRecDepth 4000 in
/-- The theorem for a device that is being added. -/
theorem discovering_iff_one_device :
    ∃ s : Issued ℕ (DenseVec GenericFilter),
      Run (Guarded (Partial (step .total)) Answers) init (Service.attach ++ discover ++ [.event]) s ∧
        s.pending = [.fromBytes Service.deviceUuid] ∧ s.Exact := by
  have hrun : ∃ s₀ s : Issued ℕ (DenseVec GenericFilter),
      Run (Partial (step .total)) init (Service.attach ++ discover) s₀ ∧
        s₀.service.events = some (.deviceDiscovered (.fromBytes Service.deviceUuid) 0) ∧
        s₀.step .total .event = some s ∧ s.pending = [.fromBytes Service.deviceUuid] :=
    ⟨_, _, run_partial_iff.mpr rfl, rfl, rfl, rfl⟩
  obtain ⟨s₀, s, hrun, hevent, hstep, hpending⟩ := hrun
  have hguarded : Run (Guarded (Guarded (Partial (step .total)) Answers) NoneFails) init
      (Service.attach ++ discover ++ [.event]) s := by
    refine .snoc (run_of_ne_event hrun (by decide)) ⟨fun _ => by rw [hevent]; rfl, fun _ => ?_, hstep⟩
    rw [hevent]
    intro uuid huuid
    cases huuid
  exact ⟨s, hguarded.of_guarded, hpending, ((discovering_iff .total).1 _ s hguarded).1⟩

set_option maxRecDepth 4000 in
/-- A device that could not be added is found again: it is in `discovering`, and nothing is done for it. -/
theorem discovering_not_exact :
    ∃ s : Issued ℕ (DenseVec GenericFilter),
      Run (Guarded (Partial (step .total)) Answers) init
        (Service.attach ++ discover ++ [.event] ++ failToAdd ++ [.event] ++ discover ++ [.event]) s ∧
        s.service.loopCtx.pc = .selecting ∧ s.pending = [] ∧ ¬ s.Exact := by
  let uuid : Uuid := .fromBytes Service.deviceUuid
  have hrun : ∃ s₀ s₁ s₂ s₃ s₄ s : Issued ℕ (DenseVec GenericFilter),
      Run (Partial (step .total)) init (Service.attach ++ discover) s₀ ∧
        s₀.service.events = some (.deviceDiscovered uuid 0) ∧ s₀.step .total .event = some s₁ ∧
      Run (Partial (step .total)) s₁ failToAdd s₂ ∧
        s₂.service.events = some (.nodeAdded (.error ⟨uuid, "timeout"⟩)) ∧ s₂.pending = [uuid] ∧
        s₂.step .total .event = some s₃ ∧
      Run (Partial (step .total)) s₃ discover s₄ ∧
        s₄.service.events = some (.deviceDiscovered uuid 0) ∧ s₄.step .total .event = some s ∧
      s.service.loopCtx.pc = .selecting ∧ s.pending = [] ∧ uuid ∈ s.service.loopCtx.discovering :=
    ⟨_, _, _, _, _, _, run_partial_iff.mpr rfl, rfl, rfl, run_partial_iff.mpr rfl, rfl, rfl, rfl,
      run_partial_iff.mpr rfl, rfl, rfl, rfl, rfl, by decide +kernel⟩
  obtain ⟨s₀, s₁, s₂, s₃, s₄, s, hrun₀, hevent₀, hstep₀, hrun₁, hevent₁, hpending₁, hstep₁, hrun₂,
    hevent₂, hstep₂, hpc, hpending, hmem⟩ := hrun
  have hguarded : ∀ {t t' : Issued ℕ (DenseVec GenericFilter)} {l : List Label},
      Run (Partial (step .total)) t l t' → (∀ a ∈ l, a ≠ .event) →
        Run (Guarded (Partial (step .total)) Answers) t l t' :=
    fun h hl => (run_of_ne_event h hl).of_guarded
  refine ⟨s, ?_, hpc, hpending, fun hexact => ?_⟩
  · have hrun₀ := hguarded hrun₀ (by decide)
    have hrun₁ := hguarded hrun₁ (by decide)
    have hrun₂ := hguarded hrun₂ (by decide)
    refine .snoc ((Run.snoc ((Run.snoc hrun₀ ⟨fun _ => ?_, hstep₀⟩).append hrun₁)
      ⟨fun _ => ?_, hstep₁⟩).append hrun₂) ⟨fun _ => ?_, hstep₂⟩
    · rw [hevent₀]
      intro uuid' huuid'
      cases huuid'
    · rw [hevent₁, hpending₁]
      intro uuid' huuid'
      cases huuid'
      exact List.mem_singleton.mpr rfl
    · rw [hevent₂]
      intro uuid' huuid'
      cases huuid'
  · have hnot := (hexact uuid).mp hmem
    rw [hpending] at hnot
    cases hnot

end Issued

end BleWsCentral.Mesh
