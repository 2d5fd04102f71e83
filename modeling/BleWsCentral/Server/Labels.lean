import BleWsCentral.Server.Update

/-!
# Labels under concurrent requests

The handlers of `change_label` and the update task run at the same time, and both change `id_db` and
the sensors in memory, each in two steps.

* `Tasks` — the context, the requests with how far each of them got, and where the update task is. A
  step is one of the atomic parts of a handler or of the loop body of `update`.
* `Ordered` — the steps in memory come in the order of the commits: a request changes the label in
  memory only before the ones for the same sensor that committed later have done so, and the update
  task adds a sensor to memory only before a request for it has tried to change its label there.
* `LabelInv` — the invariant of such runs: a label in memory is the stored one, unless the request that
  stored it has yet to change it in memory.
* `labels_agree` — when nothing is in flight, the labels agree, and so do the overviews made of them.
-/

namespace BleWsCentral.Server

open BleWsCentral.Found

/-! ## The machine -/

/-- How far a request got. The stamp of a request that committed is its position among the commits. -/
inductive RequestPhase
  | started
  | checked (id : Uuid)
  | written (id : Uuid) (stamp : ℕ)
  | finished (id : Uuid) (stamp : ℕ)
  | refused (status : Status)
deriving DecidableEq

/-- A `change_label` request. -/
structure LabelRequest where
  req : ChangeLabelRequest
  phase : RequestPhase

/-- Where the update task is. -/
inductive UpdatePhase
  | idle
  | reading (faults : Faults) (item : UpdateItem)
  | memorizing (faults : Faults) (item : UpdateItem) (newSensors : List Uuid)
  | logging (faults : Faults) (item : UpdateItem)
  | applying (item : UpdateItem)
  | ended

/-- The tasks that run at the same time; `commits` are the committed labels, the oldest first. -/
structure Tasks where
  ctx : Context
  requests : List LabelRequest
  update : UpdatePhase
  commits : List (Uuid × Option String)

/-- An atomic step. -/
inductive TaskStep
  /-- A request arrives. -/
  | request (req : ChangeLabelRequest)
  /-- The existence check of a request. -/
  | check (r : ℕ) (faults : Faults)
  /-- The committed write transaction of a request. -/
  | write (r : ℕ) (faults : Faults)
  /-- The `modify_sensors` of a request. -/
  | modify (r : ℕ)
  /-- The sources yield a batch. -/
  | batch (faults : Faults) (item : UpdateItem)
  | memorizeRead
  | memorizeWrite
  | log
  | apply

namespace Tasks

/-- The tasks of a server that was just started. -/
def init (ctx : Context) : Tasks where
  ctx := ctx
  requests := []
  update := .idle
  commits := []

/-- A request gets further. -/
def setPhase (s : Tasks) (r : ℕ) (req : ChangeLabelRequest) (phase : RequestPhase) : Tasks :=
  { s with requests := s.requests.set r { req, phase } }

/-- The steps of the requests and of the update task. -/
def step (s : Tasks) : TaskStep → Option Tasks
  | .request req => some { s with requests := s.requests ++ [{ req, phase := .started }] }
  | .check r faults =>
      match s.requests[r]? with
      | some ⟨req, .started⟩ =>
          match s.ctx.changeLabelCheck faults req with
          | .error status => some (s.setPhase r req (.refused status))
          | .ok id => some (s.setPhase r req (.checked id))
      | _ => none
  | .write r faults =>
      match s.requests[r]? with
      | some ⟨req, .checked id⟩ =>
          match s.ctx.changeLabelWrite faults id req.label with
          | .error status => some (s.setPhase r req (.refused status))
          | .ok ctx =>
              some { s.setPhase r req (.written id s.commits.length) with
                ctx, commits := s.commits ++ [(id, req.label)] }
      | _ => none
  | .modify r =>
      match s.requests[r]? with
      | some ⟨req, .written id stamp⟩ =>
          some { s.setPhase r req (.finished id stamp) with
            ctx := s.ctx.changeLabelModify id req.label }
      | _ => none
  | .batch faults item =>
      match s.update with
      | .idle => some { s with update := .reading faults item }
      | _ => none
  | .memorizeRead =>
      match s.update with
      | .reading faults item =>
          match memorizeRead faults s.ctx.db item with
          | .error _ => some { s with update := .ended }
          | .ok newSensors => some { s with update := .memorizing faults item newSensors }
      | _ => none
  | .memorizeWrite =>
      match s.update with
      | .memorizing faults item newSensors =>
          match memorizeWrite faults s.ctx.db newSensors with
          | .error _ => some { s with update := .ended }
          | .ok db => some { s with ctx := { s.ctx with db }, update := .logging faults item }
      | _ => none
  | .log =>
      match s.update with
      | .logging faults item =>
          match logBatch faults s.ctx.db item with
          | .error _ => some { s with update := .ended }
          | .ok db => some { s with ctx := { s.ctx with db }, update := .applying item }
      | _ => none
  | .apply =>
      match s.update with
      | .applying item =>
          some { s with ctx := s.ctx.modifySensors (applyBatch item), update := .idle }
      | _ => none

end Tasks

/-- Whether a request was answered. -/
def RequestPhase.done : RequestPhase → Bool
  | .finished .. => true
  | .refused _ => true
  | _ => false

/-- Whether no batch is in flight. -/
def UpdatePhase.done : UpdatePhase → Bool
  | .idle => true
  | .ended => true
  | _ => false

/-- No request and no batch is in flight. -/
def Tasks.quiescent (s : Tasks) : Bool := s.requests.all (·.phase.done) && s.update.done

/-- The steps in memory come in the order of the commits. -/
def Tasks.Ordered (s : Tasks) : TaskStep → Prop
  | .modify r => ∀ req id stamp, s.requests[r]? = some ⟨req, .written id stamp⟩ →
      ∀ (i : ℕ) (e : LabelRequest) (stamp' : ℕ), s.requests[i]? = some e →
        e.phase = .finished id stamp' → stamp' < stamp
  | .apply => ∀ item, s.update = .applying item →
      ∀ id, id ∈ item → s.ctx.sensors[id]? = none →
        ∀ (i : ℕ) (e : LabelRequest) (stamp : ℕ), s.requests[i]? = some e →
          e.phase ≠ .finished id stamp
  | _ => True

/-! ## Commits -/

/-- The commit of a request, with its stamp. -/
def RequestPhase.commit : RequestPhase → Option (Uuid × ℕ)
  | .written id stamp => some (id, stamp)
  | .finished id stamp => some (id, stamp)
  | _ => none

/-- An entry of a list to which one more was added. -/
theorem getElem?_concat_eq_some {α : Type} {l : List α} {a b : α} {j : ℕ} :
    (l ++ [a])[j]? = some b ↔ l[j]? = some b ∨ j = l.length ∧ a = b := by
  rcases Nat.lt_trichotomy j l.length with h | rfl | h
  · simp [List.getElem?_append_left h, h.ne]
  · simp
  · simp [List.getElem?_append_right h.le, List.getElem?_eq_none h.le, h.ne',
      Nat.sub_ne_zero_of_lt h]

/-- No commit for `id` comes after the one at `stamp`. -/
def IsLast (commits : List (Uuid × Option String)) (id : Uuid) (stamp : ℕ) : Prop :=
  ∀ (j : ℕ) label, commits[j]? = some (id, label) → j ≤ stamp

/-- A commit is the last one for its sensor. -/
theorem isLast_concat_self (commits : List (Uuid × Option String)) (c : Uuid × Option String)
    (id : Uuid) : IsLast (commits ++ [c]) id commits.length := by
  intro j label hj
  have := (List.getElem?_eq_some_iff.mp hj).1
  rw [List.length_append, List.length_singleton] at this
  omega

/-- A commit for another sensor changes nothing. -/
theorem isLast_concat_of_ne {commits : List (Uuid × Option String)} {c : Uuid × Option String}
    {id : Uuid} {stamp : ℕ} (h : IsLast commits id stamp) (hc : c.1 ≠ id) :
    IsLast (commits ++ [c]) id stamp := by
  intro j label hj
  rcases getElem?_concat_eq_some.mp hj with hj | ⟨-, rfl⟩
  · exact h j label hj
  · exact absurd rfl hc

/-- If there is a commit for a sensor, there is a last one. -/
theorem exists_isLast {commits : List (Uuid × Option String)} {id : Uuid} {label : Option String}
    (h : (id, label) ∈ commits) :
    ∃ (stamp : ℕ) (label : Option String), commits[stamp]? = some (id, label) ∧
      IsLast commits id stamp := by
  induction commits using List.reverseRecOn with
  | nil => cases h
  | append_singleton commits c ih =>
      by_cases hc : c.1 = id
      · exact ⟨commits.length, c.2, by simp [← hc], isLast_concat_self commits c id⟩
      · have hmem : (id, label) ∈ commits := by
          rcases List.mem_append.mp h with hmem | hmem
          · exact hmem
          · rw [List.mem_singleton] at hmem
            exact absurd (hmem ▸ rfl) hc
        obtain ⟨stamp, label', hstamp, hlast⟩ := ih hmem
        exact ⟨stamp, label', getElem?_concat_eq_some.mpr (.inl hstamp), isLast_concat_of_ne hlast hc⟩

/-! ## The invariant -/

/-- What holds in every state of a run whose steps are ordered. -/
structure LabelInv (s : Tasks) : Prop where
  /-- The commit of a request is among the commits, with its label. -/
  owned : ∀ (i : ℕ) (e : LabelRequest), s.requests[i]? = some e → ∀ id stamp,
    e.phase.commit = some (id, stamp) → s.commits[stamp]? = some (id, e.req.label)
  /-- Every commit is that of a request. -/
  owner : ∀ (stamp : ℕ) id label, s.commits[stamp]? = some (id, label) →
    ∃ (i : ℕ) (e : LabelRequest), s.requests[i]? = some e ∧ e.phase.commit = some (id, stamp)
  /-- The stored label is that of the last commit. -/
  stored : ∀ (stamp : ℕ) id label, s.commits[stamp]? = some (id, label) →
    IsLast s.commits id stamp → s.ctx.storedLabel id = label
  /-- A label in memory is the stored one, or the last commit has yet to get there. -/
  agree : ∀ (id : Uuid) (sensor : Sensor), s.ctx.sensors[id]? = some sensor →
    s.ctx.storedLabel id = sensor.label ∨ ∃ (i : ℕ) (e : LabelRequest) (stamp : ℕ),
      s.requests[i]? = some e ∧ e.phase = .written id stamp ∧ IsLast s.commits id stamp
  /-- A sensor that is not in memory has no label, unless there was a commit for it. -/
  fresh : ∀ id : Uuid, s.ctx.sensors[id]? = none → (∀ label, (id, label) ∉ s.commits) →
    s.ctx.storedLabel id = none
  /-- A request that passed its check is about a stored sensor. -/
  known : ∀ (i : ℕ) (e : LabelRequest) id, s.requests[i]? = some e → e.phase = .checked id →
    (s.ctx.db.env.store.addr[id]?).isSome
  /-- What the update task memorizes is not stored yet. -/
  absent : ∀ faults item newSensors, s.update = .memorizing faults item newSensors →
    newSensors.Nodup ∧ ∀ id ∈ newSensors, s.ctx.db.env.store.addr[id]? = none

namespace LabelInv

variable {s s' : Tasks}

/-- A server that was just started has the stored labels in memory. -/
theorem init {store : Store} {ctx : Context} (h : Context.create store = .ok ctx) :
    LabelInv (Tasks.init ctx) := by
  obtain ⟨-, haddr, -, hsensors⟩ := Context.of_create h
  have hlabel : ∀ id, ctx.storedLabel id = (store.addr[id]?).bind IdDbEntry.label := by
    intro id
    rw [Context.storedLabel, Db.getAddr, Db.readTxn, haddr]
  refine ⟨by simp [Tasks.init], by simp [Tasks.init], by simp [Tasks.init], fun id sensor hid => ?_,
    fun id hid _ => ?_, by simp [Tasks.init], by simp [Tasks.init]⟩
  · simp only [Tasks.init] at hid ⊢
    rw [hsensors] at hid
    obtain ⟨entry, hentry, rfl⟩ := Option.map_eq_some_iff.mp hid
    exact .inl (by simp [hlabel, hentry])
  · simp only [Tasks.init] at hid ⊢
    rw [hsensors, Option.map_eq_none_iff] at hid
    simp [hlabel, hid]

/-- The entries of the requests after one of them got further. -/
theorem getElem?_setPhase {r : ℕ} {req : ChangeLabelRequest} {phase phase' : RequestPhase}
    (hr : s.requests[r]? = some ⟨req, phase⟩) {i : ℕ} {e : LabelRequest} :
    (s.setPhase r req phase').requests[i]? = some e ↔
      i = r ∧ e = ⟨req, phase'⟩ ∨ i ≠ r ∧ s.requests[i]? = some e := by
  have hlt := (List.getElem?_eq_some_iff.mp hr).1
  rw [Tasks.setPhase, List.getElem?_set]
  by_cases hi : r = i
  · subst hi
    simp [hlt, eq_comm]
  · simp [hi, Ne.symm hi]

/-- A request of which the phase is not about a commit, before and after. -/
theorem setPhase (h : LabelInv s) {r : ℕ} {req : ChangeLabelRequest} {phase phase' : RequestPhase}
    (hr : s.requests[r]? = some ⟨req, phase⟩) (hphase : phase.commit = none)
    (hphase' : phase'.commit = none)
    (hknown : ∀ id, phase' = .checked id → (s.ctx.db.env.store.addr[id]?).isSome) :
    LabelInv (s.setPhase r req phase') where
  owned i e he id stamp hcommit := by
    rcases (getElem?_setPhase hr).mp he with ⟨-, rfl⟩ | ⟨-, he⟩
    · rw [hphase'] at hcommit
      cases hcommit
    · exact h.owned i e he id stamp hcommit
  owner stamp id label hc := by
    obtain ⟨i, e, he, hcommit⟩ := h.owner stamp id label hc
    refine ⟨i, e, (getElem?_setPhase hr).mpr (.inr ⟨?_, he⟩), hcommit⟩
    rintro rfl
    obtain rfl := Option.some.inj (hr.symm.trans he)
    rw [hphase] at hcommit
    cases hcommit
  stored := h.stored
  agree id sensor hid := by
    rcases h.agree id sensor hid with hagree | ⟨i, e, stamp, he, hwritten, hlast⟩
    · exact .inl hagree
    · refine .inr ⟨i, e, stamp, (getElem?_setPhase hr).mpr (.inr ⟨?_, he⟩), hwritten, hlast⟩
      rintro rfl
      obtain rfl := Option.some.inj (hr.symm.trans he)
      obtain rfl : phase = .written id stamp := hwritten
      cases hphase
  fresh := h.fresh
  known i e id he hchecked := by
    rcases (getElem?_setPhase hr).mp he with ⟨-, rfl⟩ | ⟨-, he⟩
    · exact hknown id hchecked
    · exact h.known i e id he hchecked
  absent := h.absent

/-- A request arrives. -/
theorem request (h : LabelInv s) (req : ChangeLabelRequest) :
    LabelInv { s with requests := s.requests ++ [⟨req, .started⟩] } where
  owned i e he id stamp hcommit := by
    rcases getElem?_concat_eq_some.mp he with he | ⟨-, rfl⟩
    · exact h.owned i e he id stamp hcommit
    · cases hcommit
  owner stamp id label hc := by
    obtain ⟨i, e, he, hcommit⟩ := h.owner stamp id label hc
    exact ⟨i, e, getElem?_concat_eq_some.mpr (.inl he), hcommit⟩
  stored := h.stored
  agree id sensor hid := by
    rcases h.agree id sensor hid with hagree | ⟨i, e, stamp, he, hwritten, hlast⟩
    · exact .inl hagree
    · exact .inr ⟨i, e, stamp, getElem?_concat_eq_some.mpr (.inl he), hwritten, hlast⟩
  fresh := h.fresh
  known i e id he hchecked := by
    rcases getElem?_concat_eq_some.mp he with he | ⟨-, rfl⟩
    · exact h.known i e id he hchecked
    · cases hchecked
  absent := h.absent

/-- The label of one sensor is stored. -/
theorem storedLabel_write (ctx : Context) (id id' : Uuid) (label : Option String) :
    ({ ctx with db := ctx.db.commit (ctx.db.writeTxn.putAddr id { label }) } : Context).storedLabel id'
      = if id = id' then label else ctx.storedLabel id' := by
  simp only [Context.storedLabel, Db.getAddr, Db.readTxn, Db.commit_store, Store.putAddr_addr,
    Db.writeTxn]
  split <;> rfl

/-- A request commits its label. -/
theorem write (h : LabelInv s) {r : ℕ} {req : ChangeLabelRequest} {id : Uuid}
    (hr : s.requests[r]? = some ⟨req, .checked id⟩) :
    LabelInv { s.setPhase r req (.written id s.commits.length) with
      ctx := { s.ctx with
        db := s.ctx.db.commit (s.ctx.db.writeTxn.putAddr id { label := req.label }) }
      commits := s.commits ++ [(id, req.label)] } where
  owned i e he id' stamp hcommit := by
    rcases (getElem?_setPhase hr).mp he with ⟨-, rfl⟩ | ⟨-, he⟩
    · obtain ⟨rfl, rfl⟩ : id = id' ∧ s.commits.length = stamp := by
        simpa [RequestPhase.commit] using hcommit
      simp
    · exact getElem?_concat_eq_some.mpr (.inl (h.owned i e he id' stamp hcommit))
  owner stamp id' label hc := by
    rcases getElem?_concat_eq_some.mp hc with hc | ⟨rfl, hpair⟩
    · obtain ⟨i, e, he, hcommit⟩ := h.owner stamp id' label hc
      refine ⟨i, e, (getElem?_setPhase hr).mpr (.inr ⟨?_, he⟩), hcommit⟩
      rintro rfl
      obtain rfl := Option.some.inj (hr.symm.trans he)
      cases hcommit
    · obtain ⟨rfl, -⟩ := Prod.mk.inj hpair
      exact ⟨r, _, (getElem?_setPhase hr).mpr (.inl ⟨rfl, rfl⟩), rfl⟩
  stored stamp id' label hc hlast := by
    rw [storedLabel_write]
    by_cases hid : id = id'
    · subst hid
      have hle := hlast s.commits.length req.label (by simp)
      rcases getElem?_concat_eq_some.mp hc with hc | ⟨-, hc⟩
      · exact absurd (List.getElem?_eq_some_iff.mp hc).1 (by omega)
      · simpa using hc
    · rw [if_neg hid]
      rcases getElem?_concat_eq_some.mp hc with hc | ⟨-, hc⟩
      · exact h.stored stamp id' label hc fun j label' hj =>
          hlast j label' (getElem?_concat_eq_some.mpr (.inl hj))
      · exact absurd (Prod.mk.inj hc).1 hid
  agree id' sensor hsensor := by
    by_cases hid : id = id'
    · subst hid
      exact .inr ⟨r, _, s.commits.length, (getElem?_setPhase hr).mpr (.inl ⟨rfl, rfl⟩), rfl,
        isLast_concat_self _ _ _⟩
    · rw [storedLabel_write, if_neg hid]
      rcases h.agree id' sensor hsensor with hagree | ⟨i, e, stamp, he, hwritten, hlast⟩
      · exact .inl hagree
      · refine .inr ⟨i, e, stamp, (getElem?_setPhase hr).mpr (.inr ⟨?_, he⟩), hwritten,
          isLast_concat_of_ne hlast hid⟩
        rintro rfl
        obtain rfl := Option.some.inj (hr.symm.trans he)
        cases hwritten
  fresh id' hsensor hnone := by
    have hid : id ≠ id' := by
      rintro rfl
      exact hnone req.label (by simp)
    rw [storedLabel_write, if_neg hid]
    exact h.fresh id' hsensor fun label hmem => hnone label (List.mem_append_left _ hmem)
  known i e id' he hchecked := by
    have hold : (s.ctx.db.env.store.addr[id']?).isSome := by
      rcases (getElem?_setPhase hr).mp he with ⟨-, rfl⟩ | ⟨-, he⟩
      · cases hchecked
      · exact h.known i e id' he hchecked
    simp only [Db.commit_store, Store.putAddr_addr, Db.writeTxn]
    split
    · rfl
    · exact hold
  absent faults item newSensors hupdate := by
    obtain ⟨hnd, habsent⟩ := h.absent faults item newSensors hupdate
    refine ⟨hnd, fun id' hid' => ?_⟩
    -- a request that committed was about a stored sensor
    have hne : id ≠ id' := by
      rintro rfl
      have hknown := h.known r _ id hr rfl
      rw [habsent id hid'] at hknown
      cases hknown
    simpa [Db.writeTxn, hne] using habsent id' hid'

/-- A request changes the label in memory, after all the finished ones that committed later. -/
theorem modify (h : LabelInv s) {r : ℕ} {req : ChangeLabelRequest} {id : Uuid} {stamp : ℕ}
    (hr : s.requests[r]? = some ⟨req, .written id stamp⟩)
    (hordered : ∀ (i : ℕ) (e : LabelRequest) (stamp' : ℕ), s.requests[i]? = some e →
      e.phase = .finished id stamp' → stamp' < stamp) :
    LabelInv { s.setPhase r req (.finished id stamp) with
      ctx := s.ctx.changeLabelModify id req.label } where
  owned i e he id' stamp' hcommit := by
    rcases (getElem?_setPhase hr).mp he with ⟨-, rfl⟩ | ⟨-, he⟩
    · exact h.owned r _ hr id' stamp' hcommit
    · exact h.owned i e he id' stamp' hcommit
  owner stamp' id' label hc := by
    obtain ⟨i, e, he, hcommit⟩ := h.owner stamp' id' label hc
    by_cases hi : i = r
    · subst hi
      obtain rfl := Option.some.inj (hr.symm.trans he)
      exact ⟨i, _, (getElem?_setPhase hr).mpr (.inl ⟨rfl, rfl⟩), hcommit⟩
    · exact ⟨i, e, (getElem?_setPhase hr).mpr (.inr ⟨hi, he⟩), hcommit⟩
  stored := h.stored
  agree id' sensor hsensor := by
    rw [Context.changeLabelModify, Context.modifySensors_sensors, Context.getElem?_relabel] at hsensor
    by_cases hid : id = id'
    · subst hid
      rw [if_pos rfl] at hsensor
      obtain ⟨sensor, -, rfl⟩ := Option.map_eq_some_iff.mp hsensor
      obtain ⟨last, label, hc, hlast⟩ :=
        exists_isLast (List.mem_of_getElem? (h.owned r _ hr id stamp rfl))
      by_cases heq : last = stamp
      · subst heq
        exact .inl (h.stored last id _ (h.owned r _ hr id last rfl) hlast)
      · -- a later commit was not finished before, so its request is still to come
        obtain ⟨i, e, he, hcommit⟩ := h.owner last id label hc
        have hle : stamp ≤ last := hlast stamp _ (h.owned r _ hr id stamp rfl)
        have hne : i ≠ r := by
          rintro rfl
          obtain rfl := Option.some.inj (hr.symm.trans he)
          exact heq (by simpa [RequestPhase.commit, eq_comm] using hcommit)
        refine .inr ⟨i, e, last, (getElem?_setPhase hr).mpr (.inr ⟨hne, he⟩), ?_, hlast⟩
        obtain ⟨req', phase'⟩ := e
        cases phase' with
        | written id' stamp' => simpa [RequestPhase.commit] using hcommit
        | finished id' stamp' =>
            obtain ⟨rfl, rfl⟩ : id' = id ∧ stamp' = last := by
              simpa [RequestPhase.commit] using hcommit
            have := hordered i _ stamp' he rfl
            omega
        | started => cases hcommit
        | checked id' => cases hcommit
        | refused status => cases hcommit
    · rw [if_neg hid] at hsensor
      rcases h.agree id' sensor hsensor with hagree | ⟨i, e, stamp', he, hwritten, hlast⟩
      · exact .inl hagree
      · refine .inr ⟨i, e, stamp', (getElem?_setPhase hr).mpr (.inr ⟨?_, he⟩), hwritten, hlast⟩
        rintro rfl
        obtain rfl := Option.some.inj (hr.symm.trans he)
        cases hwritten
        exact hid rfl
  fresh id' hsensor hnone := by
    refine h.fresh id' ?_ hnone
    rw [Context.changeLabelModify, Context.modifySensors_sensors, Context.getElem?_relabel] at hsensor
    split at hsensor
    · exact Option.map_eq_none_iff.mp hsensor
    · exact hsensor
  known i e id' he hchecked := by
    rcases (getElem?_setPhase hr).mp he with ⟨-, rfl⟩ | ⟨-, he⟩
    · cases hchecked
    · exact h.known i e id' he hchecked
  absent := h.absent

/-- A step of the update task that leaves the labels alone. -/
theorem advance (h : LabelInv s) {ctx : Context} {update : UpdatePhase}
    (hlabel : ∀ id, ctx.storedLabel id = s.ctx.storedLabel id)
    (hsensors : ctx.sensors = s.ctx.sensors)
    (hknown : ∀ id : Uuid, (s.ctx.db.env.store.addr[id]?).isSome → (ctx.db.env.store.addr[id]?).isSome)
    (habsent : ∀ faults item newSensors, update = .memorizing faults item newSensors →
      newSensors.Nodup ∧ ∀ id ∈ newSensors, ctx.db.env.store.addr[id]? = none) :
    LabelInv { s with ctx, update } where
  owned := h.owned
  owner := h.owner
  stored stamp id label hc hlast := (hlabel id).trans (h.stored stamp id label hc hlast)
  agree id sensor hsensor := by
    simp only at hsensor ⊢
    rw [hlabel]
    exact h.agree id sensor (hsensors ▸ hsensor)
  fresh id hsensor hnone := by
    simp only at hsensor ⊢
    rw [hlabel]
    exact h.fresh id (hsensors ▸ hsensor) hnone
  known i e id he hchecked := hknown id (h.known i e id he hchecked)
  absent := habsent

/-- The update task puts a batch into memory; it adds a sensor before a request for it has tried to
change its label there. -/
theorem apply (h : LabelInv s) {item : UpdateItem}
    (hordered : ∀ id, id ∈ item → s.ctx.sensors[id]? = none →
      ∀ (i : ℕ) (e : LabelRequest) (stamp : ℕ), s.requests[i]? = some e →
        e.phase ≠ .finished id stamp) :
    LabelInv { s with ctx := s.ctx.modifySensors (applyBatch item), update := .idle } where
  owned := h.owned
  owner := h.owner
  stored := h.stored
  agree id sensor hsensor := by
    rw [Context.modifySensors_sensors, getElem?_applyBatch] at hsensor
    cases hitem : item[id]? with
    | none =>
        rw [hitem] at hsensor
        exact h.agree id sensor hsensor
    | some state =>
        rw [hitem] at hsensor
        cases hsensor
        cases hold : s.ctx.sensors[id]? with
        | some sensor => exact h.agree id sensor hold
        | none =>
            by_cases hcommits : ∃ label, (id, label) ∈ s.commits
            · obtain ⟨label, hmem⟩ := hcommits
              obtain ⟨last, label, hc, hlast⟩ := exists_isLast hmem
              obtain ⟨i, e, he, hcommit⟩ := h.owner last id label hc
              refine .inr ⟨i, e, last, he, ?_, hlast⟩
              have hnot := hordered id (by
                rw [Std.ExtTreeMap.mem_iff_isSome_getElem?, hitem]
                rfl) hold i e last he
              obtain ⟨req, phase⟩ := e
              cases phase with
              | written id' stamp => simpa [RequestPhase.commit] using hcommit
              | finished id' stamp =>
                  obtain ⟨rfl, rfl⟩ : id' = id ∧ stamp = last := by
                    simpa [RequestPhase.commit] using hcommit
                  exact absurd rfl hnot
              | started => cases hcommit
              | checked id' => cases hcommit
              | refused status => cases hcommit
            · exact .inl (h.fresh id hold fun label hmem => hcommits ⟨label, hmem⟩)
  fresh id hsensor hnone := by
    refine h.fresh id ?_ hnone
    rw [Context.modifySensors_sensors, getElem?_applyBatch] at hsensor
    split at hsensor
    · cases hsensor
    · exact hsensor
  known := h.known
  absent _ _ _ hupdate := by cases hupdate

/-- Every ordered step keeps the invariant. -/
theorem step (h : LabelInv s) {a : TaskStep} (hordered : s.Ordered a) (hstep : s.step a = some s') :
    LabelInv s' := by
  cases a with
  | request req =>
      cases hstep
      exact h.request req
  | check r faults =>
      simp only [Tasks.step] at hstep
      split at hstep
      · rename_i req hr
        split at hstep
        · cases hstep
          exact h.setPhase hr rfl rfl fun _ hphase => by cases hphase
        · rename_i id hcheck
          cases hstep
          apply h.setPhase hr rfl rfl
          rintro id' ⟨⟩
          exact (Context.of_changeLabelCheck hcheck).2
      · cases hstep
  | write r faults =>
      simp only [Tasks.step] at hstep
      split at hstep
      · rename_i req id hr
        split at hstep
        · cases hstep
          exact h.setPhase hr rfl rfl fun _ hphase => by cases hphase
        · rename_i ctx hwrite
          cases hstep
          rw [Context.of_changeLabelWrite hwrite]
          exact h.write hr
      · cases hstep
  | modify r =>
      simp only [Tasks.step] at hstep
      split at hstep
      · rename_i req id stamp hr
        cases hstep
        exact h.modify hr (hordered req id stamp hr)
      · cases hstep
  | batch faults item =>
      simp only [Tasks.step] at hstep
      split at hstep
      · cases hstep
        exact h.advance (fun _ => rfl) rfl (fun _ hid => hid) fun _ _ _ hupdate => by cases hupdate
      · cases hstep
  | memorizeRead =>
      simp only [Tasks.step] at hstep
      split at hstep
      · split at hstep
        · cases hstep
          exact h.advance (fun _ => rfl) rfl (fun _ hid => hid) fun _ _ _ hupdate => by cases hupdate
        · rename_i hread
          cases hstep
          refine h.advance (fun _ => rfl) rfl (fun _ hid => hid) ?_
          rintro faults' item' newSensors' ⟨⟩
          exact ⟨nodup_of_memorizeRead hread, fun id hid => ((mem_of_memorizeRead hread).mp hid).2⟩
      · cases hstep
  | memorizeWrite =>
      simp only [Tasks.step] at hstep
      split at hstep
      · rename_i hupdate
        split at hstep
        · cases hstep
          exact h.advance (fun _ => rfl) rfl (fun _ hid => hid) fun _ _ _ hupdate => by cases hupdate
        · rename_i db hwrite
          cases hstep
          obtain ⟨hnd, habsent⟩ := h.absent _ _ _ hupdate
          obtain ⟨-, -, haddr⟩ := of_memorizeWrite hnd hwrite
          refine h.advance (fun id => ?_) rfl (fun id hid => ?_) fun _ _ _ hupdate => by cases hupdate
          · -- a default entry has no label, like no entry
            simp only [Context.storedLabel, Db.getAddr, Db.readTxn, haddr]
            split
            · rename_i hnew
              simp [habsent id hnew]
            · rfl
          · rw [haddr]
            split
            · rfl
            · exact hid
      · cases hstep
  | log =>
      simp only [Tasks.step] at hstep
      split at hstep
      · split at hstep
        · cases hstep
          exact h.advance (fun _ => rfl) rfl (fun _ hid => hid) fun _ _ _ hupdate => by cases hupdate
        · rename_i db hlog
          cases hstep
          obtain ⟨-, haddr, -⟩ := of_logBatch hlog
          refine h.advance (fun id => ?_) rfl (fun id hid => ?_) fun _ _ _ hupdate => by cases hupdate
          · simp only [Context.storedLabel, Db.getAddr, Db.readTxn, haddr]
          · rwa [haddr]
      · cases hstep
  | apply =>
      simp only [Tasks.step] at hstep
      split at hstep
      · rename_i item hupdate
        cases hstep
        exact h.apply (hordered item hupdate)
      · cases hstep

end LabelInv

/-- Every run whose steps are ordered keeps the invariant. -/
theorem labelInv_run {store : Store} {ctx : Context} (hcreate : Context.create store = .ok ctx)
    {steps : List TaskStep} {s : Tasks}
    (hrun : Run (Guarded (Partial Tasks.step) Tasks.Ordered) (Tasks.init ctx) steps s) : LabelInv s :=
  hrun.invariant (fun _ _ _ h hstep => h.step hstep.1 hstep.2) (LabelInv.init hcreate)

/-- **Agreement of labels.** In every run in which the steps in memory come in the order of the commits,
in every state in which neither a request nor a batch is in flight, the sensors in memory have their
stored labels; so the overview is what the subscribers are sent. -/
theorem labels_agree {store : Store} {ctx : Context} (hcreate : Context.create store = .ok ctx)
    {steps : List TaskStep} {s : Tasks}
    (hrun : Run (Guarded (Partial Tasks.step) Tasks.Ordered) (Tasks.init ctx) steps s)
    (hquiescent : s.quiescent = true) :
    (∀ (id : Uuid) (sensor : Sensor), s.ctx.sensors[id]? = some sensor →
      s.ctx.storedLabel id = sensor.label) ∧
    s.ctx.overview .none = .ok (createOverviewResponse s.ctx.sensors) := by
  have hinv := labelInv_run hcreate hrun
  have hagree : ∀ (id : Uuid) (sensor : Sensor), s.ctx.sensors[id]? = some sensor →
      s.ctx.storedLabel id = sensor.label := by
    intro id sensor hsensor
    rcases hinv.agree id sensor hsensor with hagree | ⟨i, e, stamp, he, hwritten, -⟩
    · exact hagree
    · rw [Tasks.quiescent, Bool.and_eq_true, List.all_eq_true] at hquiescent
      have hdone := hquiescent.1 e (List.mem_of_getElem? he)
      rw [hwritten] at hdone
      cases hdone
  exact ⟨hagree, Context.overview_eq hagree⟩

/-- A step that changes the sensors in memory. -/
def TaskStep.inMemory : TaskStep → Bool
  | .modify _ | .apply => true
  | _ => false

/-- The other steps are ordered. -/
theorem Tasks.run_of_not_inMemory {s s' : Tasks} {l : List TaskStep} (h : Run (Partial Tasks.step) s l s')
    (hl : ∀ a ∈ l, a.inMemory = false) : Run (Guarded (Partial Tasks.step) Tasks.Ordered) s l s' := by
  apply h.guarded_of_forall
  intro a ha s
  have ha := hl a ha
  cases a with
  | modify | apply => cases ha
  | _ => trivial

/-- A request that is not behind one that is finished is ordered. -/
theorem Tasks.ordered_modify {s : Tasks} {r : ℕ} {phases : List RequestPhase}
    (hphases : s.requests.map LabelRequest.phase = phases)
    (h : ∀ id stamp, phases[r]? = some (.written id stamp) →
      ∀ stamp', RequestPhase.finished id stamp' ∈ phases → stamp' < stamp) : s.Ordered (.modify r) := by
  subst hphases
  intro req id stamp hr i e stamp' he hfinished
  refine h id stamp ?_ stamp' ?_
  · rw [List.getElem?_map, hr]
    rfl
  · rw [← hfinished]
    exact List.mem_map_of_mem (List.mem_of_getElem? he)

/-- A batch is ordered if the sensors of the requests that are finished are in memory. -/
theorem Tasks.ordered_apply {s : Tasks} {phases : List RequestPhase}
    (hphases : s.requests.map LabelRequest.phase = phases)
    (h : ∀ id stamp, RequestPhase.finished id stamp ∈ phases → id ∈ s.ctx.sensors) : s.Ordered .apply := by
  subst hphases
  intro item _ id _ hnone i e stamp he hfinished
  have hmem := h id stamp (hfinished ▸ List.mem_map_of_mem (List.mem_of_getElem? he))
  rw [Std.ExtTreeMap.mem_iff_isSome_getElem?, hnone] at hmem
  cases hmem

/-- Two requests for sensor 3 that are committed, and between their steps those of a batch of this sensor and a
new one. -/
def twoCommits : List TaskStep :=
  [.request ⟨some 3, some "cellar"⟩, .request ⟨some 3, some "attic"⟩, .check 0 .none, .check 1 .none,
    .batch .none (((∅ : UpdateItem).insert 3 (.connected ⟨100, 21, 7, 50⟩)).insert 7 .unconnected),
    .memorizeRead, .write 0 .none, .memorizeWrite, .write 1 .none]

/-- The theorem for these requests, which finish in the order of their commits, before the batch is applied. -/
theorem labels_agree_two_requests :
    ∃ (ctx : Context) (s : Tasks),
      Context.create ⟨(∅ : BTreeMap Uuid IdDbEntry).insert 3 {}, ∅⟩ = .ok ctx ∧
        Run (Partial Tasks.step) (Tasks.init ctx) (twoCommits ++ [.modify 0] ++ [.log] ++ [.modify 1] ++ [.apply]) s ∧
        s.ctx.storedLabel 3 = some "attic" ∧ (7 : Uuid) ∈ s.ctx.sensors ∧
        (∀ (id : Uuid) (sensor : Sensor), s.ctx.sensors[id]? = some sensor →
          s.ctx.storedLabel id = sensor.label) ∧
        s.ctx.overview .none = .ok (createOverviewResponse s.ctx.sensors) := by
  have hexec : ∃ (ctx : Context) (s₁ s₂ s₃ s₄ s : Tasks),
      Context.create ⟨(∅ : BTreeMap Uuid IdDbEntry).insert 3 {}, ∅⟩ = .ok ctx ∧
        Run (Partial Tasks.step) (Tasks.init ctx) twoCommits s₁ ∧
        s₁.requests.map LabelRequest.phase = [.written 3 0, .written 3 1] ∧ s₁.step (.modify 0) = some s₂ ∧
        s₂.step .log = some s₃ ∧
        s₃.requests.map LabelRequest.phase = [.finished 3 0, .written 3 1] ∧ s₃.step (.modify 1) = some s₄ ∧
        s₄.requests.map LabelRequest.phase = [.finished 3 0, .finished 3 1] ∧ (3 : Uuid) ∈ s₄.ctx.sensors ∧
        s₄.step .apply = some s ∧ s.quiescent = true ∧ s.ctx.storedLabel 3 = some "attic" ∧
        (7 : Uuid) ∈ s.ctx.sensors :=
    ⟨_, _, _, _, _, _, rfl, run_partial_iff.mpr rfl, rfl, rfl, rfl, rfl, rfl, rfl, by decide +kernel, rfl, rfl,
      by decide +kernel, by decide +kernel⟩
  obtain ⟨ctx, s₁, s₂, s₃, s₄, s, hcreate, hrun, hphases₁, hfirst, hlog, hphases₃, hsecond, hphases₄, hmem, happly,
    hquiescent, hlabel, hnew⟩ := hexec
  have hguarded := Tasks.run_of_not_inMemory hrun (by decide)
  have hmodify : s₁.Ordered (.modify 0) := Tasks.ordered_modify hphases₁ (by simp)
  have hmodify' : s₃.Ordered (.modify 1) := by
    apply Tasks.ordered_modify hphases₃
    intro id stamp hwritten stamp' hfinished
    cases hwritten
    have hstamp : stamp' = 0 := by simpa using hfinished
    rw [hstamp]
    exact Nat.zero_lt_one
  have hbatch : s₄.Ordered .apply := by
    apply Tasks.ordered_apply hphases₄
    intro id stamp hfinished
    have hid : id = 3 := by
      rcases List.mem_pair.mp hfinished with heq | heq <;> cases heq <;> rfl
    rw [hid]
    exact hmem
  have hguard : s₂.Ordered .log := trivial
  have hlogged := (hguarded.snoc ⟨hmodify, hfirst⟩).snoc ⟨hguard, hlog⟩
  have hordered := (hlogged.snoc ⟨hmodify', hsecond⟩).snoc ⟨hbatch, happly⟩
  exact ⟨ctx, s, hcreate, hordered.of_guarded, hlabel, hnew, labels_agree hcreate hordered hquiescent⟩

/-- Two orders in which the stored label and the one in memory differ for good. Two requests of one
sensor change its label in memory in the other order than they committed. And a request for a sensor
that the update task has stored, but not yet put into memory, finds no sensor there to change. -/
theorem labels_diverge :
    (∃ (ctx : Context) (s : Tasks) (sensor : Sensor),
      Context.create ⟨(∅ : BTreeMap Uuid IdDbEntry).insert 3 {}, ∅⟩ = .ok ctx ∧
        Run (Partial Tasks.step) (Tasks.init ctx)
          [.request ⟨some 3, some "cellar"⟩, .request ⟨some 3, some "attic"⟩, .check 0 .none,
            .check 1 .none, .write 0 .none, .write 1 .none, .modify 1, .modify 0] s ∧
        s.quiescent = true ∧ s.ctx.sensors[(3 : Uuid)]? = some sensor ∧
        s.ctx.storedLabel 3 ≠ sensor.label) ∧
    ∃ (ctx : Context) (s : Tasks) (sensor : Sensor),
      Context.create ⟨∅, ∅⟩ = .ok ctx ∧
        Run (Partial Tasks.step) (Tasks.init ctx)
          [.batch .none ((∅ : UpdateItem).insert 7 .unconnected), .memorizeRead, .memorizeWrite,
            .request ⟨some 7, some "attic"⟩, .check 0 .none, .write 0 .none, .modify 0, .log,
            .apply] s ∧
        s.quiescent = true ∧ s.ctx.sensors[(7 : Uuid)]? = some sensor ∧
        s.ctx.storedLabel 7 ≠ sensor.label := by
  constructor
  · refine ⟨_, _, _, rfl, .cons rfl <| .cons rfl <| .cons rfl <| .cons rfl <| .cons rfl <|
      .cons rfl <| .cons rfl <| .cons rfl <| .nil _, rfl, rfl, ?_⟩
    decide +kernel
  · refine ⟨_, _, _, rfl, .cons rfl <| .cons rfl <| .cons rfl <| .cons rfl <| .cons rfl <|
      .cons rfl <| .cons rfl <| .cons rfl <| .cons rfl <| .nil _, rfl, rfl, ?_⟩
    decide +kernel

end BleWsCentral.Server
