import BleWsCentral.Mesh.MessageQueue

/-!
# Collection windows

The body of the collection task in `LoopCtx::run`: for every trigger a window is opened, the messages
that arrive in it are put into a batch, and the batch is closed by the timeout or by the last sensor.

* `convertMsgToValues` — the reading a message holds, if it is valid.
* `Window` — an open window; `Window.receive` is the branch for a message, `Window.finish` what is sent.
* `Window.lastReading` — what a window is about: the last valid reading of a sensor in it.
  `Window.Sound` says that the batch holds exactly these, and `Sound.receive` that it stays so.
* `Window.Unheard` — the other sensors of the nodes are those that are still waited for.
* `Window.collect` — the loop of a window on the messages that arrive in it, and `collected_batch`, which says
  where the loop ends and that both ends leave one correct entry a sensor.
-/

namespace BleWsCentral.Mesh

/-! ## Readings -/

/-- The errors of `convert_msg_to_values`. -/
inductive ConvertError
  /-- "Invalid BleWsSensorValues payload" -/
  | invalidPayload
  /-- The temperature is not one. -/
  | celsius
  /-- The humidity is not one. -/
  | relativeHumidity
deriving DecidableEq

/-- `convert_msg_to_values`. -/
def convertMsgToValues (units : Units) (msg : GenericMessage) : Except ConvertError SensorValues :=
  match BleWsSensorValues.parsePayload msg.content.payload with
  | none => .error .invalidPayload
  | some values =>
      if units.celsius values.temperature then
        if units.relativeHumidity values.humidity then
          .ok { timestamp := msg.received
                temperature := values.temperature
                pressure := values.pressure
                humidity := values.humidity }
        else .error .relativeHumidity
      else .error .celsius

/-- A reading has the timestamp of its message. -/
theorem timestamp_of_convertMsgToValues {units : Units} {msg : GenericMessage}
    {values : SensorValues} (h : convertMsgToValues units msg = .ok values) :
    values.timestamp = msg.received := by
  unfold convertMsgToValues at h
  split at h
  · cases h
  · split at h
    · split at h
      · cases h
        rfl
      · cases h
    · cases h

/-! ## Windows -/

/-- An open window. The task holds a read guard on the nodes, so they do not change meanwhile. -/
structure Window where
  connected : BTreeMap MeshAddr Uuid
  timedout : Std.ExtTreeSet Uuid
  batch : UpdateItem
  /-- The messages received in it so far. -/
  msgs : List GenericMessage

namespace Window

/-- A new window: no sensor has been heard of. -/
def opened (connected : BTreeMap MeshAddr Uuid) : Window where
  connected
  timedout := .ofList connected.values
  batch := ∅
  msgs := []

/-- What the branch for a message comes to. -/
inductive Received
  /-- `expect("Race condition in getting uuids from connected")` -/
  | panicked
  | waiting (self : Window)
  /-- Nothing is missing any more. -/
  | complete (self : Window)

/-- The branch for a message. -/
def receive (units : Units) (self : Window) (msg : GenericMessage) : Received :=
  match self.connected[msg.sourceAddr]? with
  | none => .panicked
  | some id =>
      match convertMsgToValues units msg with
      | .ok values =>
          let self := { self with
            timedout := self.timedout.erase id
            batch := self.batch.insert id (.connected values)
            msgs := self.msgs ++ [msg] }
          if self.timedout.isEmpty then .complete self else .waiting self
      | .error _ => .waiting { self with msgs := self.msgs ++ [msg] }

/-- A turn of the loop over the sensors that were not heard of. -/
def markUnconnected (batch : UpdateItem) (id : Uuid) : UpdateItem :=
  if id ∈ batch then batch else batch.insert id .unconnected

/-- The batch that is sent when the window is closed. -/
def finish (self : Window) : UpdateItem := self.timedout.toList.foldl markUnconnected self.batch

/-! ### What a batch holds -/

/-- The reading that a message of sensor `id` holds, if it is valid. -/
def readingOf (units : Units) (connected : BTreeMap MeshAddr Uuid) (id : Uuid)
    (msg : GenericMessage) : Option SensorValues :=
  if connected[msg.sourceAddr]? = some id then (convertMsgToValues units msg).toOption else none

/-- The last valid reading of a sensor. -/
def lastReading (units : Units) (self : Window) (id : Uuid) : Option SensorValues :=
  (self.msgs.filterMap (readingOf units self.connected id)).getLast?

/-- The second in which the last valid message of a sensor arrived. -/
def lastArrival (units : Units) (self : Window) (id : Uuid) : Option Timestamp :=
  (self.msgs.filter fun msg => (readingOf units self.connected id msg).isSome).getLast?.map
    GenericMessage.received

/-- The batch holds the last valid reading of every sensor, and nothing else. -/
def Sound (units : Units) (self : Window) : Prop :=
  ∀ id : Uuid, self.batch[id]? = (self.lastReading units id).map .connected

/-- What is left in `timedout` are the sensors of the nodes without a valid reading. -/
def Unheard (units : Units) (self : Window) : Prop :=
  ∀ id : Uuid, id ∈ self.timedout ↔ id ∈ self.connected.values ∧ self.lastReading units id = none

variable {units : Units} {self self' : Window} {msg : GenericMessage}

/-- A reading has the timestamp of its message. -/
theorem timestamp_of_readingOf {connected : BTreeMap MeshAddr Uuid} {id : Uuid}
    {values : SensorValues} (h : readingOf units connected id msg = some values) :
    values.timestamp = msg.received := by
  unfold readingOf at h
  split at h
  · cases hvalues : convertMsgToValues units msg with
    | error e => simp [hvalues, Except.toOption] at h
    | ok values' =>
        rw [hvalues] at h
        cases h
        exact timestamp_of_convertMsgToValues hvalues
  · cases h

/-- The last valid reading has the timestamp of the last valid message. -/
theorem timestamp_lastReading (id : Uuid) :
    (self.lastReading units id).map SensorValues.timestamp = self.lastArrival units id := by
  have hlast : ∀ msgs : List GenericMessage,
      (msgs.filterMap (readingOf units self.connected id)).getLast?.map SensorValues.timestamp =
        (msgs.filter fun msg => (readingOf units self.connected id msg).isSome).getLast?.map
          GenericMessage.received := by
    intro msgs
    induction msgs using List.reverseRecOn with
    | nil => rfl
    | append_singleton msgs msg ih =>
        cases hreading : readingOf units self.connected id msg with
        | none => simpa [hreading] using ih
        | some values => simp [hreading, timestamp_of_readingOf hreading]
  exact hlast self.msgs

theorem lastArrival_mem {id : Uuid} {t : Timestamp} (h : self.lastArrival units id = some t) :
    ∃ msg ∈ self.msgs, msg.received = t := by
  obtain ⟨msg, hmsg, rfl⟩ := Option.map_eq_some_iff.mp h
  exact ⟨msg, List.mem_of_mem_filter (List.mem_of_getLast? hmsg), rfl⟩

/-- A sensor has no reading if no message holds one. -/
theorem lastReading_eq_none {id : Uuid} : self.lastReading units id = none ↔
    ∀ msg ∈ self.msgs, readingOf units self.connected id msg = none := by
  rw [lastReading, List.getLast?_eq_none_iff, List.filterMap_eq_nil_iff]

/-- Readings are those of the sensors of the nodes. -/
theorem mem_values_of_lastReading {id : Uuid} {values : SensorValues}
    (h : self.lastReading units id = some values) : id ∈ self.connected.values := by
  by_contra hnot
  have hnone : self.lastReading units id = none := by
    refine lastReading_eq_none.mpr fun msg _ => if_neg fun hid => hnot ?_
    exact mem_values.mpr ⟨msg.sourceAddr, hid⟩
  cases hnone.symm.trans h

theorem sound_opened (connected : BTreeMap MeshAddr Uuid) : (opened connected).Sound units := by
  intro id
  simp [opened, lastReading]

theorem unheard_opened (connected : BTreeMap MeshAddr Uuid) : (opened connected).Unheard units := by
  intro id
  simp [opened, lastReading, Std.ExtTreeSet.mem_ofList]

/-- The branch for a message that is not a panic: a valid reading goes into the batch. -/
theorem receive_cases (h : self.receive units msg = .waiting self' ∨
    self.receive units msg = .complete self') :
    ∃ id, self.connected[msg.sourceAddr]? = some id ∧
      self'.connected = self.connected ∧ self'.msgs = self.msgs ++ [msg] ∧
      ((∃ values, convertMsgToValues units msg = .ok values ∧
        self'.timedout = self.timedout.erase id ∧
        self'.batch = self.batch.insert id (.connected values)) ∨
      (∃ e, convertMsgToValues units msg = .error e ∧ self'.timedout = self.timedout ∧
        self'.batch = self.batch)) := by
  unfold receive at h
  split at h
  · simp at h
  · rename_i id hid
    refine ⟨id, hid, ?_⟩
    split at h
    · rename_i values hvalues
      simp only at h
      split at h <;> simp only [Received.waiting.injEq, Received.complete.injEq, reduceCtorEq,
        or_false, false_or] at h <;> subst h <;> exact ⟨rfl, rfl, .inl ⟨values, hvalues, rfl, rfl⟩⟩
    · rename_i e herror
      simp only [Received.waiting.injEq, reduceCtorEq, or_false] at h
      subst h
      exact ⟨rfl, rfl, .inr ⟨e, herror, rfl, rfl⟩⟩

/-- A message goes on with the window or completes it, and is one of its messages then. -/
theorem receive_frame (h : self.receive units msg = .waiting self' ∨
    self.receive units msg = .complete self') :
    self'.connected = self.connected ∧ self'.msgs = self.msgs ++ [msg] := by
  obtain ⟨id, -, hconnected, hmsgs, -⟩ := receive_cases h
  exact ⟨hconnected, hmsgs⟩

/-- The last reading is that of the message, if it has one. -/
theorem lastReading_receive (h : self.receive units msg = .waiting self' ∨
    self.receive units msg = .complete self') (id : Uuid) :
    self'.lastReading units id =
      (readingOf units self.connected id msg).or (self.lastReading units id) := by
  obtain ⟨hconnected, hmsgs⟩ := receive_frame h
  rw [lastReading, hconnected, hmsgs, List.filterMap_append, List.getLast?_append]
  cases hreading : readingOf units self.connected id msg <;> simp [hreading, lastReading]

/-- A later reading takes the place of an earlier one. -/
theorem Sound.receive (hsound : self.Sound units) (h : self.receive units msg = .waiting self' ∨
    self.receive units msg = .complete self') : self'.Sound units := by
  intro id
  rw [lastReading_receive h]
  obtain ⟨id', hid', -, -, ⟨values, hvalues, -, hbatch⟩ | ⟨e, herror, -, hbatch⟩⟩ := receive_cases h
  · rw [hbatch, Std.ExtTreeMap.getElem?_insert]
    by_cases heq : id' = id
    · subst heq
      simp [readingOf, hid', hvalues, Except.toOption, Std.ReflOrd.compare_self]
    · have hne : ¬ compare id' id = .eq := fun hc => heq (Std.LawfulEqOrd.compare_eq_iff_eq.mp hc)
      rw [if_neg hne, hsound id]
      simp [readingOf, hid', heq]
  · rw [hbatch, hsound id]
    by_cases heq : id' = id
    · simp [readingOf, hid', heq, herror, Except.toOption]
    · simp [readingOf, hid', heq]

/-- A sensor with a valid reading is not waited for any more. -/
theorem Unheard.receive (hunheard : self.Unheard units)
    (h : self.receive units msg = .waiting self' ∨ self.receive units msg = .complete self') :
    self'.Unheard units := by
  intro id
  rw [lastReading_receive h]
  obtain ⟨id', hid', hconnected, -, ⟨values, hvalues, htimedout, -⟩ | ⟨e, herror, htimedout, -⟩⟩ :=
    receive_cases h
  · rw [htimedout, hconnected, Std.ExtTreeSet.mem_erase, hunheard id]
    by_cases heq : id' = id
    · subst heq
      simp [readingOf, hid', hvalues, Except.toOption, Std.ReflOrd.compare_self]
    · simp [readingOf, hid', heq]
  · rw [htimedout, hconnected, hunheard id]
    by_cases heq : id' = id
    · simp [readingOf, hid', heq, herror, Except.toOption]
    · simp [readingOf, hid', heq]

/-- Marking the sensors that were not heard of leaves the others alone. -/
theorem getElem?_foldl_markUnconnected (ids : List Uuid) (batch : UpdateItem) (id : Uuid) :
    (ids.foldl markUnconnected batch)[id]? =
      (batch[id]?).or (if id ∈ ids then some .unconnected else none) := by
  induction ids generalizing batch with
  | nil => simp
  | cons id' ids ih =>
      rw [List.foldl_cons, ih, markUnconnected]
      by_cases heq : id = id'
      · subst heq
        split
        · rename_i hmem
          obtain ⟨state, hstate⟩ := Option.isSome_iff_exists.mp
            (Std.ExtTreeMap.mem_iff_isSome_getElem?.mp hmem)
          simp [hstate]
        · rename_i hnew
          simp [Std.ExtTreeMap.getElem?_eq_none hnew]
      · split
        · simp [heq]
        · simp [Std.ExtTreeMap.getElem?_insert, heq, Ne.symm heq]

/-- The readings of the batch that is sent. -/
theorem Sound.finish (hsound : self.Sound units) (id : Uuid) (values : SensorValues) :
    self.finish[id]? = some (.connected values) ↔ self.lastReading units id = some values := by
  rw [Window.finish, getElem?_foldl_markUnconnected, hsound id]
  cases self.lastReading units id with
  | none =>
      rw [Option.map_none, Option.none_or]
      split <;> simp
  | some values' => simp

/-! ### The loop of a window -/

/-- The loop of a window on the messages that arrive before the timeout: where it ends, with `waiting` for the
timeout, and the messages it does not read. -/
def collect (units : Units) (self : Window) : List GenericMessage → Received × List GenericMessage
  | [] => (.waiting self, [])
  | msg :: msgs =>
      match self.receive units msg with
      | .panicked => (.panicked, msgs)
      | .waiting self => collect units self msgs
      | .complete self => (.complete self, msgs)

/-- The last message is valid, and every sensor of the nodes has had a valid one. -/
def Completes (units : Units) (connected : BTreeMap MeshAddr Uuid) (msgs : List GenericMessage) : Prop :=
  (∃ msg values, msgs.getLast? = some msg ∧ convertMsgToValues units msg = .ok values) ∧
    ∀ id ∈ connected.values, ∃ msg ∈ msgs, (readingOf units connected id msg).isSome = true

/-- The state of a sensor by its last valid message. -/
def stateOf (units : Units) (connected : BTreeMap MeshAddr Uuid) (msgs : List GenericMessage)
    (id : Uuid) : SensorState :=
  match (msgs.filterMap (readingOf units connected id)).getLast? with
  | some values => .connected values
  | none => .unconnected

/-- Nothing is waited for any more if every sensor of the nodes has had a valid message. -/
theorem Unheard.isEmpty_iff (hunheard : self.Unheard units) :
    self.timedout.isEmpty = true ↔ ∀ id ∈ self.connected.values,
      ∃ msg ∈ self.msgs, (readingOf units self.connected id msg).isSome = true := by
  have hheard : ∀ id, self.lastReading units id ≠ none ↔
      ∃ msg ∈ self.msgs, (readingOf units self.connected id msg).isSome = true := by
    intro id
    rw [Ne, lastReading_eq_none]
    push Not
    simp only [Option.isSome_iff_ne_none]
  rw [Std.ExtTreeSet.isEmpty_iff, Std.ExtTreeSet.eq_empty_iff_forall_not_mem]
  constructor
  · intro hempty id hid
    exact (hheard id).mp fun hnone => hempty id ((hunheard id).mpr ⟨hid, hnone⟩)
  · intro hall id hid
    obtain ⟨hmem, hnone⟩ := (hunheard id).mp hid
    exact (hheard id).mpr (hall id hmem) hnone

/-- A message of a node completes the window if nothing is missing behind it, and otherwise the window goes
on. -/
theorem receive_exit (hunheard : self.Unheard units) (hsource : msg.sourceAddr ∈ self.connected) :
    ∃ self', (self.receive units msg = .complete self' ∧
        Completes units self.connected (self.msgs ++ [msg])) ∨
      (self.receive units msg = .waiting self' ∧
        ¬ Completes units self.connected (self.msgs ++ [msg])) := by
  obtain ⟨id, hid⟩ := Option.isSome_iff_exists.mp (Std.ExtTreeMap.mem_iff_isSome_getElem?.mp hsource)
  cases hvalues : convertMsgToValues units msg with
  | error e =>
      refine ⟨{ self with msgs := self.msgs ++ [msg] }, .inr ⟨?_, ?_⟩⟩
      · simp [receive, hid, hvalues]
      · rintro ⟨⟨msg', values, hlast, hok⟩, -⟩
        obtain rfl : msg = msg' := by simpa using hlast
        rw [hvalues] at hok
        cases hok
  | ok values =>
      let self' : Window := { self with
        timedout := self.timedout.erase id
        batch := self.batch.insert id (.connected values)
        msgs := self.msgs ++ [msg] }
      have hreceive : self.receive units msg =
          if self'.timedout.isEmpty then .complete self' else .waiting self' := by
        simp [receive, hid, hvalues, self']
      have hcases : self.receive units msg = .waiting self' ∨
          self.receive units msg = .complete self' := by
        rw [hreceive]
        split <;> simp
      have hempty := (hunheard.receive hcases).isEmpty_iff
      refine ⟨self', ?_⟩
      by_cases hdone : self'.timedout.isEmpty = true
      · refine .inl ⟨by rw [hreceive, if_pos hdone], ⟨msg, values, by simp, hvalues⟩, ?_⟩
        exact hempty.mp hdone
      · refine .inr ⟨by rw [hreceive, if_neg hdone], fun hcompletes => hdone ?_⟩
        exact hempty.mpr hcompletes.2

/-- What the loop makes of a window that no message has completed so far. -/
theorem of_collect (msgs : List GenericMessage) (hsound : self.Sound units) (hunheard : self.Unheard units)
    (hopen : ∀ before, before <+: self.msgs → ¬ Completes units self.connected before)
    (hsource : ∀ msg ∈ msgs, msg.sourceAddr ∈ self.connected) :
    ∃ (self' : Window) (read rest : List GenericMessage), msgs = read ++ rest ∧
      self'.connected = self.connected ∧ self'.msgs = self.msgs ++ read ∧
      self'.Sound units ∧ self'.Unheard units ∧
      (∀ before, before <+: self'.msgs → before ≠ self'.msgs →
        ¬ Completes units self.connected before) ∧
      ((self.collect units msgs = (.complete self', rest) ∧
          Completes units self.connected self'.msgs) ∨
        (self.collect units msgs = (.waiting self', rest) ∧ rest = [] ∧
          ¬ Completes units self.connected self'.msgs)) := by
  induction msgs generalizing self with
  | nil =>
      refine ⟨self, [], [], rfl, rfl, by simp, hsound, hunheard, fun before h _ => hopen before h, ?_⟩
      exact .inr ⟨rfl, rfl, hopen _ (List.prefix_refl _)⟩
  | cons msg msgs ih =>
      rw [List.forall_mem_cons] at hsource
      obtain ⟨self₁, ⟨hreceive, hcompletes⟩ | ⟨hreceive, hwaits⟩⟩ := receive_exit hunheard hsource.1
      · obtain ⟨hconnected, hmsgs⟩ := receive_frame (.inr hreceive)
        refine ⟨self₁, [msg], msgs, rfl, hconnected, hmsgs, hsound.receive (.inr hreceive),
          hunheard.receive (.inr hreceive), ?_, .inl ⟨?_, ?_⟩⟩
        · intro before hbefore hne
          rw [hmsgs] at hbefore hne
          exact hopen before ((List.prefix_concat_iff.mp hbefore).resolve_left hne)
        · simp only [collect, hreceive]
        · rw [hmsgs]
          exact hcompletes
      · obtain ⟨hconnected, hmsgs⟩ := receive_frame (.inl hreceive)
        have hopen₁ : ∀ before, before <+: self₁.msgs → ¬ Completes units self₁.connected before := by
          intro before hbefore
          rw [hmsgs] at hbefore
          rw [hconnected]
          rcases List.prefix_concat_iff.mp hbefore with rfl | hbefore
          · exact hwaits
          · exact hopen before hbefore
        have hsource₁ : ∀ msg ∈ msgs, msg.sourceAddr ∈ self₁.connected := by
          rw [hconnected]
          exact hsource.2
        obtain ⟨self', read, rest, rfl, hconnected', hmsgs', hsound', hunheard', hfirst, hexit⟩ :=
          ih (hsound.receive (.inl hreceive)) (hunheard.receive (.inl hreceive)) hopen₁ hsource₁
        rw [hconnected] at hconnected' hfirst hexit
        refine ⟨self', msg :: read, rest, rfl, hconnected', ?_, hsound', hunheard', hfirst, ?_⟩
        · rw [hmsgs', hmsgs, List.append_assoc]
          rfl
        · simpa only [collect, hreceive] using hexit

/-- The entries of the batch that is sent. -/
theorem getElem?_finish (hsound : self.Sound units) (hunheard : self.Unheard units) (id : Uuid) :
    self.finish[id]? =
      if id ∈ self.connected.values then some (stateOf units self.connected self.msgs id) else none := by
  have hmem : id ∈ self.timedout.toList ↔ id ∈ self.timedout := Std.ExtTreeSet.mem_toList
  have hstate : stateOf units self.connected self.msgs id =
      match self.lastReading units id with
      | some values => .connected values
      | none => .unconnected := rfl
  rw [Window.finish, getElem?_foldl_markUnconnected, hsound id, hstate]
  simp only [hmem, hunheard id]
  cases hlast : self.lastReading units id with
  | none => simp
  | some values => simp [mem_values_of_lastReading hlast]

/-- The batch that is sent says of the sensors of the nodes, and of no other, if they were heard. -/
theorem Unheard.finish (hunheard : self.Unheard units) (hsound : self.Sound units) (id : Uuid) :
    self.finish[id]? = none ↔ id ∉ self.connected.values := by
  rw [getElem?_finish hsound hunheard]
  split
  · rename_i hmem
    simp [hmem]
  · rename_i hmem
    simp [hmem]

/-- **Windows.** Of the messages of the nodes that arrive before the timeout, a window reads those up to the
first one that completes it, or all of them if none does. The batch it sends has an entry for every sensor of
the nodes, and for no other: the last valid reading of the sensor in the messages that were read, and
`Unconnected` if there is none. -/
theorem collected_batch (units : Units) (connected : BTreeMap MeshAddr Uuid) (msgs : List GenericMessage)
    (hsource : ∀ msg ∈ msgs, msg.sourceAddr ∈ connected) :
    ∃ (self : Window) (read rest : List GenericMessage), msgs = read ++ rest ∧
      (∀ id : Uuid, self.finish[id]? =
        if id ∈ connected.values then some (stateOf units connected read id) else none) ∧
      (∀ before, before <+: read → before ≠ read → ¬ Completes units connected before) ∧
      (((opened connected).collect units msgs = (.complete self, rest) ∧
          Completes units connected read) ∨
        ((opened connected).collect units msgs = (.waiting self, rest) ∧ rest = [] ∧
          ¬ Completes units connected read)) := by
  have hopen : ∀ before, before <+: (opened connected).msgs → ¬ Completes units connected before := by
    rintro before hbefore ⟨⟨msg, values, hlast, -⟩, -⟩
    rw [List.prefix_nil.mp hbefore] at hlast
    cases hlast
  obtain ⟨self, read, rest, hmsgs, hconnected, hread, hsound, hunheard, hfirst, hexit⟩ :=
    of_collect msgs (sound_opened connected) (unheard_opened connected) hopen hsource
  have hread : self.msgs = read := hread
  rw [hread] at hfirst hexit
  refine ⟨self, read, rest, hmsgs, fun id => ?_, hfirst, hexit⟩
  have hentry := getElem?_finish hsound hunheard id
  rwa [hconnected, hread] at hentry

/-- The theorem for two nodes of one sensor, and a message of the second one. -/
theorem collected_batch_shared :
    ∃ (self : Window) (read rest : List GenericMessage),
      [⟨6, 7, .normal, ⟨BleWsSensorValues.opcode, [0, 0, 0, 0, 0, 0, 0, 0]⟩, 0⟩] = read ++ rest ∧
        ∀ id : Uuid, self.finish[id]? =
          if id ∈ (((∅ : BTreeMap MeshAddr Uuid).insert 5 1).insert 6 1).values then
            some (stateOf .total (((∅ : BTreeMap MeshAddr Uuid).insert 5 1).insert 6 1) read id)
          else none := by
  obtain ⟨self, read, rest, hmsgs, hentry, -⟩ :=
    collected_batch .total (((∅ : BTreeMap MeshAddr Uuid).insert 5 1).insert 6 1)
      [⟨6, 7, .normal, ⟨BleWsSensorValues.opcode, [0, 0, 0, 0, 0, 0, 0, 0]⟩, 0⟩] (by simp)
  exact ⟨self, read, rest, hmsgs, hentry⟩

end Window

end BleWsCentral.Mesh
