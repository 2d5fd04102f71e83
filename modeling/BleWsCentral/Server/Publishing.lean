import BleWsCentral.Data
import BleWsCentral.Found.Cursor

/-!
# Publishing

`tasks::mqtt_publish`: in every round the states of the connected sensors are published as JSON.

* `PublishFormats` — what the task relies on of the crates that write numbers and check topic names.
* `toWriter` — `serde_json::to_writer` on a cursor over the buffer, which is used for all sensors and rounds.
* `mqttPublish` — the task, with what it handed to `Connection::publish`.
* `published_iff` — the topics are always right, and the payloads are the JSON of their sensors if and only if
  no JSON is shorter than the one before it: otherwise the end of that one stays in the buffer.
-/

namespace BleWsCentral.Server

open BleWsCentral.Found

/-! ## Topics -/

/-- A digit of an id, the most significant one first. -/
def hexDigit (id : Uuid) (i : ℕ) : Char := Nat.digitChar (id.toNat / 16 ^ (31 - i) % 16)

/-- `Display` for `uuid::Uuid`: hexadecimal digits in groups of 8, 4, 4, 4 and 12. -/
def hyphenated (id : Uuid) : List Char :=
  (List.range 32).flatMap fun i =>
    if i = 8 ∨ i = 12 ∨ i = 16 ∨ i = 20 then ['-', hexDigit id i] else [hexDigit id i]

/-- The topic of a sensor. -/
def topic (id : Uuid) : String := "sensors/weatherstation/" ++ String.ofList (hyphenated id)

/-! ## JSON -/

/-- What is written by other crates. -/
structure PublishFormats where
  /-- `Serialize` for `Timestamp`. -/
  timestamp : Timestamp → List UInt8
  /-- `Serialize` for `Celsius`. -/
  temperature : Int16 → List UInt8
  /-- `Serialize` for `Pascal`. -/
  pressure : UInt32 → List UInt8
  /-- `Serialize` for `RelativeHumidity`. -/
  humidity : UInt16 → List UInt8
  /-- Whether `TopicName::new` accepts a name. -/
  topicName : String → Bool
  /-- Letters, digits, slashes and dashes are accepted in a name that is not too long. -/
  topicName_plain : ∀ name : String, 0 < name.length → name.length < 2 ^ 16 →
    (∀ c ∈ name.toList, c.isAlphanum = true ∨ c = '/' ∨ c = '-') → topicName name = true

/-- The bytes of a text. -/
def utf8 (s : String) : List UInt8 := s.toUTF8.data.toList

/-- `Serialize` for `SensorValues`, as it is derived: what is written to the buffer, one piece at a time. -/
def serialize (F : PublishFormats) (values : SensorValues) : List (List UInt8) :=
  [utf8 "\x7b", utf8 "\"timestamp\":", F.timestamp values.timestamp,
    utf8 ",", utf8 "\"temperature\":", F.temperature values.temperature,
    utf8 ",", utf8 "\"pressure\":", F.pressure values.pressure,
    utf8 ",", utf8 "\"humidity\":", F.humidity values.humidity, utf8 "\x7d"]

/-- The JSON of a reading. -/
def json (F : PublishFormats) (values : SensorValues) : List UInt8 := (serialize F values).flatten

/-- `serde_json::to_writer`, on a cursor over the buffer: what is in the buffer then. -/
def toWriter (F : PublishFormats) (jsonBuf : List UInt8) (values : SensorValues) : List UInt8 :=
  ((Cursor.new jsonBuf).writeAll (serialize F values)).inner

/-! ## The task -/

/-- The buffers of `mqtt_publish`, and the topics and payloads it handed to `Connection::publish`. -/
structure Publisher where
  topicBuf : String
  jsonBuf : List UInt8
  published : List (String × List UInt8)

/-- A turn of the loop over the sensors; `none` is a panic, if the topic name is not accepted. A message that
could not be sent is only logged. -/
def publishSensor (F : PublishFormats) (self : Publisher) (entry : Uuid × Sensor) : Option Publisher :=
  match entry.2.state with
  | .connected values =>
      let topicBuf := topic entry.1
      let jsonBuf := toWriter F self.jsonBuf values
      if F.topicName topicBuf then
        some { topicBuf, jsonBuf, published := self.published ++ [(topicBuf, jsonBuf)] }
      else none
  | .unconnected => some self

/-- A round, on the sensors in the order in which they are visited. -/
def publishRound (F : PublishFormats) (self : Publisher) (sensors : List (Uuid × Sensor)) :
    Option Publisher :=
  sensors.foldlM (publishSensor F) self

/-- `mqtt_publish`, for some rounds. -/
def mqttPublish (F : PublishFormats) (rounds : List (List (Uuid × Sensor))) : Option Publisher :=
  rounds.foldlM (publishRound F) { topicBuf := "", jsonBuf := [], published := [] }

/-- The reading of a connected sensor. -/
def connectedValues (entry : Uuid × Sensor) : Option (Uuid × SensorValues) :=
  match entry.2.state with
  | .connected values => some (entry.1, values)
  | .unconnected => none

/-- The messages that say what the connected sensors measured. -/
def messages (F : PublishFormats) (sensors : List (Uuid × Sensor)) : List (String × List UInt8) :=
  (sensors.filterMap connectedValues).map fun (id, values) => (topic id, json F values)

/-- The lengths of their payloads. -/
def jsonLengths (F : PublishFormats) (sensors : List (Uuid × Sensor)) : List ℕ :=
  (sensors.filterMap connectedValues).map fun (_, values) => (json F values).length

/-! ## What is published -/

theorem length_hyphenated (id : Uuid) : (hyphenated id).length = 36 := by
  have hgroup : ∀ i, (if i = 8 ∨ i = 12 ∨ i = 16 ∨ i = 20 then ['-', hexDigit id i]
      else [hexDigit id i]).length = if i = 8 ∨ i = 12 ∨ i = 16 ∨ i = 20 then 2 else 1 := by
    intro i
    split <;> rfl
  rw [hyphenated, List.length_flatMap]
  simp only [hgroup]
  decide

/-- An id has digits and dashes. -/
theorem mem_hyphenated {id : Uuid} {c : Char} (h : c ∈ hyphenated id) :
    c.isAlphanum = true ∨ c = '-' := by
  have hdigit : ∀ n < 16, (Nat.digitChar n).isAlphanum = true := by decide
  obtain ⟨i, -, hc⟩ := List.mem_flatMap.mp h
  have hcases : c = '-' ∨ c = hexDigit id i := by
    split at hc
    · simpa using hc
    · exact .inr (List.mem_singleton.mp hc)
  rcases hcases with rfl | rfl
  · exact .inr rfl
  · exact .inl (hdigit _ (Nat.mod_lt _ (by decide)))

/-- The topic of a sensor has letters, digits, slashes and dashes. -/
theorem mem_topic {id : Uuid} {c : Char} (h : c ∈ (topic id).toList) :
    c.isAlphanum = true ∨ c = '/' ∨ c = '-' := by
  have hprefix : ∀ c ∈ "sensors/weatherstation/".toList, c.isAlphanum = true ∨ c = '/' ∨ c = '-' := by
    simp
  unfold topic at h
  rw [String.toList_append] at h
  rcases List.mem_append.mp h with h | h
  · exact hprefix c h
  · rw [String.toList_ofList] at h
    exact (mem_hyphenated h).imp_right Or.inr

theorem length_topic (id : Uuid) : (topic id).length = 59 := by
  have hprefix : "sensors/weatherstation/".length = 23 := by
    rw [← String.length_toList]
    simp
  have hid : (String.ofList (hyphenated id)).length = 36 :=
    String.length_ofList.trans (length_hyphenated id)
  unfold topic
  rw [String.length_append, hprefix, hid]

/-- The topic of a sensor is accepted as a name. -/
theorem topicName_topic (F : PublishFormats) (id : Uuid) : F.topicName (topic id) = true := by
  have hlength := length_topic id
  exact F.topicName_plain _ (by omega) (by omega) fun c hc => mem_topic hc

/-- A turn for a connected sensor publishes the contents of the buffer under its topic. -/
theorem publishSensor_connected (F : PublishFormats) (self : Publisher) (id : Uuid)
    (label : Option String) (values : SensorValues) :
    publishSensor F self (id, ⟨label, .connected values⟩) =
      some ⟨topic id, toWriter F self.jsonBuf values,
        self.published ++ [(topic id, toWriter F self.jsonBuf values)]⟩ :=
  if_pos (topicName_topic F id)

/-- A reading is written as it is unless there was something longer in the buffer. -/
theorem toWriter_eq_iff (F : PublishFormats) (jsonBuf : List UInt8) (values : SensorValues) :
    toWriter F jsonBuf values = json F values ↔ jsonBuf.length ≤ (json F values).length :=
  Cursor.writeAll_new_eq_iff

/-- The loop over the sensors publishes a message for each that is connected, under its topic. The payloads are
the JSON of the sensors if none is shorter than the one before it, beginning with what is in the buffer. -/
theorem published_foldlM (F : PublishFormats) (sensors : List (Uuid × Sensor)) (self : Publisher) :
    ∃ self' sent, sensors.foldlM (publishSensor F) self = some self' ∧
      self'.published = self.published ++ sent ∧
      sent.map Prod.fst = (messages F sensors).map Prod.fst ∧
      (sent = messages F sensors ↔
        (self.jsonBuf.length :: jsonLengths F sensors).Pairwise (· ≤ ·)) := by
  induction sensors generalizing self with
  | nil => exact ⟨self, [], rfl, by simp, rfl, by simp [messages, jsonLengths]⟩
  | cons entry sensors ih =>
      obtain ⟨id, label, state⟩ := entry
      cases state with
      | unconnected => exact ih self
      | connected values =>
          obtain ⟨self', sent, hrun, hpublished, htopics, hiff⟩ :=
            ih ⟨topic id, toWriter F self.jsonBuf values,
              self.published ++ [(topic id, toWriter F self.jsonBuf values)]⟩
          have hmessages : messages F ((id, ⟨label, .connected values⟩) :: sensors) =
              (topic id, json F values) :: messages F sensors := rfl
          have hlengths : jsonLengths F ((id, ⟨label, .connected values⟩) :: sensors) =
              (json F values).length :: jsonLengths F sensors := rfl
          refine ⟨self', (topic id, toWriter F self.jsonBuf values) :: sent, ?_, ?_, ?_, ?_⟩
          · rw [List.foldlM_cons, publishSensor_connected]
            exact hrun
          · rw [hpublished, List.append_assoc]
            rfl
          · rw [hmessages, List.map_cons, List.map_cons, htopics]
          · rw [hmessages, hlengths, List.cons.injEq, Prod.mk.injEq, and_iff_right rfl, toWriter_eq_iff,
              List.pairwise_cons_cons_iff_of_trans]
            refine and_congr_right fun hle => hiff.trans ?_
            rw [(toWriter_eq_iff F self.jsonBuf values).mpr hle]

/-- The rounds are one loop over all sensors. -/
theorem foldlM_publishRound (F : PublishFormats) (rounds : List (List (Uuid × Sensor)))
    (self : Publisher) :
    rounds.foldlM (publishRound F) self = rounds.flatten.foldlM (publishSensor F) self := by
  induction rounds generalizing self with
  | nil => rfl
  | cons sensors rounds ih =>
      rw [List.foldlM_cons, List.flatten_cons, List.foldlM_append]
      exact bind_congr ih

/-- **Publishing.** The task publishes, for any sensors in any rounds, one message for each connected sensor in the
order in which they are visited, under its topic. The payloads are the JSON of the sensors if and only if no
JSON is shorter than one that was published before it. -/
theorem published_iff (F : PublishFormats) (rounds : List (List (Uuid × Sensor))) :
    ∃ self, mqttPublish F rounds = some self ∧
      self.published.map Prod.fst = (messages F rounds.flatten).map Prod.fst ∧
      (self.published = messages F rounds.flatten ↔
        (jsonLengths F rounds.flatten).Pairwise (· ≤ ·)) := by
  obtain ⟨self, sent, hrun, hpublished, htopics, hiff⟩ := published_foldlM F rounds.flatten ⟨"", [], []⟩
  rw [List.nil_append] at hpublished
  subst hpublished
  refine ⟨self, (foldlM_publishRound F rounds _).trans hrun, htopics, hiff.trans ?_⟩
  rw [List.pairwise_cons, List.length_nil]
  exact and_iff_right fun _ _ => Nat.zero_le _

/-! ## A format -/

/-- The decimal digits of a number. -/
def decimal (n : ℤ) : List UInt8 := utf8 (toString n)

/-- Numbers in decimal form, and all topic names. -/
def decimalFormats : PublishFormats where
  timestamp n := decimal n.toNat
  temperature n := decimal n.toInt
  pressure n := decimal n.toNat
  humidity n := decimal n.toNat
  topicName _ := true
  topicName_plain _ _ _ _ := rfl

/-- The pressure of a sensor falls from 100000 to 99999, and the second payload has a brace too many. -/
theorem published_brace :
    ∃ self, mqttPublish decimalFormats [[(1, ⟨none, .connected ⟨7, 21, 100000, 40⟩⟩)],
        [(1, ⟨none, .connected ⟨8, 21, 99999, 40⟩⟩)]] = some self ∧
      self.published = [(topic 1, json decimalFormats ⟨7, 21, 100000, 40⟩),
        (topic 1, json decimalFormats ⟨8, 21, 99999, 40⟩ ++ utf8 "\x7d")] ∧
      self.published ≠ messages decimalFormats [(1, ⟨none, .connected ⟨7, 21, 100000, 40⟩⟩),
        (1, ⟨none, .connected ⟨8, 21, 99999, 40⟩⟩)] := by
  have hfirst : toWriter decimalFormats [] ⟨7, 21, 100000, 40⟩ =
      json decimalFormats ⟨7, 21, 100000, 40⟩ := by decide +kernel
  have hsecond : toWriter decimalFormats (json decimalFormats ⟨7, 21, 100000, 40⟩) ⟨8, 21, 99999, 40⟩ =
      json decimalFormats ⟨8, 21, 99999, 40⟩ ++ utf8 "\x7d" := by decide +kernel
  have hbrace : utf8 "\x7d" ≠ [] := by decide +kernel
  have hmessages : messages decimalFormats [(1, ⟨none, .connected ⟨7, 21, 100000, 40⟩⟩),
      (1, ⟨none, .connected ⟨8, 21, 99999, 40⟩⟩)] =
        [(topic 1, json decimalFormats ⟨7, 21, 100000, 40⟩),
          (topic 1, json decimalFormats ⟨8, 21, 99999, 40⟩)] := rfl
  refine ⟨_, rfl, ?_, ?_⟩
  · simp only [hfirst, hsecond, List.nil_append, List.cons_append]
  · simp only [hfirst, hsecond, List.nil_append, List.cons_append, hmessages]
    intro heq
    obtain ⟨-, hlast⟩ := Prod.mk.inj (List.cons.inj (List.cons.inj heq).2).1
    exact hbrace (List.append_right_eq_self.mp hlast)

end BleWsCentral.Server
