import BleWsCentral.Found.Run

/-!
# A sink that is shared

A sink encodes items into a buffer and writes the buffer out in parts. Several parties send items through it,
each of which holds a lock while it does so: it encodes its item, once there is room in the buffer, and goes on
until the buffer is written out, or until writing fails.

* `SharedSink`, `SharedSink.step` — the sink, with the items that were encoded so far and who encoded them.
* `SharedSink.Sound` — only the party that holds the lock is past waiting for it, and what was written with
  what is in the buffer are the encoded items, one after the other.
* `SharedSink.Sent` — a party's items are encoded in the order in which it began to send them, each once; an
  item is left out only if writing failed before there was room for it.
* `SharedSink.exists_finish` — no party waits in vain: as long as what is written is taken, its send can end.
-/

set_option linter.unusedSectionVars false

namespace BleWsCentral.Found

/-- Where a party is in sending an item. -/
inductive Sending (P : Type*)
  /-- It waits for the lock. -/
  | waiting (p : P)
  /-- It has the lock, and looks whether there is room in the buffer. -/
  | ready (p : P)
  /-- It writes out the buffer, to make room. -/
  | draining (p : P)
  /-- It writes out the buffer, with its item. -/
  | flushing
deriving DecidableEq

namespace Sending

variable {P : Type*}

/-- The item that is not encoded yet. -/
def pending : Sending P → List P
  | .waiting p => [p]
  | .ready p => [p]
  | .draining p => [p]
  | .flushing => []

/-- Whether the party has the lock. -/
def holds : Sending P → Bool
  | .waiting _ => false
  | _ => true

/-- Whether the party writes out the buffer. -/
def writes : Sending P → Bool
  | .draining _ => true
  | .flushing => true
  | _ => false

end Sending

/-- A sink of items of type `P`, which are encoded as lists over `β`, shared by the parties of type `ι`. -/
structure SharedSink (ι P β : Type*) where
  holder : Option ι
  sends : ι → Option (Sending P)
  buffer : List β
  wire : List β
  encoded : List (ι × P)

/-- What happens to the sink. -/
inductive SinkStep (ι P : Type*)
  /-- A party begins to send an item. -/
  | start (i : ι) (p : P)
  | acquire (i : ι)
  | drain (i : ι)
  | feed (i : ι)
  /-- Some of the buffer is written out. -/
  | write (i : ι) (n : ℕ)
  | finish (i : ι)
  /-- Writing fails before the item is encoded. -/
  | reject (i : ι)
  /-- Writing fails after that. -/
  | fail (i : ι)
deriving DecidableEq

/-- The party that is done sending after a step, and whether its item was written. -/
def SinkStep.ends {ι P : Type*} : SinkStep ι P → Option (ι × Bool)
  | .finish i => some (i, true)
  | .reject i => some (i, false)
  | .fail i => some (i, false)
  | _ => none

/-- The party that takes a step. -/
def SinkStep.party {ι P : Type*} : SinkStep ι P → ι
  | .start i _ => i
  | .acquire i => i
  | .drain i => i
  | .feed i => i
  | .write i _ => i
  | .finish i => i
  | .reject i => i
  | .fail i => i

namespace SharedSink

variable {ι P β : Type*} [DecidableEq ι]

/-- A sink that was not used. -/
def init : SharedSink ι P β where
  holder := none
  sends _ := none
  buffer := []
  wire := []
  encoded := []

/-- A party gets further. -/
def setSend (s : SharedSink ι P β) (i : ι) (send : Option (Sending P)) : SharedSink ι P β :=
  { s with sends := Function.update s.sends i send }

/-- A party encodes its item. -/
def encodeItem (encode : P → List β) (s : SharedSink ι P β) (i : ι) (p : P) : SharedSink ι P β :=
  { s.setSend i (some .flushing) with
    buffer := s.buffer ++ encode p
    encoded := s.encoded ++ [(i, p)] }

/-- A party is done, and lets go of the lock. -/
def leave (s : SharedSink ι P β) (i : ι) : SharedSink ι P β := { s.setSend i none with holder := none }

/-- The steps; the buffer has room for an item while it is shorter than `boundary`. -/
def step (encode : P → List β) (boundary : ℕ) (s : SharedSink ι P β) :
    SinkStep ι P → Option (SharedSink ι P β)
  | .start i p =>
      match s.sends i with
      | none => some (s.setSend i (some (.waiting p)))
      | some _ => none
  | .acquire i =>
      match s.sends i, s.holder with
      | some (.waiting p), none => some { s.setSend i (some (.ready p)) with holder := some i }
      | _, _ => none
  | .drain i =>
      match s.sends i with
      | some (.ready p) =>
          if boundary ≤ s.buffer.length then some (s.setSend i (some (.draining p))) else none
      | _ => none
  | .feed i =>
      match s.sends i with
      | some (.ready p) => if s.buffer.length < boundary then some (s.encodeItem encode i p) else none
      | some (.draining p) => if s.buffer.length < boundary then some (s.encodeItem encode i p) else none
      | _ => none
  | .write i n =>
      match s.sends i with
      | some send =>
          if send.writes = true ∧ 0 < n ∧ n ≤ s.buffer.length then
            some { s with buffer := s.buffer.drop n, wire := s.wire ++ s.buffer.take n }
          else none
      | none => none
  | .finish i =>
      match s.sends i, s.buffer with
      | some .flushing, [] => some (s.leave i)
      | _, _ => none
  | .reject i =>
      match s.sends i with
      | some (.draining _) => some (s.leave i)
      | _ => none
  | .fail i =>
      match s.sends i with
      | some .flushing => some (s.leave i)
      | _ => none

/-- The items that were encoded, in order. -/
def items (s : SharedSink ι P β) : List P := s.encoded.map Prod.snd

/-- The items of a party that were encoded, in order. -/
def itemsOf (s : SharedSink ι P β) (i : ι) : List P :=
  (s.encoded.filter fun e => e.1 = i).map Prod.snd

/-- The item of a party that is not encoded yet. -/
def pending (s : SharedSink ι P β) (i : ι) : List P := ((s.sends i).map Sending.pending).getD []

variable {encode : P → List β} {boundary : ℕ} {s s' : SharedSink ι P β} {a : SinkStep ι P}

/-! ## What a step does -/

/-- The steps, with what they need. -/
inductive Effect (encode : P → List β) (boundary : ℕ) (s : SharedSink ι P β) :
    SinkStep ι P → SharedSink ι P β → Prop
  | start {i : ι} {p : P} (hfree : s.sends i = none) :
      Effect encode boundary s (.start i p) (s.setSend i (some (.waiting p)))
  | acquire {i : ι} {p : P} (hsend : s.sends i = some (.waiting p)) (hfree : s.holder = none) :
      Effect encode boundary s (.acquire i) { s.setSend i (some (.ready p)) with holder := some i }
  | drain {i : ι} {p : P} (hsend : s.sends i = some (.ready p)) :
      Effect encode boundary s (.drain i) (s.setSend i (some (.draining p)))
  | feed {i : ι} {p : P} {send : Sending P} (hsend : s.sends i = some send) (hpending : send.pending = [p])
      (hholds : send.holds = true) : Effect encode boundary s (.feed i) (s.encodeItem encode i p)
  | write {i : ι} {n : ℕ} {send : Sending P} (hsend : s.sends i = some send) (hwrites : send.writes = true)
      (hn : 0 < n ∧ n ≤ s.buffer.length) :
      Effect encode boundary s (.write i n) { s with
        buffer := s.buffer.drop n, wire := s.wire ++ s.buffer.take n }
  | finish {i : ι} (hsend : s.sends i = some .flushing) (hempty : s.buffer = []) :
      Effect encode boundary s (.finish i) (s.leave i)
  | reject {i : ι} {p : P} (hsend : s.sends i = some (.draining p)) :
      Effect encode boundary s (.reject i) (s.leave i)
  | fail {i : ι} (hsend : s.sends i = some .flushing) : Effect encode boundary s (.fail i) (s.leave i)

theorem effect_of_step (h : s.step encode boundary a = some s') : s.Effect encode boundary a s' := by
  unfold step at h
  split at h
  · split at h <;> cases h
    exact .start ‹_›
  · split at h <;> cases h
    exact .acquire ‹_› ‹_›
  · split at h
    · split at h <;> cases h
      exact .drain ‹_›
    · cases h
  · split at h
    · split at h <;> cases h
      exact .feed ‹_› rfl rfl
    · split at h <;> cases h
      exact .feed ‹_› rfl rfl
    · cases h
  · split at h
    · split at h <;> cases h
      rename_i hsend hn
      exact .write hsend hn.1 hn.2
    · cases h
  · split at h <;> cases h
    exact .finish ‹_› ‹_›
  · split at h <;> cases h
    exact .reject ‹_›
  · split at h <;> cases h
    exact .fail ‹_›

theorem sends_setSend (s : SharedSink ι P β) (i j : ι) (send : Option (Sending P)) :
    (s.setSend i send).sends j = if j = i then send else s.sends j := by
  unfold setSend
  exact Function.update_apply _ _ _ _

/-- A party that is done sends nothing any more. -/
theorem sends_of_ends (h : s.step encode boundary a = some s') {i : ι} {ok : Bool}
    (hends : a.ends = some (i, ok)) : s.sends i ≠ none ∧ s'.sends = Function.update s.sends i none := by
  cases effect_of_step h with
  | finish hsend _ | reject hsend | fail hsend =>
      cases hends
      refine ⟨?_, rfl⟩
      rw [hsend]
      exact Option.some_ne_none _
  | _ => cases hends

/-- After another step the same parties send something, except for one that begins to. -/
theorem sends_eq_none_iff (h : s.step encode boundary a = some s') (hends : a.ends = none)
    (hstart : ∀ i p, a ≠ .start i p) (j : ι) : s'.sends j = none ↔ s.sends j = none := by
  have hset : ∀ {i : ι} {send send' : Sending P}, s.sends i = some send →
      ((s.setSend i (some send')).sends j = none ↔ s.sends j = none) := by
    intro i send send' hsend
    rw [sends_setSend]
    split
    · rename_i hj
      subst hj
      simp [hsend]
    · rfl
  cases effect_of_step h with
  | start _ => exact absurd rfl (hstart _ _)
  | acquire hsend _ => exact hset hsend
  | drain hsend => exact hset hsend
  | feed hsend _ _ => exact hset hsend
  | write _ _ _ => rfl
  | finish | reject | fail => cases hends

/-- A party takes steps while it sends something. -/
theorem sends_party (h : s.step encode boundary a = some s') (hstart : ∀ i p, a ≠ .start i p) :
    s.sends a.party ≠ none := by
  have hsome : ∀ {i : ι} {send : Sending P}, s.sends i = some send → s.sends i ≠ none := by
    intro i send hsend
    rw [hsend]
    exact Option.some_ne_none _
  cases effect_of_step h with
  | start _ => exact absurd rfl (hstart _ _)
  | acquire hsend _ | drain hsend | feed hsend _ _ | write hsend _ _ | finish hsend _ | reject hsend
  | fail hsend => exact hsome hsend

/-- Nothing that was encoded, or written, is taken back. -/
theorem encoded_of_step (h : s.step encode boundary a = some s') :
    s.encoded <+: s'.encoded ∧ s.wire <+: s'.wire := by
  cases effect_of_step h with
  | feed _ _ _ => exact ⟨List.prefix_append _ _, List.prefix_rfl⟩
  | write _ _ _ => exact ⟨List.prefix_rfl, List.prefix_append _ _⟩
  | _ => exact ⟨List.prefix_rfl, List.prefix_rfl⟩

/-! ## The lock and the buffer -/

/-- Only the party that holds the lock is past waiting for it, and what was written with what is in the buffer
are the items that were encoded, one after the other. -/
structure Sound (encode : P → List β) (s : SharedSink ι P β) : Prop where
  holds_iff : ∀ i, s.holder = some i ↔ ∃ send, s.sends i = some send ∧ send.holds = true
  whole : s.wire ++ s.buffer = s.items.flatMap encode

theorem Sound.init : (init : SharedSink ι P β).Sound encode := by
  refine ⟨fun i => ?_, rfl⟩
  simp [SharedSink.init]

/-- A party that holds the lock gets further, and keeps it. -/
theorem Sound.keepLock (h : s.Sound encode) {i : ι} {send send' : Sending P} (hsend : s.sends i = some send)
    (hholds : send.holds = true) (hholds' : send'.holds = true) (j : ι) :
    s.holder = some j ↔ ∃ send, (s.setSend i (some send')).sends j = some send ∧ send.holds = true := by
  have hi : s.holder = some i := (h.holds_iff i).mpr ⟨send, hsend, hholds⟩
  rw [sends_setSend]
  by_cases hj : j = i
  · subst hj
    rw [if_pos rfl]
    exact iff_of_true hi ⟨send', rfl, hholds'⟩
  · rw [if_neg hj]
    exact h.holds_iff j

/-- The party that holds the lock lets go of it. -/
theorem Sound.leave (h : s.Sound encode) {i : ι} {send : Sending P} (hsend : s.sends i = some send)
    (hholds : send.holds = true) : (s.leave i).Sound encode := by
  have hi : s.holder = some i := (h.holds_iff i).mpr ⟨send, hsend, hholds⟩
  refine ⟨fun j => ?_, h.whole⟩
  have hnone : (s.leave i).holder = none := rfl
  have hsends : (s.leave i).sends j = if j = i then none else s.sends j := sends_setSend s i j none
  rw [hnone, hsends]
  refine iff_of_false (by simp) ?_
  rintro ⟨send', hsend', hholds'⟩
  split at hsend'
  · cases hsend'
  · rename_i hj
    have hj' := (h.holds_iff j).mpr ⟨send', hsend', hholds'⟩
    rw [hi] at hj'
    exact hj (Option.some.inj hj').symm

/-- Every step keeps it. -/
theorem Sound.step (h : s.Sound encode) (hstep : s.step encode boundary a = some s') : s'.Sound encode := by
  cases effect_of_step hstep with
  | @start i p hfree =>
      refine ⟨fun j => ?_, h.whole⟩
      rw [sends_setSend]
      by_cases hj : j = i
      · subst hj
        rw [if_pos rfl]
        refine iff_of_false (fun hholder => ?_) (by simp [Sending.holds])
        obtain ⟨send, hsend, -⟩ := (h.holds_iff j).mp hholder
        rw [hfree] at hsend
        cases hsend
      · rw [if_neg hj]
        exact h.holds_iff j
  | @acquire i p hsend hfree =>
      refine ⟨fun j => ?_, h.whole⟩
      dsimp only
      rw [sends_setSend]
      by_cases hj : j = i
      · subst hj
        rw [if_pos rfl]
        exact iff_of_true rfl ⟨_, rfl, rfl⟩
      · rw [if_neg hj, ← h.holds_iff, hfree]
        simp [Ne.symm hj]
  | drain hsend => exact ⟨h.keepLock hsend rfl rfl, h.whole⟩
  | @feed i p send hsend hpending hholds =>
      have hitems : (s.encodeItem encode i p).items = s.items ++ [p] := by
        simp [items, encodeItem]
      refine ⟨h.keepLock hsend hholds rfl, ?_⟩
      rw [hitems, List.flatMap_append, ← h.whole, List.flatMap_singleton]
      exact (List.append_assoc _ _ _).symm
  | write hsend hwrites hn =>
      refine ⟨h.holds_iff, ?_⟩
      dsimp only
      rw [List.append_assoc, List.take_append_drop]
      exact h.whole
  | finish hsend _ => exact h.leave hsend rfl
  | reject hsend => exact h.leave hsend rfl
  | fail hsend => exact h.leave hsend rfl

/-- So does every run. -/
theorem Sound.run {l : List (SinkStep ι P)} (h : Run (Partial (SharedSink.step encode boundary)) SharedSink.init l s) :
    s.Sound encode :=
  h.invariant (fun _ _ _ hsound hstep => hsound.step hstep) .init

/-! ## The items of a party -/

/-- The item that a party begins to send with a step. -/
def begins (i : ι) : SinkStep ι P → Option P
  | .start j p => if j = i then some p else none
  | _ => none

/-- The items that a party began to send. -/
def begun (i : ι) (l : List (SinkStep ι P)) : List P := l.filterMap (begins i)

/-- Whether a step rejects the item of a party. -/
def rejects (i : ι) : SinkStep ι P → Bool
  | .reject j => decide (j = i)
  | _ => false

theorem begun_concat (i : ι) (l : List (SinkStep ι P)) (a : SinkStep ι P) :
    begun i (l ++ [a]) = begun i l ++ (begins i a).toList := by
  unfold begun
  rw [List.filterMap_append]
  cases h : begins i a <;> simp [h]

theorem pending_of_sends {i : ι} {send : Option (Sending P)} (h : s.sends i = send) :
    s.pending i = (send.map Sending.pending).getD [] := by
  unfold pending
  rw [h]

/-- A party that gets further with the same item, or with none. -/
theorem pending_setSend {i j : ι} {send send' : Option (Sending P)} (hsend : s.sends j = send)
    (heq : (send'.map Sending.pending).getD [] = (send.map Sending.pending).getD []) :
    (s.setSend j send').pending i = s.pending i := by
  rw [pending_of_sends (sends_setSend s j i send')]
  split
  · rename_i hi
    subst hi
    rw [pending_of_sends hsend, heq]
  · rfl

/-- What was encoded, with the item that the party of a step has yet to encode, stays the same; unless that is
rejected, or a new one. -/
theorem encoded_append_pending (h : s.step encode boundary a = some s') (hstart : ∀ i p, a ≠ .start i p)
    (hnot : rejects a.party a = false) :
    s'.encoded ++ (s'.pending a.party).map (a.party, ·) =
      s.encoded ++ (s.pending a.party).map (a.party, ·) := by
  have hkeep : ∀ {i : ι} {send send' : Option (Sending P)} {t : SharedSink ι P β}, s.sends i = send →
      t.sends = (s.setSend i send').sends → t.encoded = s.encoded →
      (send'.map Sending.pending).getD [] = (send.map Sending.pending).getD [] →
        t.encoded ++ (t.pending i).map (i, ·) = s.encoded ++ (s.pending i).map (i, ·) := by
    intro i send send' t hsend ht hencoded heq
    have hpending : t.pending i = s.pending i := by
      rw [← pending_setSend hsend heq]
      unfold pending
      rw [ht]
    rw [hencoded, hpending]
  cases effect_of_step h with
  | start _ => exact absurd rfl (hstart _ _)
  | acquire hsend _ => exact hkeep hsend rfl rfl rfl
  | drain hsend => exact hkeep hsend rfl rfl rfl
  | finish hsend _ => exact hkeep hsend rfl rfl rfl
  | fail hsend => exact hkeep hsend rfl rfl rfl
  | @feed i p send hsend hpending _ =>
      have hflushing : (s.encodeItem encode i p).sends i = some .flushing := by
        rw [encodeItem]
        exact (sends_setSend s i i _).trans (if_pos rfl)
      have hnone : (Sending.flushing : Sending P).pending = [] := rfl
      simp only [SinkStep.party]
      rw [pending_of_sends hflushing, pending_of_sends hsend]
      simp [encodeItem, hpending, hnone]
  | write _ _ _ => rfl
  | reject _ => simp [SinkStep.party, rejects] at hnot

/-- A step takes the items of a party further. -/
theorem sent_of_step (h : s.step encode boundary a = some s') {i : ι} (hnot : rejects i a = false) :
    s'.itemsOf i ++ s'.pending i = s.itemsOf i ++ s.pending i ++ (begins i a).toList := by
  cases effect_of_step h with
  | @start j p hfree =>
      rw [pending_of_sends (sends_setSend s j i _)]
      simp only [begins]
      by_cases hi : j = i
      · subst hi
        rw [if_pos rfl, if_pos rfl, pending_of_sends hfree]
        simp [Sending.pending, itemsOf, setSend]
      · rw [if_neg (Ne.symm hi), if_neg hi, Option.toList_none, List.append_nil]
        rfl
  | acquire hsend _ =>
      simp only [begins, Option.toList_none, List.append_nil]
      exact congrArg (s.itemsOf i ++ ·) (pending_setSend hsend rfl)
  | drain hsend =>
      simp only [begins, Option.toList_none, List.append_nil]
      exact congrArg (s.itemsOf i ++ ·) (pending_setSend hsend rfl)
  | @feed j p send hsend hpending _ =>
      have hsends : (s.encodeItem encode j p).sends i = if i = j then some .flushing else s.sends i :=
        sends_setSend s j i _
      rw [pending_of_sends hsends]
      by_cases hi : i = j
      · subst hi
        have hflushing : (Sending.flushing : Sending P).pending = [] := rfl
        rw [if_pos rfl, pending_of_sends hsend]
        simp [begins, itemsOf, encodeItem, List.filter_append, hpending, hflushing]
      · rw [if_neg hi]
        simp [begins, itemsOf, encodeItem, List.filter_append, Ne.symm hi, pending]
  | write _ _ _ =>
      simp only [begins, Option.toList_none, List.append_nil]
      rfl
  | finish hsend _ =>
      simp only [begins, Option.toList_none, List.append_nil]
      exact congrArg (s.itemsOf i ++ ·) (pending_setSend hsend rfl)
  | @reject j p hsend =>
      have hi : j ≠ i := of_decide_eq_false hnot
      have hsends : (s.leave j).sends i = if i = j then none else s.sends i := sends_setSend s j i none
      have hpending : (s.leave j).pending i = s.pending i := by
        rw [pending_of_sends hsends, if_neg (Ne.symm hi)]
        rfl
      simp only [begins, Option.toList_none, List.append_nil]
      exact congrArg (s.itemsOf i ++ ·) hpending
  | fail hsend =>
      simp only [begins, Option.toList_none, List.append_nil]
      exact congrArg (s.itemsOf i ++ ·) (pending_setSend hsend rfl)

/-- A rejection leaves an item of a party out. -/
theorem sent_of_reject (h : s.step encode boundary a = some s') {i : ι} (hrejects : rejects i a = true) :
    s'.itemsOf i ++ s'.pending i = s.itemsOf i ∧ begins i a = none := by
  cases effect_of_step h with
  | @reject j p hsend =>
      have hi : j = i := of_decide_eq_true hrejects
      subst hi
      refine ⟨?_, rfl⟩
      have hsends : (s.leave j).sends j = if j = j then none else s.sends j := sends_setSend s j j none
      have hpending : (s.leave j).pending j = [] := by
        rw [pending_of_sends hsends, if_pos rfl]
        rfl
      rw [hpending, List.append_nil]
      rfl
  | _ => cases hrejects

/-- The items of a party that were encoded, and the one it is about to encode, are those it began to send, in
order; all of them, if none was rejected. -/
structure Sent (l : List (SinkStep ι P)) (s : SharedSink ι P β) (i : ι) : Prop where
  sublist : (s.itemsOf i ++ s.pending i).Sublist (begun i l)
  all : (∀ a ∈ l, rejects i a = false) → s.itemsOf i ++ s.pending i = begun i l

theorem Sent.init (i : ι) : Sent [] (init : SharedSink ι P β) i :=
  ⟨List.Sublist.slnil, fun _ => rfl⟩

theorem Sent.step {l : List (SinkStep ι P)} {i : ι} (h : Sent l s i)
    (hstep : s.step encode boundary a = some s') : Sent (l ++ [a]) s' i := by
  cases hrejects : rejects i a with
  | false =>
      have hsent := sent_of_step hstep hrejects
      refine ⟨?_, fun hnot => ?_⟩
      · rw [hsent, begun_concat]
        exact h.sublist.append (List.Sublist.refl _)
      · rw [hsent, h.all fun b hb => hnot b (List.mem_append_left _ hb), begun_concat]
  | true =>
      obtain ⟨hsent, hbegins⟩ := sent_of_reject hstep hrejects
      refine ⟨?_, fun hnot => ?_⟩
      · rw [hsent, begun_concat, hbegins, Option.toList_none, List.append_nil]
        exact (List.sublist_append_left _ _).trans h.sublist
      · rw [hnot a (List.mem_append_right _ (List.mem_singleton_self a))] at hrejects
        cases hrejects

theorem Sent.run {l : List (SinkStep ι P)} (h : Run (Partial (SharedSink.step encode boundary)) SharedSink.init l s)
    (i : ι) : Sent l s i :=
  h.history (I := fun l s => Sent l s i) (fun _ _ _ _ hsent hstep => hsent.step hstep) (.init i)

/-! ## Nobody waits in vain -/

/-- A step with which a send gets further. -/
def advances : SinkStep ι P → Bool
  | .start _ _ => false
  | .reject _ => false
  | .fail _ => false
  | _ => true

/-- The send of a party can end, and nobody else's does. -/
def CanFinish (encode : P → List β) (boundary : ℕ) (s : SharedSink ι P β) (i : ι) : Prop :=
  ∃ l s', (∀ a ∈ l, advances a = true) ∧ Run (Partial (step encode boundary)) s l s' ∧
    s'.holder = none ∧ s'.sends = Function.update s.sends i none

/-- A step more at the start. -/
theorem CanFinish.cons {i : ι} (hadvances : advances a = true) (hstep : s.step encode boundary a = some s')
    (hsends : ∀ j, j ≠ i → s'.sends j = s.sends j) (h : s'.CanFinish encode boundary i) :
    s.CanFinish encode boundary i := by
  obtain ⟨l, t, hl, hrun, hholder, ht⟩ := h
  refine ⟨a :: l, t, List.forall_mem_cons.mpr ⟨hadvances, hl⟩, hrun.cons hstep, hholder, ?_⟩
  rw [ht]
  funext j
  by_cases hj : j = i
  · subst hj
    rw [Function.update_self, Function.update_self]
  · rw [Function.update_of_ne hj, Function.update_of_ne hj, hsends j hj]

/-- All of the buffer is written out. -/
def writeAll (s : SharedSink ι P β) : SharedSink ι P β :=
  { s with buffer := [], wire := s.wire ++ s.buffer }

theorem step_writeAll {i : ι} {send : Sending P} (hsend : s.sends i = some send)
    (hwrites : send.writes = true) (hpos : 0 < s.buffer.length) :
    s.step encode boundary (.write i s.buffer.length) = some s.writeAll := by
  simp [step, hsend, hwrites, hpos, writeAll]

/-- A party that writes out the buffer ends when it is empty. -/
theorem canFinish_of_flushing {i : ι} (hsend : s.sends i = some .flushing) :
    s.CanFinish encode boundary i := by
  have hfinish : ∀ t : SharedSink ι P β, t.sends i = some .flushing → t.buffer = [] →
      t.CanFinish encode boundary i := by
    intro t ht hempty
    refine ⟨[.finish i], t.leave i, by simp [advances], .single ?_, rfl, rfl⟩
    simp only [Partial, step, ht, hempty]
  by_cases hempty : s.buffer = []
  · exact hfinish s hsend hempty
  · have hpos : 0 < s.buffer.length := List.length_pos_iff.mpr hempty
    exact .cons rfl (step_writeAll hsend rfl hpos) (fun _ _ => rfl) (hfinish s.writeAll hsend rfl)

theorem sends_encodeItem (s : SharedSink ι P β) (i j : ι) (p : P) :
    (s.encodeItem encode i p).sends j = if j = i then some .flushing else s.sends j :=
  sends_setSend s i j _

/-- So does one that has room for its item. -/
theorem canFinish_of_room {i : ι} {p : P} (hsend : s.sends i = some (.ready p) ∨
    s.sends i = some (.draining p)) (hroom : s.buffer.length < boundary) : s.CanFinish encode boundary i := by
  have hflushing : (s.encodeItem encode i p).sends i = some .flushing := by
    rw [sends_encodeItem, if_pos rfl]
  have hfeed : s.step encode boundary (.feed i) = some (s.encodeItem encode i p) := by
    rcases hsend with hsend | hsend <;> simp [step, hsend, hroom]
  refine .cons rfl hfeed (fun j hj => ?_) (canFinish_of_flushing hflushing)
  rw [sends_encodeItem, if_neg hj]

/-- So does every party that has the lock: it makes room first. -/
theorem canFinish_of_holds (hpos : 0 < boundary) {i : ι} {send : Sending P} (hsend : s.sends i = some send)
    (hholds : send.holds = true) : s.CanFinish encode boundary i := by
  have hdraining : ∀ (t : SharedSink ι P β) (p : P), t.sends i = some (.draining p) →
      t.CanFinish encode boundary i := by
    intro t p ht
    by_cases hroom : t.buffer.length < boundary
    · exact canFinish_of_room (.inr ht) hroom
    · have hlen : 0 < t.buffer.length := by omega
      exact .cons rfl (step_writeAll ht rfl hlen) (fun _ _ => rfl)
        (canFinish_of_room (s := t.writeAll) (.inr ht) hpos)
  cases send with
  | waiting p => cases hholds
  | ready p =>
      by_cases hroom : s.buffer.length < boundary
      · exact canFinish_of_room (.inl hsend) hroom
      · have hstep : s.step encode boundary (.drain i) = some (s.setSend i (some (.draining p))) := by
          simp [step, hsend, Nat.le_of_not_lt hroom]
        refine .cons rfl hstep (fun j hj => ?_) (hdraining _ p ?_)
        · rw [sends_setSend, if_neg hj]
        · rw [sends_setSend, if_pos rfl]
  | draining p => exact hdraining s p hsend
  | flushing => exact canFinish_of_flushing hsend

/-- **Nobody waits in vain.** From every state in which a party sends something, if the buffer can take an item
at all: without any failure and without anybody beginning to send something else, a state can be reached in
which it is done. -/
theorem exists_finish (h : s.Sound encode) (hpos : 0 < boundary) (i : ι) :
    ∃ l s', (∀ a ∈ l, advances a = true) ∧ Run (Partial (step encode boundary)) s l s' ∧
      s'.sends i = none := by
  -- a party that waits for the lock gets it when nobody has it
  have hwaiting : ∀ (t : SharedSink ι P β) (p : P), t.sends i = some (.waiting p) → t.holder = none →
      t.CanFinish encode boundary i := by
    intro t p ht hfree
    have hstep : t.step encode boundary (.acquire i) =
        some { t.setSend i (some (.ready p)) with holder := some i } := by
      simp [step, ht, hfree]
    have hready : ({ t.setSend i (some (.ready p)) with holder := some i } : SharedSink ι P β).sends i =
        some (.ready p) := by
      dsimp only
      rw [sends_setSend, if_pos rfl]
    refine .cons rfl hstep (fun j hj => ?_) (canFinish_of_holds hpos hready rfl)
    dsimp only
    rw [sends_setSend, if_neg hj]
  have hdone : ∀ t : SharedSink ι P β, t.CanFinish encode boundary i →
      ∃ l s', (∀ a ∈ l, advances a = true) ∧ Run (Partial (step encode boundary)) t l s' ∧
        s'.sends i = none := by
    rintro t ⟨l, s', hl, hrun, -, hs'⟩
    refine ⟨l, s', hl, hrun, ?_⟩
    rw [hs', Function.update_self]
  cases hsend : s.sends i with
  | none => exact ⟨[], s, by simp, .nil s, hsend⟩
  | some send =>
      cases hholds : send.holds with
      | true => exact hdone s (canFinish_of_holds hpos hsend hholds)
      | false =>
          obtain ⟨p, rfl⟩ : ∃ p, send = .waiting p := by
            cases send with
            | waiting p => exact ⟨p, rfl⟩
            | _ => cases hholds
          cases hholder : s.holder with
          | none => exact hdone s (hwaiting s p hsend hholder)
          | some j =>
              -- the party that has the lock goes first
              obtain ⟨sendj, hsendj, hholdsj⟩ := (h.holds_iff j).mp hholder
              have hne : i ≠ j := by
                rintro rfl
                rw [hsend] at hsendj
                cases hsendj
                cases hholdsj
              have hfirst : s.CanFinish encode boundary j := canFinish_of_holds hpos hsendj hholdsj
              obtain ⟨l, t, hl, hrun, hfree, ht⟩ := hfirst
              have hwaits : t.sends i = some (.waiting p) := by
                rw [ht, Function.update_of_ne hne, hsend]
              obtain ⟨l', s', hl', hrun', hs'⟩ := hdone t (hwaiting t p hwaits hfree)
              refine ⟨l ++ l', s', fun a ha => ?_, hrun.append hrun', hs'⟩
              rcases List.mem_append.mp ha with ha | ha
              · exact hl a ha
              · exact hl' a ha

end SharedSink

end BleWsCentral.Found
