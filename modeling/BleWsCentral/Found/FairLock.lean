import BleWsCentral.Found.Run

/-!
# A fair lock for reading and writing

A lock that is held by any number of readers or by one writer, and that is handed out in the order in which it
was asked for: nobody overtakes anybody, so a reader that comes behind a writer waits as long as the writer.

* `FairLock`, `FairLock.step` — who holds the lock and who waits for it.
* `Sound` — every party is there once, and a writer that holds the lock holds it alone.
* `Behind p i` — there is a writer from `p` on up to `i`.
* `exists_held_iff` — as long as `p`, who reads, does not release the lock, `i` can get it if and only if it is
  not behind `p`.
-/

set_option linter.unusedSectionVars false

namespace BleWsCentral.Found

/-- What the lock is asked for. -/
inductive Mode
  | read
  | write
deriving DecidableEq

/-- A lock: who holds it, and who waits for it; those who asked first are in front. -/
structure FairLock (ι : Type*) where
  holders : List (ι × Mode)
  waiting : List (ι × Mode)

/-- A party asks for the lock, the first one that waits gets it, or a party is done with it. -/
inductive LockStep (ι : Type*)
  | ask (i : ι) (mode : Mode)
  | grant
  | release (i : ι)

namespace FairLock

variable {ι : Type*}

/-- Nobody wants the lock. -/
def init : FairLock ι := ⟨[], []⟩

/-- Those that hold the lock, and then those that wait for it. -/
def queue (s : FairLock ι) : List (ι × Mode) := s.holders ++ s.waiting

def parties (s : FairLock ι) : List ι := s.queue.map Prod.fst

def Holds (s : FairLock ι) (i : ι) : Prop := i ∈ s.holders.map Prod.fst

/-- Whether one more may hold the lock. -/
def admits (holders : List (ι × Mode)) : Mode → Bool
  | .read => holders.all fun e => e.2 = .read
  | .write => holders.isEmpty

variable [DecidableEq ι]

/-- A party is done with the lock. -/
def leave (s : FairLock ι) (i : ι) : FairLock ι := { s with holders := s.holders.filter (·.1 ≠ i) }

instance (s : FairLock ι) (i : ι) : Decidable (s.Holds i) := inferInstanceAs (Decidable (_ ∈ _))

def step (s : FairLock ι) : LockStep ι → Option (FairLock ι)
  | .ask i mode =>
      if i ∈ s.parties then none
      else some { s with waiting := s.waiting ++ [(i, mode)] }
  | .grant =>
      match s.waiting with
      | [] => none
      | e :: waiting => if admits s.holders e.2 then some ⟨s.holders ++ [e], waiting⟩ else none
  | .release i =>
      if s.Holds i then some (s.leave i)
      else none

variable {s s' : FairLock ι} {a : LockStep ι} {i j p : ι}

/-- The steps, with what they need. -/
inductive Effect (s : FairLock ι) : LockStep ι → FairLock ι → Prop
  | ask {i : ι} {mode : Mode} (hnew : i ∉ s.parties) :
      Effect s (.ask i mode) { s with waiting := s.waiting ++ [(i, mode)] }
  | grant {e : ι × Mode} {waiting : List (ι × Mode)} (hwaiting : s.waiting = e :: waiting)
      (hadmits : admits s.holders e.2 = true) : Effect s .grant ⟨s.holders ++ [e], waiting⟩
  | release {i : ι} (hholds : s.Holds i) : Effect s (.release i) (s.leave i)

theorem effect_of_step (h : s.step a = some s') : s.Effect a s' := by
  unfold step at h
  split at h
  · split at h <;> cases h
    exact .ask ‹_›
  · split at h
    · cases h
    · split at h <;> cases h
      exact .grant ‹_› ‹_›
  · split at h <;> cases h
    exact .release ‹_›

/-! ## Safety -/

/-- Everybody is there once, and who holds the lock to write holds it alone. -/
structure Sound (s : FairLock ι) : Prop where
  nodup : s.parties.Nodup
  exclusive : ∀ i, (i, Mode.write) ∈ s.holders → s.holders = [(i, .write)]

theorem Sound.init : (init : FairLock ι).Sound where
  nodup := List.nodup_nil
  exclusive := by
    intro i hi
    cases hi

/-- Who waits does not hold the lock. -/
theorem Sound.not_holds (h : s.Sound) {e : ι × Mode} (he : e ∈ s.waiting) : ¬ s.Holds e.1 := by
  have hnodup := h.nodup
  unfold parties queue at hnodup
  rw [List.map_append, List.nodup_append'] at hnodup
  exact fun hholds => hnodup.2.2 hholds (List.mem_map_of_mem he)

/-- A party that is done is not in the queue any more. -/
theorem Sound.queue_leave (h : s.Sound) (hholds : s.Holds i) :
    (s.leave i).queue = s.queue.filter (·.1 ≠ i) := by
  have hwaiting : s.waiting.filter (·.1 ≠ i) = s.waiting := by
    rw [List.filter_eq_self]
    intro e he
    refine decide_eq_true ?_
    rintro rfl
    exact h.not_holds he hholds
  unfold queue
  rw [List.filter_append, hwaiting]
  rfl

/-- The others are still in it. -/
theorem Sound.mem_leave (h : s.Sound) (hholds : s.Holds i) (hne : j ≠ i) (hj : j ∈ s.parties) :
    j ∈ (s.leave i).parties := by
  obtain ⟨e, he, rfl⟩ := List.mem_map.mp hj
  unfold parties
  rw [h.queue_leave hholds]
  exact List.mem_map_of_mem (List.mem_filter.mpr ⟨he, decide_eq_true hne⟩)

theorem Sound.length_leave (h : s.Sound) (hholds : s.Holds i) :
    (s.leave i).queue.length < s.queue.length := by
  obtain ⟨e, he, rfl⟩ := List.mem_map.mp hholds
  rw [h.queue_leave hholds, List.length_filter_lt_length_iff_exists]
  exact ⟨e, List.mem_append_left _ he, by simp⟩

/-- Every step keeps this. -/
theorem Sound.step (h : s.Sound) (hstep : s.step a = some s') : s'.Sound := by
  cases effect_of_step hstep with
  | @ask i mode hnew =>
      refine ⟨?_, h.exclusive⟩
      have hparties : parties { s with waiting := s.waiting ++ [(i, mode)] } = s.parties ++ [i] := by
        unfold parties queue
        rw [← List.append_assoc, List.map_append]
        rfl
      rw [hparties, List.nodup_append']
      exact ⟨h.nodup, List.nodup_singleton i, by simpa using hnew⟩
  | @grant e waiting hwaiting hadmits =>
      constructor
      · have hqueue : queue ⟨s.holders ++ [e], waiting⟩ = s.queue := by
          unfold queue
          rw [hwaiting, List.append_assoc]
          rfl
        unfold parties
        rw [hqueue]
        exact h.nodup
      · intro i hi
        obtain ⟨j, mode⟩ := e
        cases mode with
        | read =>
            -- there is no writer, as a reader was let in
            rcases List.mem_append.mp hi with hi | hi
            · have hread := List.all_eq_true.mp hadmits _ hi
              cases of_decide_eq_true hread
            · cases List.mem_singleton.mp hi
        | write =>
            have hempty : s.holders = [] := List.isEmpty_iff.mp hadmits
            rw [hempty, List.nil_append] at hi ⊢
            cases List.mem_singleton.mp hi
            rfl
  | @release j hholds =>
      constructor
      · have hnodup : (s.queue.filter (·.1 ≠ j)).map Prod.fst |>.Nodup :=
          h.nodup.sublist (List.filter_sublist.map Prod.fst)
        unfold parties
        rwa [h.queue_leave hholds]
      · intro i hi
        obtain ⟨hi, hne⟩ := List.mem_filter.mp hi
        unfold leave
        rw [h.exclusive i hi]
        simp only [List.filter_cons, hne]
        rfl

theorem Sound.run {l : List (LockStep ι)} (hrun : Run (Partial FairLock.step) s l s') (h : s.Sound) :
    s'.Sound :=
  hrun.invariant (fun _ _ _ hsound hstep => hsound.step hstep) h

/-! ## Who is there -/

/-- Who is there was there, or asked. -/
theorem mem_queue_of_step (h : s.step a = some s') {e : ι × Mode} (he : e ∈ s'.queue) :
    e ∈ s.queue ∨ a = .ask e.1 e.2 := by
  cases effect_of_step h with
  | @ask i mode _ =>
      unfold queue at he
      rw [← List.append_assoc] at he
      rcases List.mem_append.mp he with he | he
      · exact .inl he
      · rw [List.mem_singleton.mp he]
        exact .inr rfl
  | @grant e' waiting hwaiting _ =>
      left
      unfold queue at he ⊢
      rw [hwaiting]
      simpa using he
  | release _ =>
      left
      rcases List.mem_append.mp he with he | he
      · exact List.mem_append_left _ (List.mem_of_mem_filter he)
      · exact List.mem_append_right _ he

/-- Who comes in waits first. -/
theorem holds_ask {mode : Mode} (h : s.step (.ask j mode) = some s') : s'.Holds i ↔ s.Holds i := by
  cases effect_of_step h
  rfl

theorem holds_grant (h : s.step .grant = some s') (hi : s.Holds i) : s'.Holds i := by
  cases effect_of_step h with
  | grant =>
      unfold Holds at hi ⊢
      rw [List.map_append]
      exact List.mem_append_left _ hi

theorem holds_of_release (h : s.step (.release j) = some s') : s.Holds j := by
  cases effect_of_step h
  assumption

theorem holds_release (h : s.step (.release j) = some s') : s'.Holds i ↔ s.Holds i ∧ i ≠ j := by
  cases effect_of_step h with
  | release _ =>
      unfold Holds leave
      simp only [List.mem_map, List.mem_filter, decide_eq_true_eq]
      constructor
      · rintro ⟨e, ⟨he, hne⟩, rfl⟩
        exact ⟨⟨e, he, rfl⟩, hne⟩
      · rintro ⟨⟨e, he, rfl⟩, hne⟩
        exact ⟨e, ⟨he, hne⟩, rfl⟩

/-- Who is done with the lock is gone. -/
theorem Sound.notMem_of_release (h : s.Sound) (hstep : s.step (.release i) = some s') : i ∉ s'.parties := by
  cases effect_of_step hstep with
  | release hholds =>
      unfold parties
      rw [h.queue_leave hholds]
      intro hmem
      obtain ⟨e, he, rfl⟩ := List.mem_map.mp hmem
      exact of_decide_eq_true (List.mem_filter.mp he).2 rfl

/-- If somebody holds the lock to write, nobody else holds it. -/
theorem Sound.eq_of_write (h : s.Sound) (hwrite : (j, Mode.write) ∈ s.holders) (hi : s.Holds i) : i = j := by
  unfold Holds at hi
  rw [h.exclusive j hwrite] at hi
  exact List.mem_singleton.mp hi

/-! ## Progress -/

/-- There is a writer from `p` on up to `i`. -/
def Behind (s : FairLock ι) (p i : ι) : Prop :=
  ∃ before between w after,
    s.queue = (before ++ (p, .read) :: between) ++ (w, .write) :: after ∧
      (i = w ∨ i ∈ after.map Prod.fst)

/-- A step with which nobody comes in, and `p` does not go. -/
def clears (p : ι) : LockStep ι → Bool
  | .ask _ _ => false
  | .grant => true
  | .release j => decide (j ≠ p)

theorem clears_release : clears p (.release j) = true ↔ j ≠ p := decide_eq_true_iff

/-- Who is behind `p` waits. -/
theorem Behind.waits (hsound : s.Sound) (h : s.Behind p i) : ∃ e ∈ s.waiting, e.1 = i := by
  obtain ⟨before, between, w, after, hqueue, hi⟩ := h
  have hwaiting : ∃ l, s.waiting = l ++ (w, .write) :: after := by
    rcases List.append_eq_append_iff.mp hqueue with ⟨l, -, hl⟩ | ⟨l, hl, hrest⟩
    · exact ⟨l, hl⟩
    · cases l with
      | nil => exact ⟨[], hrest.symm⟩
      | cons e l =>
          -- the writer would hold the lock along with the reader
          rw [List.cons_append, List.cons.injEq] at hrest
          obtain ⟨rfl, -⟩ := hrest
          have hwrite : (w, Mode.write) ∈ s.holders := by
            rw [hl]
            simp
          have hread : (p, Mode.read) ∈ s.holders := by
            rw [hl]
            simp
          rw [hsound.exclusive w hwrite] at hread
          cases List.mem_singleton.mp hread
  obtain ⟨l, hl⟩ := hwaiting
  rw [hl]
  rcases hi with rfl | hi
  · exact ⟨(i, .write), by simp, rfl⟩
  · obtain ⟨e, he, rfl⟩ := List.mem_map.mp hi
    exact ⟨e, by simp [he], rfl⟩

/-- It comes after `p`. -/
theorem Behind.mem (h : s.Behind p i) : p ∈ s.parties := by
  obtain ⟨before, between, w, after, hqueue, -⟩ := h
  unfold parties
  rw [hqueue]
  simp

theorem Behind.ne (hsound : s.Sound) (h : s.Behind p i) : i ≠ p := by
  rintro rfl
  obtain ⟨before, between, w, after, hqueue, hi⟩ := h
  have hnodup := hsound.nodup
  unfold parties at hnodup
  rw [hqueue, List.map_append, List.nodup_append'] at hnodup
  have hfirst : i ∈ (before ++ (i, Mode.read) :: between).map Prod.fst := by simp
  refine hnodup.2.2 hfirst ?_
  rcases hi with rfl | hi
  · simp
  · exact List.mem_cons_of_mem _ hi

/-- It stays there. -/
theorem Behind.step (hsound : s.Sound) (h : s.Behind p i) (hclears : clears p a = true)
    (hstep : s.step a = some s') : s'.Behind p i := by
  obtain ⟨before, between, w, after, hqueue, hi⟩ := h
  cases effect_of_step hstep with
  | ask => cases hclears
  | @grant e waiting hwaiting _ =>
      refine ⟨before, between, w, after, ?_, hi⟩
      rw [← hqueue]
      unfold queue
      rw [hwaiting, List.append_assoc]
      rfl
  | @release j hholds =>
      have hne : p ≠ j := (clears_release.mp hclears).symm
      have hkept : ∀ k, (k = w ∨ k ∈ after.map Prod.fst) → k ≠ j := by
        rintro k hk rfl
        obtain ⟨e, he, rfl⟩ := Behind.waits hsound ⟨before, between, w, after, hqueue, hk⟩
        exact hsound.not_holds he hholds
      have hafter : after.filter (·.1 ≠ j) = after := by
        rw [List.filter_eq_self]
        exact fun e he => decide_eq_true (hkept e.1 (.inr (List.mem_map_of_mem he)))
      refine ⟨before.filter (·.1 ≠ j), between.filter (·.1 ≠ j), w, after, ?_, hi⟩
      rw [hsound.queue_leave hholds, hqueue]
      simp only [List.filter_append, List.filter_cons, hafter, decide_eq_true hne,
        decide_eq_true (hkept w (.inl rfl)), if_true]

/-- If a queue without some entry has a writer from `p` on up to `i`, then so has the queue. -/
theorem Behind.of_filter {t : FairLock ι} (hqueue : t.queue = s.queue.filter (·.1 ≠ j)) (h : t.Behind p i) :
    s.Behind p i := by
  obtain ⟨before, between, w, after, ht, hi⟩ := h
  rw [hqueue, List.filter_eq_append_iff] at ht
  obtain ⟨front, back, hs, hfront, hback⟩ := ht
  obtain ⟨mid, after', hback', hmid, -, hafter⟩ := List.filter_eq_cons_iff.mp hback
  obtain ⟨front₁, front₂, hfront', -, hfront₂⟩ := List.filter_eq_append_iff.mp hfront
  obtain ⟨mid', between', hfront₂', -, -, -⟩ := List.filter_eq_cons_iff.mp hfront₂
  refine ⟨front₁ ++ mid', between' ++ mid, w, after', ?_, hi.imp_right fun hi => ?_⟩
  · rw [hs, hfront', hfront₂', hback']
    simp
  · rw [← hafter] at hi
    exact (List.filter_sublist.map Prod.fst).subset hi

/-- Where nobody but `p` holds the lock, and still the next one does not get it, that one is a writer, and
everybody who waits is behind `p`. -/
theorem behind_of_only {e : ι × Mode} {waiting : List (ι × Mode)}
    (hreads : ∀ mode, (p, mode) ∈ s.queue → mode = .read) (hwaiting : s.waiting = e :: waiting)
    (hadmits : admits s.holders e.2 = false) (honly : ∀ j, s.Holds j → j = p) (hi : i ∈ s.parties)
    (hholds : ¬ s.Holds i) : s.Behind p i := by
  have hread : ∀ h ∈ s.holders, h = (p, Mode.read) := by
    rintro ⟨j, mode⟩ hmem
    obtain rfl := honly j (List.mem_map_of_mem hmem)
    rw [hreads mode (List.mem_append_left _ hmem)]
  obtain ⟨w, mode⟩ := e
  cases mode with
  | read =>
      have hall : admits s.holders .read = true :=
        List.all_eq_true.mpr fun h hmem => decide_eq_true (by rw [hread h hmem])
      rw [hall] at hadmits
      cases hadmits
  | write =>
      cases hholders : s.holders with
      | nil =>
          rw [hholders] at hadmits
          cases hadmits
      | cons h rest =>
          have hp := hread h (by rw [hholders]; exact List.mem_cons_self)
          refine ⟨[], rest, w, waiting, ?_, ?_⟩
          · unfold queue
            rw [hwaiting, hholders, hp]
            rfl
          · have hmem : i ∈ s.waiting.map Prod.fst := by
              unfold parties queue at hi
              rw [List.map_append] at hi
              exact (List.mem_append.mp hi).resolve_left hholds
            rw [hwaiting, List.map_cons] at hmem
            exact List.mem_cons.mp hmem

/-- Who is not behind `p` gets the lock, when those before it are done. -/
theorem exists_held (hsound : s.Sound) (hreads : ∀ mode, (p, mode) ∈ s.queue → mode = .read)
    (hi : i ∈ s.parties) (hnot : ¬ s.Behind p i) :
    ∃ l s', (∀ a ∈ l, clears p a = true) ∧ Run (Partial FairLock.step) s l s' ∧ s'.Holds i := by
  -- every step makes the queue shorter, or the part of it that waits
  induction hn : s.waiting.length + s.queue.length using Nat.strong_induction_on generalizing s with
  | _ n ih =>
      by_cases hholds : s.Holds i
      · exact ⟨[], s, by simp, .nil s, hholds⟩
      have hgo : ∀ (a : LockStep ι) (t : FairLock ι), clears p a = true → s.step a = some t →
          (∀ mode, (p, mode) ∈ t.queue → mode = .read) → i ∈ t.parties → ¬ t.Behind p i →
          t.waiting.length + t.queue.length < n →
          ∃ l s', (∀ a ∈ l, clears p a = true) ∧ Run (Partial FairLock.step) s l s' ∧ s'.Holds i := by
        intro a t ha hstep hreads' hi' hnot' hlt
        obtain ⟨l, s', hl, hrun, hheld⟩ := ih _ hlt (hsound.step hstep) hreads' hi' hnot' rfl
        exact ⟨a :: l, s', List.forall_mem_cons.mpr ⟨ha, hl⟩, hrun.cons hstep, hheld⟩
      cases hwaiting : s.waiting with
      | nil =>
          unfold parties queue at hi
          rw [hwaiting, List.append_nil] at hi
          exact absurd hi hholds
      | cons e waiting =>
          cases hadmits : admits s.holders e.2 with
          | true =>
              have hsame : queue ⟨s.holders ++ [e], waiting⟩ = s.queue := by
                unfold queue
                rw [hwaiting]
                exact List.append_assoc ..
              refine hgo .grant ⟨s.holders ++ [e], waiting⟩ rfl ?_ (hsame ▸ hreads) ?_ ?_ ?_
              · simp [step, hwaiting, hadmits]
              · unfold parties at hi ⊢
                rwa [hsame]
              · unfold Behind at hnot ⊢
                rwa [hsame]
              · rw [hsame, ← hn, hwaiting]
                exact Nat.add_lt_add_right (Nat.lt_succ_self _) _
          | false =>
              by_cases hother : ∃ j, s.Holds j ∧ j ≠ p
              · -- somebody else is done with the lock
                obtain ⟨j, hj, hne⟩ := hother
                have hsame := hsound.queue_leave hj
                have hij : i ≠ j := by
                  rintro rfl
                  exact hholds hj
                refine hgo (.release j) (s.leave j) (clears_release.mpr hne) (if_pos hj) ?_
                  (hsound.mem_leave hj hij hi) (fun hbehind => hnot (Behind.of_filter hsame hbehind)) ?_
                · intro mode hmem
                  rw [hsame] at hmem
                  exact hreads mode (List.mem_of_mem_filter hmem)
                · rw [← hn]
                  exact Nat.add_lt_add_left (hsound.length_leave hj) _
              · have honly : ∀ j, s.Holds j → j = p := fun j hj => by_contra fun hne => hother ⟨j, hj, hne⟩
                exact absurd (behind_of_only hreads hwaiting hadmits honly hi hholds) hnot

/-- **Who waits in vain.** While `p`, who reads, does not release the lock, another party can get it if and only if
there is no writer from `p` on up to this party. -/
theorem exists_held_iff (hsound : s.Sound) (hreads : ∀ mode, (p, mode) ∈ s.queue → mode = .read)
    (hi : i ∈ s.parties) :
    (∃ l s', (∀ a ∈ l, clears p a = true) ∧ Run (Partial FairLock.step) s l s' ∧ s'.Holds i) ↔
      ¬ s.Behind p i := by
  refine ⟨?_, exists_held hsound hreads hi⟩
  rintro ⟨l, s', hl, hrun, hholds⟩ hbehind
  have hguarded := hrun.guarded_of_forall (G := fun _ a => clears p a = true) fun a ha _ => hl a ha
  obtain ⟨hsound', hbehind'⟩ := hguarded.invariant (I := fun s => s.Sound ∧ s.Behind p i)
    (fun s a t ⟨hsound, hbehind⟩ ⟨hclears, hstep⟩ =>
      ⟨hsound.step hstep, hbehind.step hsound hclears hstep⟩) ⟨hsound, hbehind⟩
  obtain ⟨e, he, rfl⟩ := hbehind'.waits hsound'
  exact hsound'.not_holds he hholds

end FairLock

end BleWsCentral.Found
