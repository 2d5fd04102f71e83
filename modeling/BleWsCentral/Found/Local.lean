import BleWsCentral.Found.Run

/-!
# Machines that work place by place

A machine of which each step does to a place what depends on this place only. What a run does to a place is then
up to the steps that touch it, in their order; so sources that touch different places do not get in each
other's way, in whatever order their steps are taken.

* `Local Step get act` — the step for `a` takes what there is at the place `k` to `act a k` of it, and can be
  taken if that is possible at every place.
* `Local.exists_run_iff` — so a run can be taken if that is possible at every place, one place at a time.
* `Merge sources out` — `out` is what the sources yield, each in its order.
* `Local.exists_merged_iff`, `Local.get_merged` — sources that touch different places run together as each of
  them does alone.
-/

namespace BleWsCentral.Found

variable {σ α κ β : Type*}

/-! ## Merged sources -/

/-- The sources yield, one at a time, what is in `out`. -/
inductive Merge : List (List α) → List α → Prop
  | done {sources : List (List α)} (h : ∀ source ∈ sources, source = []) : Merge sources []
  | next {before after : List (List α)} {source out : List α} {a : α}
      (h : Merge (before ++ source :: after) out) : Merge (before ++ (a :: source) :: after) (a :: out)

/-- No two sources have a place in common. -/
def Separate (touches : α → κ → Bool) (sources : List (List α)) : Prop :=
  sources.Pairwise fun source other =>
    ∀ a ∈ source, ∀ b ∈ other, ∀ k, touches a k = true → touches b k = false

namespace Merge

variable {touches : α → κ → Bool} {sources : List (List α)} {out : List α} {k : κ}

theorem filter_eq_nil_of_separate {source : List α} {b : α}
    (h : ∀ a ∈ source, touches a k = true → touches b k = false) (hb : touches b k = true) :
    source.filter (touches · k) = [] := by
  rw [List.filter_eq_nil_iff]
  intro a ha htouches
  rw [h a ha htouches] at hb
  cases hb

/-- Taking one from a source keeps the sources separate. -/
theorem separate_of_cons {before after : List (List α)} {source : List α} {a : α}
    (h : Separate touches (before ++ (a :: source) :: after)) :
    Separate touches (before ++ source :: after) := by
  unfold Separate at *
  rw [List.pairwise_append, List.pairwise_cons] at *
  obtain ⟨hbefore, ⟨hsource, hafter⟩, hboth⟩ := h
  refine ⟨hbefore, ⟨fun other hother b hb => hsource other hother b (List.mem_cons_of_mem a hb), hafter⟩, ?_⟩
  intro first hfirst other hother b hb c hc
  rcases List.mem_cons.mp hother with rfl | hother
  · exact hboth first hfirst _ List.mem_cons_self b hb c (List.mem_cons_of_mem a hc)
  · exact hboth first hfirst other (List.mem_cons_of_mem _ hother) b hb c hc

/-- What touches a place comes in the order in which the sources would yield it one after the other. -/
theorem filter_eq (h : Merge sources out) (hseparate : Separate touches sources) (k : κ) :
    out.filter (touches · k) = sources.flatten.filter (touches · k) := by
  induction h with
  | done hnil =>
      symm
      rw [List.filter_nil, List.filter_eq_nil_iff]
      intro a ha
      obtain ⟨source, hsource, ha⟩ := List.mem_flatten.mp ha
      rw [hnil source hsource] at ha
      cases ha
  | @next before after source out a _ ih =>
      have hrest := ih (separate_of_cons hseparate)
      simp only [List.flatten_append, List.flatten_cons, List.filter_append, List.filter_cons] at hrest ⊢
      cases ha : touches a k with
      | false => exact hrest
      | true =>
          -- the sources before it do not touch this place
          have hbefore : before.flatten.filter (touches · k) = [] := by
            apply filter_eq_nil_of_separate (b := a) _ ha
            intro c hc htouches
            obtain ⟨first, hfirst, hc⟩ := List.mem_flatten.mp hc
            exact (List.pairwise_append.mp hseparate).2.2 first hfirst (a :: source) List.mem_cons_self
              c hc a List.mem_cons_self k htouches
          rw [hrest, hbefore]
          rfl

/-- What touches a place of a source comes from this source. -/
theorem filter_flatten_of_mem (hseparate : Separate touches sources) {source : List α}
    (hsource : source ∈ sources) {a : α} (ha : a ∈ source) (htouches : touches a k = true) :
    sources.flatten.filter (touches · k) = source.filter (touches · k) := by
  induction sources with
  | nil => cases hsource
  | cons first sources ih =>
      obtain ⟨hfirst, hrest⟩ := List.pairwise_cons.mp hseparate
      rw [List.flatten_cons, List.filter_append]
      rcases List.mem_cons.mp hsource with rfl | hsource
      · have hnone : sources.flatten.filter (touches · k) = [] := by
          rw [List.filter_eq_nil_iff]
          intro b hb htouches'
          obtain ⟨other, hother, hb⟩ := List.mem_flatten.mp hb
          rw [hfirst other hother a ha b hb k htouches] at htouches'
          cases htouches'
        rw [hnone, List.append_nil]
      · have hnone : first.filter (touches · k) = [] :=
          filter_eq_nil_of_separate (fun b hb => hfirst source hsource b hb a ha k) htouches
        rw [hnone, List.nil_append, ih hrest hsource]

/-- What touches a place that no source touches is nothing. -/
theorem filter_flatten_of_forall (h : ∀ source ∈ sources, ∀ a ∈ source, touches a k = false) :
    sources.flatten.filter (touches · k) = [] := by
  rw [List.filter_eq_nil_iff]
  intro a ha htouches
  obtain ⟨source, hsource, ha⟩ := List.mem_flatten.mp ha
  rw [h source hsource a ha] at htouches
  cases htouches

end Merge

/-! ## Places -/

/-- What the actions do to what there is at a place, one after the other. -/
def outcome (act : α → κ → β → Option β) (k : κ) (l : List α) (b : β) : Option β :=
  l.foldlM (fun b a => act a k b) b

/-- Each step works place by place. -/
structure Local (Step : σ → α → σ → Prop) (get : σ → κ → β) (act : α → κ → β → Option β) : Prop where
  at_each : ∀ {s a t}, Step s a t → ∀ k, act a k (get s k) = some (get t k)
  exists_step : ∀ {s a}, (∀ k, (act a k (get s k)).isSome) → ∃ t, Step s a t

/-- Actions do nothing at the places that they do not touch. -/
def Touches (touches : α → κ → Bool) (act : α → κ → β → Option β) : Prop :=
  ∀ a k b, touches a k = false → act a k b = some b

variable {touches : α → κ → Bool} {act : α → κ → β → Option β} {Step : σ → α → σ → Prop}
  {get : σ → κ → β} {s t : σ} {l : List α} {k : κ}

/-- Only the actions that touch a place matter there. -/
theorem outcome_filter (h : Touches touches act) (k : κ) (l : List α) (b : β) :
    outcome act k (l.filter (touches · k)) b = outcome act k l b := by
  unfold outcome
  induction l generalizing b with
  | nil => rfl
  | cons a l ih =>
      rw [List.filter_cons]
      cases ha : touches a k with
      | false =>
          rw [List.foldlM_cons, h a k b ha]
          exact ih b
      | true =>
          rw [if_pos rfl, List.foldlM_cons, List.foldlM_cons]
          exact congrArg _ (funext ih)

/-- Actions that do not touch a place do nothing there. -/
theorem outcome_of_forall (h : Touches touches act) (hk : ∀ a ∈ l, touches a k = false) (b : β) :
    outcome act k l b = some b := by
  have hnone : l.filter (touches · k) = [] := by
    rw [List.filter_eq_nil_iff]
    intro a ha htouches
    rw [hk a ha] at htouches
    cases htouches
  rw [← outcome_filter h k l, hnone]
  rfl

namespace Local

/-- A run works place by place. -/
theorem outcome_of_run (h : Local Step get act) (hrun : Run Step s l t) (k : κ) :
    outcome act k l (get s k) = some (get t k) := by
  unfold outcome
  induction hrun with
  | nil => rfl
  | snoc _ hstep ih =>
      rw [List.foldlM_append, ih]
      simpa using h.at_each hstep k

/-- A run can be taken if that is possible at every place. -/
theorem exists_run_iff (h : Local Step get act) :
    (∃ t, Run Step s l t) ↔ ∀ k, (outcome act k l (get s k)).isSome := by
  constructor
  · rintro ⟨t, hrun⟩ k
    rw [h.outcome_of_run hrun k]
    rfl
  · intro hall
    unfold outcome at hall
    induction l generalizing s with
    | nil => exact ⟨s, .nil s⟩
    | cons a l ih =>
        have hfirst : ∀ k, (act a k (get s k)).isSome := by
          intro k
          have hk := hall k
          rw [List.foldlM_cons] at hk
          cases hact : act a k (get s k) with
          | none => rw [hact] at hk; cases hk
          | some b => rfl
        obtain ⟨u, hstep⟩ := h.exists_step hfirst
        obtain ⟨t, hrun⟩ := ih (s := u) fun k => by
          have hk := hall k
          rwa [List.foldlM_cons, h.at_each hstep k] at hk
        exact ⟨t, hrun.cons hstep⟩

variable {sources : List (List α)} {out : List α}

/-- What sources do together at a place of one of them is what this one does alone. -/
theorem outcome_merged (htouches : Touches touches act) (hmerge : Merge sources out)
    (hseparate : Separate touches sources) {source : List α} (hsource : source ∈ sources) {a : α}
    (ha : a ∈ source) (hk : touches a k = true) (b : β) :
    outcome act k out b = outcome act k source b := by
  rw [← outcome_filter htouches k out, hmerge.filter_eq hseparate,
    Merge.filter_flatten_of_mem hseparate hsource ha hk, outcome_filter htouches]

/-- Nothing is done at a place that none of them touches. -/
theorem outcome_merged_of_forall (htouches : Touches touches act) (hmerge : Merge sources out)
    (hseparate : Separate touches sources) (hk : ∀ source ∈ sources, ∀ a ∈ source, touches a k = false)
    (b : β) : outcome act k out b = some b := by
  rw [← outcome_filter htouches k out, hmerge.filter_eq hseparate, Merge.filter_flatten_of_forall hk]
  rfl

/-- Sources that touch different places can run together if each of them can run alone. -/
theorem exists_merged_iff (h : Local Step get act) (htouches : Touches touches act)
    (hmerge : Merge sources out) (hseparate : Separate touches sources) :
    (∃ t, Run Step s out t) ↔ ∀ source ∈ sources, ∃ t, Run Step s source t := by
  simp only [h.exists_run_iff]
  constructor
  · intro hout source hsource k
    by_cases hk : ∃ a ∈ source, touches a k = true
    · obtain ⟨a, ha, hk⟩ := hk
      rw [← outcome_merged htouches hmerge hseparate hsource ha hk]
      exact hout k
    · rw [outcome_of_forall htouches]
      · rfl
      · intro a ha
        rw [← Bool.not_eq_true]
        exact fun htouches => hk ⟨a, ha, htouches⟩
  · intro hall k
    by_cases hk : ∃ source ∈ sources, ∃ a ∈ source, touches a k = true
    · obtain ⟨source, hsource, a, ha, hk⟩ := hk
      rw [outcome_merged htouches hmerge hseparate hsource ha hk]
      exact hall source hsource k
    · rw [outcome_merged_of_forall htouches hmerge hseparate]
      · rfl
      · intro source hsource a ha
        rw [← Bool.not_eq_true]
        exact fun htouches => hk ⟨source, hsource, a, ha, htouches⟩

/-- They leave a place of one of them as this one does. -/
theorem get_merged (h : Local Step get act) (htouches : Touches touches act) (hmerge : Merge sources out)
    (hseparate : Separate touches sources) (hrun : Run Step s out t) {source : List α}
    (hsource : source ∈ sources) {u : σ} (halone : Run Step s source u) {a : α} (ha : a ∈ source)
    (hk : touches a k = true) : get t k = get u k := by
  have hout := h.outcome_of_run hrun k
  rw [outcome_merged htouches hmerge hseparate hsource ha hk, h.outcome_of_run halone k] at hout
  exact (Option.some.inj hout).symm

/-- And they leave the other places alone. -/
theorem get_merged_of_forall (h : Local Step get act) (htouches : Touches touches act)
    (hmerge : Merge sources out) (hseparate : Separate touches sources) (hrun : Run Step s out t)
    (hk : ∀ source ∈ sources, ∀ a ∈ source, touches a k = false) : get t k = get s k := by
  have hout := h.outcome_of_run hrun k
  rw [outcome_merged_of_forall htouches hmerge hseparate hk] at hout
  exact (Option.some.inj hout).symm

end Local

end BleWsCentral.Found
