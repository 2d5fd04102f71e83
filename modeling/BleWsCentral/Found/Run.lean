import Mathlib

/-!
# Runs of a labelled machine

A machine is a relation `Step : σ → α → σ → Prop`; a run is a finite sequence of labelled steps.

* `Run Step s l t` — the labels `l` lead from `s` to `t`, one step each.
* `Run.invariant` — what every step preserves, every run preserves. This is the one induction over
  runs; each safety result below is an instance of it. `Run.simulates` is its form for two machines.
* `Guarded Step G` — the machine restricted to the steps that meet `G`, for results of the shape
  "in every run whose steps all meet the condition"; `Run.iff_guarded` for "if and only if".
* `Partial f`, `Fallible f` — the machine of a step function that may be disabled (`Option`) or may
  fail (`Except`). For these a run is `List.foldlM` (`run_partial_iff`, `run_fallible_iff`), which is
  how a concrete run is computed. `bind_eq_ok`, `bind_eq_error` and `mapM_eq_ok` take fallible
  computations apart.
-/

namespace BleWsCentral.Found

variable {σ α ε : Type*}

/-- A finite run, read from its end: the last label of the list is the last step taken. -/
inductive Run (Step : σ → α → σ → Prop) : σ → List α → σ → Prop
  | nil (s : σ) : Run Step s [] s
  | snoc {s t u : σ} {l : List α} {a : α} (hrun : Run Step s l t) (hstep : Step t a u) :
      Run Step s (l ++ [a]) u

namespace Run

variable {Step : σ → α → σ → Prop} {s t u : σ} {l l' : List α} {a : α}

/-- A run can be taken up where another one ended. -/
theorem append (h : Run Step s l t) (h' : Run Step t l' u) : Run Step s (l ++ l') u := by
  induction h' with
  | nil => simpa using h
  | snoc _ hstep ih =>
      rw [← List.append_assoc]
      exact .snoc ih hstep

/-- A single step is a run. -/
theorem single (h : Step s a t) : Run Step s [a] t := by
  simpa using Run.snoc (.nil s) h

/-- A run can be extended at its start. -/
theorem cons (h : Step s a t) (hrun : Run Step t l u) : Run Step s (a :: l) u :=
  (single h).append hrun

/-- A run of no steps ends where it started. -/
theorem nil_iff : Run Step s [] t ↔ s = t := by
  constructor
  · intro h
    generalize hl : ([] : List α) = l at h
    cases h with
    | nil => rfl
    | snoc => simp at hl
  · rintro rfl
    exact .nil s

/-- A run with a first label takes a first step. -/
theorem exists_first (h : Run Step s l u) :
    ∀ {a : α} {l' : List α}, l = a :: l' → ∃ t, Step s a t ∧ Run Step t l' u := by
  induction h with
  | nil => simp
  | @snoc v w m b hrun hstep ih =>
      intro a l' hl
      cases m with
      | nil =>
          obtain ⟨rfl, rfl⟩ : b = a ∧ l' = [] := by simpa [eq_comm] using hl
          obtain rfl := nil_iff.mp hrun
          exact ⟨w, hstep, .nil w⟩
      | cons c m =>
          obtain ⟨rfl, rfl⟩ : c = a ∧ l' = m ++ [b] := by simpa [eq_comm] using hl
          obtain ⟨t, hfirst, hrest⟩ := ih rfl
          exact ⟨t, hfirst, .snoc hrest hstep⟩

/-- The first step of a run. -/
theorem cons_iff : Run Step s (a :: l) u ↔ ∃ t, Step s a t ∧ Run Step t l u :=
  ⟨fun h => h.exists_first rfl, fun ⟨_, hstep, hrun⟩ => hrun.cons hstep⟩

/-- What every step preserves, every run preserves. -/
theorem invariant {I : σ → Prop} (hI : ∀ s a t, I s → Step s a t → I t) (h : Run Step s l t)
    (hs : I s) : I t := by
  induction h with
  | nil => exact hs
  | snoc _ hstep ih => exact hI _ _ _ ih hstep

/-- What every step preserves with the labels so far, every run preserves. -/
theorem history {I : List α → σ → Prop} (hI : ∀ l s a t, I l s → Step s a t → I (l ++ [a]) t)
    (h : Run Step s l t) (hs : I [] s) : I l t := by
  induction h with
  | nil => exact hs
  | snoc _ hstep ih => exact hI _ _ _ _ ih hstep

/-- If every step is matched by steps of another machine, then so is every run. -/
theorem simulates {τ : Type*} {Next : τ → τ → Prop} {R : σ → τ → Prop}
    (hsim : ∀ s a t r, R s r → Step s a t → ∃ r', Relation.ReflTransGen Next r r' ∧ R t r')
    (h : Run Step s l t) {r : τ} (hr : R s r) : ∃ r', Relation.ReflTransGen Next r r' ∧ R t r' := by
  induction h with
  | nil => exact ⟨r, .refl, hr⟩
  | snoc _ hstep ih =>
      obtain ⟨r', hsteps, hr'⟩ := ih
      obtain ⟨r'', hnext, hr''⟩ := hsim _ _ _ _ hr' hstep
      exact ⟨r'', hsteps.trans hnext, hr''⟩

/-- A machine that can do more has more runs. -/
theorem mono {Step' : σ → α → σ → Prop} (hle : ∀ s a t, Step s a t → Step' s a t)
    (h : Run Step s l t) : Run Step' s l t := by
  induction h with
  | nil => exact .nil _
  | snoc _ hstep ih => exact .snoc ih (hle _ _ _ hstep)

end Run

/-- The machine restricted to the steps that meet `G`. -/
def Guarded (Step : σ → α → σ → Prop) (G : σ → α → Prop) : σ → α → σ → Prop :=
  fun s a t => G s a ∧ Step s a t

/-- The machine of a step function that may be disabled. -/
def Partial (f : σ → α → Option σ) : σ → α → σ → Prop := fun s a t => f s a = some t

/-- The machine of a step function that may fail; a failing step leads nowhere. -/
def Fallible (f : σ → α → Except ε σ) : σ → α → σ → Prop := fun s a t => f s a = .ok t

/-- A run that meets the guard is a run. -/
theorem Run.of_guarded {Step : σ → α → σ → Prop} {G : σ → α → Prop} {s t : σ} {l : List α}
    (h : Run (Guarded Step G) s l t) : Run Step s l t :=
  h.mono fun _ _ _ hstep => hstep.2

/-- A run of labels that always meet the guard meets it. -/
theorem Run.guarded_of_forall {Step : σ → α → σ → Prop} {G : σ → α → Prop} {s t : σ} {l : List α}
    (h : Run Step s l t) (hG : ∀ a ∈ l, ∀ s, G s a) : Run (Guarded Step G) s l t := by
  induction h with
  | nil => exact .nil _
  | snoc _ hstep ih =>
      refine .snoc (ih fun a ha => hG a (List.mem_append_left _ ha)) ⟨hG _ ?_ _, hstep⟩
      exact List.mem_append_right _ (List.mem_singleton.mpr rfl)

/-- What a step from a state that meets the invariant keeps exactly if it meets the guard holds at the end
of the runs that meet it. -/
theorem Run.iff_guarded_of_invariant {Step : σ → α → σ → Prop} {G : σ → α → Prop} {I P : σ → Prop}
    {s t : σ} {l : List α} (hI : ∀ s a t, I s → Step s a t → I t)
    (hP : ∀ s a t, I s → Step s a t → (P t ↔ P s ∧ G s a)) (h : Run Step s l t) (hi : I s) (hs : P s) :
    P t ↔ Run (Guarded Step G) s l t := by
  constructor
  · intro ht
    induction h with
    | nil => exact .nil _
    | snoc hrun hstep ih =>
        obtain ⟨hbefore, hguard⟩ := (hP _ _ _ (hrun.invariant hI hi) hstep).mp ht
        exact .snoc (ih hbefore) ⟨hguard, hstep⟩
  · intro hguarded
    have hboth := hguarded.invariant (I := fun s => I s ∧ P s)
      (fun s a t ⟨hi, hp⟩ hstep => ⟨hI s a t hi hstep.2, (hP s a t hi hstep.2).mpr ⟨hp, hstep.1⟩⟩) ⟨hi, hs⟩
    exact hboth.2

/-- What a step keeps exactly if it meets the guard holds at the end of the runs that meet it. -/
theorem Run.iff_guarded {Step : σ → α → σ → Prop} {G : σ → α → Prop} {P : σ → Prop} {s t : σ}
    {l : List α} (hP : ∀ s a t, Step s a t → (P t ↔ P s ∧ G s a)) (h : Run Step s l t) (hs : P s) :
    P t ↔ Run (Guarded Step G) s l t :=
  h.iff_guarded_of_invariant (I := fun _ => True) (fun _ _ _ _ _ => trivial)
    (fun s a t _ hstep => hP s a t hstep) trivial hs

/-- A composed computation succeeds if both of its parts do. -/
theorem bind_eq_ok {β γ : Type} {x : Except ε β} {f : β → Except ε γ} {c : γ} :
    x >>= f = .ok c ↔ ∃ b, x = .ok b ∧ f b = .ok c := by
  cases x with
  | error e => simp [bind, Except.bind]
  | ok b => simp [bind, Except.bind]

/-- A composed computation succeeds with some result if its second part does after its first one. -/
theorem exists_bind_eq_ok {β γ : Type} {x : Except ε β} {f : β → Except ε γ} :
    (∃ c, x >>= f = .ok c) ↔ ∃ b, x = .ok b ∧ ∃ c, f b = .ok c := by
  simp only [bind_eq_ok]
  exact ⟨fun ⟨c, b, hb, hc⟩ => ⟨b, hb, c, hc⟩, fun ⟨b, hb, c, hc⟩ => ⟨c, b, hb, hc⟩⟩

/-- A composed computation fails with what one of its parts fails with. -/
theorem bind_eq_error {β γ : Type} {x : Except ε β} {f : β → Except ε γ} {e : ε} :
    x >>= f = .error e ↔ x = .error e ∨ ∃ b, x = .ok b ∧ f b = .error e := by
  cases x with
  | error e' => simp [bind, Except.bind]
  | ok b => simp [bind, Except.bind]

/-- A loop fails with what one of its turns fails with. -/
theorem of_foldlM_eq_error {β γ : Type} {f : γ → β → Except ε γ} {P : ε → Prop}
    (h : ∀ s b e, f s b = .error e → P e) {l : List β} {s : γ} {e : ε} (hfail : l.foldlM f s = .error e) :
    P e := by
  induction l generalizing s with
  | nil => cases hfail
  | cons b l ih =>
      rw [List.foldlM_cons] at hfail
      rcases bind_eq_error.mp hfail with hfail | ⟨t, -, hfail⟩
      · exact h s b e hfail
      · exact ih hfail

/-- A loop that collects its results succeeds if each of its turns does. -/
theorem mapM_eq_ok {β γ : Type} {f : β → Except ε γ} {g : β → γ} {l : List β}
    (h : ∀ b ∈ l, f b = .ok (g b)) : l.mapM f = .ok (l.map g) := by
  induction l with
  | nil => rfl
  | cons b l ih =>
      rw [List.mapM_cons, h b (by simp), ih fun b hb => h b (List.mem_cons_of_mem _ hb)]
      rfl

/-- A loop that collects its results collects what its turns give. -/
theorem of_mapM_eq_ok {β γ : Type} {f : β → Except ε γ} {g : β → γ} {l : List β} {results : List γ}
    (h : ∀ b ∈ l, ∀ c, f b = .ok c → c = g b) (hloop : l.mapM f = .ok results) : results = l.map g := by
  induction l generalizing results with
  | nil =>
      rw [List.mapM_nil] at hloop
      exact (Except.ok.inj hloop).symm
  | cons b l ih =>
      rw [List.mapM_cons] at hloop
      obtain ⟨c, hturn, hloop⟩ := bind_eq_ok.mp hloop
      obtain ⟨cs, hrest, hresults⟩ := bind_eq_ok.mp hloop
      rw [← Except.ok.inj hresults, List.map_cons, h b List.mem_cons_self c hturn,
        ih (fun b hb => h b (List.mem_cons_of_mem _ hb)) hrest]

/-- The runs of a partial step function are computed by `List.foldlM`. -/
theorem run_partial_iff {f : σ → α → Option σ} {s t : σ} {l : List α} :
    Run (Partial f) s l t ↔ l.foldlM f s = some t := by
  induction l generalizing s with
  | nil => simp [Run.nil_iff]
  | cons a l ih => simp [Run.cons_iff, Partial, ih, Option.bind_eq_some_iff]

/-- So are the runs whose steps meet a condition that can be decided. -/
theorem run_guarded_iff {f : σ → α → Option σ} {G : σ → α → Bool} {s t : σ} {l : List α} :
    Run (Guarded (Partial f) fun s a => G s a = true) s l t ↔
      l.foldlM (fun s a => if G s a then f s a else none) s = some t := by
  rw [← run_partial_iff]
  refine ⟨fun h => h.mono fun s a t hstep => ?_, fun h => h.mono fun s a t hstep => ?_⟩
  · simpa [Partial, hstep.1] using hstep.2
  · rw [Partial, Option.ite_none_right_eq_some] at hstep
    exact hstep

/-- The runs of a fallible step function are computed by `List.foldlM`. -/
theorem run_fallible_iff {f : σ → α → Except ε σ} {s t : σ} {l : List α} :
    Run (Fallible f) s l t ↔ l.foldlM f s = .ok t := by
  induction l generalizing s with
  | nil => simp [Run.nil_iff, pure, Except.pure]
  | cons a l ih =>
      rw [Run.cons_iff, List.foldlM_cons]
      cases hf : f s a with
      | error e => simp [Fallible, hf, bind, Except.bind]
      | ok u => simp [Fallible, hf, bind, Except.bind, ih]

end BleWsCentral.Found
