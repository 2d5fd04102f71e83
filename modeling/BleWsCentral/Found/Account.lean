import BleWsCentral.Found.Run

/-!
# Accounts

What a machine has in stock, counted in a commutative monoid, against what its labels bring in.

* `income` — what the labels of a run bring in.
* `Run.stock_eq`, `Run.stock_le` — if every step adds what its label brings in, or at most that, then so
  does a run. The equation may rest on a property of the last state that the states before it have too.
* `Run.spent_le` — if every step pays what its label costs out of the stock, then so does a run.
* `held`, `sum_concat_at` — the stock of a place for one thing, and of many places, one of which gets one
  thing more.
* `sum_filter_le` — things that are told apart by what they are for are not counted twice.
-/

namespace BleWsCentral.Found

section Income

variable {σ α M : Type*} [AddCommMonoid M]

/-- What the labels of a run bring in. -/
def income (gain : α → M) (l : List α) : M := (l.map gain).sum

@[simp] theorem income_nil (gain : α → M) : income gain [] = 0 := rfl

@[simp] theorem income_append (gain : α → M) (l l' : List α) :
    income gain (l ++ l') = income gain l + income gain l' := by
  unfold income
  rw [List.map_append, List.sum_append]

@[simp] theorem income_singleton (gain : α → M) (a : α) : income gain [a] = gain a := by
  unfold income
  rw [List.map_singleton, List.sum_singleton]

variable {Step : σ → α → σ → Prop} {I P : σ → Prop} (stock : σ → M) (gain : α → M) {s t : σ}
  {l : List α}

/-- What is there at the end was there, or came in; as long as nothing is lost. -/
theorem Run.stock_eq (hI : ∀ s a t, I s → Step s a t → I t)
    (hstep : ∀ s a t, I s → Step s a t → P t → P s ∧ stock t = stock s + gain a)
    (h : Run Step s l t) (hs : I s) (ht : P t) : stock t = stock s + income gain l := by
  induction h with
  | nil => rw [income_nil, add_zero]
  | @snoc t u l a hrun hlast ih =>
      obtain ⟨hbefore, hadd⟩ := hstep t a u (hrun.invariant hI hs) hlast ht
      rw [hadd, ih hbefore, income_append, income_singleton, add_assoc]

/-- What is there at the end is at most what was there and what came in. -/
theorem Run.stock_le [Preorder M] [AddRightMono M] (hI : ∀ s a t, I s → Step s a t → I t)
    (hstep : ∀ s a t, I s → Step s a t → stock t ≤ stock s + gain a) (h : Run Step s l t) (hs : I s) :
    stock t ≤ stock s + income gain l := by
  induction h with
  | nil => rw [income_nil, add_zero]
  | @snoc t u l a hrun hlast ih =>
      have hadd := hstep t a u (hrun.invariant hI hs) hlast
      rw [income_append, income_singleton, ← add_assoc]
      exact hadd.trans (add_le_add_left ih (gain a))

/-- What a run spends, and what it leaves, is at most what was there and what came in. -/
theorem Run.spent_le [Preorder M] [AddRightMono M] (spend : α → M) (hI : ∀ s a t, I s → Step s a t → I t)
    (hstep : ∀ s a t, I s → Step s a t → stock t + spend a ≤ stock s + gain a) (h : Run Step s l t)
    (hs : I s) : stock t + income spend l ≤ stock s + income gain l := by
  induction h with
  | nil => rw [income_nil, income_nil]
  | @snoc t u l a hrun hlast ih =>
      have hpaid := hstep t a u (hrun.invariant hI hs) hlast
      rw [income_append, income_append, income_singleton, income_singleton]
      calc stock u + (income spend l + spend a)
          = stock u + spend a + income spend l := by rw [add_comm (income spend l), add_assoc]
        _ ≤ stock t + gain a + income spend l := add_le_add_left hpaid _
        _ = stock t + income spend l + gain a := add_right_comm _ _ _
        _ ≤ stock s + income gain l + gain a := add_le_add_left ih _
        _ = stock s + (income gain l + gain a) := add_assoc _ _ _

end Income

/-- A label that brings in `n` each time. -/
theorem income_ite {α : Type*} [DecidableEq α] (b : α) (n : ℕ) (l : List α) :
    income (fun a => if a = b then n else 0) l = l.count b * n := by
  induction l with
  | nil => rw [income_nil, List.count_nil, zero_mul]
  | cons a l ih =>
      rw [← List.singleton_append, income_append, income_singleton, ih, List.singleton_append,
        List.count_cons, add_mul, add_comm]
      by_cases hab : a = b
      · simp [hab]
      · simp [hab]

section Places

variable {ι β : Type*}

/-- What a place for one thing holds. -/
def held (o : Option β) : Multiset β := o.toList

@[simp] theorem held_none : held (none : Option β) = 0 := rfl

@[simp] theorem held_some (b : β) : held (some b) = {b} := rfl

/-- What is taken out of a list and what is left make up the list. -/
theorem coe_eraseIdx {l : List β} {i : ℕ} {b : β} (h : l[i]? = some b) :
    (l.eraseIdx i : Multiset β) + {b} = l := by
  obtain ⟨hlt, rfl⟩ := List.getElem?_eq_some_iff.mp h
  rw [add_comm, Multiset.singleton_add, Multiset.cons_coe, Multiset.coe_eq_coe]
  exact List.getElem_cons_eraseIdx_perm hlt

theorem coe_concat (l : List β) (b : β) : ((l ++ [b] : List β) : Multiset β) = l + {b} :=
  (Multiset.coe_add l [b]).symm

/-- One of the places gets one thing more. -/
theorem sum_concat_at [DecidableEq ι] (places : Finset ι) (f : ι → List β) (i : ι) (b : β) :
    ∑ j ∈ places, (Function.update f i (f i ++ [b]) j : Multiset β) =
      ∑ j ∈ places, (f j : Multiset β) + if i ∈ places then {b} else 0 := by
  have hplace : ∀ j, (Function.update f i (f i ++ [b]) j : Multiset β) =
      (f j : Multiset β) + if j = i then {b} else 0 := by
    intro j
    by_cases hj : j = i
    · subst hj
      rw [Function.update_self, if_pos rfl, coe_concat]
    · rw [Function.update_of_ne hj, if_neg hj, add_zero]
  simp only [hplace, Finset.sum_add_distrib, Finset.sum_ite_eq']

/-- What is worth something in many places together is worth as much as in each. -/
theorem sum_map_sum {M : Type*} [AddCommMonoid M] (places : Finset ι) (f : ι → Multiset β) (g : β → M) :
    ((∑ i ∈ places, f i).map g).sum = ∑ i ∈ places, ((f i).map g).sum :=
  map_sum ((Multiset.sumAddMonoidHom).comp (Multiset.mapAddMonoidHom g)) f places

/-- What a list is divided into is no more than the list. -/
theorem sum_filter_le (places : Finset ι) (p : ι → β → Bool) (l : List β)
    (h : ∀ b i j, p i b = true → p j b = true → i = j) :
    ∑ i ∈ places, (l.filter (p i) : Multiset β) ≤ l := by
  classical
  rw [Multiset.le_iff_count]
  intro b
  have hcount : ∀ i, Multiset.count b (l.filter (p i) : Multiset β) =
      if p i b = true then l.count b else 0 := by
    intro i
    rw [Multiset.coe_count]
    split
    · rename_i hb
      rw [List.count_filter hb]
    · rename_i hb
      rw [List.count_eq_zero]
      exact fun hmem => hb (List.mem_filter.mp hmem).2
  rw [Multiset.count_sum', Multiset.coe_count]
  simp only [hcount]
  by_cases hb : ∃ i ∈ places, p i b = true
  · obtain ⟨i, hi, hpi⟩ := hb
    rw [Finset.sum_eq_single_of_mem i hi, if_pos hpi]
    intro j _ hne
    exact if_neg fun hpj => hne (h b j i hpj hpi)
  · push Not at hb
    rw [Finset.sum_eq_zero]
    · exact Nat.zero_le _
    · intro i hi
      exact if_neg (hb i hi)

/-- The last one of a list is one of it. -/
theorem held_getLast?_le (l : List β) : held l.getLast? ≤ (l : Multiset β) := by
  cases hlast : l.getLast? with
  | none =>
      rw [held_none]
      exact Multiset.zero_le _
  | some b =>
      rw [held_some, Multiset.singleton_le]
      exact Multiset.mem_coe.mpr (List.mem_of_getLast? hlast)

end Places

end BleWsCentral.Found
