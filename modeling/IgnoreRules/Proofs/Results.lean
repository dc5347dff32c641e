/-!
# Computations that may fail

What it means for a computation with several steps to give a result: every step gives
one. The lemmas take such a computation apart from the outside, so that a proof about
it can name what each step has given and need not look at the failures.
-/

namespace IgnoreRules

variable {α β : Type} {ε ε' : Type}

theorem bind_eq_ok_iff {first : Except ε α} {next : α → Except ε β} {result : β} :
    first >>= next = .ok result ↔ ∃ value, first = .ok value ∧ next value = .ok result := by
  cases first with
  | error fault =>
      constructor
      · intro h
        cases h
      · intro h
        obtain ⟨_, h, _⟩ := h
        cases h
  | ok value =>
      constructor
      · intro h
        exact ⟨value, rfl, h⟩
      · intro h
        obtain ⟨_, hvalue, h⟩ := h
        cases hvalue
        exact h

/-- The first fault counts. -/
theorem bind_eq_error_iff {first : Except ε α} {next : α → Except ε β} {fault : ε} :
    first >>= next = .error fault ↔
      first = .error fault ∨ ∃ value, first = .ok value ∧ next value = .error fault := by
  cases first with
  | error other =>
      constructor
      · intro h
        cases h
        exact .inl rfl
      · intro h
        rcases h with h | ⟨_, h, _⟩
        · cases h
          rfl
        · cases h
  | ok value =>
      constructor
      · intro h
        exact .inr ⟨value, rfl, h⟩
      · intro h
        rcases h with h | ⟨_, hvalue, h⟩
        · cases h
        · cases hvalue
          exact h

theorem map_eq_ok_iff {first : Except ε α} {f : α → β} {result : β} :
    first.map f = .ok result ↔ ∃ value, first = .ok value ∧ f value = result := by
  cases first <;> simp [Except.map]

theorem map_eq_error_iff {first : Except ε α} {f : α → β} {fault : ε} :
    first.map f = .error fault ↔ first = .error fault := by
  cases first <;> simp [Except.map]

theorem mapError_eq_ok_iff {first : Except ε α} {f : ε → ε'} {result : α} :
    first.mapError f = .ok result ↔ first = .ok result := by
  cases first with
  | error fault =>
      constructor
      · intro h
        cases h
      · intro h
        cases h
  | ok value =>
      constructor
      · intro h
        cases h
        rfl
      · intro h
        cases h
        rfl

theorem mapError_eq_error_iff {first : Except ε α} {f : ε → ε'} {fault : ε'} :
    first.mapError f = .error fault ↔ ∃ cause, first = .error cause ∧ f cause = fault := by
  cases first with
  | error cause =>
      constructor
      · intro h
        cases h
        exact ⟨cause, rfl, rfl⟩
      · rintro ⟨_, hcause, rfl⟩
        cases hcause
        rfl
  | ok value =>
      constructor
      · intro h
        cases h
      · rintro ⟨_, hcause, _⟩
        cases hcause

/-- Each result belongs to an input. -/
theorem exists_of_mem_mapM {f : α → Except ε β} {inputs : List α} {results : List β}
    (h : inputs.mapM f = .ok results) {result : β} (hmem : result ∈ results) :
    ∃ input ∈ inputs, f input = .ok result := by
  induction inputs generalizing results with
  | nil =>
      cases h
      cases hmem
  | cons input inputs ih =>
      rw [List.mapM_cons] at h
      obtain ⟨first, hfirst, h⟩ := bind_eq_ok_iff.1 h
      obtain ⟨others, hothers, h⟩ := bind_eq_ok_iff.1 h
      cases h
      rcases List.mem_cons.1 hmem with rfl | hmem
      · exact ⟨input, .head _, hfirst⟩
      · obtain ⟨other, hother, hresult⟩ := ih hothers hmem
        exact ⟨other, .tail _ hother, hresult⟩

/-- A fault is that of some input. -/
theorem exists_of_mapM_eq_error {f : α → Except ε β} {inputs : List α} {fault : ε}
    (h : inputs.mapM f = .error fault) : ∃ input ∈ inputs, f input = .error fault := by
  induction inputs with
  | nil => cases h
  | cons input inputs ih =>
      rw [List.mapM_cons] at h
      rcases bind_eq_error_iff.1 h with h | ⟨_, _, h⟩
      · exact ⟨input, .head _, h⟩
      · rcases bind_eq_error_iff.1 h with h | ⟨_, _, h⟩
        · obtain ⟨other, hother, hfault⟩ := ih h
          exact ⟨other, .tail _ hother, hfault⟩
        · cases h

/-- There are results for all inputs together if there is one for each of them. -/
theorem exists_mapM_eq_ok_iff {f : α → Except ε β} {inputs : List α} :
    (∃ results, inputs.mapM f = .ok results) ↔
      ∀ input ∈ inputs, ∃ result, f input = .ok result := by
  induction inputs with
  | nil => exact ⟨fun _ => List.forall_mem_nil _, fun _ => ⟨[], rfl⟩⟩
  | cons input inputs ih =>
      rw [List.forall_mem_cons, ← ih, List.mapM_cons]
      constructor
      · rintro ⟨results, h⟩
        obtain ⟨first, hfirst, h⟩ := bind_eq_ok_iff.1 h
        obtain ⟨others, hothers, _⟩ := bind_eq_ok_iff.1 h
        exact ⟨⟨first, hfirst⟩, ⟨others, hothers⟩⟩
      · rintro ⟨⟨first, hfirst⟩, ⟨others, hothers⟩⟩
        rw [hfirst, hothers]
        exact ⟨_, rfl⟩

/-- Lists of results that are put together: the first one, then those of the other inputs. -/
theorem flatten_mapM_cons (f : α → Except ε (List β)) (input : α) (inputs : List α) :
    List.flatten <$> (input :: inputs).mapM f =
      (do return (← f input) ++ (← List.flatten <$> inputs.mapM f)) := by
  rw [List.mapM_cons]
  cases f input with
  | error fault => rfl
  | ok first => cases inputs.mapM f <;> rfl

/-- A computation that is seen to succeed gives a result. -/
theorem exists_of_isOk {first : Except ε α} (h : first.isOk = true) :
    ∃ result, first = .ok result := by
  cases first with
  | error fault => cases h
  | ok result => exact ⟨result, rfl⟩

theorem eq_ok_of_toOption {first : Except ε α} {result : α} (h : first.toOption = some result) :
    first = .ok result := by
  cases first with
  | error fault => cases h
  | ok value =>
      cases h
      rfl

theorem exists_of_isOk_eq_false {first : Except ε α} (h : first.isOk = false) :
    ∃ fault, first = .error fault := by
  cases first with
  | error fault => exact ⟨fault, rfl⟩
  | ok result => cases h

end IgnoreRules
