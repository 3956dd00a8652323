import RecordSchema.Predicate

/-! How actions end. An action that is put together returns exactly when its
parts do, each from the state that the one before it left, and sequencing obeys
the laws of a monad. Later modules use nothing else about how actions run. -/
namespace RecordSchema.Action

variable {σ α β γ : Type} {state after : σ} {events : List Event}

@[simp] theorem pure_run (a : α) : (pure a : Action σ α) state = ⟨.ok a, state, []⟩ := rfl

@[simp] theorem fail_run (fault : Fault) : (fail fault : Action σ α) state = ⟨.error fault, state, []⟩ := rfl

theorem map_run (f : α → β) (action : Action σ α) :
    (f <$> action) state = ⟨(action state).result.map f, (action state).state, (action state).events⟩ := rfl

theorem bind_of_ok {first : Action σ α} {next : α → Action σ β} {a : α}
    (ran : first state = ⟨.ok a, after, events⟩) :
    (first >>= next) state =
      ⟨(next a after).result, (next a after).state, events ++ (next a after).events⟩ := by
  change Action.bind first next state = _
  simp [Action.bind, ran]

theorem bind_of_error {first : Action σ α} {next : α → Action σ β} {fault : Fault}
    (ran : first state = ⟨.error fault, after, events⟩) :
    (first >>= next) state = ⟨.error fault, after, events⟩ := by
  change Action.bind first next state = _
  simp [Action.bind, ran]

theorem bind_runs {first : Action σ α} {next : α → Action σ β} {a : α} {result : Except Fault β} {middle : σ}
    {earlier later : List Event} (ran : first state = ⟨.ok a, middle, earlier⟩)
    (then_ran : next a middle = ⟨result, after, later⟩) :
    (first >>= next) state = ⟨result, after, earlier ++ later⟩ := by
  rw [bind_of_ok ran, then_ran]

/-- A sequence returns exactly if the first action does and the second one,
run from the state that the first leaves, returns the same. -/
theorem bind_returns {first : Action σ α} {next : α → Action σ β} {b : β} :
    ((first >>= next) state).result = .ok b ↔
      ∃ a, (first state).result = .ok a ∧ (next a (first state).state).result = .ok b := by
  rcases ran : first state with ⟨_ | a, after, events⟩
  · simp [bind_of_error ran]
  · simp [bind_of_ok ran]

/-- A sequence that returns leaves the events of both actions, one after the other. -/
theorem bind_ends {first : Action σ α} {next : α → Action σ β} {b : β}
    (ran : (first >>= next) state = ⟨.ok b, after, events⟩) :
    ∃ a middle earlier later, first state = ⟨.ok a, middle, earlier⟩ ∧
      next a middle = ⟨.ok b, after, later⟩ ∧ events = earlier ++ later := by
  rcases head : first state with ⟨_ | a, middle, earlier⟩
  · rw [bind_of_error head] at ran
    cases ran
  · rw [bind_of_ok head, Outcome.mk.injEq] at ran
    obtain ⟨returned, rfl, rfl⟩ := ran
    exact ⟨a, middle, earlier, _, rfl, by rw [← returned], rfl⟩

/-- A sequence fails in its first action, and then the second one is not run,
or in the second one, run from the state that the first leaves. -/
theorem bind_fails {first : Action σ α} {next : α → Action σ β} {fault : Fault}
    (ran : (first >>= next) state = ⟨.error fault, after, events⟩) :
    first state = ⟨.error fault, after, events⟩ ∨
      ∃ a middle earlier later, first state = ⟨.ok a, middle, earlier⟩ ∧
        next a middle = ⟨.error fault, after, later⟩ ∧ events = earlier ++ later := by
  rcases head : first state with ⟨_ | a, middle, earlier⟩
  · rw [bind_of_error head] at ran
    cases ran
    exact .inl rfl
  · rw [bind_of_ok head, Outcome.mk.injEq] at ran
    obtain ⟨failed, rfl, rfl⟩ := ran
    exact .inr ⟨a, middle, earlier, _, rfl, by rw [← failed], rfl⟩

theorem map_returns {f : α → β} {action : Action σ α} {b : β} :
    ((f <$> action) state).result = .ok b ↔ ∃ a, (action state).result = .ok a ∧ f a = b := by
  rw [map_run]
  cases (action state).result <;> simp [Except.map]

theorem map_fails {f : α → β} {action : Action σ α} {fault : Fault}
    (ran : (f <$> action) state = ⟨.error fault, after, events⟩) :
    action state = ⟨.error fault, after, events⟩ := by
  rw [map_run] at ran
  rcases own : action state with ⟨_ | a, middle, earlier⟩ <;> rw [own] at ran
  · cases ran
    rfl
  · cases ran

theorem map_ends {f : α → β} {action : Action σ α} {b : β}
    (ran : (f <$> action) state = ⟨.ok b, after, events⟩) :
    ∃ a, action state = ⟨.ok a, after, events⟩ ∧ f a = b := by
  rw [map_run] at ran
  rcases own : action state with ⟨_ | a, middle, earlier⟩ <;> rw [own] at ran
  · cases ran
  · cases ran
    exact ⟨a, rfl, rfl⟩

theorem of_except_run (outcome : Except Fault α) :
    (ofExcept outcome : Action σ α) state = ⟨outcome, state, []⟩ := by
  cases outcome <;> rfl

/-- A comparison is answered for or refused on its outcome alone. -/
theorem comparison_answer_run (outcome : Except Fault Bool) :
    ∃ result, ∀ state : σ, Behaviour.comparisonAnswer outcome state = ⟨result, state, []⟩ := by
  rcases outcome with fault | b
  · cases fault <;> exact ⟨_, fun _ => rfl⟩
  · exact ⟨_, fun _ => rfl⟩

@[simp] theorem of_except_ok (a : α) : (ofExcept (.ok a) : Action σ α) = pure a := rfl

private theorem id_map_action (action : Action σ α) : id <$> action = action := by
  funext state
  rw [map_run]
  rcases action state with ⟨_ | _, _, _⟩ <;> rfl

private theorem pure_bind_action (a : α) (next : α → Action σ β) : pure a >>= next = next a := by
  funext state
  simp [bind_of_ok (pure_run a)]

private theorem bind_assoc_action (first : Action σ α) (second : α → Action σ β) (third : β → Action σ γ) :
    first >>= second >>= third = first >>= fun a => second a >>= third := by
  funext state
  rcases ran : first state with ⟨_ | a, after, events⟩
  · rw [bind_of_error (bind_of_error ran), bind_of_error ran]
  · have both : (first >>= second) state = _ := bind_of_ok ran
    rcases later : second a after with ⟨_ | b, final, more⟩
    · rw [later] at both
      rw [bind_of_error both, bind_of_ok ran, bind_of_error later]
    · rw [later] at both
      simp only [bind_of_ok both, bind_of_ok ran, bind_of_ok later, List.append_assoc]

private theorem bind_pure_action (f : α → β) (action : Action σ α) :
    action >>= (fun a => pure (f a)) = f <$> action := by
  funext state
  rw [map_run]
  rcases ran : action state with ⟨_ | a, after, events⟩
  · simp [bind_of_error ran, Except.map]
  · simp [bind_of_ok ran, Except.map]

instance : LawfulMonad (Action σ) :=
  LawfulMonad.mk' _ id_map_action pure_bind_action bind_assoc_action
    (fun _ _ => rfl) (fun _ _ => rfl) (fun _ _ => rfl) bind_pure_action

end RecordSchema.Action
