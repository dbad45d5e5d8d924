import Mathlib.Init

/-!
# Programs that change a state and may raise

A program returns a value or raises an error, and in both cases leaves a state.
An error does not undo what was done before it.

`Ends` says what holds when a program ends, one condition for its return and one
for its error. `Alike` compares two runs of one program: they return the same
value or raise the same error, and leave related states. Both have one rule for
each way to build a program, so a law of a program is proved along its text.
-/

namespace Effects

universe u
variable {ε σ α β : Type u}

/-- Results are compared as they are built: by how they end, the value or the error, and the state.
-/
instance decidableEqResult [DecidableEq ε] [DecidableEq σ] [DecidableEq α] :
    DecidableEq (EStateM.Result ε σ α)
  | .ok value after, .ok value' after' =>
    decidable_of_iff (value = value' ∧ after = after') (by rw [EStateM.Result.ok.injEq])
  | .error error after, .error error' after' =>
    decidable_of_iff (error = error' ∧ after = after') (by rw [EStateM.Result.error.injEq])
  | .ok _ _, .error _ _ => isFalse (fun same => by cases same)
  | .error _ _, .ok _ _ => isFalse (fun same => by cases same)

section Ends

/-- What holds when a program ends from a state. -/
def Ends (program : EStateM ε σ α) (start : σ) (returned : α → σ → Prop)
    (raised : ε → σ → Prop) : Prop :=
  match program start with
  | .ok value after => returned value after
  | .error error after => raised error after

variable {program : EStateM ε σ α} {start : σ} {returned returned' : α → σ → Prop}
  {raised raised' : ε → σ → Prop}

/-- A stronger condition implies a weaker one. -/
theorem Ends.mono (ends : Ends program start returned raised)
    (weakerReturn : ∀ value after, returned value after → returned' value after)
    (weakerError : ∀ error after, raised error after → raised' error after) :
    Ends program start returned' raised' := by
  unfold Ends at ends ⊢
  split
  · rename_i value after ended
    rw [ended] at ends
    exact weakerReturn value after ends
  · rename_i error after ended
    rw [ended] at ends
    exact weakerError error after ends

/-- Every program ends. -/
theorem ends_true : Ends program start (fun _ _ => True) (fun _ _ => True) := by
  unfold Ends
  split <;> trivial

/-- Every program ends as it does. -/
theorem ends_itself : Ends program start (fun value after => program start = .ok value after)
    (fun error after => program start = .error error after) := by
  unfold Ends
  cases program start <;> rfl

/-- A law of what a program returns, when it returns. -/
theorem ends_of_returned
    (holds : ∀ value after, program start = .ok value after → returned value after) :
    Ends program start returned (fun _ _ => True) := by
  unfold Ends
  split
  · exact holds _ _ ‹_›
  · trivial

/-- Two laws of one program hold together. -/
theorem Ends.and (first : Ends program start returned raised)
    (second : Ends program start returned' raised') :
    Ends program start (fun value after => returned value after ∧ returned' value after)
      (fun error after => raised error after ∧ raised' error after) := by
  unfold Ends at first second ⊢
  split
  · rename_i value after ended
    rw [ended] at first second
    exact ⟨first, second⟩
  · rename_i error after ended
    rw [ended] at first second
    exact ⟨first, second⟩

/-- Returning a value. -/
theorem ends_pure {value : α} (holds : returned value start) :
    Ends (pure value : EStateM ε σ α) start returned raised := holds

/-- Raising an error. -/
theorem ends_throw {error : ε} (holds : raised error start) :
    Ends (throw error : EStateM ε σ α) start returned raised := holds

/-- Updating the state. -/
theorem ends_modify {change : σ → σ} {done : PUnit → σ → Prop}
    (holds : done ⟨⟩ (change start)) :
    Ends (modify change : EStateM ε σ PUnit) start done raised := holds

/-- Reading the state. -/
theorem ends_get {seen : σ → σ → Prop} {failed : ε → σ → Prop} (holds : seen start start) :
    Ends get start seen failed := holds

/-- The second program starts where the first one returned. -/
theorem ends_bind {next : α → EStateM ε σ β} {done : β → σ → Prop}
    (ends : Ends program start (fun value after => Ends (next value) after done raised) raised) :
    Ends (program >>= next) start done raised := by
  unfold Ends at ends ⊢
  change match EStateM.bind program next start with
    | .ok value after => done value after
    | .error error after => raised error after
  unfold EStateM.bind
  cases ended : program start <;> simpa only [ended] using ends

/-- A law of the first program goes into the second one, and its errors pass. -/
theorem Ends.seq {next : α → EStateM ε σ β} {done : β → σ → Prop}
    (first : Ends program start returned raised)
    (second : ∀ value after, returned value after → Ends (next value) after done raised) :
    Ends (program >>= next) start done raised :=
  ends_bind (first.mono second (fun _ _ => id))

/-- A first program that always returns. -/
theorem Ends.next {next : α → EStateM ε σ β} {done : β → σ → Prop}
    (first : Ends program start returned (fun _ _ => False))
    (second : ∀ value after, returned value after → Ends (next value) after done raised) :
    Ends (program >>= next) start done raised :=
  ends_bind (first.mono second (fun _ _ => False.elim))

/-- The handler starts where the program raised. -/
theorem ends_tryCatch {handler : ε → EStateM ε σ α}
    (ends : Ends program start returned (fun error after =>
      Ends (handler error) after returned raised)) :
    Ends (tryCatch program handler) start returned raised := by
  unfold Ends at ends ⊢
  change match EStateM.tryCatch program handler start with
    | .ok value after => returned value after
    | .error error after => raised error after
  unfold EStateM.tryCatch
  cases ended : program start <;> rw [ended] at ends <;> exact ends

/-- A test on values known before. -/
theorem ends_ite {condition : Prop} [Decidable condition] {other : EStateM ε σ α}
    (positive : condition → Ends program start returned raised)
    (negative : ¬condition → Ends other start returned raised) :
    Ends (if condition then program else other) start returned raised := by
  split
  · exact positive ‹_›
  · exact negative ‹_›

/-- A program that is known to have returned. -/
theorem ends_of_ok {value : α} {after : σ} (ended : program start = .ok value after) :
    Ends program start (fun value' after' => value' = value ∧ after' = after)
      (fun _ _ => False) := by
  unfold Ends
  rw [ended]
  exact ⟨rfl, rfl⟩

/-- A program that is known to have raised. -/
theorem ends_of_error {error : ε} {after : σ} (ended : program start = .error error after) :
    Ends program start (fun _ _ => False)
      (fun error' after' => error' = error ∧ after' = after) := by
  unfold Ends
  rw [ended]
  exact ⟨rfl, rfl⟩

/-- A program that returned satisfies its return condition. -/
theorem Ends.of_ok {value : α} {after : σ} (ends : Ends program start returned raised)
    (ended : program start = .ok value after) : returned value after := by
  unfold Ends at ends
  rwa [ended] at ends

/-- A program that raised satisfies its error condition. -/
theorem Ends.of_error {error : ε} {after : σ} (ends : Ends program start returned raised)
    (ended : program start = .error error after) : raised error after := by
  unfold Ends at ends
  rwa [ended] at ends

/-- A sequence goes on where its first part returned. -/
theorem bind_of_ok {next : α → EStateM ε σ β} {value : α} {after : σ}
    (ended : program start = .ok value after) : (program >>= next) start = next value after := by
  change EStateM.bind program next start = _
  unfold EStateM.bind
  rw [ended]

/-- A sequence that returned returned twice. -/
theorem bind_returned {next : α → EStateM ε σ β} {value : β} {after : σ}
    (ended : (program >>= next) start = .ok value after) :
    ∃ between middle, program start = .ok between middle ∧ next between middle = .ok value after := by
  change EStateM.bind program next start = _ at ended
  unfold EStateM.bind at ended
  cases first : program start with
  | ok between middle =>
    rw [first] at ended
    exact ⟨between, middle, rfl, ended⟩
  | error error middle =>
    rw [first] at ended
    cases ended

/-- The state that a program leaves, however it ended. -/
def final (program : EStateM ε σ α) (start : σ) : σ :=
  match program start with
  | .ok _ after => after
  | .error _ after => after

/-- What holds at both ends holds of the state that a program leaves. -/
theorem Ends.final {law : σ → Prop}
    (ends : Ends program start (fun _ after => law after) (fun _ after => law after)) :
    law (final program start) := by
  unfold Ends at ends
  unfold Effects.final
  cases ended : program start <;> rwa [ended] at ends

/-- The state at the end is the state that the program leaves. -/
theorem Ends.at_final (ends : Ends program start returned raised) :
    Ends program start (fun value _ => returned value (Effects.final program start))
      (fun error _ => raised error (Effects.final program start)) := by
  unfold Ends at ends ⊢
  unfold Effects.final
  cases ended : program start <;> simpa only [ended] using ends

end Ends

section Alike

/-- Two runs of a program from two states return the same value or raise the same
error, and leave related states. -/
def Alike (program : EStateM ε σ α) (first second : σ) (returned : α → σ → σ → Prop)
    (raised : ε → σ → σ → Prop) : Prop :=
  match program first, program second with
  | .ok value after, .ok value' after' => value = value' ∧ returned value after after'
  | .error error after, .error error' after' => error = error' ∧ raised error after after'
  | _, _ => False

variable {program : EStateM ε σ α} {first second : σ} {returned returned' : α → σ → σ → Prop}
  {raised raised' : ε → σ → σ → Prop}

/-- A stronger relation implies a weaker one. -/
theorem Alike.mono (alike : Alike program first second returned raised)
    (weakerReturn : ∀ value after after',
      returned value after after' → returned' value after after')
    (weakerError : ∀ error after after', raised error after after' → raised' error after after') :
    Alike program first second returned' raised' := by
  unfold Alike at alike ⊢
  cases ended : program first <;> cases ended' : program second <;>
    simp only [ended, ended'] at alike ⊢
  · exact ⟨alike.1, weakerReturn _ _ _ alike.2⟩
  · exact ⟨alike.1, weakerError _ _ _ alike.2⟩

/-- Both return the same value. -/
theorem alike_pure {value : α} (holds : returned value first second) :
    Alike (pure value : EStateM ε σ α) first second returned raised := ⟨rfl, holds⟩

/-- Both raise the same error. -/
theorem alike_throw {error : ε} (holds : raised error first second) :
    Alike (throw error : EStateM ε σ α) first second returned raised := ⟨rfl, holds⟩

/-- Updating both states. -/
theorem alike_modify {change : σ → σ} {done : PUnit → σ → σ → Prop}
    (holds : done ⟨⟩ (change first) (change second)) :
    Alike (modify change : EStateM ε σ PUnit) first second done raised := ⟨rfl, holds⟩

/-- The second program starts where the first one returned, in both runs. -/
theorem alike_bind {next : α → EStateM ε σ β} {done : β → σ → σ → Prop}
    (alike : Alike program first second
      (fun value after after' => Alike (next value) after after' done raised) raised) :
    Alike (program >>= next) first second done raised := by
  unfold Alike at alike
  change match EStateM.bind program next first, EStateM.bind program next second with
    | .ok value after, .ok value' after' => value = value' ∧ done value after after'
    | .error error after, .error error' after' => error = error' ∧ raised error after after'
    | _, _ => False
  unfold EStateM.bind
  cases ended : program first <;> cases ended' : program second <;>
    simp only [ended, ended'] at alike ⊢
  · obtain ⟨rfl, continued⟩ := alike
    exact continued
  · exact alike

/-- The handler starts where the program raised, in both runs. -/
theorem alike_tryCatch {handler : ε → EStateM ε σ α}
    (alike : Alike program first second returned
      (fun error after after' => Alike (handler error) after after' returned raised)) :
    Alike (tryCatch program handler) first second returned raised := by
  unfold Alike at alike
  change match EStateM.tryCatch program handler first, EStateM.tryCatch program handler second with
    | .ok value after, .ok value' after' => value = value' ∧ returned value after after'
    | .error error after, .error error' after' => error = error' ∧ raised error after after'
    | _, _ => False
  unfold EStateM.tryCatch
  cases ended : program first <;> cases ended' : program second <;>
    simp only [ended, ended'] at alike ⊢
  · exact alike
  · obtain ⟨rfl, handled⟩ := alike
    exact handled

/-- A test on values that both runs share. -/
theorem alike_ite {condition : Prop} [Decidable condition] {other : EStateM ε σ α}
    (positive : condition → Alike program first second returned raised)
    (negative : ¬condition → Alike other first second returned raised) :
    Alike (if condition then program else other) first second returned raised := by
  split
  · exact positive ‹_›
  · exact negative ‹_›

/-- A law of the first program goes into the second one, and its errors pass. -/
theorem Alike.seq {next : α → EStateM ε σ β} {done : β → σ → σ → Prop}
    (alike : Alike program first second returned raised)
    (continued : ∀ value after after', returned value after after' →
      Alike (next value) after after' done raised) :
    Alike (program >>= next) first second done raised :=
  alike_bind (alike.mono continued (fun _ _ _ => id))

/-- Laws of the single runs go along with a law of both. -/
theorem Alike.with_ends {single single' : α → σ → Prop} {error error' : ε → σ → Prop}
    (alike : Alike program first second returned raised)
    (ends : Ends program first single error) (ends' : Ends program second single' error') :
    Alike program first second
      (fun value after after' => returned value after after' ∧ single value after ∧
        single' value after')
      (fun value after after' => raised value after after' ∧ error value after ∧
        error' value after') := by
  unfold Alike at alike ⊢
  unfold Ends at ends ends'
  cases ended : program first <;> cases ended' : program second <;>
    simp only [ended, ended'] at alike ends ends' ⊢
  · obtain ⟨rfl, holds⟩ := alike
    exact ⟨rfl, holds, ends, ends'⟩
  · obtain ⟨rfl, holds⟩ := alike
    exact ⟨rfl, holds, ends, ends'⟩

/-- Two runs whose outcome is known are alike. -/
theorem alike_of_expected {single single' : σ → Prop} {error error' : σ → Prop}
    (expected : Except ε α)
    (ends : Ends program first (fun value after => expected = .ok value ∧ single after)
      (fun value after => expected = .error value ∧ error after))
    (ends' : Ends program second (fun value after => expected = .ok value ∧ single' after)
      (fun value after => expected = .error value ∧ error' after)) :
    Alike program first second
      (fun value after after' => expected = .ok value ∧ single after ∧ single' after')
      (fun value after after' => expected = .error value ∧ error after ∧ error' after') := by
  unfold Ends at ends ends'
  unfold Alike
  cases ended : program first <;> cases ended' : program second <;>
    simp only [ended, ended'] at ends ends' ⊢
  · exact ⟨Except.ok.inj (ends.1.symm.trans ends'.1), ends.1, ends.2, ends'.2⟩
  · cases ends.1.symm.trans ends'.1
  · cases ends.1.symm.trans ends'.1
  · exact ⟨Except.error.inj (ends.1.symm.trans ends'.1), ends.1, ends.2, ends'.2⟩

/-- Two runs that return the same value are alike. -/
theorem alike_of_returns {single single' : σ → Prop} (expected : α)
    (ends : Ends program first (fun value after => value = expected ∧ single after)
      (fun _ _ => False))
    (ends' : Ends program second (fun value after => value = expected ∧ single' after)
      (fun _ _ => False)) :
    Alike program first second
      (fun value after after' => value = expected ∧ single after ∧ single' after') raised := by
  unfold Ends at ends ends'
  unfold Alike
  cases ended : program first <;> cases ended' : program second <;>
    simp only [ended, ended'] at ends ends' ⊢
  exact ⟨ends.1.trans ends'.1.symm, ends.1, ends.2, ends'.2⟩

/-- Two runs without a value are alike where both return. -/
theorem alike_of_done {program : EStateM ε σ PUnit} {single single' : σ → Prop}
    {returned : PUnit → σ → σ → Prop}
    (ends : Ends program first (fun _ after => single after) (fun _ _ => False))
    (ends' : Ends program second (fun _ after => single' after) (fun _ _ => False))
    (both : ∀ after after', single after → single' after' → returned ⟨⟩ after after') :
    Alike program first second returned raised := by
  unfold Ends at ends ends'
  unfold Alike
  cases ended : program first <;> cases ended' : program second <;>
    simp only [ended, ended'] at ends ends' ⊢
  exact ⟨trivial, both _ _ ends ends'⟩

/-- What a program returns or raises, without the state it leaves. -/
def outcome (program : EStateM ε σ α) (start : σ) : Except ε α :=
  match program start with
  | .ok value _ => .ok value
  | .error error _ => .error error

/-- A program that returned has its value for an outcome. -/
theorem outcome_ok {value : α} {after : σ} (ended : program first = .ok value after) :
    outcome program first = .ok value := by
  unfold outcome
  rw [ended]

/-- A program that raised has its error for an outcome. -/
theorem outcome_raised {error : ε} {after : σ} (ended : program first = .error error after) :
    outcome program first = .error error := by
  unfold outcome
  rw [ended]

/-- The outcome of a sequence whose first part returned is that of the second. -/
theorem outcome_bind_ok {next : α → EStateM ε σ β} {value : α} {after : σ}
    (ended : program first = .ok value after) :
    outcome (program >>= next) first = outcome (next value) after := by
  unfold outcome
  rw [bind_of_ok ended]

/-- A sequence whose first part raised raises that. -/
theorem bind_of_error {next : α → EStateM ε σ β} {error : ε} {after : σ}
    (ended : program first = .error error after) :
    (program >>= next) first = .error error after := by
  change EStateM.bind program next first = _
  unfold EStateM.bind
  rw [ended]

/-- A handler goes on where its program raised. -/
theorem tryCatch_of_error {handler : ε → EStateM ε σ α} {error : ε} {after : σ}
    (ended : program first = .error error after) :
    tryCatch program handler first = handler error after := by
  change EStateM.tryCatch program handler first = _
  unfold EStateM.tryCatch
  rw [ended]
  rfl

/-- A sequence whose first part has an error for an outcome has the same one. -/
theorem outcome_bind_error {next : α → EStateM ε σ β} {error : ε}
    (failed : outcome program first = .error error) :
    outcome (program >>= next) first = .error error := by
  unfold outcome at failed
  cases ended : program first with
  | ok value after =>
    rw [ended] at failed
    cases failed
  | error raised after =>
    rw [ended] at failed
    cases failed
    exact outcome_raised (bind_of_error ended)

/-- What was returned satisfies a law of the return. -/
theorem Ends.of_outcome {value : α} {returned : α → σ → Prop} {raised : ε → σ → Prop}
    (ends : Ends program first returned raised) (ended : outcome program first = .ok value) :
    ∃ after, returned value after := by
  unfold outcome at ended
  cases result : program first with
  | ok value' after =>
    rw [result] at ended
    cases ended
    exact ⟨after, ends.of_ok result⟩
  | error error after =>
    rw [result] at ended
    cases ended

/-- The outcome of a program that can only return or raise what is expected. -/
theorem Ends.outcome_eq {expected : Except ε α}
    (ends : Ends program first (fun value _ => expected = .ok value)
      (fun error _ => expected = .error error)) : outcome program first = expected := by
  unfold Ends at ends
  unfold outcome
  cases ended : program first <;> rw [ended] at ends <;> exact ends.symm

/-- A program that never returns raises. -/
theorem Ends.outcome_error {raised : ε → σ → Prop}
    (ends : Ends program first (fun _ _ => False) raised) :
    ∃ error after, outcome program first = .error error ∧ raised error after := by
  unfold Ends at ends
  unfold outcome
  cases ended : program first with
  | ok value after =>
    rw [ended] at ends
    exact ends.elim
  | error error after =>
    rw [ended] at ends
    exact ⟨error, after, rfl, ends⟩

/-- A program and then an error. -/
theorem outcome_then_throw (program : EStateM ε σ β) (error : ε) (start : σ) :
    outcome (program >>= fun _ => (throw error : EStateM ε σ α)) start =
      match outcome program start with
      | .ok _ => .error error
      | .error earlier => .error earlier := by
  unfold outcome
  change (match EStateM.bind program (fun _ => (EStateM.throw error : EStateM ε σ α)) start with
    | .ok value _ => Except.ok value
    | .error error _ => Except.error error) = _
  unfold EStateM.bind
  cases program start <;> rfl

/-- The outcome of a program whose value is passed through a function. -/
theorem outcome_map (program : EStateM ε σ α) (change : α → β) (start : σ) :
    outcome (program >>= fun value => pure (change value)) start =
      (outcome program start).map change := by
  unfold outcome
  change (match EStateM.bind program (fun value => EStateM.pure (change value)) start with
    | .ok value _ => Except.ok value
    | .error error _ => Except.error error) = _
  unfold EStateM.bind
  cases ended : program start <;> rfl

/-- A program that is seen to return returns its outcome and its final state. -/
theorem returned_of_outcome (default : α) (ended : (outcome program first).toOption.isSome = true) :
    program first = .ok ((outcome program first).toOption.getD default) (final program first) := by
  unfold outcome at ended ⊢
  unfold Effects.final
  cases result : program first with
  | ok value after => rfl
  | error error after =>
    rw [result] at ended
    cases ended

/-- The same of a program without a value. -/
theorem done_of_outcome {program : EStateM ε σ PUnit}
    (ended : (outcome program first).toOption.isSome = true) :
    program first = .ok ⟨⟩ (final program first) :=
  returned_of_outcome ⟨⟩ ended

/-- A run is alike with itself. -/
theorem Alike.self_ends (alike : Alike program first first returned raised) :
    Ends program first (fun value after => returned value after after)
      (fun error after => raised error after after) := by
  unfold Alike at alike
  unfold Ends
  cases ended : program first <;> rw [ended] at alike <;> exact alike.2

/-- Alike runs have the same outcome. -/
theorem Alike.outcome_eq (alike : Alike program first second returned raised) :
    outcome program first = outcome program second := by
  unfold Alike at alike
  unfold outcome
  cases ended : program first <;> cases ended' : program second <;>
    simp only [ended, ended'] at alike ⊢
  · rw [alike.1]
  · rw [alike.1]

/-- What one run returned the other returned too. -/
theorem Alike.of_ok {value : α} {after : σ} (alike : Alike program first second returned raised)
    (ended : program first = .ok value after) :
    ∃ after', program second = .ok value after' ∧ returned value after after' := by
  unfold Alike at alike
  rw [ended] at alike
  cases ended' : program second with
  | ok value' after' =>
    rw [ended'] at alike
    obtain ⟨rfl, holds⟩ := alike
    exact ⟨after', rfl, holds⟩
  | error error after' =>
    rw [ended'] at alike
    exact alike.elim

/-- What one run raised the other raised too. -/
theorem Alike.of_error {error : ε} {after : σ} (alike : Alike program first second returned raised)
    (ended : program first = .error error after) :
    ∃ after', program second = .error error after' ∧ raised error after after' := by
  unfold Alike at alike
  rw [ended] at alike
  cases ended' : program second with
  | ok value' after' =>
    rw [ended'] at alike
    exact alike.elim
  | error error' after' =>
    rw [ended'] at alike
    obtain ⟨rfl, holds⟩ := alike
    exact ⟨after', rfl, holds⟩

end Alike

section Mirrors

variable {τ : Type u} {view : τ → σ} {start : τ}

/-- From a state a program ends like another one does from the part of the state that `view`
shows, and leaves the part that the other one leaves. -/
def MirrorsAt (view : τ → σ) (program : EStateM ε τ α) (inner : EStateM ε σ α) (start : τ) : Prop :=
  match program start, inner (view start) with
  | .ok value after, .ok value' after' => value = value' ∧ view after = after'
  | .error error after, .error error' after' => error = error' ∧ view after = after'
  | _, _ => False

/-- A program does the same as another one on the part of the state that `view` shows. -/
def Mirrors (view : τ → σ) (program : EStateM ε τ α) (inner : EStateM ε σ α) : Prop :=
  ∀ start, MirrorsAt view program inner start

/-- Where the program returned, the other one returned the same. -/
theorem MirrorsAt.of_ok {program : EStateM ε τ α} {inner : EStateM ε σ α} {value : α} {after : τ}
    (mirrors : MirrorsAt view program inner start) (ended : program start = .ok value after) :
    inner (view start) = .ok value (view after) := by
  unfold MirrorsAt at mirrors
  rw [ended] at mirrors
  cases ended' : inner (view start) <;> rw [ended'] at mirrors
  · obtain ⟨rfl, rfl⟩ := mirrors
    rfl
  · exact mirrors.elim

/-- Where the program raised, the other one raised the same. -/
theorem MirrorsAt.of_error {program : EStateM ε τ α} {inner : EStateM ε σ α} {error : ε} {after : τ}
    (mirrors : MirrorsAt view program inner start) (ended : program start = .error error after) :
    inner (view start) = .error error (view after) := by
  unfold MirrorsAt at mirrors
  rw [ended] at mirrors
  cases ended' : inner (view start) <;> rw [ended'] at mirrors
  · exact mirrors.elim
  · obtain ⟨rfl, rfl⟩ := mirrors
    rfl

/-- Returning a value shows in no state. -/
theorem mirrors_pure (value : α) :
    Mirrors view (pure value : EStateM ε τ α) (pure value) :=
  fun _ => ⟨rfl, rfl⟩

/-- Nor does raising an error. -/
theorem mirrors_throw (error : ε) :
    Mirrors view (throw error : EStateM ε τ α) (throw error) :=
  fun _ => ⟨rfl, rfl⟩

/-- Reading the state is nothing to the inner program. -/
theorem mirrorsAt_get {inner : EStateM ε σ α} {next : τ → EStateM ε τ α}
    (here : MirrorsAt view (next start) inner start) : MirrorsAt view (get >>= next) inner start :=
  here

/-- Programs that mirror each other from the states that they come to are composed alike. -/
theorem MirrorsAt.bind {program : EStateM ε τ α} {inner : EStateM ε σ α}
    {next : α → EStateM ε τ β} {next' : α → EStateM ε σ β} (first : MirrorsAt view program inner start)
    (second : ∀ value after, program start = .ok value after →
      MirrorsAt view (next value) (next' value) after) :
    MirrorsAt view (program >>= next) (inner >>= next') start := by
  unfold MirrorsAt at first
  change match EStateM.bind program next start, EStateM.bind inner next' (view start) with
    | .ok value after, .ok value' after' => value = value' ∧ view after = after'
    | .error error after, .error error' after' => error = error' ∧ view after = after'
    | _, _ => False
  unfold EStateM.bind
  cases ended : program start <;> cases ended' : inner (view start) <;>
    simp only [ended, ended'] at first ⊢
  · obtain ⟨rfl, rfl⟩ := first
    exact second _ _ ended
  · exact first

/-- So are their handlers. -/
theorem MirrorsAt.tryCatch {program : EStateM ε τ α} {inner : EStateM ε σ α}
    {handler : ε → EStateM ε τ α} {handler' : ε → EStateM ε σ α}
    (first : MirrorsAt view program inner start)
    (second : ∀ error after, program start = .error error after →
      MirrorsAt view (handler error) (handler' error) after) :
    MirrorsAt view (tryCatch program handler) (tryCatch inner handler') start := by
  unfold MirrorsAt at first
  change match EStateM.tryCatch program handler start,
      EStateM.tryCatch inner handler' (view start) with
    | .ok value after, .ok value' after' => value = value' ∧ view after = after'
    | .error error after, .error error' after' => error = error' ∧ view after = after'
    | _, _ => False
  unfold EStateM.tryCatch
  cases ended : program start <;> cases ended' : inner (view start) <;>
    simp only [ended, ended'] at first ⊢
  · exact first
  · obtain ⟨rfl, rfl⟩ := first
    exact second _ _ ended

/-- Programs that mirror each other everywhere are composed alike. -/
theorem Mirrors.bind {program : EStateM ε τ α} {inner : EStateM ε σ α}
    {next : α → EStateM ε τ β} {next' : α → EStateM ε σ β} (first : Mirrors view program inner)
    (second : ∀ value, Mirrors view (next value) (next' value)) :
    Mirrors view (program >>= next) (inner >>= next') :=
  fun start => (first start).bind fun value after _ => second value after

/-- So are their handlers. -/
theorem Mirrors.tryCatch {program : EStateM ε τ α} {inner : EStateM ε σ α}
    {handler : ε → EStateM ε τ α} {handler' : ε → EStateM ε σ α}
    (first : Mirrors view program inner)
    (second : ∀ error, Mirrors view (handler error) (handler' error)) :
    Mirrors view (tryCatch program handler) (tryCatch inner handler') :=
  fun start => (first start).tryCatch fun error after _ => second error after

/-- A change that does not show is nothing to the inner program. -/
theorem Mirrors.after {program : EStateM ε τ α} {inner : EStateM ε σ α}
    (mirrors : Mirrors view program inner) {change : τ → τ}
    (kept : ∀ state, view (change state) = view state) :
    Mirrors view (do modify change; program) inner := by
  intro state
  have later := mirrors (change state)
  unfold MirrorsAt at later
  rw [kept] at later
  exact later

/-- A handler that raises again does nothing. -/
theorem tryCatch_rethrow (program : EStateM ε σ α) :
    tryCatch program (fun error => throw error) = program := by
  funext state
  change EStateM.tryCatch program (fun error => EStateM.throw error) state = program state
  unfold EStateM.tryCatch
  cases program state <;> rfl

end Mirrors

end Effects
