import Docwright.Exchange

/-!
# Acts and what they leave alone

An act changes a state and may fail; a failure keeps what was done before, so
every act ends in some state.  `endState` is that state.

`Keeps view act` says that an act leaves a view of the state as it was, however
it ends.  Every frame property of a build is of this form, and the three rules
below (sequence, loop over a list, change of the state) are all that their
proofs need.
-/

namespace Docwright

variable {ε σ τ α β γ : Type}

/-! ### Opening an act -/

theorem bind_apply (act : EStateM ε σ α) (next : α → EStateM ε σ β) (s : σ) :
    (act >>= next) s =
      match act s with
      | .ok a s' => next a s'
      | .error e s' => .error e s' := rfl

@[simp]
theorem pure_apply (a : α) (s : σ) : (pure a : EStateM ε σ α) s = .ok a s := rfl

@[simp]
theorem throw_apply (e : ε) (s : σ) : (throw e : EStateM ε σ α) s = .error e s := rfl

@[simp]
theorem get_apply (s : σ) : (get : EStateM ε σ σ) s = .ok s s := rfl

@[simp]
theorem modify_apply (f : σ → σ) (s : σ) : (modify f : EStateM ε σ PUnit) s = .ok ⟨⟩ (f s) := rfl

/-- A sequence whose first act succeeds goes on from where that ended. -/
theorem bind_ok {act : EStateM ε σ α} {a : α} {s s' : σ} (h : act s = .ok a s')
    (next : α → EStateM ε σ β) : (act >>= next) s = next a s' := by
  rw [bind_apply, h]

/-- A sequence whose first act fails ends there. -/
theorem bind_error {act : EStateM ε σ α} {e : ε} {s s' : σ} (h : act s = .error e s')
    (next : α → EStateM ε σ β) : (act >>= next) s = .error e s' := by
  rw [bind_apply, h]

/-- A loop over a list fails where one of its items does, those before which have succeeded. -/
theorem forM_eq_error_iff {act : γ → EStateM ε σ PUnit} {items : List γ} {e : ε} {s s' : σ} :
    items.forM act s = .error e s' ↔ ∃ before item after t, items = before ++ item :: after ∧
      before.forM act s = .ok ⟨⟩ t ∧ act item t = .error e s' := by
  induction items generalizing s with
  | nil =>
      refine ⟨nofun, ?_⟩
      rintro ⟨before, item, after, t, split, -⟩
      simp at split
  | cons first rest ih =>
      change (act first >>= fun _ => rest.forM act) s = _ ↔ _
      rw [bind_apply]
      cases run : act first s with
      | error e' t =>
          -- the loop ends at the first item, so no item that fails has others before it
          constructor
          · intro failed
            exact ⟨[], first, rest, s, rfl, rfl, run.trans failed⟩
          · rintro ⟨before, item, after, u, split, done, failed⟩
            cases before with
            | nil =>
                obtain ⟨rfl, -⟩ := List.cons.inj split
                cases done
                exact run.symm.trans failed
            | cons head before =>
                obtain ⟨rfl, -⟩ := List.cons.inj split
                change (act first >>= fun _ => before.forM act) s = _ at done
                rw [bind_error run] at done
                cases done
      | ok _ t =>
          refine ih.trans ⟨?_, ?_⟩
          · rintro ⟨before, item, after, u, rfl, done, failed⟩
            refine ⟨first :: before, item, after, u, rfl, ?_, failed⟩
            exact (bind_ok run _).trans done
          · rintro ⟨before, item, after, u, split, done, failed⟩
            cases before with
            | nil =>
                obtain ⟨rfl, -⟩ := List.cons.inj split
                cases done
                rw [run] at failed
                cases failed
            | cons head before =>
                obtain ⟨rfl, split'⟩ := List.cons.inj split
                exact ⟨before, item, after, u, split', (bind_ok run _).symm.trans done, failed⟩

/-! ### Where an act ends -/

/-- The state in which an act ends, whether it fails or not. -/
def endState : EStateM.Result ε σ α → σ
  | .ok _ s => s
  | .error _ s => s

@[simp]
theorem endState_ok (a : α) (s : σ) : endState (.ok a s : EStateM.Result ε σ α) = s := rfl

@[simp]
theorem endState_error (e : ε) (s : σ) : endState (.error e s : EStateM.Result ε σ α) = s := rfl

instance decidableEqExcept [DecidableEq ε] [DecidableEq α] : DecidableEq (Except ε α)
  | .ok a, .ok b => decidable_of_iff (a = b) ⟨congrArg _, Except.ok.inj⟩
  | .error e, .error e' => decidable_of_iff (e = e') ⟨congrArg _, Except.error.inj⟩
  | .ok _, .error _ => isFalse nofun
  | .error _, .ok _ => isFalse nofun

/-- What an act comes to, apart from the state it ends in. -/
def answer : EStateM.Result ε σ α → Except ε α
  | .ok a _ => .ok a
  | .error e _ => .error e

@[simp]
theorem answer_ok (a : α) (s : σ) : answer (.ok a s : EStateM.Result ε σ α) = .ok a := rfl

@[simp]
theorem answer_error (e : ε) (s : σ) : answer (.error e s : EStateM.Result ε σ α) = .error e := rfl

theorem eq_ok_of_answer {result : EStateM.Result ε σ α} {a : α} (h : answer result = .ok a) :
    result = .ok a (endState result) := by
  cases result with
  | ok b s =>
      obtain rfl := Except.ok.inj h
      rfl
  | error e s => cases h

theorem eq_error_of_answer {result : EStateM.Result ε σ α} {e : ε} (h : answer result = .error e) :
    result = .error e (endState result) := by
  cases result with
  | ok b s => cases h
  | error e' s =>
      obtain rfl := Except.error.inj h
      rfl

/-- An act leaves a view of the state as it was. -/
def Keeps (view : σ → τ) (act : EStateM ε σ α) : Prop :=
  ∀ s, view (endState (act s)) = view s

namespace Keeps

variable {view : σ → τ}

theorem pure (a : α) : Keeps view (Pure.pure a : EStateM ε σ α) := fun _ => rfl

theorem throw (e : ε) : Keeps view (MonadExcept.throw e : EStateM ε σ α) := fun _ => rfl

theorem get : Keeps view (MonadState.get : EStateM ε σ σ) := fun _ => rfl

theorem modify {f : σ → σ} (h : ∀ s, view (f s) = view s) :
    Keeps view (modify f : EStateM ε σ PUnit) := h

/-- In sequence: the second act may depend on what the first one gave. -/
theorem bind {act : EStateM ε σ α} {next : α → EStateM ε σ β} (first : Keeps view act)
    (second : ∀ a, Keeps view (next a)) : Keeps view (act >>= next) := by
  intro s
  have kept := first s
  rw [bind_apply]
  cases run : act s with
  | error e s' => simpa [run] using kept
  | ok a s' => rw [second a s']; simpa [run] using kept

theorem forM {act : γ → EStateM ε σ PUnit} {items : List γ} (h : ∀ x ∈ items, Keeps view (act x)) :
    Keeps view (items.forM act) := by
  induction items with
  | nil => exact pure _
  | cons x rest ih =>
      change Keeps view (act x >>= fun _ => rest.forM act)
      exact bind (h x List.mem_cons_self)
        fun _ => ih fun y member => h y (List.mem_cons_of_mem _ member)

end Keeps

end Docwright
