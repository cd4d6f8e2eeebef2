import TaggedConfig.Proofs.Outcome

/-! Runs of actions that may fail and that keep a state.
A run comes to a result or an error and leaves a state. What a composed action comes to, and
what it keeps, follows from its parts.
-/

namespace TaggedConfig.Run

variable {σ α β ε ε' : Type}

/-- What a run from a state comes to, with the state that it leaves. -/
def outcome (action : ExceptT ε (StateM σ) α) (s : σ) : Except ε α × σ := action.run.run s

theorem outcome_lift (action : StateM σ α) (s : σ)
    : outcome (ExceptT.lift action : ExceptT ε (StateM σ) α) s
      = (.ok (action.run s).1, (action.run s).2) := rfl

/-- A sequence comes to what its second part does, unless the first fails. -/
theorem outcome_bind (first : ExceptT ε (StateM σ) α) (second : α → ExceptT ε (StateM σ) β) (s : σ)
    : outcome (first >>= second) s
      = match outcome first s with
        | (.ok a, t) => outcome (second a) t
        | (.error e, t) => (.error e, t) := by
  unfold outcome
  rw [ExceptT.run_bind, StateT.run_bind]
  rcases first.run.run s with ⟨_ | _, _⟩ <;> rfl

theorem outcome_map (f : α → β) (action : ExceptT ε (StateM σ) α) (s : σ)
    : outcome (f <$> action) s = ((outcome action s).1.map f, (outcome action s).2) := by
  unfold outcome
  rw [ExceptT.run_map, StateT.run_map]
  rfl

theorem outcome_adapt (f : ε → ε') (action : ExceptT ε (StateM σ) α) (s : σ)
    : outcome (action.adapt f) s = ((outcome action s).1.mapError f, (outcome action s).2) := by
  have run : (action.adapt f).run = Except.mapError f <$> action.run := rfl
  unfold outcome
  rw [run, StateT.run_map]
  rfl

-----------------------------------------------------------------------------------------
-- What runs keep
-----------------------------------------------------------------------------------------

/-- Every run from a state with a property leaves a state with that property. -/
def Keeps (P : σ → Prop) (action : ExceptT ε (StateM σ) α) : Prop :=
  ∀ s, P s → P (outcome action s).2

variable {P : σ → Prop}

theorem Keeps.pure (a : α) : Keeps P (pure a : ExceptT ε (StateM σ) α) := fun _ holds => holds

theorem Keeps.throw (e : ε) : Keeps P (throw e : ExceptT ε (StateM σ) α) := fun _ holds => holds

/-- What holds after the first part of a sequence and is kept by the second holds at the end. -/
theorem holds_bind {first : ExceptT ε (StateM σ) α} {second : α → ExceptT ε (StateM σ) β} {s : σ}
    (between : P (outcome first s).2) (tail : ∀ a, Keeps P (second a))
    : P (outcome (first >>= second) s).2 := by
  rw [outcome_bind]
  rcases known : outcome first s with ⟨_ | a, t⟩ <;> rw [known] at between
  · exact between
  · exact tail a t between

theorem Keeps.bind {first : ExceptT ε (StateM σ) α} {second : α → ExceptT ε (StateM σ) β}
    (head : Keeps P first) (tail : ∀ a, Keeps P (second a))
    : Keeps P (first >>= second) :=
  fun s holds => holds_bind (head s holds) tail

theorem Keeps.map {action : ExceptT ε (StateM σ) α} (keeps : Keeps P action) (f : α → β)
    : Keeps P (f <$> action) := by
  intro s holds
  rw [outcome_map]
  exact keeps s holds

theorem Keeps.adapt {action : ExceptT ε (StateM σ) α} (keeps : Keeps P action) (f : ε → ε')
    : Keeps P (action.adapt f) := by
  intro s holds
  rw [outcome_adapt]
  exact keeps s holds

/-- Every run from a state with a property leaves a state with that property, unless it fails in
a certain way.
-/
def KeepsUnless (P : σ → Prop) (Q : ε → σ → Prop) (action : ExceptT ε (StateM σ) α) : Prop :=
  ∀ s,
    P s →
      P (outcome action s).2
      ∨ ∃ e, (outcome action s).1 = .error e ∧ Q e (outcome action s).2

variable {Q : ε → σ → Prop}

theorem Keeps.unless {action : ExceptT ε (StateM σ) α} (keeps : Keeps P action)
    : KeepsUnless P Q action :=
  fun s holds => Or.inl (keeps s holds)

theorem KeepsUnless.bind {first : ExceptT ε (StateM σ) α} {second : α → ExceptT ε (StateM σ) β}
    (head : KeepsUnless P Q first) (tail : ∀ a, KeepsUnless P Q (second a))
    : KeepsUnless P Q (first >>= second) := by
  intro s holds
  have between := head s holds
  rw [outcome_bind]
  rcases known : outcome first s with ⟨e | a, t⟩ <;> rw [known] at between
  · rcases between with kept | ⟨_, ⟨rfl⟩, ended⟩
    · exact Or.inl kept
    · exact Or.inr ⟨e, rfl, ended⟩
  · rcases between with kept | ⟨_, failed, -⟩
    · exact tail a t kept
    · cases failed

-----------------------------------------------------------------------------------------
-- What results of runs have in common
-----------------------------------------------------------------------------------------

/-- Every run from a state with a property leaves a state with that property, and what it comes
to has another one unless it fails.
-/
def Ensures (P : σ → Prop) (Q : α → Prop) (action : ExceptT ε (StateM σ) α) : Prop :=
  ∀ s, P s → P (outcome action s).2 ∧ ∀ a, (outcome action s).1 = .ok a → Q a

variable {R : α → Prop} {S : β → Prop}

theorem Keeps.ensures {action : ExceptT ε (StateM σ) α} (keeps : Keeps P action)
    : Ensures P (fun _ => True) action :=
  fun s holds => ⟨keeps s holds, fun _ _ => trivial⟩

theorem Ensures.pure {a : α} (good : R a)
    : Ensures P R (pure a : ExceptT ε (StateM σ) α) := by
  rintro s holds
  refine ⟨holds, ?_⟩
  rintro _ ⟨rfl⟩
  exact good

theorem Ensures.throw (e : ε) : Ensures P R (throw e : ExceptT ε (StateM σ) α) :=
  fun _ holds => ⟨holds, nofun⟩

theorem Ensures.bind {first : ExceptT ε (StateM σ) α} {second : α → ExceptT ε (StateM σ) β}
    (head : Ensures P R first) (tail : ∀ a, R a → Ensures P S (second a))
    : Ensures P S (first >>= second) := by
  intro s holds
  obtain ⟨between, good⟩ := head s holds
  rw [outcome_bind]
  rcases known : outcome first s with ⟨e | a, t⟩ <;> rw [known] at between good
  · exact ⟨between, nofun⟩
  · exact tail a (good a rfl) t between

/-- After what only keeps the property anything may follow that does not depend on it. -/
theorem Keeps.bind_ensures {first : ExceptT ε (StateM σ) α}
    {second : α → ExceptT ε (StateM σ) β} (head : Keeps P first)
    (tail : ∀ a, Ensures P S (second a))
    : Ensures P S (first >>= second) :=
  head.ensures.bind fun a _ => tail a

theorem Ensures.map {action : ExceptT ε (StateM σ) α} (ensures : Ensures P R action) {f : α → β}
    (good : ∀ a, R a → S (f a))
    : Ensures P S (f <$> action) := by
  intro s holds
  obtain ⟨after, result⟩ := ensures s holds
  rw [outcome_map]
  refine ⟨after, fun b mapped => ?_⟩
  obtain ⟨a, known, rfl⟩ := Outcome.map_eq_ok.mp mapped
  exact good a (result a known)

theorem Ensures.adapt {action : ExceptT ε (StateM σ) α} (ensures : Ensures P R action)
    (f : ε → ε')
    : Ensures P R (action.adapt f) := by
  intro s holds
  obtain ⟨after, result⟩ := ensures s holds
  rw [outcome_adapt]
  exact ⟨after, fun a adapted => result a (Outcome.mapError_eq_ok.mp adapted)⟩

/-- Actions for the items of a list come to one result for each, by induction on the list. -/
theorem length_of_outcome_mapM {f : α → ExceptT ε (StateM σ) β} {items : List α} {s t : σ}
    {results : List β} (ran : outcome (items.mapM f) s = (.ok results, t))
    : results.length = items.length := by
  induction items generalizing s t results with
  | nil =>
      obtain rfl := Except.ok.inj (Prod.mk.inj ran).1
      rfl
  | cons item items ih =>
      rw [List.mapM_cons, outcome_bind] at ran
      rcases head : outcome (f item) s with ⟨e | first, between⟩ <;> rw [head] at ran
      · cases (Prod.mk.inj ran).1
      · dsimp only at ran
        rw [outcome_bind] at ran
        rcases tail : outcome (items.mapM f) between with ⟨e | others, after⟩ <;> rw [tail] at ran
        · cases (Prod.mk.inj ran).1
        · obtain rfl := Except.ok.inj (Prod.mk.inj ran).1
          exact congrArg Nat.succ (ih tail)

/-- Actions for the items of a list come to results with the property, by induction on the list. -/
theorem Ensures.mapM {f : α → ExceptT ε (StateM σ) β} {items : List α}
    (ensures : ∀ item ∈ items, Ensures P S (f item))
    : Ensures P (fun results => ∀ result ∈ results, S result) (items.mapM f) := by
  induction items with
  | nil => exact .pure nofun
  | cons item items ih =>
      rw [List.forall_mem_cons] at ensures
      rw [List.mapM_cons]
      refine ensures.1.bind fun first good => ?_
      refine (ih ensures.2).bind fun others goods => .pure ?_
      exact List.forall_mem_cons.mpr ⟨good, goods⟩

-----------------------------------------------------------------------------------------
-- What runs fail with
-----------------------------------------------------------------------------------------

/-- From any state, every error that the action fails with has a property, which may depend on the
state that is left.
-/
def FailsWith (Q : ε → σ → Prop) (action : ExceptT ε (StateM σ) α) : Prop :=
  ∀ s e, (outcome action s).1 = .error e → Q e (outcome action s).2

namespace FailsWith

variable {Q : ε → σ → Prop} {Q' : ε' → σ → Prop}

theorem pure (a : α) : FailsWith Q (pure a : ExceptT ε (StateM σ) α) := nofun

theorem lift (action : StateM σ α) : FailsWith Q (ExceptT.lift action) := nofun

theorem throw {e : ε} (holds : ∀ s, Q e s) : FailsWith Q (throw e : ExceptT ε (StateM σ) α) := by
  rintro s _ ⟨rfl⟩
  exact holds s

theorem bind {first : ExceptT ε (StateM σ) α} {second : α → ExceptT ε (StateM σ) β}
    (head : FailsWith Q first) (tail : ∀ a, FailsWith Q (second a))
    : FailsWith Q (first >>= second) := by
  intro s e failed
  rw [outcome_bind] at failed ⊢
  rcases ran : outcome first s with ⟨failure | a, t⟩ <;> rw [ran] at failed
  · obtain rfl : failure = e := Except.error.inj failed
    have after := head s failure
    rw [ran] at after
    exact after rfl
  · exact tail a t e failed

theorem map {action : ExceptT ε (StateM σ) α} (fails : FailsWith Q action) (f : α → β)
    : FailsWith Q (f <$> action) := by
  intro s e failed
  rw [outcome_map] at failed ⊢
  exact fails s e (Outcome.map_eq_error.mp failed)

theorem adapt {action : ExceptT ε (StateM σ) α} (fails : FailsWith Q action) {f : ε → ε'}
    (turned : ∀ e s, Q e s → Q' (f e) s)
    : FailsWith Q' (action.adapt f) := by
  intro s e failed
  rw [outcome_adapt] at failed ⊢
  obtain ⟨inner, ran, rfl⟩ := Outcome.mapError_eq_error.mp failed
  exact turned inner _ (fails s inner ran)

/-- Actions for the items of a list fail as that for an item does, by induction on the list. -/
theorem mapM {action : α → ExceptT ε (StateM σ) β} (fails : ∀ a, FailsWith Q (action a))
    (items : List α)
    : FailsWith Q (items.mapM action) := by
  induction items with
  | nil => exact pure []
  | cons item items ih =>
      rw [List.mapM_cons]
      exact (fails item).bind fun first => ih.bind fun others => pure (first :: others)

/-- Loops over a list fail as their bodies do, by induction on the list. -/
theorem forIn {body : α → β → ExceptT ε (StateM σ) (ForInStep β)}
    (fails : ∀ a b, FailsWith Q (body a b)) (items : List α) (b : β)
    : FailsWith Q (ForIn.forIn items b body) := by
  induction items generalizing b with
  | nil => exact pure b
  | cons item items ih =>
      rw [List.forIn_cons]
      refine (fails item b).bind fun step => ?_
      cases step with
      | done b => exact pure b
      | yield b => exact ih b

end FailsWith

end TaggedConfig.Run
