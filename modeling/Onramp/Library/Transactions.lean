/-!
A session over a store that begins its transactions by itself: a statement that finds the
session idle opens one, which stays open until it is committed or rolled back. To begin a
transaction inside an open one is an error, so that what a block does depends on the
statements before it. A program that only reads leaves a transaction open, and a block behind
it is refused, unless a commit stands between them.
-/
namespace Onramp.Library.Transactions

/-- The committed state, and the working copy of the transaction that is open. -/
structure Session (σ : Type) where
  committed : σ
  working : Option σ

/-- What a statement sees. -/
def Session.view {σ : Type} (s : Session σ) : σ := s.working.getD s.committed

/-- The session after a statement that changes nothing. -/
def Session.opened {σ : Type} (s : Session σ) : Session σ := { s with working := some s.view }

/-- A program: it returns or raises, and leaves the session changed. -/
def Prog (σ ε α : Type) : Type := Session σ → Except ε α × Session σ

variable {σ ε α β : Type}

instance : Monad (Prog σ ε) where
  pure a := fun s => (.ok a, s)
  bind p f := fun s =>
    match p s with
    | (.ok a, s') => f a s'
    | (.error e, s') => (.error e, s')

/-- Raises the exception. -/
def raise (e : ε) : Prog σ ε α := fun s => (.error e, s)

/-- A computation outside the store. -/
def lift (result : Except ε α) : Prog σ ε α := fun s => (result, s)

/-- A query, which opens a transaction when none is open. -/
def query (f : σ → Except ε α) : Prog σ ε α := fun s => (f s.view, s.opened)

/-- A statement that writes, which opens a transaction when none is open. -/
def execute (statement : σ → Except ε σ) : Prog σ ε Unit := fun s =>
  match statement s.view with
  | .ok next => (.ok (), { s with working := some next })
  | .error e => (.error e, s.opened)

/-- `commit()`. -/
def commit : Prog σ ε Unit := fun s => (.ok (), ⟨s.view, none⟩)

/-- `async with session.begin()`: the block is committed when it returns and rolled back when it
    raises, and it is refused when a transaction is open. -/
def beginning (alreadyBegun : ε) (block : Prog σ ε α) : Prog σ ε α := fun s =>
  if s.working.isSome then (.error alreadyBegun, s)
  else
    match block { s with working := some s.committed } with
    | (.ok a, s') => (.ok a, ⟨s'.view, none⟩)
    | (.error e, s') => (.error e, ⟨s'.committed, none⟩)

/-- The program on a session of its own, which is closed at the end: what it returns, and what it
    has committed. -/
def run (p : Prog σ ε α) (db : σ) : Except ε α × σ := ((p ⟨db, none⟩).1, (p ⟨db, none⟩).2.committed)

variable {s s' : Session σ} {p : Prog σ ε α} {f : α → Prog σ ε β}

theorem Session.opened_of_busy (busy : s.working.isSome) : s.opened = s := by
  obtain ⟨committed, working⟩ := s
  cases working with
  | none => cases busy
  | some copy => rfl

theorem bind_ok {a : α} (ran : p s = (.ok a, s')) : (p >>= f) s = f a s' := by
  have unfolded : (p >>= f) s = match p s with | (.ok a, s') => f a s' | (.error e, s') => (.error e, s') := rfl
  rw [unfolded, ran]

theorem bind_error {e : ε} (ran : p s = (.error e, s')) : (p >>= f) s = (.error e, s') := by
  have unfolded : (p >>= f) s = match p s with | (.ok a, s') => f a s' | (.error e, s') => (.error e, s') := rfl
  rw [unfolded, ran]

theorem beginning_busy {alreadyBegun : ε} {block : Prog σ ε α} (busy : s.working.isSome) :
    beginning alreadyBegun block s = (.error alreadyBegun, s) := if_pos busy

/-- A commit ends the transaction that reads opened, and leaves the session as it was before them. -/
theorem commit_opened {db : σ} : (commit : Prog σ ε Unit) (Session.opened ⟨db, none⟩) = (.ok (), ⟨db, none⟩) := rfl

/-- One statement in a block of its own, in an idle session. -/
theorem beginning_execute {alreadyBegun : ε} {statement : σ → Except ε σ} {db next : σ} (done : statement db = .ok next) :
    beginning alreadyBegun (execute statement) ⟨db, none⟩ = (.ok (), ⟨next, none⟩) := by
  simp [beginning, execute, Session.view, done]

/-- Whether it returns or raises, the program leaves an open transaction and has changed nothing. -/
def Reads (p : Prog σ ε α) : Prop := ∀ s, (p s).2 = s.opened

/-- In an open transaction the program changes nothing. -/
def Quiet (p : Prog σ ε α) : Prop := ∀ s, s.working.isSome → (p s).2 = s

theorem Quiet.pure (a : α) : Quiet (Pure.pure a : Prog σ ε α) := fun _ _ => rfl

theorem Quiet.raise (e : ε) : Quiet (Transactions.raise e : Prog σ ε α) := fun _ _ => rfl

theorem Reads.query (f : σ → Except ε α) : Reads (Transactions.query f : Prog σ ε α) := fun _ => rfl

theorem Reads.quiet (reads : Reads p) : Quiet p := fun s busy => (reads s).trans (Session.opened_of_busy busy)

theorem Reads.bind (reads : Reads p) (next : ∀ a, Quiet (f a)) : Reads (p >>= f) := by
  intro s
  rcases ran : p s with ⟨e | a, s'⟩
  · have left : s' = s.opened := by simpa [ran] using reads s
    rw [bind_error ran]
    exact left
  · have left : s' = s.opened := by simpa [ran] using reads s
    have busy : s'.working.isSome := by simp [left, Session.opened]
    rw [bind_ok ran]
    exact (next a s' busy).trans left

/-- What a reading program returns is a function of what it sees. -/
theorem Reads.returns (reads : Reads p) {outcome : Except ε α} (returned : (p s).1 = outcome) : p s = (outcome, s.opened) :=
  Prod.ext returned (reads s)

/-- A program that ends in the transaction that it opened by reading has committed nothing. -/
theorem run_of_opened {db : σ} {outcome : Except ε α} (ran : p ⟨db, none⟩ = (outcome, Session.opened ⟨db, none⟩)) :
    run p db = (outcome, db) := by
  unfold run
  rw [ran]
  rfl

/-- A program that leaves the session idle, and what comes after it. -/
theorem run_bind_idle {db db' : σ} {a : α} (ran : p ⟨db, none⟩ = (.ok a, ⟨db', none⟩)) : run (p >>= f) db = run (f a) db' := by
  simp only [run, bind_ok ran]

theorem run_bind_error {db : σ} {e : ε} (ran : p ⟨db, none⟩ = (.error e, s')) : run (p >>= f) db = (.error e, s'.committed) := by
  simp only [run, bind_error ran]

end Onramp.Library.Transactions
