import AtronixX.Library.Programs

/-! One connection to a database that commits every statement by itself unless a transaction is
open, and a thread that runs one job on it, call by call. Any call but the rolling back may fail
for reasons of its own, and then changes nothing. -/
namespace AtronixX.Library.Transactions
open Programs

variable {σ ρ : Type}

inductive Query (σ : Type) : Type → Type 1
  | execute {β : Type} (statement : σ → Option (β × σ)) : Query σ β

def execute {β : Type} (statement : σ → Option (β × σ)) : Program (Query σ) β :=
  .run (.execute statement)

/-- What a thread is given: a statement, or a function that is run in a transaction. -/
inductive Job (σ ρ : Type) : Type 1
  | single (statement : σ → Option (ρ × σ))
  | transaction (work : Program (Query σ) ρ)

/-- The function on the rows, until it returns or a statement fails. -/
def run {α : Type} : Program (Query σ) α → σ → Option (α × σ)
  | .done value, rows => some (value,rows)
  | .call (.execute statement) next, rows =>
    (statement rows).bind fun result => run (next result.1) result.2

/-- What a job is meant to do, all at once. -/
def Job.apply (job : Job σ ρ) (rows : σ) : Option (ρ × σ) :=
  match job with
  | .single statement => statement rows
  | .transaction work => run work rows

@[simp] theorem run_pure {α : Type} (value : α) (rows : σ) :
    run (pure value : Program (Query σ) α) rows = some (value,rows) := rfl

@[simp] theorem run_execute {α : Type} (statement : σ → Option (α × σ)) (rows : σ) :
    run (execute statement) rows = statement rows := by
  change ((statement rows).bind fun result => some (result.1,result.2)) = statement rows
  cases statement rows <;> rfl

@[simp] theorem run_bind {α β : Type} (first : Program (Query σ) α)
    (next : α → Program (Query σ) β) (rows : σ) :
    run (first >>= next) rows = (run first rows).bind fun result => run (next result.1) result.2 := by
  induction first generalizing rows with
  | done value => rfl
  | call effect rest ih =>
    cases effect with
    | execute statement =>
      change ((statement rows).bind fun result => run (rest result.1 >>= next) result.2) =
        ((statement rows).bind fun result => run (rest result.1) result.2).bind _
      rw [Option.bind_assoc]
      congr 1
      funext result
      exact ih result.1 result.2

/-- The rows in the file, and the rows as an open transaction has left them. -/
structure Connection (σ : Type) where
  committed : σ
  working : Option σ

def Connection.rows (connection : Connection σ) : σ :=
  connection.working.getD connection.committed

def Connection.store (rows : σ) (connection : Connection σ) : Connection σ :=
  match connection.working with
  | none => {connection with committed := rows}
  | some _ => {connection with working := some rows}

/-- The call that the thread makes next. `none` as a result is an exception. -/
inductive Thread (σ ρ : Type) : Type 1
  | single (statement : σ → Option (ρ × σ))
  | beginning (work : Program (Query σ) ρ)
  | inside (work : Program (Query σ) ρ)
  | rollingBack
  | finished (result : Option ρ)

def Thread.start : Job σ ρ → Thread σ ρ
  | .single statement => .single statement
  | .transaction work => .beginning work

def Thread.result : Thread σ ρ → Option (Option ρ)
  | .finished result => some result
  | _ => none

/-- The next call of the thread. No transaction can begin in another. -/
def Thread.step (fails : Bool) (thread : Thread σ ρ) (connection : Connection σ) :
    Option (Thread σ ρ × Connection σ) :=
  match thread with
  | .single statement => match (if fails then none else statement connection.rows) with
    | none => some (.finished none,connection)
    | some (result,rows) => some (.finished (some result),connection.store rows)
  | .beginning work =>
    if fails ∨ connection.working.isSome then some (.finished none,connection)
    else some (.inside work,{connection with working := some connection.committed})
  | .inside (.done result) => match (if fails then none else connection.working) with
    | none => some (.rollingBack,connection)
    | some rows => some (.finished (some result),⟨rows,none⟩)
  | .inside (.call (.execute statement) next) =>
    match (if fails then none else statement connection.rows) with
    | none => some (.rollingBack,connection)
    | some (answer,rows) => some (.inside (next answer),connection.store rows)
  | .rollingBack => some (.finished none,{connection with working := none})
  | .finished _ => none

/-- How far a job has come that has the connection for itself: `failed` tells whether a call has
failed for reasons of its own. Its rows are not in the file before its end. -/
inductive Alone (job : Job σ ρ) (before : σ) : Bool → Thread σ ρ → Connection σ → Prop
  | single (statement : σ → Option (ρ × σ)) (is : job = .single statement) :
      Alone job before false (.single statement) ⟨before,none⟩
  | beginning (work : Program (Query σ) ρ) (is : job = .transaction work) :
      Alone job before false (.beginning work) ⟨before,none⟩
  | inside (work : Program (Query σ) ρ) (rows : σ) (left : job.apply before = run work rows) :
      Alone job before false (.inside work) ⟨before,some rows⟩
  | rollingBack (failed : Bool) (rows : σ) (why : failed = true ∨ job.apply before = none) :
      Alone job before failed .rollingBack ⟨before,some rows⟩
  | returned (result : ρ) (after : σ) (applied : job.apply before = some (result,after)) :
      Alone job before false (.finished (some result)) ⟨after,none⟩
  | raised (failed : Bool) (why : failed = true ∨ job.apply before = none) :
      Alone job before failed (.finished none) ⟨before,none⟩

theorem Alone.start (job : Job σ ρ) (before : σ) :
    Alone job before false (Thread.start job) ⟨before,none⟩ := by
  cases job with
  | single statement => exact .single statement rfl
  | transaction work => exact .beginning work rfl

theorem Alone.step {job : Job σ ρ} {before : σ} {failed fails : Bool} {thread next : Thread σ ρ}
    {connection after : Connection σ} (alone : Alone job before failed thread connection)
    (taken : thread.step fails connection = some (next,after)) :
    Alone job before (failed || fails) next after := by
  cases alone with
  | single statement is =>
    cases fails with
    | true =>
      cases taken
      exact .raised _ (.inl rfl)
    | false =>
      have meaning : job.apply before = statement before := by rw [is]; rfl
      cases ran : statement before with
      | none =>
        simp only [Thread.step,Connection.rows,Option.getD_none,ran,Bool.false_eq_true,
          if_false,Option.some.injEq,Prod.mk.injEq] at taken
        obtain ⟨rfl,rfl⟩ := taken
        exact .raised _ (.inr (meaning.trans ran))
      | some pair =>
        obtain ⟨result,rows⟩ := pair
        simp only [Thread.step,Connection.rows,Option.getD_none,ran,Bool.false_eq_true,
          if_false,Connection.store,Option.some.injEq,Prod.mk.injEq] at taken
        obtain ⟨rfl,rfl⟩ := taken
        exact .returned result rows (meaning.trans ran)
  | beginning work is =>
    cases fails with
    | true =>
      cases taken
      exact .raised _ (.inl rfl)
    | false =>
      cases taken
      exact .inside work before (by rw [is]; rfl)
  | inside work rows left =>
    cases work with
    | done result =>
      cases fails with
      | true =>
        cases taken
        exact .rollingBack _ rows (.inl rfl)
      | false =>
        cases taken
        exact .returned result rows left
    | call effect rest =>
      cases effect with
      | execute statement =>
        cases fails with
        | true =>
          cases taken
          exact .rollingBack _ rows (.inl rfl)
        | false =>
          cases ran : statement rows with
          | none =>
            simp only [Thread.step,Connection.rows,Option.getD_some,ran,Bool.false_eq_true,
              if_false,Option.some.injEq,Prod.mk.injEq] at taken
            obtain ⟨rfl,rfl⟩ := taken
            refine .rollingBack _ rows (.inr (left.trans ?_))
            simp [run,ran]
          | some pair =>
            obtain ⟨answer,rows'⟩ := pair
            simp only [Thread.step,Connection.rows,Option.getD_some,ran,Bool.false_eq_true,
              if_false,Connection.store,Option.some.injEq,Prod.mk.injEq] at taken
            obtain ⟨rfl,rfl⟩ := taken
            refine .inside _ rows' (left.trans ?_)
            simp [run,ran]
  | rollingBack failed rows why =>
    cases taken
    refine .raised _ (why.imp_left fun failed => ?_)
    rw [failed,Bool.true_or]
  | returned result after applied => contradiction
  | raised failed why => contradiction

theorem Thread.step_isSome (fails : Bool) (thread : Thread σ ρ) (connection : Connection σ)
    (working : thread.result = none) : (thread.step fails connection).isSome = true := by
  cases thread with
  | single statement =>
    simp only [Thread.step]
    split <;> rfl
  | beginning work =>
    simp only [Thread.step]
    split <;> rfl
  | inside work =>
    cases work with
    | done result =>
      simp only [Thread.step]
      split <;> rfl
    | call effect rest =>
      cases effect with
      | execute statement =>
        simp only [Thread.step]
        split <;> rfl
  | rollingBack => rfl
  | finished result => contradiction

/-- Jobs one after the other, the last one first, each with its result and whether a call of it
failed for reasons of its own: a job has its whole effect and returns, or has none and raises. -/
inductive Serial {ι : Type*} (apply : ι → σ → Option (ρ × σ)) :
    σ → List (ι × Bool × Option ρ) → σ → Prop
  | nil (rows : σ) : Serial apply rows [] rows
  | returned {first middle last : σ} {item : ι} {result : ρ} {rest : List (ι × Bool × Option ρ)}
      (before : Serial apply first rest middle) (applied : apply item middle = some (result,last)) :
      Serial apply first ((item,false,some result) :: rest) last
  | raised {first last : σ} {item : ι} {failed : Bool} {rest : List (ι × Bool × Option ρ)}
      (before : Serial apply first rest last) (why : failed = true ∨ apply item last = none) :
      Serial apply first ((item,failed,none) :: rest) last

theorem Serial.finish {ι : Type*} {apply : ι → σ → Option (ρ × σ)} {first before : σ} {item : ι}
    {job : Job σ ρ} {failed : Bool} {result : Option ρ} {connection : Connection σ}
    {log : List (ι × Bool × Option ρ)} (serial : Serial apply first log before)
    (meaning : ∀ rows, job.apply rows = apply item rows)
    (alone : Alone job before failed (.finished result) connection) :
    ∃ after, Serial apply first ((item,failed,result) :: log) after ∧ connection = ⟨after,none⟩ := by
  cases alone with
  | returned result after applied =>
    exact ⟨after,.returned serial ((meaning before).symm.trans applied),rfl⟩
  | raised failed why =>
    exact ⟨before,.raised serial (why.imp_right (meaning before).symm.trans),rfl⟩

theorem Alone.committed {job : Job σ ρ} {before : σ} {failed : Bool} {thread : Thread σ ρ}
    {connection : Connection σ} (alone : Alone job before failed thread connection)
    (working : thread.result = none) : connection.committed = before := by
  cases alone with
  | returned => contradiction
  | _ => rfl

end AtronixX.Library.Transactions
