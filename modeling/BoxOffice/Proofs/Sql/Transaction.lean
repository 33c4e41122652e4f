import BoxOffice.Proofs.Transcript
import BoxOffice.Sql.Session

/-!
# BoxOffice.Proofs.Sql.Transaction

What a session says on its connection, and when it commits.

A session that puts one statement is a question whose reply is read (`put`), so that a
transcript of what goes on from there starts with that exchange
(`yields_change_bind_cases` and its likes). A transaction has five ways to end (`Concluded`).
Where its body puts statements only, the commit is acknowledged in exactly one of them: the
body ends by keeping what it did, and the result is the value that it gave
(`Concluded.committed_iff`).
-/

namespace BoxOffice.Sql

open Dialogue

variable {α β : Type}

/-- What was asked on a connection, and what was replied. -/
abbrev Transcript := List ((q : Request) × q.Reply)

/-- The database has acknowledged the commit. -/
def Transcript.Committed (t : Transcript) : Prop := ⟨.commit, .ok ()⟩ ∈ t

/-- An acknowledged commit. -/
def isCommitted : (q : Request) × q.Reply → Bool
  | ⟨.commit, .ok ()⟩ => true
  | _ => false

instance (t : Transcript) : Decidable t.Committed :=
  decidable_of_iff (t.any isCommitted = true) <| by
    rw [List.any_eq_true]
    constructor
    · rintro ⟨⟨q, told⟩, hx, h⟩
      unfold isCommitted at h
      split at h
      · next heq =>
        rw [heq] at hx
        exact hx
      · cases h
    · exact fun h => ⟨_, h, rfl⟩

/-- A statement, and not a request about a transaction. -/
def Request.isStatement : Request → Bool
  | run _ => true
  | _ => false

namespace Session

variable {operation : String} {statement : Statement} {t : Transcript}

/-! ## one statement -/

/-- What is read of the first row of a reply. -/
def firstOf (read : Row → Except Failure α) :
    Except Failure ResultSet → Except Failure (Option α)
  | .ok ⟨[], _⟩ => .ok none
  | .ok ⟨row :: _, _⟩ => (read row).map some
  | .error f => .error f

/-- What is read of the first row of a reply that must have one. -/
def oneOf (read : Row → Except Failure α) : Except Failure ResultSet → Except Failure α
  | .ok ⟨[], _⟩ => .error .noRow
  | .ok ⟨row :: _, _⟩ => read row
  | .error f => .error f

/-- Puts a statement, and gives what is read of the reply. -/
def put (operation : String) (statement : Statement)
    (read : Except Failure ResultSet → Except Failure α) : Session α :=
  .ask (.run statement) fun told => orFail operation (read told)

theorem change_eq_put : change operation statement =
    put operation statement (·.map (·.affected)) := by
  refine congrArg (ask _) (funext fun told => ?_)
  cases told <;> rfl

theorem firstRow_eq_put (read : Row → Except Failure α) :
    firstRow operation read statement = put operation statement (firstOf read) := by
  refine congrArg (ask _) (funext fun told => ?_)
  match told with
  | .error f => rfl
  | .ok ⟨[], _⟩ => rfl
  | .ok ⟨row :: rest, _⟩ =>
    change some <$> orFail operation (read row) = orFail operation ((read row).map some)
    cases read row <;> rfl

theorem oneRow_eq_put (read : Row → Except Failure α) :
    oneRow operation read statement = put operation statement (oneOf read) := by
  rw [oneRow, firstRow_eq_put]
  refine congrArg (ask _) (funext fun told => ?_)
  match told with
  | .error f => rfl
  | .ok ⟨[], _⟩ => rfl
  | .ok ⟨row :: rest, _⟩ =>
    change (orFail operation ((read row).map some)).andThen _ = orFail operation (read row)
    cases read row <;> rfl

/-- What follows a statement goes on with what was read of the reply, or ends with why
nothing could be. -/
theorem yields_put_bind_cases {read : Except Failure ResultSet → Except Failure α}
    {k : α → Session β} {result : Except SalesError β}
    (h : (put operation statement read >>= k).Yields t result) :
    (∃ told f, read told = .error f ∧ t = [⟨.run statement, told⟩] ∧
        result = .error (f.during operation)) ∨
      ∃ told a rest, read told = .ok a ∧ t = ⟨.run statement, told⟩ :: rest ∧
        (k a).Yields rest result := by
  obtain ⟨told, rest, rfl, hrest⟩ := h
  cases hread : read told with
  | error f =>
    simp only [hread] at hrest
    obtain ⟨rfl, rfl⟩ := hrest
    exact .inl ⟨told, f, hread, rfl, rfl⟩
  | ok a =>
    simp only [hread] at hrest
    exact .inr ⟨told, a, rest, hread, rfl, hrest⟩

theorem yields_change_bind_cases {k : Nat → Session β} {result : Except SalesError β}
    (h : (change operation statement >>= k).Yields t result) :
    (∃ f, t = [⟨.run statement, .error f⟩] ∧ result = .error (f.during operation)) ∨
      ∃ set rest, t = ⟨.run statement, .ok set⟩ :: rest ∧
        (k set.affected).Yields rest result := by
  rw [change_eq_put] at h
  rcases yields_put_bind_cases h with ⟨told, f, hread, rfl, rfl⟩ | ⟨told, a, rest, hread, rfl, hk⟩
  · cases told with
    | error g =>
      cases hread
      exact .inl ⟨f, rfl, rfl⟩
    | ok set => cases hread
  · cases told with
    | error g => cases hread
    | ok set =>
      cases hread
      exact .inr ⟨set, rest, rfl, hk⟩

theorem yields_firstRow_bind_cases {read : Row → Except Failure α} {k : Option α → Session β}
    {result : Except SalesError β}
    (h : (firstRow operation read statement >>= k).Yields t result) :
    (∃ told, ∃ f : Failure, t = [⟨.run statement, told⟩] ∧ result = .error (f.during operation)) ∨
      (∃ n rest, t = ⟨.run statement, .ok ⟨[], n⟩⟩ :: rest ∧ (k none).Yields rest result) ∨
      ∃ row rows n a rest, read row = .ok a ∧
        t = ⟨.run statement, .ok ⟨row :: rows, n⟩⟩ :: rest ∧ (k (some a)).Yields rest result := by
  rw [firstRow_eq_put] at h
  rcases yields_put_bind_cases h with ⟨told, f, -, rfl, rfl⟩ | ⟨told, a, rest, hread, rfl, hk⟩
  · exact .inl ⟨told, f, rfl, rfl⟩
  · match told with
    | .error g => cases hread
    | .ok ⟨[], n⟩ =>
      cases hread
      exact .inr (.inl ⟨n, rest, rfl, hk⟩)
    | .ok ⟨row :: rows, n⟩ =>
      cases hrow : read row with
      | error g =>
        rw [firstOf, hrow] at hread
        cases hread
      | ok a =>
        rw [firstOf, hrow] at hread
        cases hread
        exact .inr (.inr ⟨row, rows, n, a, rest, hrow, rfl, hk⟩)

theorem yields_oneRow_bind_cases {read : Row → Except Failure α} {k : α → Session β}
    {result : Except SalesError β} (h : (oneRow operation read statement >>= k).Yields t result) :
    (∃ told f, oneOf read told = .error f ∧ t = [⟨.run statement, told⟩] ∧
        result = .error (f.during operation)) ∨
      ∃ row rows n a rest, read row = .ok a ∧
        t = ⟨.run statement, .ok ⟨row :: rows, n⟩⟩ :: rest ∧ (k a).Yields rest result := by
  rw [oneRow_eq_put] at h
  rcases yields_put_bind_cases h with h | ⟨told, a, rest, hread, rfl, hk⟩
  · exact .inl h
  · match told with
    | .error g => cases hread
    | .ok ⟨[], n⟩ => cases hread
    | .ok ⟨row :: rows, n⟩ => exact .inr ⟨row, rows, n, a, rest, hread, rfl, hk⟩

theorem within_put (operation : String) (statement : Statement)
    (read : Except Failure ResultSet → Except Failure α) :
    (put operation statement read).Within (·.isStatement) fun _ => True := by
  refine ⟨rfl, fun told => ?_⟩
  dsimp only
  cases read told with
  | ok a => exact within_pure trivial
  | error f => exact within_fail _

theorem within_change (operation : String) (statement : Statement) :
    (change operation statement).Within (·.isStatement) fun _ => True := by
  rw [change_eq_put]
  exact within_put ..

theorem within_firstRow (operation : String) (read : Row → Except Failure α)
    (statement : Statement) :
    (firstRow operation read statement).Within (·.isStatement) fun _ => True := by
  rw [firstRow_eq_put]
  exact within_put ..

theorem within_oneRow (operation : String) (read : Row → Except Failure α)
    (statement : Statement) :
    (oneRow operation read statement).Within (·.isStatement) fun _ => True := by
  rw [oneRow_eq_put]
  exact within_put ..

/-! ## transactions -/

/-- The ways in which a transaction ends, with what was said. -/
inductive Concluded (refusal : Failure → SalesError) (body : Session (Ending α)) :
    Transcript → Except SalesError α → Prop
  /-- It could not begin. -/
  | unbegun (f : Failure) : Concluded refusal body [⟨.begin, .error f⟩] (.error (refusal f))
  | kept {said : Transcript} {a : α} (h : body.Yields said (.ok (.keep a))) :
    Concluded refusal body (⟨.begin, .ok ()⟩ :: said ++ [⟨.commit, .ok ()⟩]) (.ok a)
  /-- It could not be committed. -/
  | unkept {said : Transcript} {a : α} (h : body.Yields said (.ok (.keep a))) (f : Failure) :
    Concluded refusal body
      (⟨.begin, .ok ()⟩ :: said ++ [⟨.commit, .error f⟩, ⟨.rollback, ()⟩]) (.error (refusal f))
  | undone {said : Transcript} {a : α} (h : body.Yields said (.ok (.undo a))) :
    Concluded refusal body (⟨.begin, .ok ()⟩ :: said ++ [⟨.rollback, ()⟩]) (.ok a)
  /-- The body failed. -/
  | failed {said : Transcript} {e : SalesError} (h : body.Yields said (.error e)) :
    Concluded refusal body (⟨.begin, .ok ()⟩ :: said ++ [⟨.rollback, ()⟩]) (.error e)

variable {refusal : Failure → SalesError} {body : Session (Ending α)}
  {result : Except SalesError α}

theorem concluded_of_yields (h : (transaction refusal body).Yields t result) :
    Concluded refusal body t result := by
  obtain ⟨begun, rest, rfl, h⟩ := h
  cases begun with
  | error f =>
    obtain ⟨rfl, rfl⟩ := h
    exact .unbegun f
  | ok u =>
    rcases yields_bind_iff.1 h with ⟨ending, said, last, rfl, hbody, hlast⟩ | ⟨e, -, he⟩
    · obtain ⟨r, hr, hbody⟩ := yields_attempt_iff.1 hbody
      cases hr
      rcases ending with e | a | a
      · obtain ⟨-, last, rfl, rfl, rfl⟩ := hlast
        exact .failed hbody
      · obtain ⟨committed, last, rfl, hlast⟩ := hlast
        cases committed with
        | ok u =>
          obtain ⟨rfl, rfl⟩ := hlast
          exact .kept hbody
        | error f =>
          obtain ⟨-, last, rfl, rfl, rfl⟩ := hlast
          exact .unkept hbody f
      · obtain ⟨-, last, rfl, rfl, rfl⟩ := hlast
        exact .undone hbody
    · obtain ⟨r, hr, -⟩ := yields_attempt_iff.1 he
      cases hr

theorem not_committed_of_statements {said : Transcript}
    (statements : ∀ x ∈ said, x.1.isStatement = true) : ¬ said.Committed := fun h =>
  Bool.false_ne_true (statements _ h)

/-- The commit is acknowledged exactly where the body ends by keeping what it did and the
transaction gives its value. -/
theorem Concluded.committed_iff {post : Ending α → Prop}
    (statements : body.Within (·.isStatement) post) (h : Concluded refusal body t result) :
    t.Committed ↔ ∃ said a, body.Yields said (.ok (.keep a)) ∧ result = .ok a ∧
      t = ⟨.begin, .ok ()⟩ :: said ++ [⟨.commit, .ok ()⟩] := by
  constructor
  · intro hc
    cases h with
    | unbegun f => simp [Transcript.Committed] at hc
    | kept h => exact ⟨_, _, h, rfl, rfl⟩
    | unkept h f =>
      have hno := not_committed_of_statements (statements.of_yields h)
      simp_all [Transcript.Committed]
    | undone h =>
      have hno := not_committed_of_statements (statements.of_yields h)
      simp_all [Transcript.Committed]
    | failed h =>
      have hno := not_committed_of_statements (statements.of_yields h)
      simp_all [Transcript.Committed]
  · rintro ⟨said, a, -, -, rfl⟩
    simp [Transcript.Committed]

/-- A statement of the transcript is one of the body, which decides the result: its failure
is that of the transaction, and a value of the transaction is the one that it gave. -/
theorem Concluded.exists_said (h : Concluded refusal body t result)
    {told : Except Failure ResultSet} (hmem : ⟨.run statement, told⟩ ∈ t) :
    ∃ said ending, body.Yields said ending ∧ ⟨.run statement, told⟩ ∈ said ∧
      (∀ e, ending = .error e → result = .error e) ∧
      ∀ a, result = .ok a → ending = .ok (.keep a) ∨ ending = .ok (.undo a) := by
  cases h with
  | unbegun f => simp at hmem
  | kept h => exact ⟨_, _, h, by simpa using hmem, by simp, fun a hr => .inl (by cases hr; rfl)⟩
  | unkept h f => exact ⟨_, _, h, by simpa using hmem, by simp, by simp⟩
  | undone h => exact ⟨_, _, h, by simpa using hmem, by simp, fun a hr => .inr (by cases hr; rfl)⟩
  | failed h => exact ⟨_, _, h, by simpa using hmem, fun e he => by cases he; rfl, by simp⟩

end Session

end BoxOffice.Sql
