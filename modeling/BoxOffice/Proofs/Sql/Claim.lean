import BoxOffice.Proofs.Sql.Transaction
import BoxOffice.Sql.Database
import BoxOffice.Sql.Rehearsal
import BoxOffice.Sample
import Mathlib.Control.Monad.Basic

/-!
# BoxOffice.Proofs.Sql.Claim

When a claim is committed in the database. A claim that is reported as granted was committed,
and one that is not committed was not granted; the converse has an exception
(`committed_claimSlip_iff`). What the row of the slip means is looked at only after the
commit, so that a row with a number or a name that means nothing ends the claim with a
failure, and the slip stays with the claimant (`claimSlip_of_negative_seat`).
-/

namespace BoxOffice.Sql

open Dialogue Session

namespace Database

variable {claim : Claim} {t : Transcript}

/-! ## the transaction of a claim -/

/-- What a claim does within its transaction. -/
def claimBody (claim : Claim) : Session (Ending (ClaimResult ⊕ SlipColumns)) := do
  let owned ← firstRow "claim_slip" (·.required Row.asText (.index 0))
    (.selectOwnedNumber claim.eventId claim.userId)
  if owned.isSome then return .undo (.inl .alreadyOwned)
  let lowered ← change "claim_slip" (.lowerCounter claim.ticketId claim.eventId)
  if lowered = 0 then return .undo (.inl .classExhausted)
  let price ← converted (bindWord "claim_slip" claim.price)
  .ask (.run (.takeSlip claim price)) takenSlip

/-- What is made of the end of the transaction. -/
def claimReport : ClaimResult ⊕ SlipColumns → Except SalesError ClaimResult
  | .inl outcome => .ok outcome
  | .inr columns => columns.toSlip.map .claimed

theorem claimSlip_eq (claim : Claim) :
    claimSlip claim =
      transaction (·.during "claim_slip") (claimBody claim) >>= fun taken =>
        done (claimReport taken) := by
  refine congrArg (_ >>= ·) (funext fun taken => ?_)
  rcases taken with outcome | columns
  · rfl
  · change ClaimResult.claimed <$> done columns.toSlip = done (columns.toSlip.map .claimed)
    cases columns.toSlip <;> rfl

/-- How the body of the transaction ends: with a failure, with an outcome that grants
nothing, or with the row of the slip that was taken. -/
inductive ClaimEnding (P : SlipColumns → Prop) :
    Except SalesError (Ending (ClaimResult ⊕ SlipColumns)) → Prop
  | failed (e : SalesError) : ClaimEnding P (.error e)
  | refused {outcome : ClaimResult} (h : ∀ slip, outcome ≠ .claimed slip) :
    ClaimEnding P (.ok (.undo (.inl outcome)))
  | took {columns : SlipColumns} (h : P columns) : ClaimEnding P (.ok (.keep (.inr columns)))

/-- Told what the update returned, a claim asks nothing more. -/
theorem takenSlip_eq_done (told : Except Failure ResultSet) :
    ∃ ending, takenSlip told = done ending ∧ ClaimEnding
      (fun columns => ∃ row rows n, told = .ok ⟨row :: rows, n⟩ ∧
        SlipColumns.ofRow row = .ok columns) ending := by
  match told with
  | .ok ⟨[], _⟩ => exact ⟨_, rfl, .refused (by simp)⟩
  | .ok ⟨row :: rows, n⟩ =>
    cases hrow : SlipColumns.ofRow row with
    | ok columns => exact ⟨_, by rw [takenSlip, hrow]; rfl, .took ⟨row, rows, n, rfl, hrow⟩⟩
    | error f => exact ⟨_, by rw [takenSlip, hrow]; rfl, .failed _⟩
  | .error f =>
    by_cases hf : f.isUniqueViolation = true
    · exact ⟨_, by rw [takenSlip, if_pos hf]; rfl, .refused (by simp)⟩
    · exact ⟨_, by rw [takenSlip, if_neg hf]; rfl, .failed _⟩

theorem within_claimBody (claim : Claim) :
    (claimBody claim).Within (·.isStatement) fun _ => True := by
  refine (within_firstRow ..).bind fun owned _ => ?_
  split
  · exact within_pure trivial
  · refine (within_change ..).bind fun lowered _ => ?_
    split
    · exact within_pure trivial
    · refine (within_done _ _).bind fun price _ => ⟨rfl, fun told => ?_⟩
      obtain ⟨ending, h, -⟩ := takenSlip_eq_done told
      rw [h]
      exact within_done _ ending

/-- The three statements of a claim that takes a slip: the buyer owns none, a counter was
lowered, and a row came back that reads as the given columns. -/
def Takes (claim : Claim) (said : Transcript) (columns : SlipColumns) : Prop :=
  ∃ m lowered price row rows n, lowered.affected ≠ 0 ∧
    bindWord "claim_slip" claim.price = .ok price ∧ SlipColumns.ofRow row = .ok columns ∧
    said = [⟨.run (.selectOwnedNumber claim.eventId claim.userId), .ok ⟨[], m⟩⟩,
      ⟨.run (.lowerCounter claim.ticketId claim.eventId), .ok lowered⟩,
      ⟨.run (.takeSlip claim price), .ok ⟨row :: rows, n⟩⟩]

theorem claimEnding_of_yields {said : Transcript}
    {ending : Except SalesError (Ending (ClaimResult ⊕ SlipColumns))}
    (h : (claimBody claim).Yields said ending) : ClaimEnding (Takes claim said) ending := by
  rcases yields_firstRow_bind_cases h with
    ⟨-, f, -, rfl⟩ | ⟨m, rest, rfl, h₁⟩ | ⟨-, -, -, -, -, -, -, -, rfl⟩
  · exact .failed _
  · rcases yields_change_bind_cases h₁ with ⟨f, -, rfl⟩ | ⟨lowered, rest, rfl, h₂⟩
    · exact .failed _
    · by_cases hzero : lowered.affected = 0
      · rw [if_pos hzero] at h₂
        obtain ⟨-, rfl⟩ := h₂
        exact .refused (by simp)
      · rw [if_neg hzero] at h₂
        cases hprice : bindWord "claim_slip" claim.price with
        | error e =>
          rw [hprice] at h₂
          obtain ⟨-, rfl⟩ := h₂
          exact .failed _
        | ok price =>
          rw [hprice] at h₂
          obtain ⟨told, last, rfl, h₃⟩ := h₂
          obtain ⟨ending', hdone, hending⟩ := takenSlip_eq_done told
          rw [hdone] at h₃
          obtain ⟨rfl, rfl⟩ := h₃
          cases hending with
          | failed e => exact .failed e
          | refused hno => exact .refused hno
          | took htook =>
            obtain ⟨row, rows, n, rfl, hrow⟩ := htook
            exact .took ⟨m, lowered, price, row, rows, n, hzero, hprice, hrow, rfl⟩
  · exact .refused (by simp)

/-! ## the commit of a claim -/

section

variable {result : Except SalesError ClaimResult}

/-- A transcript of a claim is one of its transaction, which decides the result. -/
theorem yields_claimSlip_iff : (claimSlip claim).Yields t result ↔
    ∃ taken, (transaction (·.during "claim_slip") (claimBody claim)).Yields t taken ∧
      result = taken.bind claimReport := by
  rw [claimSlip_eq, yields_bind_iff]
  constructor
  · rintro (⟨taken, first, last, rfl, htaken, rfl, rfl⟩ | ⟨e, rfl, htaken⟩)
    · exact ⟨_, by rwa [List.append_nil], rfl⟩
    · exact ⟨_, htaken, rfl⟩
  · rintro ⟨taken, htaken, rfl⟩
    cases taken with
    | ok taken => exact .inl ⟨taken, t, [], (List.append_nil t).symm, htaken, rfl, rfl⟩
    | error e => exact .inr ⟨e, rfl, htaken⟩

/-- A claim that is committed took a slip, and ends with what the columns of it mean. -/
theorem takes_of_committed (h : (claimSlip claim).Yields t result) (hc : t.Committed) :
    ∃ said columns, Takes claim said columns ∧
      t = ⟨.begin, .ok ()⟩ :: said ++ [⟨.commit, .ok ()⟩] ∧
      result = columns.toSlip.map .claimed := by
  obtain ⟨taken, htaken, rfl⟩ := yields_claimSlip_iff.1 h
  obtain ⟨said, a, hbody, rfl, rfl⟩ :=
    ((concluded_of_yields htaken).committed_iff (within_claimBody claim)).1 hc
  cases claimEnding_of_yields hbody with
  | took htook => exact ⟨said, _, htook, rfl, rfl⟩

/-- A claim that is reported as granted was committed. -/
theorem committed_of_claimed {slip : TicketSlip}
    (h : (claimSlip claim).Yields t (.ok (.claimed slip))) : t.Committed := by
  obtain ⟨taken, htaken, hr⟩ := yields_claimSlip_iff.1 h
  cases concluded_of_yields htaken with
  | kept hbody => simp [Transcript.Committed]
  | undone hbody =>
    cases claimEnding_of_yields hbody with
    | refused hno => exact absurd (Except.ok.inj hr).symm (hno slip)
  | unbegun f => cases hr
  | unkept hbody f => cases hr
  | failed hbody => cases hr

end

/-- A claim is committed exactly where it took a slip and the commit was acknowledged, and
it then ends with what the columns of the slip mean. A claim that is reported as granted is
among those, so that any other end but a row without meaning leaves nothing behind. -/
theorem committed_claimSlip_iff {σ : Type} (reply : (q : Request) → σ → q.Reply × σ)
    (claim : Claim) (s : σ) :
    (Transcript.Committed ((claimSlip claim).exchanges reply s) ↔
        ∃ said columns, Takes claim said columns ∧
          (claimSlip claim).exchanges reply s =
            ⟨.begin, .ok ()⟩ :: said ++ [⟨.commit, .ok ()⟩] ∧
          ((claimSlip claim).run reply s).result = columns.toSlip.map .claimed) ∧
      ∀ slip, ((claimSlip claim).run reply s).result = .ok (.claimed slip) →
        Transcript.Committed ((claimSlip claim).exchanges reply s) := by
  have h := yields_run reply (claimSlip claim) s
  refine ⟨⟨takes_of_committed h, ?_⟩, fun slip hr => committed_of_claimed (hr ▸ h)⟩
  rintro ⟨said, columns, -, ht, -⟩
  simp [Transcript.Committed, ht]

/-- The row of a slip whose seat has a negative number. -/
def negativeSeat : SlipColumns where
  ticketNumber := "E-Gold-0001"
  seatNumber := -1
  isUsed := true
  userId := some "A"
  queueId := some (.random 1)
  ticketId := some "E-gold"
  eventId := "E"
  countryCode := "ID"
  price := 100
  ticketType := "Gold"
  paymentStatus := some "Pending"
  createdAt := Sample.provisionedAt
  updatedAt := Sample.provisionedAt

/-- The claim of that slip. -/
def negativeSeatClaim : Claim where
  eventId := ⟨"E"⟩
  ticketType := .gold
  ticketId := ⟨"E-gold"⟩
  userId := ⟨"A"⟩
  queueId := ⟨.random 1⟩
  price := 100
  countryCode := ⟨"ID"⟩
  paymentStatus := .pending
  claimedAt := Sample.provisionedAt

/-- The claim takes the slip and is committed, and the claimant is told of a failure. -/
theorem claimSlip_of_negative_seat :
    ((claimSlip negativeSeatClaim).run Rehearsal.reply
        { replies := [.ok ⟨[], 0⟩, .ok ⟨[], 1⟩,
            .ok ⟨[.ofCells SlipColumns.names negativeSeat.cells], 1⟩] }).result =
        .error (.internal "negative seat_number in store: -1") ∧
      Transcript.Committed ((claimSlip negativeSeatClaim).exchanges Rehearsal.reply
        { replies := [.ok ⟨[], 0⟩, .ok ⟨[], 1⟩,
            .ok ⟨[.ofCells SlipColumns.names negativeSeat.cells], 1⟩] }) := by
  constructor <;> decide +kernel

end Database

end BoxOffice.Sql
