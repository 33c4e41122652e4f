import BoxOffice.Proofs.Service
import BoxOffice.Proofs.Transcript
import Mathlib.Data.List.Infix

/-!
# BoxOffice.Proofs.Procedure

Services that make their calls in a fixed order, each of which may be refused.

A `Procedure` says what such a service may do, without saying how: in which order it calls,
which call is due after what it was told, and what each reply means for the request. A
transcript follows the procedure (`Procedure.Followed`) if its calls are the first ones of that
order and each was due, if every reply but the last let the request pass, and if the last one
decided it.

A service is read along its transcript, one call at a time (`Procedure.Goes`); what is read so
follows the procedure (`Goes.followed`). If every transcript of a service can be read so, the
procedure governs it, whoever answers (`Procedure.governs_opening_bind`).
-/

namespace BoxOffice

open Dialogue

/-- A call, with what it gave. -/
abbrev Exchange := (c : Call) × c.Reply

/-- What a reply means for a request. -/
inductive Verdict (α : Type)
  /-- The request fails for this reason. -/
  | refuses (e : SalesError)
  /-- The request goes on. -/
  | passes
  /-- The request is answered. -/
  | grants (a : α)

/-- A failure is the request's own, and a value means what it means. -/
def Verdict.ofReply {V α : Type} (ofValue : V → Verdict α) : Except SalesError V → Verdict α
  | .ok v => ofValue v
  | .error e => .refuses e

/-- The request ends so. -/
def Verdict.ofResult {α : Type} : Except SalesError α → Verdict α
  | .ok a => .grants a
  | .error e => .refuses e

/-- The verdict settles the request, with this result. -/
def Verdict.Decides {α : Type} (result : Except SalesError α) : Verdict α → Prop
  | refuses e => result = .error e
  | passes => False
  | grants a => result = .ok a

theorem Verdict.decides_ofResult_iff {α : Type} {result ended : Except SalesError α} :
    (ofResult ended).Decides result ↔ result = ended := by cases ended <;> exact Iff.rfl

theorem Verdict.decides_of_refuses {α : Type} {v : Verdict α} {e : SalesError}
    (h : v = .refuses e) : v.Decides (.error e) := by
  rw [h]
  rfl

/-- The rules of a service that makes one call after the other. -/
structure Procedure (α : Type) where
  /-- Whether the service makes any call at all. -/
  opening : Except SalesError Unit
  /-- The operations in their order, for a request of this transcript. -/
  order : List Exchange → List Operation
  /-- What a reply means. -/
  verdict : (c : Call) → c.Reply → Verdict α
  /-- The call may come after these exchanges. -/
  Due : List Exchange → Call → Prop
  /-- No operation is called twice. -/
  nodup_order : ∀ t, (order t).Nodup

namespace Procedure

variable {α : Type} {P : Procedure α} {before t : List Exchange} {os : List Operation}
  {result : Except SalesError α}

/-- The reply of an exchange lets the request pass. -/
def Passes (P : Procedure α) (x : Exchange) : Prop := P.verdict x.1 x.2 = .passes

/-- The operations that a transcript calls. -/
def called (t : List Exchange) : List Operation := t.map (·.1.operation)

/-- A transcript and a result are those of the procedure. -/
structure Followed (P : Procedure α) (t : List Exchange) (result : Except SalesError α) :
    Prop where
  /-- The operations called are the first ones of the order. -/
  order : called t <+: P.order t
  /-- Each is called once at most. -/
  once : (called t).Nodup
  /-- Each call was due after the exchanges before it. -/
  due : ∀ first x rest, t = first ++ x :: rest → P.Due first x.1
  /-- No reply but the last settles the request. -/
  passed : ∀ x ∈ t.dropLast, P.Passes x
  /-- Without a call the opening settles the request, and otherwise the last reply does. -/
  decided : (t = [] ∧ ∃ e, P.opening = .error e ∧ result = .error e) ∨
    P.opening = .ok () ∧ ∃ x ∈ t.getLast?, (P.verdict x.1 x.2).Decides result
  /-- The last operation of the order is called just where every other reply lets the request
  pass. -/
  reached : ∀ o ∈ (P.order t).getLast?,
    (o ∈ called t ↔ P.opening = .ok () ∧ ∀ x ∈ t, x.1.operation ≠ o → P.Passes x)

/-! ## along a transcript -/

/-- After some exchanges a transcript goes on with calls of these operations, until a reply
settles the request. -/
inductive Goes (P : Procedure α) :
    List Exchange → List Operation → List Exchange → Except SalesError α → Prop
  | decides {before : List Exchange} {os : List Operation} {result : Except SalesError α}
      {c : Call} {told : c.Reply} (due : P.Due before c)
      (settled : (P.verdict c told).Decides result) :
      Goes P before (c.operation :: os) [⟨c, told⟩] result
  | passes {before rest : List Exchange} {os : List Operation} {result : Except SalesError α}
      {c : Call} {told : c.Reply} (due : P.Due before c) (passed : P.Passes ⟨c, told⟩)
      (goesOn : Goes P (before ++ [⟨c, told⟩]) os rest result) :
      Goes P before (c.operation :: os) (⟨c, told⟩ :: rest) result

theorem Goes.ne_nil (h : P.Goes before os t result) : t ≠ [] := by
  cases h <;> exact List.cons_ne_nil _ _

theorem Goes.order (h : P.Goes before os t result) : called t <+: os := by
  induction h with
  | decides due settled => exact List.cons_prefix_cons.2 ⟨rfl, List.nil_prefix⟩
  | passes due passed goesOn ih => exact List.cons_prefix_cons.2 ⟨rfl, ih⟩

theorem Goes.due (h : P.Goes before os t result) {first rest : List Exchange} {x : Exchange}
    (ht : t = first ++ x :: rest) : P.Due (before ++ first) x.1 := by
  induction h generalizing first with
  | decides due settled =>
    obtain ⟨rfl, hx⟩ | ⟨later, -, hrest⟩ := List.cons_eq_append_iff.1 ht
    · cases hx
      simpa using due
    · simp at hrest
  | passes due passed goesOn ih =>
    obtain ⟨rfl, hx⟩ | ⟨later, rfl, hrest⟩ := List.cons_eq_append_iff.1 ht
    · cases hx
      simpa using due
    · simpa using ih hrest

theorem Goes.passed (h : P.Goes before os t result) : ∀ x ∈ t.dropLast, P.Passes x := by
  induction h with
  | decides due settled => simp
  | passes due passed goesOn ih =>
    rw [List.dropLast_cons_of_ne_nil goesOn.ne_nil]
    exact List.forall_mem_cons.2 ⟨passed, ih⟩

theorem Goes.decided (h : P.Goes before os t result) :
    ∃ x ∈ t.getLast?, (P.verdict x.1 x.2).Decides result := by
  induction h with
  | decides due settled => exact ⟨_, rfl, settled⟩
  | passes due passed goesOn ih =>
    obtain ⟨x, hx, hdecides⟩ := ih
    refine ⟨x, ?_, hdecides⟩
    rw [List.getLast?_cons, hx]
    rfl

/-! ## the last operation -/

/-- Of a list without repetition the last element is in a first part only if that is all. -/
theorem eq_of_prefix_of_getLast? {γ : Type} {xs ys : List γ} {a : γ} (nodup : ys.Nodup)
    (h : xs <+: ys) (hlast : ys.getLast? = some a) (ha : a ∈ xs) : xs = ys := by
  obtain ⟨rest, rfl⟩ := h
  cases hrest : rest.getLast? with
  | none => rw [List.getLast?_eq_none_iff.1 hrest, List.append_nil]
  | some b =>
    rw [List.getLast?_append, hrest] at hlast
    cases hlast
    exact absurd rfl (List.nodup_append.1 nodup |>.2.2 a ha a (List.mem_of_getLast? hrest))

/-- Where the last operation is called, every reply to another one lets the request pass. -/
theorem Goes.passes_of_reached (h : P.Goes before os t result) (nodup : os.Nodup) {o : Operation}
    (hlast : os.getLast? = some o) (ho : o ∈ called t) :
    ∀ x ∈ t, x.1.operation ≠ o → P.Passes x := by
  intro x hx hne
  have hall := eq_of_prefix_of_getLast? nodup h.order hlast ho
  rw [← hall, called, List.getLast?_map] at hlast
  obtain ⟨z, hz, rfl⟩ := Option.map_eq_some_iff.1 hlast
  rw [← List.dropLast_append_getLast? z hz, List.mem_append, List.mem_singleton] at hx
  rcases hx with hx | rfl
  · exact h.passed x hx
  · exact absurd rfl hne

/-- Where every reply lets the request pass but those to an operation, this one is called. -/
theorem Goes.reached_of_passes (h : P.Goes before os t result) {o : Operation}
    (passes : ∀ x ∈ t, x.1.operation ≠ o → P.Passes x) : o ∈ called t := by
  obtain ⟨x, hx, hdecides⟩ := h.decided
  have hmem : x ∈ t := List.mem_of_getLast? hx
  by_contra hno
  have hpasses := passes x hmem fun h => hno (List.mem_map.2 ⟨x, hmem, h⟩)
  rw [Passes] at hpasses
  rw [hpasses] at hdecides
  exact hdecides

/-! ## the whole transcript -/

theorem Goes.followed (opened : P.opening = .ok ()) (h : P.Goes [] (P.order t) t result) :
    P.Followed t result where
  order := h.order
  once := (P.nodup_order t).sublist h.order.sublist
  due _ _ _ ht := h.due ht
  passed := h.passed
  decided := .inr ⟨opened, h.decided⟩
  reached o ho := by
    constructor
    · exact fun hmem => ⟨opened, h.passes_of_reached (P.nodup_order t) ho hmem⟩
    · exact fun hpasses => h.reached_of_passes hpasses.2

theorem followed_of_closed {e : SalesError} (closed : P.opening = .error e) :
    P.Followed [] (.error e) where
  order := List.nil_prefix
  once := List.nodup_nil
  due := by simp
  passed := by simp
  decided := .inl ⟨rfl, e, closed, rfl⟩
  reached := by simp [called, closed]

/-! ## reading a service -/

/-- However a service is answered, what it asks and how it ends are the procedure's. -/
def Governs (P : Procedure α) (d : Service α) : Prop :=
  ∀ (σ : Type) (reply : (c : Call) → σ → c.Reply × σ) (s : σ),
    (d.run reply s).asked = (d.exchanges reply s).map (·.1) ∧
      P.Followed (d.exchanges reply s) (d.run reply s).result

/-- Where a call fails, the request does so too, and otherwise its value settles the request
or lets it pass. -/
theorem goes_call_bind {c : Call} {k : c.operation.Value → Service α}
    (h : (Service.call c >>= k).Yields t result) (due : P.Due before c)
    (failed : ∀ e, P.verdict c (.error e) = .refuses e)
    (goesOn : ∀ v rest, t = ⟨c, .ok v⟩ :: rest → (k v).Yields rest result →
      (rest = [] ∧ (P.verdict c (.ok v)).Decides result) ∨
        P.Passes ⟨c, .ok v⟩ ∧ P.Goes (before ++ [⟨c, .ok v⟩]) os rest result) :
    P.Goes before (c.operation :: os) t result := by
  obtain ⟨told, rest, rfl, h⟩ := h
  cases told with
  | error e =>
    obtain ⟨rfl, rfl⟩ := h
    exact .decides due (Verdict.decides_of_refuses (failed e))
  | ok v =>
    rcases goesOn v rest rfl h with ⟨rfl, settled⟩ | ⟨passed, goes⟩
    · exact .decides due settled
    · exact .passes due passed goes

/-- A service that starts with the opening is governed if it goes by the procedure after it. -/
theorem governs_opening_bind {body : Unit → Service α} {f : Except SalesError α → Option Metric}
    (goes : ∀ t result, (body ()).Yields t result → P.Goes [] (P.order t) t result) :
    P.Governs ((.done P.opening >>= body : Service α).noting f) := by
  intro σ reply s
  have hyields := yields_run reply ((.done P.opening >>= body : Service α).noting f) s
  rw [yields_noting_iff] at hyields
  refine ⟨asked_run reply _ s, ?_⟩
  cases hopening : P.opening with
  | ok u =>
    rw [hopening] at hyields
    exact (goes _ _ hyields).followed hopening
  | error e =>
    rw [hopening] at hyields
    obtain ⟨hnone, hresult⟩ := hyields
    rw [hnone, hresult]
    exact followed_of_closed hopening

end Procedure

end BoxOffice
