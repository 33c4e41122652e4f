import BoxOffice.Proofs.Dialogue

/-!
# BoxOffice.Proofs.Transcript

What a dialogue asked and what it was told.

`exchanges` is the transcript of a run, question by question what the run asked
(`asked_run`). `Yields` says which transcripts a dialogue can have and with which result each
of them ends, whoever answers: the transcript of a run is one of them (`yields_run`). A
transcript of two dialogues in sequence is one of the first followed by one of the second, or
stops where the first failed (`yields_bind_iff`), so a transcript can be read from its front,
one question at a time.
-/

namespace BoxOffice

namespace Dialogue

variable {Q σ α β : Type} {A : Q → Type}

/-- What is asked, with what is told, when a state answers. -/
def exchanges (reply : (q : Q) → σ → A q × σ) : Dialogue Q A α → σ → List ((q : Q) × A q)
  | done _, _ => []
  | ask q next, s =>
    ⟨q, (reply q s).1⟩ :: (next (reply q s).1).exchanges reply (reply q s).2
  | note _ rest, s => rest.exchanges reply s

/-- Told what the transcript says, the dialogue asks what it says and ends with the
result. -/
def Yields : Dialogue Q A α → List ((q : Q) × A q) → Except SalesError α → Prop
  | done r, t, result => t = [] ∧ result = r
  | ask q next, t, result => ∃ a rest, t = ⟨q, a⟩ :: rest ∧ (next a).Yields rest result
  | note _ rest, t, result => rest.Yields t result

theorem yields_run (reply : (q : Q) → σ → A q × σ) (d : Dialogue Q A α) (s : σ) :
    d.Yields (d.exchanges reply s) (d.run reply s).result := by
  induction d generalizing s with
  | done r => exact ⟨rfl, rfl⟩
  | ask q next ih => exact ⟨_, _, rfl, ih _ _⟩
  | note m rest ih => exact ih s

theorem asked_run (reply : (q : Q) → σ → A q × σ) (d : Dialogue Q A α) (s : σ) :
    (d.run reply s).asked = (d.exchanges reply s).map (·.1) := by
  induction d generalizing s with
  | done r => rfl
  | ask q next ih => rw [run_ask, exchanges, List.map_cons, ih]
  | note m rest ih => exact ih s

section

variable {t : List ((q : Q) × A q)}

theorem yields_bind_iff {d : Dialogue Q A α} {f : α → Dialogue Q A β}
    {result : Except SalesError β} :
    (d >>= f).Yields t result ↔
      (∃ a first second, t = first ++ second ∧ d.Yields first (.ok a) ∧
          (f a).Yields second result) ∨
        ∃ e, result = .error e ∧ d.Yields t (.error e) := by
  rw [bind_eq]
  induction d generalizing t with
  | done r =>
    cases r with
    | ok a =>
      constructor
      · exact fun h => .inl ⟨a, [], t, rfl, ⟨rfl, rfl⟩, h⟩
      · rintro (⟨a', first, second, rfl, ⟨rfl, ha⟩, h⟩ | ⟨e, -, -, he⟩)
        · cases ha
          exact h
        · cases he
    | error e =>
      constructor
      · rintro ⟨rfl, rfl⟩
        exact .inr ⟨e, rfl, rfl, rfl⟩
      · rintro (⟨a', first, second, -, ⟨-, ha⟩, -⟩ | ⟨e', rfl, rfl, he⟩)
        · cases ha
        · exact ⟨rfl, congrArg _ (Except.error.inj he)⟩
  | ask q next ih =>
    constructor
    · rintro ⟨a, rest, rfl, h⟩
      rcases (ih a).1 h with ⟨b, first, second, rfl, hd, hf⟩ | ⟨e, rfl, hd⟩
      · exact .inl ⟨b, ⟨q, a⟩ :: first, second, rfl, ⟨a, first, rfl, hd⟩, hf⟩
      · exact .inr ⟨e, rfl, a, rest, rfl, hd⟩
    · rintro (⟨b, first, second, rfl, ⟨a, rest, rfl, hd⟩, hf⟩ | ⟨e, rfl, a, rest, rfl, hd⟩)
      · exact ⟨a, rest ++ second, rfl, (ih a).2 (.inl ⟨b, rest, second, rfl, hd, hf⟩)⟩
      · exact ⟨a, rest, rfl, (ih a).2 (.inr ⟨e, rfl, hd⟩)⟩
  | note m rest ih => exact ih

theorem yields_attempt_iff {d : Dialogue Q A α} {result : Except SalesError (Except SalesError α)} :
    d.attempt.Yields t result ↔ ∃ r, result = .ok r ∧ d.Yields t r := by
  induction d generalizing t with
  | done r =>
    constructor
    · rintro ⟨rfl, rfl⟩
      exact ⟨r, rfl, rfl, rfl⟩
    · rintro ⟨r', rfl, rfl, rfl⟩
      exact ⟨rfl, rfl⟩
  | ask q next ih =>
    constructor
    · rintro ⟨a, rest, rfl, h⟩
      obtain ⟨r, rfl, hr⟩ := (ih a).1 h
      exact ⟨r, rfl, a, rest, rfl, hr⟩
    · rintro ⟨r, rfl, a, rest, rfl, h⟩
      exact ⟨a, rest, rfl, (ih a).2 ⟨r, rfl, h⟩⟩
  | note m rest ih => exact ih

/-- What is noted at the end is in no transcript. -/
theorem yields_noting_iff {d : Dialogue Q A α} {f : Except SalesError α → Option Metric}
    {result : Except SalesError α} : (d.noting f).Yields t result ↔ d.Yields t result := by
  induction d generalizing t with
  | done r =>
    rw [noting]
    split <;> exact Iff.rfl
  | ask q next ih =>
    constructor
    · rintro ⟨a, rest, rfl, h⟩
      exact ⟨a, rest, rfl, (ih a).1 h⟩
    · rintro ⟨a, rest, rfl, h⟩
      exact ⟨a, rest, rfl, (ih a).2 h⟩
  | note m rest ih => exact ih

/-- Every question in a transcript is one that the dialogue may ask. -/
theorem Within.of_yields {p : Q → Prop} {post : α → Prop} {d : Dialogue Q A α}
    (hd : d.Within p post) {result : Except SalesError α} (h : d.Yields t result) :
    ∀ x ∈ t, p x.1 := by
  induction d generalizing t with
  | done r =>
    obtain ⟨rfl, -⟩ := h
    simp
  | ask q next ih =>
    obtain ⟨a, rest, rfl, h⟩ := h
    rintro x (- | ⟨-, hx⟩)
    · exact hd.1
    · exact ih a (hd.2 a) h x hx
  | note m rest ih => exact ih hd h

end

end Dialogue

end BoxOffice
