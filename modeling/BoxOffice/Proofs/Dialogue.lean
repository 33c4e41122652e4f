import BoxOffice.Dialogue

/-!
# BoxOffice.Proofs.Dialogue

Five ways to reason about a dialogue without running it.

`Ends` is its big-step meaning: from a state it ends with a result in a state. A
dialogue in two parts ends as its second part does, or with the failure of its
first (`ends_bind_iff`).

`Within` looks at the dialogue alone, under every reply: which queries it may ask,
and what is known of a value it gives. Whatever answers then, a relation that holds
over every step of such a query holds over the whole run (`Within.rel_state`), and
what is known of the value is so (`Within.of_result`).

`Quiet` says the same of the queries, and that nothing is noted (`Quiet.noted`).

What is known of the queries that a run asks is known of the run: a state from which those
are answered alike sees the same run (`run_congr`), what each of them keeps is kept
(`invariant_of_asked`), and what each of them counts adds up (`count_of_asked`).

`Upholds` looks at the dialogue under the replies that it may rely on: it asks only what
it may, and fails only as it may. Over a state that gives such replies, and goes on giving
them after such queries, the run does so too (`Upholds.run`).
-/

namespace BoxOffice

namespace Dialogue

variable {Q σ α β : Type} {A : Q → Type} {reply : (q : Q) → σ → A q × σ}

/-! ## how a dialogue ends -/

/-- From a state the dialogue ends with a result, in a state. -/
def Ends (reply : (q : Q) → σ → A q × σ) (d : Dialogue Q A α) (s : σ)
    (result : Except SalesError α) (state : σ) : Prop :=
  (d.run reply s).result = result ∧ (d.run reply s).state = state

theorem ends_run (d : Dialogue Q A α) (s : σ) :
    d.Ends reply s (d.run reply s).result (d.run reply s).state := ⟨rfl, rfl⟩

theorem ends_ask_iff {q : Q} {next : A q → Dialogue Q A α} {s state : σ}
    {result : Except SalesError α} :
    (ask q next).Ends reply s result state ↔
      (next (reply q s).1).Ends reply (reply q s).2 result state := Iff.rfl

/-- A dialogue in two parts ends as its second part does from where the first
succeeded, or with the failure of the first. -/
theorem ends_bind_iff {d : Dialogue Q A α} {f : α → Dialogue Q A β} {s state : σ}
    {result : Except SalesError β} :
    (d >>= f).Ends reply s result state ↔
      (∃ a s', d.Ends reply s (.ok a) s' ∧ (f a).Ends reply s' result state) ∨
        ∃ e, result = .error e ∧ d.Ends reply s (.error e) state := by
  cases h : (d.run reply s).result with
  | ok a =>
    simp only [Ends, run_bind_ok reply h, h]
    constructor
    · rintro ⟨hr, hs⟩
      exact .inl ⟨a, _, ⟨rfl, rfl⟩, hr, hs⟩
    · rintro (⟨a', s', ⟨ha, rfl⟩, hr⟩ | ⟨e, -, he, -⟩)
      · cases ha
        exact hr
      · cases he
  | error e =>
    simp only [Ends, run_bind_error reply h, h]
    constructor
    · rintro ⟨rfl, hs⟩
      exact .inr ⟨e, rfl, rfl, hs⟩
    · rintro (⟨a, s', ⟨ha, -⟩, -⟩ | ⟨e', rfl, he, hs⟩)
      · cases ha
      · cases he
        exact ⟨rfl, hs⟩

theorem Ends.bind {d : Dialogue Q A α} {f : α → Dialogue Q A β} {a : α} {s s' state : σ}
    {result : Except SalesError β} (hd : d.Ends reply s (.ok a) s')
    (hf : (f a).Ends reply s' result state) : (d >>= f).Ends reply s result state :=
  ends_bind_iff.2 (.inl ⟨a, s', hd, hf⟩)

/-- The same where it does not matter in which state it ends. -/
theorem Ends.exists_bind {d : Dialogue Q A α} {f : α → Dialogue Q A β} {a : α} {s s' : σ}
    {result : Except SalesError β} (hd : d.Ends reply s (.ok a) s')
    (hf : ∃ state, (f a).Ends reply s' result state) :
    ∃ state, (d >>= f).Ends reply s result state := hf.imp fun _ => hd.bind

theorem Ends.bind_error {d : Dialogue Q A α} {f : α → Dialogue Q A β} {e : SalesError}
    {s state : σ} (hd : d.Ends reply s (.error e) state) :
    (d >>= f).Ends reply s (.error e) state :=
  ends_bind_iff.2 (.inr ⟨e, rfl, hd⟩)

theorem bind_bind {γ : Type} (d : Dialogue Q A α) (f : α → Dialogue Q A β)
    (g : β → Dialogue Q A γ) : d >>= f >>= g = d >>= fun a => f a >>= g := by
  simp only [bind_eq]
  induction d with
  | done r => cases r <;> rfl
  | ask q next ih => exact congrArg (ask q) (funext ih)
  | note m rest ih => exact congrArg (note m) ih

/-- What is noted at the end does not count. -/
theorem ends_noting_iff {d : Dialogue Q A α} {f : Except SalesError α → Option Metric}
    {s state : σ} {result : Except SalesError α} :
    (d.noting f).Ends reply s result state ↔ d.Ends reply s result state := by
  rw [Ends, run_noting]
  rfl

/-- Mapping the value changes nothing but the result. -/
theorem run_map (f : α → β) (d : Dialogue Q A α) (s : σ) :
    (f <$> d).run reply s =
      ⟨(d.run reply s).result.map f, (d.run reply s).state, (d.run reply s).asked,
        (d.run reply s).noted⟩ := by
  change (d >>= fun a => (pure (f a) : Dialogue Q A β)).run reply s = _
  cases h : (d.run reply s).result with
  | ok a => simp [run_bind_ok reply h, Except.map]
  | error e => simp [run_bind_error reply h, Except.map]

theorem ends_map_ok_iff {d : Dialogue Q A α} {f : α → β} {b : β} {s state : σ} :
    (f <$> d).Ends reply s (.ok b) state ↔ ∃ a, f a = b ∧ d.Ends reply s (.ok a) state := by
  simp only [Ends, run_map]
  cases (d.run reply s).result <;> simp [Except.map, and_left_comm]

theorem ends_map_error_iff {d : Dialogue Q A α} {f : α → β} {e : SalesError} {s state : σ} :
    (f <$> d).Ends reply s (.error e) state ↔ d.Ends reply s (.error e) state := by
  simp only [Ends, run_map]
  cases (d.run reply s).result <;> simp [Except.map]

theorem Ends.map {d : Dialogue Q A α} {s state : σ} {result : Except SalesError α}
    (f : α → β) (h : d.Ends reply s result state) :
    (f <$> d).Ends reply s (result.map f) state := by
  obtain ⟨rfl, rfl⟩ := h
  rw [Ends, run_map]
  exact ⟨rfl, rfl⟩

/-! ## what a dialogue may ask and give -/

/-- Whatever the replies, the dialogue asks only queries of `p`, and a value that it
ends with satisfies `post`. -/
def Within (p : Q → Prop) (post : α → Prop) : Dialogue Q A α → Prop
  | done r => ∀ a, r = .ok a → post a
  | ask q next => p q ∧ ∀ a, (next a).Within p post
  | note _ rest => rest.Within p post

theorem within_pure {p : Q → Prop} {post : α → Prop} {a : α} (h : post a) :
    (pure a : Dialogue Q A α).Within p post := by
  rintro b hb
  cases hb
  exact h

theorem within_fail {p : Q → Prop} {post : α → Prop} (e : SalesError) :
    (fail e : Dialogue Q A α).Within p post := by
  rintro a ha
  cases ha

theorem within_done (p : Q → Prop) (r : Except SalesError α) :
    (done r : Dialogue Q A α).Within p fun _ => True := fun _ _ => trivial

theorem Within.note {p : Q → Prop} {post : α → Prop} {d : Dialogue Q A α} (m : Metric)
    (h : d.Within p post) : (note m d).Within p post := h

theorem Within.bind {p : Q → Prop} {mid : α → Prop} {post : β → Prop} {d : Dialogue Q A α}
    {f : α → Dialogue Q A β} (hd : d.Within p mid) (hf : ∀ a, mid a → (f a).Within p post) :
    (d >>= f).Within p post := by
  rw [bind_eq]
  induction d with
  | done r =>
    cases r with
    | ok a => exact hf a (hd a rfl)
    | error e => exact within_fail e
  | ask q next ih => exact ⟨hd.1, fun a => ih a (hd.2 a)⟩
  | note m rest ih => exact ih hd

theorem Within.map_any {p : Q → Prop} {post : α → Prop} {d : Dialogue Q A α} (f : α → β)
    (hd : d.Within p post) : (f <$> d).Within p fun _ => True :=
  hd.bind fun _ _ => within_pure trivial

theorem Within.mono {p p' : Q → Prop} {post post' : α → Prop} {d : Dialogue Q A α}
    (hp : ∀ q, p q → p' q) (hpost : ∀ a, post a → post' a) (hd : d.Within p post) :
    d.Within p' post' := by
  induction d with
  | done r => exact fun a ha => hpost a (hd a ha)
  | ask q next ih => exact ⟨hp q hd.1, fun a => ih a (hd.2 a)⟩
  | note m rest ih => exact ih hd

theorem Within.noting {p : Q → Prop} {post : α → Prop} {d : Dialogue Q A α}
    (f : Except SalesError α → Option Metric) (hd : d.Within p post) :
    (d.noting f).Within p post := by
  induction d with
  | done r =>
    rw [Dialogue.noting]
    split <;> exact hd
  | ask q next ih => exact ⟨hd.1, fun a => ih a (hd.2 a)⟩
  | note m rest ih => exact ih hd

/-- Over the run of a dialogue holds any relation between states that is reflexive,
transitive, and holds over each reply to a query that the dialogue may ask. -/
theorem Within.rel_state {p : Q → Prop} {post : α → Prop} {R : σ → σ → Prop}
    (refl : ∀ s, R s s) (trans : ∀ {a b c}, R a b → R b c → R a c)
    (step : ∀ q, p q → ∀ s, R s (reply q s).2) {d : Dialogue Q A α} (hd : d.Within p post)
    (s : σ) : R s (d.run reply s).state := by
  induction d generalizing s with
  | done r => exact refl s
  | ask q next ih => exact trans (step q hd.1 s) (ih _ (hd.2 _) _)
  | note m rest ih => exact ih hd s

theorem Within.of_result {p : Q → Prop} {post : α → Prop} {d : Dialogue Q A α}
    (hd : d.Within p post) {s : σ} {a : α} (h : (d.run reply s).result = .ok a) : post a := by
  induction d generalizing s with
  | done r => exact hd a h
  | ask q next ih => exact ih _ (hd.2 _) h
  | note m rest ih => exact ih hd h

theorem Within.of_asked {p : Q → Prop} {post : α → Prop} {d : Dialogue Q A α}
    (hd : d.Within p post) {s : σ} {q : Q} (h : q ∈ (d.run reply s).asked) : p q := by
  induction d generalizing s with
  | done r => simp at h
  | ask q' next ih =>
    rcases List.mem_cons.1 h with rfl | h
    · exact hd.1
    · exact ih _ (hd.2 _) h
  | note m rest ih => exact ih hd h

/-- Where each query that a dialogue may ask is answered within `p'`, so is the dialogue. -/
theorem Within.through {Q' : Type} {A' : Q' → Type} {p : Q → Prop} {p' : Q' → Prop}
    {post : α → Prop} {d : Dialogue Q A α} {answer : (q : Q) → Dialogue Q' A' (A q)}
    (hd : d.Within p post) (h : ∀ q, p q → (answer q).Within p' fun _ => True) :
    (d.through answer).Within p' post := by
  induction d with
  | done r => exact hd
  | ask q next ih => exact (h q hd.1).bind fun a _ => ih a (hd.2 a)
  | note m rest ih => exact ih hd

/-- Every dialogue asks some queries and gives some value. -/
theorem within_any (d : Dialogue Q A α) : d.Within (fun _ => True) fun _ => True := by
  induction d with
  | done r => exact fun _ _ => trivial
  | ask q next ih => exact ⟨trivial, ih⟩
  | note m rest ih => exact ih

/-! ## what the queries of a run say of it -/

/-- States from which the queries of a run are answered alike see the same run, and stay
alike. -/
theorem run_congr {p : Q → Prop} {R : σ → σ → Prop}
    (step : ∀ q s s', p q → R s s' →
      (reply q s').1 = (reply q s).1 ∧ R (reply q s).2 (reply q s').2)
    {d : Dialogue Q A α} {s s' : σ} (asked : ∀ q ∈ (d.run reply s).asked, p q) (h : R s s') :
    (d.run reply s').result = (d.run reply s).result ∧
      (d.run reply s').asked = (d.run reply s).asked ∧
      R (d.run reply s).state (d.run reply s').state := by
  induction d generalizing s s' with
  | done r => exact ⟨rfl, rfl, h⟩
  | ask q next ih =>
    obtain ⟨hfirst, hrest⟩ := List.forall_mem_cons.1 asked
    obtain ⟨hreply, hstates⟩ := step q s s' hfirst h
    obtain ⟨hresult, hasked, hR⟩ := ih _ hrest hstates
    simp only [run_ask, hreply]
    exact ⟨hresult, congrArg _ hasked, hR⟩
  | note m rest ih => exact ih asked h

/-- What every query of a run keeps holds after it. -/
theorem invariant_of_asked {p : Q → Prop} {I : σ → Prop}
    (step : ∀ q s, p q → I s → I (reply q s).2) {d : Dialogue Q A α} {s : σ}
    (asked : ∀ q ∈ (d.run reply s).asked, p q) (h : I s) : I (d.run reply s).state := by
  induction d generalizing s with
  | done r => exact h
  | ask q next ih =>
    obtain ⟨hfirst, hrest⟩ := List.forall_mem_cons.1 asked
    exact ih _ hrest (step q s hfirst h)
  | note m rest ih => exact ih asked h

/-- A number that each query of a kind raises by one is raised by as many as are asked. -/
theorem count_of_asked {f : σ → Nat} {p : Q → Bool}
    (step : ∀ q s, f (reply q s).2 = f s + if p q then 1 else 0) (d : Dialogue Q A α) (s : σ) :
    f (d.run reply s).state = f s + (d.run reply s).asked.countP p := by
  induction d generalizing s with
  | done r => rfl
  | ask q next ih =>
    rw [run_ask, List.countP_cons, ih, step]
    omega
  | note m rest ih => exact ih s

/-! ## dialogues that note nothing -/

/-- Whatever the replies, the dialogue asks only queries of `p`, and notes nothing. -/
def Quiet (p : Q → Prop) : Dialogue Q A α → Prop
  | done _ => True
  | ask q next => p q ∧ ∀ a, (next a).Quiet p
  | note _ _ => False

theorem Quiet.bind {p : Q → Prop} {d : Dialogue Q A α} {f : α → Dialogue Q A β}
    (hd : d.Quiet p) (hf : ∀ a, (f a).Quiet p) : (d >>= f).Quiet p := by
  rw [bind_eq]
  induction d with
  | done r =>
    cases r with
    | ok a => exact hf a
    | error e => exact trivial
  | ask q next ih => exact ⟨hd.1, fun a => ih a (hd.2 a)⟩
  | note m rest => exact hd.elim

theorem Quiet.noted {p : Q → Prop} {d : Dialogue Q A α} (hd : d.Quiet p) (s : σ) :
    (d.run reply s).noted = [] := by
  induction d generalizing s with
  | done r => rfl
  | ask q next ih => exact ih _ (hd.2 _) _
  | note m rest => exact hd.elim

theorem Quiet.within {p : Q → Prop} {d : Dialogue Q A α} (hd : d.Quiet p) :
    d.Within p fun _ => True := by
  induction d with
  | done r => exact within_done p r
  | ask q next ih => exact ⟨hd.1, fun a => ih a (hd.2 a)⟩
  | note m rest => exact hd.elim

/-! ## what a dialogue does for replies that it relies on -/

/-- As long as the replies are as relied on, the dialogue asks only what it may, and a
failure that it ends with is one that it may end with. -/
def Upholds (may : Q → Prop) (rely : (q : Q) → A q → Prop) (fails : SalesError → Prop) :
    Dialogue Q A α → Prop
  | done r => ∀ e, r = .error e → fails e
  | ask q next => may q ∧ ∀ a, rely q a → (next a).Upholds may rely fails
  | note _ rest => rest.Upholds may rely fails

section

variable {may : Q → Prop} {rely : (q : Q) → A q → Prop} {fails : SalesError → Prop}

theorem upholds_pure (a : α) : (pure a : Dialogue Q A α).Upholds may rely fails := by
  intro e he
  cases he

theorem upholds_fail {e : SalesError} (h : fails e) :
    (fail e : Dialogue Q A α).Upholds may rely fails := by
  intro e' he
  cases he
  exact h

theorem Upholds.note {d : Dialogue Q A α} (m : Metric) (h : d.Upholds may rely fails) :
    (note m d).Upholds may rely fails := h

theorem Upholds.bind {d : Dialogue Q A α} {f : α → Dialogue Q A β}
    (hd : d.Upholds may rely fails) (hf : ∀ a, (f a).Upholds may rely fails) :
    (d >>= f).Upholds may rely fails := by
  rw [bind_eq]
  induction d with
  | done r =>
    cases r with
    | ok a => exact hf a
    | error e => exact upholds_fail (hd e rfl)
  | ask q next ih => exact ⟨hd.1, fun a ha => ih a (hd.2 a ha)⟩
  | note m rest ih => exact ih hd

theorem Upholds.map {d : Dialogue Q A α} (f : α → β) (hd : d.Upholds may rely fails) :
    (f <$> d).Upholds may rely fails := hd.bind fun _ => upholds_pure _

theorem Upholds.noting {d : Dialogue Q A α} (f : Except SalesError α → Option Metric)
    (hd : d.Upholds may rely fails) : (d.noting f).Upholds may rely fails := by
  induction d with
  | done r =>
    rw [Dialogue.noting]
    split <;> exact hd
  | ask q next ih => exact ⟨hd.1, fun a ha => ih a (hd.2 a ha)⟩
  | note m rest ih => exact ih hd

/-- From a state that is good for the replies, and stays so, only such queries are asked,
and only such failures come out. -/
theorem Upholds.run {d : Dialogue Q A α} {good : σ → Prop}
    (step : ∀ q s, good s → may q → rely q (reply q s).1 ∧ good (reply q s).2)
    (hd : d.Upholds may rely fails) {s : σ} (hs : good s) :
    (∀ e, (d.run reply s).result = .error e → fails e) ∧
      (∀ q ∈ (d.run reply s).asked, may q) ∧ good (d.run reply s).state := by
  induction d generalizing s with
  | done r => exact ⟨hd, by simp, hs⟩
  | ask q next ih =>
    obtain ⟨hreply, hnext⟩ := step q s hs hd.1
    obtain ⟨hfails, hasked, hgood⟩ := ih _ (hd.2 _ hreply) hnext
    refine ⟨hfails, fun q' hq => ?_, hgood⟩
    rcases List.mem_cons.1 hq with rfl | hq
    · exact hd.1
    · exact hasked q' hq
  | note m rest ih => exact ih hd hs

/-- For the failures it is enough that the state stays good up to the last query. -/
theorem Upholds.fails_of_dropLast {d : Dialogue Q A α} {good : σ → Prop} {p : Q → Prop}
    (relied : ∀ q s, good s → may q → rely q (reply q s).1)
    (keeps : ∀ q s, good s → may q → p q → good (reply q s).2)
    (hd : d.Upholds may rely fails) {s : σ}
    (asked : ∀ q ∈ (d.run reply s).asked.dropLast, p q)
    (hs : (d.run reply s).asked ≠ [] → good s) :
    ∀ e, (d.run reply s).result = .error e → fails e := by
  induction d generalizing s with
  | done r => exact hd
  | ask q next ih =>
    have hgood : good s := hs (List.cons_ne_nil _ _)
    rw [run_ask] at asked ⊢
    have hlater : ((next (reply q s).1).run reply (reply q s).2).asked ≠ [] →
        p q ∧ ∀ q' ∈ ((next (reply q s).1).run reply (reply q s).2).asked.dropLast, p q' := by
      intro hne
      rw [List.dropLast_cons_of_ne_nil hne] at asked
      exact List.forall_mem_cons.1 asked
    refine ih _ (hd.2 _ (relied q s hgood hd.1)) (fun q' hq => ?_) fun hne =>
      keeps q s hgood hd.1 (hlater hne).1
    exact (hlater (List.ne_nil_of_mem (List.dropLast_subset _ hq))).2 q' hq
  | note m rest ih => exact ih hd asked hs

end

end Dialogue

end BoxOffice
