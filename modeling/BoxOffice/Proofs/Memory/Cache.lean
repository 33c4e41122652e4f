import BoxOffice.Memory.Cache
import BoxOffice.Proofs.Instant

/-!
# BoxOffice.Proofs.Memory.Cache

The cache as a map from keys to values. A look-up and a write touch no key but their
own (`find?_get_of_ne`, `find?_set_of_ne`), a look-up drops at most a value that has
expired (`find?_get_self`), and what it finds is what lives under the key (`get_cases`), which
it leaves as it is (`peek_get`).
-/

namespace BoxOffice

namespace Cache

variable {c : Cache} {now : Instant} {key k value : String} {ttl : Nat} {life : Life}

/-! ## taking out and writing -/

theorem find?_erase_self (c : Cache) (key : String) : (c.erase key).find? key = none := by
  simp [find?, erase, List.find?_filter]

theorem find?_erase_of_ne (h : k ≠ key) : (c.erase key).find? k = c.find? k := by
  rw [find?, erase, List.find?_filter]
  refine congrArg (fun p => c.entries.find? p) (funext fun e => ?_)
  by_cases he : e.key = k <;> simp [he, h]

theorem find?_put_self (c : Cache) (e : CacheEntry) : (c.put e).find? e.key = some e := by
  simp [find?, put]

theorem find?_put_of_ne {e : CacheEntry} (h : k ≠ e.key) : (c.put e).find? k = c.find? k := by
  rw [find?, put, List.find?_cons_of_neg (by simpa using h.symm)]
  exact find?_erase_of_ne h

/-! ## looking up -/

@[simp] theorem outage_get (c : Cache) (now : Instant) (key : String) :
    (c.get now key).2.outage = c.outage := by
  unfold get
  dsimp only
  repeat' split
  all_goals rfl

/-- Every look-up is counted, as a look-up. -/
@[simp] theorem gets_get (c : Cache) (now : Instant) (key : String) :
    (c.get now key).2.gets = c.gets + 1 := by
  unfold get
  dsimp only
  repeat' split
  all_goals rfl

@[simp] theorem sets_get (c : Cache) (now : Instant) (key : String) :
    (c.get now key).2.sets = c.sets := by
  unfold get
  dsimp only
  repeat' split
  all_goals rfl

/-- During an outage nothing is found and nothing dropped. Otherwise the value of the key is
found while it lives, and dropped once it has expired. -/
theorem get_cases (c : Cache) (now : Instant) (key : String) :
    (c.outage = true ∧ (c.get now key).1 = .error (.cache "get" "cache unavailable") ∧
        (c.get now key).2.find? key = c.find? key) ∨
      (c.outage = false ∧ (c.get now key).1 = .ok (c.peek now key) ∧
        ((c.get now key).2.find? key = c.find? key ∨
          ∃ e, c.find? key = some e ∧ e.expiresAt ≤ now ∧
            (c.get now key).2.find? key = none)) := by
  unfold get
  dsimp only
  split
  · next ho => exact .inl ⟨ho, rfl, rfl⟩
  · next ho =>
    refine .inr ⟨by simpa using ho, ?_⟩
    split
    · next hf =>
      have hf : c.find? key = none := hf
      exact ⟨by simp [peek, hf], .inl rfl⟩
    · next e hf =>
      have hf : c.find? key = some e := hf
      split
      · next hx =>
        have hl : ¬ now < e.expiresAt := fun hl => Instant.not_le_iff.2 hl hx
        exact ⟨by simp [peek, hf, hl], .inr ⟨e, hf, hx, find?_erase_self _ key⟩⟩
      · next hx =>
        have hl : now < e.expiresAt := Instant.not_le_iff.1 hx
        exact ⟨by simp [peek, hf, hl], .inl rfl⟩

/-- A look-up leaves the value of its key, or drops one that has expired. -/
theorem find?_get_self (c : Cache) (now : Instant) (key : String) :
    (c.get now key).2.find? key = c.find? key ∨
      ∃ e, c.find? key = some e ∧ e.expiresAt ≤ now ∧ (c.get now key).2.find? key = none := by
  rcases c.get_cases now key with ⟨-, -, h⟩ | ⟨-, -, h⟩
  · exact .inl h
  · exact h

theorem find?_get_of_ne (h : k ≠ key) : (c.get now key).2.find? k = c.find? k := by
  unfold get
  dsimp only
  split
  · rfl
  · split
    · rfl
    · split
      · exact find?_erase_of_ne (c := { c with gets := c.gets + 1 }) h
      · rfl

/-- What a look-up leaves under its key: the value, but for one that it finds expired. -/
theorem find?_get_eq (c : Cache) (now : Instant) (key : String) :
    (c.get now key).2.find? key =
      (c.find? key).filter fun e => c.outage || decide (now < e.expiresAt) := by
  unfold get
  dsimp only
  split
  · next ho =>
    have ho : c.outage = true := ho
    change c.find? key = _
    cases c.find? key <;> simp [ho, Option.filter]
  · next ho =>
    have ho : c.outage = false := Bool.eq_false_iff.2 ho
    split
    · next hf =>
      have hf : c.find? key = none := hf
      exact hf.trans (by rw [hf, Option.filter_none])
    · next e hf =>
      have hf : c.find? key = some e := hf
      split
      · next hx =>
        have hl : ¬ now < e.expiresAt := fun hl => Instant.not_le_iff.2 hl hx
        exact (find?_erase_self _ key).trans (by simp [hf, ho, hl, Option.filter])
      · next hx => exact hf.trans (by simp [hf, ho, Instant.not_le_iff.1 hx, Option.filter])

/-- A look-up depends on the outage and on the value of its key. -/
theorem get_congr {c' : Cache} (outage : c'.outage = c.outage) (now : Instant)
    (held : c'.find? key = c.find? key) :
    (c'.get now key).1 = (c.get now key).1 ∧
      (c'.get now key).2.find? key = (c.get now key).2.find? key := by
  refine ⟨?_, by rw [find?_get_eq, find?_get_eq, outage, held]⟩
  have hpeek : c'.peek now key = c.peek now key := by rw [peek, peek, held]
  rcases c.get_cases now key with ⟨ho, hg, -⟩ | ⟨ho, hg, -⟩ <;>
    rcases c'.get_cases now key with ⟨ho', hg', -⟩ | ⟨ho', hg', -⟩ <;> simp_all

/-- A look-up does not change what lives under its key. -/
theorem peek_get (c : Cache) (now : Instant) (key : String) :
    (c.get now key).2.peek now key = c.peek now key := by
  rcases find?_get_self c now key with h | ⟨e, he, hx, h⟩
  · rw [peek, peek, h]
  · have hl : ¬ now < e.expiresAt := fun hl => Instant.not_le_iff.2 hl hx
    simp [peek, h, he, hl]

/-! ## writing for a time -/

/-- No life is so long that the longest span would cut it. -/
theorem expiry_eq_shiftOrLast (now : Instant) (ttl : Nat) : expiry now ttl = now.shiftOrLast ttl :=
  now.shiftOrLast_min_longestSpan ttl

@[simp] theorem outage_write (c : Cache) (now : Instant) (key value : String) (ttl : Nat) :
    (c.write now key value ttl).2.outage = c.outage := by
  unfold write
  dsimp only
  split <;> rfl

theorem find?_write_of_ne (h : k ≠ key) : (c.write now key value ttl).2.find? k = c.find? k := by
  unfold write
  dsimp only
  split
  · rfl
  · exact find?_put_of_ne (c := { c with sets := c.sets + 1 }) h

theorem find?_write_of_outage (h : c.outage = true) :
    (c.write now key value ttl).2.find? k = c.find? k := by
  simp [find?, entries_write_outage h]

theorem find?_write_self (h : c.outage = false) :
    (c.write now key value ttl).2.find? key = some ⟨key, value, expiry now ttl⟩ := by
  simp only [write, h]
  exact find?_put_self _ ⟨key, value, expiry now ttl⟩

@[simp] theorem outage_set (c : Cache) (now : Instant) (key value : String) (life : Life) :
    (c.set now key value life).2.outage = c.outage := c.outage_write now key value _

@[simp] theorem gets_set (c : Cache) (now : Instant) (key value : String) (life : Life) :
    (c.set now key value life).2.gets = c.gets := by
  unfold set write
  dsimp only
  split <;> rfl

/-- Every write is counted, as a write. -/
@[simp] theorem sets_set (c : Cache) (now : Instant) (key value : String) (life : Life) :
    (c.set now key value life).2.sets = c.sets + 1 := by
  unfold set write
  dsimp only
  split <;> rfl

theorem find?_set_of_ne (h : k ≠ key) : (c.set now key value life).2.find? k = c.find? k :=
  find?_write_of_ne h

theorem find?_set_of_outage (h : c.outage = true) :
    (c.set now key value life).2.find? k = c.find? k := find?_write_of_outage h

theorem find?_set_self (h : c.outage = false) :
    (c.set now key value life).2.find? key =
      some ⟨key, value, now.shiftOrLast life.nanos⟩ := by
  rw [← expiry_eq_shiftOrLast]
  exact find?_write_self h

/-- So does a write. -/
theorem set_congr {c' : Cache} (outage : c'.outage = c.outage) (now : Instant)
    (held : c'.find? key = c.find? key) :
    (c'.set now key value life).1 = (c.set now key value life).1 ∧
      (c'.set now key value life).2.find? key = (c.set now key value life).2.find? key := by
  constructor
  · simp only [set, write, outage]
    split <;> rfl
  · cases ho : c.outage with
    | true =>
      rw [find?_set_of_outage (outage.trans ho), find?_set_of_outage ho, held]
    | false => rw [find?_set_self (outage.trans ho), find?_set_self ho]

/-- What was written lives under its key, or has expired at once. -/
theorem peek_set_self (h : c.outage = false) (now : Instant) (key value : String)
    (life : Life) :
    (c.set now key value life).2.peek now key = some value ∨
      (c.set now key value life).2.peek now key = none := by
  simp only [peek, find?_set_self h, Option.bind_some]
  split
  · exact .inl rfl
  · exact .inr rfl

/-! ## the entries -/

theorem mem_of_find? {e : CacheEntry} (h : c.find? key = some e) : e ∈ c.entries :=
  List.mem_of_find?_eq_some h

/-- A look-up adds no entry. -/
theorem mem_of_mem_get {e : CacheEntry} (h : e ∈ (c.get now key).2.entries) : e ∈ c.entries := by
  unfold get at h
  dsimp only at h
  split at h
  · exact h
  · split at h
    · exact h
    · split at h
      · exact (List.mem_filter.1 h).1
      · exact h

/-- What a look-up finds is the value of an entry. -/
theorem exists_entry_of_get (h : (c.get now key).1 = .ok (some value)) :
    ∃ e ∈ c.entries, e.value = value := by
  unfold get at h
  dsimp only at h
  split at h
  · cases h
  · split at h
    · cases h
    · next e hfind =>
      split at h
      · cases h
      · cases h
        exact ⟨e, mem_of_find? hfind, rfl⟩

/-- A write adds an entry of its value at most. -/
theorem mem_of_mem_set {e : CacheEntry} (h : e ∈ (c.set now key value life).2.entries) :
    e ∈ c.entries ∨ e.value = value := by
  unfold set write at h
  dsimp only at h
  split at h
  · exact .inl h
  · rcases List.mem_cons.1 h with rfl | h
    · exact .inr rfl
    · exact .inl (List.mem_filter.1 h).1

end Cache

end BoxOffice
