import BoxOffice.Proofs.SalesDays

/-!
# BoxOffice.Proofs.Settings

The policy of an environment. There are two places where a default can come in: a variable may
be unset or no number, and a number may make no sense as policy. For each part of the policy
the two defaults are the same, so a part is what its variable gives and the default policy's
otherwise (`Settles`). These parts make up the whole policy (`SalesPolicy.readFrom_iff`), and
from what they can be it follows that every environment has a sound one
(`SalesPolicy.sound_of_environment`).
-/

namespace BoxOffice

open Text

/-! ## what a variable gives -/

/-- The value that a variable settles: the one that its text gives, and the default where it is
unset or its text gives none. -/
def Settles (text? : Option String) (Gives : List Char → α → Prop) (default value : α) : Prop :=
  (∃ text, text? = some text ∧ Gives text.toList value) ∨
    (∀ text, text? = some text → ∀ v, ¬ Gives text.toList v) ∧ value = default

/-- A variable is first read as a raw value, with a default of its own, and what that is good
for may again fall back. It settles the same value as in one step if the two defaults agree. -/
theorem settles_iff {text? : Option String} {Gives : List Char → α → Prop} {default value : α}
    {raw : List Char → Option β} {use : β → Option α} {rawDefault : β}
    (agree : (use rawDefault).getD default = default)
    (gives : ∀ cs v, (raw cs).bind use = some v ↔ Gives cs v) :
    Settles text? Gives default value ↔
      (use ((text?.bind fun text => raw text.toList).getD rawDefault)).getD default = value := by
  cases text? with
  | none => simp [Settles, agree, eq_comm]
  | some text =>
    simp only [Settles, ← gives, Option.some.injEq, Option.bind_some]
    cases hraw : raw text.toList with
    | none => simp [hraw, agree, eq_comm]
    | some w => cases huse : use w <;> simp [hraw, huse, eq_comm]

/-! ## values that make sense -/

theorem UtcOffset.ofSeconds?_eq_some_iff {seconds : Int} {offset : UtcOffset} :
    ofSeconds? seconds = some offset ↔ offset.seconds = seconds := by
  unfold ofSeconds?
  split
  · constructor
    · intro h
      cases h
      rfl
    · rintro rfl
      rfl
  · next hout =>
    constructor
    · intro h
      cases h
    · rintro rfl
      exact absurd ⟨offset.lower, offset.upper⟩ hout

theorem Quarter.ofNumber?_eq_some_iff {n : Nat} {q : Quarter} :
    ofNumber? n = some q ↔ n = q.number := by
  constructor
  · intro h
    unfold ofNumber? at h
    split at h <;> cases h <;> rfl
  · rintro rfl
    exact ofNumber?_number q

theorem SalesSettings.hold?_eq_some_iff {minutes : Int} {hold : Span} :
    hold? minutes = some hold ↔
      0 < minutes * 60 ∧ minutes * 60 ≤ 9223372036854775 ∧
        hold.nanos = minutes * 60 * nanosPerSecond := by
  have hupper := hold.upper
  simp only [longestSpan, nanosPerMilli] at hupper
  rw [hold?, Option.ite_none_right_eq_some, Span.ofSeconds?, Span.ofNanos?_eq_some_iff,
    nanosPerSecond]
  constructor <;> rintro ⟨h, h'⟩ <;> omega

/-! ## the parts of a policy -/

namespace SalesPolicy

/-- A whole number of hours, shorter than a day. -/
def GivesOffset (cs : List Char) (offset : UtcOffset) : Prop :=
  ∃ hours, IsSigned cs hours ∧ -23 ≤ hours ∧ hours ≤ 23 ∧ offset.seconds = hours * 3600

def GivesWord (cs : List Char) (w : UInt64) : Prop := IsUnsigned cs w.toNat

def GivesQuarter (cs : List Char) (q : Quarter) : Prop := IsUnsigned cs q.number

/-- A number of days, in seconds as far as a word can count. -/
def GivesLife (cs : List Char) (life : Life) : Prop :=
  ∃ days, IsUnsigned cs days ∧ days < UInt64.size ∧
    life.nanos = min (days * 86400) maxWord * nanosPerSecond

/-- A positive number of minutes that is not too long for a span of time. -/
def GivesHold (cs : List Char) (hold : Span) : Prop :=
  ∃ minutes, IsSigned cs minutes ∧ 0 < minutes * 60 ∧ minutes * 60 ≤ 9223372036854775 ∧
    hold.nanos = minutes * 60 * nanosPerSecond

variable {cs : List Char}

theorem givesOffset_iff {offset : UtcOffset} :
    ((readInt 32 cs).bind fun hours => UtcOffset.ofSeconds? ((Int32.ofInt hours).toInt * 3600)) =
      some offset ↔ GivesOffset cs offset := by
  simp only [Option.bind_eq_some_iff, readInt_eq_some_iff, UtcOffset.ofSeconds?_eq_some_iff,
    GivesOffset]
  refine exists_congr fun hours => ?_
  have hrange : Nat.pow 2 (32 - 1) = 2147483648 := rfl
  have hlower := offset.lower
  have hupper := offset.upper
  constructor
  · rintro ⟨⟨hsigned, hlow, hhigh⟩, hseconds⟩
    rw [Int32.toInt_ofInt_of_le (by omega) (by omega)] at hseconds
    exact ⟨hsigned, by omega, by omega, hseconds⟩
  · rintro ⟨hsigned, hlow, hhigh, hseconds⟩
    rw [Int32.toInt_ofInt_of_le (by omega) (by omega)]
    exact ⟨⟨hsigned, by omega, by omega⟩, hseconds⟩

theorem givesWord_iff {w : UInt64} :
    (readWord 64 cs).bind (fun n => some (.ofNat n)) = some w ↔ GivesWord cs w := by
  simp only [Option.bind_eq_some_iff, readWord_eq_some_iff, GivesWord, Option.some.injEq]
  constructor
  · rintro ⟨n, ⟨hn, hlt⟩, rfl⟩
    rwa [UInt64.toNat_ofNat_of_lt' hlt]
  · intro h
    exact ⟨w.toNat, ⟨h, w.toNat_lt⟩, UInt64.ofNat_toNat⟩

theorem givesQuarter_iff {q : Quarter} :
    ((readWord 8 cs).bind fun n => Quarter.ofNumber? (UInt8.ofNat n).toNat) = some q ↔
      GivesQuarter cs q := by
  simp only [Option.bind_eq_some_iff, readWord_eq_some_iff, Quarter.ofNumber?_eq_some_iff,
    GivesQuarter]
  constructor
  · rintro ⟨n, ⟨hn, hlt⟩, hq⟩
    rw [UInt8.toNat_ofNat_of_lt' hlt] at hq
    rwa [← hq]
  · intro h
    have hlt : q.number < UInt8.size := by cases q <;> decide
    exact ⟨q.number, ⟨h, hlt⟩, UInt8.toNat_ofNat_of_lt' hlt⟩

theorem givesLife_iff {life : Life} :
    (readWord 64 cs).bind (fun days => some (.ofSeconds (satMul (.ofNat days) 86400))) =
      some life ↔ GivesLife cs life := by
  simp only [Option.bind_eq_some_iff, readWord_eq_some_iff, GivesLife, Option.some.injEq]
  refine exists_congr fun days => ?_
  rw [and_assoc]
  refine and_congr_right fun _ => and_congr_right fun hlt => ?_
  rw [Life.ofSeconds_eq_iff, toNat_satMul, UInt64.toNat_ofNat_of_lt' hlt]
  rfl

theorem givesHold_iff {hold : Span} :
    ((readInt 64 cs).bind fun minutes => SalesSettings.hold? (Int64.ofInt minutes).toInt) =
      some hold ↔ GivesHold cs hold := by
  simp only [Option.bind_eq_some_iff, readInt_eq_some_iff, SalesSettings.hold?_eq_some_iff,
    GivesHold]
  refine exists_congr fun minutes => ?_
  have hrange : Nat.pow 2 (64 - 1) = 9223372036854775808 := rfl
  constructor
  · rintro ⟨⟨hsigned, hlow, hhigh⟩, hhold⟩
    rw [Int64.toInt_ofInt_of_le (by omega) (by omega)] at hhold
    exact ⟨hsigned, hhold⟩
  · rintro ⟨hsigned, hhold⟩
    rw [Int64.toInt_ofInt_of_le (by omega) (by omega)]
    exact ⟨⟨hsigned, by omega, by omega⟩, hhold⟩

/-- Each part of the policy is settled by its own variable. -/
structure ReadFrom (env : Environment) (p : SalesPolicy) : Prop where
  salesDays :
    Settles (env "SALES_DAYS") SalesSettings.Describes ({} : SalesPolicy).salesDays p.salesDays
  utcOffset :
    Settles (env "SALES_UTC_OFFSET_HOURS") GivesOffset ({} : SalesPolicy).utcOffset p.utcOffset
  discountPercent :
    Settles (env "CROSS_COUNTRY_DISCOUNT_PERCENT") GivesWord ({} : SalesPolicy).discountPercent
      p.discountPercent
  releaseDivisor :
    Settles (env "OFF_PEAK_RELEASE_DIVISOR") GivesWord ({} : SalesPolicy).releaseDivisor
      p.releaseDivisor
  peakQuarter :
    Settles (env "PEAK_QUARTER") GivesQuarter ({} : SalesPolicy).peakQuarter p.peakQuarter
  capacityTtl :
    Settles (env "CAPACITY_CACHE_TTL_DAYS") GivesLife ({} : SalesPolicy).capacityTtl p.capacityTtl
  paymentHold :
    Settles (env "PAYMENT_HOLD_MINUTES") GivesHold ({} : SalesPolicy).paymentHold p.paymentHold

/-- Two policies differ at most in the parts whose variables differ. -/
structure SameWhere (env env' : Environment) (p p' : SalesPolicy) : Prop where
  salesDays : env "SALES_DAYS" = env' "SALES_DAYS" → p.salesDays = p'.salesDays
  utcOffset :
    env "SALES_UTC_OFFSET_HOURS" = env' "SALES_UTC_OFFSET_HOURS" → p.utcOffset = p'.utcOffset
  discountPercent :
    env "CROSS_COUNTRY_DISCOUNT_PERCENT" = env' "CROSS_COUNTRY_DISCOUNT_PERCENT" →
      p.discountPercent = p'.discountPercent
  releaseDivisor :
    env "OFF_PEAK_RELEASE_DIVISOR" = env' "OFF_PEAK_RELEASE_DIVISOR" →
      p.releaseDivisor = p'.releaseDivisor
  peakQuarter : env "PEAK_QUARTER" = env' "PEAK_QUARTER" → p.peakQuarter = p'.peakQuarter
  capacityTtl :
    env "CAPACITY_CACHE_TTL_DAYS" = env' "CAPACITY_CACHE_TTL_DAYS" →
      p.capacityTtl = p'.capacityTtl
  paymentHold :
    env "PAYMENT_HOLD_MINUTES" = env' "PAYMENT_HOLD_MINUTES" → p.paymentHold = p'.paymentHold

variable {env : Environment} {p : SalesPolicy}

theorem settles_salesDays {days : Option (Weekday × Weekday)} :
    Settles (env "SALES_DAYS") SalesSettings.Describes ({} : SalesPolicy).salesDays days ↔
      (Settings.ofEnvironment env).sales.policy.salesDays = days := by
  have htext : ((env "SALES_DAYS").getD "").toList =
      ((env "SALES_DAYS").bind fun text => some text.toList).getD [] := by
    cases env "SALES_DAYS" <;> rfl
  change _ ↔ (SalesSettings.readSalesDays ((env "SALES_DAYS").getD "").toList).getD none = days
  rw [htext]
  exact settles_iff (by decide) fun _ _ => SalesSettings.readSalesDays_eq_some_iff

theorem settles_utcOffset {offset : UtcOffset} :
    Settles (env "SALES_UTC_OFFSET_HOURS") GivesOffset ({} : SalesPolicy).utcOffset offset ↔
      (Settings.ofEnvironment env).sales.policy.utcOffset = offset :=
  settles_iff (by decide) fun _ _ => givesOffset_iff

theorem settles_discountPercent {w : UInt64} :
    Settles (env "CROSS_COUNTRY_DISCOUNT_PERCENT") GivesWord
        ({} : SalesPolicy).discountPercent w ↔
      (Settings.ofEnvironment env).sales.policy.discountPercent = w :=
  settles_iff rfl fun _ _ => givesWord_iff

theorem settles_releaseDivisor {w : UInt64} :
    Settles (env "OFF_PEAK_RELEASE_DIVISOR") GivesWord ({} : SalesPolicy).releaseDivisor w ↔
      (Settings.ofEnvironment env).sales.policy.releaseDivisor = w :=
  settles_iff rfl fun _ _ => givesWord_iff

theorem settles_peakQuarter {q : Quarter} :
    Settles (env "PEAK_QUARTER") GivesQuarter ({} : SalesPolicy).peakQuarter q ↔
      (Settings.ofEnvironment env).sales.policy.peakQuarter = q :=
  settles_iff (by decide) fun _ _ => givesQuarter_iff

theorem settles_capacityTtl {life : Life} :
    Settles (env "CAPACITY_CACHE_TTL_DAYS") GivesLife ({} : SalesPolicy).capacityTtl life ↔
      (Settings.ofEnvironment env).sales.policy.capacityTtl = life :=
  settles_iff (by decide) fun _ _ => givesLife_iff

theorem settles_paymentHold {hold : Span} :
    Settles (env "PAYMENT_HOLD_MINUTES") GivesHold ({} : SalesPolicy).paymentHold hold ↔
      (Settings.ofEnvironment env).sales.policy.paymentHold = hold :=
  settles_iff (by decide) fun _ _ => givesHold_iff

/-- The parts of a policy are settled by the environment just if it is the policy that the
environment gives. -/
theorem readFrom_iff : p.ReadFrom env ↔ (Settings.ofEnvironment env).sales.policy = p := by
  constructor
  · intro h
    obtain ⟨_, _, _, _, _, _, _⟩ := p
    cases settles_salesDays.1 h.salesDays
    cases settles_utcOffset.1 h.utcOffset
    cases settles_discountPercent.1 h.discountPercent
    cases settles_releaseDivisor.1 h.releaseDivisor
    cases settles_peakQuarter.1 h.peakQuarter
    cases settles_capacityTtl.1 h.capacityTtl
    cases settles_paymentHold.1 h.paymentHold
    rfl
  · rintro rfl
    exact
      { salesDays := settles_salesDays.2 rfl
        utcOffset := settles_utcOffset.2 rfl
        discountPercent := settles_discountPercent.2 rfl
        releaseDivisor := settles_releaseDivisor.2 rfl
        peakQuarter := settles_peakQuarter.2 rfl
        capacityTtl := settles_capacityTtl.2 rfl
        paymentHold := settles_paymentHold.2 rfl }

/-! ## the policy of an environment -/

/-- Two environments give the same for every part whose variable is the same in both. -/
theorem sameWhere_ofEnvironment (env env' : Environment) :
    SameWhere env env' (Settings.ofEnvironment env).sales.policy
      (Settings.ofEnvironment env').sales.policy where
  salesDays h := settles_salesDays.1 (h ▸ settles_salesDays.2 rfl)
  utcOffset h := settles_utcOffset.1 (h ▸ settles_utcOffset.2 rfl)
  discountPercent h := settles_discountPercent.1 (h ▸ settles_discountPercent.2 rfl)
  releaseDivisor h := settles_releaseDivisor.1 (h ▸ settles_releaseDivisor.2 rfl)
  peakQuarter h := settles_peakQuarter.1 (h ▸ settles_peakQuarter.2 rfl)
  capacityTtl h := settles_capacityTtl.1 (h ▸ settles_capacityTtl.2 rfl)
  paymentHold h := settles_paymentHold.1 (h ▸ settles_paymentHold.2 rfl)

/-- There is time to pay, and the offset is a whole number of hours. -/
structure Sound (p : SalesPolicy) : Prop where
  hold_pos : 0 < p.paymentHold.nanos
  hours : ∃ hours, -23 ≤ hours ∧ hours ≤ 23 ∧ p.utcOffset.seconds = hours * 3600

theorem ReadFrom.sound (h : p.ReadFrom env) : p.Sound := by
  refine ⟨?_, ?_⟩
  · rcases h.paymentHold with ⟨-, -, minutes, -, hpos, -, hhold⟩ | ⟨-, hhold⟩
    · simp only [nanosPerSecond] at hhold
      omega
    · rw [hhold]
      decide
  · rcases h.utcOffset with ⟨-, -, hours, -, hlow, hhigh, hseconds⟩ | ⟨-, hoffset⟩
    · exact ⟨hours, hlow, hhigh, hseconds⟩
    · exact ⟨0, by decide, by decide, by rw [hoffset]; rfl⟩

/-- Every environment gives a sound policy. Each part is what its own variable gives, or else
the default policy's, so that it changes with no other variable and an empty environment gives
the default policy. -/
theorem sound_of_environment (env : Environment) :
    (Settings.ofEnvironment env).sales.policy.Sound ∧
      (∀ p : SalesPolicy, (Settings.ofEnvironment env).sales.policy = p ↔ p.ReadFrom env) ∧
      (∀ env' : Environment, SameWhere env env' (Settings.ofEnvironment env).sales.policy
        (Settings.ofEnvironment env').sales.policy) ∧
      (Settings.ofEnvironment fun _ => none).sales.policy = {} := by
  refine ⟨(readFrom_iff.2 rfl).sound, fun p => readFrom_iff.symm, sameWhere_ofEnvironment env, ?_⟩
  exact SalesSettings.policy_ofEnvironment_empty

/-- A gate, and a quarter and a time to pay that make no sense. -/
example :
    (Settings.ofEnvironment fun
      | "SALES_DAYS" => some " sat,SUNDAY"
      | "PEAK_QUARTER" => some "5"
      | "PAYMENT_HOLD_MINUTES" => some "153722867280913"
      | _ => none).sales.policy = { salesDays := some (.sat, .sun) } := by
  decide +kernel

end SalesPolicy

end BoxOffice
