import BoxOffice.Codec.Answer
import BoxOffice.Codec.Settings
import BoxOffice.Proofs.Timestamp

/-!
# BoxOffice.Proofs.Codec

Records are read back from their JSON forms. A part that must be there is found under its name
and read by its own reader; a part that may be absent is also read back from null
(`optional?_cons_ofOption`), and from an object without it (`optional?_nil`). So each record
needs only that its parts are read back, and these are words, identifiers, texts, names and
instants (`Instant.ofJson?_toJson`) or records before it.

The main result is `answers_read_back`: every answer, stored record and group of settings is read
back, and an absent part is null in what is written, but for a deadline, which is left out.
-/

namespace BoxOffice

namespace Json

/-! ## values -/

/-- Whatever is written is read as it was. -/
def ReadsBack (write : α → Json) (read : Json → Option α) : Prop := ∀ a, read (write a) = some a

/-- The value of a field of an object. -/
def field? (j : Json) (name : String) : Option Json := j.fields?.bind (·.lookup name)

attribute [simp] word?_ofWord word32?_toNat word8?_toNat int32?_toInt int64?_toInt

@[simp] theorem str?_str (s : String) : str? (.str s) = some s := rfl

@[simp] theorem bool?_bool (b : Bool) : bool? (.bool b) = some b := rfl

/-- The parts of an object are its fields, whatever names they should have. -/
theorem record?_obj_bind (names : List String) (ps : Parts) (f : Parts → Option α) :
    ((obj ps).record? names >>= f) = f ps := rfl

/-- A list is read back item by item. -/
theorem list?_map {write : α → Json} {read : Json → Option α} (h : ReadsBack write read)
    (as : List α) : list? read (.arr (as.map write)) = some as := by
  rw [list?]
  induction as with
  | nil => rfl
  | cons a as ih => simp [List.mapM_cons, h a, ih]

end Json

namespace Parts

/-! ## parts -/

attribute [simp] get?_cons_self get?_cons_of_ne

variable {read : Json → Option α}

@[simp] theorem optional?_nil (name : String) : optional? [] name read = some none := rfl

@[simp] theorem optional?_cons_of_ne {name other : String} (h : name ≠ other) (j : Json)
    (ps : Parts) : optional? ((other, j) :: ps) name read = optional? ps name read := by
  have hname : (name == other) = false := by simpa using h
  simp [optional?, List.lookup_cons, hname]

/-- A part that is there is read, if it does not look absent. -/
theorem optional?_cons_self {j : Json} (h : j.isNull = false) (name : String) (ps : Parts) :
    optional? ((name, j) :: ps) name read = (read j).map some := by
  cases j with
  | null => simp [Json.isNull] at h
  | _ => simp [optional?]

/-- A part that may be absent is read back, null for an absent one. -/
theorem optional?_cons_ofOption {write : α → Json} (h : Json.ReadsBack write read)
    (hnull : ∀ a, (write a).isNull = false) (name : String) (o : Option α) (ps : Parts) :
    optional? ((name, .ofOption write o) :: ps) name read = some o := by
  cases o with
  | none => simp [optional?, Json.ofOption]
  | some a => rw [Json.ofOption, optional?_cons_self (hnull a), h a, Option.map_some]

/-! ### parts that are left out -/

/-- The parts but those of one name. -/
def without (ps : Parts) (name : String) : Parts := ps.filter (·.1 != name)

theorem lookup_without (ps : Parts) (name gone : String) :
    (ps.without gone).lookup name = if name = gone then none else ps.lookup name := by
  induction ps with
  | nil => simp [without]
  | cons part ps ih =>
    rw [without] at ih ⊢
    by_cases hgone : part.1 = gone
    · rw [List.filter_cons_of_neg (by simpa using hgone), ih, List.lookup_cons]
      grind
    · rw [List.filter_cons_of_pos (by simpa using hgone), List.lookup_cons, ih, List.lookup_cons]
      grind

theorem get?_without {name gone : String} (h : name ≠ gone) (ps : Parts) :
    get? (ps.without gone) name read = get? ps name read := by
  rw [get?, lookup_without, if_neg h, get?]

theorem optional?_without {name gone : String} (h : name ≠ gone) (ps : Parts) :
    optional? (ps.without gone) name read = optional? ps name read := by
  rw [optional?, lookup_without, if_neg h, optional?]

theorem optional?_without_self (name : String) (ps : Parts) :
    optional? (ps.without name) name read = some none := by
  rw [optional?, lookup_without, if_pos rfl]

end Parts

/-! ## scalars -/

attribute [simp] QueueId.ofJson?_toJson TicketType.ofJson?_toJson PaymentStatus.ofJson?_toJson

@[simp] theorem EventId.ofJson?_toJson (id : EventId) : ofJson? id.toJson = some id := rfl

@[simp] theorem UserId.ofJson?_toJson (id : UserId) : ofJson? id.toJson = some id := rfl

@[simp] theorem TicketClassId.ofJson?_toJson (id : TicketClassId) :
    ofJson? id.toJson = some id := rfl

@[simp] theorem CountryCode.ofJson?_toJson (code : CountryCode) :
    ofJson? code.toJson = some code := rfl

@[simp] theorem CohortTag.ofJson?_toJson (tag : CohortTag) : ofJson? tag.toJson = some tag := rfl

@[simp] theorem Instant.ofJson?_toJson (t : Instant) : ofJson? t.toJson = some t := by
  rw [toJson, ofJson?, Json.str?_str, Option.bind_some, String.toList_ofList, Timestamp.read_text]

/-! ## stored records -/

@[simp] theorem Country.ofJson?_toJson (c : Country) : ofJson? c.toJson = some c := by
  rw [ofJson?, toJson, Json.record?_obj_bind]
  simp

@[simp] theorem Event.ofJson?_toJson (e : Event) : ofJson? e.toJson = some e := by
  rw [ofJson?, toJson, Json.record?_obj_bind]
  simp

@[simp] theorem User.ofJson?_toJson (u : User) : ofJson? u.toJson = some u := by
  rw [ofJson?, toJson, Json.record?_obj_bind]
  simp

@[simp] theorem TicketClass.ofJson?_toJson (c : TicketClass) : ofJson? c.toJson = some c := by
  rw [ofJson?, toJson, Json.record?_obj_bind]
  simp

@[simp] theorem TicketSlip.ofJson?_toJson (s : TicketSlip) : ofJson? s.toJson = some s := by
  rw [ofJson?, toJson, Json.record?_obj_bind]
  simp [Parts.optional?_cons_ofOption UserId.ofJson?_toJson fun _ => rfl,
    Parts.optional?_cons_ofOption QueueId.ofJson?_toJson fun _ => rfl,
    Parts.optional?_cons_ofOption TicketClassId.ofJson?_toJson fun _ => rfl,
    Parts.optional?_cons_ofOption PaymentStatus.ofJson?_toJson fun _ => rfl]

@[simp] theorem QueueEntry.ofJson?_toJson (e : QueueEntry) : ofJson? e.toJson = some e := by
  rw [ofJson?, toJson, Json.record?_obj_bind]
  simp

theorem Page.ofJson?_toJson {write : α → Json} {read : Json → Option α}
    (h : Json.ReadsBack write read) (p : Page α) : ofJson? read (p.toJson write) = some p := by
  rw [ofJson?, toJson, Json.record?_obj_bind]
  simp [Json.list?_map h]

/-! ## answers -/

@[simp] theorem TicketRequest.ofJson?_toJson (r : TicketRequest) : ofJson? r.toJson = some r := by
  rw [ofJson?, toJson, Json.record?_obj_bind]
  simp

@[simp] theorem Allocation.ofJson?_toJson (a : Allocation) : ofJson? a.toJson = some a := by
  rw [ofJson?, toJson, Json.record?_obj_bind]
  simp

@[simp] theorem Admission.ofJson?_toJson (a : Admission) : ofJson? a.toJson = some a := by
  rw [ofJson?, toJson, Json.record?_obj_bind]
  simp

/-- A deadline that is left out is read as none. -/
@[simp] theorem ListedTicket.ofJson?_toJson (t : ListedTicket) : ofJson? t.toJson = some t := by
  have hdeadline : Parts.optional?
      (t.maxWaitTime.map fun until_ => ("maxWaitTime", until_.toJson)).toList "maxWaitTime"
      Instant.ofJson? = some t.maxWaitTime := by
    cases t.maxWaitTime with
    | none => rfl
    | some until_ => exact (Parts.optional?_cons_self rfl _ _).trans (by simp)
  rw [ofJson?, toJson, Json.record?_obj_bind]
  simp [Parts.optional?_cons_ofOption PaymentStatus.ofJson?_toJson fun _ => rfl, hdeadline]

/-- Without its deadline a ticket is read as one that has none. -/
theorem ListedTicket.ofJson?_without {ps : Parts} {t : ListedTicket}
    (h : ofJson? (.obj ps) = some t) :
    ofJson? (.obj (ps.without "maxWaitTime")) = some { t with maxWaitTime := none } := by
  rw [ofJson?, Json.record?_obj_bind] at h ⊢
  simp only [Option.bind_eq_bind, Option.bind_eq_some_iff, Option.some.injEq] at h
  obtain ⟨number, hnumber, type, htype, price, hprice, event, hevent, country, hcountry, status,
    hstatus, time, htime, deadline, -, rfl⟩ := h
  simp [Parts.get?_without, Parts.optional?_without, Parts.optional?_without_self, hnumber, htype,
    hprice, hevent, hcountry, hstatus, htime]

@[simp] theorem PageMeta.ofJson?_toJson (m : PageMeta) : ofJson? m.toJson = some m := by
  rw [ofJson?, toJson, Json.record?_obj_bind]
  simp

@[simp] theorem Listing.ofJson?_toJson (t : Listing) : ofJson? t.toJson = some t := by
  rw [ofJson?, toJson, Json.record?_obj_bind]
  simp [Json.list?_map ListedTicket.ofJson?_toJson]

/-! ## settings -/

@[simp] theorem DatabaseSettings.ofJson?_toJson (s : DatabaseSettings) :
    ofJson? s.toJson = some s := by
  rw [ofJson?, toJson, Json.record?_obj_bind]
  simp

@[simp] theorem CacheSettings.ofJson?_toJson (s : CacheSettings) : ofJson? s.toJson = some s := by
  rw [ofJson?, toJson, Json.record?_obj_bind]
  simp

@[simp] theorem SalesSettings.ofJson?_toJson (s : SalesSettings) : ofJson? s.toJson = some s := by
  rw [ofJson?, toJson, Json.record?_obj_bind]
  simp

@[simp] theorem Settings.ofJson?_toJson (s : Settings) : ofJson? s.toJson = some s := by
  rw [ofJson?, toJson, Json.record?_obj_bind]
  simp

/-! ## absent parts -/

/-- An absent part is written as null and no other is. -/
theorem Json.ofOption_eq_null_iff {write : α → Json} (hnull : ∀ a, (write a).isNull = false)
    (o : Option α) : Json.ofOption write o = .null ↔ o = none := by
  cases o with
  | none => simp [Json.ofOption]
  | some a =>
    simp only [Json.ofOption, reduceCtorEq, iff_false]
    intro h
    have ha := hnull a
    rw [h] at ha
    exact absurd ha (by decide)

theorem ListedTicket.field?_maxWaitTime (t : ListedTicket) :
    t.toJson.field? "maxWaitTime" = t.maxWaitTime.map Instant.toJson := by
  cases h : t.maxWaitTime <;> simp [Json.field?, Json.fields?, toJson, List.lookup_cons, h]

theorem ListedTicket.field?_paymentStatus (t : ListedTicket) :
    t.toJson.field? "paymentStatus" = some (.ofOption PaymentStatus.toJson t.paymentStatus) := by
  simp [Json.field?, Json.fields?, toJson, List.lookup_cons]

/-- The parts of a slip that may be absent. -/
theorem TicketSlip.field?_optional (s : TicketSlip) :
    s.toJson.field? "user_id" = some (.ofOption UserId.toJson s.userId) ∧
    s.toJson.field? "queue_id" = some (.ofOption QueueId.toJson s.queueId) ∧
    s.toJson.field? "ticket_id" = some (.ofOption TicketClassId.toJson s.ticketId) ∧
    s.toJson.field? "payment_status" = some (.ofOption PaymentStatus.toJson s.paymentStatus) := by
  simp [Json.field?, Json.fields?, toJson, List.lookup_cons]

/-- Answers, stored records and settings are read back from what is written of them. A ticket
of the order history has a deadline in its text just if it has one, and one without it is read
as a ticket that has none; all other absent parts are null. -/
theorem answers_read_back :
    Json.ReadsBack Instant.toJson Instant.ofJson? ∧
    Json.ReadsBack Admission.toJson Admission.ofJson? ∧
    Json.ReadsBack TicketRequest.toJson TicketRequest.ofJson? ∧
    Json.ReadsBack Allocation.toJson Allocation.ofJson? ∧
    Json.ReadsBack ListedTicket.toJson ListedTicket.ofJson? ∧
    Json.ReadsBack PageMeta.toJson PageMeta.ofJson? ∧
    Json.ReadsBack Listing.toJson Listing.ofJson? ∧
    Json.ReadsBack TicketSlip.toJson TicketSlip.ofJson? ∧
    Json.ReadsBack QueueEntry.toJson QueueEntry.ofJson? ∧
    Json.ReadsBack TicketClass.toJson TicketClass.ofJson? ∧
    Json.ReadsBack Event.toJson Event.ofJson? ∧
    Json.ReadsBack User.toJson User.ofJson? ∧
    Json.ReadsBack (Page.toJson TicketSlip.toJson) (Page.ofJson? TicketSlip.ofJson?) ∧
    Json.ReadsBack Settings.toJson Settings.ofJson? ∧
    (∀ t : ListedTicket,
      (t.toJson.field? "maxWaitTime" = none ↔ t.maxWaitTime = none) ∧
      (t.toJson.field? "paymentStatus" = some .null ↔ t.paymentStatus = none)) ∧
    (∀ (ps : Parts) t, ListedTicket.ofJson? (.obj ps) = some t →
      ListedTicket.ofJson? (.obj (ps.without "maxWaitTime")) =
        some { t with maxWaitTime := none }) ∧
    ∀ s : TicketSlip,
      (s.toJson.field? "user_id" = some .null ↔ s.userId = none) ∧
      (s.toJson.field? "queue_id" = some .null ↔ s.queueId = none) ∧
      (s.toJson.field? "ticket_id" = some .null ↔ s.ticketId = none) ∧
      (s.toJson.field? "payment_status" = some .null ↔ s.paymentStatus = none) := by
  refine ⟨Instant.ofJson?_toJson, Admission.ofJson?_toJson, TicketRequest.ofJson?_toJson,
    Allocation.ofJson?_toJson, ListedTicket.ofJson?_toJson, PageMeta.ofJson?_toJson,
    Listing.ofJson?_toJson, TicketSlip.ofJson?_toJson, QueueEntry.ofJson?_toJson,
    TicketClass.ofJson?_toJson, Event.ofJson?_toJson, User.ofJson?_toJson,
    Page.ofJson?_toJson TicketSlip.ofJson?_toJson, Settings.ofJson?_toJson, fun t => ⟨?_, ?_⟩,
    fun _ _ => ListedTicket.ofJson?_without, fun s => ?_⟩
  · rw [t.field?_maxWaitTime, Option.map_eq_none_iff]
  · rw [t.field?_paymentStatus, Option.some.injEq, Json.ofOption_eq_null_iff fun _ => rfl]
  · obtain ⟨huser, hqueue, hclass, hstatus⟩ := s.field?_optional
    rw [huser, hqueue, hclass, hstatus]
    simp only [Option.some.injEq]
    exact ⟨Json.ofOption_eq_null_iff (fun _ => rfl) _, Json.ofOption_eq_null_iff (fun _ => rfl) _,
      Json.ofOption_eq_null_iff (fun _ => rfl) _, Json.ofOption_eq_null_iff (fun _ => rfl) _⟩

end BoxOffice
