import BoxOffice.Sql.Session

/-!
# BoxOffice.Sql.Schema

The tables of the inventory: the script that lays them out, which is run as a whole,
and the kind of value that each column holds.

Main statement: laying out the tables runs the script once and commits it
(`run_migrate`).
-/

namespace BoxOffice.Sql

namespace Schema

/-- The tables, and the indexes that the office relies on. -/
def script : String := "-- Inventory store: events, buyers, ticket classes, ticket slips and the
-- per-event waiting queue. Admissions to one event are serialized with a
-- transaction-scoped advisory lock keyed on the event id.

CREATE TABLE IF NOT EXISTS events (
    event_id     TEXT PRIMARY KEY,
    name         TEXT NOT NULL,
    country_name TEXT NOT NULL,
    country_code TEXT NOT NULL,
    city         TEXT NOT NULL,
    place        TEXT NOT NULL,
    tag          TEXT NOT NULL,
    date_time    TIMESTAMPTZ NOT NULL,
    description  TEXT NOT NULL DEFAULT ''
);

CREATE TABLE IF NOT EXISTS users (
    user_id      TEXT PRIMARY KEY,
    full_name    TEXT NOT NULL,
    email        TEXT NOT NULL,
    country_name TEXT NOT NULL,
    country_code TEXT NOT NULL,
    city         TEXT NOT NULL,
    place        TEXT NOT NULL
);

CREATE TABLE IF NOT EXISTS ticket_classes (
    ticket_id       TEXT PRIMARY KEY,
    event_id        TEXT NOT NULL REFERENCES events (event_id),
    ticket_type     TEXT NOT NULL,
    price           BIGINT NOT NULL CHECK (price >= 0),
    total_quota     BIGINT NOT NULL CHECK (total_quota >= 0),
    total_remaining BIGINT NOT NULL CHECK (total_remaining >= 0 AND total_remaining <= total_quota),
    country_name    TEXT NOT NULL,
    country_code    TEXT NOT NULL,
    city            TEXT NOT NULL,
    place           TEXT NOT NULL,
    tag             TEXT NOT NULL,
    UNIQUE (event_id, ticket_type)
);

CREATE INDEX IF NOT EXISTS idx_ticket_classes_country_tag
    ON ticket_classes (country_code, tag);

CREATE TABLE IF NOT EXISTS ticket_slips (
    ticket_number  TEXT PRIMARY KEY,
    seat_number    INTEGER NOT NULL,
    is_used        BOOLEAN NOT NULL DEFAULT FALSE,
    user_id        TEXT,
    queue_id       UUID,
    ticket_id      TEXT,
    event_id       TEXT NOT NULL,
    country_code   TEXT NOT NULL,
    price          BIGINT NOT NULL DEFAULT 0,
    ticket_type    TEXT NOT NULL,
    payment_status TEXT,
    created_at     TIMESTAMPTZ NOT NULL DEFAULT now(),
    updated_at     TIMESTAMPTZ NOT NULL DEFAULT now()
);

-- Free-list lookup for claims.
CREATE INDEX IF NOT EXISTS idx_ticket_slips_free
    ON ticket_slips (event_id, ticket_type, seat_number) WHERE NOT is_used;

-- At most one claimed slip per (event, buyer).
CREATE UNIQUE INDEX IF NOT EXISTS idx_ticket_slips_one_per_owner
    ON ticket_slips (event_id, user_id) WHERE is_used;

CREATE INDEX IF NOT EXISTS idx_ticket_slips_owner
    ON ticket_slips (user_id, updated_at DESC);

CREATE TABLE IF NOT EXISTS queue_entries (
    queue_id     UUID PRIMARY KEY,
    user_id      TEXT NOT NULL,
    event_id     TEXT NOT NULL,
    queue_number BIGINT NOT NULL CHECK (queue_number > 0),
    country_code TEXT NOT NULL,
    created_at   TIMESTAMPTZ NOT NULL,
    updated_at   TIMESTAMPTZ NOT NULL,
    CONSTRAINT queue_entries_event_user UNIQUE (event_id, user_id),
    CONSTRAINT queue_entries_event_number UNIQUE (event_id, queue_number)
);"

/-! ## columns -/

/-- The kind of a column, by its name. A name means the same in all tables. -/
def kindOf (column : String) : Kind :=
  if column = "queue_id" then .uuid
  else if column = "is_used" then .bool
  else if column ∈ ["date_time", "created_at", "updated_at"] then .instant
  else if column = "seat_number" then .smallInt
  else if column ∈ ["price", "total_quota", "total_remaining", "queue_number"] then .int
  else .text

/-! ## layout -/

/-- Lays out the tables, all or none. -/
def migrate : Session Unit :=
  Session.transaction (refusal "s") <|
    .ask (.script script) fun
      | .ok () => pure (.keep ())
      | .error f => .fail (refusal " 1" f)
where
  /-- The failure of a step of the layout. -/
  refusal (step : String) (f : Failure) : SalesError :=
    .store "migrate" s!"while executing migration{step}: {f.message}"

theorem run_migrate {reply : (r : Request) → σ → r.Reply × σ} {s : σ}
    (hb : (reply .begin s).1 = .ok ())
    (hs : (reply (.script script) (reply .begin s).2).1 = .ok ())
    (hc : (reply .commit (reply (.script script) (reply .begin s).2).2).1 = .ok ()) :
    (migrate.run reply s).result = .ok () ∧
      (migrate.run reply s).asked = [.begin, .script script, .commit] := by
  rw [migrate, Session.run_transaction reply hb]
  simp [hs, hc, Session.conclude, Session.commit]

end Schema

end BoxOffice.Sql
