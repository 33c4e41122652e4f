import BoxOffice.Codec.Scalar
import BoxOffice.Settings

/-!
# BoxOffice.Codec.Settings

The JSON forms of settings and policies. A policy shows its offset and the life of
cached values in seconds, and the time to pay in milliseconds.
-/

namespace BoxOffice

namespace DatabaseSettings

def toJson (s : DatabaseSettings) : Json :=
  .obj
    [("url", .str s.url), ("max_connections", .int s.maxConnections.toNat),
     ("connect_timeout", .ofWord s.connectTimeout)]

def ofJson? (j : Json) : Option DatabaseSettings := do
  let ps ← j.record? ["url", "max_connections", "connect_timeout"]
  some
    { url := ← ps.get? "url" Json.str?
      maxConnections := ← ps.get? "max_connections" Json.word32?
      connectTimeout := ← ps.get? "connect_timeout" Json.word? }

end DatabaseSettings

namespace CacheSettings

def toJson (s : CacheSettings) : Json := .obj [("url", .str s.url)]

def ofJson? (j : Json) : Option CacheSettings := do
  let ps ← j.record? ["url"]
  some { url := ← ps.get? "url" Json.str? }

end CacheSettings

namespace SalesSettings

def toJson (s : SalesSettings) : Json :=
  .obj
    [("sales_days", .str s.salesDays), ("utc_offset_hours", .int s.utcOffsetHours.toInt),
     ("cross_country_discount_percent", .ofWord s.discountPercent),
     ("off_peak_release_divisor", .ofWord s.releaseDivisor),
     ("peak_quarter", .int s.peakQuarter.toNat),
     ("capacity_cache_ttl_days", .ofWord s.capacityTtlDays),
     ("payment_hold_minutes", .int s.paymentHoldMinutes.toInt)]

def ofJson? (j : Json) : Option SalesSettings := do
  let ps ← j.record?
    ["sales_days", "utc_offset_hours", "cross_country_discount_percent",
     "off_peak_release_divisor", "peak_quarter", "capacity_cache_ttl_days", "payment_hold_minutes"]
  some
    { salesDays := ← ps.get? "sales_days" Json.str?
      utcOffsetHours := ← ps.get? "utc_offset_hours" Json.int32?
      discountPercent := ← ps.get? "cross_country_discount_percent" Json.word?
      releaseDivisor := ← ps.get? "off_peak_release_divisor" Json.word?
      peakQuarter := ← ps.get? "peak_quarter" Json.word8?
      capacityTtlDays := ← ps.get? "capacity_cache_ttl_days" Json.word?
      paymentHoldMinutes := ← ps.get? "payment_hold_minutes" Json.int64? }

end SalesSettings

namespace Settings

def toJson (s : Settings) : Json :=
  .obj
    [("postgres", s.database.toJson), ("redis", s.cache.toJson), ("sales", s.sales.toJson)]

def ofJson? (j : Json) : Option Settings := do
  let ps ← j.record? ["postgres", "redis", "sales"]
  some
    { database := ← ps.get? "postgres" DatabaseSettings.ofJson?
      cache := ← ps.get? "redis" CacheSettings.ofJson?
      sales := ← ps.get? "sales" SalesSettings.ofJson? }

end Settings

def SalesPolicy.toJson (p : SalesPolicy) : Json :=
  .obj
    [("sales_days",
        .ofOption (fun days => .arr [.str days.1.shortName, .str days.2.shortName]) p.salesDays),
     ("utc_offset_seconds", .int p.utcOffset.seconds),
     ("discount_percent", .ofWord p.discountPercent), ("release_divisor", .ofWord p.releaseDivisor),
     ("peak_quarter", .int p.peakQuarter.number),
     ("capacity_ttl_seconds", .ofWord p.capacityTtl.seconds),
     ("payment_hold_ms", .int p.paymentHold.millis)]

end BoxOffice
