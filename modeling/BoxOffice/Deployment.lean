import BoxOffice.RemoteCache
import BoxOffice.Sql.Database

/-!
# BoxOffice.Deployment

The office over its two services: the inventory in a database and the capacity cache
behind a connection of its own. A call of the office becomes a session with the one
or the other.
-/

namespace BoxOffice

/-- What is sent to one of the services. -/
inductive Wire
  | database (request : Sql.Request)
  | cache (command : RemoteCache.Command)
deriving DecidableEq

/-- What a service replies. -/
abbrev Wire.Reply : Wire → Type
  | database request => request.Reply
  | cache _ => RemoteCache.Reply

namespace Deployment

/-- A session with the database, sent to it. -/
def toDatabase (session : Sql.Session α) : Dialogue Wire Wire.Reply α :=
  session.through fun q => .ask (.database q) fun r => .done (.ok r)

/-- A session with the cache, sent to it. -/
def toCache (session : RemoteCache.Session α) : Dialogue Wire Wire.Reply α :=
  session.through fun q => .ask (.cache q) fun r => .done (.ok r)

/-- Answers a call of the office by the services. -/
def answer : (c : Call) → Dialogue Wire Wire.Reply c.Reply
  | .cacheGet key => toCache (RemoteCache.get key).attempt
  | .cacheSet key value ttl => toCache (RemoteCache.set key value ttl).attempt
  | c => toDatabase (Sql.Database.answer c)

/-- Runs a dialogue of the office over the services. -/
def onServices (service : Service α) : Dialogue Wire Wire.Reply α := service.through answer

end Deployment

end BoxOffice
