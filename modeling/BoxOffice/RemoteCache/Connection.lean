import BoxOffice.Address
import BoxOffice.Error
import BoxOffice.Text.Integer

/-!
# BoxOffice.RemoteCache.Connection

Addresses of caches. A cache is a server or a socket of the machine. The address of a
server has a host; its path is the number of a database, and connections to it are
not encrypted. The address of a socket has a path and no host but the machine; the
number of the database is a pair of its query. Both may say which version of the
protocol is spoken. Where a name has several values the last one counts.

Main statements: only addresses of the four schemes are of use
(`check_eq_error_of_not_mem`), and a server needs a host (`host_ne_nil_of_checkServer`).
-/

namespace BoxOffice.RemoteCache

/-- Why an address is none of a cache. -/
inductive ConnectionFault
  | notOfCache
  | noHost
  | encrypted
  | database
  | user
  | password
  | noPath
  | protocol (value : String)
deriving DecidableEq, Repr

def ConnectionFault.message : ConnectionFault → String
  | notOfCache => "Redis URL did not parse- InvalidClientConfig"
  | noHost => "Missing hostname- InvalidClientConfig"
  | encrypted => "can't connect with TLS, the feature is not enabled- InvalidClientConfig"
  | database => "Invalid database number- InvalidClientConfig"
  | user => "Username is not valid UTF-8 string- InvalidClientConfig"
  | password => "Password is not valid UTF-8 string- InvalidClientConfig"
  | noPath => "Missing path- InvalidClientConfig"
  | protocol value => s!"Invalid protocol version - InvalidClientConfig: {value}"

/-- The last value of a name in the query of an address. -/
def lastOption (a : Address) (name : String) : Option String := a.options.reverse.lookup name

/-- The number of a database. -/
def isDatabase (cs : List Char) : Bool := (Text.readInt 64 cs).isSome

/-- Whether bytes in a part of an address are text. -/
def isText (cs : List Char) : Bool := (Text.Percent.spelled cs).toBool

/-- A path without the slashes around it. -/
def bare (path : List Char) : List Char :=
  ((path.dropWhile (· == '/')).reverse.dropWhile (· == '/')).reverse

def checkProtocol (a : Address) : Except ConnectionFault Unit :=
  match lastOption a "protocol" with
  | none => .ok ()
  | some value =>
    if value ∈ ["2", "resp2", "3", "resp3"] then .ok () else .error (.protocol value)

/-- The address of a server. -/
def checkServer (a : Address) : Except ConnectionFault Unit := do
  if a.host = [] then throw .noHost
  if a.scheme = "rediss".toList then throw .encrypted
  let database := bare a.path
  if database ≠ [] && !isDatabase database then throw .database
  if !isText a.user then throw .user
  if !isText (a.password.getD []) then throw .password
  checkProtocol a

/-- The address of a socket. -/
def checkSocket (a : Address) : Except ConnectionFault Unit := do
  if a.path.head? ≠ some '/' ∨ a.host ≠ [] ∧ a.host ≠ "localhost".toList then throw .noPath
  if (lastOption a "db").any (!isDatabase ·.toList) then throw .database
  checkProtocol a

def serverSchemes : List (List Char) := ["redis".toList, "rediss".toList]

def socketSchemes : List (List Char) := ["unix".toList, "redis+unix".toList]

/-- The first fault of an address, if it has one. -/
def check (a : Address) : Except ConnectionFault Unit :=
  if serverSchemes.contains a.scheme then checkServer a
  else if socketSchemes.contains a.scheme then checkSocket a
  else .error .notOfCache

/-- What connecting to an address gives. -/
def connect (address : String) : Except SalesError Unit :=
  let checked :=
    match Address.parse address with
    | .ok a => check a
    | .error _ => .error .notOfCache
  checked.mapError fun fault => .cache "connect" fault.message

theorem check_eq_error_of_not_mem {a : Address} (h : a.scheme ∉ serverSchemes ++ socketSchemes) :
    check a = .error .notOfCache := by
  rw [List.mem_append, not_or] at h
  rw [check, if_neg (by simpa using h.1), if_neg (by simpa using h.2)]

theorem host_ne_nil_of_checkServer {a : Address} (h : checkServer a = .ok ()) : a.host ≠ [] := by
  intro he
  rw [checkServer, if_pos he] at h
  cases h

end BoxOffice.RemoteCache
