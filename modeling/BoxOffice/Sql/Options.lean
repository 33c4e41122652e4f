import BoxOffice.Address
import BoxOffice.Sql.Cell
import BoxOffice.Text.IntegerFault

/-!
# BoxOffice.Sql.Options

What an address says about the connection to a database. Its user, its password and
its path, which names the database, have to be text once their bytes are read; so has
the host, where it is the path of a socket. Then the pairs of the query are looked at
in order: some set an option and have to fit it, all others are ignored.

Main statements: an address without percent signs and without a query has no fault
(`check_of_no_percent`), and a pair of any other name has none
(`checkOption_eq_ok_of_not_mem`).
-/

namespace BoxOffice.Sql.Options

/-- Why an address is of no use for a connection. -/
inductive Fault
  | notText (fault : Text.Utf8.Fault)
  | number (fault : Text.IntegerFault)
  | notIp
  | sslMode (value : String)
deriving DecidableEq, Repr

/-- The text of a fault. A mode that does not exist is a wrong configuration by
itself. -/
def Fault.message : Fault → String
  | notText fault => fault.message
  | number fault => fault.message
  | notIp => "invalid IP address syntax"
  | sslMode value =>
    (Failure.configuration s!"unknown value {Text.quoted value} for `ssl_mode`").message

/-! ## the parts before the query -/

/-- A part that has to be text. -/
def checkText (cs : List Char) : Except Fault Unit :=
  match Text.Percent.spelled cs with
  | .ok _ => .ok ()
  | .error fault => .error (.notText fault)

/-- A host whose bytes start with a slash is the path of a socket. -/
def isSocket (host : List Char) : Bool := (Text.Percent.decode host).head? = some 0x2F

/-! ## the pairs of the query -/

/-- How a connection may be encrypted. -/
def sslModes : List String :=
  ["disable", "allow", "prefer", "require", "verify-ca", "verify-full"]

/-- An unsigned number of some bits. -/
def checkWord (bits : Nat) (value : List Char) : Except Fault Unit :=
  match Text.parseWord bits value with
  | .ok _ => .ok ()
  | .error fault => .error (.number fault)

/-- The names that set an option which not every value fits. -/
def checkedNames : List String :=
  ["sslmode", "ssl-mode", "statement-cache-capacity", "hostaddr", "port"]

/-- A pair of the query. -/
def checkOption (name value : String) : Except Fault Unit :=
  let cs := value.toList
  if name = "sslmode" ∨ name = "ssl-mode" then
    if String.ofList (Text.lowerAscii cs) ∈ sslModes then .ok () else .error (.sslMode value)
  else if name = "statement-cache-capacity" then checkWord 64 cs
  else if name = "hostaddr" then
    if Address.isDotted cs || Address.isIpv6 cs then .ok () else .error .notIp
  else if name = "port" then checkWord 16 cs
  else .ok ()

/-! ## whole addresses -/

/-- The first fault of an address, if it has one. -/
def check (a : Address) : Except Fault Unit := do
  if isSocket a.host then checkText a.host
  checkText a.user
  checkText (a.password.getD [])
  checkText (a.path.dropWhile (· == '/'))
  a.options.forM fun (name, value) => checkOption name value

theorem checkOption_eq_ok_of_not_mem {name value : String} (h : name ∉ checkedNames) :
    checkOption name value = .ok () := by
  simp only [checkedNames, List.mem_cons, List.not_mem_nil, or_false, not_or] at h
  simp [checkOption, h]

theorem checkText_of_no_percent {cs : List Char} (h : '%' ∉ cs) : checkText cs = .ok () := by
  rw [checkText, Text.Percent.spelled_of_no_percent h]

theorem check_of_no_percent {a : Address} (hh : '%' ∉ a.host) (hu : '%' ∉ a.user)
    (hw : '%' ∉ a.password.getD []) (hp : '%' ∉ a.path) (hq : a.query = none) :
    check a = .ok () := by
  have path : '%' ∉ a.path.dropWhile (· == '/') :=
    fun m => hp ((List.dropWhile_sublist _).mem m)
  have options : a.options = [] := by rw [Address.options, hq]; decide
  rw [check, checkText_of_no_percent hh, checkText_of_no_percent hu, checkText_of_no_percent hw,
    checkText_of_no_percent path, options]
  split <;> rfl

end BoxOffice.Sql.Options
