import BoxOffice.Address.Host

/-!
# BoxOffice.Address.Authority

Who asks and where, as it stands after two slashes: perhaps a user, a colon, a
password and `@`, then the name of a host, then perhaps a colon and a number below
65536. It ends at the next slash, question mark or hash.

Three kinds of scheme differ. Most take the name of the host as it stands, which may
be none. The schemes of the web need a domain, and read backslashes as slashes. In
the addresses of files there is at most a domain; the drive of a path is none.

Main statement: a user or a password needs a host (`host_ne_nil_of_readAuthority`).
-/

namespace BoxOffice.Address

/-- How the addresses of a scheme are written. -/
inductive Manner
  | plain
  | web
  | file
deriving DecidableEq, Repr

def Manner.ofScheme (scheme : List Char) : Manner :=
  if scheme = "file".toList then .file
  else if scheme ∈ ["http", "https", "ws", "wss", "ftp"].map (·.toList) then .web
  else .plain

structure Authority where
  /-- The user as it is written, empty where there is none. -/
  user : List Char := []
  /-- The password as it is written, if it is not empty. -/
  password : Option (List Char) := none
  /-- The name of the host, empty where there is none. -/
  host : List Char := []
deriving DecidableEq, Repr

/-- A slash; outside of plain addresses a backslash is one. -/
def isSlash (m : Manner) (c : Char) : Bool := c == '/' || c == '\\' && m != .plain

/-- A character that ends the part of an address that is about the host. -/
def endsAuthority (m : Manner) (c : Char) : Bool := isSlash m c || c == '?' || c == '#'

/-- A user, and a password after the first colon. -/
def splitUser (cs : List Char) : List Char × Option (List Char) :=
  let user := cs.takeWhile (· != ':')
  let password := cs.drop (user.length + 1)
  (user, if password = [] then none else some password)

/-- The name of a host: what stands before the first colon outside of brackets. -/
def hostName (bracketed : Bool) : List Char → List Char
  | [] => []
  | c :: cs =>
    if c = ':' ∧ !bracketed then []
    else c :: hostName (c = '[' || bracketed && c != ']') cs

/-- The host of a name, which may be empty in a plain address. -/
def readHost (m : Manner) (name : List Char) : Except Fault (List Char) :=
  if m = .plain then readName name else readDomain name

/-- What follows a colon and a number below 65536, where there is anything. The number
may be left out, and ends at a backslash. -/
def afterNumber (cs : List Char) : Except Fault (List Char) :=
  let number := (cs.drop 1).takeWhile (· != '\\')
  if number.all Char.isDigit ∧ Nat.ofDigitChars 10 number 0 < 65536 then
    .ok (cs.drop (number.length + 1))
  else .error .hostNumber

/-- A host with a number after it, and what follows the number. -/
def readPlace (m : Manner) (user : List Char) (password : Option (List Char)) (cs : List Char) :
    Except Fault (Authority × List Char) := do
  let name := hostName false cs
  let number := cs.drop name.length
  let host ← readHost m name
  if host = [] ∧ (number ≠ [] ∨ user ≠ [] ∨ password ≠ none) then throw .noHost
  let rest ← afterNumber number
  return (⟨user, password, host⟩, rest)

/-- The authority after two slashes, and what follows it. A user without a name and
without a password is no user. -/
def readAuthority (m : Manner) (cs : List Char) : Except Fault (Authority × List Char) :=
  let whole := cs.takeWhile (!endsAuthority m ·)
  let after := cs.drop whole.length
  let place := (whole.reverse.takeWhile (· != '@')).reverse
  let (user, password) := splitUser (whole.take (whole.length - place.length - 1))
  if whole = ['@'] ∧ after ≠ [] then .error .noHost
  else (readPlace m user password place).map fun (a, rest) => (a, rest ++ after)

/-! ## files -/

/-- The drive of a path: a letter and a colon or a bar. -/
def isDrive : List Char → Bool
  | [letter, mark] => letter.isAlpha && (mark == ':' || mark == '|')
  | _ => false

/-- The host after two slashes in the address of a file, and what follows it. -/
def readFileHost (cs : List Char) : Except Fault (Authority × List Char) := do
  let name := cs.takeWhile (!endsAuthority .file ·)
  if name = [] ∨ isDrive name then return ({}, cs)
  let host ← readDomain name
  return ({ host := if host = "localhost".toList then [] else host }, cs.drop name.length)

/-! ## all schemes -/

/-- The authority in what follows the colon of a scheme, if there is any, and what
follows it. -/
def splitAuthority (m : Manner) (cs : List Char) :
    Except Fault (Option Authority × List Char) := do
  match m, cs with
  | .web, cs =>
    let (authority, rest) ← readAuthority m (cs.dropWhile (isSlash m))
    return (some authority, rest)
  | m, a :: b :: cs =>
    if isSlash m a && isSlash m b then
      let (authority, rest) ← if m = .file then readFileHost cs else readAuthority m cs
      return (some authority, rest)
    else return (none, a :: b :: cs)
  | _, cs => return (none, cs)

theorem host_ne_nil_of_readPlace {m : Manner} {user cs rest : List Char}
    {password : Option (List Char)} {a : Authority}
    (h : readPlace m user password cs = .ok (a, rest)) (hu : a.user ≠ [] ∨ a.password ≠ none) :
    a.host ≠ [] := by
  simp only [readPlace, bind, Except.bind, pure, Except.pure, throw, throwThe,
    MonadExceptOf.throw] at h
  split at h
  · cases h
  · split at h
    · cases h
    · next hn =>
      split at h
      · cases h
      · cases h
        exact fun he => hn ⟨he, .inr hu⟩

theorem host_ne_nil_of_readAuthority {m : Manner} {cs rest : List Char} {a : Authority}
    (h : readAuthority m cs = .ok (a, rest)) (hu : a.user ≠ [] ∨ a.password ≠ none) :
    a.host ≠ [] := by
  simp only [readAuthority] at h
  split at h
  · cases h
  · unfold Except.map at h
    split at h
    · cases h
    · next hp =>
      cases h
      exact host_ne_nil_of_readPlace hp hu

end BoxOffice.Address
