import BoxOffice.Address.Domain
import BoxOffice.Address.Ipv4
import BoxOffice.Text.Percent

/-!
# BoxOffice.Address.Host

The name of a host in an address. In brackets it is an IPv6 address. Otherwise it is
taken as it stands, or read as a domain, which depends on the scheme: a domain may
have bytes written with percent signs, is compared in lower case, and is an IPv4
address where it ends in a number.

Main statement: a domain that is read is not empty (`readDomain_ne_nil`).
-/

namespace BoxOffice.Address

/-- Why a text is no address. -/
inductive Fault
  | noScheme
  | noHost
  /-- What stands in brackets is no IPv6 address. -/
  | notIpv6
  /-- A name that ends in a number is no IPv4 address. -/
  | notIpv4
  /-- A character that no name of a host holds. -/
  | hostCharacter
  /-- A name that is no domain. -/
  | notDomain
  | hostNumber
deriving DecidableEq, Repr

def Fault.message : Fault → String
  | noScheme => "relative URL without a base"
  | noHost => "empty host"
  | notIpv6 => "invalid IPv6 address"
  | notIpv4 => "invalid IPv4 address"
  | hostCharacter => "invalid domain character"
  | notDomain => "invalid international domain name"
  | hostNumber => "invalid port number"

/-- A character that no name of a host holds. -/
def dividesAddress (c : Char) : Bool := c == '\x00' || c ∈ " #/:<>?@[\\]^|".toList

/-- A name in brackets, after the first of them. -/
def readBracketed (rest : List Char) : Except Fault (List Char) :=
  if rest.getLast? = some ']' ∧ isIpv6 rest.dropLast then .ok ('[' :: rest) else .error .notIpv6

/-- A name that is taken as it stands; it may be empty. -/
def readName : List Char → Except Fault (List Char)
  | '[' :: rest => readBracketed rest
  | name => if name.any dividesAddress then .error .hostCharacter else .ok name

/-- A name that is a domain. -/
def readDomain : List Char → Except Fault (List Char)
  | '[' :: rest => readBracketed rest
  | name =>
    match domain? (Text.Percent.decode name) with
    | none => .error .notDomain
    | some [] => .error .noHost
    | some domain => if endsInNumber domain && !isIpv4 domain then .error .notIpv4 else .ok domain

theorem readBracketed_ne_nil {rest host : List Char} (h : readBracketed rest = .ok host) :
    host ≠ [] := by
  unfold readBracketed at h
  split at h <;> cases h
  simp

theorem readDomain_ne_nil {name host : List Char} (h : readDomain name = .ok host) :
    host ≠ [] := by
  unfold readDomain at h
  split at h
  · exact readBracketed_ne_nil h
  · split at h
    · cases h
    · cases h
    · next hne _ =>
      split at h <;> cases h
      exact hne

end BoxOffice.Address
