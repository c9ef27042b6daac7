import TokenConsole.Url.Address
import TokenConsole.Url.Domain
import TokenConsole.Url.Percent

/-!
# Hosts of URLs

A host is a name or a numeric address. The names of web addresses are domains; other names are kept
as they are written.
-/
namespace TokenConsole.Url

/-- Why a text is no URL. -/
inductive Fault where
  | noScheme
  | emptyHost
  | invalidPort
  | invalidIpv4
  | invalidIpv6
  | invalidDomain
  | invalidHostCharacter
  deriving DecidableEq, Repr

def Fault.message : Fault → String
  | .noScheme => "relative URL without a base"
  | .emptyHost => "empty host"
  | .invalidPort => "invalid port number"
  | .invalidIpv4 => "invalid IPv4 address"
  | .invalidIpv6 => "invalid IPv6 address"
  | .invalidDomain => "invalid international domain name"
  | .invalidHostCharacter => "invalid domain character"

inductive Host where
  /-- A name, which may be empty. -/
  | name (text : String)
  | ipv4 (number : Nat)
  | ipv6 (groups : List Nat)
  deriving DecidableEq, Repr

namespace Host

def text : Host → String
  | .name text => text
  | .ipv4 number => ipv4Text number
  | .ipv6 groups => "[" ++ ipv6Text groups ++ "]"

/-- The address in brackets, if there is a bracket. -/
def bracketed? (s : List Char) : Option (Except Fault Host) :=
  match s with
  | '[' :: rest =>
    some (match rest.getLast?, ipv6? rest.dropLast with
      | some ']', some groups => .ok (.ipv6 groups)
      | _, _ => .error .invalidIpv6)
  | _ => none

/-- A host whose names are domains. -/
def ofDomain (s : List Char) : Except Fault Host :=
  match bracketed? s with
  | some r => r
  | none =>
    let decoded := (Text.Utf8.decode (percentDecode s)).toOption
    match decoded.bind fun text => domain? text.toList with
    | none => .error .invalidDomain
    | some [] => .error .emptyHost
    | some domain =>
      if endsInNumber domain then
        match ipv4? domain with
        | some number => .ok (.ipv4 number)
        | none => .error .invalidIpv4
      else .ok (.name (String.ofList domain))

/-- A host whose names stay as they are. -/
def ofText (s : List Char) : Except Fault Host :=
  match bracketed? s with
  | some r => r
  | none =>
    if s.any "\x00\t\n\r #/:<>?@[\\]^|".toList.contains then .error .invalidHostCharacter
    else .ok (.name (String.ofList (percentEncode isControl s)))

end Host

end TokenConsole.Url
