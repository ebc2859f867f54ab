import CameraGraph.Url.Domain
import CameraGraph.Url.Ip

/-!
# CameraGraph.Url.Host

Hosts of web addresses.

The host of a special scheme is a domain name or an internet address; its bytes are decoded, and a
name goes through the rules for international domain names. The host of any other scheme is taken as
it is written, up to what has to be encoded. In both, brackets hold a version 6 address.
-/

namespace CameraGraph.Url

/-- Why a text is no web address. -/
inductive Error where
  /-- A host that has to be there and is not. -/
  | emptyHost
  /-- A name that is no international domain name. -/
  | domainName
  /-- A port that is no number below `2 ^ 16`. -/
  | port
  /-- A host that ends in a number and is no version 4 address. -/
  | ipv4
  /-- Brackets that hold no version 6 address. -/
  | ipv6
  /-- A character that no host may hold. -/
  | hostCharacter
  /-- No scheme. -/
  | noScheme
  deriving Repr, DecidableEq

/-- The wording of an error. -/
def Error.message : Error → String
  | emptyHost => "empty host"
  | domainName => "invalid international domain name"
  | port => "invalid port number"
  | ipv4 => "invalid IPv4 address"
  | ipv6 => "invalid IPv6 address"
  | hostCharacter => "invalid domain character"
  | noScheme => "relative URL without a base"

/-- The address in the brackets of a host. -/
def bracketedHost (s : List Char) : Except Error (List Char) :=
  if s.getLast? = some ']' then
    match ipv6? s.dropLast with
    | some pieces => .ok ('[' :: ipv6Text pieces ++ [']'])
    | none => .error .ipv6
  else .error .ipv6

/-- What no host may hold. -/
def forbiddenInHost (c : Char) : Bool :=
  ['\x00', '\t', '\n', '\r', ' ', '#', '/', ':', '<', '>', '?', '@', '[', '\\', ']', '^',
    '|'].contains c

/-- The host of a scheme that is not special. -/
def opaqueHost : List Char → Except Error (List Char)
  | '[' :: r => bracketedHost r
  | s => if s.any forbiddenInHost then .error .hostCharacter else .ok (encode isControl s)

/-- The host of a special scheme. -/
def specialHost : List Char → Except Error (List Char)
  | '[' :: r => bracketedHost r
  | s =>
    match domainToAscii? (decodeBytes s) with
    | none => .error .domainName
    | some [] => .error .emptyHost
    | some domain =>
      if endsInNumber domain then
        match ipv4? domain with
        | some n => .ok (ipv4Text n)
        | none => .error .ipv4
      else .ok domain

end CameraGraph.Url
