/-!
What can be wrong with the address of a server.
-/

namespace PeerChat.Url

/-- Why a text is not a URL. -/
inductive Fault
  | emptyHost
  | badDomainName
  | badPort
  | badIpv4
  | badIpv6
  | badHostCharacter
  /-- A relative address, with nothing to be relative to. -/
  | relativeWithoutBase
  /-- A relative address, to one that has no hierarchy. -/
  | relativeWithRootlessBase
deriving DecidableEq, Repr

def Fault.message : Fault → String
  | emptyHost => "empty host"
  | badDomainName => "invalid international domain name"
  | badPort => "invalid port number"
  | badIpv4 => "invalid IPv4 address"
  | badIpv6 => "invalid IPv6 address"
  | badHostCharacter => "invalid domain character"
  | relativeWithoutBase => "relative URL without a base"
  | relativeWithRootlessBase => "relative URL with a cannot-be-a-base base"

end PeerChat.Url
