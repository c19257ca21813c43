/-!
# Faults in URLs
-/

namespace Workflow.Url

/-- Why a text is not a URL. -/
inductive Fault where
  | emptyHost
  | domain
  | portNumber
  | ipv4Address
  | ipv6Address
  | domainCharacter
  | relative
  deriving DecidableEq, Repr

def Fault.message : Fault → String
  | emptyHost => "empty host"
  | domain => "invalid international domain name"
  | portNumber => "invalid port number"
  | ipv4Address => "invalid IPv4 address"
  | ipv6Address => "invalid IPv6 address"
  | domainCharacter => "invalid domain character"
  | relative => "relative URL without a base"

end Workflow.Url
