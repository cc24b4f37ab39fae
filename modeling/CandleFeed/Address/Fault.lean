/-!
# Why a text is no address

The failures that the standard for URLs knows, each an **`AddressFault`**, with their usual wording.
-/

namespace CandleFeed

/-- Why a text is no URL. -/
inductive AddressFault where
  /-- It has no scheme, and there is nothing it could be relative to. -/
  | relative
  /-- The host is empty. -/
  | emptyHost
  /-- The port is no number of 16 bits. -/
  | badPort
  /-- What stands in brackets is no IPv6 address. -/
  | badIpv6
  /-- The host ends in a number but is no IPv4 address. -/
  | badIpv4
  /-- The host is no domain name. -/
  | badDomain
  /-- The host of an unknown scheme has a character that no host may have. -/
  | badCharacter
deriving DecidableEq, Repr

namespace AddressFault

/-- The message for a fault. -/
def message : AddressFault → String
  | relative => "relative URL without a base"
  | emptyHost => "empty host"
  | badPort => "invalid port number"
  | badIpv6 => "invalid IPv6 address"
  | badIpv4 => "invalid IPv4 address"
  | badDomain => "invalid international domain name"
  | badCharacter => "invalid domain character"

end AddressFault

end CandleFeed
