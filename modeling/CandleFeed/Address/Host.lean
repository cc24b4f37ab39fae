import CandleFeed.Address.Fault
import CandleFeed.Address.Ipv4
import CandleFeed.Address.Ipv6
import CandleFeed.Address.Percent
import CandleFeed.Domain.Name

/-!
# Hosts of addresses

A **`Host`** is a domain name or a numbered address.  What may stand as one depends on the scheme:
the schemes of the web and of files have real hosts, read by **`Host.ofText`**; any other scheme may
mean something else by it, so that **`Host.ofUnknown`** keeps the text as it is but for escapes.
-/

namespace CandleFeed

/-- Where an address points to. -/
inductive Host where
  /-- Nowhere in particular. -/
  | empty
  /-- A name, in ASCII. -/
  | name (text : List Char)
  /-- An IPv4 address. -/
  | ipv4 (address : Ipv4)
  /-- An IPv6 address. -/
  | ipv6 (address : Ipv6)
deriving DecidableEq, Repr

namespace Host

open Address

/-- The host as it is written. -/
def text : Host → List Char
  | empty => []
  | name cs => cs
  | ipv4 a => a.text
  | ipv6 a => ['['] ++ a.text ++ [']']

/-- The host that a text in brackets gives. -/
def ofBrackets (cs : List Char) : Except AddressFault Host :=
  if cs.getLast? == some ']' then
    match Ipv6.ofText? (cs.drop 1).dropLast with
    | some a => .ok (.ipv6 a)
    | none => .error .badIpv6
  else .error .badIpv6

/-- The host that a text gives where hosts are real. -/
def ofText (cs : List Char) : Except AddressFault Host :=
  if cs.head? == some '[' then ofBrackets cs
  else
    match Domain.ascii? (percentDecoded cs) with
    | none => .error .badDomain
    | some [] => .error .emptyHost
    | some ascii =>
      if Ipv4.endsInNumber ascii then
        match Ipv4.ofText? ascii with
        | some a => .ok (.ipv4 a)
        | none => .error .badIpv4
      else .ok (.name ascii)

/-- Characters that no host may have, whatever the scheme. -/
def isForbidden (c : Char) : Bool := "\x00\t\n\r #/:<>?@[\\]^|".toList.contains c

/-- The host that a text gives where nobody knows what a host is. -/
def ofUnknown (cs : List Char) : Except AddressFault Host :=
  if cs.head? == some '[' then ofBrackets cs
  else if cs.any isForbidden then .error .badCharacter
  else if cs.isEmpty then .ok .empty
  else .ok (.name (percentEncoded isUnprintable cs))

end Host

end CandleFeed
