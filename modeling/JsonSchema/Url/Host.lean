import JsonSchema.Address.V6
import JsonSchema.Url.Basic
import JsonSchema.Url.Domain
import JsonSchema.Url.Percent

/-!
# Hosts

The host of a URL is an address or a name. Only the schemes of the web prescribe what a name is; under any
other scheme it is kept as written.

## What is here

* `Host.read?` — the normalised host under a scheme of the web.
* `Host.readOpaque?` — the host under any other scheme.
-/

set_option autoImplicit false

namespace JsonSchema.Host

/-- Characters that no name under a scheme of the web may have. -/
def forbiddenInDomain : List Char :=
  ['%', '#', '/', ':', '<', '>', '?', '@', '[', '\\', ']', '^', '|', ' ']

/-- Characters that no host under another scheme may have. -/
def forbiddenInOpaque : List Char :=
  ['\x00', '\t', '\n', '\r', ' ', '#', '/', ':', '<', '>', '?', '@', '[', '\\', ']', '^', '|']

/-- An address in brackets. -/
def bracketed? (cs : List Char) : Except UrlError (List Char) :=
  if cs.getLast? == some ']' then
    match Ipv6.read? (cs.drop 1).dropLast with
    | some groups => .ok ('[' :: (Ipv6.text groups ++ [']']))
    | none => .error .invalidIpv6
  else .error .invalidIpv6

/-- The host under a scheme of the web. A name whose last part is a number has to be an address. -/
def read? (cs : List Char) : Except UrlError (List Char) :=
  if cs.head? == some '[' then bracketed? cs
  else match Domain.toAscii? (Text.ofUtf8 (Percent.decode cs)) with
    | none => .error .invalidDomain
    | some name =>
      if name.any fun c => forbiddenInDomain.contains c || c.toNat < 32 || c.toNat == 127 then
        .error .invalidDomain
      else if name.isEmpty then .error .emptyHost
      else if Ipv4.endsInNumber name then
        match Ipv4.lenient? name with
        | some address => .ok (Ipv4.text address)
        | none => .error .invalidIpv4
      else .ok name

/-- The host under another scheme. -/
def readOpaque? (cs : List Char) : Except UrlError (List Char) :=
  if cs.head? == some '[' then bracketed? cs
  else if cs.any forbiddenInOpaque.contains then .error .invalidHostCharacter
  else .ok (Percent.encode Percent.Set.controls cs)

end JsonSchema.Host
