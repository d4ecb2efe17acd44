import JsonSchema.Address.V4
import JsonSchema.Address.V6
import JsonSchema.Format
import JsonSchema.Format.Calendar
import JsonSchema.Format.HostName
import JsonSchema.Format.Phone
import JsonSchema.Format.Style
import JsonSchema.Regex.Pattern
import JsonSchema.Url.Parser

/-!
# The standard formats

## What is here

* `FormatRule.onText` — a rule that speaks of strings only.
* `Formats.standard` — **the formats of the third and fourth draft**.
-/

set_option autoImplicit false

namespace JsonSchema

namespace FormatRule

/-- A rule for strings: the ones that pass the test are fine, and the others get a complaint. -/
def onText (test : String → Bool) (complaint : String → String) : FormatRule
  | .string text => if test text then none else some (complaint text)
  | _ => none

/-- A complaint that quotes the text. -/
def quoting (beginning ending : String) (text : String) : String :=
  beginning ++ " \"" ++ text ++ "\"" ++ ending

/-- Milliseconds since the epoch: a number, or a string that spells one. -/
def milliseconds : FormatRule :=
  onText (fun text => (readFinite? text).isSome)
    fun _ => "Invalid time, expected integer of milliseconds since Epoch"

/-- Regular expressions. -/
def regex : FormatRule :=
  onText (fun text => (Pattern.read? text).toOption.isSome) fun text => "Invalid regex format " ++ text

/-- Host names. -/
def hostName : FormatRule := onText HostName.isHostName (quoting "Invalid hostname" "")

/-- Addresses in the dotted form. -/
def ipv4 : FormatRule :=
  onText (fun text => (Ipv4.strict? text.toList).isSome) (quoting "Invalid IP address" "")

/-- Addresses of 128 bits. -/
def ipv6 : FormatRule :=
  onText (fun text => (Ipv6.read? text.toList).isSome) (quoting "Invalid IPv6 address" "")

/-- Absolute URLs. -/
def uri : FormatRule := onText (fun text => (Url.parse? text).toOption.isSome) (quoting "Invalid URL format" "")

end FormatRule

open FormatRule in
/-- The formats of the third and fourth draft. -/
def Formats.standard : Formats where
  rules :=
    [("date-time", onText Calendar.isTimestampText (quoting "Invalid date-time"
        ", expected format YYYY-MM-DDThh:mm:ssZ or YYYY-MM-DDThh:mm:ss+hh:mm")),
     ("date", onText Calendar.isDateText (quoting "Invalid date" ", expected format YYYY-MM-DD")),
     ("time", onText Calendar.isTimeText (quoting "Invalid time" ", expected format hh:mm:ss")),
     ("utc-millisec", milliseconds),
     ("regex", regex),
     ("color", onText Style.isColor (quoting "Invalid color" "")),
     ("style", onText Style.isStyle (quoting "Invalid style" "")),
     ("phone", onText Phone.isPhone (quoting "Invalid phone number" "")),
     ("uri", uri),
     ("email", onText HostName.isMailAddress (quoting "Invalid email" "")),
     ("ip-address", ipv4),
     ("ipv4", ipv4),
     ("ipv6", ipv6),
     ("host-name", hostName),
     ("hostname", hostName)]

end JsonSchema
