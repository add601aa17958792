import RackManagement.Library.Regex

/-!
# The log sanitizer

`common/log_sanitize.rs` for a sanitizer without literal strings: the built-in patterns for addresses,
joined in their order, and the replacement of all matches.
-/

namespace RackManagement

open Library Regex

def defaultReplacement : String := "XXXX"

inductive BuiltInLogSanitizers
  | ipv4 | ipv6
deriving DecidableEq

namespace LogSanitizer

def digit : Regex := range '0' '9'

def octet : Regex :=
  oneOf [seq (text "25") (range '0' '5'), seq (char '2') (seq (range '0' '4') digit), seq (char '1')
    (seq digit digit)]
    (seq (upTo (range '1' '9') 1) digit)

def ipv4Pattern : Regex := seq (exactly (seq octet (char '.')) 3) octet

def isHexDigit (c : Char) : Bool := ('0' ≤ c && c ≤ '9') || ('a' ≤ c && c ≤ 'f') || ('A' ≤ c && c ≤ 'F')

def hextet : Regex := between (chars isHexDigit) 1 4

def hextetColon : Regex := seq hextet (char ':')

def colonHextet : Regex := seq (char ':') hextet

def embeddedOctet : Regex :=
  alt (seq (text "25") (range '0' '5'))
    (seq (upTo (alt (seq (char '2') (range '0' '4')) (seq (upTo (char '1') 1) digit)) 1) digit)

def embeddedIpv4 : Regex := seq (exactly (seq embeddedOctet (char '.')) 3) embeddedOctet

def isAsciiAlphanumeric (c : Char) : Bool :=
  ('0' ≤ c && c ≤ '9') || ('a' ≤ c && c ≤ 'z') || ('A' ≤ c && c ≤ 'Z')

def ipv6Pattern : Regex :=
  oneOf
    [seq (exactly hextetColon 7) hextet,
      seq (between hextetColon 1 7) (char ':'),
      seq (between hextetColon 1 6) (seq (char ':') hextet),
      seq (between hextetColon 1 5) (between colonHextet 1 2),
      seq (between hextetColon 1 4) (between colonHextet 1 3),
      seq (between hextetColon 1 3) (between colonHextet 1 4),
      seq (between hextetColon 1 2) (between colonHextet 1 5),
      seq hextet (seq (char ':') (between colonHextet 1 6)),
      seq (char ':') (alt (between colonHextet 1 7) (char ':')),
      seq (text "fe80:") (seq (upTo (seq (char ':') (upTo (chars isHexDigit) 4)) 4)
        (seq (char '%') (seq (chars isAsciiAlphanumeric) (many isAsciiAlphanumeric)))),
      seq (text "::")
        (seq (upTo (seq (text "ffff")
          (seq (upTo (seq (char ':') (between (char '0') 1 4)) 1) (char ':'))) 1)
        embeddedIpv4)]
    (seq (between hextetColon 1 4) (seq (char ':') embeddedIpv4))

def pattern : BuiltInLogSanitizers → Regex
  | .ipv4 => ipv4Pattern
  | .ipv6 => ipv6Pattern

end LogSanitizer

/-- Without a pattern nothing is compiled. -/
structure LogSanitizer where
  compiled : Option Regex
  replacement : String

namespace LogSanitizer

def new (replacementString : Option String) (additionalRegex : Option (List BuiltInLogSanitizers)) :
    LogSanitizer where
  compiled := ((additionalRegex.getD [.ipv4, .ipv6]).reverse.map pattern).foldl
    (fun joined first => some (joined.elim first (alt first))) none
  replacement := replacementString.getD defaultReplacement

def sanitize (sanitizer : LogSanitizer) (input : String) : String :=
  match sanitizer.compiled with
  | some regex => String.ofList (regex.replaceAll sanitizer.replacement.toList input.toList)
  | none => input

end LogSanitizer

end RackManagement
