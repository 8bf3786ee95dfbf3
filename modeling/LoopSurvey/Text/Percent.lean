/-!
# Percent-encoding

A text as part of a query: every byte of its UTF-8 form that is not unreserved is written as a
percent sign and two hexadecimal digits.
-/

namespace LoopSurvey.Text.Percent

/-- Letters and digits of ASCII, hyphen, low line, full stop and tilde stand for themselves. -/
def isUnreserved (c : Char) : Bool :=
  c.isAlphanum || c == '-' || c == '_' || c == '.' || c == '~'

/-- The upper-case hexadecimal digit of a value below 16. -/
def hexDigit (n : Nat) : Char :=
  if n < 10 then Char.ofNat (48 + n) else Char.ofNat (55 + n)

/-- A byte as a percent sign and two digits. -/
def encodeByte (b : UInt8) : List Char :=
  ['%', hexDigit (b.toNat / 16), hexDigit (b.toNat % 16)]

/-- The written form of one character. -/
def encodeChar (c : Char) : List Char :=
  if isUnreserved c then [c] else (String.utf8EncodeChar c).flatMap encodeByte

/-- The percent-encoded text. -/
def encode (s : String) : String :=
  String.ofList (s.toList.flatMap encodeChar)

end LoopSurvey.Text.Percent
