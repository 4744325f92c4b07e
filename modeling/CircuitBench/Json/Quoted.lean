import CircuitBench.Number.Digits

/-!
# Quoted text

JSON strings are written in double quotes (`quote`). The quote, the backslash and control characters
are escaped, five of the controls by a letter and the others by four hexadecimal digits. `list` and
`object` put compact JSON together from written parts.
-/

namespace CircuitBench.Json

/-- The hexadecimal digit of a number below sixteen. -/
def hexDigit (n : Nat) : Char :=
  Nat.digitChar n

/-- The written form of one character inside quotes. -/
def escape (c : Char) : List Char :=
  if c = '"' then ['\\', '"']
  else if c = '\\' then ['\\', '\\']
  else if c = '\x08' then ['\\', 'b']
  else if c = '\x0c' then ['\\', 'f']
  else if c = '\n' then ['\\', 'n']
  else if c = '\r' then ['\\', 'r']
  else if c = '\t' then ['\\', 't']
  else if c.toNat < 0x20 then
    ['\\', 'u', '0', '0', hexDigit (c.toNat / 16), hexDigit (c.toNat % 16)]
  else [c]

/-- A text in quotes. -/
def quote (cs : List Char) : List Char :=
  '"' :: (cs.flatMap escape ++ ['"'])

/-- Written parts with commas between them. -/
def commas (parts : List (List Char)) : List Char :=
  (parts.intersperse [',']).flatten

/-- A list of written items. -/
def list (items : List (List Char)) : List Char :=
  '[' :: (commas items ++ [']'])

/-- A key with its written value. -/
def member (key : String) (value : List Char) : List Char :=
  quote key.toList ++ ':' :: value

/-- An object of written members. -/
def object (members : List (List Char)) : List Char :=
  '\x7b' :: (commas members ++ ['\x7d'])

end CircuitBench.Json
