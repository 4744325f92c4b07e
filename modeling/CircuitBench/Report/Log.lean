/-!
# Log entries

A `LogEntry` has a level and a text. It is printed with its control characters escaped, and shown
when its level is as important as asked for (`LogEntry.isShown`).
-/

namespace CircuitBench

/-- How important a log entry is. -/
inductive LogLevel where
  | error
  | warn
  | info
  | debug
deriving DecidableEq, Repr

/-- The name of a level. -/
def LogLevel.name : LogLevel → String
  | .error => "ERROR"
  | .warn => "WARN"
  | .info => "INFO"
  | .debug => "DEBUG"

/-- The rank of a level; the most important one is the first. -/
def LogLevel.rank : LogLevel → Nat
  | .error => 0
  | .warn => 1
  | .info => 2
  | .debug => 3

/-- A message with its level. -/
structure LogEntry where
  level : LogLevel
  message : String
deriving DecidableEq, Repr

/-- Whether an entry is shown when entries up to a level are. -/
def LogEntry.isShown (shown : LogLevel) (e : LogEntry) : Bool :=
  e.level.rank ≤ shown.rank

/-- Whether a character of seven bits can be a command to a terminal. -/
def isTerminalCommand (c : Char) : Bool :=
  c == '\x07' || c == '\x08' || c == '\x0c' || c == '\x1b' || c == '\x7f'

/-- A character of a printed message. Commands to a terminal are written as their codes, so that a
name from outside cannot give any. -/
def printedChar (c : Char) : List Char :=
  let digits := Nat.toDigits 16 c.toNat
  if isTerminalCommand c then
    '\\' :: 'x' :: (List.replicate (2 - digits.length) '0' ++ digits)
  else if 0x80 ≤ c.toNat && c.toNat ≤ 0x9F then "\\u\x7b".toList ++ digits ++ ['\x7d']
  else [c]

/-- The message of an entry as it is printed. -/
def LogEntry.text (e : LogEntry) : String :=
  String.ofList (e.message.toList.flatMap printedChar)

end CircuitBench
