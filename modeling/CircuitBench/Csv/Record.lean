import CircuitBench.Text.Blank
import CircuitBench.Text.Utf8

/-!
# CSV records

`scan` cuts bytes into records of fields. A record ends with a line feed or a carriage return; blank
lines do not count. A quote at the start of a field opens a quoted field, in which a doubled quote
stands for one. `Sheet.read` decodes the records to text afterwards, and asks that all have as many
fields as the first; a `CsvFault` tells the `Position` where this fails.
-/

namespace CircuitBench.Csv

/-- Where a record is read from: its number, the line and the byte at which its reading starts. -/
structure Position where
  record : Nat
  line : Nat
  byte : Nat
deriving DecidableEq, Repr

/-- A record of undecoded fields. -/
structure RawRecord where
  line : Nat
  byte : Nat
  fields : List (List UInt8)
deriving DecidableEq, Repr

/-- Where the reading of a record stands. -/
inductive Phase where
  | startRecord
  | startField
  | inField
  | quoted
  /-- Behind a quote inside a quoted field. -/
  | afterQuote
deriving DecidableEq, Repr

/-- A record that is being read; its fields and the bytes of the last one stand backwards. -/
structure Scanner where
  phase : Phase
  bytes : List UInt8
  fields : List (List UInt8)
  /-- The byte and line at which the reading of the record started. -/
  startByte : Nat
  startLine : Nat
  /-- The byte and line that come next. -/
  byte : Nat
  line : Nat

/-- The record that ends where a scanner stands. -/
def Scanner.record (s : Scanner) : RawRecord :=
  ⟨s.startLine, s.startByte, (s.bytes.reverse :: s.fields).reverse⟩

/-- A scanner one byte further. -/
def Scanner.advance (s : Scanner) (b : UInt8) : Scanner :=
  { s with byte := s.byte + 1, line := if b = 10 then s.line + 1 else s.line }

/-- A scanner that starts a new record where it stands. -/
def Scanner.restart (s : Scanner) : Scanner :=
  { s with
    phase := .startRecord, bytes := [], fields := [], startByte := s.byte, startLine := s.line }

/-- A scanner with one more byte in its field. -/
def Scanner.add (s : Scanner) (phase : Phase) (b : UInt8) : Scanner :=
  { s with phase, bytes := b :: s.bytes }

/-- A scanner whose field has ended. -/
def Scanner.endField (s : Scanner) : Scanner :=
  { s with phase := .startField, bytes := [], fields := s.bytes.reverse :: s.fields }

/-- A byte that ends a record. -/
def isTerminator (b : UInt8) : Bool :=
  b == 10 || b == 13

/-- The byte of a double quote. -/
def quoteByte : UInt8 := 34

/-- A byte outside quotes, in the given phase for an ordinary byte. -/
def Scanner.plain (s : Scanner) (delimiter b : UInt8) : Scanner × Option RawRecord :=
  if isTerminator b then ((s.advance b).restart, some s.record)
  else if b = delimiter then ((s.advance b).endField, none)
  else ((s.advance b).add .inField b, none)

/-- One more byte: the scanner behind it, and the record that it ends. -/
def Scanner.step (delimiter : UInt8) (s : Scanner) (b : UInt8) : Scanner × Option RawRecord :=
  match s.phase with
  | .startRecord =>
    if isTerminator b then (s.advance b, none)
    else if b = quoteByte then ({ s.advance b with phase := .quoted }, none)
    else s.plain delimiter b
  | .startField =>
    if b = quoteByte then ({ s.advance b with phase := .quoted }, none) else s.plain delimiter b
  | .inField => s.plain delimiter b
  | .quoted =>
    if b = quoteByte then ({ s.advance b with phase := .afterQuote }, none)
    else ((s.advance b).add .quoted b, none)
  | .afterQuote =>
    if b = quoteByte then ((s.advance b).add .quoted b, none) else s.plain delimiter b

/-- The records of bytes behind what a scanner has read. -/
def scanFrom (delimiter : UInt8) (s : Scanner) : List UInt8 → List RawRecord
  | [] => if s.phase = .startRecord then [] else [s.record]
  | b :: rest =>
    match s.step delimiter b with
    | (next, some record) => record :: scanFrom delimiter next rest
    | (next, none) => scanFrom delimiter next rest

/-- The records of some bytes. A mark of byte order in front is no part of the first field. -/
def scan (delimiter : UInt8) (bytes : List UInt8) : List RawRecord :=
  let start : Scanner := ⟨.startRecord, [], [], 0, 1, 0, 1⟩
  match bytes with
  | 0xEF :: 0xBB :: 0xBF :: rest => scanFrom delimiter { start with byte := 3 } rest
  | _ => scanFrom delimiter start bytes

/-- What can be wrong with a file of records. -/
inductive CsvFault where
  /-- A record has another number of fields than the one before. -/
  | unequalLengths (position : Position) (actual expected : Nat)
  /-- A field is no UTF-8, behind the given number of bytes. -/
  | notText (position : Position) (field offset : Nat)
deriving DecidableEq, Repr

/-- The wording of a fault. -/
def CsvFault.message : CsvFault → String
  | .unequalLengths p actual expected =>
    s!"CSV error: record {p.record} (line: {p.line}, byte: {p.byte}): found record with " ++
      s!"{actual} fields, but the previous record has {expected} fields"
  | .notText p field offset =>
    s!"CSV parse error: record {p.record} (line {p.line}, field: {field}, byte: {p.byte}): " ++
      s!"invalid utf-8: invalid UTF-8 in field {field} near byte index {offset}"

/-- The blanks that are trimmed from fields before they are decoded. -/
def isBlankByte (b : UInt8) : Bool :=
  b == 9 || b == 10 || b == 12 || b == 13 || b == 32

/-- A field without the blank bytes at its ends. -/
def trimBytes (bs : List UInt8) : List UInt8 :=
  ((bs.dropWhile isBlankByte).reverse.dropWhile isBlankByte).reverse

/-- The texts of fields, the first of them at the given place in its record. -/
def decodeFields (position : Position) (place : Nat) :
    List (List UInt8) → Except CsvFault (List (List Char))
  | [] => .ok []
  | bytes :: others =>
    match Utf8.decode bytes with
    | .error offset => .error (.notText position place offset)
    | .ok cs => do
      return Text.trim cs :: (← decodeFields position (place + 1) others)

/-- A header and rows with as many fields. -/
structure Sheet where
  header : List (List Char)
  rows : List (List (List Char))
deriving DecidableEq, Repr

/-- The rows of records, the first of them with the given number. -/
def decodeRows (expected number : Nat) : List RawRecord → Except CsvFault (List (List (List Char)))
  | [] => .ok []
  | record :: others => do
    let position : Position := ⟨number, record.line, record.byte⟩
    if record.fields.length ≠ expected then
      throw (.unequalLengths position record.fields.length expected)
    else
      let row ← decodeFields position 0 (record.fields.map trimBytes)
      return row :: (← decodeRows expected (number + 1) others)

/-- The header and the rows that bytes hold. The header is decoded before blanks are trimmed. -/
def Sheet.read (delimiter : UInt8) (bytes : List UInt8) : Except CsvFault Sheet :=
  match scan delimiter bytes with
  | [] => .ok ⟨[], []⟩
  | first :: others => do
    let header ← decodeFields ⟨0, first.line, first.byte⟩ 0 first.fields
    return ⟨header, ← decodeRows first.fields.length 1 others⟩

end CircuitBench.Csv
