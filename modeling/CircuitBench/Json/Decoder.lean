import CircuitBench.Json.Skip

/-!
# Decoding JSON into types

Readers for strings, bounded numbers, lists and records. A record is an object whose unknown members
are skipped, or a list of its fields in their order. `readMembers` reads the members of an object,
of which a `field` may not be repeated, and `readWholeText` makes a reader one for all of a text.
-/

namespace CircuitBench.Json

/-- A string. -/
def readText : Reader String := fun cs =>
  match skipSpace cs with
  | '"' :: rest => (readStringBody rest).map fun (s, rest) => (String.ofList s, rest)
  | _ => .error (mismatchAt cs)

/-- A natural number below `bound`. -/
def readNat (bound : Nat) : Reader Nat := fun cs =>
  match skipSpace cs with
  | [] => .error .truncated
  | c :: rest =>
    if startsNumber c then
      match readNumber (c :: rest) with
      | .error fault => .error fault
      | .ok (token, rest) =>
        match token.natBelow? bound with
        | some n => .ok (n, rest)
        | none => .error .mismatch
    else .error (mismatchAt cs)

/-- A value, or `null` for none. -/
def readOptional {α : Type} (value : Reader α) : Reader (Option α) := fun cs =>
  match skipSpace cs with
  | 'n' :: rest => (readWord ['u', 'l', 'l'] rest).map fun (_, rest) => (none, rest)
  | _ => (value cs).map fun (a, rest) => (some a, rest)

/-- The text behind the bracket that opens a list, or the fault of a value that is no list. -/
def openList (cs : List Char) : Except Fault (List Char) :=
  match skipSpace cs with
  | '[' :: rest => .ok rest
  | _ => .error (mismatchAt cs)

/-- The text where the next item of a list starts, or nothing before the closing bracket. -/
def nextItem (first : Bool) (cs : List Char) : Except Fault (Option (List Char)) :=
  match skipSpace cs with
  | [] => .error .truncated
  | c :: rest =>
    if c = ']' then .ok none
    else if first then .ok (some (c :: rest))
    else if c = ',' then
      match skipSpace rest with
      | [] => .error .truncated
      | ']' :: _ => .error .malformed
      | item => .ok (some item)
    else .error .malformed

/-- The text behind a list all of whose items are read. -/
def closeList (cs : List Char) : Except Fault (List Char) :=
  match skipSpace cs with
  | [] => .error .truncated
  | ']' :: rest => .ok rest
  | _ => .error .malformed

/-- The items of a list up to its closing bracket. Each turn uses up a character, so the text's
length is fuel enough. -/
def readItems {α : Type} (item : Reader α) : Nat → Bool → Reader (List α)
  | 0, _, _ => .error .truncated
  | fuel + 1, first, cs => do
    match ← nextItem first cs with
    | none => return ([], ← closeList cs)
    | some start =>
      let (a, rest) ← item start
      let (others, rest) ← readItems item fuel false rest
      return (a :: others, rest)

/-- A list of values of one type. -/
def readList {α : Type} (item : Reader α) : Reader (List α) := fun cs => do
  let inner ← openList cs
  readItems item (inner.length + 1) true inner

/-- The next item of a list of fixed length; too short a list has the wrong shape. -/
def readItem {α : Type} (first : Bool) (item : Reader α) : Reader α := fun cs => do
  match ← nextItem first cs with
  | none => throw .mismatch
  | some start => item start

/-- The next item of a list of fixed length, or a default where the list has ended. -/
def readItemD {α : Type} (first : Bool) (item : Reader α) (default : α) : Reader α := fun cs => do
  match ← nextItem first cs with
  | none => return (default, cs)
  | some start => item start

/-- A list of exactly two values. -/
def readPair {α β : Type} (left : Reader α) (right : Reader β) : Reader (α × β) := fun cs => do
  let inner ← openList cs
  let (a, rest) ← readItem true left inner
  let (b, rest) ← readItem false right rest
  return ((a, b), ← closeList rest)

/-- The text where the next key of an object starts, behind its quote, or nothing before the closing
bracket. -/
def nextKey (first : Bool) (cs : List Char) : Except Fault (Option (List Char)) :=
  match skipSpace cs with
  | [] => .error .truncated
  | c :: rest =>
    if c = '\x7d' then .ok none
    else if first then if c = '"' then .ok (some rest) else .error .malformed
    else if c = ',' then
      match skipSpace rest with
      | [] => .error .truncated
      | '"' :: key => .ok (some key)
      | _ => .error .malformed
    else .error .malformed

/-- The text behind an object all of whose members are read. -/
def closeObject (cs : List Char) : Except Fault (List Char) :=
  match skipSpace cs with
  | [] => .error .truncated
  | '\x7d' :: rest => .ok rest
  | _ => .error .malformed

/-- The members of an object up to its closing bracket. `member` gets what is read so far and a key,
and reads on behind that key. -/
def readMembers {σ : Type} (member : σ → String → Reader σ) : Nat → Bool → σ → Reader σ
  | 0, _, _, _ => .error .truncated
  | fuel + 1, first, state, cs => do
    match ← nextKey first cs with
    | none => return (state, cs)
    | some start =>
      let (key, rest) ← readStringBody start
      let (state, rest) ← member state (String.ofList key) rest
      readMembers member fuel false state rest

/-- A member that stands at most once: a second one is refused before its value is read. -/
def field {α σ : Type} (before : Option α) (value : Reader α) (set : α → σ) : Reader σ := fun cs =>
  if before.isSome then .error .mismatch
  else do
    let (a, rest) ← value (← skipMark ':' cs)
    return (set a, rest)

/-- A member that is not known: its value is skipped. -/
def unknownField {σ : Type} (state : σ) : Reader σ := fun cs => do
  return (state, ← skipValue (← skipMark ':' cs))

/-- The value of a member that has to be there. -/
def required {α : Type} : Option α → Except Fault α
  | some a => .ok a
  | none => .error .mismatch

/-- A record: a list of its fields, or an object whose members fill `start` and are then put
together by `finish`. -/
def readRecord {σ α : Type} (fields : Reader α) (start : σ) (member : σ → String → Reader σ)
    (finish : σ → Except Fault α) : Reader α := fun cs =>
  match skipSpace cs with
  | '[' :: inner => do
    let (record, rest) ← fields inner
    return (record, ← closeList rest)
  | '\x7b' :: inner => do
    let (state, rest) ← readMembers member (inner.length + 1) true start inner
    return (← finish state, ← closeObject rest)
  | _ => .error (mismatchAt cs)

/-- A reader for a whole text: only blanks may follow. -/
def readWholeText {α : Type} (value : Reader α) (cs : List Char) : Except Fault α := do
  let (a, rest) ← value cs
  if (skipSpace rest).isEmpty then return a else throw .malformed

end CircuitBench.Json
