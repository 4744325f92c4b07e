import CircuitBench.Json.Token

/-!
# Skipping JSON values

`skipValue` reads over the value of an unknown member without keeping it. Nesting is not limited
here, numbers may have any size, and a number that ends with the text is malformed.
-/

namespace CircuitBench.Json

/-- Where the skipping of a string stands. -/
inductive SkipState where
  | text
  | escape
  | hex (left : Nat)

/-- The text behind a closing quote; escapes are checked for their shape only. -/
def skipStringFrom : SkipState → List Char → Except Fault (List Char)
  | _, [] => .error .truncated
  | .text, c :: rest =>
    if c = '"' then .ok rest
    else if c = '\\' then skipStringFrom .escape rest
    else if c.toNat < 0x20 then .error .malformed
    else skipStringFrom .text rest
  | .escape, c :: rest =>
    if c = 'u' then
      if hasBytes 4 rest then skipStringFrom (.hex 4) rest else .error .truncated
    else if (escaped? c).isSome then skipStringFrom .text rest
    else .error .malformed
  | .hex left, c :: rest =>
    if (hexValue? c).isNone then .error .malformed
    else if 1 < left then skipStringFrom (.hex (left - 1)) rest
    else skipStringFrom .text rest

/-- A container that is open. -/
inductive Container where
  | list
  | object
deriving DecidableEq, Repr

/-- The text behind a value that is no container. -/
def skipScalar (c : Char) (rest : List Char) : Except Fault (List Char) :=
  if c = 'n' then (readWord ['u', 'l', 'l'] rest).map Prod.snd
  else if c = 't' then (readWord ['r', 'u', 'e'] rest).map Prod.snd
  else if c = 'f' then (readWord ['a', 'l', 's', 'e'] rest).map Prod.snd
  else if c = '"' then skipStringFrom .text rest
  else if startsNumber c then
    match scanNumber (c :: rest) with
    | .ok (_, rest) => .ok rest
    | .error _ => .error .malformed
  else .error .malformed

/-- The text behind the next character that is not blank, which must be the one given. -/
def skipMark (mark : Char) (cs : List Char) : Except Fault (List Char) :=
  match skipSpace cs with
  | [] => .error .truncated
  | c :: rest => if c = mark then .ok rest else .error .malformed

/-- The text behind a key and its colon. -/
def skipKey (cs : List Char) : Except Fault (List Char) := do
  skipMark ':' (← skipStringFrom .text (← skipMark '"' cs))

/-- The start of the next item: in an object its value, behind the key. -/
def skipToItem (container : Container) (cs : List Char) : Except Fault (List Char) :=
  match container with
  | .list => .ok cs
  | .object => skipKey cs

/-- The bracket that ends a container. -/
def Container.close : Container → Char
  | .list => ']'
  | .object => '\x7d'

/-- The text behind a value and the containers around it. With `pending` a value comes next, without
it one has just ended. Each turn uses up a character, so the text's length is fuel enough. -/
def skipFrom : Nat → Bool → List Container → List Char → Except Fault (List Char)
  | 0, _, _, _ => .error .truncated
  | _ + 1, false, [], cs => .ok cs
  | fuel + 1, false, container :: outer, cs =>
    match skipSpace cs with
    | [] => .error .truncated
    | c :: rest =>
      if c = ',' then do
        skipFrom fuel true (container :: outer) (← skipToItem container rest)
      else if c = container.close then skipFrom fuel false outer rest
      else .error .malformed
  | fuel + 1, true, outer, cs =>
    match skipSpace cs with
    | [] => .error .truncated
    | c :: rest =>
      match (if c = '[' then some Container.list
        else if c = '\x7b' then some .object else none) with
      | none => do skipFrom fuel false outer (← skipScalar c rest)
      | some container =>
        match skipSpace rest with
        | [] => .error .truncated
        | next :: behind =>
          if next = container.close then skipFrom fuel false outer behind
          else do skipFrom fuel true (container :: outer) (← skipToItem container (next :: behind))

/-- The text behind the value in front. -/
def skipValue (cs : List Char) : Except Fault (List Char) :=
  skipFrom (2 * cs.length + 2) true [] cs

end CircuitBench.Json
