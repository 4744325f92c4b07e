import CircuitBench.Text.CaseTable

/-!
# Lower case

`lowerCase` is the lower case of a text. Two letters need more than a table: the capital I with a
dot becomes two characters, and a capital sigma takes its final form at the end of a word, where a
cased character stands before it and none behind it.
-/

namespace CircuitBench.Text

/-- Whether a character lies in one of some ranges. -/
def inRanges (ranges : List (Nat × Nat)) (c : Char) : Bool :=
  ranges.any fun (first, last) => first ≤ c.toNat && c.toNat ≤ last

/-- Characters with case, those that are passed over left out. -/
def isCased (c : Char) : Bool :=
  inRanges casedRanges c

/-- Characters that are passed over when the case of a neighbour is asked for. -/
def isCaseIgnorable (c : Char) : Bool :=
  inRanges caseIgnorableRanges c

/-- Whether a run covers a character. -/
def LowerRun.covers (r : LowerRun) (n : Nat) : Bool :=
  r.first ≤ n && n ≤ r.last && (n - r.first) % r.step = 0

/-- The lower case of a character on its own. -/
def lowerChar (c : Char) : List Char :=
  if c = 'İ' then ['i', '\u0307']
  else match lowerRuns.find? (·.covers c.toNat) with
    | some r => [Char.ofNat (c.toNat + r.shift).toNat]
    | none => [c]

/-- Whether the first character that is not passed over is cased. -/
def startsCased (cs : List Char) : Bool :=
  match cs.dropWhile isCaseIgnorable with
  | [] => false
  | c :: _ => isCased c

/-- Whether a place ends a word; the text before it is given backwards. -/
def isWordFinal (before after : List Char) : Bool :=
  startsCased before && !startsCased after

/-- The lower case of a text behind the characters in `before`, which stand backwards. -/
def lowerFrom (before : List Char) : List Char → List Char
  | [] => []
  | c :: rest =>
    let here := if c = 'Σ' then [if isWordFinal before rest then 'ς' else 'σ'] else lowerChar c
    here ++ lowerFrom (c :: before) rest

/-- The lower case of a text. -/
def lowerCase (cs : List Char) : List Char :=
  lowerFrom [] cs

end CircuitBench.Text
