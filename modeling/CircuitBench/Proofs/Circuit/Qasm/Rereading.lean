import CircuitBench.Proofs.Circuit.AngleText
import CircuitBench.Proofs.Circuit.Qasm.Operands
import CircuitBench.Proofs.Circuit.Qasm.Statements

/-!
# Reading undoes writing

The program that is written for a well-formed circuit is read as the same circuit, up to its phase,
which the format has no place for, and up to the rounding of its angles, which are written as
numbers of `pi` and divided by `pi` again (`rereadAngle`). Here this is shown for one statement: a
written declaration declares its register (`addStatement_registerBody`), and a written command is
read as itself (`addStatement_commandBody`).
-/

namespace CircuitBench

/-- An angle after it was written as a number of `pi` and read again. -/
def rereadAngle (x : Float) : Float :=
  x * Number.pi / Number.pi

/-- A command after it was written and read again. -/
def Command.reread (command : Command) : Command :=
  { command with params := command.params.map rereadAngle }

/-- A circuit after it was written and read again. -/
def Circuit.reread (c : Circuit) : Circuit :=
  { c with commands := c.commands.map Command.reread, phase := 0 }

end CircuitBench

namespace CircuitBench.Qasm

open Expression (isNameChar isBlank_of_isNameChar)

/-! ### Keywords -/

/-- A character of a statement's first word. -/
def isWordChar (c : Char) : Bool :=
  !(Text.isBlank c || c == '(' || c == '\x7b')

/-- The characters of names belong to words. -/
lemma isWordChar_of_isNameChar {c : Char} (h : isNameChar c = true) : isWordChar c = true := by
  have hopen : c ≠ '(' := Text.ne_of_class h rfl
  have hcurly : c ≠ '\x7b' := Text.ne_of_class h rfl
  simp [isWordChar, isBlank_of_isNameChar h, hopen, hcurly]

/-- The first word of a statement that starts with a keyword or a gate's name. -/
lemma firstWord_append {word rest : List Char} (hword : word.all isNameChar = true)
    (hrest : Text.Stops isWordChar rest) : firstWord (word ++ rest) = word := by
  apply Text.takeWhile_append (p := isWordChar) _ hrest
  rw [List.all_eq_true] at hword ⊢
  exact fun c hc => isWordChar_of_isNameChar (hword c hc)

/-- A blank ends a word. -/
lemma stops_isWordChar_blank (rest : List Char) : Text.Stops isWordChar (' ' :: rest) :=
  Text.stops_cons.2 (by decide)

/-! ### Registers -/

/-- The keyword that declares registers of a kind. -/
def keyword : UnitKind → List Char
  | .qubit => "qreg".toList
  | .bit => "creg".toList

/-- The name and the size of a written declaration. -/
lemma readDeclaration?_wireText {name : String} (h : isIdentifier name.toList = true) (size : Nat) :
    readDeclaration? (' ' :: wireText ⟨name, size⟩) = some (name.toList, Number.natText size) := by
  have hspan : spanIdentifier? (name.toList ++ '[' :: (Number.natText size ++ [']'])) =
      some (name.toList, '[' :: (Number.natText size ++ [']'])) :=
    spanIdentifier?_append h (Text.stops_cons.2 rfl)
  have htrim : Text.trimStart (wireText ⟨name, size⟩) = wireText ⟨name, size⟩ :=
    Text.trimStart_of_stops (isTrimmed_wireText (w := ⟨name, size⟩) h).front
  have hindex : Text.trimStart ('[' :: (Number.natText size ++ [']'])) =
      '[' :: (Number.natText size ++ [']']) := Text.trimStart_cons_of_not_isBlank (by decide) _
  have hblank : Text.isBlank ' ' = true := by decide
  rw [readDeclaration?, if_pos hblank, htrim, wireText, hspan]
  simp only [Option.bind_eq_bind, Option.bind_some, hindex, readIndex?_natText]
  rfl

/-- A written declaration is checked for its name and for the limit. -/
lemma addRegister_registerBody {c : Circuit} {kind : UnitKind} {r : Register}
    (hidentifier : isIdentifier r.name.toList = true) (hword : r.size < Number.word32)
    (line : Nat) (word : List Char) :
    addRegister c line kind word (registerBody word r) =
      if (c.qreg? r.name).isSome || (c.creg? r.name).isSome then fault line (.declaredTwice r.name)
      else if unitLimit < unitCount ((c.declare r kind).registers kind) then
        fault line (.tooManyUnits (unitCount ((c.declare r kind).registers kind)))
      else .ok (c.declare r kind) := by
  unfold addRegister registerBody
  rw [List.drop_left, readDeclaration?_wireText hidentifier]
  dsimp only
  rw [Number.readNat?_natText hword, String.ofList_toList]

/-- A statement whose first word declares registers is a declaration. -/
lemma addStatement_of_keyword {c : Circuit} {kind : UnitKind} {text : List Char}
    (hword : firstWord text = keyword kind) (line position : Nat) :
    addStatement c position ⟨line, text, true⟩ = addRegister c line kind (keyword kind) text := by
  unfold addStatement
  dsimp only
  rw [hword]
  cases kind <;> rfl

/-- The first word of a written declaration. -/
lemma firstWord_registerBody (kind : UnitKind) (r : Register) :
    firstWord (registerBody (keyword kind) r) = keyword kind :=
  firstWord_append (by cases kind <;> rfl) (stops_isWordChar_blank _)

/-- The statement that declares a register adds it, if the name is new and the limit is kept. -/
lemma addStatement_registerBody {c : Circuit} {kind : UnitKind} {r : Register}
    (hidentifier : isIdentifier r.name.toList = true)
    (hnew : r.name ∉ (c.qregs ++ c.cregs).map Register.name)
    (hle : unitCount ((c.declare r kind).registers kind) ≤ unitLimit) (line position : Nat) :
    addStatement c position ⟨line, registerBody (keyword kind) r, true⟩ =
      .ok (c.declare r kind) := by
  have hmem : r ∈ (c.declare r kind).registers kind := by
    cases kind <;> simp [Circuit.declare, Circuit.registers]
  have hword : r.size < Number.word32 :=
    (size_le_unitCount hmem).trans_lt (hle.trans_lt (by decide))
  rw [List.map_append, List.mem_append, not_or] at hnew
  have hqreg : (c.qreg? r.name).isSome = false := by
    rw [← Bool.not_eq_true, Circuit.qreg?, findRegister?_isSome_iff]
    exact hnew.1
  have hcreg : (c.creg? r.name).isSome = false := by
    rw [← Bool.not_eq_true, Circuit.creg?, findRegister?_isSome_iff]
    exact hnew.2
  rw [addStatement_of_keyword (firstWord_registerBody kind r),
    addRegister_registerBody hidentifier hword, hqreg, hcreg, if_neg (by decide),
    if_neg (Nat.not_lt.2 hle)]

/-! ### Commands with keywords -/

/-- A statement whose first word is the keyword of measurements is one. -/
lemma addStatement_of_measure {c : Circuit} {text : List Char}
    (hword : firstWord text = "measure".toList) (line position : Nat) :
    addStatement c position ⟨line, text, true⟩ =
      (readMeasure c line (text.drop "measure".toList.length)).map c.push := by
  unfold addStatement
  dsimp only
  rw [hword]
  rfl

/-- A statement whose first word is the keyword of barriers is one. -/
lemma addStatement_of_barrier {c : Circuit} {text : List Char}
    (hword : firstWord text = "barrier".toList) (line position : Nat) :
    addStatement c position ⟨line, text, true⟩ =
      (resolveQubits c line (text.drop "barrier".toList.length)).map fun qubits =>
        c.push ⟨barrierOp, [], qubits⟩ := by
  unfold addStatement
  dsimp only
  rw [hword]
  rfl

/-- A statement whose first word is the keyword of resets is one. -/
lemma addStatement_of_reset {c : Circuit} {text : List Char}
    (hword : firstWord text = "reset".toList) (line position : Nat) :
    addStatement c position ⟨line, text, true⟩ =
      (resolveQubits c line (text.drop "reset".toList.length)).bind fun qubits =>
        if qubits.length ≠ 1 then fault line .resetArity
        else .ok (c.push ⟨resetOp, [], qubits⟩) := by
  unfold addStatement
  dsimp only
  rw [hword]
  rfl

/-- The statement of a measurement. -/
lemma commandBody_measure (params : List Float) (qubit bit : Wire) :
    commandBody ⟨measureOp, params, [qubit, bit]⟩ =
      "measure".toList ++ ' ' :: Text.join " -> ".toList [wireText qubit, wireText bit] := rfl

/-- The statement of a barrier. -/
lemma commandBody_barrier (params : List Float) (args : List Wire) :
    commandBody ⟨barrierOp, params, args⟩ = "barrier".toList ++ ' ' :: wiresText args := rfl

/-- The statement of a reset. -/
lemma commandBody_reset (params : List Float) (args : List Wire) :
    commandBody ⟨resetOp, params, args⟩ = "reset".toList ++ ' ' :: wiresText args := rfl

/-- The operands of a written measurement are resolved one after the other. -/
lemma readMeasure_wireTexts {c : Circuit} {qubit bit : Wire}
    (hqubit : isIdentifier qubit.register.toList = true)
    (hbit : isIdentifier bit.register.toList = true) (line : Nat) :
    readMeasure c line (' ' :: Text.join " -> ".toList [wireText qubit, wireText bit]) =
      (resolve c line .qubit (wireText qubit ++ [' '])).bind fun q =>
        (resolve c line .bit (' ' :: wireText bit)).bind fun b =>
          .ok ⟨measureOp, [], [q, b]⟩ := by
  have htrimQubit := isTrimmed_wireText hqubit
  have htrimBit := isTrimmed_wireText hbit
  have hjoin : Text.join " -> ".toList [wireText qubit, wireText bit] =
      (wireText qubit ++ [' ']) ++ ['-', '>'] ++ (' ' :: wireText bit) := by
    rw [Text.join_cons_cons, Text.join_singleton]
    simp
  have htrim : Text.trim (' ' :: Text.join " -> ".toList [wireText qubit, wireText bit]) =
      Text.join " -> ".toList [wireText qubit, wireText bit] := by
    rw [Text.join_cons_cons, Text.join_singleton, List.append_assoc]
    exact Text.IsTrimmed.trim_cons (htrimQubit.between (wireText_ne_nil qubit) _ htrimBit
      (wireText_ne_nil bit)) (by decide)
  have hdash : '-' ∉ wireText qubit ++ [' '] := by
    rw [List.mem_append, not_or]
    exact ⟨fun h => absurd (mem_wireText hqubit h) (by decide), by decide⟩
  unfold readMeasure
  rw [htrim, hjoin, Text.splitAt?_append hdash]
  rfl

/-- The blank behind a written unit does not count. -/
lemma trim_wireText_append {w : Wire} (h : isIdentifier w.register.toList = true) :
    Text.trim (wireText w ++ [' ']) = wireText w :=
  (isTrimmed_wireText h).trim_append (wireText_ne_nil w) (by decide)

/-- The blank in front of a written unit does not count. -/
lemma trim_cons_wireText {w : Wire} (h : isIdentifier w.register.toList = true) :
    Text.trim (' ' :: wireText w) = wireText w :=
  (isTrimmed_wireText h).trim_cons (by decide)

/-- The blank in front of written units does not count. -/
lemma trim_cons_wiresText {ws : List Wire} (h : ∀ w ∈ ws, isIdentifier w.register.toList = true) :
    Text.trim (' ' :: wiresText ws) = wiresText ws :=
  (isTrimmed_wiresText h).trim_cons (by decide)

/-- The statement of a measurement adds it. -/
lemma addStatement_measure {c : Circuit} {qubit bit : Wire} (hc : c.WellFormed)
    (hqubit : qubit ∈ c.qubits) (hbit : bit ∈ c.bits) (line position : Nat) :
    addStatement c position ⟨line, commandBody ⟨measureOp, [], [qubit, bit]⟩, true⟩ =
      .ok (c.push ⟨measureOp, [], [qubit, bit]⟩) := by
  have hqubits := hc.resolvable .qubit
  have hbits := hc.resolvable .bit
  have hqubitId := hqubits.isIdentifier hqubit
  have hbitId := hbits.isIdentifier hbit
  have hword : firstWord ("measure".toList ++
      ' ' :: Text.join " -> ".toList [wireText qubit, wireText bit]) = "measure".toList :=
    firstWord_append rfl (stops_isWordChar_blank _)
  rw [commandBody_measure, addStatement_of_measure hword, List.drop_left,
    readMeasure_wireTexts hqubitId hbitId,
    resolve_of_trim hqubits hqubit line (trim_wireText_append hqubitId)]
  dsimp only [Except.bind]
  rw [resolve_of_trim hbits hbit line (trim_cons_wireText hbitId)]
  rfl

/-- Written qubits behind a blank are found. -/
lemma resolveQubits_wiresText {c : Circuit} {ws : List Wire} (hc : c.WellFormed) (hne : ws ≠ [])
    (hws : ∀ w ∈ ws, w ∈ c.qubits) (line : Nat) :
    resolveQubits c line (' ' :: wiresText ws) = .ok ws := by
  have hqubits := hc.resolvable .qubit
  exact resolveQubits_of_trim hqubits hne hws line
    (trim_cons_wiresText fun w hw => hqubits.isIdentifier (hws w hw))

/-- The statement of a barrier adds it. -/
lemma addStatement_barrier {c : Circuit} {args : List Wire} (hc : c.WellFormed) (hne : args ≠ [])
    (hargs : ∀ w ∈ args, w ∈ c.qubits) (line position : Nat) :
    addStatement c position ⟨line, commandBody ⟨barrierOp, [], args⟩, true⟩ =
      .ok (c.push ⟨barrierOp, [], args⟩) := by
  have hword : firstWord ("barrier".toList ++ ' ' :: wiresText args) = "barrier".toList :=
    firstWord_append rfl (stops_isWordChar_blank _)
  rw [commandBody_barrier, addStatement_of_barrier hword, List.drop_left,
    resolveQubits_wiresText hc hne hargs]
  rfl

/-- The statement of a reset adds it. -/
lemma addStatement_reset {c : Circuit} {qubit : Wire} (hc : c.WellFormed)
    (hqubit : qubit ∈ c.qubits) (line position : Nat) :
    addStatement c position ⟨line, commandBody ⟨resetOp, [], [qubit]⟩, true⟩ =
      .ok (c.push ⟨resetOp, [], [qubit]⟩) := by
  have hword : firstWord ("reset".toList ++ ' ' :: wiresText [qubit]) = "reset".toList :=
    firstWord_append rfl (stops_isWordChar_blank _)
  rw [commandBody_reset, addStatement_of_reset hword, List.drop_left,
    resolveQubits_wiresText hc (List.cons_ne_nil qubit []) (by simpa using hqubit)]
  rfl

/-! ### Gates -/

/-- The name of a gate is none of the keywords. -/
lemma Gate.name_ne_keyword : ∀ gate ∈ Gate.all, isUnsupportedKeyword gate.name = false ∧
    gate.name ∉ ["OPENQASM", "include", "qreg", "creg", "measure", "barrier", "reset"] := by
  decide

/-- A statement whose first word is the name of a gate is the application of a gate. -/
lemma addStatement_of_gate {c : Circuit} {gate : Gate} {text : List Char} (hgate : gate ∈ Gate.all)
    (hword : firstWord text = gate.name.toList) (line position : Nat) :
    addStatement c position ⟨line, text, true⟩ = (readGate c line text).map c.push := by
  obtain ⟨hsupported, hkeyword⟩ := Gate.name_ne_keyword gate hgate
  unfold addStatement
  dsimp only
  rw [hword, String.ofList_toList, hsupported, if_neg (by decide)]
  simp only [List.mem_cons, List.not_mem_nil, or_false, not_or] at hkeyword
  obtain ⟨h1, h2, h3, h4, h5, h6, h7⟩ := hkeyword
  split <;> first | contradiction | rfl

/-- The text before and after the last closing bracket. -/
lemma splitAtLastClose?_append {inner after : List Char} (h : ')' ∉ after) :
    splitAtLastClose? (inner ++ ')' :: after) = some (inner, after) := by
  have hreverse : (inner ++ ')' :: after).reverse = after.reverse ++ ')' :: inner.reverse := by
    simp
  have hall : after.reverse.all (· != ')') = true := by
    rw [List.all_eq_true]
    intro c hc
    rw [bne_iff_ne]
    rintro rfl
    exact h (List.mem_reverse.1 hc)
  have hstop : Text.Stops (· != ')') (')' :: inner.reverse) := Text.stops_cons.2 (by decide)
  unfold splitAtLastClose?
  dsimp only
  rw [hreverse, Text.takeWhile_append hall hstop, Text.dropWhile_append hall hstop]
  simp

/-- A gate without parameters, taken apart. -/
lemma readApplication?_operands {name operands : List Char} (hname : isIdentifier name = true)
    (hoperands : operands.any isRoundBracket = false) (htrim : Text.IsTrimmed operands) :
    readApplication? (name ++ ' ' :: operands) = some ⟨name, none, operands⟩ := by
  have hblank : Text.trimStart (' ' :: operands) = operands := by
    rw [Text.trimStart_cons_of_isBlank (by decide), Text.trimStart_of_stops htrim.front]
  unfold readApplication?
  rw [spanIdentifier?_append hname (Text.stops_cons.2 rfl)]
  simp only [Option.bind_eq_bind, Option.bind_some, hblank]
  split
  · cases hoperands
  · rw [hoperands, if_neg (by decide)]

/-- A gate with parameters, taken apart. -/
lemma readApplication?_params {name params operands : List Char} (hname : isIdentifier name = true)
    (hoperands : operands.any isRoundBracket = false) :
    readApplication? (name ++ '(' :: (params ++ ')' :: operands)) =
      some ⟨name, some params, operands⟩ := by
  have hclose : ')' ∉ operands := by
    intro hmem
    exact absurd (List.any_eq_true.2 ⟨_, hmem, rfl⟩) (by rw [hoperands]; decide)
  have hopen : Text.trimStart ('(' :: (params ++ ')' :: operands)) =
      '(' :: (params ++ ')' :: operands) := Text.trimStart_cons_of_not_isBlank (by decide) _
  unfold readApplication?
  rw [spanIdentifier?_append hname (Text.stops_cons.2 rfl)]
  simp only [Option.bind_eq_bind, Option.bind_some, hopen, splitAtLastClose?_append hclose]
  rw [hoperands, if_neg (by decide)]

/-- The characters of written angles. -/
def isAngleChar (c : Char) : Bool :=
  c.isDigit || c == '.' || c == '-' || c == '*' || c == 'p' || c == 'i'

/-- The characters of a written angle. -/
lemma mem_paramText {x : Float} (h : Number.isFinite x = true) {c : Char} (hc : c ∈ paramText x) :
    isAngleChar c = true := by
  obtain ⟨units, -, whole, fraction, htext, hwhole, hfraction, -⟩ :=
    Number.denotesUnits_magnitudeText x
  have hmagnitude : ∀ d ∈ Number.magnitudeText x, isAngleChar d = true := by
    intro d hd
    rw [htext] at hd
    rcases Number.mem_numeral hwhole hfraction hd with hd | rfl
    · simp [isAngleChar, hd]
    · rfl
  unfold paramText at hc
  rw [Number.plainText_eq h, List.mem_append] at hc
  rcases hc with hc | hc
  · unfold Number.signed at hc
    split_ifs at hc
    · rcases List.mem_cons.1 hc with rfl | hc
      · rfl
      · exact hmagnitude c hc
    · exact hmagnitude c hc
  · simp only [List.mem_cons, List.not_mem_nil, or_false] at hc
    rcases hc with rfl | rfl | rfl <;> rfl

/-- A written angle is no blank text. -/
lemma paramText_ne_nil (x : Float) : paramText x ≠ [] := by
  simp [paramText]

/-- No character of an angle is blank. -/
lemma isBlank_of_isAngleChar {c : Char} (h : isAngleChar c = true) : Text.isBlank c = false := by
  unfold isAngleChar at h
  simp only [Bool.or_eq_true, beq_iff_eq] at h
  rcases h with ((((h | rfl) | rfl) | rfl) | rfl) | rfl
  · exact Text.isBlank_of_isDigit h
  all_goals decide

/-- A written angle is read as a number of half-turns. -/
lemma readParam_paramText {x : Float} (h : Number.isFinite x = true) (line : Nat) :
    readParam line (paramText x) = .ok (rereadAngle x) := by
  rw [readParam, paramText, evaluate_plainText_pi h, rereadAngle]

/-- Written angles are read, as many as there are. -/
lemma readParams_paramTexts {params : List Float} (hne : params ≠ [])
    (h : ∀ x ∈ params, Number.isFinite x = true) (line : Nat) :
    readParams line (some (Text.join [','] (params.map paramText))) =
      .ok (params.map rereadAngle) := by
  have htrim : Text.IsTrimmed (Text.join [','] (params.map paramText)) := by
    apply Text.isTrimmed_of_all
    intro c hc
    rcases Text.mem_join hc with hc | ⟨piece, hpiece, hc⟩
    · rw [List.mem_singleton.1 hc]
      decide
    · obtain ⟨x, hx, rfl⟩ := List.mem_map.1 hpiece
      exact isBlank_of_isAngleChar (mem_paramText (h x hx) hc)
  have hnonempty : Text.join [','] (params.map paramText) ≠ [] := by
    obtain ⟨x, others, rfl⟩ := List.exists_cons_of_ne_nil hne
    obtain ⟨rest, hrest⟩ := Text.exists_join_cons [','] (paramText x) (others.map paramText)
    rw [List.map_cons, hrest]
    simp [paramText_ne_nil]
  have hpieces : Text.splitOnChar ',' (Text.join [','] (params.map paramText)) =
      params.map paramText := by
    apply Text.splitOnChar_join (by simpa using hne)
    intro piece hpiece
    obtain ⟨x, hx, rfl⟩ := List.mem_map.1 hpiece
    intro hc
    exact absurd (mem_paramText (h x hx) hc) (by decide)
  rw [readParams, htrim.trim_eq, if_neg (by simpa using hnonempty), hpieces, List.mapM_map]
  exact mapM_eq_ok fun x hx => readParam_paramText (h x hx) line

/-- Written operands have no round brackets. -/
lemma any_isRoundBracket_wiresText {ws : List Wire}
    (h : ∀ w ∈ ws, isIdentifier w.register.toList = true) :
    (wiresText ws).any isRoundBracket = false := by
  rw [List.any_eq_false]
  intro c hc
  rcases mem_wiresText h hc with hc | rfl
  · have hopen : c ≠ '(' := Text.ne_of_class hc (by decide)
    have hclose : c ≠ ')' := Text.ne_of_class hc (by decide)
    simp [isRoundBracket, hopen, hclose]
  · decide

/-- The parts of a written gate are its name, its angles and its operands. -/
lemma exists_readApplication?_eq {name : List Char} {params : List Float} {args : List Wire}
    (hname : isIdentifier name = true)
    (hids : ∀ w ∈ args, isIdentifier w.register.toList = true)
    (hfinite : ∀ x ∈ params, Number.isFinite x = true) (line : Nat) :
    ∃ application, readApplication? (name ++ (paramsText params ++ ' ' :: wiresText args)) =
        some application ∧ application.gate = name ∧
      readParams line application.params = .ok (params.map rereadAngle) ∧
      Text.trim application.operands = wiresText args := by
  have hbrackets := any_isRoundBracket_wiresText hids
  have htrim := isTrimmed_wiresText hids
  by_cases hempty : params = []
  · rw [hempty]
    exact ⟨_, readApplication?_operands hname hbrackets htrim, rfl, rfl, htrim.trim_eq⟩
  · have htext : paramsText params ++ ' ' :: wiresText args =
        '(' :: (Text.join [','] (params.map paramText) ++ ')' :: ' ' :: wiresText args) := by
      rw [paramsText, if_neg (by simpa using hempty)]
      simp
    rw [htext]
    exact ⟨_, readApplication?_params hname (by rw [List.any_cons, hbrackets]; decide), rfl,
      readParams_paramTexts hempty hfinite line, trim_cons_wiresText hids⟩

/-- The statement of a gate, without its semicolon. -/
lemma commandBody_gate {gate : Gate} {op : String} (hgate : Gate.byOp? op = some gate)
    (params : List Float) (args : List Wire) : commandBody ⟨op, params, args⟩ =
      gate.name.toList ++ (paramsText params ++ ' ' :: wiresText args) := by
  obtain ⟨hmem, rfl⟩ := Gate.of_byOp?_eq_some hgate
  obtain ⟨hmeasure, hbarrier, hreset⟩ := Gate.op_ne gate hmem
  simp [commandBody, hmeasure, hbarrier, hreset, hgate]

/-- A gate is written with some qubit. -/
lemma args_ne_nil {gate : Gate} {args : List Wire} (hgate : gate ∈ Gate.all)
    (hcount : args.length = gate.qubits) : args ≠ [] := by
  intro hnil
  rw [hnil] at hcount
  exact absurd (Gate.qubits_pos gate hgate) (by rw [← hcount]; decide)

/-- A written gate is read with its own angles, and with whatever qubits its operands are found to
be, as many as the gate takes and no two the same. -/
lemma exists_readGate_iff {gate : Gate} {params : List Float} {args : List Wire}
    (hgate : gate ∈ Gate.all) (hparams : params.length = gate.params)
    (hids : ∀ w ∈ args, isIdentifier w.register.toList = true)
    (hfinite : ∀ x ∈ params, Number.isFinite x = true) (c : Circuit) (line : Nat) :
    ∃ operands, Text.trim operands = wiresText args ∧ ∀ command,
      readGate c line (gate.name.toList ++ (paramsText params ++ ' ' :: wiresText args)) =
        .ok command ↔
      ∃ ws, resolveQubits c line operands = .ok ws ∧ ws.length = gate.qubits ∧ ws.Nodup ∧
        command = ⟨gate.op, params.map rereadAngle, ws⟩ := by
  obtain ⟨application, hread, hname, hreadParams, htrim⟩ :=
    exists_readApplication?_eq (Gate.isIdentifier_name gate hgate) hids hfinite line
  refine ⟨application.operands, htrim, fun command => ?_⟩
  have hcount : (params.map rereadAngle).length = gate.params := by rw [List.length_map, hparams]
  unfold readGate
  rw [hread]
  dsimp only
  rw [hname, String.ofList_toList, Gate.byName?_name gate hgate]
  dsimp only
  rw [hreadParams]
  dsimp only [Bind.bind, Except.bind]
  rw [if_neg (by simpa using hcount)]
  rcases resolveQubits c line application.operands with e | ws
  · simp
  · by_cases hlength : ws.length = gate.qubits
    · rcases hrepeated : firstRepeated? [] ws with _ | qubit
      · have hnodup := (firstRepeated?_eq_none_iff.1 hrepeated).1
        simp [hlength, hrepeated, hnodup, pure, Except.pure, eq_comm]
      · have hnot : ¬ ws.Nodup := by
          intro hnodup
          rw [firstRepeated?_eq_none_iff.2 ⟨hnodup, by simp⟩] at hrepeated
          cases hrepeated
        simp [hlength, hrepeated, hnot, fault]
    · simp [hlength, fault]

/-- The statement of a gate is read as the application of this gate. -/
lemma addStatement_gateText {gate : Gate} (hgate : gate ∈ Gate.all) (params : List Float)
    (args : List Wire) (c : Circuit) (line position : Nat) :
    addStatement c position
        ⟨line, gate.name.toList ++ (paramsText params ++ ' ' :: wiresText args), true⟩ =
      (readGate c line (gate.name.toList ++ (paramsText params ++ ' ' :: wiresText args))).map
        c.push := by
  have hstop : Text.Stops isWordChar (paramsText params ++ ' ' :: wiresText args) := by
    unfold paramsText
    split_ifs
    · exact stops_isWordChar_blank _
    · exact Text.stops_cons.2 (by decide)
  exact addStatement_of_gate hgate
    (firstWord_append (all_of_isIdentifier (Gate.isIdentifier_name gate hgate)) hstop) line position

/-- The statement of a gate adds it. -/
lemma addStatement_gate {c : Circuit} {gate : Gate} {op : String} {params : List Float}
    {args : List Wire} (hc : c.WellFormed) (hgate : Gate.byOp? op = some gate)
    (hparams : params.length = gate.params) (hcount : args.length = gate.qubits)
    (hnodup : args.Nodup) (hargs : ∀ w ∈ args, w ∈ c.qubits)
    (hfinite : ∀ x ∈ params, Number.isFinite x = true) (line position : Nat) :
    addStatement c position ⟨line, commandBody ⟨op, params, args⟩, true⟩ =
      .ok (c.push ⟨op, params.map rereadAngle, args⟩) := by
  have hbody := commandBody_gate hgate params args
  obtain ⟨hmem, rfl⟩ := Gate.of_byOp?_eq_some hgate
  have hids : ∀ w ∈ args, isIdentifier w.register.toList = true := fun w hw =>
    (hc.resolvable .qubit).isIdentifier (hargs w hw)
  obtain ⟨operands, htrim, hread⟩ := exists_readGate_iff hmem hparams hids hfinite c line
  have hresolve := resolveQubits_of_trim (hc.resolvable .qubit) (args_ne_nil hmem hcount) hargs line
    htrim
  rw [hbody, addStatement_gateText hmem, (hread _).2 ⟨args, hresolve, hcount, hnodup, rfl⟩]
  rfl

/-- The statement of an expressible command adds the command, its angles read again. -/
lemma addStatement_commandBody {c : Circuit} {command : Command} (hc : c.WellFormed)
    (h : c.Expressible command) (hfinite : ∀ x ∈ command.params, Number.isFinite x = true)
    (line position : Nat) :
    addStatement c position ⟨line, commandBody command, true⟩ = .ok (c.push command.reread) := by
  cases h with
  | measure hqubit hbit => exact addStatement_measure hc hqubit hbit line position
  | barrier hne hargs => exact addStatement_barrier hc hne hargs line position
  | reset hqubit => exact addStatement_reset hc hqubit line position
  | gate hgate hparams hcount hnodup hargs =>
    exact addStatement_gate hc hgate hparams hcount hnodup hargs hfinite line position

end CircuitBench.Qasm
