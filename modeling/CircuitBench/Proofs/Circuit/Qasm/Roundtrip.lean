import CircuitBench.Proofs.Circuit.Qasm.Rereading

/-!
# The round trip of OpenQASM programs

The program of a well-formed circuit has one statement a line. Read in order, the declarations
rebuild the registers (`addStatements_registers`), and the commands follow on the registers that are
all there by then (`addStatements_commands`). So the program of a circuit whose angles are finite is
read as this circuit (`readProgram_programText`).
-/

namespace CircuitBench

/-- All parameters of a circuit's commands are finite. -/
def Circuit.FiniteAngles (c : Circuit) : Prop :=
  ∀ command ∈ c.commands, ∀ x ∈ command.params, Number.isFinite x = true

instance (c : Circuit) : Decidable c.FiniteAngles :=
  inferInstanceAs (Decidable
    (∀ command ∈ c.commands, ∀ x ∈ command.params, Number.isFinite x = true))

/-- Reading a command again does not change what it needs. -/
lemma Circuit.Expressible.reread {c : Circuit} {command : Command} (h : c.Expressible command) :
    c.Expressible command.reread := by
  cases h with
  | measure hqubit hbit => exact .measure hqubit hbit
  | barrier hne hargs => exact .barrier hne hargs
  | reset hqubit => exact .reset hqubit
  | gate hgate hparams hcount hnodup hargs =>
    exact .gate hgate (by rw [List.length_map, hparams]) hcount hnodup hargs

end CircuitBench

namespace CircuitBench.Qasm

/-! ### Statement texts -/

/-- The characters of a class that has none of the separators are clean. -/
lemma isClean_of_class {p : Char → Bool} {cs : List Char} (h : ∀ c ∈ cs, p c = true)
    (hp : [';', '/', '\n', '\r'].any p = false) : IsClean cs := by
  intro c hc
  have hne : ∀ d ∈ [';', '/', '\n', '\r'], c ≠ d := by
    intro d hd
    exact Text.ne_of_class (h c hc) (by simpa using List.any_eq_false.1 hp d hd)
  exact ⟨hne _ (by simp), hne _ (by simp), hne _ (by simp), hne _ (by simp)⟩

/-- Words are clean. -/
lemma isClean_of_all {word : List Char} (h : word.all Expression.isNameChar = true) :
    IsClean word :=
  isClean_of_class (List.all_eq_true.1 h) (by decide)

/-- Words have no blanks at their ends. -/
lemma isTrimmed_of_all_isNameChar {word : List Char} (h : word.all Expression.isNameChar = true) :
    Text.IsTrimmed word :=
  Text.isTrimmed_of_all fun c hc => Expression.isBlank_of_isNameChar (List.all_eq_true.1 h c hc)

/-- Written units are clean. -/
lemma isClean_wireText {w : Wire} (h : isIdentifier w.register.toList = true) :
    IsClean (wireText w) :=
  isClean_of_class (fun _ hc => mem_wireText h hc) (by decide)

/-- Lists of written units are clean. -/
lemma isClean_wiresText {ws : List Wire} (h : ∀ w ∈ ws, isIdentifier w.register.toList = true) :
    IsClean (wiresText ws) :=
  isClean_of_class (p := fun c => isOperandChar c || c == ',')
    (fun _ hc => by simpa using mem_wiresText h hc) (by decide)

/-- Written parameters are clean. -/
lemma isClean_paramsText {params : List Float} (h : ∀ x ∈ params, Number.isFinite x = true) :
    IsClean (paramsText params) := by
  have hjoin : ∀ c ∈ Text.join [','] (params.map paramText),
      (isAngleChar c || c == ',') = true := by
    intro c hc
    rcases Text.mem_join hc with hc | ⟨piece, hpiece, hc⟩
    · rw [List.mem_singleton.1 hc]
      decide
    · obtain ⟨x, hx, rfl⟩ := List.mem_map.1 hpiece
      rw [mem_paramText (h x hx) hc]
      rfl
  unfold paramsText
  split_ifs
  · exact fun c hc => absurd hc List.not_mem_nil
  · rw [← List.cons_append, ← List.singleton_append, isClean_append, isClean_append]
    exact ⟨⟨by decide, isClean_of_class hjoin (by decide)⟩, by decide⟩

/-- A keyword and operands behind a blank make the text of a statement. -/
lemma isStatementText_append {word middle operands : List Char}
    (hword : word.all Expression.isNameChar = true) (hwordne : word ≠ []) (hmiddle : IsClean middle)
    (htrim : Text.IsTrimmed operands) (hne : operands ≠ []) (hclean : IsClean operands) :
    IsStatementText (word ++ (middle ++ operands)) := by
  refine ⟨by simp [hwordne], ?_, ?_⟩
  · exact (isTrimmed_of_all_isNameChar hword).between hwordne middle htrim hne
  · rw [isClean_append, isClean_append]
    exact ⟨isClean_of_all hword, hmiddle, hclean⟩

/-- A blank is clean. -/
lemma isClean_blank : IsClean [' '] := by
  decide

/-- A written declaration is the text of a statement. -/
lemma isStatementText_registerBody {r : Register} (h : isIdentifier r.name.toList = true)
    (kind : UnitKind) : IsStatementText (registerBody (keyword kind) r) := by
  have hoperand : isIdentifier (Wire.mk r.name r.size).register.toList = true := h
  exact isStatementText_append (by cases kind <;> decide) (by cases kind <;> decide) isClean_blank
    (isTrimmed_wireText hoperand) (wireText_ne_nil _) (isClean_wireText hoperand)

/-- A written command with operands is the text of a statement. -/
lemma isStatementText_commandBody {command : Command} (h : command.Writable)
    (hids : ∀ w ∈ command.args, isIdentifier w.register.toList = true)
    (hfinite : ∀ x ∈ command.params, Number.isFinite x = true) (hne : command.args ≠ []) :
    IsStatementText (commandBody command) := by
  cases h with
  | measure params qubit bit =>
    have hbit := hids bit (by simp)
    have hbody : commandBody ⟨measureOp, params, [qubit, bit]⟩ =
        "measure".toList ++ ((' ' :: wireText qubit ++ " -> ".toList) ++ wireText bit) := by
      simp [commandBody, Text.join, List.intersperse]
    rw [hbody]
    refine isStatementText_append rfl (by decide) ?_ (isTrimmed_wireText hbit)
      (wireText_ne_nil bit) (isClean_wireText hbit)
    rw [← List.singleton_append, isClean_append, isClean_append]
    exact ⟨⟨isClean_blank, isClean_wireText (hids qubit (by simp))⟩, by decide⟩
  | barrier params args =>
    have hbody : commandBody ⟨barrierOp, params, args⟩ =
        "barrier".toList ++ ([' '] ++ wiresText args) := rfl
    rw [hbody]
    exact isStatementText_append rfl (by decide) isClean_blank (isTrimmed_wiresText hids)
      (wiresText_ne_nil hne) (isClean_wiresText hids)
  | reset params args =>
    have hbody : commandBody ⟨resetOp, params, args⟩ =
        "reset".toList ++ ([' '] ++ wiresText args) := rfl
    rw [hbody]
    exact isStatementText_append rfl (by decide) isClean_blank (isTrimmed_wiresText hids)
      (wiresText_ne_nil hne) (isClean_wiresText hids)
  | @gate gate op params args hgate hparams hcount =>
    obtain ⟨hmem, -⟩ := Gate.of_byOp?_eq_some hgate
    have hname := Gate.isIdentifier_name gate hmem
    rw [commandBody_gate hgate params args, ← List.singleton_append, ← List.append_assoc
      (paramsText params)]
    refine isStatementText_append (all_of_isIdentifier hname) ?_ ?_ (isTrimmed_wiresText hids)
      (wiresText_ne_nil hne) (isClean_wiresText hids)
    · intro hnil
      rw [hnil] at hname
      cases hname
    · exact isClean_append.2 ⟨isClean_paramsText hfinite, isClean_blank⟩

/-- The operands of a command with a statement are named by identifiers, and there is one at
least. -/
lemma isIdentifier_of_expressible {c : Circuit} {command : Command} (hc : c.WellFormed)
    (h : c.Expressible command) :
    (∀ w ∈ command.args, isIdentifier w.register.toList = true) ∧ command.args ≠ [] := by
  have hqubits : ∀ w ∈ c.qubits, isIdentifier w.register.toList = true := fun w hw =>
    (hc.resolvable .qubit).isIdentifier hw
  cases h with
  | measure hqubit hbit =>
    refine ⟨fun w hw => ?_, List.cons_ne_nil _ _⟩
    rcases List.mem_pair.1 hw with rfl | rfl
    · exact hqubits _ hqubit
    · exact (hc.resolvable .bit).isIdentifier hbit
  | barrier hne hargs => exact ⟨fun w hw => hqubits w (hargs w hw), hne⟩
  | reset hqubit =>
    refine ⟨fun w hw => ?_, List.cons_ne_nil _ _⟩
    rw [List.mem_singleton.1 hw]
    exact hqubits _ hqubit
  | gate hgate hparams hcount hnodup hargs =>
    exact ⟨fun w hw => hqubits w (hargs w hw),
      args_ne_nil (Gate.of_byOp?_eq_some hgate).1 hcount⟩

/-! ### Statement by statement -/

/-- Registers declared one by one stand in this order. -/
lemma foldl_declare (c : Circuit) (kind : UnitKind) (rs : List Register) :
    rs.foldl (·.declare · kind) c = match kind with
      | .qubit => { c with qregs := c.qregs ++ rs }
      | .bit => { c with cregs := c.cregs ++ rs } := by
  induction rs generalizing c with
  | nil => cases kind <;> simp
  | cons r rs ih =>
    rw [List.foldl_cons, ih]
    cases kind <;> simp [Circuit.declare]

/-- Commands added one by one stand in this order. -/
lemma foldl_push {α : Type} (f : α → Command) (c : Circuit) (xs : List α) :
    xs.foldl (fun d x => d.push (f x)) c = { c with commands := c.commands ++ xs.map f } := by
  induction xs generalizing c with
  | nil => simp
  | cons x xs ih =>
    rw [List.foldl_cons, ih]
    simp [Circuit.push]

/-- Registers that may be declared on top of a circuit. -/
structure Declarable (kind : UnitKind) (c : Circuit) (rs : List Register) : Prop where
  identifiers : ∀ r ∈ rs, isIdentifier r.name.toList = true
  distinct : ((c.qregs ++ c.cregs ++ rs).map Register.name).Nodup
  units_le : unitCount (c.registers kind ++ rs) ≤ unitLimit

/-- When the first of several registers is declared, the others may still be. -/
lemma Declarable.declare {kind : UnitKind} {c : Circuit} {r : Register} {rs : List Register}
    (h : Declarable kind c (r :: rs)) : Declarable kind (c.declare r kind) rs := by
  refine ⟨fun s hs => h.identifiers s (List.mem_cons_of_mem _ hs), ?_, ?_⟩
  · have hperm : ((c.declare r kind).qregs ++ (c.declare r kind).cregs ++ rs).Perm
        (c.qregs ++ c.cregs ++ r :: rs) := by
      cases kind with
      | qubit =>
        simp only [Circuit.declare, List.append_assoc, List.singleton_append]
        exact (List.perm_middle.symm.trans (by simp)).append_left c.qregs
      | bit => simp [Circuit.declare]
    exact (hperm.map Register.name).nodup_iff.2 h.distinct
  · have hregisters : (c.declare r kind).registers kind ++ rs = c.registers kind ++ r :: rs := by
      cases kind <;> simp [Circuit.declare, Circuit.registers]
    rw [hregisters]
    exact h.units_le

/-- Written declarations declare their registers one by one. -/
lemma addStatements_registers {kind : UnitKind} {c : Circuit} {rs : List Register}
    (h : Declarable kind c rs) (line : Nat) {position : Nat} (hpos : 0 < position) :
    addStatements c position (numbered line (rs.map (registerBody (keyword kind)))) =
      .ok (rs.foldl (·.declare · kind) c) := by
  refine addStatements_numbered _ (·.declare · kind) (Declarable kind) ?_ h line hpos
  intro d r rs hd
  refine ⟨hd.declare, fun line position _ => ?_⟩
  refine addStatement_registerBody (hd.identifiers r List.mem_cons_self) ?_ ?_ line position
  · have hnodup := hd.distinct
    rw [List.map_append, List.map_cons, List.nodup_append] at hnodup
    exact fun hmem => hnodup.2.2 _ hmem _ List.mem_cons_self rfl
  · have hle := hd.declare.units_le
    rw [unitCount_append] at hle
    exact le_trans (Nat.le_add_right _ _) hle

/-- Written commands are added one by one. -/
lemma addStatements_commands {c : Circuit} {commands : List Command} (hc : c.WellFormed)
    (h : ∀ command ∈ commands, c.Expressible command)
    (hfinite : ∀ command ∈ commands, ∀ x ∈ command.params, Number.isFinite x = true)
    (line : Nat) {position : Nat} (hpos : 0 < position) :
    addStatements c position (numbered line (commands.map commandBody)) =
      .ok (commands.foldl (fun d command => d.push command.reread) c) := by
  refine addStatements_numbered _ (fun d command => d.push command.reread)
    (fun d rest => d.WellFormed ∧ ∀ command ∈ rest, d.Expressible command ∧
      ∀ x ∈ command.params, Number.isFinite x = true) ?_ ⟨hc, ?_⟩ line hpos
  · rintro d command rest ⟨hd, hrest⟩
    obtain ⟨hcommand, hangles⟩ := hrest command List.mem_cons_self
    refine ⟨⟨hd.push hcommand.reread, fun other hother => ?_⟩, fun line position _ =>
      addStatement_commandBody hd hcommand hangles line position⟩
    obtain ⟨hexpressible, hother⟩ := hrest other (List.mem_cons_of_mem _ hother)
    exact ⟨hexpressible.mono (fun _ hw => hw) (fun _ hw => hw), hother⟩
  · exact fun command hcommand => ⟨h command hcommand, hfinite command hcommand⟩

/-! ### Whole programs -/

/-- The statements of a program: two in the header, and one for every register and command. -/
lemma statements_program {bodies : List (List Char)}
    (h : ∀ body ∈ bodies, StartsStatement body) :
    statements (header ++ closedLines bodies) =
      ⟨1, "OPENQASM 2.0".toList, true⟩ :: ⟨2, "include \"qelib1.inc\"".toList, true⟩ ::
        numbered 4 (bodies.map Text.trimEnd) := by
  have hversion : StartsStatement "OPENQASM 2.0".toList := ⟨by decide, by decide, by decide⟩
  have hinclude : StartsStatement "include \"qelib1.inc\"".toList :=
    ⟨by decide, by decide, by decide⟩
  have hheader : header ++ closedLines bodies =
      "OPENQASM 2.0".toList ++ ';' :: '\n' :: ("include \"qelib1.inc\"".toList ++
        ';' :: '\n' :: '\n' :: closedLines bodies) := rfl
  rw [hheader, statements_eq, statementsFrom_statement hversion, statementsFrom_statement hinclude,
    statementsFrom_emptyLine, closedLines, statementsFrom_lines h]
  rfl

/-- Every body of a well-formed circuit is the text of a statement. -/
lemma isStatementText_bodies {c : Circuit} (h : c.WellFormed) (hfinite : c.FiniteAngles) :
    ∀ body ∈ bodies c, IsStatementText body := by
  intro body hbody
  unfold bodies at hbody
  rw [List.mem_append, List.mem_append, List.mem_map, List.mem_map, List.mem_map] at hbody
  rcases hbody with (⟨r, hr, rfl⟩ | ⟨r, hr, rfl⟩) | ⟨command, hcommand, rfl⟩
  · exact isStatementText_registerBody (h.identifiers r (List.mem_append_left _ hr)) .qubit
  · exact isStatementText_registerBody (h.identifiers r (List.mem_append_right _ hr)) .bit
  · have hexpressible := h.commands command hcommand
    obtain ⟨hids, hne⟩ := isIdentifier_of_expressible h hexpressible
    exact isStatementText_commandBody hexpressible.writable hids (hfinite command hcommand) hne

/-- The registers of qubits of a well-formed circuit may be declared first. -/
lemma declarable_qregs {c : Circuit} (h : c.WellFormed) : Declarable .qubit .empty c.qregs := by
  refine ⟨fun r hr => h.identifiers r (List.mem_append_left _ hr), ?_, h.qubits_le⟩
  have hdistinct := h.distinct
  rw [List.map_append, List.nodup_append] at hdistinct
  exact hdistinct.1

/-- Its registers of bits may be declared behind them. -/
lemma declarable_cregs {c : Circuit} (h : c.WellFormed) :
    Declarable .bit ⟨c.qregs, [], [], 0⟩ c.cregs := by
  refine ⟨fun r hr => h.identifiers r (List.mem_append_right _ hr), ?_, h.bits_le⟩
  rw [List.append_nil]
  exact h.distinct

/-- The declarations and commands of a well-formed circuit are read as this circuit. -/
lemma addStatements_bodies {c : Circuit} (h : c.WellFormed) (hfinite : c.FiniteAngles) (line : Nat)
    {position : Nat} (hpos : 0 < position) :
    addStatements .empty position (numbered line (bodies c)) = .ok c.reread := by
  have hqregs : ∀ line position, 0 < position →
      addStatements .empty position (numbered line (c.qregs.map (registerBody (keyword .qubit)))) =
        .ok ⟨c.qregs, [], [], 0⟩ := by
    intro line position hpos
    rw [addStatements_registers (declarable_qregs h) line hpos, foldl_declare]
    rfl
  have hcregs : ∀ line position, 0 < position →
      addStatements ⟨c.qregs, [], [], 0⟩ position
        (numbered line (c.cregs.map (registerBody (keyword .bit)))) =
          .ok ⟨c.qregs, c.cregs, [], 0⟩ := by
    intro line position hpos
    rw [addStatements_registers (declarable_cregs h) line hpos, foldl_declare]
    rfl
  -- declarations come first, so all registers are there when the first command is read
  have hcommands : ∀ line position, 0 < position →
      addStatements ⟨c.qregs, c.cregs, [], 0⟩ position
        (numbered line (c.commands.map commandBody)) = .ok c.reread := by
    intro line position hpos
    have hbase : Circuit.WellFormed ⟨c.qregs, c.cregs, [], 0⟩ :=
      ⟨h.identifiers, h.distinct, h.qubits_le, h.bits_le, by simp⟩
    have hexpressible : ∀ command ∈ c.commands,
        Circuit.Expressible ⟨c.qregs, c.cregs, [], 0⟩ command := fun command hcommand =>
      (h.commands command hcommand).mono (fun _ hw => hw) (fun _ hw => hw)
    rw [addStatements_commands hbase hexpressible hfinite line hpos, foldl_push]
    rfl
  have hsplit : bodies c = c.qregs.map (registerBody (keyword .qubit)) ++
      (c.cregs.map (registerBody (keyword .bit)) ++ c.commands.map commandBody) :=
    List.append_assoc _ _ _
  rw [hsplit, numbered_append, numbered_append, addStatements_append (hqregs _ _ hpos),
    addStatements_append (hcregs _ _ (by omega)), hcommands _ _ (by omega)]

/-- The statements of a well-formed circuit, one a line behind the header, are read as this
circuit. -/
lemma readProgram_closedLines {c : Circuit} (h : c.WellFormed) (hfinite : c.FiniteAngles) :
    readProgram (header ++ closedLines (bodies c)) = .ok c.reread := by
  have hversion : addStatement .empty 0 ⟨1, "OPENQASM 2.0".toList, true⟩ = .ok .empty := rfl
  have hinclude :
      addStatement .empty 1 ⟨2, "include \"qelib1.inc\"".toList, true⟩ = .ok .empty := rfl
  have htexts := isStatementText_bodies h hfinite
  have htrimmed : (bodies c).map Text.trimEnd = (bodies c).map id :=
    List.map_congr_left fun body hbody => (htexts body hbody).trimmed.trimEnd_eq
  rw [readProgram, statements_program fun body hbody => (htexts body hbody).starts, htrimmed,
    List.map_id, addStatements_cons hversion, addStatements_cons hinclude,
    addStatements_bodies h hfinite 4 (by decide)]

/-- The program of a well-formed circuit is read as this circuit. -/
theorem readProgram_programText {c : Circuit} (h : c.WellFormed) (hfinite : c.FiniteAngles) :
    ∃ text, programText c = .ok text ∧ readProgram text = .ok c.reread :=
  ⟨_, programText_eq h, readProgram_closedLines h hfinite⟩

/-- A circuit with a statement of every kind. -/
def sampleCircuit : Circuit where
  qregs := [⟨"q", 2⟩, ⟨"qreg", 1⟩]
  cregs := [⟨"c", 2⟩]
  commands := [
    ⟨"Rz", [0.25], [⟨"q", 0⟩]⟩,
    ⟨"CX", [], [⟨"q", 0⟩, ⟨"qreg", 0⟩]⟩,
    ⟨barrierOp, [], [⟨"q", 0⟩, ⟨"q", 1⟩]⟩,
    ⟨resetOp, [], [⟨"q", 1⟩]⟩,
    ⟨measureOp, [], [⟨"q", 0⟩, ⟨"c", 1⟩]⟩]
  phase := 0

/-- The sample circuit is well formed. -/
lemma wellFormed_sampleCircuit : sampleCircuit.WellFormed := by
  refine ⟨by decide, by decide, by decide, by decide, ?_⟩
  intro command hcommand
  simp only [sampleCircuit, List.mem_cons, List.not_mem_nil, or_false] at hcommand
  rcases hcommand with rfl | rfl | rfl | rfl | rfl
  · have hgate : Gate.byOp? "Rz" = some ⟨"rz", "Rz", 1, 1⟩ := by decide
    exact .gate hgate rfl rfl (by decide) (by decide)
  · have hgate : Gate.byOp? "CX" = some ⟨"cx", "CX", 0, 2⟩ := by decide
    exact .gate hgate rfl rfl (by decide) (by decide)
  · exact .barrier (by decide) (by decide)
  · exact .reset (by decide)
  · exact .measure (by decide) (by decide)

/-- The angles of the sample circuit are finite. -/
lemma finiteAngles_sampleCircuit : sampleCircuit.FiniteAngles := by
  unfold Circuit.FiniteAngles
  decide

/-- The program of the sample circuit is read as the sample circuit. -/
theorem readProgram_programText_sampleCircuit :
    (sampleCircuit.WellFormed ∧ sampleCircuit.FiniteAngles) ∧
      ∃ text, programText sampleCircuit = .ok text ∧ readProgram text = .ok sampleCircuit.reread :=
  ⟨⟨wellFormed_sampleCircuit, finiteAngles_sampleCircuit⟩,
    readProgram_programText wellFormed_sampleCircuit finiteAngles_sampleCircuit⟩

end CircuitBench.Qasm
