import CircuitBench.Proofs.Circuit.Qasm.Roundtrip
import CircuitBench.Proofs.Circuit.Qasm.Soundness

/-!
# Which written programs are accepted

The writer checks less than the reader: it has statements for circuits with a name for two
registers, and for commands on units of the wrong kind, on the same unit twice, or on none. A
statement that is accepted is always read as what was written (`eq_of_addStatement_commandBody`), so
the reader accepts a written program exactly when the circuit, read back unchanged, is one that the
reader makes (`readProgram_closedLines_iff`).

This is said of the circuits whose units can be read where they are written (`Circuit.Legible`).
What the reader asks beyond the writer is `Circuit.Acceptable`; parameters that no statement shows
do not come back (`Circuit.stripped`).
-/

namespace CircuitBench

/-! ### Parameters without a place -/

/-- A command without the parameters that its statement does not show. -/
def Command.stripped (command : Command) : Command :=
  if command.op ∈ [measureOp, barrierOp, resetOp] then { command with params := [] } else command

/-- A circuit without the parameters that no statement shows. -/
def Circuit.stripped (c : Circuit) : Circuit :=
  { c with commands := c.commands.map Command.stripped }

/-- What the reader asks of a circuit that is written, and the writer does not check. -/
structure Circuit.Acceptable (c : Circuit) : Prop where
  /-- No two registers share a name, of whatever kind they are. -/
  distinct : ((c.qregs ++ c.cregs).map Register.name).Nodup
  /-- Every command is one that the reader makes. -/
  commands : ∀ command ∈ c.commands, c.Expressible command.stripped

/-- The units whose texts the reader takes apart into their register and index. -/
def Wire.Legible (w : Wire) : Prop :=
  Qasm.isIdentifier w.register.toList = true ∧ w.index < Number.word32

/-- The circuits that the writer accepts and writes with legible units. -/
structure Circuit.Legible (c : Circuit) : Prop where
  registers : ∀ r ∈ c.qregs ++ c.cregs, (Wire.mk r.name r.size).Legible
  writable : ∀ command ∈ c.commands, command.Writable
  args : ∀ command ∈ c.commands, ∀ w ∈ command.args, w.Legible
  finite : c.FiniteAngles

/-- Gates keep their parameters. -/
lemma Command.stripped_gate {gate : Gate} {op : String} (hgate : Gate.byOp? op = some gate)
    (params : List Float) (args : List Wire) :
    (Command.mk op params args).stripped = ⟨op, params, args⟩ := by
  obtain ⟨hmem, rfl⟩ := Gate.of_byOp?_eq_some hgate
  obtain ⟨hmeasure, hbarrier, hreset⟩ := Gate.op_ne gate hmem
  exact if_neg (by simp [hmeasure, hbarrier, hreset])

/-- The parameters of a stripped command are among those of the command. -/
lemma Command.mem_params_of_stripped {command : Command} {x : Float}
    (h : x ∈ command.stripped.params) : x ∈ command.params := by
  unfold Command.stripped at h
  split_ifs at h
  · cases h
  · exact h

/-- A command that is expressible after it was read again was so before. -/
lemma Circuit.Expressible.of_reread {c : Circuit} {command : Command}
    (h : c.Expressible command.reread) : c.Expressible command := by
  obtain ⟨op, params, args⟩ := command
  unfold Command.reread at h
  generalize hreread : params.map rereadAngle = angles at h
  cases h with
  | measure hqubit hbit =>
    rw [List.map_eq_nil_iff.1 hreread]
    exact .measure hqubit hbit
  | barrier hne hargs =>
    rw [List.map_eq_nil_iff.1 hreread]
    exact .barrier hne hargs
  | reset hqubit =>
    rw [List.map_eq_nil_iff.1 hreread]
    exact .reset hqubit
  | gate hgate hparams hcount hnodup hargs =>
    refine .gate hgate ?_ hcount hnodup hargs
    rw [← hparams, ← hreread, List.length_map]

end CircuitBench

namespace CircuitBench.Qasm

/-- A stripped command has the same statement. -/
lemma commandBody_stripped {command : Command} (h : command.Writable) :
    commandBody command.stripped = commandBody command := by
  cases h with
  | measure => rfl
  | barrier => rfl
  | reset => rfl
  | gate hgate => rw [Command.stripped_gate hgate]

/-! ### What is accepted is what was written -/

/-- A written unit that is found is this unit. -/
lemma eq_of_resolve {c : Circuit} {line : Nat} {kind : UnitKind} {operand : List Char}
    {w v : Wire} (hw : w.Legible) (htrim : Text.trim operand = wireText w)
    (h : resolve c line kind operand = .ok v) : v = w := by
  unfold resolve at h
  dsimp only at h
  rw [htrim, readIndexed?_wireText hw.1] at h
  dsimp only at h
  rw [Number.readNat?_natText hw.2, String.ofList_toList] at h
  split at h
  · cases h
  · dsimp only at h
    split_ifs at h
    · cases h
      rfl
    · cases h

/-- Written units that are found are these units, and there is one at least. -/
lemma eq_of_resolveQubits {c : Circuit} {line : Nat} {operands : List Char} {ws vs : List Wire}
    (hws : ∀ w ∈ ws, w.Legible) (htrim : Text.trim operands = wiresText ws)
    (h : resolveQubits c line operands = .ok vs) : vs = ws := by
  unfold resolveQubits at h
  dsimp only at h
  rw [htrim] at h
  cases ws with
  | nil => cases h
  | cons w others =>
    have hpieces : Text.splitOnChar ',' (wiresText (w :: others)) =
        (w :: others).map wireText := by
      apply Text.splitOnChar_join (by simp)
      intro piece hpiece
      obtain ⟨v, hv, rfl⟩ := List.mem_map.1 hpiece
      exact fun hmem => absurd (mem_wireText (hws v hv).1 hmem) (by decide)
    split_ifs at h
    · cases h
    · rw [hpieces, List.mapM_map] at h
      have heq := eq_map_of_mapM_eq_ok (g := id) (fun v hv u hu =>
        eq_of_resolve (hws v hv) (isTrimmed_wireText (hws v hv).1).trim_eq hu) h
      rwa [List.map_id] at heq

/-- A written declaration that is accepted declares its register. -/
lemma eq_of_addStatement_registerBody {c d : Circuit} {kind : UnitKind} {r : Register}
    (hr : (Wire.mk r.name r.size).Legible) {line position : Nat}
    (h : addStatement c position ⟨line, registerBody (keyword kind) r, true⟩ = .ok d) :
    d = c.declare r kind := by
  rw [addStatement_of_keyword (firstWord_registerBody kind r),
    addRegister_registerBody hr.1 hr.2] at h
  split_ifs at h
  · cases h
  · cases h
  · cases h
    rfl

/-- The operands behind a keyword, also where blanks are all that stands there. -/
lemma firstWord_trimEnd_append (word : List Char) (hword : word.all Expression.isNameChar = true)
    (hne : word ≠ []) {ws : List Wire} (hws : ∀ w ∈ ws, isIdentifier w.register.toList = true) :
    firstWord (Text.trimEnd (word ++ ' ' :: wiresText ws)) = word ∧
      Text.trim ((Text.trimEnd (word ++ ' ' :: wiresText ws)).drop word.length) =
        wiresText ws := by
  have htrimmed := isTrimmed_of_all_isNameChar hword
  by_cases hnil : ws = []
  · have hempty : wiresText ws = [] := by rw [hnil]; rfl
    rw [hempty, htrimmed.trimEnd_append (by decide), List.drop_length]
    refine ⟨?_, rfl⟩
    have hfirst := firstWord_append hword (Text.stops_nil isWordChar)
    rwa [List.append_nil] at hfirst
  · have hbody : Text.IsTrimmed (word ++ ([' '] ++ wiresText ws)) :=
      htrimmed.between hne [' '] (isTrimmed_wiresText hws) (wiresText_ne_nil hnil)
    have hend := hbody.trimEnd_eq
    rw [List.singleton_append] at hend
    rw [hend, List.drop_left]
    exact ⟨firstWord_append hword (stops_isWordChar_blank _), trim_cons_wiresText hws⟩

/-- A written command that is accepted is added. -/
lemma eq_of_addStatement_commandBody {c d : Circuit} {command : Command} {line position : Nat}
    (hwritable : command.Writable) (hargs : ∀ w ∈ command.args, w.Legible)
    (hfinite : ∀ x ∈ command.params, Number.isFinite x = true)
    (h : addStatement c position ⟨line, Text.trimEnd (commandBody command), true⟩ = .ok d) :
    d = c.push command.stripped.reread := by
  have hids : ∀ w ∈ command.args, isIdentifier w.register.toList = true := fun w hw =>
    (hargs w hw).1
  have htrimmed : command.args ≠ [] → Text.trimEnd (commandBody command) = commandBody command :=
    fun hne => (isStatementText_commandBody hwritable hids hfinite hne).trimmed.trimEnd_eq
  cases hwritable with
  | measure params qubit bit =>
    have hqubit := hargs qubit (by simp)
    have hbit := hargs bit (by simp)
    have hword : firstWord ("measure".toList ++
        ' ' :: Text.join " -> ".toList [wireText qubit, wireText bit]) = "measure".toList :=
      firstWord_append rfl (stops_isWordChar_blank _)
    rw [htrimmed (List.cons_ne_nil _ _), commandBody_measure, addStatement_of_measure hword,
      List.drop_left, readMeasure_wireTexts hqubit.1 hbit.1] at h
    obtain ⟨read, hread, rfl⟩ := of_map_eq_ok h
    obtain ⟨q, hq, hread⟩ := of_bind_eq_ok hread
    obtain ⟨b, hb, hread⟩ := of_bind_eq_ok hread
    cases hread
    rw [eq_of_resolve hqubit (trim_wireText_append hqubit.1) hq,
      eq_of_resolve hbit (trim_cons_wireText hbit.1) hb]
    rfl
  | barrier params args =>
    obtain ⟨hword, htrim⟩ := firstWord_trimEnd_append "barrier".toList rfl (by decide) hids
    rw [commandBody_barrier, addStatement_of_barrier hword] at h
    obtain ⟨ws, hws, rfl⟩ := of_map_eq_ok h
    rw [eq_of_resolveQubits hargs htrim hws]
    rfl
  | reset params args =>
    obtain ⟨hword, htrim⟩ := firstWord_trimEnd_append "reset".toList rfl (by decide) hids
    rw [commandBody_reset, addStatement_of_reset hword] at h
    obtain ⟨ws, hws, h⟩ := of_bind_eq_ok h
    rw [eq_of_resolveQubits hargs htrim hws] at h
    split_ifs at h
    · cases h
    · cases h
      rfl
  | @gate gate op params args hgate hparams hcount =>
    obtain ⟨hmem, hop⟩ := Gate.of_byOp?_eq_some hgate
    obtain ⟨operands, htrim, hread⟩ := exists_readGate_iff hmem hparams hids hfinite c line
    rw [htrimmed (args_ne_nil hmem hcount), commandBody_gate hgate, addStatement_gateText hmem] at h
    obtain ⟨read, hok, rfl⟩ := of_map_eq_ok h
    obtain ⟨ws, hws, -, -, rfl⟩ := (hread read).1 hok
    rw [eq_of_resolveQubits hargs htrim hws, Command.stripped_gate hgate, hop]
    rfl

/-! ### Statement by statement -/

/-- When all of several statements are accepted, so are those in front. -/
lemma of_addStatements_append {c d : Circuit} {position : Nat} {ss others : List Statement}
    (h : addStatements c position (ss ++ others) = .ok d) :
    ∃ e, addStatements c position ss = .ok e ∧
      addStatements e (position + ss.length) others = .ok d := by
  rw [addStatements_append_eq] at h
  exact of_bind_eq_ok h

/-- Statements that are accepted take the steps that each of them is bound to take. -/
lemma eq_of_addStatements_numbered {α : Type} (body : α → List Char) (step : Circuit → α → Circuit)
    {xs : List α} (hstep : ∀ x ∈ xs, ∀ c d line position,
      addStatement c position ⟨line, body x, true⟩ = .ok d → d = step c x)
    {c d : Circuit} {line position : Nat}
    (h : addStatements c position (numbered line (xs.map body)) = .ok d) : d = xs.foldl step c := by
  induction xs generalizing c line position with
  | nil =>
    cases h
    rfl
  | cons x xs ih =>
    rw [List.map_cons, numbered_cons] at h
    obtain ⟨extended, hx, h⟩ := of_bind_eq_ok h
    rw [hstep x List.mem_cons_self _ _ _ _ hx] at h
    exact ih (fun y hy => hstep y (List.mem_cons_of_mem _ hy)) h

/-! ### Whole programs -/

/-- The writer has a statement for every command that it writes. -/
lemma writable_of_commandLine {command : Command} {text : List Char}
    (h : commandLine command = .ok text) : command.Writable := by
  obtain ⟨op, params, args⟩ := command
  unfold commandLine at h
  obtain ⟨body, hbody, -⟩ := of_map_eq_ok h
  unfold commandText at hbody
  dsimp only at hbody
  split at hbody
  · next hop =>
    obtain rfl := beq_iff_eq.1 hop
    split at hbody
    · exact .measure _ _ _
    · cases hbody
  · split at hbody
    · next hop =>
      obtain rfl := beq_iff_eq.1 hop
      exact .barrier _ _
    · split at hbody
      · next hop =>
        obtain rfl := beq_iff_eq.1 hop
        exact .reset _ _
      · split at hbody
        · cases hbody
        · next gate hgate =>
          split_ifs at hbody with harity
          rw [not_or, not_not, not_not] at harity
          exact .gate hgate harity.1 harity.2

/-- The writer writes registers that are named by identifiers and commands that it has statements
for, each on a line of its own. -/
lemma of_programText_eq_ok {c : Circuit} {text : List Char} (h : programText c = .ok text) :
    (∀ r ∈ c.qregs ++ c.cregs, isIdentifier r.name.toList = true) ∧
      (∀ command ∈ c.commands, command.Writable) ∧ text = header ++ closedLines (bodies c) := by
  have hwritten := h
  unfold programText at h
  obtain ⟨quantum, hquantum, h⟩ := of_bind_eq_ok h
  obtain ⟨classical, hclassical, h⟩ := of_bind_eq_ok h
  obtain ⟨commands, hcommands, -⟩ := of_bind_eq_ok h
  have hregister : ∀ keyword r text, registerText keyword r = .ok text →
      isIdentifier r.name.toList = true := by
    intro keyword r text hr
    unfold registerText at hr
    split_ifs at hr with hidentifier
    exact hidentifier
  have hidentifiers : ∀ r ∈ c.qregs ++ c.cregs, isIdentifier r.name.toList = true := by
    intro r hr
    rcases List.mem_append.1 hr with hr | hr
    · obtain ⟨text, hr⟩ := exists_of_mapM_eq_ok hquantum r hr
      exact hregister _ _ _ hr
    · obtain ⟨text, hr⟩ := exists_of_mapM_eq_ok hclassical r hr
      exact hregister _ _ _ hr
  have hwritable : ∀ command ∈ c.commands, command.Writable := by
    intro command hcommand
    obtain ⟨text, htext⟩ := exists_of_mapM_eq_ok hcommands command hcommand
    exact writable_of_commandLine htext
  refine ⟨hidentifiers, hwritable, ?_⟩
  rw [programText_of_writable hidentifiers hwritable] at hwritten
  exact (Except.ok.inj hwritten).symm

/-- Every line of a written program starts a statement. -/
lemma startsStatement_bodies {c : Circuit} (h : c.Legible) :
    ∀ body ∈ bodies c, StartsStatement body := by
  intro body hbody
  unfold bodies at hbody
  rw [List.mem_append, List.mem_append, List.mem_map, List.mem_map, List.mem_map] at hbody
  rcases hbody with (⟨r, hr, rfl⟩ | ⟨r, hr, rfl⟩) | ⟨command, hcommand, rfl⟩
  · exact (isStatementText_registerBody (h.registers r (List.mem_append_left _ hr)).1 .qubit).starts
  · exact (isStatementText_registerBody (h.registers r (List.mem_append_right _ hr)).1 .bit).starts
  · have hwritable := h.writable command hcommand
    have hids : ∀ w ∈ command.args, isIdentifier w.register.toList = true := fun w hw =>
      (h.args command hcommand w hw).1
    by_cases hne : command.args = []
    · obtain ⟨op, params, args⟩ := command
      obtain rfl : args = [] := hne
      cases hwritable with
      | barrier =>
        rw [commandBody_barrier]
        exact ⟨by decide, by decide, by decide⟩
      | reset =>
        rw [commandBody_reset]
        exact ⟨by decide, by decide, by decide⟩
      | gate hgate hparams hcount =>
        exact absurd rfl (args_ne_nil (Gate.of_byOp?_eq_some hgate).1 hcount)
    · exact (isStatementText_commandBody hwritable hids (h.finite command hcommand) hne).starts

/-- A written program that is accepted is read as its circuit. -/
lemma eq_of_readProgram_closedLines {c d : Circuit} (h : c.Legible)
    (hread : readProgram (header ++ closedLines (bodies c)) = .ok d) : d = c.stripped.reread := by
  have hversion : addStatement .empty 0 ⟨1, "OPENQASM 2.0".toList, true⟩ = .ok .empty := rfl
  have hinclude : addStatement .empty 1 ⟨2, "include \"qelib1.inc\"".toList, true⟩ = .ok .empty :=
    rfl
  have htrimmed : ∀ (kind : UnitKind) (rs : List Register), (∀ r ∈ rs, r ∈ c.qregs ++ c.cregs) →
      (rs.map (registerBody (keyword kind))).map Text.trimEnd =
        rs.map (registerBody (keyword kind)) := by
    intro kind rs hrs
    rw [List.map_map]
    refine List.map_congr_left fun r hr => ?_
    exact (isStatementText_registerBody (h.registers r (hrs r hr)).1 kind).trimmed.trimEnd_eq
  have hsplit : (bodies c).map Text.trimEnd = c.qregs.map (registerBody (keyword .qubit)) ++
      (c.cregs.map (registerBody (keyword .bit)) ++
        c.commands.map fun command => Text.trimEnd (commandBody command)) := by
    rw [← htrimmed .qubit c.qregs fun r hr => List.mem_append_left _ hr,
      ← htrimmed .bit c.cregs fun r hr => List.mem_append_right _ hr]
    simp [bodies, keyword, Function.comp_def]
  rw [readProgram, statements_program (startsStatement_bodies h), addStatements_cons hversion,
    addStatements_cons hinclude, hsplit, numbered_append, numbered_append] at hread
  obtain ⟨afterQregs, hqregs, hread⟩ := of_addStatements_append hread
  obtain ⟨afterCregs, hcregs, hcommands⟩ := of_addStatements_append hread
  have hdeclare : ∀ (kind : UnitKind) (rs : List Register), (∀ r ∈ rs, r ∈ c.qregs ++ c.cregs) →
      ∀ before after line position,
        addStatements before position (numbered line (rs.map (registerBody (keyword kind)))) =
          .ok after → after = rs.foldl (·.declare · kind) before := by
    intro kind rs hrs before after line position hafter
    refine eq_of_addStatements_numbered _ (·.declare · kind) ?_ hafter
    intro r hr c' d' line position hr'
    exact eq_of_addStatement_registerBody (h.registers r (hrs r hr)) hr'
  have hpush : d = c.commands.foldl (fun d command => d.push command.stripped.reread)
      afterCregs := by
    refine eq_of_addStatements_numbered (fun command => Text.trimEnd (commandBody command)) _ ?_
      hcommands
    intro command hcommand c' d' line position hd'
    exact eq_of_addStatement_commandBody (h.writable command hcommand) (h.args command hcommand)
      (h.finite command hcommand) hd'
  have hbits := hdeclare .bit c.cregs (fun r hr => List.mem_append_right _ hr) _ _ _ _ hcregs
  have hqubits := hdeclare .qubit c.qregs (fun r hr => List.mem_append_left _ hr) _ _ _ _ hqregs
  rw [hpush, foldl_push, hbits, foldl_declare, hqubits, foldl_declare]
  simp [Circuit.reread, Circuit.stripped, Circuit.empty, Function.comp_def]

/-- A written program is accepted exactly when its circuit is acceptable, and is read as this
circuit. -/
lemma readProgram_closedLines_iff {c : Circuit} (h : c.Legible)
    (hqubits : unitCount c.qregs ≤ unitLimit) (hbits : unitCount c.cregs ≤ unitLimit)
    (d : Circuit) : readProgram (header ++ closedLines (bodies c)) = .ok d ↔
      c.Acceptable ∧ d = c.stripped.reread := by
  constructor
  · intro hread
    obtain rfl := eq_of_readProgram_closedLines h hread
    obtain ⟨hwellFormed, -⟩ := wellFormed_of_addStatements Circuit.wellFormed_empty hread
    refine ⟨⟨hwellFormed.distinct, fun command hcommand => ?_⟩, rfl⟩
    have hmem : command.stripped.reread ∈ c.stripped.reread.commands :=
      List.mem_map_of_mem (List.mem_map_of_mem hcommand)
    have hexpressible : c.Expressible command.stripped.reread :=
      (hwellFormed.commands _ hmem).mono (fun _ hw => hw) fun _ hw => hw
    exact hexpressible.of_reread
  · rintro ⟨hacceptable, rfl⟩
    have hwellFormed : c.stripped.WellFormed := by
      refine ⟨fun r hr => (h.registers r hr).1, hacceptable.distinct, hqubits, hbits, ?_⟩
      intro stripped hstripped
      obtain ⟨command, hcommand, rfl⟩ := List.mem_map.1 hstripped
      exact (hacceptable.commands command hcommand).mono (fun _ hw => hw) fun _ hw => hw
    have hfinite : c.stripped.FiniteAngles := by
      intro stripped hstripped x hx
      obtain ⟨command, hcommand, rfl⟩ := List.mem_map.1 hstripped
      exact h.finite command hcommand x (Command.mem_params_of_stripped hx)
    have hbodies : bodies c.stripped = bodies c := by
      have hcommands : (c.commands.map Command.stripped).map commandBody =
          c.commands.map commandBody := by
        rw [List.map_map]
        exact List.map_congr_left fun command hcommand =>
          commandBody_stripped (h.writable command hcommand)
      unfold bodies
      exact congrArg _ hcommands
    rw [← hbodies]
    exact readProgram_closedLines hwellFormed hfinite

end CircuitBench.Qasm
