import CircuitBench.Proofs.Json.Tokens

/-!
# Written JSON values are read back

A reader belongs to a way of writing when it takes the value from its written form and stops at the
end of that form, whatever follows (`Reads`). Readers of lists, pairs and records belong to the
written lists, pairs and objects as soon as the readers of their parts do (`reads_bracketed_list`,
`reads_bracketed_record`), whatever blanks stand in them. The members of an object fill a record
step by step (`MembersRead`).
-/

namespace CircuitBench.Json

/-! ### Values -/

/-- A reader takes a value from a text that starts like a value, and leaves what follows. -/
structure Reads {α : Type} (value : Reader α) (text : List Char) (a : α) : Prop where
  starts : ∃ c tail, text = c :: tail ∧ isSpace c = false ∧ c ≠ ']'
  reads : ∀ rest, Ends rest → value (text ++ rest) = .ok (a, rest)

/-- Behind no blanks, nothing is skipped. -/
lemma skipSpace_cons {c : Char} (h : isSpace c = false) (cs : List Char) :
    skipSpace (c :: cs) = c :: cs := by
  rw [skipSpace, List.dropWhile_cons_of_neg (by rw [h]; decide)]

/-- A quoted text is read as the text. -/
lemma reads_text (s : String) : Reads readText (quote s.toList) s := by
  refine ⟨⟨'"', _, rfl, by decide, by decide⟩, fun rest _ => ?_⟩
  have htext : quote s.toList ++ rest = '"' :: (s.toList.flatMap escape ++ '"' :: rest) := by
    simp [quote]
  have hspace : skipSpace ('"' :: (s.toList.flatMap escape ++ '"' :: rest)) =
      '"' :: (s.toList.flatMap escape ++ '"' :: rest) := skipSpace_cons (by decide) _
  rw [htext, readText]
  simp only [hspace, readStringBody_quoted, Except.map, String.ofList_toList]

/-- A written number below the bound is read as the number. -/
lemma reads_nat {bound n : Nat} (h : n < bound) (hbound : bound ≤ Number.word64) :
    Reads (readNat bound) (Number.natText n) n := by
  have hall := Number.all_of_isDigits (Number.isDigits_natText n)
  obtain ⟨c, cs, hcs⟩ :=
    List.exists_cons_of_ne_nil (Number.ne_nil_of_isDigits (Number.isDigits_natText n))
  rw [hcs, List.all_cons, Bool.and_eq_true] at hall
  have hspace : isSpace c = false := by
    rw [← Bool.not_eq_true]
    intro hc
    unfold isSpace at hc
    simp only [Bool.or_eq_true, beq_iff_eq] at hc
    rcases hc with ((rfl | rfl) | rfl) | rfl <;> exact absurd hall.1 (by decide)
  refine ⟨⟨c, cs, hcs, hspace, ?_⟩, fun rest hrest => ?_⟩
  · rintro rfl
    exact absurd hall.1 (by decide)
  · have hread := readNumber_natText (h.trans_le hbound) hrest
    have hvalue : (natToken n).natBelow? bound = some n := by
      simp [natToken, NumberToken.natBelow?, h]
    have hstart : startsNumber c = true := by
      rw [startsNumber, hall.1, Bool.or_true]
    rw [hcs, List.cons_append] at hread ⊢
    unfold readNat
    rw [skipSpace_cons hspace]
    simp only [hstart, if_true, hread, hvalue]

/-! ### Brackets -/

/-- Parts behind the first one, each behind a comma and a gap. -/
def commaParts (gap : List Char) (parts : List (List Char)) : List Char :=
  parts.flatMap fun part => ',' :: (gap ++ part)

/-- Parts in brackets with commas between them, each part behind a gap, and a last gap before the
closing bracket. -/
def bracketed (opening closing : Char) (gap last : List Char) : List (List Char) → List Char
  | [] => [opening, closing]
  | part :: parts => opening :: (gap ++ (part ++ (commaParts gap parts ++ (last ++ [closing]))))

/-- The next part stands behind a comma and a gap. -/
lemma commaParts_cons_append (gap part : List Char) (parts : List (List Char)) (rest : List Char) :
    commaParts gap (part :: parts) ++ rest =
      ',' :: (gap ++ (part ++ (commaParts gap parts ++ rest))) := by
  simp [commaParts]

/-- A comma stands behind every part but the last. -/
lemma commas_cons (part : List Char) (parts : List (List Char)) :
    commas (part :: parts) = part ++ commaParts [] parts := by
  induction parts generalizing part with
  | nil => simp [commas, commaParts]
  | cons other parts ih =>
    have hstep : commas (part :: other :: parts) = part ++ ',' :: commas (other :: parts) := by
      simp [commas, List.intersperse]
    rw [hstep, ih, ← List.append_nil (commaParts [] (other :: parts)), commaParts_cons_append,
      List.append_nil, List.nil_append]

/-- A compact list has no gaps. -/
lemma list_eq_bracketed (items : List (List Char)) :
    list items = bracketed '[' ']' [] [] items := by
  cases items with
  | nil => rfl
  | cons item items =>
    rw [list, commas_cons, List.append_assoc]
    rfl

/-- A compact object has no gaps. -/
lemma object_eq_bracketed (members : List (List Char)) :
    object members = bracketed '\x7b' '\x7d' [] [] members := by
  cases members with
  | nil => rfl
  | cons member members =>
    rw [object, commas_cons, List.append_assoc]
    rfl

/-- No blanks are blanks. -/
lemma all_isSpace_nil : ([] : List Char).all isSpace = true := rfl

/-- Blanks in front of another character are skipped. -/
lemma skipSpace_append {blanks : List Char} (hblanks : blanks.all isSpace = true) {c : Char}
    (hc : isSpace c = false) (cs : List Char) : skipSpace (blanks ++ c :: cs) = c :: cs :=
  Text.dropWhile_append hblanks (Text.stops_cons.2 hc)

/-- A closing bracket behind blanks ends a value, and so does a comma. -/
lemma ends_append {blanks : List Char} (hblanks : blanks.all isSpace = true) {c : Char}
    (hc : c = ',' ∨ c = ']' ∨ c = '\x7d') (cs : List Char) : Ends (blanks ++ c :: cs) := by
  cases blanks with
  | nil => rcases hc with rfl | rfl | rfl <;> exact Text.stops_cons.2 (by decide)
  | cons b blanks =>
    rw [List.all_cons, Bool.and_eq_true] at hblanks
    exact ends_of_isSpace hblanks.1 _

/-- The text behind a written part ends it, as another part or the end of the brackets follows. -/
lemma ends_parts (gap : List Char) (parts : List (List Char)) {last : List Char}
    (hlast : last.all isSpace = true) {close : Char} (hclose : close = ']' ∨ close = '\x7d')
    (rest : List Char) : Ends (commaParts gap parts ++ (last ++ close :: rest)) := by
  cases parts with
  | nil => exact ends_append hlast (.inr hclose) rest
  | cons part parts => exact ends_append all_isSpace_nil (.inl rfl) _

/-- Parts are not more than the characters of their text. -/
lemma length_le_parts (gap : List Char) (parts : List (List Char)) :
    parts.length ≤ (commaParts gap parts).length := by
  unfold commaParts
  induction parts with
  | nil => exact le_rfl
  | cons part parts ih =>
    rw [List.flatMap_cons, List.length_append, List.length_cons, List.length_cons]
    omega

/-! ### Lists -/

/-- A list is opened by its bracket. -/
lemma openList_cons (rest : List Char) : openList ('[' :: rest) = .ok rest := by
  have hspace : skipSpace ('[' :: rest) = '[' :: rest := skipSpace_cons (by decide) rest
  simp only [openList, hspace]

/-- An item that is found and read leaves the items behind it. -/
lemma readItems_succ {α : Type} {item : Reader α} {fuel : Nat} {first : Bool}
    {cs start rest behind : List Char} {a : α} {others : List α}
    (hnext : nextItem first cs = .ok (some start))
    (hitem : item start = .ok (a, rest))
    (hothers : readItems item fuel false rest = .ok (others, behind)) :
    readItems item (fuel + 1) first cs = .ok (a :: others, behind) := by
  rw [readItems, hnext]
  change (item start >>= _) = _
  rw [hitem]
  change (readItems item fuel false rest >>= _) = _
  rw [hothers]
  rfl

section Gaps

variable {gap last : List Char} (hgap : gap.all isSpace = true) (hlast : last.all isSpace = true)

section Last

include hlast

/-- A list is closed by its bracket. -/
lemma closeList_append (rest : List Char) : closeList (last ++ ']' :: rest) = .ok rest := by
  have hspace := skipSpace_append hlast (c := ']') (by decide) rest
  simp only [closeList, hspace]

/-- There is no item before the bracket that closes a list. -/
lemma nextItem_close (first : Bool) (rest : List Char) :
    nextItem first (last ++ ']' :: rest) = .ok none := by
  have hspace := skipSpace_append hlast (c := ']') (by decide) rest
  simp only [nextItem, hspace, if_true]

/-- Where a list is closed, its items end. -/
lemma readItems_close {α : Type} (item : Reader α) (fuel : Nat) (first : Bool) (rest : List Char) :
    readItems item (fuel + 1) first (last ++ ']' :: rest) = .ok ([], rest) := by
  rw [readItems, nextItem_close hlast]
  change (closeList (last ++ ']' :: rest) >>= fun behind => .ok ([], behind)) = _
  rw [closeList_append hlast]
  rfl

end Last

section Gap

include hgap

variable {α : Type} {value : Reader α} {text : List Char} {a : α}

/-- The first item of a list starts behind the bracket. -/
lemma nextItem_true (h : Reads value text a) (rest : List Char) :
    nextItem true (gap ++ (text ++ rest)) = .ok (some (text ++ rest)) := by
  obtain ⟨c, tail, rfl, hspace, hclose⟩ := h.starts
  rw [List.cons_append, nextItem, skipSpace_append hgap hspace]
  simp only [hclose, if_false, if_true]

/-- Every other item starts behind a comma. -/
lemma nextItem_false (h : Reads value text a) (rest : List Char) :
    nextItem false (',' :: (gap ++ (text ++ rest))) = .ok (some (text ++ rest)) := by
  obtain ⟨c, tail, rfl, hspace, hclose⟩ := h.starts
  have hcomma : isSpace ',' = false := by decide
  have hopen : ',' ≠ ']' := by decide
  rw [List.cons_append, nextItem, skipSpace_cons hcomma]
  simp only [hopen, if_false, Bool.false_eq_true, if_true, skipSpace_append hgap hspace]
  split
  · next heq => cases heq
  · next heq => exact absurd (List.cons.inj heq).1 hclose
  · rfl

end Gap

include hgap hlast

variable {α β : Type} {item : Reader α} {text : β → List Char} {value : β → α} {items : List β}

/-- The items of a list behind its first are read up to its end. -/
lemma readItems_false (h : ∀ b ∈ items, Reads item (text b) (value b)) {fuel : Nat}
    (hfuel : items.length < fuel) (rest : List Char) :
    readItems item fuel false (commaParts gap (items.map text) ++ (last ++ ']' :: rest)) =
      .ok (items.map value, rest) := by
  induction items generalizing fuel with
  | nil =>
    obtain ⟨fuel, rfl⟩ := Nat.exists_eq_succ_of_ne_zero (Nat.ne_of_gt hfuel)
    exact readItems_close hlast item fuel false rest
  | cons b items ih =>
    obtain ⟨fuel, rfl⟩ := Nat.exists_eq_succ_of_ne_zero (Nat.ne_of_gt (Nat.zero_lt_of_lt hfuel))
    have hb := h b List.mem_cons_self
    have hrest := ih (fun c hc => h c (List.mem_cons_of_mem _ hc)) (Nat.lt_of_succ_lt_succ hfuel)
    rw [List.map_cons, commaParts_cons_append]
    exact readItems_succ (nextItem_false hgap hb _)
      (hb.reads _ (ends_parts gap (items.map text) hlast (.inl rfl) rest)) hrest

/-- A list is read item by item, whatever blanks stand in it. -/
lemma reads_bracketed_list (h : ∀ b ∈ items, Reads item (text b) (value b)) :
    Reads (readList item) (bracketed '[' ']' gap last (items.map text)) (items.map value) := by
  cases items with
  | nil =>
    refine ⟨⟨'[', [']'], rfl, by decide, by decide⟩, fun rest _ => ?_⟩
    unfold readList
    change (openList ('[' :: (']' :: rest)) >>= _) = _
    rw [openList_cons]
    exact readItems_close all_isSpace_nil item (']' :: rest).length true rest
  | cons b items =>
    refine ⟨⟨'[', _, rfl, by decide, by decide⟩, fun rest _ => ?_⟩
    have hb := h b List.mem_cons_self
    obtain ⟨inner, hinner⟩ : ∃ inner, inner = gap ++ (text b ++
      (commaParts gap (items.map text) ++ (last ++ ']' :: rest))) := ⟨_, rfl⟩
    have htext : bracketed '[' ']' gap last ((b :: items).map text) ++ rest = '[' :: inner := by
      simp [bracketed, hinner]
    have hlength : items.length < inner.length := by
      have hparts := length_le_parts gap (items.map text)
      rw [List.length_map] at hparts
      simp only [hinner, List.length_append, List.length_cons]
      omega
    have hothers := readItems_false hgap hlast (fun c hc => h c (List.mem_cons_of_mem _ hc))
      hlength rest
    unfold readList
    rw [htext, openList_cons]
    change readItems item (inner.length + 1) true inner = _
    refine readItems_succ ?_ (hb.reads _ (ends_parts gap (items.map text) hlast (.inl rfl) rest))
      hothers
    rw [hinner]
    exact nextItem_true hgap hb _

end Gaps

/-- A written list is read item by item. -/
lemma reads_list {α : Type} {item : Reader α} {text : α → List Char} {items : List α}
    (h : ∀ a ∈ items, Reads item (text a) a) :
    Reads (readList item) (list (items.map text)) items := by
  have hread : Reads (readList item) (bracketed '[' ']' [] [] (items.map text)) (items.map id) :=
    reads_bracketed_list all_isSpace_nil all_isSpace_nil h
  rwa [List.map_id, ← list_eq_bracketed] at hread

/-- A pair is written as a list and read part by part. -/
lemma reads_pair {α β : Type} {left : Reader α} {right : Reader β} {leftText rightText : List Char}
    {a : α} {b : β} (ha : Reads left leftText a) (hb : Reads right rightText b) :
    Reads (readPair left right) (list [leftText, rightText]) (a, b) := by
  refine ⟨⟨'[', _, rfl, by decide, by decide⟩, fun rest _ => ?_⟩
  have htext : list [leftText, rightText] ++ rest =
      '[' :: (leftText ++ (',' :: (rightText ++ (']' :: rest)))) := by
    simp [list, commas, List.intersperse]
  have hopen : openList (list [leftText, rightText] ++ rest) =
      .ok (leftText ++ (',' :: (rightText ++ (']' :: rest)))) := by
    rw [htext]
    exact openList_cons _
  have hclose : closeList (']' :: rest) = .ok rest := closeList_append all_isSpace_nil rest
  have hfirst := nextItem_true all_isSpace_nil ha (',' :: (rightText ++ (']' :: rest)))
  have hsecond := nextItem_false all_isSpace_nil hb (']' :: rest)
  rw [List.nil_append] at hfirst hsecond
  have hleft : readItem true left (leftText ++ (',' :: (rightText ++ (']' :: rest)))) =
      .ok (a, ',' :: (rightText ++ (']' :: rest))) := by
    rw [readItem, hfirst]
    exact ha.reads _ (Text.stops_cons.2 (by decide))
  have hright : readItem false right (',' :: (rightText ++ (']' :: rest))) =
      .ok (b, ']' :: rest) := by
    rw [readItem, hsecond]
    exact hb.reads _ (Text.stops_cons.2 (by decide))
  unfold readPair
  rw [hopen]
  change (readItem true left _ >>= _) = _
  rw [hleft]
  change (readItem false right _ >>= _) = _
  rw [hright]
  change (closeList (']' :: rest) >>= fun behind => .ok ((a, b), behind)) = _
  rw [hclose]
  rfl

/-! ### Records -/

/-- The members of an object, keys with written values, fill a record step by step. -/
inductive MembersRead {σ : Type} (read : σ → String → Reader σ) :
    σ → List (String × List Char) → σ → Prop
  | nil (state : σ) : MembersRead read state [] state
  | cons {state next final : σ} {key : String} {text : List Char}
    {members : List (String × List Char)}
    (hmember : ∀ rest, Ends rest → read state key (':' :: (text ++ rest)) = .ok (next, rest))
    (hmembers : MembersRead read next members final) :
    MembersRead read state ((key, text) :: members) final

/-- A member that did not stand before is read behind its colon. -/
lemma field_none {α σ : Type} {value : Reader α} {text : List Char} {a : α}
    (h : Reads value text a) (set : α → σ) {rest : List Char} (hrest : Ends rest) :
    field none value set (':' :: (text ++ rest)) = .ok (set a, rest) := by
  have hmark : skipMark ':' (':' :: (text ++ rest)) = .ok (text ++ rest) := by
    rw [skipMark, skipSpace_cons (by decide)]
    rfl
  unfold field
  rw [hmark]
  change (value _ >>= _) = _
  rw [h.reads rest hrest]
  rfl

/-- A member that did not stand before fills its field. -/
lemma MembersRead.field {α σ : Type} {read : σ → String → Reader σ} {state final : σ} {key : String}
    {value : Reader α} {text : List Char} {a : α} {set : α → σ}
    {members : List (String × List Char)} (hread : read state key = Json.field none value set)
    (h : Reads value text a) (hmembers : MembersRead read (set a) members final) :
    MembersRead read state ((key, text) :: members) final := by
  refine .cons (fun rest hrest => ?_) hmembers
  rw [hread]
  exact field_none h set hrest

/-- The text of a member. -/
def memberText (m : String × List Char) : List Char :=
  member m.1 m.2

/-- A member starts with the quote of its key. -/
lemma memberText_append (key : String) (text behind : List Char) :
    memberText (key, text) ++ behind =
      '"' :: (key.toList.flatMap escape ++ '"' :: (':' :: (text ++ behind))) := by
  simp [memberText, member, quote]

/-- A member whose key is found and whose value is read leaves the members behind it. -/
lemma readMembers_succ {σ : Type} {read : σ → String → Reader σ} {state next : σ} {first : Bool}
    {key : String} {cs value behind : List Char} (fuel : Nat)
    (hkey : nextKey first cs = .ok (some (key.toList.flatMap escape ++ '"' :: value)))
    (hmember : read state key value = .ok (next, behind)) :
    readMembers read (fuel + 1) first state cs = readMembers read fuel false next behind := by
  rw [readMembers, hkey]
  change (readStringBody _ >>= _) = _
  rw [readStringBody_quoted]
  change (read state (String.ofList key.toList) value >>= _) = _
  rw [String.ofList_toList, hmember]
  rfl

section Gaps

variable {gap last : List Char} (hgap : gap.all isSpace = true) (hlast : last.all isSpace = true)

section Gap

include hgap

/-- The first key starts behind its quote. -/
lemma nextKey_true (key : List Char) : nextKey true (gap ++ '"' :: key) = .ok (some key) := by
  have hclose : '"' ≠ '\x7d' := by decide
  rw [nextKey, skipSpace_append hgap (by decide)]
  simp only [hclose, if_false, if_true]

/-- Every other key starts behind a comma. -/
lemma nextKey_false (key : List Char) :
    nextKey false (',' :: (gap ++ '"' :: key)) = .ok (some key) := by
  have hcomma : isSpace ',' = false := by decide
  have hquote : isSpace '"' = false := by decide
  have hclose : ',' ≠ '\x7d' := by decide
  rw [nextKey, skipSpace_cons hcomma]
  simp only [hclose, if_false, Bool.false_eq_true, if_true, skipSpace_append hgap hquote]

end Gap

section Last

include hlast

/-- There is no key before the bracket that closes an object. -/
lemma nextKey_close (first : Bool) (rest : List Char) :
    nextKey first (last ++ '\x7d' :: rest) = .ok none := by
  have hspace := skipSpace_append hlast (c := '\x7d') (by decide) rest
  simp only [nextKey, hspace, if_true]

/-- Where an object is closed, its members end. -/
lemma readMembers_close {σ : Type} (read : σ → String → Reader σ) (fuel : Nat) (first : Bool)
    (state : σ) (rest : List Char) :
    readMembers read (fuel + 1) first state (last ++ '\x7d' :: rest) =
      .ok (state, last ++ '\x7d' :: rest) := by
  rw [readMembers, nextKey_close hlast]
  rfl

/-- An object is closed by its bracket. -/
lemma closeObject_append (rest : List Char) : closeObject (last ++ '\x7d' :: rest) = .ok rest := by
  have hspace := skipSpace_append hlast (c := '\x7d') (by decide) rest
  simp only [closeObject, hspace]

end Last

include hgap hlast

variable {σ : Type} {read : σ → String → Reader σ} {state final : σ}
  {members : List (String × List Char)}

/-- The members of an object behind its first are read up to its end. -/
lemma readMembers_false (h : MembersRead read state members final) {fuel : Nat}
    (hfuel : members.length < fuel) (rest : List Char) :
    readMembers read fuel false state
        (commaParts gap (members.map memberText) ++ (last ++ '\x7d' :: rest)) =
      .ok (final, last ++ '\x7d' :: rest) := by
  induction h generalizing fuel with
  | nil state =>
    obtain ⟨fuel, rfl⟩ := Nat.exists_eq_succ_of_ne_zero (Nat.ne_of_gt hfuel)
    exact readMembers_close hlast read fuel false state rest
  | @cons state next final key text members hmember hmembers ih =>
    obtain ⟨fuel, rfl⟩ := Nat.exists_eq_succ_of_ne_zero (Nat.ne_of_gt (Nat.zero_lt_of_lt hfuel))
    have hread := hmember _ (ends_parts gap (members.map memberText) hlast (.inr rfl) rest)
    rw [List.map_cons, commaParts_cons_append, memberText_append,
      readMembers_succ fuel (nextKey_false hgap _) hread]
    exact ih (Nat.lt_of_succ_lt_succ hfuel)

/-- The members of an object are read up to its end, whatever blanks stand in it. -/
lemma readMembers_bracketed (h : MembersRead read state members final) (rest : List Char) :
    ∃ inner behind, bracketed '\x7b' '\x7d' gap last (members.map memberText) ++ rest =
        '\x7b' :: inner ∧
      readMembers read (inner.length + 1) true state inner = .ok (final, behind) ∧
      closeObject behind = .ok rest := by
  cases h with
  | nil =>
    exact ⟨'\x7d' :: rest, '\x7d' :: rest, rfl,
      readMembers_close all_isSpace_nil read _ true _ rest, closeObject_append all_isSpace_nil rest⟩
  | @cons _ next _ key text members hmember hmembers =>
    obtain ⟨inner, hinner⟩ : ∃ inner, inner = gap ++ (memberText (key, text) ++
      (commaParts gap (members.map memberText) ++ (last ++ '\x7d' :: rest))) := ⟨_, rfl⟩
    have hread := hmember _ (ends_parts gap (members.map memberText) hlast (.inr rfl) rest)
    have hlength : members.length < inner.length := by
      have hparts := length_le_parts gap (members.map memberText)
      rw [List.length_map] at hparts
      simp only [hinner, List.length_append, List.length_cons]
      omega
    refine ⟨inner, last ++ '\x7d' :: rest, by simp [bracketed, hinner], ?_,
      closeObject_append hlast rest⟩
    rw [memberText_append] at hinner
    rw [readMembers_succ inner.length (by rw [hinner]; exact nextKey_true hgap _) hread]
    exact readMembers_false hgap hlast hmembers hlength rest

/-- An object is read as the record that its members fill, whatever blanks stand in it. -/
lemma reads_bracketed_record {α : Type} {fields : Reader α} {finish : σ → Except Fault α} {a : α}
    (h : MembersRead read state members final) (hfinish : finish final = .ok a) :
    Reads (readRecord fields state read finish)
      (bracketed '\x7b' '\x7d' gap last (members.map memberText)) a := by
  refine ⟨?_, fun rest _ => ?_⟩
  · cases members with
    | nil => exact ⟨'\x7b', _, rfl, by decide, by decide⟩
    | cons member members => exact ⟨'\x7b', _, rfl, by decide, by decide⟩
  · obtain ⟨inner, behind, htext, hmembers, hclose⟩ := readMembers_bracketed hgap hlast h rest
    have hspace : skipSpace ('\x7b' :: inner) = '\x7b' :: inner := skipSpace_cons (by decide) inner
    rw [htext]
    simp only [readRecord, hspace, hmembers]
    change (finish final >>= fun record => closeObject behind >>= fun behind =>
      .ok (record, behind)) = _
    rw [hfinish]
    change (closeObject behind >>= fun behind => .ok (a, behind)) = _
    rw [hclose]
    rfl

end Gaps

/-- A written object is read as the record that its members fill. -/
lemma reads_record {σ α : Type} {fields : Reader α} {start final : σ}
    {read : σ → String → Reader σ} {finish : σ → Except Fault α}
    {members : List (String × List Char)} {a : α} (h : MembersRead read start members final)
    (hfinish : finish final = .ok a) :
    Reads (readRecord fields start read finish) (object (members.map memberText)) a := by
  rw [object_eq_bracketed]
  exact reads_bracketed_record all_isSpace_nil all_isSpace_nil h hfinish

end CircuitBench.Json
