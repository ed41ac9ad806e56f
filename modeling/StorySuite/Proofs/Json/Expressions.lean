import StorySuite.Proofs.Json.Tokens

/-!
# Proofs — Json — data as expressions

The text of a value of data is an expression of a program: where it stands in front of a comma, a
closing bracket or a semicolon, reading an expression gives `Value.expr` and goes on behind the
text.  This holds of every dialect and of every place in a program.

* **`readsAs_value`**: the text of a value is read as its expression.
-/

namespace StorySuite.Json

open Script Decimal

/-! ### Values as expressions -/

/-- A number as an expression: a minus is an operator. -/
def Number.expr (n : Number) : Expr :=
  let e : Expr := .literal (.number n.numeral.magnitude)
  if n.numeral.negative then .unary .minus e else e

mutual

/-- A value as an expression. -/
def Value.expr : Value → Expr
  | .null => .literal .null
  | .bool b => .literal (.bool b)
  | .number n => n.expr
  | .string s => .literal (.string ⟨s, false⟩)
  | .array items => .array (itemExprs items)
  | .object fields => .object (fieldProperties fields)

/-- Values as expressions. -/
def itemExprs : List Value → List Expr
  | [] => []
  | v :: rest => v.expr :: itemExprs rest

/-- Fields as properties. -/
def fieldProperties : List (String × Value) → List Property
  | [] => []
  | (k, v) :: rest => .value (.string ⟨k, false⟩) v.expr :: fieldProperties rest

end

end StorySuite.Json

namespace StorySuite.Script.Parser

open Json Decimal

/-! ### Going on -/

/-- Where no gap begins behind a word, the next word begins there at once. -/
theorem next_eq_solid {c : Context} {s : State} {rest : List Char} (hs : s.rest = rest)
    (hrest : Lexer.IsSolid rest) (hfuel : 0 < c.fuel) :
    State.next c s = .solid c s.owesPattern rest := by
  rw [State.next, hs]
  exact State.start_solid hrest hfuel _ _ _

/-! ### What follows an operand -/

/-- The characters that end an expression. -/
def closers : List Char :=
  [')', ']', '\x7d', ',', ';']

variable {g : Grammar} {c : Context} {owes : Bool} {k : Char} {rest : List Char} {e : Expr}

theorem isSolid_closer (hk : k ∈ closers) (rest : List Char) : Lexer.IsSolid (k :: rest) := by
  have hall : ∀ k ∈ closers, isSpace k = false ∧ isLineEnd k = false ∧ k ∉ ['/', '<', '-'] :=
    List.all_iff_forall_prop.mp (by decide)
  obtain ⟨hspace, hline, hothers⟩ := hall k hk
  exact Lexer.isSolid_cons hspace hline hothers rest

theorem mem_brackets_of_closer (hk : k ∈ closers) : k ∈ brackets :=
  List.all_iff_forall_prop.mp (by decide : closers.all fun k => decide (k ∈ brackets)) k hk

theorem token_solid_closer (hk : k ∈ closers) (c : Context) (owes : Bool) (rest : List Char) :
    (State.solid c owes (k :: rest)).token = .sign (String.singleton k) := by
  simp [State.solid, Lexer.token_bracket (mem_brackets_of_closer hk)]

theorem suffix?_closer (hk : k ∈ closers) (calls : Bool) :
    suffix? g calls e c (.solid c owes (k :: rest)) = some (none, .solid c owes (k :: rest)) := by
  have ht := token_solid_closer hk c owes rest
  simp only [closers, List.mem_cons, List.not_mem_nil, or_false] at hk
  rcases hk with rfl | rfl | rfl | rfl | rfl <;> cases calls <;>
    simp [suffix?, ht, givenTypes?]

theorem castTail?_closer (hk : k ∈ closers) (least : Nat) :
    castTail? g least e c (.solid c owes (k :: rest)) = some (none, .solid c owes (k :: rest)) := by
  have ht := token_solid_closer hk c owes rest
  simp [castTail?, atAnyWord, ht]

theorem operator?_closer (hk : k ∈ closers) :
    operator? c (.solid c owes (k :: rest)) = some (none, .solid c owes (k :: rest)) := by
  have ht := token_solid_closer hk c owes rest
  simp only [closers, List.mem_cons, List.not_mem_nil, or_false] at hk
  rcases hk with rfl | rfl | rfl | rfl | rfl <;>
    simp [operator?, ht, BinaryOp.ofText?, BinaryOp.all, BinaryOp.text]

theorem assignmentSign?_closer (hk : k ∈ closers) :
    assignmentSign? c (.solid c owes (k :: rest)) = some (none, .solid c owes (k :: rest)) := by
  have ht := token_solid_closer hk c owes rest
  simp only [closers, List.mem_cons, List.not_mem_nil, or_false] at hk
  rcases hk with rfl | rfl | rfl | rfl | rfl <;>
    simp [assignmentSign?, ht]

theorem iterate_of_none {α : Type} {a : α} {step : α → Parser (Option α)} {s : State}
    (h : step a c s = some (none, s)) (hfuel : 0 < c.fuel) : iterate a step c s = some (a, s) := by
  obtain ⟨fuel, hf⟩ := Nat.exists_eq_succ_of_ne_zero (by omega : c.fuel ≠ 0)
  simp [iterate, hf, iterateUpTo, h]

/-- The token begins a value of data that has no sign. -/
inductive BeginsOperand : Token → Prop where
  | string (t : StringValue) (raw : String) : BeginsOperand (.string t raw)
  | number (x : Numeral) : BeginsOperand (.number x)
  | name {s : String} (hs : s ∈ Lexer.valueNames) : BeginsOperand (.name s false)
  | bracket : BeginsOperand (.sign "[")
  | brace : BeginsOperand (.sign "\x7b")

/-- The token begins a value of data. -/
def BeginsValue (t : Token) : Prop :=
  BeginsOperand t ∨ t = .sign "-"

/-- An operand has no operator in front of it. -/
theorem BeginsOperand.apart {t : Token} (h : BeginsOperand t) :
    UnaryOp.ofToken? t = none ∧ (∀ u ∈ ["++", "--", "<", "<<"], t ≠ .sign u) ∧
      ∀ u ∈ ["await", "new"], t ≠ .name u false := by
  cases h with
  | string | number | bracket | brace => simp [UnaryOp.ofToken?]
  | name hs =>
      simp only [Lexer.valueNames, List.mem_cons, List.not_mem_nil, or_false] at hs
      rcases hs with rfl | rfl | rfl <;> simp [UnaryOp.ofToken?]

/-- A value of data begins with nothing that makes an expression something else than operands. -/
theorem BeginsValue.apart {t : Token} (h : BeginsValue t) :
    (∀ u ∈ ["<", "(", "]", "\x7d", ",", "..."], t ≠ .sign u) ∧
      (∀ u ∈ ["yield", "async"], t ≠ .name u false) ∧ ∀ u, t ≠ .privateName u := by
  rcases h with h | rfl
  · cases h with
    | string | number | bracket | brace => simp
    | name hs =>
        simp only [Lexer.valueNames, List.mem_cons, List.not_mem_nil, or_false] at hs
        rcases hs with rfl | rfl | rfl <;> simp
  · simp

/-- A value of data begins with no name of a variable. -/
theorem atVariable_of_beginsValue {s : State} (h : BeginsValue s.token) :
    atVariable c s = some (false, s) := by
  generalize ht : s.token = t at h
  rcases h with h | rfl
  · cases h with
    | string | number | bracket | brace => simp [atVariable, ht]
    | name hs =>
        simp only [Lexer.valueNames, List.mem_cons, List.not_mem_nil, or_false] at hs
        rcases hs with rfl | rfl | rfl <;>
          simp [atVariable, ht, mayName, isReserved, reservedWords]
  · simp [atVariable, ht]

/-- An operand in front of the end of the expression is the whole expression. -/
theorem unaryProduction_of_primary {s : State} (hs : BeginsOperand s.token) (hk : k ∈ closers)
    (hfuel : 0 < c.fuel)
    (h : primary g c s = some (e, .solid c s.owesPattern (k :: rest))) :
    unaryProduction g c s = some (e, .solid c s.owesPattern (k :: rest)) := by
  have hsuffixes : iterate e (suffix? g true) c (.solid c s.owesPattern (k :: rest)) =
      some (e, .solid c s.owesPattern (k :: rest)) :=
    iterate_of_none (suffix?_closer hk true) hfuel
  have hend : ∀ u ∈ ["++", "--"],
      (State.solid c s.owesPattern (k :: rest)).token ≠ .sign u := by
    rw [token_solid_closer hk]
    simp only [closers, List.mem_cons, List.not_mem_nil, or_false] at hk
    rcases hk with rfl | rfl | rfl | rfl | rfl <;> simp
  obtain ⟨hop, hsigns, hnames⟩ := hs.apart
  simp only [List.forall_mem_cons, List.not_mem_nil, ne_eq] at hend hsigns hnames
  simp [unaryProduction, hop, hsigns, hnames, leftSide, run_takeWord, h, suffixes, hsuffixes, hend]

/-- No arrow function begins with a value of data. -/
theorem arrow?_of_beginsValue {s : State} (hs : BeginsValue s.token) :
    arrow? g c s = some (none, s) := by
  obtain ⟨hsigns, hnames, -⟩ := hs.apart
  simp only [List.forall_mem_cons, List.not_mem_nil, ne_eq] at hsigns hnames
  have hopens : opensTypeParameters c s = some (false, s) := by
    cases htypes : c.hasTypes <;> cases helements : c.hasElements <;>
      simp [opensTypeParameters, htypes, helements, seems, ahead, sign, run_takeSign, hsigns]
  have hhead : arrowHead? g c s = some (none, s) := by
    simp [arrowHead?, hopens, hsigns, hnames, attempt, nameHead, variableName, ensure,
      atVariable_of_beginsValue hs]
  cases hchoice : c.inChoice <;> simp [arrow?, hchoice, hhead, attempt]

/-- **An operand in front of the end of the expression is the whole expression**, where it begins no
arrow function and nothing is handed out. -/
theorem assignmentProduction_of_operand {s : State} (hyield : s.token ≠ .name "yield" false)
    (hprivate : ∀ u, s.token ≠ .privateName u) (harrow : arrow? g c s = some (none, s))
    (hk : k ∈ closers) (hfuel : 0 < c.fuel) (hpure : e.markPure = e)
    (h : ∀ owes, unaryProduction g c { s with owesPattern := owes } =
      some (e, .solid c owes (k :: rest))) :
    assignmentProduction g c s = some (e, .solid c s.owesPattern (k :: rest)) := by
  have hoperand : operand g c { s with owesPattern := false } =
      some (e, .solid c false (k :: rest)) := by
    rw [← h false]
    simp only [operand, run_bind, run_token, Option.bind_some]
  have hbinary : binaryProduction g 0 c { s with owesPattern := false } =
      some (e, .solid c false (k :: rest)) := by
    simp only [binaryProduction, run_bind, hoperand, Option.bind_some]
    exact iterate_of_none (by simp [castTail?_closer hk, operator?_closer hk]) hfuel
  have hquestion : (State.solid c false (k :: rest)).token ≠ .sign "?" := by
    rw [token_solid_closer hk]
    simp only [closers, List.mem_cons, List.not_mem_nil, or_false] at hk
    rcases hk with rfl | rfl | rfl | rfl | rfl <;> simp
  have hconditional : conditional g c { s with owesPattern := false } =
      some (e, .solid c false (k :: rest)) := by
    simp [conditional, hbinary, run_takeSign, hquestion, hpure]
  simp [assignmentProduction, hyield, harrow, assignmentOrLess, hconditional,
    assignmentSign?_closer hk]
  rfl

/-- A value of data in front of the end of the expression is the whole expression. -/
theorem assignmentProduction_of_unary {s : State} (hs : BeginsValue s.token) (hk : k ∈ closers)
    (hfuel : 0 < c.fuel) (hpure : e.markPure = e)
    (h : ∀ owes, unaryProduction g c { s with owesPattern := owes } =
      some (e, .solid c owes (k :: rest))) :
    assignmentProduction g c s = some (e, .solid c s.owesPattern (k :: rest)) := by
  obtain ⟨-, hnames, hprivate⟩ := hs.apart
  exact assignmentProduction_of_operand (hnames "yield" (by simp)) hprivate
    (arrow?_of_beginsValue hs) hk hfuel hpure h

/-! ### Lists -/

/-- Texts with commas between them. -/
def commaSeparated : List (List Char) → List Char
  | [] => []
  | [cs] => cs
  | cs :: ds :: rest => cs ++ ',' :: commaSeparated (ds :: rest)

theorem length_le_commaSeparated : ∀ css : List (List Char),
    css.length ≤ (commaSeparated css).length + 1
  | [] => by simp
  | [cs] => by simp [commaSeparated]
  | cs :: ds :: rest => by
      have hrest := length_le_commaSeparated (ds :: rest)
      simp only [commaSeparated, List.length_cons, List.length_append] at hrest ⊢
      omega

/-- One round of reading a list: nothing at its end, else an item and the comma behind it. -/
def listStep {α : Type} (close : Char) (item : Parser α) : Parser (Option α) := do
  if ← atSign (String.singleton close) then return none
  else some <$> (do
    let a ← item
    unless ← atSign (String.singleton close) do sign ","
    return a)

/-- `item` reads `text`, which begins as a value does, as `val` in front of what ends it. -/
structure ReadsItem {α : Type} (c : Context) (owes : Bool) (item : Parser α) (text : List Char)
    (val : α) : Prop where
  solid : ∀ rest, Lexer.IsSolid (text ++ rest)
  front : ∀ k ∈ closers, ∀ rest, (text ++ k :: rest).length < c.fuel →
    BeginsValue (State.solid c owes (text ++ k :: rest)).token
  reads : ∀ k ∈ closers, ∀ rest, (text ++ k :: rest).length < c.fuel →
    item c (.solid c owes (text ++ k :: rest)) = some (val, .solid c owes (k :: rest))

section Lists

variable {α : Type} {close : Char} {item : Parser α}

theorem mem_closers_of_close (hclose : close ∈ [']', '\x7d']) : close ∈ closers ∧ close ≠ ',' := by
  simp only [List.mem_cons, List.not_mem_nil, or_false] at hclose
  rcases hclose with rfl | rfl <;> decide

theorem BeginsValue.ne_close {t : Token} (h : BeginsValue t) (hclose : close ∈ [']', '\x7d']) :
    t ≠ .sign (String.singleton close) := by
  simp only [List.mem_cons, List.not_mem_nil, or_false] at hclose
  rcases hclose with rfl | rfl
  · exact h.apart.1 _ (by simp)
  · exact h.apart.1 _ (by simp)

theorem listStep_closer (hclose : close ∈ [']', '\x7d']) :
    listStep close item c (.solid c owes (close :: rest)) =
      some (none, .solid c owes (close :: rest)) := by
  simp [listStep, token_solid_closer (mem_closers_of_close hclose).1]

/-- A round in front of the end reads an item. -/
theorem listStep_last (hclose : close ∈ [']', '\x7d']) {text : List Char} {val : α}
    (h : ReadsItem c owes item text val) (hfuel : (text ++ close :: rest).length < c.fuel) :
    listStep close item c (.solid c owes (text ++ close :: rest)) =
      some (some val, .solid c owes (close :: rest)) := by
  have hfront := (h.front close (mem_closers_of_close hclose).1 rest hfuel).ne_close hclose
  have hread := h.reads close (mem_closers_of_close hclose).1 rest hfuel
  simp [listStep, hfront, hread, token_solid_closer (mem_closers_of_close hclose).1]

/-- A round reads an item and the comma behind it. -/
theorem listStep_comma (hclose : close ∈ [']', '\x7d']) {text : List Char} {val : α}
    (h : ReadsItem c owes item text val) (hrest : Lexer.IsSolid rest)
    (hfuel : (text ++ ',' :: rest).length < c.fuel) :
    listStep close item c (.solid c owes (text ++ ',' :: rest)) =
      some (some val, .solid c owes rest) := by
  have hfront := (h.front ',' (by decide) rest hfuel).ne_close hclose
  have hread := h.reads ',' (by decide) rest hfuel
  have hcomma : (State.solid c owes (',' :: rest)).token = .sign "," :=
    token_solid_closer (by decide) c owes rest
  have hne : "," ≠ String.singleton close := by
    intro heq
    have hchars := congrArg String.toList heq
    simp at hchars
    exact (mem_closers_of_close hclose).2 hchars.symm
  have hnext : State.next c (.solid c owes (',' :: rest)) = .solid c owes rest :=
    next_eq_solid (by simp [State.solid, Lexer.token_bracket (k := ',') (by decide)]) hrest
      (by omega)
  simp [listStep, hfront, hread, hcomma, sign, run_takeSign, hnext, hne]

/-- Rounds read the items of a list one after the other. -/
theorem repeatUpTo_items (hclose : close ∈ [']', '\x7d']) :
    ∀ (items : List (List Char × α)) (fuel : Nat) {rest : List Char},
      (∀ i ∈ items, ReadsItem c owes item i.1 i.2) → items.length < fuel →
      (commaSeparated (items.map Prod.fst) ++ close :: rest).length < c.fuel →
      repeatUpTo (listStep close item) fuel c
          (.solid c owes (commaSeparated (items.map Prod.fst) ++ close :: rest)) =
        some (items.map Prod.snd, .solid c owes (close :: rest))
  | [], fuel + 1, rest, _, _, _ => by
      simp [repeatUpTo, commaSeparated, listStep_closer hclose]
  | [i], fuel + 2, rest, hitems, _, hlength => by
      have hlast := listStep_last hclose (hitems i (by simp)) hlength
      simp [repeatUpTo, commaSeparated, hlast, listStep_closer hclose]
  | i :: j :: items, fuel + 1, rest, hitems, hfuel, hlength => by
      simp only [List.map_cons, commaSeparated, List.append_assoc, List.cons_append] at hlength ⊢
      -- behind the comma the next item begins at once
      have hsolid :
          Lexer.IsSolid (commaSeparated (j.1 :: items.map Prod.fst) ++ close :: rest) := by
        have hj := (hitems j (by simp)).solid
        cases items <;>
          simp only [List.map_cons, List.map_nil, commaSeparated, List.append_assoc] <;> exact hj _
      have hstep := listStep_comma hclose (hitems i (by simp)) hsolid hlength
      have hshorter : (commaSeparated ((j :: items).map Prod.fst) ++ close :: rest).length <
          c.fuel := by
        simp at hlength ⊢
        omega
      have hmore := repeatUpTo_items hclose (j :: items) fuel
        (fun l hl => hitems l (List.mem_cons_of_mem _ hl)) (by simpa using hfuel) hshorter
      simp only [List.map_cons] at hmore
      simp [repeatUpTo, hstep, hmore]

/-- **A list of data is read item by item.** -/
theorem separated_items {β : Type} {xs : List β} {text : β → List Char} {val : β → α}
    (hclose : close ∈ [']', '\x7d']) (hk : k ∈ closers)
    (hxs : ∀ x ∈ xs, ReadsItem c owes item (text x) (val x))
    (hfuel : (commaSeparated (xs.map text) ++ close :: k :: rest).length < c.fuel) :
    separated (String.singleton close) item c
        (.solid c owes (commaSeparated (xs.map text) ++ close :: k :: rest)) =
      some (xs.map val, .solid c owes (k :: rest)) := by
  let items := xs.map fun x => (text x, val x)
  have htexts : items.map Prod.fst = xs.map text := by simp [items]
  have hvals : items.map Prod.snd = xs.map val := by simp [items]
  have hitems : ∀ i ∈ items, ReadsItem c owes item i.1 i.2 := by
    simpa only [items, List.forall_mem_map] using hxs
  have hcount := length_le_commaSeparated (xs.map text)
  simp only [List.length_map, List.length_append, List.length_cons] at hcount hfuel
  have hshort : items.length < c.fuel := by
    simp only [items, List.length_map]
    omega
  have hlength : (commaSeparated (items.map Prod.fst) ++ close :: k :: rest).length < c.fuel := by
    simpa only [htexts, List.length_append, List.length_cons] using hfuel
  have hrounds := repeatUpTo_items hclose items c.fuel hitems hshort hlength
  rw [htexts, hvals] at hrounds
  have hbracket := mem_brackets_of_closer (mem_closers_of_close hclose).1
  have hnext : State.next c (.solid c owes (close :: k :: rest)) = .solid c owes (k :: rest) :=
    next_eq_solid (by simp [State.solid, Lexer.token_bracket hbracket]) (isSolid_closer hk rest)
      (by omega)
  change (repeatWhile (listStep close item) >>= fun items =>
    advance >>= fun _ => pure items) c _ = _
  simp [repeatWhile, hrounds, hnext]

end Lists

/-! ### Values -/

/-- The text of the value is read as its expression where an operand may stand, in front of what
ends the expression. -/
structure ReadsOperand (v : Value) : Prop where
  run : ∀ {n : Nat} {c : Context} {s : State} {k : Char} {rest : List Char}, k ∈ closers →
    Lexer.token c.fuel (v.text.toList ++ k :: rest) = (s.token, s.rest) →
    (v.text.toList ++ k :: rest).length < c.fuel → v.text.toList.length ≤ n →
    unaryProduction (grammar n) c s = some (v.expr, .solid c s.owesPattern (k :: rest))

theorem readsOperand_word {w : String} {v : Value} (hw : w ∈ Lexer.valueNames)
    (htext : v.text = w) (hexpr : primary.wordValue? w = some v.expr) : ReadsOperand v := by
  refine ⟨fun {n c s k rest} hk hs hfuel _ => ?_⟩
  rw [htext, Lexer.token_word hw (mem_brackets_of_closer hk), Prod.mk.injEq] at hs
  obtain ⟨htoken, hrest⟩ := hs
  refine unaryProduction_of_primary (htoken ▸ .name hw) hk (by omega) ?_
  have hnext := next_eq_solid (c := c) hrest.symm (isSolid_closer hk rest) (by omega)
  have hall : ∀ w ∈ Lexer.valueNames, w ≠ "function" ∧ w ≠ "class" ∧ w ≠ "async" := by decide
  have hothers := hall w hw
  simp [primary, ← htoken, hothers, atAsyncFunction, seems, ahead, word, run_takeWord, hexpr, hnext]

/-- A text is not longer than what is written for it. -/
theorem length_le_length_quote (t : String) :
    t.toList.length + 2 ≤ (Json.quote t).toList.length := by
  have hescape : ∀ cs : List Char, cs.length ≤ (Json.escape cs).length := by
    intro cs
    induction cs with
    | nil => simp
    | cons c cs ih =>
        have hone : 1 ≤ (Json.escapeChar c).length := by
          unfold Json.escapeChar
          split_ifs <;> simp
        simp only [Json.escape, List.flatMap_cons, List.length_append, List.length_cons] at ih ⊢
        omega
  have h := hescape t.toList
  simp only [Json.quote, String.toList_ofList, List.length_cons, List.length_append,
    List.length_nil]
  omega

theorem readsOperand_string (t : String) : ReadsOperand (.string t) := by
  refine ⟨fun {n c s k rest} hk hs hfuel _ => ?_⟩
  have hlength := length_le_length_quote t
  simp only [Value.text] at hs hfuel
  have hquote := Lexer.token_quote t c.fuel (k :: rest)
    (by simp only [List.length_append] at hfuel; omega)
  rw [hquote, Prod.mk.injEq] at hs
  obtain ⟨htoken, hrest⟩ := hs
  refine unaryProduction_of_primary (htoken ▸ .string _ _) hk (by omega) ?_
  have hnext := next_eq_solid (c := c) hrest.symm (isSolid_closer hk rest) (by omega)
  simp [primary, ← htoken, Value.expr, hnext]

/-- A numeral without a sign is read as its number. -/
theorem unaryProduction_unsigned {w : Json.Numeral} (hw : w.WellFormed) {s : State}
    (hk : k ∈ closers) (hs : Lexer.token c.fuel (w.unsigned ++ k :: rest) = (s.token, s.rest))
    (hfuel : 0 < c.fuel) :
    unaryProduction g c s =
      some (.literal (.number w.magnitude), .solid c s.owesPattern (k :: rest)) := by
  rw [Lexer.token_numeral hw (mem_brackets_of_closer hk), Prod.mk.injEq] at hs
  obtain ⟨htoken, hrest⟩ := hs
  refine unaryProduction_of_primary (htoken ▸ .number _) hk hfuel ?_
  have hnext := next_eq_solid (c := c) hrest.symm (isSolid_closer hk rest) hfuel
  simp [primary, ← htoken, hnext]

/-- A minus in front is an operator. -/
theorem unaryProduction_of_minus {s : State} (hs : s.token = .sign "-") :
    unaryProduction g c s =
      (g.unary c (State.next c s)).map fun r => (.unary .minus r.1, r.2) := by
  simp [unaryProduction, hs, UnaryOp.ofToken?]

/-- A numeral with a minus is read as the operator and the number. -/
theorem unaryProduction_signed {w : Json.Numeral} (hw : w.WellFormed) {n : Nat} {s : State}
    (hk : k ∈ closers)
    (hs : Lexer.token c.fuel ('-' :: (w.unsigned ++ k :: rest)) = (s.token, s.rest))
    (hfuel : 0 < c.fuel) :
    unaryProduction (grammar (n + 1)) c s =
      some (.unary .minus (.literal (.number w.magnitude)),
        .solid c s.owesPattern (k :: rest)) := by
  obtain ⟨d, ds, hds, hdigit⟩ := hw.front
  simp only [hds, List.cons_append] at hs
  rw [Lexer.token_minus hdigit, Prod.mk.injEq] at hs
  obtain ⟨htoken, hrest⟩ := hs
  have hsolid : Lexer.IsSolid (d :: (ds ++ k :: rest)) := Lexer.isSolid_digit hdigit _
  have hnext := next_eq_solid (c := c) hrest.symm hsolid hfuel
  have hfront : Lexer.token c.fuel (w.unsigned ++ k :: rest) =
      ((State.solid c s.owesPattern (d :: (ds ++ k :: rest))).token,
        (State.solid c s.owesPattern (d :: (ds ++ k :: rest))).rest) := by
    simp [State.solid, hds]
  have hoperand := unaryProduction_unsigned (g := grammar n) hw hk hfront hfuel
  have hunary : (grammar (n + 1)).unary = unaryProduction (grammar n) := rfl
  rw [unaryProduction_of_minus htoken.symm, hnext, hunary, hoperand]
  rfl

theorem readsOperand_number (x : Number) : ReadsOperand (.number x) := by
  refine ⟨fun {n c s k rest} hk hs hfuel hdepth => ?_⟩
  obtain ⟨hw, htext⟩ := x.numeral_spec
  simp only [Value.text, htext, Json.Numeral.text] at hs hdepth
  cases hneg : x.numeral.negative with
  | false =>
      simp only [hneg, Bool.false_eq_true, if_false] at hs
      simp only [Value.expr, Number.expr, hneg, Bool.false_eq_true, if_false]
      exact unaryProduction_unsigned hw hk hs (by omega)
  | true =>
      simp only [hneg, if_true, List.cons_append, List.length_cons] at hs hdepth
      obtain ⟨m, rfl⟩ := Nat.exists_eq_succ_of_ne_zero (by omega : n ≠ 0)
      simp only [Value.expr, Number.expr, hneg, if_true]
      exact unaryProduction_signed hw hk hs (by omega)

/-! ### Lists of values and of fields -/

theorem itemsText_toList : ∀ items : List Value,
    (itemsText items).toList = commaSeparated (items.map fun v => v.text.toList)
  | [] => rfl
  | [v] => rfl
  | v :: w :: rest => by
      have hrest := itemsText_toList (w :: rest)
      simp only [itemsText, String.toList_append, hrest]
      simp [commaSeparated]

/-- A field as it is written. -/
def fieldText (field : String × Value) : List Char :=
  (Json.quote field.1).toList ++ ':' :: field.2.text.toList

theorem fieldsText_toList : ∀ fields : List (String × Value),
    (fieldsText fields).toList = commaSeparated (fields.map fieldText)
  | [] => rfl
  | [(k, v)] => by simp [fieldsText, commaSeparated, fieldText]
  | (k, v) :: f :: rest => by
      have hrest := fieldsText_toList (f :: rest)
      simp only [fieldsText, String.toList_append, hrest]
      simp [commaSeparated, fieldText]

theorem itemExprs_eq : ∀ items : List Value, itemExprs items = items.map Value.expr
  | [] => rfl
  | v :: rest => by simp [itemExprs, itemExprs_eq rest]

theorem fieldProperties_eq : ∀ fields : List (String × Value),
    fieldProperties fields = fields.map fun f => .value (.string ⟨f.1, false⟩) f.2.expr
  | [] => rfl
  | (k, v) :: rest => by simp [fieldProperties, fieldProperties_eq rest]

/-- A text is not shorter than one of the texts that it is put together of. -/
theorem length_le_of_mem_commaSeparated : ∀ {css : List (List Char)} {cs : List Char}, cs ∈ css →
    cs.length ≤ (commaSeparated css).length
  | [ds], cs, h => by
      cases List.mem_singleton.mp h
      exact Nat.le_refl _
  | ds :: es :: rest, cs, h => by
      simp only [commaSeparated, List.length_append, List.length_cons]
      rcases List.mem_cons.mp h with rfl | h
      · omega
      · have hrest := length_le_of_mem_commaSeparated h
        omega

theorem markPure_expr (v : Value) : v.expr.markPure = v.expr := by
  cases v with
  | number x =>
      simp only [Value.expr, Number.expr]
      split <;> rfl
  | _ => rfl

theorem text_array (items : List Value) :
    (Value.array items).text.toList =
      '[' :: (commaSeparated (items.map fun v => v.text.toList) ++ [']']) := by
  simp [Value.text, itemsText_toList]

theorem text_object (fields : List (String × Value)) :
    (Value.object fields).text.toList =
      '\x7b' :: (commaSeparated (fields.map fieldText) ++ ['\x7d']) := by
  simp [Value.text, fieldsText_toList]

/-- The words of the values that are names. -/
theorem text_word (v : Value) (hv : v = .null ∨ ∃ b, v = .bool b) :
    v.text ∈ Lexer.valueNames ∧ primary.wordValue? v.text = some v.expr := by
  obtain rfl | ⟨b, rfl⟩ := hv
  · exact ⟨by decide, rfl⟩
  · cases b <;> exact ⟨by decide, rfl⟩

/-- No gap begins with the text of a value. -/
theorem isSolid_text (v : Value) (rest : List Char) : Lexer.IsSolid (v.text.toList ++ rest) := by
  have hall : ∀ c ∈ "ntf\"[\x7b".toList,
      isSpace c = false ∧ isLineEnd c = false ∧ c ∉ ['/', '<', '-'] :=
    List.all_iff_forall_prop.mp (by decide)
  -- but for numbers, a value is told from its first character
  have hfront {c : Char} (hc : c ∈ "ntf\"[\x7b".toList) (cs : List Char) :
      Lexer.IsSolid (c :: cs) := by
    obtain ⟨hspace, hline, hothers⟩ := hall c hc
    exact Lexer.isSolid_cons hspace hline hothers cs
  cases v with
  | null => exact hfront (c := 'n') (by decide) _
  | bool b =>
      cases b
      · exact hfront (c := 'f') (by decide) _
      · exact hfront (c := 't') (by decide) _
  | string t =>
      simp only [Value.text, Json.quote, String.toList_ofList]
      exact hfront (by decide) _
  | array items =>
      rw [text_array]
      exact hfront (by decide) _
  | object fields =>
      rw [text_object]
      exact hfront (by decide) _
  | number x =>
      obtain ⟨hw, htext⟩ := x.numeral_spec
      obtain ⟨d, ds, hds, hdigit⟩ := hw.front
      simp only [Value.text, htext, Json.Numeral.text, hds]
      split
      · exact Lexer.isSolid_minus hdigit _
      · exact Lexer.isSolid_digit hdigit _

/-- The text of a value begins as a value does. -/
theorem beginsValue_text (v : Value) {fuel : Nat} (hk : k ∈ closers)
    (hfuel : v.text.toList.length < fuel) :
    BeginsValue (Lexer.token fuel (v.text.toList ++ k :: rest)).1 := by
  have hbracket := mem_brackets_of_closer hk
  cases v with
  | null =>
      rw [Lexer.token_word (text_word .null (.inl rfl)).1 hbracket]
      exact .inl (.name (text_word .null (.inl rfl)).1)
  | bool b =>
      rw [Lexer.token_word (text_word (.bool b) (.inr ⟨b, rfl⟩)).1 hbracket]
      exact .inl (.name (text_word (.bool b) (.inr ⟨b, rfl⟩)).1)
  | string t =>
      have hlength := length_le_length_quote t
      simp only [Value.text] at hfuel ⊢
      rw [Lexer.token_quote t fuel (k :: rest) (by omega)]
      exact .inl (.string _ _)
  | array items =>
      rw [text_array, List.cons_append, Lexer.token_bracket (by decide)]
      exact .inl .bracket
  | object fields =>
      rw [text_object, List.cons_append, Lexer.token_bracket (by decide)]
      exact .inl .brace
  | number x =>
      obtain ⟨hw, htext⟩ := x.numeral_spec
      obtain ⟨d, ds, hds, hdigit⟩ := hw.front
      simp only [Value.text, htext, Json.Numeral.text]
      split
      · rw [hds, List.cons_append, List.cons_append, Lexer.token_minus hdigit]
        exact .inr rfl
      · rw [Lexer.token_numeral hw hbracket]
        exact .inl (.number _)

/-- Where an operand is read as its expression, so is an expression. -/
theorem ReadsOperand.assignment {v : Value} (hv : ReadsOperand v) {n : Nat} {s : State}
    (hk : k ∈ closers) (hs : Lexer.token c.fuel (v.text.toList ++ k :: rest) = (s.token, s.rest))
    (hfuel : (v.text.toList ++ k :: rest).length < c.fuel) (hdepth : v.text.toList.length < n) :
    (grammar n).assignment c s = some (v.expr, .solid c s.owesPattern (k :: rest)) := by
  obtain ⟨m, rfl⟩ := Nat.exists_eq_succ_of_ne_zero (by omega : n ≠ 0)
  have hbegins : BeginsValue (Lexer.token c.fuel (v.text.toList ++ k :: rest)).1 :=
    beginsValue_text v hk (by simp only [List.length_append] at hfuel; omega)
  rw [hs] at hbegins
  have hassignment : (grammar (m + 1)).assignment = assignmentProduction (grammar m) := rfl
  rw [hassignment]
  exact assignmentProduction_of_unary hbegins hk (by omega) (markPure_expr v)
    fun owes => hv.run (s := { s with owesPattern := owes }) hk hs hfuel (by omega)

/-- What an item of an array is read by. -/
def arrayItem (g : Grammar) : Parser Expr := do
  if ← atSign "," then return .hole
  else if ← takeSign "..." then return .spread (← g.assignment)
  else g.assignment

/-- A bracket opens an array. -/
theorem primary_of_bracket {s : State} (hs : s.token = .sign "[") :
    primary g c s =
      (separated (String.singleton ']') (arrayItem g) { c with allowIn := true, inChoice := false }
        (State.next c s)).map fun r => (.array r.1, r.2) := by
  simp [primary, hs, arrayLiteral, sign, run_takeSign]
  rfl

/-- A brace opens an object. -/
theorem primary_of_brace {s : State} (hs : s.token = .sign "\x7b") :
    primary g c s =
      (separated (String.singleton '\x7d') (property g)
        { c with allowIn := true, inChoice := false } (State.next c s)).map
          fun r => (.object r.1, r.2) := by
  simp [primary, hs, objectLiteral, sign, run_takeSign]

/-- An item of an array is read as its expression. -/
theorem readsItem_value {v : Value} (hv : ReadsOperand v) {n : Nat}
    (hdepth : v.text.toList.length < n) :
    ReadsItem c owes (arrayItem (grammar n)) v.text.toList v.expr where
  solid := isSolid_text v
  front k hk rest hfuel :=
    beginsValue_text v hk (by simp only [List.length_append] at hfuel; omega)
  reads k hk rest hfuel := by
    have hfront : BeginsValue (State.solid c owes (v.text.toList ++ k :: rest)).token :=
      beginsValue_text v hk (by simp only [List.length_append] at hfuel; omega)
    have hread :=
      hv.assignment (s := .solid c owes (v.text.toList ++ k :: rest)) hk rfl hfuel hdepth
    have happart := hfront.apart.1
    simp only [List.forall_mem_cons, List.not_mem_nil, ne_eq] at happart
    simp [arrayItem, happart, run_takeSign, hread]
    rfl

/-- No gap begins with a list whose items begin with none. -/
theorem isSolid_commaSeparated : ∀ {css : List (List Char)},
    (∀ cs ∈ css, ∀ rest, Lexer.IsSolid (cs ++ rest)) → Lexer.IsSolid rest →
      Lexer.IsSolid (commaSeparated css ++ rest)
  | [], _, hrest => hrest
  | [cs], h, _ => h cs (by simp) _
  | cs :: ds :: css, h, _ => by
      simp only [commaSeparated, List.append_assoc]
      exact h cs (by simp) _

theorem readsOperand_array {items : List Value} (hitems : ∀ v ∈ items, ReadsOperand v) :
    ReadsOperand (.array items) := by
  refine ⟨fun {n c s k rest} hk hs hfuel hdepth => ?_⟩
  rw [text_array] at hs hfuel hdepth
  simp only [List.cons_append, List.append_assoc, List.nil_append, List.length_cons,
    List.length_append, List.length_nil] at hs hfuel hdepth
  rw [Lexer.token_bracket (by decide), Prod.mk.injEq] at hs
  obtain ⟨htoken, hrest⟩ := hs
  refine unaryProduction_of_primary (htoken ▸ .bracket) hk (by omega) ?_
  have hfronts : ∀ cs ∈ items.map (fun v => v.text.toList), ∀ rest, Lexer.IsSolid (cs ++ rest) := by
    simpa using fun v _ => isSolid_text v
  have hsolid :=
    isSolid_commaSeparated hfronts (isSolid_closer (by decide : ']' ∈ closers) (k :: rest))
  have hnext := next_eq_solid (c := c) hrest.symm hsolid (by omega)
  -- an item is shorter than the array, so its depth is enough
  have hitem : ∀ v ∈ items, ReadsItem { c with allowIn := true, inChoice := false } s.owesPattern
      (arrayItem (grammar n)) v.text.toList v.expr := by
    intro v hv
    have hle : v.text.toList.length ≤ (commaSeparated (items.map fun v => v.text.toList)).length :=
      length_le_of_mem_commaSeparated (List.mem_map_of_mem hv)
    exact readsItem_value (hitems v hv) (by omega)
  have hlength : (commaSeparated (items.map fun v => v.text.toList) ++ ']' :: k :: rest).length <
      c.fuel := by
    simp only [List.length_append, List.length_cons]
    omega
  have hlist := separated_items (by simp : ']' ∈ [']', '\x7d']) hk hitem hlength
  rw [primary_of_bracket htoken.symm, hnext, Value.expr, itemExprs_eq]
  exact congrArg (Option.map _) hlist

/-- A text and a colon in front are the name of a property with a value. -/
theorem property_of_text {s : State} {t : StringValue} {raw : String} {cs : List Char}
    (hs : s.token = .string t raw) (hrest : s.rest = ':' :: cs) (hcs : Lexer.IsSolid cs)
    (hfuel : 0 < c.fuel) :
    property g c s =
      (g.assignment c (.solid c s.owesPattern cs)).map fun r => (.value (.string t) r.1, r.2) := by
  have hcolon := Lexer.token_bracket (k := ':') (by decide) c.fuel cs
  have hkey := next_eq_solid (c := c) hrest
    (Lexer.isSolid_cons (by decide) (by decide) (by decide) _) hfuel
  have htoken : (State.solid c s.owesPattern (':' :: cs)).token = .sign ":" := by
    simp [State.solid, hcolon]
  have hvalue : State.next c (.solid c s.owesPattern (':' :: cs)) = .solid c s.owesPattern cs :=
    next_eq_solid (by simp [State.solid, hcolon]) hcs hfuel
  simp [property, run_takeSign, hs, markedMethod?, atVariable, propertyKey, hkey, htoken, hvalue]

/-- A field is read as its property. -/
theorem readsItem_field {f : String × Value} (hv : ReadsOperand f.2) {n : Nat}
    (hdepth : f.2.text.toList.length < n) :
    ReadsItem c owes (property (grammar n)) (fieldText f)
      (.value (.string ⟨f.1, false⟩) f.2.expr) := by
  have hlength := length_le_length_quote f.1
  have hquote (k : Char) (rest : List Char) (hfuel : (fieldText f ++ k :: rest).length < c.fuel) :
      Lexer.token c.fuel (fieldText f ++ k :: rest) =
        (.string ⟨f.1, false⟩ (Json.quote f.1), ':' :: (f.2.text.toList ++ k :: rest)) := by
    simp only [fieldText, List.append_assoc, List.length_append] at hfuel ⊢
    exact Lexer.token_quote f.1 c.fuel _ (by omega)
  constructor
  · intro rest
    simp only [fieldText, List.append_assoc]
    exact isSolid_text (.string f.1) _
  · intro k _ rest hfuel
    simp only [State.solid, hquote k rest hfuel]
    exact .inl (.string _ _)
  · intro k hk rest hfuel
    have htoken := hquote k rest hfuel
    have hread := hv.assignment (c := c) (s := .solid c owes (f.2.text.toList ++ k :: rest)) hk rfl
      (by simp only [fieldText, List.length_append, List.length_cons] at hfuel ⊢; omega) hdepth
    rw [property_of_text (by simp only [State.solid, htoken]; rfl)
      (by simp only [State.solid, htoken]; rfl) (isSolid_text f.2 _) (by omega)]
    exact congrArg (Option.map _) hread

theorem readsOperand_object {fields : List (String × Value)}
    (hfields : ∀ f ∈ fields, ReadsOperand f.2) : ReadsOperand (.object fields) := by
  refine ⟨fun {n c s k rest} hk hs hfuel hdepth => ?_⟩
  rw [text_object] at hs hfuel hdepth
  simp only [List.cons_append, List.append_assoc, List.nil_append, List.length_cons,
    List.length_append, List.length_nil] at hs hfuel hdepth
  rw [Lexer.token_bracket (by decide), Prod.mk.injEq] at hs
  obtain ⟨htoken, hrest⟩ := hs
  refine unaryProduction_of_primary (htoken ▸ .brace) hk (by omega) ?_
  have hfronts : ∀ cs ∈ fields.map fieldText, ∀ rest, Lexer.IsSolid (cs ++ rest) := by
    simp only [List.forall_mem_map, fieldText, List.append_assoc]
    exact fun f _ rest => isSolid_text (.string f.1) _
  have hsolid := isSolid_commaSeparated hfronts
    (isSolid_closer (by decide : '\x7d' ∈ closers) (k :: rest))
  have hnext := next_eq_solid (c := c) hrest.symm hsolid (by omega)
  -- a field is shorter than the object, so its depth is enough
  have hfield : ∀ f ∈ fields, ReadsItem { c with allowIn := true, inChoice := false }
      s.owesPattern (property (grammar n)) (fieldText f)
      (.value (.string ⟨f.1, false⟩) f.2.expr) := by
    intro f hf
    have hle : (fieldText f).length ≤ (commaSeparated (fields.map fieldText)).length :=
      length_le_of_mem_commaSeparated (List.mem_map_of_mem hf)
    simp only [fieldText, List.length_append, List.length_cons] at hle
    exact readsItem_field (hfields f hf) (by omega)
  have hlength :
      (commaSeparated (fields.map fieldText) ++ '\x7d' :: k :: rest).length < c.fuel := by
    simp only [List.length_append, List.length_cons]
    omega
  have hlist := separated_items (by simp : '\x7d' ∈ [']', '\x7d']) hk hfield hlength
  rw [primary_of_brace htoken.symm, hnext, Value.expr, fieldProperties_eq]
  exact congrArg (Option.map _) hlist

mutual

theorem readsOperand : ∀ v : Value, ReadsOperand v
  | .null => readsOperand_word (text_word .null (.inl rfl)).1 rfl (text_word .null (.inl rfl)).2
  | .bool b =>
    readsOperand_word (text_word (.bool b) (.inr ⟨b, rfl⟩)).1 rfl
      (text_word (.bool b) (.inr ⟨b, rfl⟩)).2
  | .number x => readsOperand_number x
  | .string t => readsOperand_string t
  | .array items => readsOperand_array (readsOperand_items items)
  | .object fields => readsOperand_object (readsOperand_fields fields)

theorem readsOperand_items : ∀ items : List Value, ∀ v ∈ items, ReadsOperand v
  | [], _, h => absurd h List.not_mem_nil
  | v :: rest, w, h =>
    (List.mem_cons.mp h).elim (fun heq => heq ▸ readsOperand v) (readsOperand_items rest w)

theorem readsOperand_fields : ∀ fields : List (String × Value), ∀ f ∈ fields, ReadsOperand f.2
  | [], _, h => absurd h List.not_mem_nil
  | (_, v) :: rest, f, h =>
    (List.mem_cons.mp h).elim (fun heq => heq ▸ readsOperand v) (readsOperand_fields rest f)

end

/-- Wherever an expression may stand in a program, in front of what ends it, the characters are read
as the expression: reading goes on behind them. -/
def ReadsAs (cs : List Char) (e : Expr) : Prop :=
  ∀ {n : Nat} {c : Context} {s : State} {k : Char} {rest : List Char}, k ∈ closers →
    Lexer.token c.fuel (cs ++ k :: rest) = (s.token, s.rest) →
    (cs ++ k :: rest).length < c.fuel → cs.length < n →
    (grammar n).assignment c s = some (e, .solid c s.owesPattern (k :: rest))

/-- **The text of a value is read as its expression**, in a program of any dialect. -/
theorem readsAs_value (v : Value) : ReadsAs v.text.toList v.expr :=
  fun hk hs hfuel hdepth => (readsOperand v).assignment hk hs hfuel hdepth

end StorySuite.Script.Parser
