import StorySuite.Proofs.Json.Fields
import StorySuite.Proofs.Script.Words

/-!
# Proofs — Json — the words of data

Data that is written out in a program is as many words as it has brackets, commas, colons, names,
numbers and strings.  Whatever a string in it is, it is one literal, so data that differs in strings
alone has the same words but for these literals.

* `MatchesOperand`: texts that are alike in front of what ends an expression.
* **`matchesOperand_value`**: data is alike with itself whatever is behind it.
* `FieldsAlike`, `matches_object`: objects that differ in some of their strings.
* **`hasWords_strings`**: the words of a list of strings.
-/

namespace StorySuite.Script

open Json
open StorySuite.Script.Parser (fieldText text_array text_object)

variable {script : Bool} {pairs : List (String × String)}

/-! ### Texts in front of brackets -/

/-- In front of a bracket, and of texts that are alike, the two texts are alike. -/
structure MatchesOperand (script : Bool) (pairs : List (String × String)) (cs cs' : List Char) :
    Prop where
  inFront : ∀ {slashes : List Bool} {k : Char} {rest rest' : List Char}, k ∈ brackets →
    Alike script pairs slashes (k :: rest) (k :: rest') →
    Alike script pairs slashes (cs ++ k :: rest) (cs' ++ k :: rest')

theorem Alike.bracket {slashes : List Bool} {k : Char} (hk : k ∈ brackets) {rest rest' : List Char}
    (h : Alike script pairs slashes rest rest') :
    Alike script pairs slashes (k :: rest) (k :: rest') :=
  .word rfl (beginsWith_bracket hk rest) (beginsWith_bracket hk rest') h

namespace MatchesOperand

variable {cs cs' : List Char} {css css' : List (List Char)}

theorem of_matches (h : ∀ slashes, Matches script pairs slashes slashes cs cs') :
    MatchesOperand script pairs cs cs' :=
  ⟨fun _ hrest => (h _).inFront hrest⟩

theorem name {s : String} (hs : BindingName.isWellFormed s = true) :
    MatchesOperand script pairs s.toList s.toList := by
  refine ⟨fun hk hrest => ?_⟩
  have hplain := isPlain_of_mem_brackets hk
  exact .name hs hplain.part (fun h => hplain.others (by simp [h])) hrest

/-- Lists of texts that are alike, with commas between them. -/
theorem commaSeparated (h : List.Forall₂ (MatchesOperand script pairs) css css') :
    MatchesOperand script pairs (Parser.commaSeparated css) (Parser.commaSeparated css') := by
  induction h with
  | nil => exact ⟨fun _ hrest => hrest⟩
  | cons hfirst hmore ih =>
      cases hmore with
      | nil => exact hfirst
      | cons hsecond hmore =>
          refine ⟨fun hk hrest => ?_⟩
          simp only [Parser.commaSeparated, List.append_assoc, List.cons_append]
          exact hfirst.inFront (by decide) (.bracket (by decide) (ih.inFront hk hrest))

/-- A list between brackets. -/
theorem enclosed {a b : Char} (ha : a ∈ brackets) (hb : b ∈ brackets)
    (h : List.Forall₂ (MatchesOperand script pairs) css css') (slashes : List Bool) :
    Matches script pairs slashes slashes (a :: (Parser.commaSeparated css ++ [b]))
      (a :: (Parser.commaSeparated css' ++ [b])) := by
  refine ⟨fun hrest => ?_⟩
  simp only [List.cons_append, List.append_assoc, List.nil_append]
  exact .bracket ha ((commaSeparated h).inFront hb (.bracket hb hrest))

theorem number (n : Number) : MatchesOperand script pairs n.text.toList n.text.toList := by
  refine ⟨fun {slashes k rest rest'} hk hrest => ?_⟩
  obtain ⟨hw, htext⟩ := n.numeral_spec
  have hunsigned : Alike script pairs slashes (n.numeral.unsigned ++ k :: rest)
      (n.numeral.unsigned ++ k :: rest') :=
    .word rfl (beginsWith_unsigned hw hk rest) (beginsWith_unsigned hw hk rest') hrest
  rw [htext, Numeral.text]
  split_ifs with hneg
  · obtain ⟨d, ds, hds, hdigit⟩ := hw.front
    rw [hds] at hunsigned ⊢
    exact .word rfl (beginsWith_minus hdigit _) (beginsWith_minus hdigit _) hunsigned
  · exact hunsigned

theorem string (s : String) :
    MatchesOperand script pairs (Value.string s).text.toList (Value.string s).text.toList :=
  of_matches fun _ => (StandsAlone.quote s).matches

theorem array {items items' : List Value}
    (h : List.Forall₂ (fun v v' => MatchesOperand script pairs v.text.toList v'.text.toList)
      items items') :
    MatchesOperand script pairs (Value.array items).text.toList
      (Value.array items').text.toList := by
  rw [text_array, text_array]
  refine of_matches (enclosed (by decide) (by decide) ?_)
  rwa [List.forall₂_map_left_iff, List.forall₂_map_right_iff]

end MatchesOperand

/-! ### Objects -/

/-- The fields have the same keys, and under each of them texts that are alike. -/
def FieldsAlike (script : Bool) (pairs : List (String × String)) : DataMap → DataMap → Prop :=
  List.Forall₂ fun f f' => f.1 = f'.1 ∧ MatchesOperand script pairs f.2.text.toList f'.2.text.toList

/-- Objects whose fields are alike. -/
theorem matches_object {fields fields' : DataMap} (h : FieldsAlike script pairs fields fields')
    (slashes : List Bool) :
    Matches script pairs slashes slashes (Value.object fields).text.toList
      (Value.object fields').text.toList := by
  rw [text_object, text_object]
  refine MatchesOperand.enclosed (by decide) (by decide) ?_ slashes
  rw [List.forall₂_map_left_iff, List.forall₂_map_right_iff]
  refine h.imp fun f f' hf => ?_
  obtain ⟨hkey, hvalue⟩ := hf
  refine ⟨fun hk hrest => ?_⟩
  simp only [fieldText, hkey, List.append_assoc, List.cons_append]
  exact (StandsAlone.quote f'.1).matches.inFront (.bracket (by decide) (hvalue.inFront hk hrest))

mutual

/-- **Data is alike with itself.** -/
theorem matchesOperand_value : ∀ v : Value,
    MatchesOperand script pairs v.text.toList v.text.toList
  | .null => .name (by decide)
  | .bool true => .name (by decide)
  | .bool false => .name (by decide)
  | .number n => .number n
  | .string s => .string s
  | .array items => .array (matchesOperand_items items)
  | .object fields => .of_matches (matches_object (fieldsAlike_refl fields))

theorem matchesOperand_items : ∀ items : List Value,
    List.Forall₂ (fun v v' => MatchesOperand script pairs v.text.toList v'.text.toList) items items
  | [] => .nil
  | v :: rest => .cons (matchesOperand_value v) (matchesOperand_items rest)

theorem fieldsAlike_refl : ∀ fields : DataMap, FieldsAlike script pairs fields fields
  | [] => .nil
  | (_, v) :: rest => .cons ⟨rfl, matchesOperand_value v⟩ (fieldsAlike_refl rest)

end

/-- Strings of a pair. -/
theorem matchesOperand_string {s s' : String} (hs : (s, s') ∈ pairs) :
    MatchesOperand script pairs (Value.string s).text.toList (Value.string s').text.toList :=
  .of_matches fun _ => .literal hs

namespace FieldsAlike

variable {m m' : DataMap}

/-- Putting texts that are alike under the same key. -/
theorem insert (h : FieldsAlike script pairs m m') (key : String) {v v' : Value}
    (hv : MatchesOperand script pairs v.text.toList v'.text.toList) :
    FieldsAlike script pairs (m.insert key v) (m'.insert key v') := by
  induction h with
  | nil => exact .cons ⟨rfl, hv⟩ .nil
  | @cons f f' rest rest' hf hrest ih =>
      obtain ⟨k, w⟩ := f
      obtain ⟨k', w'⟩ := f'
      obtain ⟨rfl, hw⟩ := hf
      simp only [DataMap.insert]
      split_ifs
      · exact .cons ⟨rfl, hv⟩ hrest
      · exact .cons ⟨rfl, hw⟩ ih

theorem insertAll (h : FieldsAlike script pairs m m') (more : DataMap) :
    FieldsAlike script pairs (m.insertAll more) (m'.insertAll more) := by
  induction more generalizing m m' with
  | nil => exact h
  | cons f more ih => exact ih (h.insert f.1 (matchesOperand_value f.2))

end FieldsAlike

/-! ### Lists of strings -/

/-- The words of a list of strings. -/
def stringsWords (strings : List String) : List Word :=
  .sign "[" :: ((strings.map Word.literal).intersperse (.sign ",") ++ [.sign "]"])

theorem hasWords_bracket {k : Char} (hk : k ∈ ['[', ',', ']']) {m : Marks} (hm : m.InCode)
    {rest : List Char} {ws : List Word} (h : HasWords script { m with newline := false } rest ws) :
    HasWords script m (k :: rest) (.sign (String.singleton k) :: ws) := by
  simp only [List.mem_cons, List.not_mem_nil, or_false] at hk
  rcases hk with rfl | rfl | rfl <;>
    exact .word (beginsWith_bracket (by decide) rest m hm) (by simp [Word.sign]) h

theorem hasWords_literal (s : String) {m : Marks} {rest : List Char} {ws : List Word}
    (h : HasWords script { m with newline := false } rest ws) :
    HasWords script m ((Json.quote s).toList ++ rest) (.literal s :: ws) :=
  .word (nextWord_quote script m s rest) (by simp [Word.literal]) h

/-- The words of strings with commas between them. -/
theorem hasWords_commaSeparated {m : Marks} (hm : m.InCode) {rest : List Char} {ws : List Word}
    (h : HasWords script { m with newline := false } rest ws) :
    ∀ (s : String) (strings : List String), HasWords script m
      (Parser.commaSeparated ((s :: strings).map fun s => (Json.quote s).toList) ++ rest)
      (((s :: strings).map Word.literal).intersperse (.sign ",") ++ ws)
  | s, [] => hasWords_literal s h
  | s, t :: strings => by
      have hmore := hasWords_commaSeparated (m := { m with newline := false }) hm h t strings
      simp only [List.map_cons, Parser.commaSeparated, List.append_assoc, List.cons_append,
        List.intersperse_cons_cons] at hmore ⊢
      exact hasWords_literal s
        (hasWords_bracket (k := ',') (by decide) (m := { m with newline := false }) hm hmore)

/-- **The words of a list of strings** are its brackets, its commas, and one literal for each of the
strings. -/
theorem hasWords_strings (strings : List String) {m : Marks} (hm : m.InCode) {rest : List Char}
    {ws : List Word} (h : HasWords script { m with newline := false } rest ws) :
    HasWords script m ((Value.array (strings.map .string)).text.toList ++ rest)
      (stringsWords strings ++ ws) := by
  have hclose := hasWords_bracket (k := ']') (by decide) (m := { m with newline := false }) hm h
  rw [text_array, stringsWords, List.map_map, List.cons_append, List.cons_append,
    List.append_assoc, List.append_assoc]
  refine hasWords_bracket (k := '[') (by decide) hm ?_
  cases strings with
  | nil => exact hclose
  | cons s strings =>
      exact hasWords_commaSeparated (m := { m with newline := false }) hm hclose s strings

end StorySuite.Script
