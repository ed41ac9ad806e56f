import Mathlib.Data.List.Forall2
import StorySuite.Proofs.Script.Parser.Members
import StorySuite.Proofs.Text.Pieces

/-!
# Proofs — Script — the words of a text

A program is a sequence of words.  Two characters do not tell by themselves what word they begin: a
slash divides or begins a regular expression, and a brace that closes may go on with a template.
The grammar decides about the first, so it is left open here (`Marks.slashes`); the braces tell the
second.

Two texts are *alike* when their words are the same but for the literals of given pairs of strings.

* `HasWords`: the words of a text, as far as it has them.
* **`nextWord_quote`**: a string that data writes is one word, whatever is in it and behind it.
* `Alike`, `Matches`: texts that are alike, and texts that are alike in front of alike ones.
* `StandsAlone`: a text whose words do not depend on what is behind it.
* `standsAlone_of_isSpaced`: a check for that.
-/

namespace StorySuite.Script

/-! ### Words -/

/-- A word of a program.  A regular expression is a word where a value may stand. -/
inductive Word where
  | token (t : Token)
  | regex (l : Literal)
  deriving DecidableEq

/-- The literal by which data writes a string. -/
def Word.literal (s : String) : Word :=
  .token (.string ⟨s, false⟩ (Json.quote s))

/-- The sign. -/
def Word.sign (s : String) : Word :=
  .token (.sign s)

/-- What decides how the next word is read. -/
structure Marks where
  /-- Whether the slashes to come begin regular expressions; those that do not divide. -/
  slashes : List Bool
  /-- The open braces, the last one first, and whether each is one of a template. -/
  braces : List Bool
  /-- No word stands on this line so far. -/
  newline : Bool

namespace Marks

/-- What decides behind a word. -/
def behind (m : Marks) (t : Token) : Marks :=
  { m with
    newline := false
    braces := match t with
      | .sign "\x7b" => false :: m.braces
      | .sign "\x7d" => m.braces.tail
      | .chunk _ false => true :: m.braces
      | _ => m.braces }

/-- No template is open. -/
def InCode (m : Marks) : Prop :=
  true ∉ m.braces

end Marks

/-- The word at the front of `cs`, before which there is no gap. -/
def wordAt (m : Marks) (cs : List Char) : Option (Word × Marks × List Char) :=
  let found (m : Marks) (r : Token × List Char) := some (Word.token r.1, m.behind r.1, r.2)
  let fuel := cs.length + 1
  match cs with
  | [] => none
  | c :: rest =>
    if c = '/' then
      let m' := { m with slashes := m.slashes.tail }
      if m.slashes.head? = some true then
        match Lexer.regex? cs with
        | some (l, rest) => some (.regex l, m', rest)
        | none => found m' (.bad, rest)
      else found m' (Lexer.token fuel cs)
    else if c = '>' then
      found m (match Lexer.sign? angleSigns cs with
        | some (s, rest) => (.sign s, rest)
        | none => (.bad, rest))
    else if c = '\x7d' ∧ m.braces.head? = some true then
      found { m with braces := m.braces.tail } (Lexer.chunk fuel rest)
    else found m (Lexer.token fuel cs)

/-- The first word of `cs`, what decides behind it, and what follows it; none where there is no
word. -/
def nextWord (script : Bool) (m : Marks) (cs : List Char) : Option (Word × Marks × List Char) :=
  match Lexer.skipGap? (cs.length + 1) script false false { newline := m.newline } cs with
  | some (_, _, cs) => wordAt { m with newline := false } cs
  | none => some (.token .bad, { m with newline := false }, [])

/-- The words of a text, up to the first one that is none. -/
inductive HasWords (script : Bool) : Marks → List Char → List Word → Prop
  | finish {m : Marks} {cs : List Char} : nextWord script m cs = none → HasWords script m cs []
  | bad {m m' : Marks} {cs rest : List Char} :
      nextWord script m cs = some (.token .bad, m', rest) → HasWords script m cs [.token .bad]
  | word {m m' : Marks} {cs rest : List Char} {w : Word} {ws : List Word} :
      nextWord script m cs = some (w, m', rest) → w ≠ .token .bad → HasWords script m' rest ws →
      HasWords script m cs (w :: ws)

/-- The first `n` words of a text, as far as it has them. -/
def firstWords (script : Bool) : Nat → Marks → List Char → List Word
  | 0, _, _ => []
  | n + 1, m, cs =>
    match nextWord script m cs with
    | none => []
    | some (w, m', rest) => if w = .token .bad then [w] else w :: firstWords script n m' rest

/-- A text has its words in one way. -/
theorem HasWords.firstWords_eq {script : Bool} {m : Marks} {cs : List Char} {ws : List Word}
    (h : HasWords script m cs ws) : ∀ n, firstWords script n m cs = ws.take n := by
  induction h with
  | finish hnext => intro n; cases n <;> simp [firstWords, hnext]
  | bad hnext => intro n; cases n <;> simp [firstWords, hnext]
  | word hnext hbad _ ih => intro n; cases n <;> simp [firstWords, hnext, hbad, ih]

/-! ### How a text begins -/

section Begins

variable {script : Bool} {cs rest : List Char} {t : Token}

/-- Outside of templates, the text begins with the word `t`. -/
def BeginsWith (script : Bool) (cs : List Char) (t : Token) (rest : List Char) : Prop :=
  ∀ m : Marks, m.InCode → nextWord script m cs = some (.token t, m.behind t, rest)

theorem nextWord_of_solid {c : Char} {m : Marks} (hsolid : Lexer.IsSolid (c :: cs))
    (hc : c ∉ ['/', '>']) (hm : c = '\x7d' → m.braces.head? ≠ some true)
    (ht : Lexer.token ((c :: cs).length + 1) (c :: cs) = (t, rest)) :
    nextWord script m (c :: cs) = some (.token t, m.behind t, rest) := by
  simp only [List.mem_cons, List.not_mem_nil, or_false, not_or] at hc
  have hgap := hsolid (c :: cs).length script false false { newline := m.newline }
  have hclose : ¬ (c = '\x7d' ∧ m.braces.head? = some true) := fun h => hm h.1 h.2
  simp only [nextWord, hgap, wordAt, hc, hclose, if_false, ht]
  rfl

/-- **A string that data writes is one word**: a literal that ends where the text of the string
ends, and whose value is the string. -/
theorem nextWord_quote (script : Bool) (m : Marks) (s : String) (rest : List Char) :
    nextWord script m ((Json.quote s).toList ++ rest) =
      some (.literal s, { m with newline := false }, rest) := by
  have hlength := Parser.length_le_length_quote s
  have htoken := Lexer.token_quote s (((Json.quote s).toList ++ rest).length + 1) rest
    (by rw [List.length_append]; omega)
  have hfront : (Json.quote s).toList ++ rest = '"' :: (Json.escape s.toList ++ '"' :: rest) := by
    simp [Json.quote]
  rw [hfront] at htoken ⊢
  refine nextWord_of_solid (Lexer.isSolid_cons ?_ ?_ ?_ _) ?_ ?_ htoken
  · decide
  · decide
  · decide
  · decide
  · exact fun h => absurd h (by decide)

/-- Where a word begins outside of templates. -/
theorem beginsWith_of_solid {c : Char} (hsolid : Lexer.IsSolid (c :: cs)) (hc : c ∉ ['/', '>'])
    (ht : ∀ fuel, Lexer.token fuel (c :: cs) = (t, rest)) :
    BeginsWith script (c :: cs) t rest := by
  intro m hm
  exact nextWord_of_solid hsolid hc (fun _ hhead => hm (List.mem_of_mem_head? hhead))
    (ht _)

theorem beginsWith_quote (s : String) (rest : List Char) :
    BeginsWith script ((Json.quote s).toList ++ rest) (.string ⟨s, false⟩ (Json.quote s)) rest :=
  fun _ _ => nextWord_quote script _ s rest

theorem beginsWith_bracket {k : Char} (hk : k ∈ brackets) (rest : List Char) :
    BeginsWith script (k :: rest) (.sign (String.singleton k)) rest := by
  have hplain := isPlain_of_mem_brackets hk
  refine beginsWith_of_solid (Lexer.isSolid_cons hplain.space hplain.lineEnd ?_ rest) ?_
    fun fuel => Lexer.token_bracket hk fuel rest
  · exact fun h => hplain.others (List.subset_def.mp (by simp) h)
  · have hall : ∀ k ∈ brackets, k ∉ ['/', '>'] := List.all_iff_forall_prop.mp (by decide)
    exact hall k hk

theorem beginsWith_name {cs : List Char} (hcs : IsSpelling cs)
    (hchars : ∀ c ∈ cs, BindingName.isNameChar c = true) {k : Char}
    (hpart : isNamePart k = false) (hescape : k ≠ '\\') (rest : List Char) :
    BeginsWith script (cs ++ k :: rest) (.name (String.ofList cs) false) (k :: rest) := by
  have hsolid := hcs.isSolid hchars (k :: rest)
  have htoken (fuel : Nat) := Lexer.token_spelling hcs hpart hescape fuel rest
  cases cs with
  | nil => exact absurd hcs id
  | cons c cs =>
      refine beginsWith_of_solid hsolid ?_ fun fuel => htoken fuel
      have hnone : ∀ c ∈ ['/', '>'], isNameStart c = false :=
        List.all_iff_forall_prop.mp (by decide)
      intro h
      have hstart := hcs.1
      rw [hnone c h] at hstart
      cases hstart

/-- A numeral without a sign. -/
theorem beginsWith_unsigned {w : Json.Numeral} (hw : w.WellFormed) {k : Char} (hk : k ∈ brackets)
    (rest : List Char) :
    BeginsWith script (w.unsigned ++ k :: rest) (.number w.magnitude) (k :: rest) := by
  have htoken (fuel : Nat) := Lexer.token_numeral hw hk fuel rest
  obtain ⟨d, ds, hds, hdigit⟩ := hw.front
  rw [hds, List.cons_append] at htoken ⊢
  obtain ⟨-, -, -, hothers⟩ := Lexer.figure_starts hdigit
  exact beginsWith_of_solid (Lexer.isSolid_digit hdigit _)
    (fun h => hothers (List.subset_def.mp (by simp) h)) fun fuel => htoken fuel

theorem beginsWith_minus {d : Char} (hd : d.isDigit = true) (rest : List Char) :
    BeginsWith script ('-' :: d :: rest) (.sign "-") (d :: rest) :=
  beginsWith_of_solid (Lexer.isSolid_minus hd rest) (by decide)
    fun fuel => Lexer.token_minus hd fuel rest

/-- A point in front of a name. -/
theorem beginsWith_point {d : Char} (hd : isNameStart d = true) (rest : List Char) :
    BeginsWith script ('.' :: d :: rest) (.sign ".") (d :: rest) := by
  have hdigit : d.isDigit = false := by
    rw [← Bool.not_eq_true]
    intro hdigit
    rw [(Lexer.figure_starts hdigit).1] at hd
    cases hd
  have hpoint : '.' ≠ d := by
    rintro rfl
    revert hd
    decide
  have hname : isNameStart '.' = false := by decide
  refine beginsWith_of_solid (Lexer.isSolid_cons ?_ ?_ ?_ _) ?_ fun fuel => ?_
  · decide
  · decide
  · decide
  · decide
  · simp [Lexer.token, Lexer.sign?, signs, Text.dropStart?, hname, hdigit, hpoint]

/-- The signs that generated code writes between blanks. -/
def spacedSigns : List String :=
  ["=", "=>", "===", "&&", "||", "?"]

theorem beginsWith_spaced {s : String} (hs : s ∈ spacedSigns) (rest : List Char) :
    BeginsWith script (s.toList ++ ' ' :: rest) (.sign s) (' ' :: rest) := by
  have hall : ∀ c ∈ ['=', '&', '|', '?'], isNameStart c = false ∧ isSpace c = false ∧
      isLineEnd c = false ∧ c ∉ ['/', '<', '-'] ∧ c ∉ ['/', '>'] :=
    List.all_iff_forall_prop.mp (by decide)
  have hfronts : ∀ s ∈ spacedSigns, ∃ c ∈ ['=', '&', '|', '?'], s.toList.head? = some c := by
    simp [spacedSigns]
  obtain ⟨c, hc, hhead⟩ := hfronts s hs
  obtain ⟨cs, hcs⟩ := List.head?_eq_some_iff.mp hhead
  have htoken (fuel : Nat) :
      Lexer.token fuel (s.toList ++ ' ' :: rest) = (.sign s, ' ' :: rest) := by
    simp only [List.forall_mem_cons] at hall
    simp only [spacedSigns, List.mem_cons, List.not_mem_nil, or_false] at hs
    rcases hs with rfl | rfl | rfl | rfl | rfl | rfl <;>
      simp [Lexer.token, Lexer.sign?, signs, Text.dropStart?, hall]
  obtain ⟨-, hspace, hline, hgap, hothers⟩ := hall c hc
  rw [hcs, List.cons_append] at htoken ⊢
  exact beginsWith_of_solid (Lexer.isSolid_cons hspace hline hgap _) hothers
    fun fuel => htoken fuel

/-- A blank decides nothing but whether a word stands on the line. -/
theorem exists_nextWord_blank (script : Bool) {c : Char} (hc : c ∈ [' ', '\n']) (m : Marks) :
    ∃ newline, ∀ rest : List Char,
      nextWord script m (c :: rest) = nextWord script { m with newline } rest := by
  simp only [List.mem_cons, List.not_mem_nil, or_false] at hc
  rcases hc with rfl | rfl
  · refine ⟨m.newline, fun rest => ?_⟩
    simp only [nextWord, List.length_cons, Lexer.skipGap?_space]
  · refine ⟨true, fun rest => ?_⟩
    simp only [nextWord, List.length_cons, Lexer.skipGap?_newline]
    simp [Lexer.Gap.endLine]

end Begins

/-! ### Texts that stand alone -/

/-- The word neither breaks off nor opens a value of a template. -/
def Token.isWhole : Token → Bool
  | .bad | .chunk _ false => false
  | _ => true

theorem Token.ne_bad_of_isWhole {t : Token} (h : t.isWhole = true) : t ≠ .bad := by
  rintro rfl
  cases h

/-- With the slashes `slashes`, the words of the text are the same whatever is behind it; the
slashes `left` remain. -/
def StandsAlone (script : Bool) (slashes left : List Bool) (cs : List Char) : Prop :=
  ∀ m : Marks, m.InCode → m.slashes = slashes → ∃ (ws : List Word) (m' : Marks),
    m'.InCode ∧ m'.slashes = left ∧ ∀ rest more,
      HasWords script m' rest more → HasWords script m (cs ++ rest) (ws ++ more)

/-- A word changes no slashes, and opens no template. -/
theorem Marks.InCode.behind {m : Marks} (hm : m.InCode) {t : Token} (ht : t.isWhole = true) :
    (m.behind t).InCode ∧ (m.behind t).slashes = m.slashes := by
  refine ⟨?_, rfl⟩
  unfold Marks.InCode Marks.behind at *
  dsimp only
  split
  · simpa using hm
  · exact fun h => hm (List.mem_of_mem_tail h)
  · cases ht
  · exact hm

theorem HasWords.of_nextWord_eq {script : Bool} {m m' : Marks} {cs cs' : List Char}
    {ws : List Word} (h : nextWord script m cs = nextWord script m' cs')
    (hwords : HasWords script m' cs' ws) : HasWords script m cs ws := by
  cases hwords with
  | finish hnext => exact .finish (h.trans hnext)
  | bad hnext => exact .bad (h.trans hnext)
  | word hnext hbad hmore => exact .word (h.trans hnext) hbad hmore

namespace StandsAlone

variable {script : Bool} {slashes middle left : List Bool} {cs ds : List Char}

theorem nil : StandsAlone script slashes slashes [] := fun m hm hslashes =>
  ⟨[], m, hm, hslashes, fun _ _ h => h⟩

theorem append (hcs : StandsAlone script slashes middle cs)
    (hds : StandsAlone script middle left ds) : StandsAlone script slashes left (cs ++ ds) := by
  intro m hm hslashes
  obtain ⟨ws, m', hm', hslashes', hfront⟩ := hcs m hm hslashes
  obtain ⟨ws', m'', hm'', hslashes'', hback⟩ := hds m' hm' hslashes'
  refine ⟨ws ++ ws', m'', hm'', hslashes'', fun rest more h => ?_⟩
  rw [List.append_assoc, List.append_assoc]
  exact hfront _ _ (hback _ _ h)

theorem word {rest : List Char} {t : Token} (ht : t.isWhole = true)
    (h : ∀ more, BeginsWith script (cs ++ more) t (rest ++ more))
    (hrest : StandsAlone script slashes left rest) : StandsAlone script slashes left cs := by
  intro m hm hslashes
  obtain ⟨hbehind, hsame⟩ := hm.behind ht
  obtain ⟨ws, m', hm', hslashes', hwords⟩ := hrest _ hbehind (hsame.trans hslashes)
  refine ⟨.token t :: ws, m', hm', hslashes', fun more words hmore => ?_⟩
  have hne : Word.token t ≠ .token .bad := fun heq =>
    Token.ne_bad_of_isWhole ht (Word.token.inj heq)
  exact .word (h more m hm) hne (hwords _ _ hmore)

theorem blank {c : Char} (hc : c ∈ [' ', '\n']) (hcs : StandsAlone script slashes left cs) :
    StandsAlone script slashes left (c :: cs) := by
  intro m hm hslashes
  obtain ⟨newline, hnext⟩ := exists_nextWord_blank script hc m
  obtain ⟨ws, m', hm', hslashes', hwords⟩ := hcs { m with newline } hm hslashes
  exact ⟨ws, m', hm', hslashes', fun rest more h => (hwords rest more h).of_nextWord_eq (hnext _)⟩

theorem bracket {k : Char} (hk : k ∈ brackets) (hcs : StandsAlone script slashes left cs) :
    StandsAlone script slashes left (k :: cs) :=
  word rfl (fun more => beginsWith_bracket hk (cs ++ more)) hcs

theorem quote (s : String) : StandsAlone script slashes slashes (Json.quote s).toList :=
  word rfl (fun more => beginsWith_quote s more) nil

end StandsAlone

/-! ### Texts written with blanks -/

/-- What is behind the first word, where this shows without looking any further. -/
def behindWord? (cs : List Char) : Option (List Char) :=
  match cs with
  | [] => none
  | c :: rest =>
    if c ∈ brackets then some rest
    else if c = '.' then if rest.head?.any isNameStart then some rest else none
    else if c = '"' then
      Text.dropStart? (Json.quote (String.ofList (rest.takeWhile (· != '"')))).toList cs
    else
      let name := cs.takeWhile isNamePart
      match cs.dropWhile isNamePart with
      | [] => none
      | k :: rest =>
        if name = [] then
          spacedSigns.findSome? fun s => (Text.dropStart? (s.toList ++ [' ']) cs).map (' ' :: ·)
        else if IsSpelling name ∧ name.all BindingName.isNameChar ∧ k ≠ '\\' then some (k :: rest)
        else none

/-- The text consists of words that show where they end, and of blanks. -/
def isSpaced : Nat → List Char → Bool
  | 0, _ => false
  | _ + 1, [] => true
  | fuel + 1, c :: cs =>
    if c ∈ [' ', '\n'] then isSpaced fuel cs
    else match behindWord? (c :: cs) with
      | some rest => isSpaced fuel rest
      | none => false

theorem exists_beginsWith_of_behindWord? (script : Bool) {cs rest : List Char}
    (h : behindWord? cs = some rest) : ∃ t : Token, t.isWhole = true ∧
      ∀ more, BeginsWith script (cs ++ more) t (rest ++ more) := by
  unfold behindWord? at h
  split at h
  · cases h
  rename_i c after
  -- a bracket, a point, a text, or a name or sign
  split_ifs at h with hbracket hpoint hstart hmark
  · obtain rfl := Option.some.inj h
    exact ⟨_, rfl, fun more => beginsWith_bracket hbracket _⟩
  · obtain rfl := Option.some.inj h
    subst hpoint
    cases after with
    | nil => cases hstart
    | cons d after =>
        exact ⟨_, rfl, fun more => beginsWith_point (by simpa using hstart) _⟩
  · obtain ⟨s, htext⟩ : ∃ s, c :: after = (Json.quote s).toList ++ rest :=
      ⟨_, Text.dropStart?_eq_some_iff.mp h⟩
    refine ⟨.string ⟨s, false⟩ (Json.quote s), rfl, fun more => ?_⟩
    rw [htext, List.append_assoc]
    exact beginsWith_quote s _
  · dsimp only at h
    have hcs : c :: after =
        (c :: after).takeWhile isNamePart ++ (c :: after).dropWhile isNamePart :=
      List.takeWhile_append_dropWhile.symm
    split at h
    · cases h
    rename_i k behind hdrop
    split_ifs at h with hempty hname
    · obtain ⟨s, hs, hfound⟩ := List.exists_of_findSome?_eq_some h
      obtain ⟨more, hmore, rfl⟩ := Option.map_eq_some_iff.mp hfound
      rw [Text.dropStart?_eq_some_iff.mp hmore]
      refine ⟨.sign s, rfl, fun behind => ?_⟩
      simpa using beginsWith_spaced hs (more ++ behind)
    · obtain rfl := Option.some.inj h
      obtain ⟨hspelling, hchars, hescape⟩ := hname
      have hpart : isNamePart k = false := by
        have hhead := List.head?_dropWhile_not isNamePart (c :: after)
        simpa [hdrop] using hhead
      rw [hdrop] at hcs
      generalize (c :: after).takeWhile isNamePart = name at hcs hspelling hchars
      refine ⟨.name (String.ofList name) false, rfl, fun more => ?_⟩
      rw [hcs, List.append_assoc]
      exact beginsWith_name hspelling (List.all_eq_true.mp hchars) hpart hescape _

/-- **A text that is written with blanks stands alone.** -/
theorem standsAlone_of_isSpaced {script : Bool} {slashes : List Bool} :
    ∀ {fuel : Nat} {cs : List Char}, isSpaced fuel cs = true → StandsAlone script slashes slashes cs
  | _ + 1, [], _ => .nil
  | fuel + 1, c :: cs, h => by
      unfold isSpaced at h
      split_ifs at h with hblank
      · exact .blank hblank (standsAlone_of_isSpaced h)
      · split at h
        · rename_i rest hword
          obtain ⟨t, ht, hbegins⟩ := exists_beginsWith_of_behindWord? script hword
          exact .word ht hbegins (standsAlone_of_isSpaced h)
        · cases h

/-! ### Texts with words alike -/

/-- The words are the same, or they are the literals of a pair of strings. -/
def Word.Varies (pairs : List (String × String)) (w w' : Word) : Prop :=
  w = w' ∨ ∃ p ∈ pairs, w = .literal p.1 ∧ w' = .literal p.2

/-- Read with the slashes `slashes`, the words of the two texts are the same but for the literals of
the pairs. -/
def Alike (script : Bool) (pairs : List (String × String)) (slashes : List Bool)
    (cs cs' : List Char) : Prop :=
  ∀ m : Marks, m.InCode → m.slashes = slashes → ∃ ws ws' : List Word,
    HasWords script m cs ws ∧ HasWords script m cs' ws' ∧ List.Forall₂ (Word.Varies pairs) ws ws'

/-- In front of texts that are alike, the two texts are alike. -/
structure Matches (script : Bool) (pairs : List (String × String)) (slashes left : List Bool)
    (cs cs' : List Char) : Prop where
  inFront : ∀ {rest rest' : List Char}, Alike script pairs left rest rest' →
    Alike script pairs slashes (cs ++ rest) (cs' ++ rest')

section Alike

variable {script : Bool} {pairs : List (String × String)} {slashes middle left : List Bool}
  {cs cs' ds ds' rest rest' : List Char}

instance : Std.Refl (Word.Varies pairs) :=
  ⟨fun _ => .inl rfl⟩

theorem Alike.nil : Alike script pairs slashes [] [] := by
  have hnext (m : Marks) : nextWord script m [] = none := by
    simp [nextWord, Lexer.skipGap?, wordAt]
  exact fun m _ _ => ⟨[], [], .finish (hnext m), .finish (hnext m), .nil⟩

theorem Alike.word {t : Token} (ht : t.isWhole = true) (h : BeginsWith script cs t rest)
    (h' : BeginsWith script cs' t rest') (hrest : Alike script pairs slashes rest rest') :
    Alike script pairs slashes cs cs' := by
  intro m hm hslashes
  obtain ⟨hbehind, hsame⟩ := hm.behind ht
  obtain ⟨ws, ws', hws, hws', hvary⟩ := hrest _ hbehind (hsame.trans hslashes)
  have hne : Word.token t ≠ .token .bad := fun heq =>
    Token.ne_bad_of_isWhole ht (Word.token.inj heq)
  exact ⟨_, _, .word (h m hm) hne hws, .word (h' m hm) hne hws', .cons (.inl rfl) hvary⟩

theorem StandsAlone.matches (h : StandsAlone script slashes left cs) :
    Matches script pairs slashes left cs cs := by
  refine ⟨fun {rest rest'} hrest m hm hslashes => ?_⟩
  obtain ⟨ws, m', hm', hslashes', hwords⟩ := h m hm hslashes
  obtain ⟨more, more', hmore, hmore', hvary⟩ := hrest m' hm' hslashes'
  refine ⟨_, _, hwords _ _ hmore, hwords _ _ hmore', ?_⟩
  exact List.rel_append (List.forall₂_refl ws) hvary

namespace Matches

theorem append (hcs : Matches script pairs slashes middle cs cs')
    (hds : Matches script pairs middle left ds ds') :
    Matches script pairs slashes left (cs ++ ds) (cs' ++ ds') := by
  refine ⟨fun hrest => ?_⟩
  rw [List.append_assoc, List.append_assoc]
  exact hcs.inFront (hds.inFront hrest)

/-- The literals of a pair. -/
theorem literal {s s' : String} (hs : (s, s') ∈ pairs) :
    Matches script pairs slashes slashes (Json.quote s).toList (Json.quote s').toList := by
  refine ⟨fun {rest rest'} hrest m hm hslashes => ?_⟩
  obtain ⟨ws, ws', hws, hws', hvary⟩ := hrest { m with newline := false } hm hslashes
  have hne (s : String) : Word.literal s ≠ .token .bad := by simp [Word.literal]
  exact ⟨_, _, .word (nextWord_quote script m s rest) (hne s) hws,
    .word (nextWord_quote script m s' rest') (hne s') hws', .cons (.inr ⟨_, hs, rfl, rfl⟩) hvary⟩

theorem spaced {fuel : Nat} (h : isSpaced fuel cs = true) :
    Matches script pairs slashes slashes cs cs :=
  (standsAlone_of_isSpaced h).matches

end Matches

/-- Where a name breaks off, no text goes on. -/
theorem exists_hasWords_of_breaksOff (script : Bool) {front : List Char} {c : Char}
    {more : List Char} (hcs : BreaksOff cs front c more)
    (hchars : ∀ c ∈ cs, BindingName.isNameChar c = true) (m : Marks) (hm : m.InCode) :
    ∃ ws, ∀ rest, HasWords script m (cs ++ rest) ws := by
  have hbad (rest : List Char) : BeginsWith script (c :: rest) .bad rest := by
    have hnot : c ∉ ['/', '>'] := by
      have hall : ∀ d ∈ ['/', '>'], d.toNat < 0x80 := List.all_iff_forall_prop.mp (by decide)
      exact fun hmem => hcs.alien.not_ascii (hall c hmem)
    exact beginsWith_of_solid (hcs.alien.isSolid rest) hnot
      fun fuel => Lexer.token_alien hcs.alien fuel rest
  rcases hcs.before with rfl | hspelling
  · refine ⟨[.token .bad], fun rest => ?_⟩
    rw [hcs.eq]
    exact .bad (hbad (more ++ rest) m hm)
  · refine ⟨[.token (.name (String.ofList front) false), .token .bad], fun rest => ?_⟩
    have hfront : ∀ d ∈ front, BindingName.isNameChar d = true := fun d hd =>
      hchars d (by rw [hcs.eq]; exact List.mem_append_left _ hd)
    have hname : BeginsWith script (front ++ c :: (more ++ rest))
        (.name (String.ofList front) false) (c :: (more ++ rest)) :=
      beginsWith_name hspelling hfront (hcs.part hspelling.ne_nil) (hcs.alien.ne (by decide)) _
    rw [hcs.eq, List.append_assoc, List.cons_append]
    exact .word (hname m hm) (by simp) (.bad (hbad _ _ (hm.behind rfl).1))

/-- **An accepted name** is one word in front of what stands in no name, or its text breaks off. -/
theorem Alike.name {s : String} (hs : BindingName.isWellFormed s = true) {k : Char}
    (hpart : isNamePart k = false) (hescape : k ≠ '\\')
    (h : Alike script pairs slashes (k :: rest) (k :: rest')) :
    Alike script pairs slashes (s.toList ++ k :: rest) (s.toList ++ k :: rest') := by
  obtain ⟨c, cs, hcs, -, hchars⟩ := isWellFormed_iff.mp hs
  rw [← hcs] at hchars
  rcases isSpelling_or_breaksOff hs with hspelling | ⟨front, c, more, hbreaks⟩
  · exact .word rfl (beginsWith_name hspelling hchars hpart hescape rest)
      (beginsWith_name hspelling hchars hpart hescape rest') h
  · intro m hm _
    obtain ⟨ws, hws⟩ := exists_hasWords_of_breaksOff script hbreaks hchars m hm
    exact ⟨ws, ws, hws _, hws _, List.forall₂_refl ws⟩

end Alike

end StorySuite.Script
