import StorySuite.Path.Basic
import StorySuite.Proofs.Text.Pieces

/-!
# Proofs — Path — what keeps a path absolute

A path is absolute if its text begins with a separator.  Cutting a path into components and writing
components keep that apart: the components of an absolute path are the root and parts behind it, and
those of a relative path are parts (`Component.IsPart`).  Cleaning never takes the root away
(`Cleaned.IsRooted`) and never brings it in.

* `isAbsolute_join`, **`isAbsolute_clean`**, `isAbsolute_locate`: a path that is made of others is
  absolute if the last of them is, or the first.
* `isAbsolute_parent`, `isAbsolute_withFileName`: the directory and the siblings of an absolute path.
-/

namespace StorySuite

/-- The component is written between separators: its text has a first character, which is none. -/
def Component.IsPart (c : Component) : Prop :=
  ∃ first rest, c.text.toList = first :: rest ∧ first ≠ '/'

namespace Path

/-! ### Components -/

theorem isPart_current : Component.current.IsPart :=
  ⟨'.', [], rfl, by decide⟩

theorem isPart_parent : Component.parent.IsPart :=
  ⟨'.', ['.'], rfl, by decide⟩

theorem isPart_name {part : List Char} (hne : part ≠ []) (hsep : '/' ∉ part) :
    (Component.name (String.ofList part)).IsPart := by
  cases part with
  | nil => exact absurd rfl hne
  | cons first rest =>
      refine ⟨first, rest, String.toList_ofList, fun h => hsep ?_⟩
      rw [h]
      exact List.mem_cons_self

theorem not_isPart_root : ¬ Component.root.IsPart := by
  rintro ⟨first, rest, htext, -⟩
  cases htext

/-- What stands between separators are parts. -/
theorem isPart_of_mem_partComponents (atFront : Bool) (parts : List (List Char))
    (h : ∀ part ∈ parts, '/' ∉ part) : ∀ c ∈ partComponents atFront parts, c.IsPart := by
  fun_induction partComponents atFront parts
  case case1 => exact List.forall_mem_nil _
  case case2 ih => exact ih (List.forall_mem_cons.mp h).2
  case case3 ih => exact List.forall_mem_cons.mpr ⟨isPart_current, ih (List.forall_mem_cons.mp h).2⟩
  case case4 ih => exact ih (List.forall_mem_cons.mp h).2
  case case5 ih => exact List.forall_mem_cons.mpr ⟨isPart_parent, ih (List.forall_mem_cons.mp h).2⟩
  case case6 hne _ _ ih =>
    obtain ⟨hsep, hrest⟩ := List.forall_mem_cons.mp h
    exact List.forall_mem_cons.mpr ⟨isPart_name hne hsep, ih hrest⟩

/-- The components of a path: behind the root, if it is absolute, there are parts only. -/
theorem components_cases (p : Path) :
    (p.isAbsolute = true ∧ ∃ parts, p.components = .root :: parts ∧ ∀ c ∈ parts, c.IsPart) ∨
      (p.isAbsolute = false ∧ ∀ c ∈ p.components, c.IsPart) := by
  unfold isAbsolute components
  split
  · rename_i rest htext
    refine .inl ⟨by rw [htext]; rfl, _, rfl, ?_⟩
    exact isPart_of_mem_partComponents _ _ fun _ => Text.not_mem_of_mem_splitChars
  · rename_i hfront
    refine .inr ⟨?_, isPart_of_mem_partComponents _ _ fun _ => Text.not_mem_of_mem_splitChars⟩
    cases htext : p.text.toList with
    | nil => rfl
    | cons first rest =>
        have hne : first ≠ '/' := fun h => hfront rest (h ▸ htext)
        rw [List.head?_cons]
        exact beq_false_of_ne fun h => hne (Option.some.inj h)

/-- A text decides at its first character. -/
theorem isAbsolute_append {s : String} {first : Char} {rest : List Char}
    (h : s.toList = first :: rest) (more : String) :
    (Path.mk (s ++ more)).isAbsolute = (first == '/') := by
  unfold isAbsolute
  rw [String.toList_append, h]
  rfl

/-- What is written behind the root is absolute. -/
theorem isAbsolute_ofComponents_root (cs : List Component) :
    (ofComponents (.root :: cs)).isAbsolute = true := by
  simp [ofComponents, isAbsolute]

/-- What is written with parts only is relative. -/
theorem isAbsolute_ofComponents_parts {cs : List Component} (h : ∀ c ∈ cs, c.IsPart) :
    (ofComponents cs).isAbsolute = false := by
  cases cs with
  | nil => rfl
  | cons c rest =>
      obtain ⟨first, more, htext, hne⟩ := h c List.mem_cons_self
      have hwritten : ofComponents (c :: rest) =
          ⟨"/".intercalate ((c :: rest).map Component.text)⟩ := by
        cases c with
        | root => exact absurd (h .root List.mem_cons_self) not_isPart_root
        | current => rfl
        | parent => rfl
        | name s => rfl
      have hfront : ∃ rest', "/".intercalate ((c :: rest).map Component.text) = c.text ++ rest' := by
        cases rest with
        | nil => exact ⟨"", by rw [String.append_empty]; exact String.intercalate_singleton⟩
        | cons c' rest =>
            refine ⟨"/" ++ "/".intercalate ((c' :: rest).map Component.text), ?_⟩
            rw [← String.append_assoc]
            exact String.intercalate_cons_cons
      obtain ⟨behind, hbehind⟩ := hfront
      rw [hwritten, hbehind, isAbsolute_append htext]
      exact beq_false_of_ne hne

/-! ### Cleaning -/

/-- The components that are kept end, the last first, at the root. -/
def EndsAtRoot (acc : List Component) : Prop :=
  ∃ kept, acc = kept ++ [.root]

/-- Cleaning does not take the root away. -/
theorem EndsAtRoot.pushClean {acc : List Component} (h : EndsAtRoot acc) (c : Component) :
    EndsAtRoot (pushClean acc c) := by
  obtain ⟨kept, rfl⟩ := h
  cases c with
  | root => exact ⟨.root :: kept, rfl⟩
  | current => exact ⟨kept, rfl⟩
  | name s => exact ⟨.name s :: kept, rfl⟩
  | parent =>
      cases kept with
      | nil => exact ⟨[], rfl⟩
      | cons last kept =>
          cases last with
          | root => exact ⟨.root :: kept, rfl⟩
          | current => exact ⟨.parent :: .current :: kept, rfl⟩
          | parent => exact ⟨.parent :: .parent :: kept, rfl⟩
          | name s => exact ⟨kept, rfl⟩

theorem EndsAtRoot.foldl : ∀ (cs : List Component) {acc : List Component}, EndsAtRoot acc →
    EndsAtRoot (cs.foldl Path.pushClean acc)
  | [], _, h => h
  | c :: cs, _, h => EndsAtRoot.foldl cs (h.pushClean c)

/-- Cleaning does not bring the root in. -/
theorem isPart_of_mem_pushClean {acc : List Component} {c : Component}
    (hacc : ∀ c ∈ acc, c.IsPart) (hc : c.IsPart) : ∀ c' ∈ pushClean acc c, c'.IsPart := by
  cases c with
  | root => exact absurd hc not_isPart_root
  | current => exact hacc
  | name s => exact List.forall_mem_cons.mpr ⟨hc, hacc⟩
  | parent =>
      have hkeep : ∀ c ∈ .parent :: acc, c.IsPart := List.forall_mem_cons.mpr ⟨hc, hacc⟩
      cases acc with
      | nil => exact hkeep
      | cons last kept =>
          cases last with
          | root => exact hacc
          | name s => exact (List.forall_mem_cons.mp hacc).2
          | current => exact hkeep
          | parent => exact hkeep

theorem isPart_of_mem_foldl : ∀ (cs acc : List Component), (∀ c ∈ acc, c.IsPart) →
    (∀ c ∈ cs, c.IsPart) → ∀ c ∈ cs.foldl pushClean acc, c.IsPart
  | [], _, hacc, _ => hacc
  | c :: cs, acc, hacc, hcs => by
      obtain ⟨hc, hcs⟩ := List.forall_mem_cons.mp hcs
      exact isPart_of_mem_foldl cs (pushClean acc c) (isPart_of_mem_pushClean hacc hc) hcs

/-- **A cleaned path** is absolute if the path is. -/
@[simp] theorem isAbsolute_clean (p : Path) : p.clean.isAbsolute = p.isAbsolute := by
  rcases p.components_cases with ⟨habsolute, parts, hcomponents, -⟩ | ⟨hrelative, hparts⟩
  · have hroot : EndsAtRoot (p.components.foldl pushClean []) := by
      rw [hcomponents]
      exact EndsAtRoot.foldl parts ⟨[], rfl⟩
    obtain ⟨kept, hkept⟩ := hroot
    have hclean : p.clean = ofComponents (.root :: kept.reverse) := by
      unfold clean
      rw [hkept, List.reverse_append]
      rfl
    rw [habsolute, hclean]
    exact isAbsolute_ofComponents_root _
  · rw [hrelative]
    unfold clean
    split
    · -- nothing is kept, which is written as `.`
      rfl
    · refine isAbsolute_ofComponents_parts fun c hc => ?_
      exact isPart_of_mem_foldl _ [] (List.forall_mem_nil _) hparts c (List.mem_reverse.mp hc)

/-! ### Paths made of others -/

@[simp] theorem isAbsolute_join (base p : Path) :
    (base.join p).isAbsolute = (p.isAbsolute || base.isAbsolute) := by
  cases hp : p.isAbsolute with
  | true =>
      unfold join
      rw [if_pos hp, hp]
      rfl
  | false =>
      have hnot : ¬ p.isAbsolute = true := by rw [hp]; exact Bool.false_ne_true
      unfold join
      rw [if_neg hnot, Bool.false_or]
      -- what is joined to the base stands behind its first character, if it has one
      cases hbase : base.text.toList with
      | nil =>
          have hempty : base.text = "" := String.toList_eq_nil_iff.mp hbase
          simp only [List.isEmpty_nil, Bool.true_or, if_true, hempty, String.empty_append]
          rw [hp]
          unfold isAbsolute
          rw [hbase]
          rfl
      | cons first rest =>
          have hfirst : base.isAbsolute = (first == '/') := by
            unfold isAbsolute
            rw [hbase]
            rfl
          rw [hfirst]
          dsimp only
          split
          · exact isAbsolute_append hbase p.text
          · rw [String.append_assoc]
            exact isAbsolute_append hbase ("/" ++ p.text)

@[simp] theorem isAbsolute_locate (base p : Path) :
    (base.locate p).isAbsolute = (p.isAbsolute || base.isAbsolute) := by
  unfold locate
  split
  · rename_i hp
    rw [isAbsolute_clean, hp, Bool.true_or]
  · rw [isAbsolute_clean, isAbsolute_join]

/-- The directory of an absolute path is absolute. -/
theorem isAbsolute_of_parent? {p parent : Path} (hp : p.isAbsolute = true)
    (h : p.parent? = some parent) : parent.isAbsolute = true := by
  rcases p.components_cases with ⟨-, parts, hcomponents, -⟩ | ⟨hrelative, -⟩
  · unfold parent? at h
    rw [hcomponents] at h
    cases parts with
    | nil => cases h
    | cons part parts =>
        rw [List.dropLast_cons_of_ne_nil (List.cons_ne_nil part parts)] at h
        split at h
        · cases h
        · cases h
        · cases h
          exact isAbsolute_ofComponents_root _
  · rw [hp] at hrelative
    cases hrelative

/-- A path with a file name has a directory. -/
theorem parent?_isSome_of_fileName? {p : Path} {s : String} (h : p.fileName? = some s) :
    ∃ parent, p.parent? = some parent := by
  unfold fileName? at h
  unfold parent?
  split at h
  · rename_i hlast
    rw [hlast]
    exact ⟨_, rfl⟩
  · cases h

/-- A sibling of an absolute path is absolute. -/
theorem isAbsolute_withFileName {p : Path} (hp : p.isAbsolute = true) (s : String) :
    (p.withFileName s).isAbsolute = true := by
  unfold withFileName
  rw [isAbsolute_join, Bool.or_eq_true]
  right
  split
  · rename_i hname
    obtain ⟨parent, hparent⟩ := parent?_isSome_of_fileName? hname
    rw [hparent]
    exact isAbsolute_of_parent? hp hparent
  · exact hp

end Path

end StorySuite
