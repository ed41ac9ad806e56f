import Mathlib.Data.List.Flatten
import Mathlib.Data.List.Nodup
import StorySuite.Script.Exports
import StorySuite.Script.Shape

/-!
# Proofs — Script — the catalog of value exports

The value exports of a module are said position by position: `Stmt.ExportsAt` tells what a
statement exports and where in it, and a module has a *catalog*, the names of its value exports in
the order of their positions.  `Program.exports` is read against that catalog.

* `isCatalog_iff`: a module has exactly one catalog, and it is computed by `valueExports`.
* `valueExports_sublist_exports`: no value export is left out of the list of exports, and the order
  is kept.
* `exports_isCatalog_iff`: the list is the catalog, each name once, exactly when no statement
  `ListsMore` than it exports: no interface or function without a body is the default export, no
  function without a body is exported by name, and no resource is.

A function without a body is listed although it exports nothing, so a function with overloads is
listed once for each of them: `not_forall_exports_isCatalog`.
-/

namespace StorySuite.Script

/-! ### Positions -/

/-- What is at places, with the names there. -/
abbrev Places := List (List Nat × String)

/-- The places in each of `xs`, counted from `i`. -/
def indexed {α : Type} (f : α → Places) (i : Nat) : List α → Places
  | [] => []
  | x :: xs => (f x).map (fun e => (i :: e.1, e.2)) ++ indexed f (i + 1) xs

/-- One place comes before another. -/
def Before (a b : List Nat × String) : Prop :=
  a.1 < b.1

variable {α : Type} {f : α → Places}

theorem mem_indexed {e : List Nat × String} : ∀ {i : Nat} {xs : List α},
    e ∈ indexed f i xs ↔
      ∃ k x path, xs[k]? = some x ∧ (path, e.2) ∈ f x ∧ e.1 = (i + k) :: path
  | _, [] => by simp [indexed]
  | i, x :: xs => by
      simp only [indexed, List.mem_append, List.mem_map, mem_indexed]
      constructor
      · -- at the first, or in the rest, which is counted from one more
        rintro (⟨e', he', rfl⟩ | ⟨k, y, path, hy, he, hpath⟩)
        · exact ⟨0, x, e'.1, rfl, he', rfl⟩
        · exact ⟨k + 1, y, path, hy, he, by rw [hpath]; congr 1; omega⟩
      · rintro ⟨k, y, path, hy, he, hpath⟩
        cases k with
        | zero =>
            obtain rfl := Option.some.inj hy
            exact .inl ⟨(path, e.2), he, Prod.ext hpath.symm rfl⟩
        | succ k => exact .inr ⟨k, y, path, hy, he, by rw [hpath]; congr 1; omega⟩

theorem indexed_sorted : ∀ {i : Nat} {xs : List α}, (∀ x ∈ xs, (f x).Pairwise Before) →
    (indexed f i xs).Pairwise Before
  | _, [], _ => .nil
  | i, x :: xs, h => by
      refine List.pairwise_append.mpr ⟨?_, ?_, ?_⟩
      · refine List.pairwise_map.mpr ((h x List.mem_cons_self).imp fun hab => ?_)
        exact List.cons_lt_cons_iff.mpr (.inr ⟨rfl, hab⟩)
      · exact indexed_sorted fun y hy => h y (List.mem_cons_of_mem _ hy)
      · -- what is in the first comes before what is in the rest
        intro a ha b hb
        obtain ⟨a, -, rfl⟩ := List.mem_map.mp ha
        obtain ⟨k, y, path, -, -, hpath⟩ := mem_indexed.mp hb
        show i :: a.1 < b.1
        rw [hpath]
        exact List.cons_lt_cons_iff.mpr (.inl (by omega))

theorem indexed_names : ∀ {i : Nat} {xs : List α},
    (indexed f i xs).map Prod.snd = xs.flatMap fun x => (f x).map Prod.snd
  | _, [] => rfl
  | i, x :: xs => by
      simp only [indexed, List.map_append, List.map_map, List.flatMap_cons, indexed_names]
      rfl

theorem Before.nodup {xs : Places} (h : xs.Pairwise Before) : xs.Nodup := by
  refine List.Pairwise.imp (fun {a b} hab heq => ?_) h
  rw [heq] at hab
  exact List.lt_irrefl _ hab

/-- Places in order are determined by what is among them. -/
theorem Before.eq_of_mem_iff {xs ys : Places} (hx : xs.Pairwise Before) (hy : ys.Pairwise Before)
    (hmem : ∀ e, e ∈ xs ↔ e ∈ ys) : xs = ys := by
  have hperm : xs.Perm ys :=
    (List.perm_ext_iff_of_nodup (Before.nodup hx) (Before.nodup hy)).mpr hmem
  exact hperm.eq_of_pairwise (fun a b _ _ hab hba => absurd hba (List.lt_asymm hab)) hx hy

/-- What is put together from shorter lists is the same exactly when each of these is. -/
theorem flatMap_eq_iff {β : Type} {g h : α → List β} : ∀ {xs : List α},
    (∀ x ∈ xs, (g x).Sublist (h x)) →
      (xs.flatMap g = xs.flatMap h ↔ ∀ x ∈ xs, g x = h x)
  | [], _ => by simp
  | x :: xs, hsub => by
      rw [List.forall_mem_cons] at hsub
      simp only [List.flatMap_cons, List.forall_mem_cons]
      constructor
      · intro heq
        -- both parts are no longer on the left, so neither of them is shorter
        have hlength := congrArg List.length heq
        have hfirst := hsub.1.length_le
        have hrest := (List.Sublist.flatMap_right xs hsub.2).length_le
        simp only [List.length_append] at hlength
        obtain ⟨h₁, h₂⟩ := List.append_inj heq (by omega)
        exact ⟨h₁, (flatMap_eq_iff hsub.2).mp h₂⟩
      · rintro ⟨h₁, h₂⟩
        rw [h₁, (flatMap_eq_iff hsub.2).mpr h₂]

/-! ### What patterns bind -/

/-- The pattern declares a variable of the name at the place. -/
inductive Pattern.BindsAt : Pattern → List Nat → String → Prop where
  | name (s : String) : BindsAt (.name s) [] s
  | array {ps : List Pattern} {i : Nat} {p : Pattern} {path : List Nat} {s : String}
      (hp : ps[i]? = some p) (h : p.BindsAt path s) : BindsAt (.array ps) (i :: path) s
  | object {ps : List Pattern} {i : Nat} {p : Pattern} {path : List Nat} {s : String}
      (hp : ps[i]? = some p) (h : p.BindsAt path s) : BindsAt (.object ps) (i :: path) s
  | property {key : PropertyKey} {short : Bool} {p : Pattern} {path : List Nat} {s : String}
      (h : p.BindsAt path s) : BindsAt (.property key short p) path s
  | withDefault {p : Pattern} {e : Expr} {path : List Nat} {s : String}
      (h : p.BindsAt path s) : BindsAt (.withDefault p e) path s
  | typed {p : Pattern} {types : List String} {path : List Nat} {s : String}
      (h : p.BindsAt path s) : BindsAt (.typed p types) path s
  | parameter {ds : List Expr} {made : Bool} {p : Pattern} {path : List Nat} {s : String}
      (h : p.BindsAt path s) : BindsAt (.parameter ds made p) path s
  | rest {p : Pattern} {path : List Nat} {s : String}
      (h : p.BindsAt path s) : BindsAt (.rest p) path s

namespace Pattern

section Induction

variable {P : Pattern → Prop} (name : ∀ s, P (.name s)) (target : ∀ e, P (.target e))
  (array : ∀ ps, (∀ p ∈ ps, P p) → P (.array ps))
  (object : ∀ ps, (∀ p ∈ ps, P p) → P (.object ps))
  (property : ∀ key short p, P p → P (.property key short p))
  (withDefault : ∀ p e, P p → P (.withDefault p e))
  (typed : ∀ p types, P p → P (.typed p types))
  (parameter : ∀ ds made p, P p → P (.parameter ds made p))
  (rest : ∀ p, P p → P (.rest p)) (hole : P .hole)

include name target array object property withDefault typed parameter rest hole

/-- What holds of a pattern when it holds of the patterns in it holds of every pattern. -/
theorem members_induction : ∀ p : Pattern, P p
  | .name s => name s
  | .target e => target e
  | .array ps => array ps fun p _ => members_induction p
  | .object ps => object ps fun p _ => members_induction p
  | .property key short p => property key short p (members_induction p)
  | .withDefault p e => withDefault p e (members_induction p)
  | .typed p types => typed p types (members_induction p)
  | .parameter ds made p => parameter ds made p (members_induction p)
  | .rest p => rest p (members_induction p)
  | .hole => hole

end Induction

mutual

/-- The places of the variables that a pattern declares, in order. -/
def places : Pattern → Places
  | .name s => [([], s)]
  | .target _ | .hole => []
  | .array ps | .object ps => placesFrom 0 ps
  | .property _ _ p | .withDefault p _ | .typed p _ | .parameter _ _ p | .rest p => p.places

/-- The places of the variables that patterns declare, the first of which is the `i`-th. -/
def placesFrom (i : Nat) : List Pattern → Places
  | [] => []
  | p :: ps => p.places.map (fun e => (i :: e.1, e.2)) ++ placesFrom (i + 1) ps

end

theorem placesFrom_eq : ∀ (i : Nat) (ps : List Pattern), placesFrom i ps = indexed places i ps
  | _, [] => by simp [placesFrom, indexed]
  | i, p :: ps => by simp [placesFrom, indexed, placesFrom_eq (i + 1) ps]

theorem declaredAll_eq : ∀ ps : List Pattern, declaredAll ps = ps.flatMap declared
  | [] => by simp [declaredAll]
  | p :: ps => by simp [declaredAll, declaredAll_eq ps]

theorem mem_placesFrom_iff {ps : List Pattern} {path : List Nat} {s : String}
    (h : ∀ p ∈ ps, ∀ path s, (path, s) ∈ p.places ↔ p.BindsAt path s) :
    (path, s) ∈ placesFrom 0 ps ↔
      ∃ i p rest, ps[i]? = some p ∧ p.BindsAt rest s ∧ path = i :: rest := by
  simp only [placesFrom_eq, mem_indexed, Nat.zero_add]
  constructor
  · rintro ⟨i, p, rest, hp, he, hpath⟩
    exact ⟨i, p, rest, hp, (h p (List.mem_of_getElem? hp) rest s).mp he, hpath⟩
  · rintro ⟨i, p, rest, hp, hb, hpath⟩
    exact ⟨i, p, rest, hp, (h p (List.mem_of_getElem? hp) rest s).mpr hb, hpath⟩

theorem mem_places_iff (p : Pattern) :
    ∀ path s, (path, s) ∈ p.places ↔ p.BindsAt path s := by
  induction p using members_induction with
  | name s =>
      intro path s'
      simp only [places, List.mem_singleton, Prod.mk.injEq]
      constructor
      · rintro ⟨rfl, rfl⟩
        exact .name _
      · rintro ⟨⟩
        exact ⟨rfl, rfl⟩
  | target e | hole =>
      intro path s
      simp only [places, List.not_mem_nil, false_iff]
      rintro ⟨⟩
  | array ps ih =>
      intro path s
      rw [places, mem_placesFrom_iff ih]
      constructor
      · rintro ⟨i, p, rest, hp, hb, rfl⟩
        exact .array hp hb
      · intro h
        cases h with
        | array hp hb => exact ⟨_, _, _, hp, hb, rfl⟩
  | object ps ih =>
      intro path s
      rw [places, mem_placesFrom_iff ih]
      constructor
      · rintro ⟨i, p, rest, hp, hb, rfl⟩
        exact .object hp hb
      · intro h
        cases h with
        | object hp hb => exact ⟨_, _, _, hp, hb, rfl⟩
  | property _ _ p ih | withDefault p _ ih | typed p _ ih | parameter _ _ p ih | rest p ih =>
      intro path s
      simp only [places, ih]
      constructor
      · intro h
        constructor
        exact h
      · rintro ⟨⟩
        assumption

/-- The places of a pattern are in order. -/
theorem places_sorted (p : Pattern) : p.places.Pairwise Before := by
  induction p using members_induction with
  | name s => exact List.pairwise_singleton _ _
  | target e | hole => exact .nil
  | array ps ih | object ps ih =>
      simp only [places, placesFrom_eq]
      exact indexed_sorted ih
  | property _ _ p ih | withDefault p _ ih | typed p _ ih | parameter _ _ p ih | rest p ih =>
      simpa only [places] using ih

/-- The names at the places of a pattern are those that it declares. -/
theorem places_names (p : Pattern) : p.places.map Prod.snd = p.declared := by
  induction p using members_induction with
  | name s => rfl
  | target e | hole => rfl
  | array ps ih | object ps ih =>
      simp only [places, placesFrom_eq, indexed_names, declared, declaredAll_eq]
      exact List.flatMap_congr ih
  | property _ _ p ih | withDefault p _ ih | typed p _ ih | parameter _ _ p ih | rest p ih =>
      simpa only [places, declared] using ih

end Pattern

/-! ### What statements export -/

/-- Variables of the kind hold what is disposed of when they go out of use. -/
def VariableKind.isResource : VariableKind → Bool
  | .using | .awaitUsing => true
  | _ => false

/-- The declaration defines a value of the name at the place. -/
inductive Stmt.DefinesAt : Stmt → List Nat → String → Prop where
  | variable {kind : VariableKind} {ps : List Pattern} {i : Nat} {p : Pattern} {path : List Nat}
      {s : String} (hkind : kind.isResource = false) (hp : ps[i]? = some p)
      (h : p.BindsAt path s) : DefinesAt (.declaration kind ps) (i :: path) s
  | function {name : String} {isAsync isGenerator : Bool} {types : List String}
      {parameters : List Pattern} {form : BodyForm} {body : List Item} (hform : form ≠ .missing) :
      DefinesAt (.function (.mk (some name) isAsync isGenerator types parameters form body)) [] name
  | class {ds : List Expr} {name : String} {types : List String} {heritage : Option Expr}
      {members : List Member} :
      DefinesAt (.class (.mk ds (some name) types heritage members)) [] name
  | enum {name : String} {members : List Property} : DefinesAt (.enum name members) [] name

/-- What is exported as the default is a value: neither a type nor a function without a body. -/
def Stmt.isDefaultValue : Stmt → Bool
  | .expr _ | .class _ => true
  | .function f => !f.isMissing
  | _ => false

/-- The statement exports a value under the name at the place. -/
inductive Stmt.ExportsAt : Stmt → List Nat → String → Prop where
  | default {s : Stmt} (hvalue : s.isDefaultValue = true) :
      ExportsAt (.exportDefault s) [] "default"
  | declaration {s : Stmt} {path : List Nat} {name : String} (h : s.DefinesAt path name) :
      ExportsAt (.exportDeclaration s) path name
  | names {bindings : List ExportBinding} {source : Option ModuleSource} {i : Nat}
      {b : ExportBinding} (hb : bindings[i]? = some b) (hvalue : b.typeOnly = false) :
      ExportsAt (.exportNames false bindings source) [i] b.exported.text
  | namespace {as : ModuleName} {source : ModuleSource} :
      ExportsAt (.exportAll false (some as) source) [] as.text

/-- The statement is listed under a name under which it exports no value. -/
inductive Stmt.ListsMore : Stmt → Prop where
  | default {s : Stmt} (htype : s.isDefaultValue = false) : ListsMore (.exportDefault s)
  | signature {name : String} {isAsync isGenerator : Bool} {types : List String}
      {parameters : List Pattern} {body : List Item} :
      ListsMore (.exportDeclaration (.function (.mk (some name) isAsync isGenerator types parameters
        .missing body)))
  | resource {kind : VariableKind} {ps : List Pattern} (hkind : kind.isResource = true)
      (hdeclares : declaredAll ps ≠ []) : ListsMore (.exportDeclaration (.declaration kind ps))

namespace Stmt

/-- The places of what a declaration defines, in order. -/
def definedPlaces : Stmt → Places
  | .declaration kind ps => if kind.isResource then [] else indexed Pattern.places 0 ps
  | .function (.mk (some name) _ _ _ _ form _) => if form = .missing then [] else [([], name)]
  | .class (.mk _ (some name) _ _ _) => [([], name)]
  | .enum name _ => [([], name)]
  | _ => []

/-- The place of a name among those that a statement exports. -/
def bindingPlaces (b : ExportBinding) : Places :=
  if b.typeOnly then [] else [([], b.exported.text)]

/-- The places of what a statement exports, in order. -/
def exportedPlaces : Stmt → Places
  | .exportDefault s => if s.isDefaultValue then [([], "default")] else []
  | .exportDeclaration s => s.definedPlaces
  | .exportNames false bindings _ => indexed bindingPlaces 0 bindings
  | .exportAll false (some as) _ => [([], as.text)]
  | _ => []

theorem mem_definedPlaces_iff (s : Stmt) (path : List Nat) (name : String) :
    (path, name) ∈ s.definedPlaces ↔ s.DefinesAt path name := by
  constructor
  · intro h
    unfold definedPlaces at h
    split at h
    case h_1 kind ps =>
      cases hkind : kind.isResource with
      -- a declaration of resources defines nothing that is exported
      | true => simp [hkind] at h
      | false =>
          simp only [hkind, Bool.false_eq_true, if_false, mem_indexed, Nat.zero_add] at h
          obtain ⟨i, p, rest, hp, hbinds, rfl⟩ := h
          exact .variable hkind hp ((p.mem_places_iff _ _).mp hbinds)
    case h_2 form body =>
      by_cases hform : form = .missing
      · simp [hform] at h
      · obtain ⟨rfl, rfl⟩ : path = [] ∧ name = _ := by simpa [hform] using h
        exact .function hform
    case h_3 =>
      obtain ⟨rfl, rfl⟩ : path = [] ∧ name = _ := by simpa using h
      exact .class
    case h_4 =>
      obtain ⟨rfl, rfl⟩ : path = [] ∧ name = _ := by simpa using h
      exact .enum
    case h_5 => exact absurd h List.not_mem_nil
  · intro h
    cases h with
    | «variable» hkind hp hbinds =>
        simp only [definedPlaces, hkind, Bool.false_eq_true, if_false, mem_indexed, Nat.zero_add]
        exact ⟨_, _, _, hp, (Pattern.mem_places_iff _ _ _).mpr hbinds, rfl⟩
    | function hform => simp [definedPlaces, hform]
    | «class» => simp [definedPlaces]
    | enum => simp [definedPlaces]

theorem mem_exportedPlaces_iff (s : Stmt) (path : List Nat) (name : String) :
    (path, name) ∈ s.exportedPlaces ↔ s.ExportsAt path name := by
  constructor
  · intro h
    unfold exportedPlaces at h
    split at h
    case h_1 s =>
      cases hvalue : s.isDefaultValue with
      | false => simp [hvalue] at h
      | true =>
          obtain ⟨rfl, rfl⟩ : path = [] ∧ name = _ := by simpa [hvalue] using h
          exact .default hvalue
    case h_2 => exact .declaration ((mem_definedPlaces_iff _ _ _).mp h)
    case h_3 bindings source =>
      obtain ⟨i, b, rest, hb, hplace, rfl⟩ := mem_indexed.mp h
      cases hvalue : b.typeOnly with
      | true => simp [bindingPlaces, hvalue] at hplace
      | false =>
          obtain ⟨rfl, rfl⟩ : rest = [] ∧ name = _ := by
            simpa [bindingPlaces, hvalue] using hplace
          rw [Nat.zero_add]
          exact .names hb hvalue
    case h_4 =>
      obtain ⟨rfl, rfl⟩ : path = [] ∧ name = _ := by simpa using h
      exact .namespace
    case h_5 => exact absurd h List.not_mem_nil
  · intro h
    cases h with
    | default hvalue => simp [exportedPlaces, hvalue]
    | declaration h => exact (mem_definedPlaces_iff _ _ _).mpr h
    | names hb hvalue =>
        simp only [exportedPlaces, mem_indexed, Nat.zero_add]
        exact ⟨_, _, _, hb, by simp [bindingPlaces, hvalue], rfl⟩
    | «namespace» => simp [exportedPlaces]

theorem definedPlaces_sorted (s : Stmt) : s.definedPlaces.Pairwise Before := by
  unfold definedPlaces
  split
  case h_1 kind ps =>
    cases kind.isResource with
    | true => exact .nil
    | false => exact indexed_sorted fun p _ => p.places_sorted
  case h_2 =>
    split
    · exact .nil
    · exact List.pairwise_singleton _ _
  case h_3 => exact List.pairwise_singleton _ _
  case h_4 => exact List.pairwise_singleton _ _
  case h_5 => exact .nil

theorem bindingPlaces_sorted (b : ExportBinding) : (bindingPlaces b).Pairwise Before := by
  unfold bindingPlaces
  split
  · exact .nil
  · exact List.pairwise_singleton _ _

theorem exportedPlaces_sorted (s : Stmt) : s.exportedPlaces.Pairwise Before := by
  unfold exportedPlaces
  split
  case h_1 =>
    split
    · exact List.pairwise_singleton _ _
    · exact .nil
  case h_2 s => exact s.definedPlaces_sorted
  case h_3 => exact indexed_sorted fun b _ => bindingPlaces_sorted b
  case h_4 => exact List.pairwise_singleton _ _
  case h_5 => exact .nil

/-! ### The list and the catalog -/

/-- The names under which a statement exports values, in order. -/
def valueNames (s : Stmt) : List String :=
  s.exportedPlaces.map Prod.snd

/-- The names of an export list that are no types are its value exports. -/
theorem bindingPlaces_names : ∀ bindings : List ExportBinding,
    bindings.flatMap (fun b => (bindingPlaces b).map Prod.snd) =
      (bindings.filter (!·.typeOnly)).map (·.exported.text)
  | [] => rfl
  | b :: bindings => by
      rw [List.flatMap_cons, bindingPlaces_names bindings]
      cases hb : b.typeOnly <;> simp [bindingPlaces, hb]

/-- The names of the variables of a declaration are those that it declares. -/
theorem indexed_places_names (ps : List Pattern) :
    (indexed Pattern.places 0 ps).map Prod.snd = declaredAll ps := by
  rw [indexed_names, Pattern.declaredAll_eq]
  exact List.flatMap_congr fun p _ => p.places_names

/-- A declaration that is listed under no more than it defines is listed under what it defines. -/
theorem definedPlaces_names {s : Stmt} (h : ¬ (exportDeclaration s).ListsMore) :
    s.definedPlaces.map Prod.snd = s.declaredValues := by
  cases s with
  | declaration kind ps =>
      cases hkind : kind.isResource with
      | false =>
          simp only [definedPlaces, hkind, Bool.false_eq_true, if_false]
          exact indexed_places_names ps
      | true =>
          simp only [definedPlaces, hkind, if_true]
          -- resources are listed although they are not exported, so there are none
          by_cases hdeclares : declaredAll ps = []
          · exact hdeclares.symm
          · exact absurd (.resource hkind hdeclares) h
  | function f =>
      obtain ⟨name, isAsync, isGenerator, types, parameters, form, body⟩ := f
      cases name with
      | none => rfl
      | some name =>
          by_cases hform : form = .missing
          · subst hform
            exact absurd .signature h
          · simp [definedPlaces, declaredValues, hform]
  | «class» c =>
      obtain ⟨ds, name, types, heritage, members⟩ := c
      cases name <;> rfl
  | enum name members => rfl
  | _ => rfl

/-- A statement that lists no more than it exports lists what it exports. -/
theorem valueNames_eq {s : Stmt} (h : ¬ s.ListsMore) : s.valueNames = s.exports := by
  cases s with
  | exportDefault s =>
      cases hvalue : s.isDefaultValue with
      | true => simp [valueNames, exportedPlaces, hvalue, exports]
      | false => exact absurd (.default hvalue) h
  | exportDeclaration s => exact definedPlaces_names h
  | exportNames typeOnly bindings source =>
      cases typeOnly with
      | true => rfl
      | false =>
          simp only [valueNames, exportedPlaces, indexed_names]
          exact bindingPlaces_names bindings
  | exportAll typeOnly as source => cases typeOnly <;> cases as <;> rfl
  | _ => rfl

/-- A statement that lists more than it exports lists it beside what it exports. -/
theorem ListsMore.valueNames_eq {s : Stmt} (h : s.ListsMore) :
    s.valueNames = [] ∧ s.exports ≠ [] := by
  cases h with
  | default htype =>
      refine ⟨?_, List.cons_ne_nil _ _⟩
      simp [valueNames, exportedPlaces, htype]
  | signature => exact ⟨rfl, List.cons_ne_nil _ _⟩
  | resource hkind hdeclares =>
      refine ⟨?_, hdeclares⟩
      simp [valueNames, exportedPlaces, definedPlaces, hkind]

/-- A statement lists no less than it exports. -/
theorem valueNames_sublist (s : Stmt) : s.valueNames.Sublist s.exports := by
  by_cases h : s.ListsMore
  · rw [h.valueNames_eq.1]
    exact List.nil_sublist _
  · rw [valueNames_eq h]

theorem valueNames_eq_iff (s : Stmt) : s.valueNames = s.exports ↔ ¬ s.ListsMore := by
  constructor
  · intro heq h
    obtain ⟨hnil, hne⟩ := h.valueNames_eq
    exact hne (heq ▸ hnil)
  · exact valueNames_eq

instance (s : Stmt) : Decidable s.ListsMore :=
  decidable_of_iff (s.valueNames ≠ s.exports) (by rw [ne_eq, valueNames_eq_iff, not_not])

end Stmt

namespace Program

/-- The module exports a value under the name at the place. -/
inductive ExportsAt (p : Program) : List Nat → String → Prop where
  | intro {i : Nat} {item : Item} {path : List Nat} {name : String}
      (hitem : p.items[i]? = some item) (h : item.stmt.ExportsAt path name) :
      p.ExportsAt (i :: path) name

/-- No two value exports of the module have one name. -/
def ValueNamesDistinct (p : Program) : Prop :=
  ∀ ⦃a b : List Nat⦄ ⦃name : String⦄, p.ExportsAt a name → p.ExportsAt b name → a = b

/-- `names` are the names of the module's value exports in source order: there are places in order,
they are those of the value exports, and the names are the ones there. -/
def IsCatalog (p : Program) (names : List String) : Prop :=
  ∃ entries : Places, entries.map Prod.snd = names ∧ entries.Pairwise Before ∧
    ∀ path name, (path, name) ∈ entries ↔ p.ExportsAt path name

/-- The places of what a module exports, in order. -/
def exportedPlaces (p : Program) : Places :=
  indexed (fun i => i.stmt.exportedPlaces) 0 p.items

/-- The names of a module's value exports, in source order. -/
def valueExports (p : Program) : List String :=
  p.items.flatMap fun i => i.stmt.valueNames

theorem mem_exportedPlaces_iff (p : Program) (path : List Nat) (name : String) :
    (path, name) ∈ p.exportedPlaces ↔ p.ExportsAt path name := by
  simp only [exportedPlaces, mem_indexed, Nat.zero_add, Stmt.mem_exportedPlaces_iff]
  constructor
  · rintro ⟨i, item, rest, hitem, h, rfl⟩
    exact .intro hitem h
  · rintro ⟨hitem, h⟩
    exact ⟨_, _, _, hitem, h, rfl⟩

theorem exportedPlaces_sorted (p : Program) : p.exportedPlaces.Pairwise Before :=
  indexed_sorted fun i _ => i.stmt.exportedPlaces_sorted

theorem exportedPlaces_names (p : Program) : p.exportedPlaces.map Prod.snd = p.valueExports :=
  indexed_names

/-- **A module has exactly one catalog**, `valueExports`. -/
theorem isCatalog_iff (p : Program) (names : List String) :
    p.IsCatalog names ↔ names = p.valueExports := by
  constructor
  · rintro ⟨entries, rfl, hsorted, hmem⟩
    have heq : entries = p.exportedPlaces :=
      Before.eq_of_mem_iff hsorted p.exportedPlaces_sorted fun e =>
        (hmem e.1 e.2).trans (p.mem_exportedPlaces_iff e.1 e.2).symm
    rw [heq, exportedPlaces_names]
  · rintro rfl
    exact ⟨_, p.exportedPlaces_names, p.exportedPlaces_sorted, p.mem_exportedPlaces_iff⟩

/-- **No value export is left out of the list**, and the order is kept. -/
theorem valueExports_sublist_exports (p : Program) : p.valueExports.Sublist p.exports :=
  List.Sublist.flatMap_right _ fun i _ => i.stmt.valueNames_sublist

/-- Nothing is listed but value exports exactly when no statement lists more than these. -/
theorem valueExports_eq_iff (p : Program) :
    p.exports = p.valueExports ↔ ∀ i ∈ p.items, ¬ i.stmt.ListsMore := by
  rw [eq_comm]
  refine (flatMap_eq_iff fun i _ => i.stmt.valueNames_sublist).trans ?_
  simp only [Stmt.valueNames_eq_iff]

/-- Value exports have different names exactly when the catalog has each name once. -/
theorem valueNamesDistinct_iff (p : Program) : p.ValueNamesDistinct ↔ p.valueExports.Nodup := by
  rw [← exportedPlaces_names]
  constructor
  · intro hd
    refine List.pairwise_map.mpr (p.exportedPlaces_sorted.imp_of_mem fun {a b} ha hb hab heq => ?_)
    have ha' := (p.mem_exportedPlaces_iff a.1 a.2).mp ha
    have hb' := (p.mem_exportedPlaces_iff b.1 b.2).mp hb
    rw [← heq] at hb'
    -- two places with one name are one, which does not come before itself
    have hlt : a.1 < b.1 := hab
    rw [hd ha' hb'] at hlt
    exact List.lt_irrefl b.1 hlt
  · intro hnodup a b name ha hb
    have ha' := (p.mem_exportedPlaces_iff a name).mpr ha
    have hb' := (p.mem_exportedPlaces_iff b name).mpr hb
    exact congrArg Prod.fst (List.inj_on_of_nodup_map hnodup ha' hb' rfl)

/-- **The list of exports is the catalog, each name once, exactly when no statement lists more than
it exports.** -/
theorem exports_isCatalog_iff (p : Program) (hd : p.ValueNamesDistinct) :
    (p.IsCatalog p.exports ∧ p.exports.Nodup) ↔ ∀ i ∈ p.items, ¬ i.stmt.ListsMore := by
  rw [isCatalog_iff, ← valueExports_eq_iff]
  constructor
  · exact And.left
  · intro heq
    exact ⟨heq, heq ▸ p.valueNamesDistinct_iff.mp hd⟩

/-- `export const {a, b: [c = 0, ...d]} = {}; export {type E, F as default} from "f"`. -/
def destructured : Program where
  items := [
    .plain (.exportDeclaration (.declaration .const [.withDefault (.object [
      .property (.name "a") true (.name "a"),
      .property (.name "b") false (.array [
        .withDefault (.name "c") (.literal (.number none)), .rest (.name "d")])]) (.object [])])),
    .plain (.exportNames false [⟨⟨"E", false⟩, ⟨"E", false⟩, true⟩,
      ⟨⟨"F", false⟩, ⟨"default", false⟩, false⟩] (some ⟨⟨"f", false⟩, none⟩))]

theorem destructured_exports_isCatalog :
    destructured.ValueNamesDistinct ∧ destructured.IsCatalog destructured.exports ∧
      destructured.exports = ["a", "c", "d", "default"] := by
  have hd : destructured.ValueNamesDistinct := (valueNamesDistinct_iff _).mpr (by decide)
  exact ⟨hd, ((exports_isCatalog_iff destructured hd).mpr (by decide)).1, by decide⟩

/-- `export function over(a: string): void; export function over(a: any) {}`. -/
def overloaded : Program where
  items := [
    .plain (.exportDeclaration (.function
      (.mk (some "over") false false [] [.name "a"] .missing []))),
    .plain (.exportDeclaration (.function
      (.mk (some "over") false false [] [.name "a"] .block [])))]

/-- `export default interface A {}`. -/
def defaultInterface : Program where
  items := [.plain (.exportDefault (.typeName "A" []))]

/-- Overloads are listed once each, and an interface is listed as the default export. -/
theorem not_forall_exports_isCatalog :
    (overloaded.ValueNamesDistinct ∧ overloaded.IsCatalog ["over"] ∧
      overloaded.exports = ["over", "over"]) ∧
    (defaultInterface.ValueNamesDistinct ∧ defaultInterface.IsCatalog [] ∧
      defaultInterface.exports = ["default"]) := by
  simp only [valueNamesDistinct_iff, isCatalog_iff]
  decide

end Program

end StorySuite.Script
