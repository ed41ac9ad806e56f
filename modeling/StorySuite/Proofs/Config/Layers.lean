import Mathlib.Data.List.Nodup
import Mathlib.Tactic.MkIffOfInductiveProp
import Mathlib.Tactic.Tauto
import StorySuite.Config.Load
import StorySuite.Proofs.Json.Fields
import StorySuite.Proofs.Script.Names
import StorySuite.Proofs.Text.Pieces

/-!
# Proofs — Config — settings in layers

A setting is what a variable of the environment says of it, else what the file says, else its
default.  A variable names a setting by the words of its name, in either case; since only `cwd` can
be set so, a variable that names another setting makes loading fail.

* `Environment.settingOf?_eq_some_iff`: the setting that a variable names.
* `Environment.settings?_isSome_iff`: the variables that are fit to be settings.
* `Composes`: each setting by the layer that determines it.
* **`load_eq_ok_iff`**: what is loaded.  `load_of_faulty`: what is not.
* **`load_composes`**: layers as a whole.
* `not_forall_namespaces`: a namespace that is accepted, and is no name.
-/

namespace StorySuite

namespace Environment

/-! ### Variables -/

/-- The text of the variable that names a setting, if there is one. -/
def textFor? (assigned : List (String × String)) (key : String) : Option String :=
  (assigned.find? fun v => settingOf? v.1 == some key).map (·.2)

/-- No two variables name the same setting. -/
def OncePerSetting (assigned : List (String × String)) : Prop :=
  (assigned.filterMap fun v => settingOf? v.1).Nodup

/-- Every variable that names a setting names `cwd`, and reads as a text. -/
def Fit (assigned : List (String × String)) : Prop :=
  ∀ v ∈ assigned, ∀ key ∈ settingOf? v.1, key = "cwd" ∧ ∃ s, read v.2 = .text s

variable {assigned : List (String × String)} {env : DataMap} {name key : String}

/-- The setting that a variable names: behind the prefix, in either case, stand the words of the
setting's name. -/
theorem settingOf?_eq_some_iff : settingOf? name = some key ↔
    key ∈ Config.fieldNames ∧ ∃ front rest, Text.trimChars name.toList = front ++ rest ∧
      front.map Char.toLower = variablePrefix.toList.map Char.toLower ∧ camelCase rest = key := by
  obtain ⟨cs, hcs⟩ : ∃ cs, Text.trimChars name.toList = cs := ⟨_, rfl⟩
  have hlength : (variablePrefix.toList.map Char.toLower).length = variablePrefix.length := by
    decide
  simp only [settingOf?, hcs, Option.bind_eq_bind, Option.bind_eq_some_iff,
    Text.dropStart?_eq_some_iff]
  constructor
  · rintro ⟨rest, hfront, h⟩
    -- as many characters are compared as the prefix has, so none of them is left
    have hnil : rest = [] := by
      have hle := congrArg List.length hfront
      rw [List.length_map, List.length_take, List.length_append, hlength] at hle
      exact List.length_eq_zero_iff.mp (by omega)
    subst hnil
    rw [List.append_nil] at hfront
    rw [List.nil_append] at h
    split at h
    · rename_i hknown
      cases h
      exact ⟨List.contains_iff_mem.mp hknown, _, _, (List.take_append_drop _ cs).symm, hfront, rfl⟩
    · cases h
  · rintro ⟨hknown, front, rest, rfl, hfront, hkey⟩
    have hfrontLength : front.length = variablePrefix.length := by
      rw [← hlength, ← hfront, List.length_map]
    refine ⟨[], ?_, ?_⟩
    · rw [List.append_nil, ← hfrontLength, List.take_left, hfront]
    · rw [List.nil_append, ← hfrontLength, List.drop_left, hkey,
        if_pos (List.contains_iff_mem.mpr hknown)]

theorem Fit.cons_iff {v : String × String} : Fit (v :: assigned) ↔
    (∀ key ∈ settingOf? v.1, key = "cwd" ∧ ∃ s, read v.2 = .text s) ∧ Fit assigned :=
  List.forall_mem_cons

theorem addSetting?_isSome_iff {text : String} {later : DataMap} :
    (addSetting? key text later).isSome ↔ key = "cwd" ∧ ∃ s, read text = .text s := by
  unfold addSetting?
  by_cases hkey : key = "cwd"
  · subst hkey
    cases read text <;> simp
  · simp [hkey]

/-- The variables of the environment give settings exactly if they are fit to. -/
theorem settings?_isSome_iff : (settings? assigned).isSome ↔ Fit assigned := by
  induction assigned with
  | nil => exact iff_of_true rfl (List.forall_mem_nil _)
  | cons v rest ih =>
      rw [Fit.cons_iff, ← ih, settings?]
      cases settings? rest with
      | none => simp
      | some later =>
          cases hv : settingOf? v.1 with
          | none => simp
          | some key => simp [addSetting?_isSome_iff]

/-- Variables that name no setting are not looked at. -/
theorem settings?_filter : ∀ assigned : List (String × String),
    settings? (assigned.filter fun v => (settingOf? v.1).isSome) = settings? assigned
  | [] => rfl
  | v :: rest => by
      rw [List.filter_cons]
      cases hv : settingOf? v.1 with
      | none => simp [settings?, hv, settings?_filter rest]
      | some key => simp [settings?, hv, settings?_filter rest]

theorem textFor?_cons (v : String × String) (rest : List (String × String)) (key : String) :
    textFor? (v :: rest) key =
      if settingOf? v.1 = some key then some v.2 else textFor? rest key := by
  unfold textFor?
  rw [List.find?_cons]
  by_cases hv : settingOf? v.1 = some key
  · simp [hv]
  · rw [if_neg hv, beq_false_of_ne hv]

/-- What no variable names is not set. -/
theorem textFor?_eq_none (h : key ∉ assigned.filterMap fun v => settingOf? v.1) :
    textFor? assigned key = none := by
  unfold textFor?
  rw [Option.map_eq_none_iff, List.find?_eq_none]
  intro v hv hkey
  exact h (List.mem_filterMap.mpr ⟨v, hv, beq_iff_eq.mp hkey⟩)

/-- The variables of the environment set `cwd` or nothing. -/
theorem settings?_cases : ∀ {assigned : List (String × String)} {env : DataMap},
    settings? assigned = some env → env = [] ∨ ∃ v, env = [("cwd", v)]
  | [], _, h => by
      cases h
      exact .inl rfl
  | v :: rest, env, h => by
      obtain ⟨later, hlater, h⟩ := Option.bind_eq_some_iff.mp h
      have hcases := settings?_cases hlater
      split at h
      · cases h
        exact hcases
      · unfold addSetting? at h
        split at h
        · split at h
          · cases h
            exact hcases
          · cases h
            exact .inr ⟨_, rfl⟩
        · cases h

theorem keys_settings (henv : settings? assigned = some env) :
    env.keys.Nodup ∧ ∀ key ∈ env.keys, key ∈ Config.fieldNames := by
  obtain rfl | ⟨v, rfl⟩ := settings?_cases henv
  · exact ⟨List.nodup_nil, List.forall_mem_nil _⟩
  · exact ⟨List.nodup_singleton _, List.forall_mem_singleton.mpr List.mem_cons_self⟩

/-- What is set where the variables are fit, be it `cwd` or another setting. -/
theorem Fit.of_textFor? (h : Fit assigned) {text : String}
    (htext : textFor? assigned key = some text) : key = "cwd" ∧ ∃ s, read text = .text s := by
  obtain ⟨v, hv, rfl⟩ := Option.map_eq_some_iff.mp htext
  have hkey := List.find?_some hv
  rw [beq_iff_eq] at hkey
  exact h v (List.mem_of_find?_eq_some hv) key hkey

/-- What is set is what the variables read as. -/
theorem get?_settings (h : OncePerSetting assigned) (henv : settings? assigned = some env)
    (key : String) :
    env.get? key = (textFor? assigned key).bind fun text =>
      match read text with
      | .text s => some (.string (String.ofList s))
      | .other => none := by
  induction assigned generalizing env key with
  | nil =>
      cases henv
      rfl
  | cons v rest ih =>
      obtain ⟨later, hlater, henv⟩ := Option.bind_eq_some_iff.mp henv
      rw [textFor?_cons]
      cases hv : settingOf? v.1 with
      | none =>
          rw [hv] at henv
          cases henv
          rw [if_neg nofun]
          exact ih (by simpa [OncePerSetting, hv] using h) hlater key
      | some named =>
          rw [hv] at henv
          obtain ⟨hnew, hrest⟩ : named ∉ (rest.filterMap fun v => settingOf? v.1) ∧
              OncePerSetting rest := by
            simpa only [OncePerSetting, List.filterMap_cons, hv, List.nodup_cons] using h
          obtain ⟨rfl, s, hs⟩ := addSetting?_isSome_iff.mp (Option.isSome_of_eq_some henv)
          -- no later variable names `cwd`, so this one's text is set, and nothing else
          have hcwd : later.get? "cwd" = none := by
            rw [ih hrest hlater, textFor?_eq_none hnew, Option.bind_none]
          obtain rfl : [("cwd", .string (String.ofList s))] = env := by
            simpa [addSetting?, hs, hcwd] using henv
          rw [DataMap.get?_cons]
          by_cases hkey : "cwd" = key
          · subst hkey
            simp [hs]
          · have hother : textFor? rest key = none := by
              rw [Option.eq_none_iff_forall_ne_some]
              intro text htext
              exact hkey ((settings?_isSome_iff.mp (Option.isSome_of_eq_some hlater)).of_textFor?
                htext).1.symm
            simp [hkey, hother]

end Environment

namespace Config

open Json
open Environment (textFor? settingOf? OncePerSetting Fit)

/-! ### Types -/

/-- A path, or nothing. -/
def IsOptionalPath (v : Value) (p : Option Path) : Prop :=
  (v = .null ∧ p = none) ∨ ∃ s, v = .string s ∧ p = some ⟨s⟩

/-- A path. -/
def IsPath (v : Value) (p : Path) : Prop :=
  v = .string p.text

/-- A list of texts. -/
def IsNames (v : Value) (names : List String) : Prop :=
  v = .array (names.map .string)

/-- A truth value. -/
def IsFlag (v : Value) (b : Bool) : Prop :=
  v = .bool b

/-- A level by one of its names, which may stand alone or as a field without a value. -/
def IsLevel (v : Value) (l : LogLevel) : Prop :=
  ∃ s, (v = .string s ∨ v = .object [(s, .null)]) ∧ LogLevel.ofName? s = some l

theorem path?_eq_some_iff {v : Value} {p : Path} : path? v = some p ↔ IsPath v p := by
  obtain ⟨text⟩ := p
  cases v <;> simp [path?, IsPath]

theorem optionalPath?_eq_some_iff {v : Value} {p : Option Path} :
    optionalPath? v = some p ↔ IsOptionalPath v p := by
  cases v <;> simp [optionalPath?, path?, IsOptionalPath, eq_comm]

theorem flag?_eq_some_iff {v : Value} {b : Bool} : flag? v = some b ↔ IsFlag v b := by
  cases v <;> simp [flag?, IsFlag]

theorem names?_eq_some_iff {v : Value} {names : List String} :
    names? v = some names ↔ IsNames v names := by
  cases v with
  | array items =>
      simp only [names?, IsNames, Value.array.injEq]
      induction items generalizing names with
      | nil => cases names <;> simp
      | cons item items ih =>
          rw [List.mapM_cons]
          cases item <;> cases names <;> simp [Option.bind_eq_some_iff, ih, and_comm]
  | _ => simp [names?, IsNames]

theorem level?_eq_some_iff {v : Value} {l : LogLevel} : level? v = some l ↔ IsLevel v l := by
  unfold level? IsLevel
  split <;> simp_all

/-! ### Layers -/

variable {assigned : List (String × String)} {file : DataMap} {key : String}

/-- The layer that determines a setting gives the value: the environment where a variable names the
setting, else the file where it has the setting. -/
inductive Gives (assigned : List (String × String)) (file : DataMap) (key : String) : Value → Prop
  | environment {text : String} {s : List Char} (hnamed : textFor? assigned key = some text)
      (hread : Environment.read text = .text s) :
      Gives assigned file key (.string (String.ofList s))
  | file {v : Value} (hfree : textFor? assigned key = none) (hv : file.get? key = some v) :
      Gives assigned file key v

/-- No layer above the defaults says anything of a setting. -/
def Silent (assigned : List (String × String)) (file : DataMap) (key : String) : Prop :=
  textFor? assigned key = none ∧ file.get? key = none

/-- The setting is what the layer that determines it gives, else its default. -/
def Takes {α : Type} (assigned : List (String × String)) (file : DataMap) (key : String)
    (fallback : α) (IsRead : Value → α → Prop) (a : α) : Prop :=
  (∃ v, Gives assigned file key v ∧ IsRead v a) ∨ Silent assigned file key ∧ a = fallback

/-- One layer determines a setting, and gives one value. -/
theorem Gives.unique {v w : Value} (hv : Gives assigned file key v)
    (hw : Gives assigned file key w) : v = w := by
  obtain ⟨hnamed, hread⟩ | ⟨hfree, hv⟩ := hv <;> obtain ⟨hnamed', hread'⟩ | ⟨hfree', hw⟩ := hw
  · cases hnamed.symm.trans hnamed'
    cases hread.symm.trans hread'
    rfl
  · cases hnamed.symm.trans hfree'
  · cases hfree.symm.trans hnamed'
  · exact Option.some.inj (hv.symm.trans hw)

theorem Gives.not_silent {v : Value} (h : Gives assigned file key v) :
    ¬ Silent assigned file key := by
  rintro ⟨hfree, hnone⟩
  obtain ⟨hnamed, -⟩ | ⟨-, hv⟩ := h
  · cases hnamed.symm.trans hfree
  · cases hv.symm.trans hnone

namespace Takes

variable {α : Type} {fallback a : α} {IsRead : Value → α → Prop}

theorem iff_of_gives {v : Value} (hv : Gives assigned file key v) :
    Takes assigned file key fallback IsRead a ↔ IsRead v a := by
  refine ⟨?_, fun ha => .inl ⟨v, hv, ha⟩⟩
  rintro (⟨w, hw, ha⟩ | ⟨hsilent, -⟩)
  · exact hv.unique hw ▸ ha
  · exact absurd hsilent hv.not_silent

theorem iff_of_silent (h : Silent assigned file key) :
    Takes assigned file key fallback IsRead a ↔ a = fallback := by
  refine ⟨?_, fun ha => .inr ⟨h, ha⟩⟩
  rintro (⟨v, hv, -⟩ | ⟨-, ha⟩)
  · exact absurd h hv.not_silent
  · exact ha

theorem exists_gives (h : Takes assigned file key fallback IsRead a)
    (hspoken : ¬ Silent assigned file key) : ∃ v, Gives assigned file key v ∧ IsRead v a :=
  h.resolve_right fun hsilent => hspoken hsilent.1

end Takes

/-- Each of the settings is what the layers make of it. -/
@[mk_iff] structure Composes (assigned : List (String × String)) (file : DataMap)
    (c : Config) : Prop where
  cwd : Takes assigned file "cwd" none IsOptionalPath c.cwd
  dependencyDir : Takes assigned file "dependencyDir" none IsOptionalPath c.dependencyDir
  nodeBinary : Takes assigned file "nodeBinary" ⟨"node"⟩ IsPath c.nodeBinary
  hookNamespaces : Takes assigned file "hookNamespaces" ["parameters", "test"] IsNames
    c.hookNamespaces
  titleFromDefault : Takes assigned file "titleFromDefault" true IsFlag c.titleFromDefault
  suiteStubs : Takes assigned file "suiteStubs" true IsFlag c.suiteStubs
  logLevel : Takes assigned file "logLevel" .info IsLevel c.logLevel

/-- The layers put together, the defaults lowest. -/
def merged (file env : DataMap) : DataMap :=
  ((toFields {}).insertAll file).insertAll env

/-- Reading a field of the layers put together reads the layer that determines it. -/
theorem fieldOr_merged_eq_some_iff {α : Type} {env : DataMap} {fallback a : α}
    {read? : Value → Option α} {IsRead : Value → α → Prop}
    (hread : ∀ v a, read? v = some a ↔ IsRead v a)
    (hdefault : fieldOr (toFields {}) key fallback read? = some fallback)
    (h : OncePerSetting assigned) (henv : Environment.settings? assigned = some env)
    (hfile : file.keys.Nodup) :
    fieldOr (merged file env) key fallback read? = some a ↔
      Takes assigned file key fallback IsRead a := by
  have hfit := Environment.settings?_isSome_iff.mp (Option.isSome_of_eq_some henv)
  -- a later layer covers an earlier one
  have hget : (merged file env).get? key =
      (env.get? key).or ((file.get? key).or ((toFields {}).get? key)) := by
    rw [merged, DataMap.get?_insertAll _ (Environment.keys_settings henv).1,
      DataMap.get?_insertAll _ hfile]
  rw [Environment.get?_settings h henv] at hget
  unfold fieldOr at hdefault ⊢
  rw [hget]
  cases hnamed : textFor? assigned key with
  | some text =>
      obtain ⟨-, s, hs⟩ := hfit.of_textFor? hnamed
      simp only [Option.bind_some, hs, Option.some_or]
      rw [hread, Takes.iff_of_gives (.environment hnamed hs)]
  | none =>
      rw [Option.bind_none, Option.none_or]
      cases hv : file.get? key with
      | some v =>
          rw [Option.some_or]
          dsimp only
          rw [hread, Takes.iff_of_gives (.file hnamed hv)]
      | none =>
          rw [Option.none_or, hdefault, Takes.iff_of_silent ⟨hnamed, hv⟩]
          exact ⟨fun h => (Option.some.inj h).symm, fun h => congrArg some h.symm⟩

theorem mem_keys_merged {env : DataMap} (hfile : file.keys.Nodup) (henv : env.keys.Nodup) :
    key ∈ (merged file env).keys ↔ key ∈ (toFields {}).keys ∨ key ∈ file.keys ∨ key ∈ env.keys := by
  rw [merged, DataMap.keys_insertAll _ henv, DataMap.keys_insertAll _ hfile]
  simp only [List.mem_append, List.mem_filter, decide_eq_true_eq]
  tauto

/-- The layers put together have settings only exactly if the file has. -/
theorem any_merged_eq_false_iff {env : DataMap} (hfile : file.keys.Nodup)
    (henv : Environment.settings? assigned = some env) :
    (merged file env).any (fun f => !fieldNames.contains f.1) = false ↔
      ∀ key ∈ file.keys, key ∈ fieldNames := by
  obtain ⟨hnodup, hknown⟩ := Environment.keys_settings henv
  have hdefaults : ∀ key ∈ (toFields {}).keys, key ∈ fieldNames := by decide
  have hmerged : (merged file env).any (fun f => !fieldNames.contains f.1) = false ↔
      ∀ key ∈ (merged file env).keys, key ∈ fieldNames := by
    simp [DataMap.keys]
  rw [hmerged]
  constructor
  · exact fun h key hkey => h key ((mem_keys_merged hfile hnodup).mpr (.inr (.inl hkey)))
  · intro h key hkey
    rcases (mem_keys_merged hfile hnodup).mp hkey with hkey | hkey | hkey
    · exact hdefaults key hkey
    · exact h key hkey
    · exact hknown key hkey

/-- The layers put together are a configuration exactly if the file has settings only, and each
setting is what the layers make of it. -/
theorem ofFields?_merged_eq_some_iff {env : DataMap} {c : Config} (h : OncePerSetting assigned)
    (henv : Environment.settings? assigned = some env) (hfile : file.keys.Nodup) :
    ofFields? (merged file env) = some c ↔
      (∀ key ∈ file.keys, key ∈ fieldNames) ∧ Composes assigned file c := by
  rw [← any_merged_eq_false_iff hfile henv]
  -- each field on its own, by the form of its value
  have hcomposes : Composes assigned file c ↔
      fieldOr (merged file env) "cwd" none optionalPath? = some c.cwd ∧
      fieldOr (merged file env) "dependencyDir" none optionalPath? = some c.dependencyDir ∧
      fieldOr (merged file env) "nodeBinary" ⟨"node"⟩ path? = some c.nodeBinary ∧
      fieldOr (merged file env) "hookNamespaces" ["parameters", "test"] names? =
        some c.hookNamespaces ∧
      fieldOr (merged file env) "titleFromDefault" true flag? = some c.titleFromDefault ∧
      fieldOr (merged file env) "suiteStubs" true flag? = some c.suiteStubs ∧
      fieldOr (merged file env) "logLevel" .info level? = some c.logLevel := by
    rw [fieldOr_merged_eq_some_iff (fun _ _ => optionalPath?_eq_some_iff) rfl h henv hfile,
      fieldOr_merged_eq_some_iff (fun _ _ => optionalPath?_eq_some_iff) rfl h henv hfile,
      fieldOr_merged_eq_some_iff (fun _ _ => path?_eq_some_iff) rfl h henv hfile,
      fieldOr_merged_eq_some_iff (fun _ _ => names?_eq_some_iff) rfl h henv hfile,
      fieldOr_merged_eq_some_iff (fun _ _ => flag?_eq_some_iff) rfl h henv hfile,
      fieldOr_merged_eq_some_iff (fun _ _ => flag?_eq_some_iff) rfl h henv hfile,
      fieldOr_merged_eq_some_iff (fun _ _ => level?_eq_some_iff) rfl h henv hfile]
    exact composes_iff assigned file c
  rw [hcomposes]
  unfold ofFields?
  cases hany : (merged file env).any fun f => !fieldNames.contains f.1 with
  | true => simp
  | false =>
      simp only [Bool.false_eq_true, if_false, Option.bind_eq_bind, Option.bind_eq_some_iff,
        Option.pure_def, Option.some.injEq, true_and]
      constructor
      · rintro ⟨_, h₁, _, h₂, _, h₃, _, h₄, _, h₅, _, h₆, _, h₇, rfl⟩
        exact ⟨h₁, h₂, h₃, h₄, h₅, h₆, h₇⟩
      · rintro ⟨h₁, h₂, h₃, h₄, h₅, h₆, h₇⟩
        exact ⟨_, h₁, _, h₂, _, h₃, _, h₄, _, h₅, _, h₆, _, h₇, rfl⟩

/-! ### Files -/

theorem nodup_keys_mergedFields : ∀ {fields acc : DataMap}, acc.keys.Nodup →
    (DataMap.keys (mergedFields acc fields)).Nodup
  | [], _, h => by simpa only [mergedFields] using h
  | (k, v) :: rest, _, h => by
      simp only [mergedFields]
      exact nodup_keys_mergedFields (DataMap.nodup_keys_insert h k v.merged)

/-- Of a key that stands twice in a text, one field is left. -/
theorem nodup_keys_parse? {s : String} {depth : Nat} {fields : DataMap}
    (h : parse? s depth = some (.object fields)) : fields.keys.Nodup := by
  obtain ⟨v, -, hv⟩ := Option.map_eq_some_iff.mp h
  cases v with
  | object raw =>
      simp only [Value.merged, Value.object.injEq] at hv
      exact hv ▸ nodup_keys_mergedFields List.nodup_nil
  | _ => simp [Value.merged] at hv

theorem keys_nameLevels (fields : DataMap) : (nameLevels fields).keys = fields.keys := by
  unfold nameLevels DataMap.keys
  rw [List.map_map]
  refine List.map_congr_left fun f _ => ?_
  rw [Function.comp_apply]
  split
  · split <;> rfl
  · rfl

theorem nodup_keys_lines? : ∀ {fuel : Nat} {acc fields : DataMap} {cs : List Char},
    acc.keys.Nodup → Assignments.lines? fuel acc cs = some fields → fields.keys.Nodup
  | 0, _, _, _, _, h => by simp [Assignments.lines?] at h
  | fuel + 1, acc, fields, cs, hacc, h => by
      unfold Assignments.lines? at h
      split at h
      · cases h
        exact hacc
      · obtain ⟨⟨⟨key, v⟩, rest⟩, -, h⟩ := Option.bind_eq_some_iff.mp h
        dsimp only at h
        split at h
        · cases h
        · rename_i hnew
          -- a key that is assigned before is refused
          have hfresh : (DataMap.keys (acc ++ [(key, v)])).Nodup := by
            have hmem : key ∉ acc.keys := fun hmem => hnew (DataMap.get?_isSome_of_mem hmem)
            rw [DataMap.keys, List.map_append]
            refine List.nodup_append.mpr ⟨hacc, List.nodup_singleton key, ?_⟩
            rintro a ha b hb rfl
            exact hmem ((List.mem_singleton.mp hb : a = key) ▸ ha)
          split at h
          · exact nodup_keys_lines? hfresh h
          · split at h
            · cases h
              exact hfresh
            · cases h

theorem nodup_keys_fileLayer {disk : Disk} {p : Path} (h : fileLayer disk p = .ok file) :
    file.keys.Nodup := by
  unfold fileLayer at h
  split at h
  · split at h
    · rename_i bytes _ fields hfields
      cases h
      obtain ⟨s, -, hs⟩ := Option.bind_eq_some_iff.mp hfields
      unfold fieldsOfText? at hs
      split at hs
      · split at hs
        · rename_i fields' hparse
          cases hs
          exact keys_nameLevels fields' ▸ nodup_keys_parse? hparse
        · cases hs
      · have hempty : DataMap.keys [] = [] := rfl
        exact nodup_keys_lines? (hempty ▸ List.nodup_nil) hs
    · cases h
  · cases h
    exact List.nodup_nil

/-- A file has each of its keys once. -/
theorem nodup_keys_fileSettings {disk : Disk} {named : Option Path}
    (h : fileSettings disk named = .ok file) : file.keys.Nodup := by
  unfold fileSettings at h
  split at h
  · split at h
    · exact nodup_keys_fileLayer h
    · cases h
  · exact nodup_keys_fileLayer h

/-! ### Loading -/

variable {disk : Disk} {named : Option Path}

theorem fault?_eq_none_iff {c : Config} : c.fault? = none ↔
    c.nodeBinary.text ≠ "" ∧ ∀ name ∈ c.hookNamespaces, BindingName.isIdentifier name = true := by
  unfold fault?
  split
  · rename_i hempty
    exact iff_of_false nofun fun h => h.1 (String.isEmpty_iff.mp hempty)
  · rename_i hname
    rw [Option.map_eq_none_iff, List.find?_eq_none]
    simp [String.isEmpty_iff] at hname
    simp [hname]

/-- The settings, if they make sense. -/
def checked (c : Config) : Except ConfigError Config :=
  match c.fault? with
  | some e => throw e
  | none => pure c

theorem checked_eq_ok_iff {c c' : Config} : checked c' = .ok c ↔ c' = c ∧ c.fault? = none := by
  unfold checked
  constructor
  · intro h
    split at h
    · cases h
    · rename_i hnone
      cases h
      exact ⟨rfl, hnone⟩
  · rintro ⟨rfl, hnone⟩
    rw [hnone]
    rfl

theorem ofLayers_eq_ok_iff {file env : DataMap} {c : Config} :
    ofLayers [file, env] = .ok c ↔ ofFields? (merged file env) = some c := by
  have hmerged : [file, env].foldl DataMap.insertAll (toFields {}) = merged file env := rfl
  rw [ofLayers, hmerged]
  cases ofFields? (merged file env) <;> simp

/-- Layers are put together and looked at. -/
theorem ofLayers_checked_eq_ok_iff (file env : DataMap) {c : Config} :
    (ofLayers [file, env] >>= checked) = .ok c ↔
      ofFields? (merged file env) = some c ∧ c.fault? = none := by
  rw [← ofLayers_eq_ok_iff]
  cases ofLayers [file, env] with
  | error e => exact iff_of_false nofun fun h => by cases h.1
  | ok c' =>
      rw [Except.ok.injEq]
      exact checked_eq_ok_iff

/-- **Loading settings** succeeds exactly with a file of settings only, with variables that are fit
to be settings, and with values that make sense. -/
theorem load_eq_ok_iff (h : OncePerSetting assigned) {c : Config} :
    load disk assigned named = .ok c ↔
      ∃ file, fileSettings disk named = .ok file ∧ Composes assigned file c ∧
        (∀ key ∈ file.keys, key ∈ fieldNames) ∧ Fit assigned ∧ c.nodeBinary.text ≠ "" ∧
        ∀ name ∈ c.hookNamespaces, BindingName.isIdentifier name = true := by
  rw [← fault?_eq_none_iff, ← Environment.settings?_isSome_iff]
  unfold load
  cases hfile : fileSettings disk named with
  | error e => exact iff_of_false nofun fun ⟨_, h, _⟩ => by cases h
  | ok file =>
      cases henv : Environment.settings? assigned with
      | none => exact iff_of_false nofun fun ⟨_, _, _, _, h, _⟩ => by cases h
      | some env =>
          have hmerged : ofFields? (merged file env) = some c ↔ _ :=
            ofFields?_merged_eq_some_iff h henv (nodup_keys_fileSettings hfile)
          refine (ofLayers_checked_eq_ok_iff file env).trans ?_
          rw [hmerged]
          constructor
          · rintro ⟨⟨hkeys, hcomposes⟩, hfault⟩
            exact ⟨file, rfl, hcomposes, hkeys, rfl, hfault⟩
          · rintro ⟨file', heq, hcomposes, hkeys, -, hfault⟩
            cases heq
            exact ⟨⟨hkeys, hcomposes⟩, hfault⟩

/-! ### Faults -/

/-- A value of a setting's type. -/
def HasType (key : String) (v : Value) : Prop :=
  match key with
  | "cwd" | "dependencyDir" => ∃ p, IsOptionalPath v p
  | "nodeBinary" => ∃ p, IsPath v p
  | "hookNamespaces" => ∃ names, IsNames v names
  | "titleFromDefault" | "suiteStubs" => ∃ b, IsFlag v b
  | "logLevel" => ∃ l, IsLevel v l
  | _ => False

/-- What is wrong with layers. -/
inductive Faulty (assigned : List (String × String)) (file : DataMap) : Prop where
  /-- The file has a key that is no setting's. -/
  | unknownKey {key : String} (h : key ∈ file.keys) (hkey : key ∉ fieldNames)
  /-- The layer that determines a setting has nothing of its type. -/
  | wrongType {key : String} (hkey : key ∈ fieldNames) (hspoken : ¬ Silent assigned file key)
      (hv : ∀ v, Gives assigned file key v → ¬ HasType key v)
  | noProgram (h : Gives assigned file "nodeBinary" (.string ""))
  | noName {names : List String} {name : String}
      (h : Gives assigned file "hookNamespaces" (.array (names.map .string))) (hname : name ∈ names)
      (hbad : BindingName.isIdentifier name = false)

/-- Settings of layers that compose have their types. -/
theorem Composes.hasType {c : Config} (h : Composes assigned file c) (hkey : key ∈ fieldNames)
    (hspoken : ¬ Silent assigned file key) : ∃ v, Gives assigned file key v ∧ HasType key v := by
  have himp {α : Type} {fallback a : α} {IsRead : Value → α → Prop}
      (ht : Takes assigned file key fallback IsRead a) (htype : ∀ v, IsRead v a → HasType key v) :
      ∃ v, Gives assigned file key v ∧ HasType key v := by
    obtain ⟨v, hv, ha⟩ := ht.exists_gives hspoken
    exact ⟨v, hv, htype v ha⟩
  simp only [fieldNames, List.mem_cons, List.not_mem_nil, or_false] at hkey
  rcases hkey with rfl | rfl | rfl | rfl | rfl | rfl | rfl
  · exact himp h.cwd fun _ ha => ⟨_, ha⟩
  · exact himp h.dependencyDir fun _ ha => ⟨_, ha⟩
  · exact himp h.nodeBinary fun _ ha => ⟨_, ha⟩
  · exact himp h.hookNamespaces fun _ ha => ⟨_, ha⟩
  · exact himp h.titleFromDefault fun _ ha => ⟨_, ha⟩
  · exact himp h.suiteStubs fun _ ha => ⟨_, ha⟩
  · exact himp h.logLevel fun _ ha => ⟨_, ha⟩

/-- Faulty layers are not loaded. -/
theorem load_of_faulty (h : OncePerSetting assigned) (hfile : fileSettings disk named = .ok file)
    (hfaulty : Faulty assigned file) : ∃ e, load disk assigned named = .error e := by
  cases hload : load disk assigned named with
  | error e => exact ⟨e, rfl⟩
  | ok c =>
      exfalso
      obtain ⟨file', hfile', hcomposes, hkeys, -, hprogram, hnames⟩ := (load_eq_ok_iff h).mp hload
      cases hfile.symm.trans hfile'
      cases hfaulty with
      | unknownKey hin hkey => exact hkey (hkeys _ hin)
      | wrongType hkey hspoken hv =>
          obtain ⟨v, hgives, htype⟩ := hcomposes.hasType hkey hspoken
          exact hv v hgives htype
      | noProgram hgives =>
          have hpath := (Takes.iff_of_gives hgives).mp hcomposes.nodeBinary
          exact hprogram (Value.string.inj hpath).symm
      | @noName names name hgives hname hbad =>
          have hlist := (Takes.iff_of_gives hgives).mp hcomposes.hookNamespaces
          have hinj : Function.Injective Value.string := fun _ _ => Value.string.inj
          have heq : names = c.hookNamespaces := hinj.list_map (Value.array.inj hlist)
          have hgood := hnames name (heq ▸ hname)
          rw [hbad] at hgood
          cases hgood

/-- Variables that name no setting are not looked at. -/
theorem load_filter (disk : Disk) (assigned : List (String × String)) (named : Option Path) :
    load disk (assigned.filter fun v => (settingOf? v.1).isSome) named =
      load disk assigned named := by
  unfold load
  rw [Environment.settings?_filter]

/-- **Settings in layers.**  Where no two variables name the same setting, a configuration is loaded
exactly if the file has settings only, the variables are fit to be settings, and each of the seven
settings is what the environment says, else what the file says, else its default, and makes sense.
Faulty layers are not loaded, and variables that name no setting do not count. -/
theorem load_composes (disk : Disk) (named : Option Path) {assigned : List (String × String)}
    (h : OncePerSetting assigned) :
    (∀ name key, settingOf? name = some key ↔
      key ∈ fieldNames ∧ ∃ front rest, Text.trimChars name.toList = front ++ rest ∧
        front.map Char.toLower = "storytest_".toList ∧ Environment.camelCase rest = key) ∧
    (∀ c, load disk assigned named = .ok c ↔
      ∃ file, fileSettings disk named = .ok file ∧ Composes assigned file c ∧
        (∀ key ∈ file.keys, key ∈ fieldNames) ∧ Fit assigned ∧ c.nodeBinary.text ≠ "" ∧
        ∀ name ∈ c.hookNamespaces, BindingName.isIdentifier name = true) ∧
    (∀ file, fileSettings disk named = .ok file → Faulty assigned file →
      ∃ e, load disk assigned named = .error e) ∧
    load disk (assigned.filter fun v => (settingOf? v.1).isSome) named = load disk assigned named ∧
    ∀ c, load disk assigned named = .ok c → ∀ name ∈ c.hookNamespaces,
      (Script.IsBindingIdentifier name ↔
        (∀ ch ∈ name.toList, ¬ Text.inRanges Text.strayRanges ch.toNat = true) ∧
          ∀ ch ∈ name.toList.head?, ¬ Text.inRanges Text.idTailRanges ch.toNat = true) := by
  refine ⟨fun _ _ => Environment.settingOf?_eq_some_iff, fun c => load_eq_ok_iff h,
    fun file hfile => load_of_faulty h hfile,
    load_filter disk assigned named, fun c hload name hname => ?_⟩
  obtain ⟨-, -, -, -, -, -, hnames⟩ := (load_eq_ok_iff h).mp hload
  exact Script.isBindingIdentifier_iff (hnames name hname)

/-- A disk with one settings file. -/
def diskWith (text : String) : Disk :=
  { workingDir := [], directories := [[]], files := [(["c.json"], Text.Utf8.encode text)] }

/-- A setting from each of the layers. -/
theorem load_composes_from_each :
    let assigned := [("COLOR", "red"), ("STORYTEST_CWD", " /work "), ("STORYTEST_COLOR", "red")]
    let disk := diskWith "\x7b\"cwd\":5,\"hookNamespaces\":[\"hooks\"]\x7d"
    OncePerSetting assigned ∧
      load disk assigned (some ⟨"c.json"⟩) =
        .ok { cwd := some ⟨"/work"⟩, hookNamespaces := ["hooks"] } ∧
      ∃ file, Composes assigned file { cwd := some ⟨"/work"⟩, hookNamespaces := ["hooks"] } := by
  intro assigned disk
  have honce : OncePerSetting assigned := by
    have hsettings : (assigned.filterMap fun v => settingOf? v.1) = ["cwd"] := by decide +kernel
    rw [OncePerSetting, hsettings]
    exact List.nodup_singleton _
  have hload : load disk assigned (some ⟨"c.json"⟩) =
      .ok { cwd := some ⟨"/work"⟩, hookNamespaces := ["hooks"] } := by decide +kernel
  obtain ⟨-, hiff, -⟩ := load_composes disk (some ⟨"c.json"⟩) honce
  obtain ⟨file, -, hcomposes, -⟩ := (hiff _).mp hload
  exact ⟨honce, hload, file, hcomposes⟩

/-- **A namespace that is accepted need not be the name of anything**: a number above the line is no
part of a name. -/
theorem not_forall_namespaces :
    ¬ ∀ disk assigned named c, OncePerSetting assigned → load disk assigned named = .ok c →
      ∀ name ∈ c.hookNamespaces, Script.IsBindingIdentifier name := by
  intro hall
  have hload : load (diskWith "\x7b\"hookNamespaces\":[\"a²\"]\x7d") [] (some ⟨"c.json"⟩) =
      .ok { hookNamespaces := ["a²"] } ∧ ¬ Script.IsBindingIdentifier "a²" := by decide +kernel
  exact hload.2 (hall _ [] _ _ List.nodup_nil hload.1 "a²" List.mem_cons_self)

end Config

end StorySuite
