import StorySuite.Proofs.Script.Required
import StorySuite.Sandbox.Basic

/-!
# Proofs — Sandbox — the table of required names

Before a text is run, the names that it requires in plain sight are looked up, and the loader is
handed a table of them.  The table has the names that the text requires, each once and in the order
in which they are first written, each with what is asked for under it.

The names are those of the literals as far as a name can say what a literal does.  A literal with
half of a surrogate pair in it has a text that is no name, and is listed under what is written for
it, which nobody requires.

* **`Sandbox.requires_spec`**: the list of required names, and the table.
* `Sandbox.not_forall_isRequired`: the list is not always the names that are required.
-/

namespace StorySuite.Sandbox

open Script (IsRequired Program)

variable {code : String} {p : Program}

/-- **What a text requires.**  The list that is read off a program has what is written of each text
that the program requires, each once and in the order in which they are first required; where no
half of a surrogate pair stands alone in them, these are the required texts.  The table that is made
for a module has these names in this order, each with what the module's resolver makes of it. -/
theorem requires_spec (hp : Program.parse? { dialect := .js, isModule := false } code = some p) :
    Script.requires? code = some p.requires ∧
    IsRequired (fun path s => ∃ t, p.RequiresAt path t ∧ t.value = s) p.requires ∧
    ((∀ path t, p.RequiresAt path t → t.lone = false) →
      IsRequired (fun path s => p.RequiresAt path ⟨s, false⟩) p.requires) ∧
    ∀ (s : Sandbox) (module : ModuleReference), ∃ script, s.prepare module code = .ok script ∧
      script.requires.map Prod.fst = p.requires ∧
      ∀ entry ∈ script.requires,
        entry.2 = (Resolver.resolve ⟨module.directory, s.sharedDir⟩ entry.1).text := by
  have hrequires : Script.requires? code = some p.requires := by
    unfold Script.requires?
    rw [hp]
    rfl
  refine ⟨hrequires, p.requires_isRequired, Program.requires_isRequired_of_whole,
    fun s module => ?_⟩
  unfold prepare
  rw [hrequires]
  refine ⟨_, rfl, ?_, ?_⟩
  · unfold requests
    rw [List.map_map]
    exact List.map_id _
  · unfold requests
    rw [List.forall_mem_map]
    exact fun name _ => rfl

/-- A text that is read as a call of `require`. -/
theorem exists_isCallOf {t : Script.StringValue}
    (h : (Program.parse? { dialect := .js, isModule := false } code).any (·.isCallOf t) = true) :
    ∃ p, Program.parse? { dialect := .js, isModule := false } code = some p ∧
      p.isCallOf t = true := by
  cases hp : Program.parse? { dialect := .js, isModule := false } code with
  | none =>
      rw [hp] at h
      cases h
  | some p =>
      rw [hp] at h
      exact ⟨p, rfl, h⟩

/-- `require("./b")` requires `./b`, which for a module in `/p/src` is the file `/p/src/b`. -/
theorem neighbour_required : ∃ p,
    Program.parse? { dialect := .js, isModule := false } "require(\"./b\")" = some p ∧
    (∀ path t, p.RequiresAt path t → t.lone = false) ∧
    IsRequired (fun path s => p.RequiresAt path ⟨s, false⟩) ["./b"] ∧
    ∀ (host : ScriptHost) (module : ModuleReference), module.directory = ⟨"/p/src"⟩ →
      ∃ script,
        prepare { host, sharedDir := ⟨"/p/node_modules"⟩ } module "require(\"./b\")" = .ok script ∧
          script.requires = [("./b", "/p/src/b")] := by
  have hcalls : (Program.parse? { dialect := .js, isModule := false } "require(\"./b\")").any
      (·.isCallOf ⟨"./b", false⟩) = true := by decide +kernel
  obtain ⟨p, hp, hcall⟩ := exists_isCallOf hcalls
  -- the one call is all that the program consists of
  have hwhole : ∀ path t, p.RequiresAt path t → t.lone = false :=
    fun path t ht => by rw [Program.eq_of_requiresAt_call hcall ht]
  obtain ⟨hrequires, -, hspec, htable⟩ := requires_spec hp
  have hnames : p.requires = ["./b"] := by
    have hread : Script.requires? "require(\"./b\")" = some ["./b"] := by decide +kernel
    exact Option.some.inj (hrequires.symm.trans hread)
  refine ⟨p, hp, hwhole, hnames ▸ hspec hwhole, fun host module hdir => ?_⟩
  obtain ⟨script, hscript, hkeys, hentries⟩ :=
    htable { host, sharedDir := ⟨"/p/node_modules"⟩ } module
  refine ⟨script, hscript, ?_⟩
  rw [hnames] at hkeys
  obtain ⟨entry, hentry, hname⟩ := List.map_eq_singleton_iff.mp hkeys
  have hrequest := hentries entry (hentry ▸ List.mem_singleton_self entry)
  rw [hname, hdir] at hrequest
  rw [hentry]
  have hfile : (Resolver.resolve ⟨⟨"/p/src"⟩, ⟨"/p/node_modules"⟩⟩ "./b").text = "/p/src/b" := by
    decide +kernel
  exact congrArg (fun e => [e]) (Prod.ext hname (hrequest.trans hfile))

/-- **The list is not always the names that are required**: `require("\ud800")` requires a text with
half of a surrogate pair, and what is listed is U+FFFD with `d800` behind it, which is not
required. -/
theorem not_forall_isRequired :
    ¬ ∀ (code : String) (p : Program),
      Program.parse? { dialect := .js, isModule := false } code = some p →
        IsRequired (fun path s => p.RequiresAt path ⟨s, false⟩) p.requires := by
  intro h
  have hcalls : (Program.parse? { dialect := .js, isModule := false }
      "require(\"\\ud800\")").any (·.isCallOf ⟨"\ufffdd800", true⟩) = true := by decide +kernel
  obtain ⟨p, hp, hcall⟩ := exists_isCallOf hcalls
  have hlisted : "\ufffdd800" ∈ p.requires := by
    have hread : Script.requires? "require(\"\\ud800\")" = some ["\ufffdd800"] := by
      decide +kernel
    unfold Script.requires? at hread
    rw [hp] at hread
    rw [Option.some.inj hread]
    exact List.mem_singleton_self _
  obtain ⟨path, hrequired⟩ := (h _ p hp).exists_of_mem hlisted
  cases Program.eq_of_requiresAt_call hcall hrequired

end StorySuite.Sandbox
