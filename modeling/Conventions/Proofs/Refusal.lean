import Conventions.CommandLine.Outcome
import Conventions.Proofs.Reported

/-!
# Refused configurations

A configuration whose mappings have texts as keys is read, or refused with a message. One value stops the program
instead: a list or a mapping as version. So a command that meets a configuration that is not valid exits as refused,
except for such a version.
-/

namespace Conventions

open Conventions.Except (FailsIn)

/-! ## Configurations -/

namespace Config

variable {v : Value}

/-- Whether a value is a list or a mapping. -/
def isCompound : Value → Bool
  | .scalar _ => false
  | _ => true

/-- Whether the version of a configuration is a list or a mapping. -/
def hasCompoundVersion : Value → Bool
  | .map es => (Value.field? es "version").any isCompound
  | _ => false

theorem read_of_hasCompoundVersion (h : hasCompoundVersion v = true) :
    read v = .error .unhashableVersion := by
  cases v with
  | map es =>
      obtain ⟨w, hw, hcompound⟩ := (Option.any_eq_true _ _).1 h
      have hversion : checkVersion w = .error .unhashableVersion := by
        cases w with
        | scalar s => cases hcompound
        | _ => rfl
      simp only [read, sectionOf, hw, Option.getD_some, hversion, bind, Except.bind]
  | _ => cases h

theorem sectionOf_eq_ok {data : Section} (h : sectionOf v = .ok data) :
    v = .map data ∨ (v = .null ∧ data = []) := by
  unfold sectionOf at h
  split at h
  · cases h
    exact Or.inr ⟨rfl, rfl⟩
  · cases h
    exact Or.inl rfl
  · cases h

theorem exists_scalar_version {data : Section} (hdata : sectionOf v = .ok data)
    (hversion : hasCompoundVersion v = false) :
    ∃ s, (Value.field? data "version").getD (.scalar (.int 1)) = .scalar s := by
  cases hw : Value.field? data "version" with
  | none => exact ⟨.int 1, rfl⟩
  | some w =>
      rcases sectionOf_eq_ok hdata with rfl | ⟨_, rfl⟩
      · rw [hasCompoundVersion, hw] at hversion
        cases w with
        | scalar s => exact ⟨s, rfl⟩
        | _ => cases hversion
      · cases hw

theorem checkVersion_failsIn {s : Scalar} : FailsIn ConfigFault.IsReported (checkVersion (.scalar s)) := by
  unfold checkVersion
  dsimp only
  split
  · exact .of_ok
  · exact .of_error ⟨rfl, nofun⟩

theorem readExtends_failsIn {data : Section} : FailsIn ConfigFault.IsReported (readExtends data) := by
  unfold readExtends
  split
  · exact .of_ok
  · exact .of_ok
  · exact .of_error ⟨rfl, nofun⟩

theorem readRules_failsIn {data : Section} {keep : Bool} {settings : Settings}
    (hrules : ∀ w ∈ Value.field? data "rules", w.hasTextKeys = true)
    (hkinds : Settings.ListsKinds settings.placement) :
    FailsIn ConfigFault.IsReported (readRules data keep settings) := by
  unfold readRules
  split
  · rename_i f hf
    refine .of_error ⟨rfl, fun kind he => ?_⟩
    cases he
    exact Schema.ofMapping_failsIn hkinds _ hf kind rfl
  · exact RuleDrafts.readEntries_failsIn hrules

theorem read_failsIn (hkeys : v.hasTextKeys = true) (hversion : hasCompoundVersion v = false) :
    FailsIn ConfigFault.IsReported (read v) := by
  have hsection : FailsIn ConfigFault.IsReported (sectionOf v) := by
    unfold sectionOf
    split
    · exact .of_ok
    · exact .of_ok
    · exact .of_error ⟨rfl, nofun⟩
  refine hsection.bind fun data hdata => ?_
  obtain ⟨s, hs⟩ := exists_scalar_version hdata hversion
  have hrules : ∀ w ∈ Value.field? data "rules", w.hasTextKeys = true := by
    intro w hw
    rcases sectionOf_eq_ok hdata with rfl | ⟨_, rfl⟩
    · exact Value.hasTextKeys_of_field? hkeys hw
    · cases hw
  rw [hs]
  refine checkVersion_failsIn.bind fun _ _ => readExtends_failsIn.bind fun keep _ => ?_
  refine Settings.read_failsIn.bind fun settings hsettings => ?_
  refine (readRules_failsIn hrules (Settings.read_listsKinds hsettings)).bind fun rs _ => ?_
  split
  · exact .of_ok
  · rename_i f hf
    refine .of_error ⟨rfl, fun kind he => ?_⟩
    cases he
    exact RuleSet.ofRules_failsIn _ hf ⟨_, rfl⟩

/-! ## Files -/

variable {disk : Disk} {path : Path} {text : String}

theorem load_eq_error_iff (hread : disk.read path = .ok (some text)) (hyaml : Yaml.load text = .ok v)
    {f : LoadFault} : load disk path = .error f ↔ ∃ g, read v = .error g ∧ f = .invalid path.name g := by
  simp only [load, hread, ofText, hyaml]
  cases read v <;> simp [eq_comm]

end Config

/-! ## Commands -/

namespace CommandLine.Invocation

variable {i : Invocation} {s : Session}

/-- Every command but the one about hooks needs the configuration, unless there is no commit message to check. -/
theorem exists_run_eq_withConfig (hhooks : ∀ a, i.command ≠ .hooks a)
    (hcommit : ∀ d, i.command ≠ .commit none none d) : ∃ k, i.run s = i.withConfig s k := by
  unfold run
  split
  case h_2 d hd => exact absurd hd (hcommit d)
  case h_8 a ha => exact absurd ha (hhooks a)
  all_goals exact ⟨_, rfl⟩

/-- A command that meets a faulty configuration exits as refused exactly if the fault is reported, or if it does not
need the configuration. -/
theorem run_of_error {f : LoadFault} (h : Config.resolve s.disk (i.root s) i.config = .error f)
    (hhooks : ∀ a, i.command ≠ .hooks a) :
    (∃ o, i.run s = .ok o ∧ o.exitCode = 2) ↔
      f.isInternal = false ∨ ∃ d, i.command = .commit none none d := by
  by_cases hcommit : ∃ d, i.command = .commit none none d
  · obtain ⟨d, hd⟩ := hcommit
    refine iff_of_true ⟨i.refuse s [] "provide a MESSAGE or --file.", ?_, rfl⟩ (Or.inr ⟨d, hd⟩)
    rw [run, hd]
  · rw [or_iff_left hcommit]
    obtain ⟨k, hk⟩ : ∃ k, i.run s = i.withConfig s k :=
      exists_run_eq_withConfig hhooks fun d hd => hcommit ⟨d, hd⟩
    have hrun : i.run s = if f.isInternal then .error (.config f) else .ok (i.refuse s [] f.message) := by
      rw [hk, withConfig, h]
    cases hf : f.isInternal with
    | false => exact iff_of_true ⟨i.refuse s [] f.message, by rw [hrun, hf]; rfl, rfl⟩ rfl
    | true => simp [hrun, hf]

end CommandLine.Invocation

namespace Config

open CommandLine

/-- A configuration whose mappings have texts as keys is read or refused with a message, exactly unless its version is
a list or a mapping. In the same cases, loading a file that holds it gives a configuration or a fault that names the
file, and a command exits with 2 if the configuration is not valid. -/
theorem refused_of_hasTextKeys {v : Value} (hkeys : v.hasTextKeys = true) :
    (∀ f, read v = .error f → (f.IsReported ↔ hasCompoundVersion v = false)) ∧
      (∀ disk path text, disk.read path = .ok (some text) → Yaml.load text = .ok v →
        ∀ f, load disk path = .error f →
          ((∃ g : ConfigFault, f = .invalid path.name g ∧ g.IsReported) ↔ hasCompoundVersion v = false)) ∧
      (∀ (i : Invocation) (s : Session) (path : Path) (text : String),
        i.config.or (find? s.disk (i.root s)) = some path → s.disk.read path = .ok (some text) →
          Yaml.load text = .ok v → (∃ f, read v = .error f) → (∀ a, i.command ≠ .hooks a) →
            ((∃ o, i.run s = .ok o ∧ o.exitCode = 2) ↔
              hasCompoundVersion v = false ∨ ∃ d, i.command = .commit none none d)) := by
  have hinternal : ∀ f, read v = .error f → (f.isInternal = false ↔ hasCompoundVersion v = false) := by
    intro f hf
    cases hversion : hasCompoundVersion v with
    | false => exact iff_of_true (read_failsIn hkeys hversion f hf).1 rfl
    | true =>
        rw [read_of_hasCompoundVersion hversion] at hf
        cases hf
        simp [ConfigFault.isInternal]
  have hreported : ∀ f, read v = .error f → (f.IsReported ↔ hasCompoundVersion v = false) := by
    intro f hf
    rw [← hinternal f hf]
    exact ⟨fun hr => hr.1, fun hi => read_failsIn hkeys ((hinternal f hf).1 hi) f hf⟩
  refine ⟨hreported, ?load, ?run⟩
  case load =>
    intro disk path text hread hyaml f hf
    obtain ⟨g, hg, rfl⟩ := (load_eq_error_iff hread hyaml).1 hf
    rw [← hreported g hg]
    constructor
    · rintro ⟨g', he, hg'⟩
      cases he
      exact hg'
    · exact fun hr => ⟨g, rfl, hr⟩
  case run =>
    intro i s path text hpath hread hyaml ⟨f, hf⟩ hhooks
    have hload := (load_eq_error_iff hread hyaml).2 ⟨f, hf, rfl⟩
    have hresolve : resolve s.disk (i.root s) i.config = .error (.invalid path.name f) := by
      rw [resolve, hpath]
      exact hload
    rw [Invocation.run_of_error hresolve hhooks, ← hinternal f hf]
    rfl

/-- A session in a project whose configuration asks for a version that is not supported. -/
def unsupportedSession : Session :=
  ⟨⟨⟨"/", ["game"]⟩, [(["game", "convcheck.yml"], .file (some "version: 2") 0o644)]⟩, .owner, fun _ => .missing, "",
    .porcelain⟩

theorem run_unsupportedSession : ∃ o,
    Invocation.run ⟨false, none, none, .branch (some "12-page") false ⟨none, false⟩⟩ unsupportedSession =
      .ok o ∧ o.exitCode = 2 := by
  have hrefused : (Yaml.load "version: 2").toOption.any (fun v =>
      v.hasTextKeys && !hasCompoundVersion v && (read v).toOption.isNone) = true := by
    decide +kernel
  cases hyaml : Yaml.load "version: 2" with
  | error f =>
      rw [hyaml] at hrefused
      cases hrefused
  | ok v =>
      simp only [hyaml, Except.toOption, Option.any_some, Bool.and_eq_true, Bool.not_eq_true'] at hrefused
      obtain ⟨⟨hkeys, hversion⟩, hnone⟩ := hrefused
      obtain ⟨f, hf⟩ : ∃ f, read v = .error f := by
        cases hread : read v with
        | error f => exact ⟨f, rfl⟩
        | ok x =>
            rw [hread] at hnone
            cases hnone
      obtain ⟨_, _, hrun⟩ := refused_of_hasTextKeys hkeys
      exact (hrun _ unsupportedSession ⟨"/", ["game", "convcheck.yml"]⟩ "version: 2" (by decide +kernel) rfl
        hyaml ⟨f, hf⟩ fun _ h => by cases h).2 (Or.inl hversion)

/-- A list as version stops the program. -/
theorem read_listVersion : ¬∀ v : Value, v.hasTextKeys = true →
    ∀ f, read v = .error f → f.isInternal = false := by
  intro h
  have hinternal := h (.map [(.text "version", .list [])]) (by decide) .unhashableVersion rfl
  cases hinternal

end Config

end Conventions
