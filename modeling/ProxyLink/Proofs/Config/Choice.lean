import ProxyLink.Config.Lookup
import ProxyLink.FileTree

/-!
# The file named on the command line

A file that is named on the command line takes the place of the candidates, so that, like them, it
gives way to the one that the environment names. Main statement: it decides over the configuration
exactly in those environments that name none. In any other one it makes no difference at all, not
even whether it exists.
-/

namespace ProxyLink

/-- Files of which only one exists, with nothing in it. -/
def Files.emptyAt (path : String) : Files where
  leads other := other == path
  bytes other := if other = path then .ok [] else .error .missing

namespace Config

variable {files : Files} {environment : Option String}

/-- The environment names a file exactly if the variable holds a text that is not blank. -/
theorem override?_eq_some_iff {path : String} :
    override? environment = some path ↔ environment = some path ∧ Text.allBlank path = false := by
  rw [override?, Option.filter_eq_some_iff, Bool.not_eq_true']

theorem override?_eq_none_iff :
    override? environment = none ↔ ∀ text ∈ environment, Text.allBlank text = true := by
  rw [override?, Option.filter_eq_none_iff]
  simp only [Bool.not_eq_true', Bool.not_eq_false, Option.mem_def]

/-- The file that the environment names is taken before any candidate is looked at. -/
theorem source?_of_override {path : String} (h : override? environment = some path)
    (candidates : List String) : source? files environment candidates = some path := by
  unfold source?
  rw [h]

/-- In an environment that names no file, a single candidate is taken if it leads anywhere. -/
theorem source?_of_no_override (h : override? environment = none) (path : String) :
    source? files environment [path] = if files.leads path then some path else none := by
  unfold source?
  rw [h, List.find?_singleton]

/-- When the environment names a file, the outcome is the one of that file, with and without a file
on the command line. -/
theorem choose_of_override {path : String} (h : override? environment = some path)
    (named : Option String) : choose files environment named = load files path := by
  cases named with
  | none => simp only [choose, source?_of_override h]
  | some _ =>
    simp only [choose, find, source?_of_override h]
    cases load files path <;> rfl

/-- When the environment names none, the outcome is the one of the file on the command line, which
has to exist. -/
theorem choose_of_no_override (h : override? environment = none) (path : String) :
    choose files environment (some path) =
      if files.leads path then load files path else .error (.noFile [path]) := by
  simp only [choose, find, source?_of_no_override h]
  by_cases hleads : files.leads path = true
  · simp only [if_pos hleads]
    cases load files path <;> rfl
  · simp only [if_neg hleads]
    rfl

/-- Whether a path on the command line decides, whatever files there are: nothing is found if it
leads nowhere, and otherwise the outcome is the one of the file that it leads to. -/
def NamedDecides (environment : Option String) : Prop :=
  ∀ files path,
    (files.leads path = false →
      ∃ failure, choose files environment (some path) = .error failure) ∧
    (files.leads path = true → choose files environment (some path) = load files path)

theorem load_emptyAt (path : String) : load (Files.emptyAt path) path = .ok default := by
  have htext : (Files.emptyAt path).text path = .ok "" := by
    simp only [Files.text, Files.emptyAt, if_pos]
    rfl
  have hparse : ofText? "" = some default := by decide +kernel
  have hflaw : default.flaw? = none := by decide
  simp only [load, htext, parse, hparse, check, hflaw]

/-- A path on the command line decides when the environment names no file. -/
theorem namedDecides_of_no_override (h : override? environment = none) :
    NamedDecides environment := by
  intro files path
  rw [choose_of_no_override h]
  constructor
  · intro hleads
    exact ⟨.noFile [path], if_neg (ne_true_of_eq_false hleads)⟩
  · intro hleads
    exact if_pos hleads

/-- Where a path on the command line decides, the environment names no file: if it did, a path that
leads nowhere would not be missed as long as that file serves. -/
theorem NamedDecides.no_override (h : NamedDecides environment) :
    override? environment = none := by
  cases hoverride : override? environment with
  | none => rfl
  | some text =>
    have hdangling : (Files.emptyAt text).leads (text ++ "x") = false := by
      simp [Files.emptyAt]
    obtain ⟨failure, hfails⟩ := (h (Files.emptyAt text) (text ++ "x")).1 hdangling
    rw [choose_of_override hoverride, load_emptyAt] at hfails
    nomatch hfails

/-- A path on the command line decides exactly in the environments in which the variable is not set
or blank. There, a path that leads nowhere is reported as the only one that was looked at. In any
other environment the outcome is the one of the file that the variable names, with and without a
path on the command line. -/
theorem named_decides_iff_no_override (environment : Option String) :
    (NamedDecides environment ↔ ∀ text ∈ environment, Text.allBlank text = true) ∧
      (∀ text ∈ environment, Text.allBlank text = false →
        ∀ files named, choose files environment named = load files text) ∧
      (NamedDecides environment → ∀ files path, files.leads path = false →
        choose files environment (some path) = .error (.noFile [path])) := by
  refine ⟨⟨?_, ?_⟩, ?_, ?_⟩
  · intro hdecides
    exact override?_eq_none_iff.mp hdecides.no_override
  · intro hblank
    exact namedDecides_of_no_override (override?_eq_none_iff.mpr hblank)
  · intro text henv hvisible files named
    exact choose_of_override (override?_eq_some_iff.mpr ⟨henv, hvisible⟩) named
  · intro hdecides files path hleads
    rw [choose_of_no_override hdecides.no_override, hleads]
    rfl

/-- A path on the command line leads nowhere, and the command has the configuration that the
environment names. -/
theorem dangling_name_not_missed : ¬∀ environment, NamedDecides environment := by
  intro hclaim
  let tree := FileTree.empty.add "y.toml"
    (.file (Utf8.encode "[proxy]\nlibrary_port = 7001\n"))
  have hdangling : tree.files.leads "x.toml" = false := by decide +kernel
  have hchosen : (choose tree.files (some "y.toml") (some "x.toml")).toOption =
      some ⟨{ Proxy.default with port := 7001 }, .default⟩ := by
    decide +kernel
  obtain ⟨failure, hfails⟩ := (hclaim (some "y.toml") tree.files "x.toml").1 hdangling
  rw [hfails] at hchosen
  nomatch hchosen

end Config

end ProxyLink
