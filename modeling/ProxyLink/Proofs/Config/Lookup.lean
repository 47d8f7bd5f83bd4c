import ProxyLink.Proofs.Config.Choice

/-!
# The file that a configuration is taken from

Without a file on the command line, the one that the environment names is taken, or else the first
candidate that exists. Main statement, which comes last: nobody is told that there is no file, as
the default configuration serves exactly when there is none; what stands behind the first candidate
that exists makes no difference; and a configuration that comes from anywhere passes every check.
-/

namespace ProxyLink.Config

variable {files : Files} {environment : Option String} {candidates : List String} {path : String}

/-- Whether there is a file to take, as far as can be told without looking for the first one: the
variable holds a text that is not blank, or some candidate leads anywhere. -/
def anyFile (files : Files) (environment : Option String) (candidates : List String) : Bool :=
  (environment.any fun text => !Text.allBlank text) || candidates.any files.leads

/-- A path leads somewhere, and no candidate before it does. -/
structure IsFirst (files : Files) (candidates : List String) (path : String) : Prop where
  leads : files.leads path = true
  split : ∃ before after, candidates = before ++ path :: after ∧
    ∀ other ∈ before, files.leads other = false

/-! ### Which file is taken -/

/-- There is a file to take exactly when one is taken. -/
theorem anyFile_eq_isSome_source? (files : Files) (environment : Option String)
    (candidates : List String) :
    anyFile files environment candidates = (source? files environment candidates).isSome := by
  have hnamed : (environment.any fun text => !Text.allBlank text) =
      (override? environment).isSome :=
    Option.isSome_filter.symm
  rw [anyFile, hnamed, source?]
  cases override? environment with
  | some text => rfl
  | none => rw [Option.isSome_none, Bool.false_or, List.isSome_find?]

/-- In an environment that names no file, the first candidate that leads anywhere is taken. -/
theorem source?_eq_some_iff_isFirst (h : override? environment = none) :
    source? files environment candidates = some path ↔ IsFirst files candidates path := by
  rw [source?, h]
  simp only [List.find?_eq_some_iff_append, Bool.not_eq_true']
  constructor
  · rintro ⟨hleads, hsplit⟩
    exact ⟨hleads, hsplit⟩
  · rintro ⟨hleads, hsplit⟩
    exact ⟨hleads, hsplit⟩

/-- No file is taken exactly when the environment names none and no candidate leads anywhere. -/
theorem source?_eq_none_iff : source? files environment candidates = none ↔
    override? environment = none ∧ ∀ other ∈ candidates, files.leads other = false := by
  rw [source?]
  cases override? environment with
  | some text => simp
  | none => simp

/-- Where a candidate leads anywhere, the first one that does is taken or the file that the
environment names. -/
theorem IsFirst.source? (h : IsFirst files candidates path) :
    ∃ taken ∈ path :: environment.toList, source? files environment candidates = some taken := by
  cases hnamed : override? environment with
  | some text =>
    have hset := (override?_eq_some_iff.mp hnamed).1
    refine ⟨text, List.mem_cons_of_mem _ ?_, source?_of_override hnamed candidates⟩
    rw [hset, Option.toList_some]
    exact List.mem_singleton_self text
  | none => exact ⟨path, List.mem_cons_self, (source?_eq_some_iff_isFirst hnamed).mpr h⟩

/-- The same file is taken from all candidates that have the same first one. -/
theorem IsFirst.source?_eq {files' : Files} {candidates' : List String}
    (h : IsFirst files candidates path) (h' : IsFirst files' candidates' path) :
    Config.source? files' environment candidates' =
      Config.source? files environment candidates := by
  cases hnamed : override? environment with
  | some text => rw [source?_of_override hnamed, source?_of_override hnamed]
  | none =>
    rw [(source?_eq_some_iff_isFirst hnamed).mpr h, (source?_eq_some_iff_isFirst hnamed).mpr h']

/-! ### What comes of it -/

/-- What is found is what is in the file that is taken, good or bad. -/
theorem find_of_source? (h : source? files environment candidates = some path) :
    find files environment candidates = (load files path).map (path, ·) := by
  rw [find, h]

/-- What is loaded depends on nothing but the bytes of the file. -/
theorem load_congr {files' : Files} (h : files'.bytes path = files.bytes path) :
    load files' path = load files path := by
  simp only [load, Files.text, h]

/-- What is found depends on the first candidate that leads anywhere, on the file there and on the
one that the environment names. -/
theorem IsFirst.find_eq {files' : Files} {candidates' : List String}
    (h : IsFirst files candidates path) (h' : IsFirst files' candidates' path)
    (hbytes : ∀ other ∈ path :: environment.toList, files'.bytes other = files.bytes other) :
    find files' environment candidates' = find files environment candidates := by
  obtain ⟨taken, hmem, hsource⟩ : ∃ taken ∈ path :: environment.toList,
      Config.source? files environment candidates = some taken := h.source?
  rw [find_of_source? hsource, find_of_source? ((h.source?_eq h').trans hsource),
    load_congr (hbytes taken hmem)]

/-- Without a file on the command line, the configuration is in the file that is taken. -/
theorem choose_of_source? (h : source? files environment defaultCandidates = some path) :
    choose files environment none = load files path := by
  simp only [choose, h]

/-- Without a file on the command line and without a file to take, the default serves. -/
theorem choose_of_source?_none (h : source? files environment defaultCandidates = none) :
    choose files environment none = .ok default := by
  simp only [choose, h]

/-- Nothing that is wrong with a file is that there is none. -/
theorem load_ne_noFile (files : Files) (path : String) (inspected : List String) :
    load files path ≠ .error (.noFile inspected) := by
  rw [load]
  cases files.text path with
  | error fault =>
    intro h
    cases h
  | ok text =>
    simp only [parse]
    cases ofText? text with
    | none =>
      intro h
      cases h
    | some c =>
      intro h
      simp only [check] at h
      cases hflaw : c.flaw? with
      | none =>
        rw [hflaw] at h
        cases h
      | some flaw =>
        rw [hflaw] at h
        cases h

/-- Without a file on the command line, it is not reported that there is none. -/
theorem choose_ne_noFile (files : Files) (environment : Option String) (inspected : List String) :
    choose files environment none ≠ .error (.noFile inspected) := by
  cases hsource : source? files environment defaultCandidates with
  | none =>
    rw [choose_of_source?_none hsource]
    exact nofun
  | some path =>
    rw [choose_of_source? hsource]
    exact load_ne_noFile files path inspected

/-- The default is certain, whatever the files hold, exactly when no file is taken: if one were, it
might be missing when it is opened. -/
theorem choose_eq_default_iff :
    (∀ bytes, choose ⟨files.leads, bytes⟩ environment none = .ok default) ↔
      source? files environment defaultCandidates = none := by
  -- Which file is taken does not depend on what the files hold.
  have hleads : ∀ bytes, source? ⟨files.leads, bytes⟩ environment defaultCandidates =
      source? files environment defaultCandidates := fun _ => rfl
  constructor
  · intro h
    cases hsource : source? files environment defaultCandidates with
    | none => rfl
    | some path =>
      have hdefault := h fun _ => .error .missing
      rw [choose_of_source? ((hleads _).trans hsource)] at hdefault
      cases hdefault
  · intro hsource bytes
    exact choose_of_source?_none ((hleads bytes).trans hsource)

/-- Asking whether there is any file before one is looked for comes to the same. -/
theorem choose_eq_ite_anyFile (files : Files) (environment : Option String) :
    choose files environment none =
      if anyFile files environment defaultCandidates then
        (find files environment defaultCandidates).map (·.2)
      else .ok default := by
  rw [anyFile_eq_isSome_source?]
  cases hsource : source? files environment defaultCandidates with
  | none => exact choose_of_source?_none hsource
  | some path =>
    rw [choose_of_source? hsource, find_of_source? hsource]
    cases load files path <;> rfl

/-! ### Configurations that pass every check -/

theorem parse_eq_ok_iff {source : Option String} {text : String} {c : Config} :
    parse source text = .ok c ↔ ofText? text = some c ∧ c.flaw? = none := by
  rw [parse]
  cases ofText? text with
  | none => simp only [reduceCtorEq, false_and]
  | some other =>
    cases hflaw : other.flaw? with
    | none =>
      simp only [check, hflaw, Except.ok.injEq, Option.some.injEq]
      constructor
      · rintro rfl
        exact ⟨rfl, hflaw⟩
      · exact And.left
    | some flaw =>
      simp only [check, hflaw, Option.some.injEq, reduceCtorEq, false_iff, not_and]
      rintro rfl hnone
      rw [hnone] at hflaw
      cases hflaw

/-- A file holds a configuration if its text describes one without a flaw. -/
theorem load_eq_ok_iff {c : Config} : load files path = .ok c ↔
    ∃ text, files.text path = .ok text ∧ ofText? text = some c ∧ c.flaw? = none := by
  rw [load]
  cases files.text path with
  | error fault => simp only [reduceCtorEq, false_and, exists_const]
  | ok text => simp only [parse_eq_ok_iff, Except.ok.injEq, exists_eq_left']

theorem flaw?_of_load {c : Config} (h : load files path = .ok c) : c.flaw? = none := by
  obtain ⟨text, -, -, hflaw⟩ := load_eq_ok_iff.mp h
  exact hflaw

theorem flaw?_of_find {c : Config} (h : find files environment candidates = .ok (path, c)) :
    c.flaw? = none := by
  cases hsource : source? files environment candidates with
  | none =>
    rw [find, hsource] at h
    cases h
  | some taken =>
    rw [find_of_source? hsource] at h
    cases hload : load files taken with
    | error failure =>
      rw [hload] at h
      cases h
    | ok d =>
      rw [hload] at h
      cases h
      exact flaw?_of_load hload

theorem flaw?_default : default.flaw? = none := by decide

theorem flaw?_of_choose {named : Option String} {c : Config}
    (h : choose files environment named = .ok c) : c.flaw? = none := by
  cases named with
  | some path =>
    cases hfind : find files environment [path] with
    | error failure =>
      rw [choose, hfind] at h
      cases h
    | ok found =>
      rw [choose, hfind] at h
      cases h
      exact flaw?_of_find hfind
  | none =>
    cases hsource : source? files environment defaultCandidates with
    | none =>
      rw [choose_of_source?_none hsource] at h
      cases h
      exact flaw?_default
    | some path =>
      rw [choose_of_source? hsource] at h
      exact flaw?_of_load h

/-- Without a file on the command line:

* asking whether there is any file before one is looked for among the default candidates comes to
  the same as looking for one and going without, and it is never reported that there is none;
* a file that the environment names is taken, with the blanks around its name; otherwise the first
  default candidate that leads anywhere is; otherwise the default configuration serves;
* so the default is certain, whatever the files hold, exactly when the variable is not set or blank
  and no default candidate leads anywhere.

Among any candidates, the first one that leads anywhere is taken unless the environment names a
file: what is found is what it holds, and if that is no configuration without a flaw, a failure is
found.
The candidates behind it make no difference, and neither do the files there.

Whatever is read, loaded, found or chosen passes every check, and so does the default. -/
theorem taken_from_first_or_default (files : Files) (environment : Option String) :
    choose files environment none =
      (if anyFile files environment defaultCandidates then
        (find files environment defaultCandidates).map (·.2)
      else .ok default) ∧
    (∀ inspected, choose files environment none ≠ .error (.noFile inspected)) ∧
    (∀ text ∈ environment, Text.allBlank text = false →
      choose files environment none = load files text) ∧
    ((∀ text ∈ environment, Text.allBlank text = true) →
      (∀ path, IsFirst files defaultCandidates path →
        choose files environment none = load files path) ∧
      ((∀ path ∈ defaultCandidates, files.leads path = false) →
        choose files environment none = .ok default)) ∧
    ((∀ bytes, choose ⟨files.leads, bytes⟩ environment none = .ok default) ↔
      (∀ text ∈ environment, Text.allBlank text = true) ∧
        ∀ path ∈ defaultCandidates, files.leads path = false) ∧
    (∀ before path after, files.leads path = true →
      (∀ other ∈ before, files.leads other = false) →
      ((∀ text ∈ environment, Text.allBlank text = true) →
        find files environment (before ++ path :: after) = (load files path).map (path, ·) ∧
        ((¬∃ text c, files.text path = .ok text ∧ ofText? text = some c ∧ c.flaw? = none) →
          ∃ failure, find files environment (before ++ path :: after) = .error failure)) ∧
      ∀ files' after', (∀ other ∈ path :: before, files'.leads other = files.leads other) →
        (∀ other ∈ path :: environment.toList, files'.bytes other = files.bytes other) →
        find files' environment (before ++ path :: after') =
          find files environment (before ++ path :: after)) ∧
    (∀ source text c, parse source text = .ok c → c.flaw? = none) ∧
    (∀ path c, load files path = .ok c → c.flaw? = none) ∧
    (∀ candidates path c, find files environment candidates = .ok (path, c) → c.flaw? = none) ∧
    (∀ named c, choose files environment named = .ok c → c.flaw? = none) ∧
    default.flaw? = none := by
  refine ⟨choose_eq_ite_anyFile files environment, choose_ne_noFile files environment, ?_, ?_, ?_,
    ?_, fun _ _ _ h => (parse_eq_ok_iff.mp h).2, fun _ _ => flaw?_of_load,
    fun _ _ _ => flaw?_of_find, fun _ _ => flaw?_of_choose, flaw?_default⟩
  · intro text hset hvisible
    exact choose_of_override (override?_eq_some_iff.mpr ⟨hset, hvisible⟩) none
  · intro hblank
    have hnamed := override?_eq_none_iff.mpr hblank
    constructor
    · intro path hfirst
      exact choose_of_source? ((source?_eq_some_iff_isFirst hnamed).mpr hfirst)
    · intro hnowhere
      exact choose_of_source?_none (source?_eq_none_iff.mpr ⟨hnamed, hnowhere⟩)
  · rw [choose_eq_default_iff, source?_eq_none_iff, override?_eq_none_iff]
  · intro before path after hleads hbefore
    have hfirst : IsFirst files (before ++ path :: after) path :=
      ⟨hleads, before, after, rfl, hbefore⟩
    constructor
    · intro hblank
      have hfind := find_of_source?
        ((source?_eq_some_iff_isFirst (override?_eq_none_iff.mpr hblank)).mpr hfirst)
      refine ⟨hfind, ?_⟩
      intro hbad
      cases hload : load files path with
      | ok c =>
        obtain ⟨text, hgood⟩ := load_eq_ok_iff.mp hload
        exact absurd ⟨text, c, hgood⟩ hbad
      | error failure =>
        rw [hfind, hload]
        exact ⟨failure, rfl⟩
    · intro files' after' hsame hbytes
      refine hfirst.find_eq ⟨?_, before, after', rfl, ?_⟩ hbytes
      · exact (hsame path List.mem_cons_self).trans hleads
      · intro other hmem
        exact (hsame other (List.mem_cons_of_mem _ hmem)).trans (hbefore other hmem)

/-- A first candidate that cannot be read is not passed over, and a blank variable does not help. -/
example :
    let files : Files := ⟨fun path => path ∈ defaultCandidates, fun _ => .error .isDirectory⟩
    choose files (some " \t") none =
      .error (.unreadable "configs/wfproxy.toml" .isDirectory) := by
  rfl

end ProxyLink.Config
