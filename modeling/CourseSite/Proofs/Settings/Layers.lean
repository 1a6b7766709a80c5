/-
  Where every setting comes from.

  * `Used`, `Says`: the settings file in effect, and what it says.
  * `Rejected`, `Unread`: why it cannot be used.
  * `Layered`: every setting is the override, or else what the file says, or else the default.
  * `Breaks`: the rules that layered settings are checked against.
  * `load_eq_ok_iff`: settings are loaded if and only if they are layered and break no rule;
    `of_load_eq_error`: why none are loaded, whatever the file says in overridden fields.
-/
import CourseSite.Languages.Common
import CourseSite.Proofs.Settings.References

namespace CourseSite.Settings

open Attempt (map_eq_ok_iff map_eq_error_iff bind_eq_ok_iff bind_eq_error_iff exists_eq_ok)

variable {around : Surroundings} {files : FileSystem} {environment : Environment}
  {processors : ℕ} {base : Path} {file used : Option Path} {contents : Contents}
  {overrides : Overrides} {settings settings' : Settings} {error : Error}

/-! ## The file -/

/-- The path of the settings file of a directory. -/
def filePath (names : List String) : Path := (Path.ofNames names).join ⟨fileName⟩

/-- The settings file in effect: the one asked for, which has to be there, or else that of the
    nearest directory going up from the current one. -/
inductive Used (files : FileSystem) : Option Path → Option Path → Prop
  | asked {path : Path} : files.exists? path = true → Used files (some path) (some path)
  | nearest {names : List String} : names <+: files.current →
      files.exists? (filePath names) = true →
      (∀ other, other <+: files.current → files.exists? (filePath other) = true → other <+: names) →
      Used files none (some (filePath names))
  | absent : (∀ names, names <+: files.current → files.exists? (filePath names) = false) →
      Used files none none

/-- A settings file that says nothing. -/
def Contents.nothing : Contents := ⟨none, none, none, none, none, none, none, none, none⟩

/-- What the settings file in effect says; no file says nothing. -/
inductive Says (around : Surroundings) : Option Path → Contents → Prop
  | file {path : Path} {text : String} {contents : Contents} :
      around.files.readText path = .ok text →
      Contents.parse around.languages.toml text = .ok contents → Says around (some path) contents
  | absent : Says around none .nothing

/-- The directory of the settings file in effect, or else the current one. -/
def baseOf (files : FileSystem) : Option Path → Path
  | some path => path.parent?.getD ⟨"."⟩
  | none => Path.ofNames files.current

/-- The file asked for is not there, or the one in effect cannot be read. -/
inductive Unread (around : Surroundings) (file : Option Path) : Error → Prop
  | missing {path : Path} : file = some path → around.files.exists? path = false →
      Unread around file (.notFound path)
  | io {path : Path} {problem : FileError} : Used around.files file (some path) →
      around.files.readText path = .error problem → Unread around file (.io problem)
  | malformed {path : Path} {text : String} {problem : Problem} :
      Used around.files file (some path) → around.files.readText path = .ok text →
      Contents.parse around.languages.toml text = .error problem →
      Unread around file (.malformed problem)

/-- A text of the file refers to a variable that is not set, or there is no such renderer. -/
inductive Rejected (environment : Environment) (contents : Contents) : Error → Prop
  | source {text name : String} : contents.sourceDirectory = some text →
      expand environment text = .error name →
      Rejected environment contents (.unset "docs.source_dir" name)
  | output {text name : String} : contents.outputDirectory = some text →
      expand environment text = .error name →
      Rejected environment contents (.unset "build.output_dir" name)
  | aggregate {text name : String} : contents.aggregateFile = some text →
      expand environment text = .error name →
      Rejected environment contents (.unset "aggregate.file_name" name)
  | renderer {name : String} {violation : Violation} : contents.renderer = some name →
      renderer? name = .error violation → Rejected environment contents (.invalid violation)

/-- The texts of the file can be replaced, and there is a renderer as it says. -/
def Accepted (environment : Environment) (contents : Contents) : Prop :=
  ∀ error, ¬ Rejected environment contents error

/-! ## Layers -/

/-- A setting is the override, or else what the file says means, or else the default. -/
inductive Layer {α β : Type} (override : Option α) (said : Option β) (Means : β → α → Prop)
    (fallback : α) : α → Prop
  | override {a : α} : override = some a → Layer override said Means fallback a
  | said {b : β} {a : α} : override = none → said = some b → Means b a →
      Layer override said Means fallback a
  | fallback : override = none → said = none → Layer override said Means fallback fallback

/-- The path seen from a directory, with its references replaced. -/
def Joined (environment : Environment) (base : Path) (text : String) (path : Path) : Prop :=
  ∃ value, expand environment text = .ok value ∧ path = base.join ⟨value⟩

/-- Every setting comes from the first layer that has it. -/
structure Layered (around : Surroundings) (base : Path) (used : Option Path) (contents : Contents)
    (overrides : Overrides) (settings : Settings) : Prop where
  sourceDirectory : Layer overrides.sourceDirectory contents.sourceDirectory
    (Joined around.environment base) (base.join ⟨"content"⟩) settings.sourceDirectory
  outputDirectory : Layer overrides.outputDirectory contents.outputDirectory
    (Joined around.environment base) (base.join ⟨"site"⟩) settings.outputDirectory
  workers : Layer overrides.workers contents.workers Eq around.processors settings.workers
  cacheEnabled : Layer overrides.cacheEnabled contents.cacheEnabled Eq true settings.cacheEnabled
  manifest : Layer none contents.manifest Eq "manifest.yaml" settings.format.manifest
  extension : Layer none contents.extension Eq "md" settings.format.extension
  renderer : Layer none contents.renderer (fun name kind => renderer? name = .ok kind) .html
    settings.renderer
  separator : Layer none contents.separator Eq "\n\n" settings.separator
  aggregateFile : Layer none contents.aggregateFile
    (fun text value => expand around.environment text = .ok value) "all.html" settings.aggregateFile
  file : settings.file = used

/-- What the file says, but for the fields that are overridden. -/
def Contents.without (contents : Contents) (overrides : Overrides) : Contents :=
  { contents with
    sourceDirectory := if overrides.sourceDirectory = none then contents.sourceDirectory else none
    outputDirectory := if overrides.outputDirectory = none then contents.outputDirectory else none
    workers := if overrides.workers = none then contents.workers else none
    cacheEnabled := if overrides.cacheEnabled = none then contents.cacheEnabled else none }

/-! ## Rules -/

/-- The settings break a rule. -/
inductive Breaks (settings : Settings) : Violation → Prop
  | manifest : settings.format.manifest = "" → Breaks settings (.empty "content.manifest")
  | extension : settings.format.extension = "" → Breaks settings (.empty "content.extension")
  | extensionDot : settings.format.extension.toList.head? = some '.' →
      Breaks settings .extensionDot
  | aggregateFile : settings.aggregateFile = "" → Breaks settings (.empty "aggregate.file_name")
  | workers : settings.workers = 0 → Breaks settings .noWorkers

theorem breaks_of_violation? {violation : Violation} (h : settings.violation? = some violation) :
    Breaks settings violation := by
  rw [violation?] at h
  split at h
  · cases h; exact .manifest ‹_›
  split at h
  · cases h; exact .extension ‹_›
  split at h
  · cases h; exact .extensionDot ‹_›
  split at h
  · cases h; exact .aggregateFile ‹_›
  split at h
  · cases h; exact .workers ‹_›
  · cases h

theorem violation?_eq_none_iff :
    settings.violation? = none ↔ ∀ violation, ¬ Breaks settings violation := by
  constructor
  · intro h violation hbreaks
    rw [violation?] at h
    split_ifs at h
    cases hbreaks <;> contradiction
  · intro h
    exact Option.eq_none_iff_forall_ne_some.2 fun violation hsome =>
      h violation (breaks_of_violation? hsome)

/-! ## What a file means -/

section
variable {α β : Type} {override : Option α} {said : Option β} {Means : β → α → Prop}
  {fallback a a' b : α}

@[simp]
theorem layer_override : Layer (some b) said Means fallback a ↔ a = b := by
  constructor
  · rintro (⟨⟨⟩⟩ | ⟨⟨⟩, -, -⟩ | ⟨⟨⟩, -⟩)
    rfl
  · rintro rfl
    exact .override rfl

@[simp]
theorem layer_said {b : β} : Layer none (some b) Means fallback a ↔ Means b a := by
  constructor
  · rintro (⟨⟨⟩⟩ | ⟨-, ⟨⟩, h⟩ | ⟨-, ⟨⟩⟩)
    exact h
  · exact fun h => .said rfl rfl h

@[simp]
theorem layer_fallback : Layer none none Means fallback a ↔ a = fallback := by
  constructor
  · rintro (⟨⟨⟩⟩ | ⟨-, ⟨⟩, -⟩ | _)
    rfl
  · rintro rfl
    exact .fallback rfl rfl

theorem Layer.unique (hmeans : ∀ b a a', Means b a → Means b a' → a = a')
    (h : Layer override said Means fallback a) (h' : Layer override said Means fallback a') :
    a = a' := by
  rcases override with _ | b
  · rcases said with _ | b
    · rw [layer_fallback] at h h'
      rw [h, h']
    · exact hmeans b a a' (layer_said.1 h) (layer_said.1 h')
  · rw [layer_override] at h h'
    rw [h, h']

/-- What is overridden does not depend on the file. -/
theorem layer_without [Decidable (override = none)] :
    Layer override (if override = none then said else none) Means fallback a ↔
      Layer override said Means fallback a := by
  cases override with
  | none => rw [if_pos rfl]
  | some b => rw [layer_override, layer_override]

/-- An override goes over whatever there is below it. -/
theorem Layer.over (h : Layer none said Means fallback a) (override : Option α) :
    Layer override said Means fallback (override.getD a) := by
  cases override with
  | none => exact h
  | some b => exact .override rfl

theorem layer_eq_iff {said : Option α} :
    Layer none said Eq fallback a ↔ a = said.getD fallback := by
  cases said with
  | none => rw [layer_fallback, Option.getD_none]
  | some b => rw [layer_said, Option.getD_some, eq_comm]

end

/-- A path of the file is expanded, and seen from the directory of the file. -/
theorem layer_joined_iff {field : String} {said : Option String} {fallback path : Path} :
    Layer none said (Joined environment base) fallback path ↔
      ∃ value, expandField? environment field said = .ok value ∧
        path = (value.map fun text => base.join ⟨text⟩).getD fallback := by
  cases said with
  | none => simp [expandField?]
  | some text =>
    simp only [layer_said, expandField?, map_eq_ok_iff, expandField_eq_ok_iff]
    constructor
    · rintro ⟨value, hvalue, rfl⟩
      exact ⟨some value, ⟨value, hvalue, rfl⟩, rfl⟩
    · rintro ⟨_, ⟨value, hvalue, rfl⟩, rfl⟩
      exact ⟨value, hvalue, rfl⟩

/-- The default name refers to no variable. -/
theorem expand_aggregateFile (environment : Environment) :
    expand environment "all.html" = .ok "all.html" :=
  if_neg (by decide)

theorem layer_aggregateFile_iff {field : String} {said : Option String} {value : String} :
    Layer none said (fun text value => expand environment text = .ok value) "all.html" value ↔
      expandField environment field (said.getD "all.html") = .ok value := by
  rw [expandField_eq_ok_iff]
  cases said with
  | none => simp [expand_aggregateFile, eq_comm]
  | some text => simp

/-- The renderer that a file says, if there is one of that name. -/
def chooseRenderer : Option String → Except Error RendererKind
  | none => .ok .html
  | some name =>
    match renderer? name with
    | .ok renderer => .ok renderer
    | .error violation => .error (.invalid violation)

theorem layer_renderer_iff {said : Option String} {kind : RendererKind} :
    Layer none said (fun name kind => renderer? name = .ok kind) .html kind ↔
      chooseRenderer said = .ok kind := by
  cases said with
  | none => simp [chooseRenderer, eq_comm]
  | some name =>
    rw [layer_said, chooseRenderer]
    cases renderer? name <;> simp

/-- The settings that a file means, step by step. -/
theorem resolve_eq : contents.resolve environment base processors =
    (expandField? environment "docs.source_dir" contents.sourceDirectory).bind fun source =>
    (expandField? environment "build.output_dir" contents.outputDirectory).bind fun output =>
    (expandField environment "aggregate.file_name"
      (contents.aggregateFile.getD "all.html")).bind fun file =>
    (chooseRenderer contents.renderer).bind fun renderer => .ok
      { sourceDirectory := (source.map fun text => base.join ⟨text⟩).getD (base.join ⟨"content"⟩)
        cacheEnabled := contents.cacheEnabled.getD true
        format := ⟨contents.manifest.getD "manifest.yaml", contents.extension.getD "md"⟩
        outputDirectory := (output.map fun text => base.join ⟨text⟩).getD (base.join ⟨"site"⟩)
        workers := contents.workers.getD processors
        renderer := renderer
        aggregateFile := file
        separator := contents.separator.getD "\n\n"
        file := none } := by
  rw [Contents.resolve]
  cases contents.renderer with
  | none => rfl
  | some name =>
    dsimp only [chooseRenderer]
    cases renderer? name <;> rfl

/-- **What a file means** is layered, with no overrides. -/
theorem resolve_eq_ok_iff :
    contents.resolve around.environment base around.processors = .ok settings ↔
      Layered around base none contents {} settings := by
  simp only [resolve_eq, bind_eq_ok_iff]
  constructor
  · rintro ⟨source, hsource, output, houtput, file, hfile, renderer, hrenderer, ⟨⟩⟩
    exact ⟨layer_joined_iff.2 ⟨_, hsource, rfl⟩, layer_joined_iff.2 ⟨_, houtput, rfl⟩,
      layer_eq_iff.2 rfl, layer_eq_iff.2 rfl, layer_eq_iff.2 rfl, layer_eq_iff.2 rfl,
      layer_renderer_iff.2 hrenderer, layer_eq_iff.2 rfl, layer_aggregateFile_iff.2 hfile, rfl⟩
  · intro h
    obtain ⟨source, hsource, heq⟩ := layer_joined_iff.1 h.sourceDirectory
    obtain ⟨output, houtput, heq'⟩ := layer_joined_iff.1 h.outputDirectory
    refine ⟨source, hsource, output, houtput, _, layer_aggregateFile_iff.1 h.aggregateFile, _,
      layer_renderer_iff.1 h.renderer, ?_⟩
    rw [← heq, ← heq', ← layer_eq_iff.1 h.workers, ← layer_eq_iff.1 h.cacheEnabled,
      ← layer_eq_iff.1 h.manifest, ← layer_eq_iff.1 h.extension, ← layer_eq_iff.1 h.separator,
      ← h.file]

/-- What a file says is rejected for one of its texts, or for its renderer. -/
theorem rejected_of_resolve (h : contents.resolve environment base processors = .error error) :
    Rejected environment contents error := by
  have hfield? {field : String} {said : Option String}
      (h : expandField? environment field said = .error error) :
      ∃ text name, said = some text ∧ expand environment text = .error name ∧
        error = .unset field name := by
    cases said with
    | none => cases h
    | some text =>
      rw [expandField?, map_eq_error_iff] at h
      obtain ⟨name, hname, rfl⟩ := expandField_eq_error_iff.1 h
      exact ⟨text, name, rfl, hname, rfl⟩
  simp only [resolve_eq, bind_eq_error_iff] at h
  rcases h with h | ⟨source, -, h | ⟨output, -, h | ⟨value, -, h | ⟨renderer, -, h⟩⟩⟩⟩
  · obtain ⟨text, name, hsaid, hname, rfl⟩ := hfield? h
    exact .source hsaid hname
  · obtain ⟨text, name, hsaid, hname, rfl⟩ := hfield? h
    exact .output hsaid hname
  · obtain ⟨name, hname, rfl⟩ := expandField_eq_error_iff.1 h
    cases hsaid : contents.aggregateFile with
    | none => rw [hsaid, Option.getD_none, expand_aggregateFile] at hname; cases hname
    | some text => rw [hsaid] at hname; exact .aggregate hsaid hname
  · cases hsaid : contents.renderer with
    | none => rw [hsaid] at h; cases h
    | some name =>
      rw [hsaid, chooseRenderer] at h
      cases hname : renderer? name with
      | ok kind => simp only [hname] at h; cases h
      | error violation => simp only [hname] at h; cases h; exact .renderer hsaid hname
  · cases h

theorem Layered.accepted (h : Layered around base used contents {} settings) :
    Accepted around.environment contents := by
  have hjoined {said : Option String} {text name : String} {fallback path : Path}
      (hlayer : Layer none said (Joined around.environment base) fallback path)
      (hsaid : said = some text) : expand around.environment text ≠ .error name := by
    rintro hname
    rw [hsaid, layer_said] at hlayer
    obtain ⟨value, hvalue, -⟩ := hlayer
    rw [hname] at hvalue
    cases hvalue
  rintro error (⟨hsaid, hname⟩ | ⟨hsaid, hname⟩ | ⟨hsaid, hname⟩ | ⟨hsaid, hname⟩)
  · exact hjoined h.sourceDirectory hsaid hname
  · exact hjoined h.outputDirectory hsaid hname
  · have hlayer := h.aggregateFile
    rw [hsaid, layer_said, hname] at hlayer
    cases hlayer
  · have hlayer := h.renderer
    rw [hsaid, layer_said, hname] at hlayer
    cases hlayer

/-- What a file says has a meaning unless it is rejected. -/
theorem accepted_iff (base : Path) : Accepted around.environment contents ↔
    ∃ settings, Layered around base none contents {} settings := by
  constructor
  · intro h
    cases hresolve : contents.resolve around.environment base around.processors with
    | ok settings => exact ⟨settings, resolve_eq_ok_iff.1 hresolve⟩
    | error error => exact absurd (rejected_of_resolve hresolve) (h error)
  · rintro ⟨settings, h⟩
    exact h.accepted

/-! ## Overrides -/

theorem eq_unique {α : Type} (b a a' : α) (h : b = a) (h' : b = a') : a = a' := h.symm.trans h'

theorem ok_unique {α ε : Type} {f : String → Except ε α} (b : String) (a a' : α) (h : f b = .ok a)
    (h' : f b = .ok a') : a = a' :=
  Except.ok.inj (h.symm.trans h')

theorem joined_unique (text : String) (path path' : Path) (h : Joined environment base text path)
    (h' : Joined environment base text path') : path = path' := by
  obtain ⟨value, hvalue, rfl⟩ := h
  obtain ⟨value', hvalue', rfl⟩ := h'
  rw [ok_unique text value value' hvalue hvalue']

/-- Layered settings are determined by the layers. -/
theorem Layered.unique (h : Layered around base used contents overrides settings)
    (h' : Layered around base used contents overrides settings') : settings = settings' := by
  obtain ⟨source, cache, ⟨manifest, extension⟩, output, workers, renderer, aggregate, separator,
    file⟩ := settings
  obtain ⟨source', cache', ⟨manifest', extension'⟩, output', workers', renderer', aggregate',
    separator', file'⟩ := settings'
  simp only [Settings.mk.injEq, ContentFormat.mk.injEq]
  exact ⟨h.sourceDirectory.unique joined_unique h'.sourceDirectory,
    h.cacheEnabled.unique eq_unique h'.cacheEnabled,
    ⟨h.manifest.unique eq_unique h'.manifest, h.extension.unique eq_unique h'.extension⟩,
    h.outputDirectory.unique joined_unique h'.outputDirectory,
    h.workers.unique eq_unique h'.workers, h.renderer.unique ok_unique h'.renderer,
    h.aggregateFile.unique ok_unique h'.aggregateFile, h.separator.unique eq_unique h'.separator,
    h.file.trans h'.file.symm⟩

/-- Overrides go over what a file means. -/
theorem Layered.override (h : Layered around base used contents {} settings)
    (overrides : Overrides) :
    Layered around base used contents overrides (settings.override overrides) where
  sourceDirectory := h.sourceDirectory.over _
  outputDirectory := h.outputDirectory.over _
  workers := h.workers.over _
  cacheEnabled := h.cacheEnabled.over _
  manifest := h.manifest
  extension := h.extension
  renderer := h.renderer
  separator := h.separator
  aggregateFile := h.aggregateFile
  file := h.file

theorem Layered.ofFile (h : Layered around base none contents {} settings) (used : Option Path) :
    Layered around base used contents {} { settings with file := used } where
  __ := h
  file := rfl

/-- Layered settings are those of the file, if it is not rejected, with the overrides over them. -/
theorem accepted_and_layered_iff : Accepted around.environment contents ∧
      Layered around base used contents overrides settings ↔
    ∃ inner, Layered around base used contents {} inner ∧ settings = inner.override overrides := by
  constructor
  · rintro ⟨haccepted, h⟩
    obtain ⟨inner, hinner⟩ := (accepted_iff base).1 haccepted
    have hused := hinner.ofFile used
    exact ⟨_, hused, h.unique (hused.override overrides)⟩
  · rintro ⟨inner, hinner, rfl⟩
    exact ⟨hinner.accepted, hinner.override overrides⟩

/-- **What the file says in overridden fields does not matter.** -/
theorem layered_without : Layered around base used (contents.without overrides) overrides settings ↔
    Layered around base used contents overrides settings := by
  constructor
  · intro h
    exact ⟨layer_without.1 h.sourceDirectory, layer_without.1 h.outputDirectory,
      layer_without.1 h.workers, layer_without.1 h.cacheEnabled, h.manifest, h.extension,
      h.renderer, h.separator, h.aggregateFile, h.file⟩
  · intro h
    exact ⟨layer_without.2 h.sourceDirectory, layer_without.2 h.outputDirectory,
      layer_without.2 h.workers, layer_without.2 h.cacheEnabled, h.manifest, h.extension,
      h.renderer, h.separator, h.aggregateFile, h.file⟩

/-! ## Loading -/

theorem here_eq (names : List String) : discoverFrom.here files names =
    if files.exists? (filePath names.reverse) then some (filePath names.reverse) else none := rfl

theorem discoverFrom_concat (files : FileSystem) (names : List String) (name : String) :
    discoverFrom files (names ++ [name]).reverse =
      if files.exists? (filePath (names ++ [name])) then some (filePath (names ++ [name]))
      else discoverFrom files names.reverse := by
  rw [List.reverse_append, List.reverse_singleton, List.singleton_append, discoverFrom, here_eq,
    List.reverse_cons, List.reverse_reverse]
  split <;> rfl

theorem discoverFrom_nil (files : FileSystem) : discoverFrom files [].reverse =
    if files.exists? (filePath []) then some (filePath []) else none := rfl

theorem discoverFrom_eq_none_iff {names : List String} : discoverFrom files names.reverse = none ↔
    ∀ other, other <+: names → files.exists? (filePath other) = false := by
  induction names using List.reverseRecOn with
  | nil => rw [discoverFrom_nil]; simp
  | append_singleton names name ih =>
    rw [discoverFrom_concat]
    simp only [List.prefix_concat_iff, forall_eq_or_imp, ← ih]
    split <;> simp_all

/-- The nearest settings file going up. -/
theorem discoverFrom_eq_some_iff {names : List String} {path : Path} :
    discoverFrom files names.reverse = some path ↔ ∃ above, above <+: names ∧
      files.exists? (filePath above) = true ∧
      (∀ other, other <+: names → files.exists? (filePath other) = true → other <+: above) ∧
      path = filePath above := by
  induction names using List.reverseRecOn with
  | nil =>
    rw [discoverFrom_nil, Option.ite_none_right_eq_some, Option.some.injEq]
    simp only [List.prefix_nil, exists_eq_left, forall_eq, List.prefix_rfl, implies_true, true_and]
    exact and_congr_right fun _ => eq_comm
  | append_singleton names name ih =>
    rw [discoverFrom_concat]
    simp only [List.prefix_concat_iff, forall_eq_or_imp]
    split
    · rename_i hexists
      constructor
      · rintro ⟨⟩
        refine ⟨_, .inl rfl, hexists, ⟨fun _ => List.prefix_rfl, fun other hother _ => ?_⟩, rfl⟩
        exact hother.trans (List.prefix_append _ _)
      · rintro ⟨above, habove, -, ⟨hnearest, -⟩, rfl⟩
        have hsame : names ++ [name] = above :=
          (hnearest hexists).eq_of_length_le (habove.elim (fun h => h ▸ le_rfl) fun h =>
            h.length_le.trans (by simp))
        rw [hsame]
    · rename_i hnot
      rw [ih]
      constructor
      · rintro ⟨above, habove, hexists, hnearest, rfl⟩
        exact ⟨above, .inr habove, hexists, ⟨fun h => absurd h hnot, hnearest⟩, rfl⟩
      · rintro ⟨above, rfl | habove, hexists, ⟨-, hnearest⟩, rfl⟩
        · exact absurd hexists hnot
        · exact ⟨above, habove, hexists, hnearest, rfl⟩

theorem used_none_iff :
    Used files none used ↔ discoverFrom files files.current.reverse = used := by
  constructor
  · rintro (_ | ⟨habove, hexists, hnearest⟩ | habsent)
    · exact discoverFrom_eq_some_iff.2 ⟨_, habove, hexists, hnearest, rfl⟩
    · exact discoverFrom_eq_none_iff.2 habsent
  · rintro rfl
    cases hfound : discoverFrom files files.current.reverse with
    | none => exact .absent (discoverFrom_eq_none_iff.1 hfound)
    | some path =>
      obtain ⟨above, habove, hexists, hnearest, rfl⟩ := discoverFrom_eq_some_iff.1 hfound
      exact .nearest habove hexists hnearest

/-- The settings of a file, or those without one. -/
def ofUsed (around : Surroundings) : Option Path → Except Error Settings
  | some path => ofFile around path
  | none => .ok (Settings.default (Path.ofNames around.files.current) around.processors)

/-- Settings that break no rule. -/
def checked (settings : Settings) : Except Error Settings :=
  match settings.violation? with
  | some violation => .error (.invalid violation)
  | none => .ok settings

theorem Says.unique {contents' : Contents} (h : Says around used contents)
    (h' : Says around used contents') : contents = contents' := by
  cases h with
  | absent => cases h'; rfl
  | file htext hcontents =>
    obtain ⟨htext', hcontents'⟩ := h'
    cases htext.symm.trans htext'
    cases hcontents.symm.trans hcontents'
    rfl

/-- There is a file in effect, or none, unless the one asked for is missing. -/
theorem exists_used (files : FileSystem) (file : Option Path) :
    (∃ used, Used files file used) ∨ ∃ path, file = some path ∧ files.exists? path = false := by
  cases file with
  | none => exact .inl ⟨_, used_none_iff.2 rfl⟩
  | some path =>
    cases hexists : files.exists? path with
    | false => exact .inr ⟨path, rfl, hexists⟩
    | true => exact .inl ⟨_, .asked hexists⟩

theorem load_missing {path : Path} (h : around.files.exists? path = false)
    (overrides : Option Overrides) :
    load around (some path) overrides = .error (.notFound path) := by
  simp only [load, h]
  rfl

/-- The file in effect decides what is loaded. -/
theorem load_of_used (h : Used around.files file used) (overrides : Option Overrides) :
    load around file overrides =
      (ofUsed around used).bind fun settings =>
        checked (settings.override (overrides.getD {})) := by
  cases file with
  | none =>
    obtain rfl := used_none_iff.1 h
    cases hfound : discoverFrom around.files around.files.current.reverse <;>
      simp only [load, hfound] <;> rfl
  | some path =>
    obtain ⟨hexists⟩ := h
    simp only [load, hexists]
    rfl

/-- A file that says nothing means the defaults. -/
theorem resolve_nothing : Contents.nothing.resolve environment base processors =
    .ok (Settings.default base processors) := by
  rw [resolve_eq]
  simp only [Contents.nothing, Option.getD_none, expandField, expand_aggregateFile]
  rfl

theorem ofUsed_eq_ok_iff : ofUsed around used = .ok settings ↔
    ∃ contents, Says around used contents ∧
      Layered around (baseOf around.files used) used contents {} settings := by
  cases used with
  | none =>
    constructor
    · rintro ⟨⟩
      exact ⟨_, .absent, resolve_eq_ok_iff.1 resolve_nothing⟩
    · rintro ⟨_, ⟨⟩, h⟩
      rw [← resolve_eq_ok_iff, resolve_nothing] at h
      exact h
  | some path =>
    constructor
    · intro h
      rw [ofUsed, ofFile] at h
      split at h
      · cases h
      · rename_i text htext
        split at h
        · cases h
        · rename_i contents hcontents
          obtain ⟨inner, hinner, rfl⟩ := map_eq_ok_iff.1 h
          exact ⟨contents, .file htext hcontents, (resolve_eq_ok_iff.1 hinner).ofFile _⟩
    · rintro ⟨contents, ⟨htext, hcontents⟩, h⟩
      have hinner : Layered around (baseOf around.files (some path)) none contents {}
          { settings with file := none } := { h with file := rfl }
      rw [ofUsed, ofFile]
      simp only [htext, hcontents]
      rw [map_eq_ok_iff]
      refine ⟨_, resolve_eq_ok_iff.2 hinner, ?_⟩
      rw [← h.file]

theorem ofUsed_eq_error (hused : Used around.files file used)
    (h : ofUsed around used = .error error) : Unread around file error ∨
      ∃ contents, Says around used contents ∧
        Rejected around.environment contents error := by
  cases used with
  | none => cases h
  | some path =>
    rw [ofUsed, ofFile] at h
    split at h
    · rename_i problem hproblem
      cases h
      exact .inl (.io hused hproblem)
    · rename_i text htext
      split at h
      · rename_i problem hproblem
        cases h
        exact .inl (.malformed hused htext hproblem)
      · rename_i contents hcontents
        rw [map_eq_error_iff] at h
        exact .inr ⟨contents, .file htext hcontents, rejected_of_resolve h⟩

theorem checked_eq_ok_iff : checked settings = .ok settings' ↔
    (∀ violation, ¬ Breaks settings violation) ∧ settings' = settings := by
  rw [checked, ← violation?_eq_none_iff]
  cases settings.violation? <;> simp [eq_comm]

theorem checked_eq_error (h : checked settings = .error error) :
    ∃ violation, Breaks settings violation ∧ error = .invalid violation := by
  rw [checked] at h
  split at h
  · rename_i violation hviolation
    cases h
    exact ⟨violation, breaks_of_violation? hviolation, rfl⟩
  · cases h

/-- **What is loaded** is layered, from a file that is not rejected, and breaks no rule. -/
theorem load_eq_ok_iff {overrides : Option Overrides} :
    load around file overrides = .ok settings ↔
      ∃ used contents, Used around.files file used ∧ Says around used contents ∧
        Accepted around.environment contents ∧
        Layered around (baseOf around.files used) used contents (overrides.getD {}) settings ∧
        ∀ violation, ¬ Breaks settings violation := by
  constructor
  · intro h
    rcases exists_used around.files file with ⟨used, hused⟩ | ⟨path, rfl, hmissing⟩
    · rw [load_of_used hused, bind_eq_ok_iff] at h
      obtain ⟨inner, hinner, hchecked⟩ := h
      obtain ⟨hrules, rfl⟩ := checked_eq_ok_iff.1 hchecked
      obtain ⟨contents, hsays, hlayered⟩ := ofUsed_eq_ok_iff.1 hinner
      exact ⟨used, contents, hused, hsays, hlayered.accepted, hlayered.override _, hrules⟩
    · rw [load_missing hmissing] at h
      cases h
  · rintro ⟨used, contents, hused, hsays, haccepted, hlayered, hrules⟩
    obtain ⟨inner, hinner, rfl⟩ := accepted_and_layered_iff.1 ⟨haccepted, hlayered⟩
    rw [load_of_used hused, bind_eq_ok_iff]
    exact ⟨inner, ofUsed_eq_ok_iff.2 ⟨contents, hsays, hinner⟩, checked_eq_ok_iff.2 ⟨hrules, rfl⟩⟩

/-- **Why nothing is loaded**: there is no file to read, it is rejected, or the layered settings
    break a rule, whatever the file says in overridden fields. -/
theorem of_load_eq_error {overrides : Option Overrides}
    (h : load around file overrides = .error error) :
    Unread around file error ∨
      ∃ used contents, Used around.files file used ∧ Says around used contents ∧
        (Rejected around.environment contents error ∨ Accepted around.environment contents ∧
          ∃ settings violation, Layered around (baseOf around.files used) used
              (contents.without (overrides.getD {})) (overrides.getD {}) settings ∧
            Breaks settings violation ∧ error = .invalid violation) := by
  rcases exists_used around.files file with ⟨used, hused⟩ | ⟨path, rfl, hmissing⟩
  · rw [load_of_used hused, bind_eq_error_iff] at h
    rcases h with h | ⟨inner, hinner, hchecked⟩
    · rcases ofUsed_eq_error hused h with hunread | ⟨contents, hsays, hrejected⟩
      · exact .inl hunread
      · exact .inr ⟨used, contents, hused, hsays, .inl hrejected⟩
    · obtain ⟨contents, hsays, hlayered⟩ := ofUsed_eq_ok_iff.1 hinner
      obtain ⟨violation, hbreaks, rfl⟩ := checked_eq_error hchecked
      exact .inr ⟨used, contents, hused, hsays, .inr ⟨hlayered.accepted, _, violation,
        layered_without.2 (hlayered.override _), hbreaks, rfl⟩⟩
  · rw [load_missing hmissing] at h
    cases h
    exact .inl (.missing rfl hmissing)

/-- Layered settings whose file says the same agree in what is not overridden, but for the name
    that is expanded. -/
theorem Layered.same {around' : Surroundings} {base' : Path} {used' : Option Path}
    {overrides' : Overrides} (h : Layered around base used contents overrides settings)
    (h' : Layered around' base' used' contents overrides' settings') :
    settings.format = settings'.format ∧ settings.renderer = settings'.renderer ∧
      settings.separator = settings'.separator ∧
      (around.environment = around'.environment →
        settings.aggregateFile = settings'.aggregateFile) := by
  refine ⟨?_, h.renderer.unique ok_unique h'.renderer, h.separator.unique eq_unique h'.separator,
    fun henvironment => ?_⟩
  · have hmanifest := h.manifest.unique eq_unique h'.manifest
    have hextension := h.extension.unique eq_unique h'.extension
    cases hformat : settings.format
    cases hformat' : settings'.format
    simp_all
  · have haggregate := h'.aggregateFile
    rw [← henvironment] at haggregate
    exact h.aggregateFile.unique ok_unique haggregate

/-- **Settings come in layers.**  What is loaded is layered, from the file in effect.  The format,
    the renderer and the separator depend on what the file says alone, and so does the name for
    aggregated pages in one environment.  Nothing is loaded if there is no file to read, it is
    rejected, or the layered settings break a rule, whatever it says in overridden fields. -/
theorem load_layered :
    (∀ around file overrides settings, load around file overrides = .ok settings ↔
      ∃ used contents, Used around.files file used ∧ Says around used contents ∧
        Accepted around.environment contents ∧
        Layered around (baseOf around.files used) used contents (overrides.getD {}) settings ∧
        ∀ violation, ¬ Breaks settings violation) ∧
    (∀ around around' file file' overrides overrides' settings settings' contents,
      load around file overrides = .ok settings → load around' file' overrides' = .ok settings' →
      Says around settings.file contents → Says around' settings'.file contents →
      settings.format = settings'.format ∧ settings.renderer = settings'.renderer ∧
        settings.separator = settings'.separator ∧
        (around.environment = around'.environment →
          settings.aggregateFile = settings'.aggregateFile)) ∧
    ∀ around file overrides error, load around file overrides = .error error →
      Unread around file error ∨
        ∃ used contents, Used around.files file used ∧ Says around used contents ∧
          (Rejected around.environment contents error ∨ Accepted around.environment contents ∧
            ∃ settings violation, Layered around (baseOf around.files used) used
                (contents.without (overrides.getD {})) (overrides.getD {}) settings ∧
              Breaks settings violation ∧ error = .invalid violation) := by
  refine ⟨fun _ _ _ _ => load_eq_ok_iff, ?_, fun _ _ _ _ => of_load_eq_error⟩
  intro around around' file file' overrides overrides' settings settings' contents hload hload'
    hsays hsays'
  obtain ⟨used, said, -, hsaid, -, h, -⟩ := load_eq_ok_iff.1 hload
  obtain ⟨used', said', -, hsaid', -, h', -⟩ := load_eq_ok_iff.1 hload'
  rw [h.file] at hsays
  rw [h'.file] at hsays'
  cases hsays.unique hsaid
  cases hsays'.unique hsaid'
  exact h.same h'

/-- A course with a settings file that refers to a variable and allows no workers. -/
def course : FileSystem :=
  ⟨[(["course"], .directory), (["course", "unit"], .directory),
    (["course", "cw.toml"],
      .file "build.max_concurrency = 0\naggregate.file_name = \"$\x7bNAME\x7d.html\"".toUTF8)],
    ["course", "unit"]⟩

/-- The surroundings of the course, in which the variable has a value. -/
def courseWith (name : String) (processors : ℕ) : Surroundings :=
  ⟨course, [("NAME", name)], processors, .common⟩

/-- In a directory below that of the file, the number of workers has to be overridden. -/
theorem load_layered_course :
    (∃ settings settings' contents,
      load (courseWith "one" 2) none (some { workers := some 4 }) = .ok settings ∧
      load (courseWith "two" 8) none (some { workers := some 6 }) = .ok settings' ∧
      Says (courseWith "one" 2) settings.file contents ∧
      Says (courseWith "two" 8) settings'.file contents ∧
      settings.separator = settings'.separator) ∧
    ∃ used contents, load (courseWith "one" 2) none none = .error (.invalid .noWorkers) ∧
      Used course none used ∧ Says (courseWith "one" 2) used contents := by
  have hok : (load (courseWith "one" 2) none (some { workers := some 4 })).isOk = true := by
    decide +kernel
  have hok' : (load (courseWith "two" 8) none (some { workers := some 6 })).isOk = true := by
    decide +kernel
  obtain ⟨settings, hsettings⟩ := exists_eq_ok hok
  obtain ⟨settings', hsettings'⟩ := exists_eq_ok hok'
  obtain ⟨used, contents, hused, hsays, -, h, -⟩ := (load_layered.1 _ _ _ _).1 hsettings
  obtain ⟨used', contents', hused', -, -, h', -⟩ := (load_layered.1 _ _ _ _).1 hsettings'
  obtain rfl := (used_none_iff.1 hused).symm.trans (used_none_iff.1 hused')
  have hsays' : Says (courseWith "two" 8) used contents := by
    cases hsays with
    | file htext hcontents => exact .file htext hcontents
    | absent => exact .absent
  rw [← h.file] at hsays
  rw [← h'.file] at hsays'
  have hsame := load_layered.2.1 _ _ _ _ _ _ _ _ contents hsettings hsettings' hsays hsays'
  have herror : load (courseWith "one" 2) none none = .error (.invalid .noWorkers) := by
    rw [← map_eq_error_iff (f := Settings.workers)]
    decide +kernel
  refine ⟨⟨settings, settings', contents, hsettings, hsettings', hsays, hsays', hsame.2.2.1⟩, ?_⟩
  rcases load_layered.2.2 _ _ _ _ herror with hunread | ⟨used, contents, hused, hsays, -⟩
  · cases hunread
  · exact ⟨used, contents, herror, hused, hsays⟩

/-- The name for aggregated pages depends on the environment as well as on the file. -/
theorem aggregateFile_of_environment : ∃ settings settings',
    load (courseWith "one" 2) none (some { workers := some 4 }) = .ok settings ∧
    load (courseWith "two" 2) none (some { workers := some 4 }) = .ok settings' ∧
    settings.aggregateFile ≠ settings'.aggregateFile := by
  have hload (name : String) (h : name = "one" ∨ name = "two") :
      ((load (courseWith name 2) none (some { workers := some 4 })).map fun settings =>
        settings.aggregateFile) = .ok (name ++ ".html") := by
    rcases h with rfl | rfl <;> decide +kernel
  obtain ⟨settings, hsettings, hone⟩ := map_eq_ok_iff.1 (hload "one" (.inl rfl))
  obtain ⟨settings', hsettings', htwo⟩ := map_eq_ok_iff.1 (hload "two" (.inr rfl))
  refine ⟨settings, settings', hsettings, hsettings', ?_⟩
  rw [hone, htwo]
  decide

end CourseSite.Settings
