/-
  A page includes only what lies at or below its own directory.

  * `PageInfo.resolve?_eq_some_iff`: a path is resolved if it exists and leads, name by name, to
    the base directory of the page or below it; it is resolved to where it leads.
  * `Registry.expand_congr`: a document is expanded alike on two file systems, if its calls are
    replaced alike.
  * `reply_of_agreesBelow`: no extension of a build tells apart two file systems that differ only
    in files elsewhere.
  * `PageInfo.inclusion`: both together.
-/
import CourseSite.Directive.Builtin
import CourseSite.Proofs.Directive.Expansion
import CourseSite.Proofs.Files.Existence
import CourseSite.Proofs.Files.Paths

namespace CourseSite.Directive

variable {page : PageInfo} {fs other : FileSystem} {relative : String} {location : Location}

/-! ## Resolution -/

/-- A path is resolved to where it leads, if it exists and leads below the base directory. -/
theorem PageInfo.resolve?_eq_some_iff :
    page.resolve? fs relative = some location ↔
      fs.Exists page.baseDirectory ∧ fs.Exists (page.baseDirectory.join ⟨relative⟩) ∧
        fs.target page.baseDirectory <+: fs.target (page.baseDirectory.join ⟨relative⟩) ∧
        location = fs.target (page.baseDirectory.join ⟨relative⟩) := by
  constructor
  · intro h
    unfold resolve? at h
    split at h
    · rename_i joined _ base _ hjoined hbase
      obtain ⟨hexists, rfl, -⟩ := FileSystem.follow_eq_ok_iff.1 hjoined
      obtain ⟨hexistsBase, rfl, -⟩ := FileSystem.follow_eq_ok_iff.1 hbase
      split at h
      · rename_i hprefix
        exact ⟨hexistsBase, hexists, List.isPrefixOf_iff_prefix.1 hprefix, (Option.some.inj h).symm⟩
      · cases h
    · cases h
  · rintro ⟨hbase, hexists, hprefix, rfl⟩
    obtain ⟨_, hjoined⟩ := Option.ne_none_iff_exists'.1 hexists.found
    obtain ⟨_, hfound⟩ := Option.ne_none_iff_exists'.1 hbase.found
    rw [resolve?, FileSystem.follow_eq_ok_iff.2 ⟨hexists, rfl, hjoined⟩,
      FileSystem.follow_eq_ok_iff.2 ⟨hbase, rfl, hfound⟩]
    exact if_pos (List.isPrefixOf_iff_prefix.2 hprefix)

/-! ## Expansion on two file systems -/

namespace Registry
variable {registry : Registry}

theorem invoke_congr {call : Call}
    (h : ∀ extension arguments, registry.resolve? call.name = some extension →
      extension.reply other { page with line := call.line } arguments =
        extension.reply fs { page with line := call.line } arguments) :
    registry.invoke other page call = registry.invoke fs page call := by
  rw [invoke, invoke]
  cases hresolve : registry.resolve? call.name with
  | none => rfl
  | some extension => simp only [h extension _ hresolve]

theorem expandSegments_congr {segments : List Segment}
    (h : ∀ call ∈ Segment.calls segments,
      registry.invoke other page call = registry.invoke fs page call) :
    registry.expandSegments other page segments = registry.expandSegments fs page segments := by
  induction segments with
  | nil => rfl
  | cons segment segments ih =>
    cases segment with
    | literal text => rw [expandSegments, expandSegments, ih h]
    | call call =>
      have hcalls : Segment.calls (.call call :: segments) = call :: Segment.calls segments := rfl
      rw [hcalls, List.forall_mem_cons] at h
      rw [expandSegments, expandSegments, h.1, ih h.2]

/-- A document is expanded alike, if the calls of its extensions are answered alike. -/
theorem expand_congr
    (h : ∀ name extension line arguments, registry.resolve? name = some extension →
      extension.reply other { page with line := line } arguments =
        extension.reply fs { page with line := line } arguments) (source : String) :
    registry.expand other page source = registry.expand fs page source := by
  rw [expand, expand]
  cases Segment.parse source with
  | error e => rfl
  | ok segments =>
    exact expandSegments_congr fun call _ => invoke_congr fun extension => h _ extension _

end Registry

/-! ## Files elsewhere -/

theorem resolve?_of_agreesBelow
    (h : FileSystem.AgreesBelow (fs.target page.baseDirectory) fs other) (relative : String) :
    page.resolve? other relative = page.resolve? fs relative :=
  Option.ext fun location => by
    simp only [PageInfo.resolve?_eq_some_iff, h.exists_iff, h.target_eq]

/-- The file of a resolved path lies where it was resolved to. -/
theorem target_of_resolve? (hnames : ∀ name ∈ fs.current, Path.IsName name)
    (h : page.resolve? fs relative = some location) :
    fs.target (.ofNames location) = location ∧ fs.target page.baseDirectory <+: location := by
  obtain ⟨-, -, hprefix, rfl⟩ := PageInfo.resolve?_eq_some_iff.1 h
  exact ⟨fs.target_ofNames (FileSystem.isName_of_mem_target hnames _), hprefix⟩

theorem reply_includeFile_of_agreesBelow (page : PageInfo)
    (hnames : ∀ name ∈ fs.current, Path.IsName name)
    (h : FileSystem.AgreesBelow (fs.target page.baseDirectory) fs other)
    (arguments : BoundArguments) :
    Builtin.includeFile.reply other page arguments =
      Builtin.includeFile.reply fs page arguments := by
  refine congrArg Reply.ofExcept ?_
  refine congrArg (Builtin.need (arguments.string 0) >>= ·) (funext fun relative => ?_)
  rw [resolve?_of_agreesBelow h]
  cases hresolve : page.resolve? fs relative with
  | none => rfl
  | some location =>
    obtain ⟨htarget, hprefix⟩ := target_of_resolve? hnames hresolve
    rw [← htarget] at hprefix
    simp only [h.readText_eq hprefix]

/-- No extension of a build tells the file systems apart. -/
theorem reply_of_agreesBelow (page : PageInfo) (hnames : ∀ name ∈ fs.current, Path.IsName name)
    (h : FileSystem.AgreesBelow (fs.target page.baseDirectory) fs other) {extension : Extension}
    (hextension : extension ∈ builtins) (arguments : BoundArguments) :
    extension.reply other page arguments = extension.reply fs page arguments := by
  simp only [builtins, List.mem_cons, List.not_mem_nil, or_false] at hextension
  rcases hextension with rfl | rfl | rfl | rfl | rfl | rfl
  case inr.inr.inr.inr.inl => exact reply_includeFile_of_agreesBelow page hnames h arguments
  -- The others do not look at files.
  all_goals rfl

/-- **Inclusion stays below the base directory.**  A path is resolved just if it exists and leads,
    name by name, to the directory or below it, and then to where it leads; and no file anywhere
    else makes a difference to what a call for an inclusion, or a document, is replaced by. -/
theorem PageInfo.inclusion (page : PageInfo) (fs : FileSystem)
    (hnames : ∀ name ∈ fs.current, Path.IsName name) (hbase : fs.Exists page.baseDirectory) :
    (∀ relative location, page.resolve? fs relative = some location ↔
      fs.Exists (page.baseDirectory.join ⟨relative⟩) ∧
        fs.target page.baseDirectory <+: fs.target (page.baseDirectory.join ⟨relative⟩) ∧
        location = fs.target (page.baseDirectory.join ⟨relative⟩)) ∧
    ∀ other, FileSystem.AgreesBelow (fs.target page.baseDirectory) fs other →
      (∀ registry call, Registry.resolve? registry call.name = some Builtin.includeFile →
        registry.invoke other page call = registry.invoke fs page call) ∧
      ∀ source, (Registry.empty.registerAll builtins).expand other page source =
        (Registry.empty.registerAll builtins).expand fs page source := by
  refine ⟨fun relative location => ?_, fun other h => ⟨fun registry call hcall => ?_, ?_⟩⟩
  · rw [resolve?_eq_some_iff, and_iff_right hbase]
  · refine Registry.invoke_congr fun extension arguments hextension => ?_
    cases hcall.symm.trans hextension
    exact reply_includeFile_of_agreesBelow { page with line := call.line } hnames h _
  · refine Registry.expand_congr fun name extension line arguments hextension => ?_
    exact reply_of_agreesBelow { page with line := line } hnames h
      (Registry.mem_of_resolve? hextension) arguments

/-- A page beside a directory whose name starts like that of its own. -/
def neighbours : FileSystem :=
  ⟨[(["site"], .directory), (["site", "page.md"], .file "Page".toUTF8),
    (["site-private"], .directory), (["site-private", "key.md"], .file "Key".toUTF8)], []⟩

/-- A page in the directory `site`. -/
def neighbour : PageInfo := ⟨"Page", "/page", none, ⟨"site"⟩, 0⟩

theorem PageInfo.inclusion_neighbours :
    (neighbour.resolve? neighbours ".//../site/page.md" = some ["site", "page.md"] ∧
      neighbour.resolve? neighbours "../site-private/key.md" = none) ∧
    ∀ data source,
      (Registry.empty.registerAll builtins).expand
          (neighbours.put ["site-private", "key.md"] (.file data)) neighbour source =
        (Registry.empty.registerAll builtins).expand neighbours neighbour source := by
  obtain ⟨hresolve, hagree⟩ := neighbour.inclusion neighbours nofun (by decide)
  refine ⟨⟨(hresolve ..).2 (by decide), Option.eq_none_iff_forall_ne_some.2 fun location h => ?_⟩,
    fun data source => (hagree _ ?_).2 source⟩
  · exact absurd ((hresolve ..).1 h).2.1 (by decide)
  · have hentry : neighbours.entry? ["site-private", "key.md"] = some (.file "Key".toUTF8) := by rfl
    exact FileSystem.AgreesBelow.of_put hentry (by decide)

end CourseSite.Directive
