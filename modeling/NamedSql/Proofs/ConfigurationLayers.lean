import NamedSql.Config.Load
import NamedSql.Proofs.NameOrder

/-! Settings in layers. Whatever a command line and two files set, each setting of the service is the one of
the highest layer that sets it, whether the sections of the files are there or not, and an operation is
taken from a file as a whole. It does not matter which of three files are put together first, and a file
over nothing says what it says alone. -/
namespace NamedSql.ConfigurationLayers
open Config NameOrder

variable {α S : Type}

/-- How two values of one kind are put over each other: with nothing below, the upper one is unchanged, and
of three it does not matter which two are put together first. -/
structure Layering (S : Type) where
  cover : S → S → S
  blank : S
  Valid : S → Prop
  valid_blank : Valid blank
  blank_cover : ∀ s, Valid s → cover blank s = s
  cover_assoc : ∀ a b c, Valid a → Valid b → Valid c → cover (cover a b) c = cover a (cover b c)

namespace Layering

/-- What may be missing, put over each other. -/
def overlaid (layering : Layering S) (lower upper : Option S) : Option S :=
  match upper with
  | none => lower
  | some s => some (layering.cover (lower.getD layering.blank) s)

variable {layering : Layering S} {a b c : Option S}

theorem overlaid_blank (valid : ∀ s ∈ b, layering.Valid s) : layering.overlaid none b = b := by
  cases b with
  | none => rfl
  | some s => exact congrArg some (layering.blank_cover s (valid s rfl))

theorem valid_getD (valid : ∀ s ∈ a, layering.Valid s) :
    layering.Valid (a.getD layering.blank) := by
  cases a with
  | none => exact layering.valid_blank
  | some s => exact valid s rfl

theorem overlaid_assoc (first : ∀ s ∈ a, layering.Valid s) (second : ∀ s ∈ b, layering.Valid s)
    (third : ∀ s ∈ c, layering.Valid s) :
    layering.overlaid (layering.overlaid a b) c = layering.overlaid a (layering.overlaid b c) := by
  have lowest := valid_getD first
  cases c with
  | none => rfl
  | some upper =>
    have highest := third upper rfl
    cases b with
    | none =>
      -- The missing one in between is blank as soon as it is put under the upper one.
      have alone := layering.blank_cover upper highest
      simp only [overlaid, Option.getD_none, alone]
    | some middle =>
      have whole := layering.cover_assoc _ _ _ lowest (second middle rfl) highest
      simp only [overlaid, Option.getD_some, whole]

/-- A field that each value may set is set by the upper one, else by the lower one. -/
theorem bind_overlaid {field : S → Option α} (unset : field layering.blank = none)
    {lower upper : Option S} (each : ∀ s ∈ upper, ∀ t,
      field (layering.cover t s) = (field s).or (field t)) :
    (layering.overlaid lower upper).bind field = (upper.bind field).or (lower.bind field) := by
  cases upper with
  | none => rfl
  | some s =>
    have set := each s rfl
    cases lower with
    | none => simp [overlaid, set, unset]
    | some t => simp [overlaid, set]

end Layering

/-- The section of where the service listens is put together field by field. -/
def serverLayering : Layering ServerSection where
  cover := ServerSection.overlay
  blank := {}
  Valid _ := True
  valid_blank := trivial
  blank_cover s _ := by
    simp [ServerSection.overlay]
  cover_assoc a b c _ _ _ := by
    simp [ServerSection.overlay, Option.or_assoc]

/-- The section of the database is put together field by field. -/
def databaseLayering : Layering DatabaseSection where
  cover := DatabaseSection.overlay
  blank := {}
  Valid _ := True
  valid_blank := trivial
  blank_cover s _ := by
    simp [DatabaseSection.overlay]
  cover_assoc a b c _ _ _ := by
    simp [DatabaseSection.overlay, Option.or_assoc]

/-- The operations are put together name by name. -/
def operationsLayering : Layering (NameMap Operation) where
  cover lower upper := lower.insertAll upper.entries
  blank := .empty
  Valid m := Increasing m.entries
  valid_blank := List.Pairwise.nil
  blank_cover m increasing := by
    apply congrArg NameMap.mk
    apply eq_of_lookup (increasing_insertAll List.Pairwise.nil m.entries) increasing
    intro name
    exact (get?_insertAll .empty increasing name).trans (Option.or_none ..)
  cover_assoc a b c first second third := by
    have upper := increasing_insertAll second c.entries
    apply congrArg NameMap.mk
    apply eq_of_lookup (increasing_insertAll (increasing_insertAll first b.entries) c.entries)
      (increasing_insertAll first (b.insertAll c.entries).entries)
    intro name
    change ((a.insertAll b.entries).insertAll c.entries).get? name =
      (a.insertAll (b.insertAll c.entries).entries).get? name
    have middle : (b.insertAll c.entries).entries.lookup name = _ := get?_insertAll b third name
    rw [get?_insertAll _ third, get?_insertAll _ second, get?_insertAll _ upper, middle, Option.or_assoc]
    rfl

theorem server_overlay (lower upper : File) :
    (lower.overlay upper).server = serverLayering.overlaid lower.server upper.server := by
  unfold File.overlay
  cases upper.server with
  | none | some => rfl

theorem database_overlay (lower upper : File) :
    (lower.overlay upper).database = databaseLayering.overlaid lower.database upper.database := by
  unfold File.overlay
  cases upper.database with
  | none | some => rfl

theorem operations_overlay (lower upper : File) : (lower.overlay upper).operations =
    operationsLayering.overlaid lower.operations upper.operations := by
  unfold File.overlay
  cases upper.operations with
  | none | some => rfl

theorem debug_overlay (lower upper : File) :
    (lower.overlay upper).debug = upper.debug.or lower.debug := Option.orElse_eq_or

/-- Whether the operations of a file, if it has any, are in the order of their names. -/
def Ordered (file : File) : Prop := ∀ operations ∈ file.operations, Increasing operations.entries

/-- Whether two files say the same in everything that is put together in layers. -/
structure SameLayers (f g : File) : Prop where
  server : f.server = g.server
  database : f.database = g.database
  operations : f.operations = g.operations
  debug : f.debug = g.debug

theorem overlay_assoc {f g h : File} (first : Ordered f) (second : Ordered g) (third : Ordered h) :
    SameLayers ((f.overlay g).overlay h) (f.overlay (g.overlay h)) where
  server := by
    simp only [server_overlay]
    exact Layering.overlaid_assoc (fun _ _ => trivial) (fun _ _ => trivial) fun _ _ => trivial
  database := by
    simp only [database_overlay]
    exact Layering.overlaid_assoc (fun _ _ => trivial) (fun _ _ => trivial) fun _ _ => trivial
  operations := by
    simp only [operations_overlay]
    exact Layering.overlaid_assoc first second third
  debug := by
    simp only [debug_overlay, Option.or_assoc]

theorem empty_overlay {f : File} (ordered : Ordered f) : SameLayers (File.overlay {} f) f where
  server := by
    rw [server_overlay]
    exact Layering.overlaid_blank fun _ _ => trivial
  database := by
    rw [database_overlay]
    exact Layering.overlaid_blank fun _ _ => trivial
  operations := by
    rw [operations_overlay]
    exact Layering.overlaid_blank ordered
  debug := by
    rw [debug_overlay]
    exact Option.or_none

/-- The settings of the service that a file may make, by the type of their values. -/
inductive Setting : Type → Type
  | host : Setting String
  | port : Setting UInt16
  | backend : Setting Store.Backend
  | url : Setting String
  | maxConnections : Setting UInt32
  | minConnections : Setting UInt32
  | acquireTimeout : Setting UInt64
  | statementTimeout : Setting UInt64

namespace Setting

/-- What a file sets, in a section that it has. -/
def given? : Setting α → File → Option α
  | host, f => f.server.bind (·.host)
  | port, f => f.server.bind (·.port)
  | backend, f => f.database.bind (·.backend)
  | url, f => f.database.bind (·.url)
  | maxConnections, f => f.database.bind (·.maxConnections)
  | minConnections, f => f.database.bind (·.minConnections)
  | acquireTimeout, f => f.database.bind (·.acquireTimeout)
  | statementTimeout, f => f.database.bind (·.statementTimeout)

/-- What a command line sets, for the settings that it has an option for. -/
def option? : Setting α → CommandLine.Options → Option α
  | host, o => o.host
  | port, o => o.port
  | backend, o => o.backend
  | url, o => o.url
  | maxConnections, _ | minConnections, _ | acquireTimeout, _ | statementTimeout, _ => none

/-- What is set if no layer sets it. -/
def fallback : Setting α → α
  | host => defaultHost
  | port => defaultPort
  | backend => .sqlite
  | url => defaultUrl
  | maxConnections | minConnections => 0
  | acquireTimeout | statementTimeout => 0

/-- What the service runs with. -/
def value : Setting α → Settings → α
  | host, s => s.host
  | port, s => s.port
  | backend, s => s.database.backend
  | url, s => s.database.url
  | maxConnections, s => s.database.maxConnections
  | minConnections, s => s.database.minConnections
  | acquireTimeout, s => s.database.acquireTimeout
  | statementTimeout, s => s.database.statementTimeout

/-- A setting of two files is the one of the upper file, else of the lower one. -/
theorem given?_overlay (setting : Setting α) (lower upper : File) :
    setting.given? (lower.overlay upper) = (setting.given? upper).or (setting.given? lower) := by
  cases setting with
  | host | port =>
    simp only [given?, server_overlay]
    apply Layering.bind_overlaid rfl
    intro s _ t
    exact Option.orElse_eq_or
  | backend | url | maxConnections | minConnections | acquireTimeout | statementTimeout =>
    simp only [given?, database_overlay]
    apply Layering.bind_overlaid rfl
    intro s _ t
    exact Option.orElse_eq_or

/-- A setting of the service is the one of the command line, else of the files, else the default. -/
theorem value_ofLayers (setting : Setting α) (file : File) (options : CommandLine.Options) :
    setting.value (Settings.ofLayers file options) =
      ((setting.option? options).or (setting.given? file)).getD setting.fallback := by
  cases setting with
  | host | port =>
    simp only [value, Settings.ofLayers, option?, given?, Option.orElse_eq_orElse,
      Option.orElse_eq_or]
    cases file.server with
    | none | some _ => rfl
  | backend | url =>
    simp only [value, Settings.ofLayers, option?, given?, Option.orElse_eq_orElse,
      Option.orElse_eq_or]
    cases file.database with
    | none | some _ => rfl
  | maxConnections | minConnections | acquireTimeout | statementTimeout =>
    simp only [value, Settings.ofLayers, option?, given?, Option.none_or]
    cases file.database with
    | none | some _ => rfl

end Setting

/-- The operation that a file has under a name. -/
def operation? (file : File) (name : String) : Option Operation :=
  file.operations.bind (·.get? name)

theorem operation?_overlay {lower upper : File} (ordered : Ordered upper) (name : String) :
    operation? (lower.overlay upper) name = (operation? upper name).or (operation? lower name) := by
  unfold operation?
  rw [operations_overlay]
  apply Layering.bind_overlaid rfl
  intro operations member other
  exact get?_insertAll other (ordered operations member) name

theorem Ordered.increasing {file : File} (ordered : Ordered file) :
    Increasing (file.operations.getD .empty).entries := by
  have valid : operationsLayering.Valid (file.operations.getD operationsLayering.blank) :=
    Layering.valid_getD ordered
  exact valid

theorem ordered_overlay {lower : File} (first : Ordered lower) (upper : File) :
    Ordered (lower.overlay upper) := by
  intro operations member
  rw [operations_overlay] at member
  cases same : upper.operations with
  | none =>
    rw [same] at member
    exact first operations member
  | some later =>
    rw [same] at member
    cases member
    exact increasing_insertAll first.increasing later.entries

/-- The names of the operations of a file. -/
def names (file : File) : List String := (file.operations.getD .empty).entries.map Prod.fst

theorem operations_getD (file : File) (name : String) :
    (file.operations.getD .empty).get? name = operation? file name := by
  unfold operation?
  cases file.operations with
  | none | some _ => rfl

theorem mem_names {file : File} {name : String} :
    name ∈ names file ↔ operation? file name ≠ none := by
  rw [← operations_getD, NameMap.get?, Ne, lookup_eq_none_iff, not_not]
  rfl

/-- What settings are promised to be, over two files and under a command line. -/
structure Layered (profile overlay : File) (options : CommandLine.Options) (settings : Settings) :
    Prop where
  highest : ∀ {α : Type} (setting : Setting α), setting.value settings =
    ((setting.option? options).or ((setting.given? overlay).or (setting.given? profile))).getD
      setting.fallback
  debug : settings.debug = true ↔
    options.debug = true ∨ overlay.debug.or profile.debug = some true
  operation : ∀ name,
    settings.operations.get? name = (operation? overlay name).or (operation? profile name)
  named : ∀ name, name ∈ settings.operations.entries.map Prod.fst ↔
    name ∈ names overlay ∨ name ∈ names profile
  increasing : Increasing settings.operations.entries

/-- One file over another over nothing, as they are put together when they are loaded. -/
def merged (profile overlay : File) : File := (File.overlay {} profile).overlay overlay

theorem ordered_empty : Ordered {} := by
  rintro _ ⟨⟩

theorem given?_merged (setting : Setting α) (profile overlay : File) :
    setting.given? (merged profile overlay) =
      (setting.given? overlay).or (setting.given? profile) := by
  have unset : setting.given? {} = none := by
    cases setting with
    | host | port | backend | url | maxConnections | minConnections | acquireTimeout
    | statementTimeout => rfl
  rw [merged, Setting.given?_overlay, Setting.given?_overlay, unset, Option.or_none]

theorem operation?_merged {profile overlay : File} (lower : Ordered profile)
    (upper : Ordered overlay) (name : String) : operation? (merged profile overlay) name =
      (operation? overlay name).or (operation? profile name) := by
  have absent : operation? {} name = none := rfl
  rw [merged, operation?_overlay upper, operation?_overlay lower, absent, Option.or_none]

theorem merged_layered {profile overlay : File} (lower : Ordered profile) (upper : Ordered overlay)
    (options : CommandLine.Options) :
    Layered profile overlay options (Settings.ofLayers (merged profile overlay) options) where
  highest setting := by
    rw [Setting.value_ofLayers, given?_merged]
  debug := by
    have said : (merged profile overlay).debug = overlay.debug.or profile.debug := by
      rw [merged, debug_overlay, debug_overlay]
      exact congrArg _ Option.or_none
    simp only [Settings.ofLayers, said, Bool.or_eq_true]
    cases overlay.debug.or profile.debug with
    | none | some _ => simp
  operation name := by
    rw [Settings.ofLayers, operations_getD, operation?_merged lower upper]
  named name := by
    have joined : name ∈ names (merged profile overlay) ↔
        name ∈ names overlay ∨ name ∈ names profile := by
      rw [mem_names, mem_names, mem_names, operation?_merged lower upper, Ne, Option.or_eq_none_iff,
        not_and_or]
    exact joined
  increasing := by
    have ordered := ordered_overlay (ordered_overlay ordered_empty profile) overlay
    exact ordered.increasing

section Loading
variable {look : String → Files.Entry} {home : String} {config : Option String}

theorem setting?_some {found : Record Json.Draft} {name : String}
    {read? : Json.Draft → Option α} {value : α}
    (given : setting? found name read? = some (some value)) : ∃ d, read? d = some value := by
  unfold setting? Json.Draft.valueOf? at given
  split at given
  · cases given
  · rename_i d _
    unfold Json.Draft.nullable? at given
    split at given
    · cases given
    · exact ⟨_, by simpa using given⟩

theorem operations?_increasing {d : Json.Draft} {operations : NameMap Operation}
    (read : File.operations? d = some operations) : Increasing operations.entries := by
  unfold File.operations? at read
  split at read
  · obtain ⟨pairs, _, same⟩ := Option.bind_eq_some_iff.mp read
    cases same
    exact increasing_ofList pairs
  · cases read

/-- Whatever a file is read from, its operations are in the order of their names. -/
theorem ofText?_ordered {s : String} {file : File} (read : File.ofText? s = some file) :
    Ordered file := by
  obtain ⟨d, _, read⟩ := Option.bind_eq_some_iff.mp read
  unfold File.ofDraft? at read
  split at read
  · simp only [bind, Option.bind_eq_some_iff] at read
    obtain ⟨found, _, server, _, database, _, operations, given, debug, _, unknown, _, same⟩ := read
    cases same
    rintro map rfl
    obtain ⟨written, read⟩ := setting?_some given
    exact operations?_increasing read
  · cases read

/-- The layer that an entry is: a file that sets nothing, where nothing is found. -/
def layer? : Files.Entry → Option File
  | .missing => some {}
  | .file contents => File.ofText? contents
  | .directory | .binary => none

theorem layer?_ordered {entry : Files.Entry} {file : File} (layer : layer? entry = some file) :
    Ordered file := by
  cases entry with
  | missing =>
    cases layer
    exact ordered_empty
  | file contents => exact ofText?_ordered layer
  | directory | binary => cases layer

/-- The layer over the profile: the file that the command line names, which has to be there, or else what
is in the working directory. -/
def upperLayer? (look : String → Files.Entry) (home : String) (config : Option String) :
    Option File :=
  match config with
  | some path =>
    if (look (Files.expandHome home path)).isFound then layer? (look (Files.expandHome home path))
    else none
  | none => layer? (look fileName)

theorem overlay_empty (file : File) : file.overlay {} = file := rfl

theorem addFile_ok_iff {path : String} {entry : Files.Entry} {lower file : File} :
    (addFile path entry lower).2 = .ok file ↔
      entry.isFound = true ∧ ∃ upper, layer? entry = some upper ∧ file = lower.overlay upper := by
  cases entry with
  | missing | directory | binary => simp [addFile, layer?, Files.Entry.isFound]
  | file contents =>
    cases read : File.ofText? contents with
    | none => simp [addFile, layer?, read]
    | some upper =>
      have added : (addFile path (.file contents) lower).2 = .ok (lower.overlay upper) := by
        rw [addFile, read]
      rw [added]
      simp only [layer?, read, Option.some.injEq, exists_eq_left', Except.ok.injEq]
      exact ⟨fun same => ⟨rfl, same.symm⟩, fun found => found.2.symm⟩

/-- What is not there is passed over like a file that sets nothing. -/
theorem addFound_ok_iff {path : String} {entry : Files.Entry} {lower file : File} :
    (if entry.isFound then addFile path entry lower else ([], .ok lower)).2 = .ok file ↔
      ∃ upper, layer? entry = some upper ∧ file = lower.overlay upper := by
  by_cases found : entry.isFound = true
  · rw [if_pos found, addFile_ok_iff]
    exact ⟨fun added => added.2, fun added => ⟨found, added⟩⟩
  · have missing : entry = .missing := by
      cases entry with
      | missing => rfl
      | directory | file | binary => exact absurd rfl found
    rw [if_neg found, missing]
    constructor
    · rintro ⟨⟩
      exact ⟨{}, rfl, rfl⟩
    · rintro ⟨upper, ⟨⟩, rfl⟩
      rfl

theorem addOverlay_ok_iff {lower file : File} :
    (addOverlay (m := Id) look home config lower).2 = .ok file ↔
      ∃ upper, upperLayer? look home config = some upper ∧ file = lower.overlay upper := by
  cases config with
  | none => exact addFound_ok_iff
  | some path =>
    have added : addOverlay (m := Id) look home (some path) lower =
        addFile (Files.expandHome home path) (look (Files.expandHome home path)) lower := rfl
    rw [added, addFile_ok_iff, upperLayer?]
    by_cases found : (look (Files.expandHome home path)).isFound = true
    · simp [found]
    · simp [found]

/-- The files are put together exactly where each of the two layers can be read. -/
theorem loadFiles_ok_iff {file : File} : (loadFiles (m := Id) look home config).2 = .ok file ↔
    ∃ profile overlay, layer? (look (profilePath home)) = some profile ∧
      upperLayer? look home config = some overlay ∧ file = merged profile overlay := by
  have below {lower : File} :=
    @addFound_ok_iff (profilePath home) (look (profilePath home)) {} lower
  unfold loadFiles
  simp only [pure, bind]
  generalize (if (look (profilePath home)).isFound then
    addFile (profilePath home) (look (profilePath home)) {} else ([], .ok {})) = added at below
  obtain ⟨warnings, result⟩ := added
  cases result with
  | error e =>
    refine iff_of_false (by rintro ⟨⟩) ?_
    rintro ⟨profile, overlay, first, _, _⟩
    cases below.mpr ⟨profile, first, rfl⟩
  | ok lower =>
    obtain ⟨profile, first, rfl⟩ := below.mp rfl
    refine addOverlay_ok_iff.trans ?_
    constructor
    · rintro ⟨overlay, second, rfl⟩
      exact ⟨profile, overlay, first, second, rfl⟩
    · rintro ⟨other, overlay, same, second, rfl⟩
      rw [first] at same
      cases same
      exact ⟨overlay, second, rfl⟩

theorem settled_ok_iff {options : CommandLine.Options} {file : File} {settings : Settings} :
    (settled options file).2 = .ok settings ↔
      settings = Settings.ofLayers file options ∧ settings.defect? = none := by
  simp only [settled]
  cases defect : (Settings.ofLayers file options).defect? with
  | some defect =>
    refine iff_of_false (by rintro ⟨⟩) ?_
    rintro ⟨rfl, sound⟩
    cases defect.symm.trans sound
  | none =>
    constructor
    · rintro ⟨⟩
      exact ⟨rfl, defect⟩
    · rintro ⟨rfl, _⟩
      rfl

/-- The settings are loaded exactly where both layers can be read and what they make has no defect. -/
theorem load_ok_iff {options : CommandLine.Options} {settings : Settings} :
    (load (m := Id) look home options).2 = .ok settings ↔
      ∃ profile overlay, layer? (look (profilePath home)) = some profile ∧
        upperLayer? look home options.config = some overlay ∧
        settings = Settings.ofLayers (merged profile overlay) options ∧ settings.defect? = none := by
  have files {file : File} := @loadFiles_ok_iff look home options.config file
  unfold load
  simp only [pure, bind]
  generalize loadFiles (m := Id) look home options.config = loaded at files
  obtain ⟨warnings, result⟩ := loaded
  cases result with
  | error e =>
    refine iff_of_false (by rintro ⟨⟩) ?_
    rintro ⟨profile, overlay, first, second, _⟩
    cases files.mpr ⟨profile, overlay, first, second, rfl⟩
  | ok file =>
    obtain ⟨profile, overlay, first, second, rfl⟩ := files.mp rfl
    refine settled_ok_iff.trans ?_
    constructor
    · intro settled
      exact ⟨profile, overlay, first, second, settled⟩
    · rintro ⟨other, another, same, alike, settled⟩
      rw [first] at same
      rw [second] at alike
      cases same
      cases alike
      exact settled

end Loading

theorem upperLayer?_ordered {look : String → Files.Entry} {home : String} {config : Option String}
    {file : File} (layer : upperLayer? look home config = some file) : Ordered file := by
  cases config with
  | none => exact layer?_ordered layer
  | some path =>
    unfold upperLayer? at layer
    simp only at layer
    split at layer
    · exact layer?_ordered layer
    · cases layer

/-- **Settings in layers.** Over any two files whose operations are in the order of their names, as they
are in all files that are read, each setting is the one of the highest layer that sets it, and this is
what is loaded. Files are put together in any grouping, and over nothing they stay what they are. -/
theorem settings_layered :
    (∀ profile overlay options, Ordered profile → Ordered overlay →
        Layered profile overlay options (Settings.ofLayers (merged profile overlay) options)) ∧
      (∀ (look : String → Files.Entry) home options settings,
        (load (m := Id) look home options).2 = .ok settings → ∃ profile overlay,
          layer? (look (profilePath home)) = some profile ∧
          upperLayer? look home options.config = some overlay ∧
          Layered profile overlay options settings) ∧
      (∀ s file, File.ofText? s = some file → Ordered file) ∧
      (∀ f g h, Ordered f → Ordered g → Ordered h →
        SameLayers ((f.overlay g).overlay h) (f.overlay (g.overlay h))) ∧
      ∀ f, Ordered f → SameLayers (File.overlay {} f) f := by
  refine ⟨fun profile overlay options lower upper => merged_layered lower upper options, ?_,
    fun s file => ofText?_ordered, fun f g h => overlay_assoc, fun f => empty_overlay⟩
  intro look home options settings loaded
  obtain ⟨profile, overlay, first, second, rfl, _⟩ := load_ok_iff.mp loaded
  refine ⟨profile, overlay, first, second, ?_⟩
  exact merged_layered (layer?_ordered first) (upperLayer?_ordered second) options

/-- A profile that says where the service listens, with two operations. -/
def profileText : String :=
  "\x7b\"server\": \x7b\"host\": \"0.0.0.0\", \"port\": 8080\x7d, \"debug\": true, \"operations\": " ++
    "\x7b\"list\": \x7b\"sql\": \"SELECT 1\", \"limit\": 5\x7d, \"count\": \x7b\"sql\": \"SELECT 2\"\x7d\x7d\x7d"

/-- A file with an empty section, another port, and one of the operations without its limit. -/
def localText : String :=
  "\x7b\"database\": \x7b\x7d, \"server\": \x7b\"port\": 9090\x7d, \"operations\": " ++
    "\x7b\"list\": \x7b\"sql\": \"SELECT 3\"\x7d\x7d\x7d"

/-- A home with the profile and a working directory with the other file. -/
def noteFiles (path : String) : Files.Entry :=
  if path = profilePath "/home/ann" then .file profileText
  else if path = fileName then .file localText
  else .missing

theorem noteFiles_layered : ∃ profile overlay settings,
    File.ofText? profileText = some profile ∧ File.ofText? localText = some overlay ∧
      Ordered profile ∧ Ordered overlay ∧
      Layered profile overlay {} (Settings.ofLayers (merged profile overlay) {}) ∧
      (load (m := Id) noteFiles "/home/ann" {}).2 = .ok settings ∧
      Layered profile overlay {} settings ∧
      SameLayers ((profile.overlay overlay).overlay profile)
        (profile.overlay (overlay.overlay profile)) ∧
      SameLayers (File.overlay {} profile) profile := by
  obtain ⟨profile, lower⟩ : ∃ profile, File.ofText? profileText = some profile :=
    Option.isSome_iff_exists.mp (by decide +kernel)
  obtain ⟨overlay, upper⟩ : ∃ overlay, File.ofText? localText = some overlay :=
    Option.isSome_iff_exists.mp (by decide +kernel)
  obtain ⟨settings, loaded⟩ :
      ∃ settings, (load (m := Id) noteFiles "/home/ann" {}).2 = .ok settings := by
    have succeeds : (load (m := Id) noteFiles "/home/ann" {}).2.isOk = true := by decide +kernel
    cases same : (load (m := Id) noteFiles "/home/ann" {}).2 with
    | error e =>
      rw [same] at succeeds
      cases succeeds
    | ok settings => exact ⟨settings, rfl⟩
  obtain ⟨layered, loads, reads, associates, begins⟩ := settings_layered
  have first := reads profileText profile lower
  have second := reads localText overlay upper
  obtain ⟨_, _, below, above, found⟩ := loads noteFiles "/home/ann" {} settings loaded
  rw [noteFiles, if_pos rfl] at below
  rw [upperLayer?, noteFiles, if_neg (by decide +kernel), if_pos rfl] at above
  cases lower.symm.trans below
  cases upper.symm.trans above
  exact ⟨profile, overlay, settings, lower, upper, first, second,
    layered profile overlay {} first second, loaded, found,
    associates profile overlay profile first second first, begins profile first⟩

end NamedSql.ConfigurationLayers
