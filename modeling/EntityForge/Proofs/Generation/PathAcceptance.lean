import EntityForge.Proofs.Generation.Regeneration

/-!
# Which paths a directory accepts

A directory refuses the path of an artifact by its components, and then writes to the text of the
path as it stands. The two views are brought together here. The components of a path are its
segments without the ones that lead nowhere, but for a slash or a `.` at the beginning
(`Path.components`), so that one of them leads out of a directory exactly if the path begins with a
slash or one of its segments is `..` (`Path.escapes_iff`). The names among the components are those
that the path adds to the location of the directory (`Path.names_components`), which is where a walk
along the text of the path ends.

`DirectoryManifest.write_inside_exactly` says of one write what is refused, and what has become of
the files when it is accepted.
-/

set_option autoImplicit false

namespace EntityForge

open Files

/-! ## Components -/

namespace Files.Path

variable {path : String}

/-- A component of a path. -/
inductive Component where
  /-- The slash at the beginning. -/
  | root
  /-- A `.` at the beginning. -/
  | here
  /-- The directory above. -/
  | above
  /-- A name in the directory so far. -/
  | name (text : String)

namespace Component

/-- The component that a segment is, unless it leads nowhere. -/
def ofSegment? (segment : String) : Option Component :=
  if isIdle segment then none
  else if segment = ".." then some above
  else some (name segment)

/-- Whether a component may lead out of a directory. -/
def escapes : Component → Bool
  | root => true
  | above => true
  | here => false
  | name _ => false

/-- The name that a component is. -/
def name? : Component → Option String
  | name text => some text
  | _ => none

end Component

/-- The components of a path. Segments that lead nowhere are left out, but for a `.` with which the
path begins. -/
def components (path : String) : List Component :=
  let below := (segments path).filterMap Component.ofSegment?
  if isAbsolute path then .root :: below
  else if (segments path).head? = some "." then .here :: below
  else below

/-- A path is empty, begins with a slash, or has a segment that leads up. -/
def Escapes (path : String) : Prop :=
  path = "" ∨ path.toList.head? = some '/' ∨ ".." ∈ segments path

instance (path : String) : Decidable (Escapes path) :=
  inferInstanceAs (Decidable (path = "" ∨ path.toList.head? = some '/' ∨ ".." ∈ segments path))

theorem isAbsolute_iff : isAbsolute path = true ↔ path.toList.head? = some '/' := by
  simp [isAbsolute]

theorem staysInside_eq_false_iff : staysInside path = false ↔ Escapes path := by
  rw [← Bool.not_eq_true, staysInside_iff, Escapes, ← isAbsolute_iff]
  by_cases hempty : path = ""
  · simp [hempty]
  · by_cases habsolute : isAbsolute path = true <;> simp [hempty, habsolute]

theorem Component.ofSegment?_above : ofSegment? ".." = some above := rfl

/-- Among segments one leads up exactly if it is a component that leads out. -/
theorem exists_escapes_filterMap_iff (segments : List String) :
    (∃ component ∈ segments.filterMap Component.ofSegment?, component.escapes = true) ↔
      ".." ∈ segments := by
  constructor
  · rintro ⟨component, hmem, hescapes⟩
    obtain ⟨segment, hsegment, hcomponent⟩ := List.mem_filterMap.1 hmem
    unfold Component.ofSegment? at hcomponent
    split at hcomponent
    · cases hcomponent
    split at hcomponent
    · rename_i hup
      rwa [hup] at hsegment
    · cases hcomponent
      cases hescapes
  · intro hup
    exact ⟨.above, List.mem_filterMap.2 ⟨"..", hup, Component.ofSegment?_above⟩, rfl⟩

/-- A path leads out of a directory exactly if it is empty or one of its components does. -/
theorem escapes_iff :
    Escapes path ↔ path = "" ∨ ∃ component ∈ components path, component.escapes = true := by
  rw [Escapes, ← isAbsolute_iff, ← exists_escapes_filterMap_iff (segments path)]
  refine or_congr Iff.rfl ?_
  unfold components
  split
  · rename_i habsolute
    simp [habsolute, Component.escapes]
  rename_i habsolute
  split
  · simp [habsolute, Component.escapes]
  · simp [habsolute]

theorem names_filterMap {segments : List String} (h : ".." ∉ segments) :
    (segments.filterMap Component.ofSegment?).filterMap Component.name?
      = segments.filter fun segment => !isIdle segment := by
  induction segments with
  | nil => rfl
  | cons segment rest ih =>
    rw [List.mem_cons, not_or] at h
    have hup : segment ≠ ".." := Ne.symm h.1
    cases hidle : isIdle segment with
    | true => simp [Component.ofSegment?, hidle, ih h.2]
    | false => simp [Component.ofSegment?, hidle, hup, Component.name?, ih h.2]

/-- The names among the components of a path are its segments that lead somewhere. -/
theorem names_components (h : ¬ Escapes path) :
    (components path).filterMap Component.name? = normal path := by
  simp only [Escapes, not_or] at h
  have habsolute : ¬ isAbsolute path = true := fun hslash => h.2.1 (isAbsolute_iff.1 hslash)
  have hnames := names_filterMap h.2.2
  unfold components
  rw [if_neg habsolute]
  split
  · rw [List.filterMap_cons]
    exact hnames
  · exact hnames

end Files.Path

/-! ## One write -/

namespace DirectoryManifest

variable {base : String} {artifact : Artifact}

/-- What has become of the files when an artifact is accepted below a base. -/
structure WrittenInside (base : String) (artifact : Artifact) (before after : Workspace) :
    Prop where
  /-- The file where the names of the path lead holds the content. -/
  file : after.tree.file? (Path.location before.here base ++ Path.normal artifact.path)
    = some artifact.content.toByteArray
  /-- Along the text of the path the content is read back. -/
  read : after.read (Path.join base artifact.path) = .ok artifact.content.toByteArray
  /-- No other file changes, and none is added or removed. -/
  files : ∀ location, location ≠ Path.location before.here base ++ Path.normal artifact.path →
    after.tree.file? location = before.tree.file? location
  /-- Nothing else changes, but that directories on the way are made where nothing was. -/
  others : ∀ location, location ≠ Path.location before.here base ++ Path.normal artifact.path →
    after.tree.get? location = before.tree.get? location ∨
      before.tree.get? location = none ∧ after.tree.get? location = some .directory ∧
        Path.EnclosedAt before.here (Path.join base artifact.path) location

theorem message_pathOutside (path : String) :
    (Fault.configuration (.pathOutside path)).message
      = "Configuration error: artifact path `" ++ path
          ++ "` is not inside the output directory" := by
  have hfront : "Configuration error" ++ ": " ++ "artifact path `"
      = "Configuration error: artifact path `" := rfl
  have hmessage : (Fault.configuration (.pathOutside path)).message
      = "Configuration error" ++ ": "
          ++ ("artifact path `" ++ path ++ "` is not inside the output directory") := rfl
  rw [hmessage, ← hfront]
  simp only [String.append_assoc]

/-- A path that leads out of the base is refused before anything is done. -/
theorem write_of_escapes (base : String) (workspace : Workspace)
    (h : Path.Escapes artifact.path) :
    (sink base).write artifact workspace
      = .failed workspace (.configuration (.pathOutside artifact.path)) := by
  simp only [sink, write, Path.staysInside_eq_false_iff.2 h, Bool.false_eq_true, if_false]

/-- A path that does not lead out of the base is refused only because of the files. -/
theorem write_of_not_escapes (base : String) (workspace : Workspace)
    (h : ¬ Path.Escapes artifact.path) (cause : ConfigurationCause) :
    ((sink base).write artifact workspace).outcome ≠ .error (.configuration cause) := by
  have hstays : Path.staysInside artifact.path = true := by
    rw [← Bool.not_eq_false, Path.staysInside_eq_false_iff]
    exact h
  simp only [sink, write, hstays, if_true]
  intro hrefused
  split at hrefused
  · cases hrefused
  · cases hrefused

/-- An accepted write writes its file and changes nothing else. -/
theorem writtenInside_of_ok (workspace : PlainWorkspace)
    (h : ((sink base).write artifact workspace.toWorkspace).outcome = .ok ()) :
    WrittenInside base artifact workspace.toWorkspace
      ((sink base).write artifact workspace.toWorkspace).state := by
  obtain ⟨hevolves, hfile⟩ := write_evolves workspace base artifact
  obtain ⟨hstays, bytes, hkeeps⟩ := kept_of_write workspace h
  have hother : ∀ location bytes,
      location ≠ Path.location workspace.here base ++ Path.normal artifact.path →
        ¬ Writes base workspace.here artifact location bytes := by
    rintro location bytes hne ⟨⟨-, hplace⟩, -⟩
    exact hne hplace
  constructor
  case file => exact Tree.file?_of_get? (hfile h)
  case read =>
    -- what is read is the file at the end of the path, which is the one that was written
    have hheld := hkeeps.holds.file
    rw [hevolves.here, Path.location_join hstays, hfile h] at hheld
    cases hheld
    exact hkeeps.holds.read
  case files =>
    intro location hne
    exact (hevolves.change location).bytes?_eq fun bytes => hother location bytes hne
  case others =>
    intro location hne
    refine ((hevolves.change location).eq_or_directory fun bytes => hother location bytes hne).imp
      id ?_
    rintro ⟨hvacant, hdirectory, -, henclosed⟩
    exact ⟨hvacant, hdirectory, henclosed⟩

/-- A directory accepts exactly the paths that do not lead out of it. A write of an artifact is
refused as wrongly configured exactly if the path is empty, begins with a slash or has a segment
`..`, which is to say that it is empty or has a component that leads out; it is refused with the
path in the message and before anything is done. Of every other path the components are, but for a
`.` at the beginning, its segments that are neither empty nor `.`, and in a tree without links an
accepted write has put the content at the file to which they lead below the base, whatever was
there, and has changed no other file. -/
theorem write_inside_exactly (base : String) (artifact : Artifact) (workspace : Workspace) :
    ((∃ cause, ((sink base).write artifact workspace).outcome = .error (.configuration cause)) ↔
      Path.Escapes artifact.path) ∧
    (Path.Escapes artifact.path ↔ artifact.path = "" ∨
      ∃ component ∈ Path.components artifact.path, component.escapes = true) ∧
    (Path.Escapes artifact.path → ∃ fault,
      (sink base).write artifact workspace = .failed workspace fault ∧
        fault.message = "Configuration error: artifact path `" ++ artifact.path
          ++ "` is not inside the output directory") ∧
    (¬ Path.Escapes artifact.path →
      (Path.components artifact.path).filterMap Path.Component.name?
        = Path.normal artifact.path) ∧
    (workspace.tree.Linkless → ((sink base).write artifact workspace).outcome = .ok () →
      WrittenInside base artifact workspace ((sink base).write artifact workspace).state) := by
  refine ⟨⟨?_, ?_⟩, Path.escapes_iff, ?_, Path.names_components, fun hlinkless =>
    writtenInside_of_ok ⟨workspace, hlinkless⟩⟩
  · rintro ⟨cause, hrefused⟩
    by_contra h
    exact write_of_not_escapes base workspace h cause hrefused
  · intro h
    rw [write_of_escapes base workspace h]
    exact ⟨_, rfl⟩
  · intro h
    exact ⟨_, write_of_escapes base workspace h, message_pathOutside artifact.path⟩

/-- A directory with a file of bytes that are no text, and a file beside the directory. -/
def olderOutput : Workspace :=
  ⟨⟨[(["keep"], .file "kept".toByteArray), (["out"], .directory), (["out", "..."], .directory),
    (["out", "...", "a.ts"], .file ⟨#[0xff, 0xfe]⟩)]⟩, []⟩

/-- A path with gaps, dots and a name of three dots replaces the file; with a segment that leads up
it is refused. -/
theorem write_inside_exactly_dotted :
    (∃ fault, (sink "out").write ⟨".../../a.ts", "new"⟩ olderOutput = .failed olderOutput fault ∧
      fault.message = "Configuration error: artifact path `" ++ ".../../a.ts"
        ++ "` is not inside the output directory") ∧
    (Path.components ".//..././a.ts").filterMap Path.Component.name? = ["...", "a.ts"] ∧
    ((sink "out").write ⟨".//..././a.ts", "new"⟩ olderOutput).state.tree.file? ["out", "...", "a.ts"]
      = some "new".toByteArray ∧
    ((sink "out").write ⟨".//..././a.ts", "new"⟩ olderOutput).state.tree.file? ["keep"]
      = some "kept".toByteArray := by
  have hnormal : Path.normal ".//..././a.ts" = ["...", "a.ts"] := by decide +kernel
  have hbase : Path.location [] "out" = ["out"] := by decide +kernel
  have hlinkless : olderOutput.tree.Linkless := Tree.linkless_of_entries (by simp [olderOutput])
  have hok : ((sink "out").write ⟨".//..././a.ts", "new"⟩ olderOutput).outcome = .ok () := by
    have hisOk : ((sink "out").write ⟨".//..././a.ts", "new"⟩ olderOutput).outcome.isOk = true := by
      decide +kernel
    cases houtcome : ((sink "out").write ⟨".//..././a.ts", "new"⟩ olderOutput).outcome with
    | ok done => rfl
    | error fault =>
      rw [houtcome] at hisOk
      cases hisOk
  obtain ⟨-, -, hrefused, -, -⟩ := write_inside_exactly "out" ⟨".../../a.ts", "new"⟩ olderOutput
  obtain ⟨-, -, -, hnames, hwritten⟩ :=
    write_inside_exactly "out" ⟨".//..././a.ts", "new"⟩ olderOutput
  have hinside := hwritten hlinkless hok
  have htop : Path.location olderOutput.here "out" = ["out"] := hbase
  have hfile := hinside.file
  have hkept := hinside.files ["keep"]
  rw [htop, hnormal] at hfile hkept
  refine ⟨hrefused (by decide +kernel), ?_, hfile, ?_⟩
  · rw [hnames (by decide +kernel), hnormal]
  · rw [hkept (by decide)]
    rfl

end DirectoryManifest

end EntityForge
