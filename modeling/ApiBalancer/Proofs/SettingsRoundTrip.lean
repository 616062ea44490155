import ApiBalancer.Main
import ApiBalancer.Proofs.TomlDocuments

/-!
# Settings are read back

The document of some settings gives these settings again, whatever their texts hold
(`Settings.parse_toToml`). So the settings in force can be written out and be put into force by
giving what was written as the file with the settings (`CommandLine.shown_settings_in_force`).
-/

namespace ApiBalancer

open Toml

/-- A text under a bare key. -/
def textMember (key text : String) (bare : Bare key) : Member where
  key
  spelling := written text
  value := .string text
  bare
  spells := spells_written text

/-- A truth value under a bare key. -/
def boolMember (key : String) (b : Bool) (bare : Bare key) : Member where
  key
  spelling := writtenBool b
  value := .boolean b
  bare
  spells := spells_writtenBool b

namespace Settings

variable (s : Settings)

def imageMembers : List Member :=
  [textMember "repository" s.image.repository (by decide),
    textMember "name" s.image.name (by decide), textMember "tag" s.image.tag (by decide)]

def documentMembers : List Member :=
  [boolMember "enable_stats" s.document.enableStats (by decide),
    boolMember "ipv6" s.document.ipv6 (by decide)]

def engineMembers : List Member := [textMember "binary" s.engine.binary (by decide)]

/-- The tables of the settings, with the keys of each. -/
def tables : List (String × List (String × Value)) :=
  [("image", s.imageMembers.map fun m => (m.key, m.value)),
    ("render", s.documentMembers.map fun m => (m.key, m.value)),
    ("docker", s.engineMembers.map fun m => (m.key, m.value))]

def lines : List String :=
  tableLines "image" (s.imageMembers.map fun m => (m.key, m.spelling)) ++ [""] ++
    tableLines "render" (s.documentMembers.map fun m => (m.key, m.spelling)) ++ [""] ++
    tableLines "docker" (s.engineMembers.map fun m => (m.key, m.spelling))

lemma toToml_eq : s.toToml = Text.unlines s.lines := rfl

lemma document_lines :
    Document s.lines (s.tables.flatMap fun t => tableStatements t.1 t.2) := by
  have hblank : Document [""] [] := document_nil.cons says_empty
  have himage := document_tableLines (by decide : Bare "image") s.imageMembers
  have hrender := document_tableLines (by decide : Bare "render") s.documentMembers
  have hdocker := document_tableLines (by decide : Bare "docker") s.engineMembers
  exact (((himage.append hblank).append hrender).append hblank).append hdocker

lemma toToml_notFirst : NotFirst '\uFEFF' s.toToml.toList := by
  have hfirst : ∃ rest, s.toToml.toList = '[' :: rest := by
    rw [toToml_eq, lines, tableLines]
    simp [Text.unlines_cons]
  obtain ⟨rest, hrest⟩ := hfirst
  rw [hrest]
  exact notFirst_cons (by decide) rest

lemma parse?_toToml :
    Toml.parse? s.toToml = some (.table (s.tables.map fun t => (t.1, .table t.2))) := by
  apply parse?_tables s.document_lines s.toToml_notFirst
  · change ["image", "render", "docker"].Nodup
    decide
  · intro t ht
    simp only [tables, List.mem_cons, List.not_mem_nil, or_false] at ht
    rcases ht with rfl | rfl | rfl <;>
      simp [imageMembers, documentMembers, engineMembers, textMember, boolMember]

/-- The document of some settings gives these settings. -/
theorem parse_toToml : parse s.toToml = .ok s := by
  have hread : ofToml? (.table (s.tables.map fun t => (t.1, .table t.2))) = some s := rfl
  rw [parse, parse?_toToml, Option.bind_some, hread]

end Settings

namespace CommandLine

variable {σ : Type}

lemma execute_config (host : Host σ) {read : String → Except OsError ByteArray}
    {config : Option String} {s : Settings} (hs : settingsOf read config = .ok s)
    (logFormat : LogFormat) (dryRun : Bool) (state : σ) :
    execute host read { config, logFormat, dryRun, command := .config } state =
      (state, some { status := 0, stdout := s.toToml }) := by
  rw [execute, hs]
  rfl

/-- A file with the document of some settings puts these settings into force. -/
lemma settingsOf_toToml {read : String → Except OsError ByteArray} {path : String} {s : Settings}
    (hread : read path = .ok s.toToml.toUTF8) : settingsOf read (some path) = .ok s := by
  have hdecode : String.fromUTF8? s.toToml.toUTF8 = some s.toToml := dif_pos s.toToml.isValidUTF8
  have hload : Settings.load read path = .ok s := by
    simp only [Settings.load, hread, hdecode, Settings.parse_toToml]
  rw [settingsOf, hload]

/-- Settings can be written and read again without a loss, and writing what was read gives the same
document. So the document that shows the settings in force, given as the file with the settings,
puts the same settings into force and is shown again. -/
theorem shown_settings_in_force (s : Settings) :
    Settings.parse s.toToml = .ok s ∧
    ∀ (host : Host σ) (read : String → Except OsError ByteArray) (config : Option String)
      (logFormat : LogFormat) (dryRun : Bool) (state : σ), settingsOf read config = .ok s →
      let shown := execute host read { config, logFormat, dryRun, command := .config } state
      shown = (state, some { status := 0, stdout := s.toToml }) ∧
      ∀ (read' : String → Except OsError ByteArray) (path : String),
        read' path = .ok s.toToml.toUTF8 →
        settingsOf read' (some path) = .ok s ∧
          execute host read' { config := some path, logFormat, dryRun, command := .config } state =
            shown := by
  refine ⟨s.parse_toToml, fun host read config logFormat dryRun state hs => ?_⟩
  have hshown := execute_config host hs logFormat dryRun state
  refine ⟨hshown, fun read' path hread => ?_⟩
  have hloaded := settingsOf_toToml hread
  exact ⟨hloaded, (execute_config host hloaded logFormat dryRun state).trans hshown.symm⟩

/-- Settings whose texts take each of the ways to write a string. -/
def knottySettings : Settings where
  image := { repository := "it's \"quoted\"", name := "say \"hi\"", tag := "C:\\'''" }
  document := { enableStats := false, ipv6 := true }
  engine := { binary := "\r\n\"\"\"\x7f" }

/-- A directory with one file. -/
def onlyFile (path : String) (content : ByteArray) (path' : String) : Except OsError ByteArray :=
  if path' = path then .ok content else .error .notFound

theorem knotty_settings_shown_again :
    let read := onlyFile "kindlb.toml" knottySettings.toToml.toUTF8
    let read' := onlyFile "shown.toml" knottySettings.toToml.toUTF8
    let shown : Report := { status := 0, stdout := knottySettings.toToml }
    settingsOf read (some "kindlb.toml") = .ok knottySettings ∧
      execute idleHost read ⟨some "kindlb.toml", .text, false, .config⟩ () = ((), some shown) ∧
      settingsOf read' (some "shown.toml") = .ok knottySettings ∧
      execute idleHost read' ⟨some "shown.toml", .text, false, .config⟩ () = ((), some shown) := by
  intro read read' shown
  have hs : settingsOf read (some "kindlb.toml") = .ok knottySettings :=
    settingsOf_toToml (if_pos rfl)
  obtain ⟨hshown, hagain⟩ := (shown_settings_in_force knottySettings).2 idleHost read
    (some "kindlb.toml") .text false () hs
  obtain ⟨hs', hshown'⟩ := hagain read' "shown.toml" (if_pos rfl)
  exact ⟨hs, hshown, hs', hshown'.trans hshown⟩

end CommandLine

end ApiBalancer
