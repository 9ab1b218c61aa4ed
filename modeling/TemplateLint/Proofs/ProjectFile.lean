import Mathlib
import TemplateLint.CommandLine.Response
import TemplateLint.Proofs.Utf8
/-!
# Project file — what comes of a file of settings

A file of settings is judged if it cannot be read, if it is text but no TOML, or
if it is TOML in which the settings stand in tables (`Project.IsJudged`). The
settings of such a file are loaded, or what is wrong with it is reported under a
path of the file and the program exits with one. Any other file breaks off the
program without a report (`Project.load?_reported`): one whose octets are no text,
one with something else in the place of a table, and one with a number of too many
digits.
-/

namespace TemplateLint

namespace Project

open CommandLine

/-- **The settings of a document stand in tables**, as far as there are any. -/
def HasTables (document : Table) : Prop :=
  ∃ tool settings, (document.get? "tool").getD (.table []) = .table tool ∧
    (Table.get? tool "herblint").getD (.table []) = .table settings

/-- **What is read of a file is judged.** -/
inductive IsJudged : Except FileError (List UInt8) → Prop
  /-- The file cannot be read. -/
  | unreadable (e : FileError) : IsJudged (.error e)
  /-- The file is text, but no TOML. -/
  | malformed {octets : List UInt8} {text : Text} : Text.decode octets = .ok text →
      Toml.read? text = .error .malformed → IsJudged (.ok octets)
  /-- The file is TOML, and its settings stand in tables. -/
  | document {octets : List UInt8} {text : Text} {document : Table} :
      Text.decode octets = .ok text → Toml.read? text = .ok document → HasTables document →
        IsJudged (.ok octets)

theorem not_isJudged_noText : ¬ IsJudged (.ok [0xff]) := by
  have hdecode : ¬ (Text.decode [0xff]).isOk := by
    decide +kernel
  intro h
  cases h with
  | malformed hok | document hok =>
    rw [hok] at hdecode
    exact hdecode rfl

theorem not_isJudged_noTable : ¬ IsJudged (.ok (Text.encode "tool = 5\n".toList)) := by
  have hdecode := Text.decode_encode "tool = 5\n".toList
  have hread : Toml.read? "tool = 5\n".toList = .ok [("tool", .int 5)] := by
    cbv
  intro h
  cases h with
  | malformed hok hmalformed =>
    cases hdecode.symm.trans hok
    cases hread.symm.trans hmalformed
  | document hok hdocument htables =>
    cases hdecode.symm.trans hok
    cases hread.symm.trans hdocument
    obtain ⟨tool, settings, htool, -⟩ := htables
    cases htool

/-- **An error is reported by every command** that loads what is given: under the path
the file was asked for by, or under its path from the root. -/
def IsReported (w : Workspace) (given : Option Path) (file : Path) (e : ProjectError) : Prop :=
  ∃ place, e.file? = some place ∧ (place = file ∨ place = file.resolve w.here) ∧
    ∀ general c words, (general.config.map fun f => Path.read f.toList) = given →
      command w general c words =
        { exit := 1, messages := ["Error: " ++ e.message, "  in: " ++ place.toString] }

/-- **An error breaks off every command** that loads what is given, without a report and
without a path. -/
def BreaksOff (w : Workspace) (given : Option Path) (e : ProjectError) : Prop :=
  e.file? = none ∧
    ∀ general c words, (general.config.map fun f => Path.read f.toList) = given →
      command w general c words = { exit := 1, failure := some (.project e) }

variable {w : Workspace} {given : Option Path} {file place : Path} {document : Table}
  {e : ProjectError}

/-! ## Errors of loading -/

theorem command_of_error {general : General} {c : Command} {words : List String}
    (hload : load? w.root w.here given = .error e)
    (hgiven : (general.config.map fun f => Path.read f.toList) = given) :
    command w general c words = .ofProjectError e := by
  rw [command, hgiven, hload]

theorem isReported_of_file? (hload : load? w.root w.here given = .error e)
    (h : e.file? = some place) (hplace : place = file ∨ place = file.resolve w.here) :
    IsReported w given file e := by
  refine ⟨place, h, hplace, fun general c words hgiven => ?_⟩
  rw [command_of_error hload hgiven]
  cases e with
  | unreadable | notToml | invalid =>
    cases h
    rfl
  | undecodable | oversized | nullPath | noTable => cases h

/-! ## Tables on the way to the settings -/

/-- What stands on the way is a table, or nothing can be loaded. -/
theorem tableUnder?_eq (t : Table) (key : String) :
    (∃ inner, (t.get? key).getD (.table []) = .table inner ∧ tableUnder? t key = .ok inner) ∨
      (∀ inner, (t.get? key).getD (.table []) ≠ .table inner) ∧
        tableUnder? t key = .error .noTable := by
  unfold tableUnder?
  rcases t.get? key with _ | v
  · exact .inl ⟨[], rfl, rfl⟩
  · cases v with
    | table inner => exact .inl ⟨inner, rfl, rfl⟩
    | _ => exact .inr ⟨nofun, rfl⟩

theorem ofDocument?_of_hasTables (h : HasTables document) (file : Path) :
    ∃ settings, ofDocument? document file = ofTable? settings (some file) := by
  obtain ⟨tool, settings, htool, hsettings⟩ := h
  refine ⟨settings, ?_⟩
  rcases tableUnder?_eq document "tool" with ⟨_, htool', hok⟩ | ⟨hnone, -⟩
  · cases htool.symm.trans htool'
    rcases tableUnder?_eq tool "herblint" with ⟨_, hsettings', hok'⟩ | ⟨hnone, -⟩
    · cases hsettings.symm.trans hsettings'
      simp only [ofDocument?, hok, hok', bind, Except.bind]
    · exact absurd hsettings (hnone settings)
  · exact absurd htool (hnone tool)

theorem ofDocument?_of_not_hasTables (h : ¬ HasTables document) (file : Path) :
    ofDocument? document file = .error .noTable := by
  rcases tableUnder?_eq document "tool" with ⟨tool, htool, hok⟩ | ⟨-, herror⟩
  · rcases tableUnder?_eq tool "herblint" with ⟨settings, hsettings, -⟩ | ⟨-, herror⟩
    · exact absurd ⟨tool, settings, htool, hsettings⟩ h
    · simp only [ofDocument?, hok, herror, bind, Except.bind]
  · simp only [ofDocument?, herror, bind, Except.bind]

/-! ## A workspace with one file -/

/-- A workspace with nothing but a file of settings, where one stands. -/
def workspaceOf (octets : List UInt8) : Workspace where
  root := .directory [(fileName, .file octets)]
  here := ⟨.root, []⟩
  modules := []
  imports _ := .done []
  home := ""

theorem find?_workspaceOf (octets : List UInt8) :
    find? (workspaceOf octets).root (workspaceOf octets).here = some ⟨.root, [fileName]⟩ :=
  rfl

theorem octets?_workspaceOf (octets : List UInt8) :
    (workspaceOf octets).root.octets? ((workspaceOf octets).here.append ⟨.root, [fileName]⟩) =
      .ok octets :=
  rfl

/-! ## Loading a file -/

/-- **A file that is judged** is loaded, or what is wrong with it is reported. -/
theorem load?_of_isJudged (hload : load? w.root w.here given = ofFile? w.root w.here file)
    (hnull : file.hasNull = false) (h : IsJudged (w.root.octets? (w.here.append file))) :
    (∃ settings, load? w.root w.here given = .ok ⟨settings, some (file.resolve w.here)⟩) ∨
      ∃ e, load? w.root w.here given = .error e ∧ IsReported w given file e := by
  rw [ofFile?, hnull, if_neg Bool.false_ne_true] at hload
  generalize w.root.octets? (w.here.append file) = reading at h hload
  cases h with
  | unreadable e => exact .inr ⟨_, hload, isReported_of_file? hload rfl (.inl rfl)⟩
  | malformed hdecode hread =>
    simp only [hdecode, hread] at hload
    exact .inr ⟨_, hload, isReported_of_file? hload rfl (.inl rfl)⟩
  | document hdecode hread htables =>
    obtain ⟨settings, hsettings⟩ := ofDocument?_of_hasTables htables (file.resolve w.here)
    simp only [hdecode, hread, hsettings, ofTable?] at hload
    split at hload
    · exact .inl ⟨_, hload⟩
    · exact .inr ⟨_, hload, isReported_of_file? hload rfl (.inr rfl)⟩

/-- **A file that is not judged** breaks off the program. -/
theorem load?_of_not_isJudged (hload : load? w.root w.here given = ofFile? w.root w.here file)
    (hnull : file.hasNull = false) (h : ¬ IsJudged (w.root.octets? (w.here.append file))) :
    ∃ e, load? w.root w.here given = .error e ∧ BreaksOff w given e := by
  rw [ofFile?, hnull, if_neg Bool.false_ne_true] at hload
  generalize w.root.octets? (w.here.append file) = reading at h hload
  rcases reading with e | octets
  · exact absurd (.unreadable e) h
  · cases hdecode : Text.decode octets with
    | error e =>
      simp only [hdecode] at hload
      exact ⟨_, hload, rfl, fun _ _ _ => command_of_error hload⟩
    | ok text =>
      simp only [hdecode] at hload
      cases hread : Toml.read? text with
      | error e =>
        cases e with
        | malformed => exact absurd (.malformed hdecode hread) h
        | oversized digits =>
          simp only [hread] at hload
          exact ⟨_, hload, rfl, fun _ _ _ => command_of_error hload⟩
      | ok document =>
        have htables : ¬ HasTables document := fun htables => h (.document hdecode hread htables)
        simp only [hread, ofDocument?_of_not_hasTables htables] at hload
        exact ⟨_, hload, rfl, fun _ _ _ => command_of_error hload⟩

/-- **What comes of a file of settings**, whether it is given or found. If it is judged
it is loaded, or what is wrong with it is reported; if it is not, every command breaks
off. -/
theorem load?_reported (hfile : (given <|> find? w.root w.here) = some file)
    (hnull : file.hasNull = false) :
    (IsJudged (w.root.octets? (w.here.append file)) ∧
        ((∃ settings, load? w.root w.here given = .ok ⟨settings, some (file.resolve w.here)⟩) ∨
          ∃ e, load? w.root w.here given = .error e ∧ IsReported w given file e)) ∨
      (¬ IsJudged (w.root.octets? (w.here.append file)) ∧
        ∃ e, load? w.root w.here given = .error e ∧ BreaksOff w given e) := by
  have hload : load? w.root w.here given = ofFile? w.root w.here file := by
    rw [load?, hfile]
  by_cases hjudged : IsJudged (w.root.octets? (w.here.append file))
  · exact .inl ⟨hjudged, load?_of_isJudged hload hnull hjudged⟩
  · exact .inr ⟨hjudged, load?_of_not_isJudged hload hnull hjudged⟩

/-- A file with a number of jobs that is none is found, and reported. -/
theorem load?_reported_noJobs :
    let w := workspaceOf (Text.encode "[tool.herblint]\njobs = 0\n".toList)
    find? w.root w.here = some ⟨.root, [fileName]⟩ ∧
      ∃ e, load? w.root w.here none = .error e ∧ IsReported w none ⟨.root, [fileName]⟩ e := by
  intro w
  have hjudged : IsJudged (w.root.octets? (w.here.append ⟨.root, [fileName]⟩)) := by
    have hread : Toml.read? "[tool.herblint]\njobs = 0\n".toList =
        .ok [("tool", .table [("herblint", .table [("jobs", .int 0)])])] := by
      cbv
    rw [octets?_workspaceOf]
    exact .document (Text.decode_encode _) hread ⟨_, _, rfl, rfl⟩
  have hfails : ¬ (load? w.root w.here none).isOk := by
    decide +kernel
  refine ⟨find?_workspaceOf _, ?_⟩
  have hfile : (none <|> find? w.root w.here) = some ⟨.root, [fileName]⟩ := find?_workspaceOf _
  rcases load?_reported hfile (by decide) with ⟨-, ⟨settings, hok⟩ | herror⟩ | ⟨hnot, -⟩
  · rw [hok] at hfails
    exact absurd rfl hfails
  · exact herror
  · exact absurd hjudged hnot

theorem load?_workspaceOf {octets : List UInt8} (h : ¬ IsJudged (.ok octets))
    (hgiven : given = some ⟨.root, [fileName]⟩ ∨ given = none) :
    ∃ e, load? (workspaceOf octets).root (workspaceOf octets).here given = .error e ∧
      BreaksOff (workspaceOf octets) given e := by
  have hload : load? (workspaceOf octets).root (workspaceOf octets).here given =
      ofFile? (workspaceOf octets).root (workspaceOf octets).here ⟨.root, [fileName]⟩ := by
    rcases hgiven with rfl | rfl
    · rfl
    · rfl
  rw [← octets?_workspaceOf] at h
  exact load?_of_not_isJudged hload (by decide) h

/-- **Not every file that is wrong is reported.** Octets that are no text break off
every command, and so does a number in the place of a table, whether the file is given
or found. -/
theorem load?_unreported :
    let noText := workspaceOf [0xff]
    let noTable := workspaceOf (Text.encode "tool = 5\n".toList)
    let file : Path := ⟨.root, [fileName]⟩
    (∃ e, load? noText.root noText.here (some file) = .error e ∧ BreaksOff noText (some file) e) ∧
      (∃ e, load? noText.root noText.here none = .error e ∧ BreaksOff noText none e) ∧
      (∃ e, load? noTable.root noTable.here (some file) = .error e ∧
        BreaksOff noTable (some file) e) ∧
      ∃ e, load? noTable.root noTable.here none = .error e ∧ BreaksOff noTable none e :=
  ⟨load?_workspaceOf not_isJudged_noText (.inl rfl),
    load?_workspaceOf not_isJudged_noText (.inr rfl),
    load?_workspaceOf not_isJudged_noTable (.inl rfl),
    load?_workspaceOf not_isJudged_noTable (.inr rfl)⟩

end Project

end TemplateLint
