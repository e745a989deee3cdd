import StringCalculator.Files
import StringCalculator.Record
import StringCalculator.Text.Quoted

/-!
# Settings

Where a configuration comes from. A settings file is a JSON record with one section for the
calculator, so that it may serve other programs too; a file without that section stands for the
default configuration. Whatever a file says, its empty delimiters are dropped.

The file is the one asked for, or else the one with the default name, if there is anything of that
name. A file that has been chosen has to be good: no other file and no default steps in for it.
-/

namespace StringCalculator

namespace Settings

/-- What is wrong with a settings file. -/
inductive Defect where
  /-- There is no text to read. -/
  | unreadable (cause : ReadError)
  /-- The text is not JSON, or does not describe a configuration. -/
  | malformed
deriving DecidableEq

end Settings

/-- A settings file with a defect. -/
structure SettingsError where
  /-- The path of the file, as it was given. -/
  path : String
  /-- What is wrong with it. -/
  defect : Settings.Defect
deriving DecidableEq

/-- What is said about a settings file with a defect. A malformed one is only named: what the reader
of its JSON has to say about it, behind one more colon, is left out. -/
def SettingsError.message (e : SettingsError) : String :=
  match e.defect with
  | .unreadable cause =>
    "failed to read settings file " ++ Quoted.quote e.path ++ ": " ++ cause.message
  | .malformed => "failed to parse settings file " ++ Quoted.quote e.path

/-- A configuration, and the file it comes from. -/
structure Settings where
  /-- The configuration. -/
  configuration : Configuration
  /-- The path of its file, as it was given, if it comes from one. -/
  path : Option String
deriving DecidableEq

namespace Settings

/-- The name of the section for the calculator. -/
def sectionName : String :=
  "CalculatorSettings"

/-- The name of the file that is looked for if none is asked for. -/
def defaultPath : String :=
  "appsettings.json"

/-- The configuration in the calculator's section of a JSON record. -/
def ofJson? (j : Json) : Option Configuration :=
  match j.fields? [sectionName] with
  | some [calculator] => Json.fieldOr {} Configuration.ofJson? calculator
  | _ => none

/-- The configuration that the text of a settings file describes. -/
def ofText? (text : String) : Option Configuration :=
  ((Json.ofText? text).bind ofJson?).map Configuration.withoutEmptyDelimiters

/-- The configuration that a settings file gives. -/
def ofContents (contents : Contents) : Except Defect Configuration :=
  match contents.text with
  | .error cause => .error (.unreadable cause)
  | .ok text =>
    match ofText? text with
    | some c => .ok c
    | none => .error .malformed

/-- The settings in the file at a path. -/
def load (files : Files) (path : String) : Except SettingsError Settings :=
  match ofContents (files.read path) with
  | .ok c => .ok ⟨c, some path⟩
  | .error d => .error ⟨path, d⟩

/-- The settings a program starts with: from the file asked for, or from the default one if it
exists, or else the default configuration. -/
def choose (files : Files) (asked : Option String) : Except SettingsError Settings :=
  match asked with
  | some path => load files path
  | none => if files.holds defaultPath then load files defaultPath else .ok ⟨{}, none⟩

end Settings

/-! ### Settings that change -/

/-- Takes over the configuration of a settings file, if it gives one. Otherwise everything stays as
it was. -/
def Configuration.refresh (c : Configuration) (contents : Contents) : Configuration :=
  match Settings.ofContents contents with
  | .ok new => new
  | .error _ => c

/-- Something that happens in the directory of a settings file. -/
inductive Change where
  /-- The settings file is written or replaced, and now reads like this. -/
  | settingsFile (contents : Contents)
  /-- Something happens to another file. -/
  | otherFile

/-- The configuration after a change. -/
def Configuration.afterChange (c : Configuration) : Change → Configuration
  | .settingsFile contents => c.refresh contents
  | .otherFile => c

/-- The configurations after each of a row of changes. -/
def Configuration.follow (c : Configuration) : List Change → List Configuration
  | [] => []
  | change :: changes => c.afterChange change :: (c.afterChange change).follow changes

end StringCalculator
