import Scriptwright.Files.Disk
import Scriptwright.Log
import Scriptwright.Settings.Basic
import Scriptwright.Text.Blank
import Scriptwright.Text.Utf8
import Scriptwright.Yaml.Reader
/-!
# Settings from a file

A settings file is a YAML mapping.  Its entries are taken in order: an entry that names no setting is passed over with a
warning, one whose value does not fit its setting ends the loading.  So does an entry with something to report that
cannot be shown.  An empty document leaves the defaults.
-/
namespace Scriptwright
namespace Settings

/-- The settings by name. -/
inductive Key where
  | appName
  | sessionName
  | frameName
  | csvHeader
  | unsupportedCommands
  deriving DecidableEq, Repr

namespace Key

def all : List Key := [.appName, .sessionName, .frameName, .csvHeader, .unsupportedCommands]

def name : Key → Text
  | .appName => "spark_app_name".toList
  | .sessionName => "session_name".toList
  | .frameName => "dataframe_name".toList
  | .csvHeader => "csv_header".toList
  | .unsupportedCommands => "unsupported_commands".toList

/-- The setting that a key of a document names. -/
def ofValue? (v : Value) : Option Key := all.find? fun k => v.isText k.name

/-- What a value of the setting has to be. -/
def expected : Key → Text
  | .csvHeader => "true or false".toList
  | .unsupportedCommands => "a command name or a list of command names".toList
  | _ => "a non-empty string".toList

end Key

/-! ## Values -/

/-- A text that is not blank. -/
def name? : Value → Option Text
  | .text t => if Text.allBlank t then none else some t
  | _ => none

def flag? : Value → Option Bool
  | .bool b => some b
  | _ => none

/-- Command names without the blanks around them; those that are blank are left out. -/
def commands? : Value → Option (List Text)
  | .null => some []
  | .text t => some (([t].map Text.trim).filter (!·.isEmpty))
  | .list items => (items.mapM Value.asText?).map fun ts => (ts.map Text.trim).filter (!·.isEmpty)
  | _ => none

/-- The settings with `v` for `k`, if it fits. -/
def set? (s : Settings) (k : Key) (v : Value) : Option Settings :=
  match k with
  | .appName => (name? v).map fun t => { s with appName := t }
  | .sessionName => (name? v).map fun t => { s with sessionName := t }
  | .frameName => (name? v).map fun t => { s with frameName := t }
  | .csvHeader => (flag? v).map fun b => { s with csvHeader := b }
  | .unsupportedCommands => (commands? v).map fun cs => { s with unsupportedCommands := cs }

/-! ## Entries -/

/-- A value that does not fit its setting. -/
structure Misfit where
  key : Key
  value : Value

/-- What ends the loading at an entry. -/
inductive Obstacle where
  | misfit (m : Misfit)
  /-- The key that is passed over, or the value that does not fit, cannot be shown. -/
  | unshown

/-- The keys that were passed over, and the settings or what ended the loading. -/
structure Reading where
  ignored : List Value
  outcome : Except Obstacle Settings

/-- The entries taken in order. -/
def readEntries (s : Settings) : List (Value × Value) → Reading
  | [] => ⟨[], .ok s⟩
  | (k, v) :: rest =>
    match Key.ofValue? k with
    | none =>
      if k.isShowable then
        let r := readEntries s rest
        ⟨k :: r.ignored, r.outcome⟩
      else ⟨[], .error .unshown⟩
    | some key =>
      match s.set? key v with
      | none => ⟨[], .error (if v.isShowable then .misfit ⟨key, v⟩ else .unshown)⟩
      | some s' => readEntries s' rest

/-! ## Files -/

/-- Why settings cannot be loaded. -/
inductive LoadFailure where
  | unreadable (e : FileError)
  | malformed
  | notMapping (file : Path)
  | misfit (m : Misfit)
  /-- A number in what is to be reported has too many digits. -/
  | unshown
  /-- The bytes are not a text. -/
  | undecodable (f : Utf8.Fault)
  /-- A scalar has the form of a number or a date and is none. -/
  | badScalar (e : Yaml.BadScalar)

/-- The text of what is malformed is left open. -/
def LoadFailure.message : LoadFailure → Text
  | .unreadable e => "Failed to load settings: ".toList ++ e.message
  | .malformed => "Failed to load settings: <yaml>".toList
  | .notMapping file => "Failed to load settings: ".toList ++ file.toText ++ " is not a mapping".toList
  | .misfit m =>
    "Failed to load settings: '".toList ++ m.key.name ++ "' must be ".toList ++ m.key.expected ++ ", got ".toList ++
      m.value.quote
  | .unshown => Value.digitsMessage Value.maxDigits
  | .undecodable f => f.message
  | .badScalar e => e.message

/-- Loading is over, and the program goes on to say why: a refusal.  The other failures stop the program. -/
def LoadFailure.isRefusal : LoadFailure → Bool
  | .unshown | .undecodable _ | .badScalar _ => false
  | _ => true

def note (level : Log.Level) (message : Text) : Log.Entry := ⟨level, .settings, message⟩

def ignoredNote (file : Path) (key : Value) : Log.Entry :=
  note .warning ("Ignoring unknown setting '".toList ++ key.plainKey ++ "' in ".toList ++ file.toText)

def unloadableNote (file : Path) : Log.Entry :=
  note .error ("Unable to load settings from ".toList ++ file.toText)

def misfitNote (file : Path) (m : Misfit) : Log.Entry :=
  note .error
    ("Invalid value for '".toList ++ m.key.name ++ "' in ".toList ++ file.toText ++ ": ".toList ++ m.value.quote)

/-- The settings of a document. -/
def ofValue (file : Path) : Value → Log × Except LoadFailure Settings
  | .null => ([], .ok {})
  | .map entries =>
    let r := readEntries {} entries
    let passed := r.ignored.map (ignoredNote file)
    match r.outcome with
    | .ok s => (passed, .ok s)
    | .error (.misfit m) => (passed ++ [misfitNote file m], .error (.misfit m))
    | .error .unshown => (passed, .error .unshown)
  | _ => ([], .error (.notMapping file))

/-- The settings of the bytes of a file. -/
def ofBytes (file : Path) (bytes : List UInt8) : Log × Except LoadFailure Settings :=
  match Utf8.readText bytes with
  | .error f => ([], .error (.undecodable f))
  | .ok t =>
    match Yaml.load t with
    | .error .malformed => ([unloadableNote file], .error .malformed)
    | .error (.badScalar e) => ([], .error (.badScalar e))
    | .ok v => ofValue file v

/-- The settings of a file that is named as `file` and stands at `l`. -/
def load (d : Disk) (l : Location) (file : Path) : Log × Except LoadFailure Settings :=
  match d.read l with
  | .error e => ([unloadableNote file], .error (.unreadable { e with path := file }))
  | .ok bytes => ofBytes file bytes

end Settings
end Scriptwright
