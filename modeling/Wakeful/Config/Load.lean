import Wakeful.Config.Schema
import Wakeful.System.Errno
import Wakeful.System.Report
import Wakeful.Text.Utf8
import Wakeful.Toml.Document

/-!
Loading a configuration: a file that is not there gives the
defaults, and any other failure is reported.
-/

namespace Wakeful

/-- Why a configuration could not be loaded. -/
inductive LoadError where
  /-- The file could not be read. -/
  | unreadable (reason : IoError)
  /-- The file is no document. -/
  | malformed
  /-- The document does not fit. -/
  | misfit (reason : Misfit)

/-- The report of a configuration that could not be loaded from a path. -/
def LoadError.report (path : Octets) : LoadError → Report
  -- What is wrong inside a document is not part of the report's first line.
  | unreadable reason =>
    (Report.ofText reason.message).within ("Could not read config at " ++ Utf8.lossy path)
  | malformed => Report.ofText ("Could not parse config at " ++ Utf8.lossy path)
  | misfit _ => Report.ofText ("Could not parse config at " ++ Utf8.lossy path)

namespace Config

/-- The configuration that a document spells. -/
def ofDocument (document : String) : Except LoadError Config :=
  -- Only a well-formed document is held against the known keys.
  match Toml.parse document with
  | none => .error .malformed
  | some entries => (Schema.config.ofEntries entries).mapError .misfit

/-- The configuration that comes out of the attempt to read its file. -/
def ofReading : Except IoError Octets → Except LoadError Config
  -- Only a name that does not exist counts as a missing file.
  | .error (.refused .notFound) => .ok .default
  | .error reason => .error (.unreadable reason)
  | .ok contents =>
    match Octets.text? contents with
    | none => .error (.unreadable .notText)
    | some document => ofDocument document

end Config

end Wakeful
