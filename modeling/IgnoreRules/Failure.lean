import IgnoreRules.FileSystem.Basic
import IgnoreRules.Template.Config
import IgnoreRules.Template.Listing

/-!
# Failures

What an operation can end with instead of a result.  Whatever was changed before stays changed.
-/

namespace IgnoreRules

/-- Why there are no templates. -/
inductive TemplateError
  | download (reason : String)
  | listing (cause : ListingFault)
  deriving DecidableEq, Repr

/-- The wording of missing templates. -/
def TemplateError.message : TemplateError → String
  | download reason => s!"Download failed: {reason}"
  | listing cause => s!"Unable to parse gitignore templates: {cause.message}"

/-- Why a project cannot be used. -/
inductive ProjectError
  /-- There is no such directory. -/
  | noDirectory (directory : Text)
  /-- An ignore file exists but was not read in full. -/
  | incompleteFile (path : Path) (reason : String)
  deriving DecidableEq, Repr

/-- The wording of an unusable project. -/
def ProjectError.message : ProjectError → String
  | noDirectory directory => s!"Directory {String.ofList directory} Cannot be found!"
  | incompleteFile path reason => s!"Cannot load {path.shown}: {reason}"

/-- Why an operation ended without a result. -/
inductive Failure
  /-- A path could not even be looked up. -/
  | file (cause : FileError)
  /-- The file that keeps the templates is not UTF-8. -/
  | undecodableCache
  /-- A listing is nested too deep to be read. -/
  | tooDeep
  | template (cause : TemplateError)
  /-- The client ended in an error of another kind. -/
  | foreign (cause : ForeignError)
  | config (cause : ConfigError)
  | project (cause : ProjectError)
  /-- A template brought something else than a text. -/
  | notText (cause : Json.NotText)
  | level (cause : Log.LevelError)

/-- What it means for whoever wants templates that nothing was downloaded. -/
def Failure.ofFetch : FetchError → Failure
  | .download reason => template (.download reason)
  | .foreign cause => foreign cause

/-- What it means for whoever wants templates that a document is no listing. -/
def Failure.ofListing : ListingError → Failure
  | .fault cause => template (.listing cause)
  | .tooDeep => tooDeep

/-- The wording of a failure. -/
def Failure.message : Failure → String
  | file cause => cause.message
  | undecodableCache => "the template cache is not UTF-8"
  | tooDeep => "maximum recursion depth exceeded while decoding a JSON document"
  | template cause => cause.message
  | foreign cause => cause.message
  | config cause => cause.message
  | project cause => cause.message
  | notText cause => cause.message
  | level cause => cause.message

end IgnoreRules
