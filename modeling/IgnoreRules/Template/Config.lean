import IgnoreRules.Number.Decimal
import IgnoreRules.Number.Shortest
import IgnoreRules.Text.Quoted
import IgnoreRules.World

/-!
# Where templates come from

The address that templates are downloaded from, the file that keeps the download, and how long a
download may take.  Environment variables replace the usual values.
-/

namespace IgnoreRules

/-- Why a configuration is refused. -/
inductive ConfigError
  /-- The time limit is not positive. -/
  | timeoutNotPositive (timeout : Float)
  /-- The time limit is not a number. -/
  | timeoutNotNumber (text : Text)

/-- The wording of a refusal. -/
def ConfigError.message : ConfigError → String
  | timeoutNotPositive timeout =>
      s!"timeout must be positive, got {String.ofList (Shortest.text timeout)}"
  | timeoutNotNumber text => s!"could not convert string to float: {Text.quoted text}"

/-- Where templates come from and where they are kept. -/
structure TemplateConfig where
  url : Text
  cacheDir : Path
  cacheName : Text
  timeout : Float

namespace TemplateConfig

/-- The usual address. -/
def standardUrl : Text :=
  "https://www.toptal.com/developers/gitignore/api/list?format=json".toList

/-- The usual name of the file that keeps a download. -/
def standardCacheName : Text :=
  "git-ignores.json".toList

/-- The usual time limit in seconds. -/
def standardTimeout : Float := 30.0

/-- A configuration, unless its time limit is zero or negative. -/
def make (url : Text) (cacheDir : Path) (cacheName : Text) (timeout : Float) :
    Except ConfigError TemplateConfig :=
  if timeout <= 0.0 then .error (.timeoutNotPositive timeout)
  else .ok ⟨url, cacheDir, cacheName, timeout⟩

/-- The configuration with nothing but usual values. -/
def standard (env : Environment) : TemplateConfig :=
  ⟨standardUrl, env.tempDir, standardCacheName, standardTimeout⟩

/-- The time limit that the environment asks for. -/
def timeoutOf (env : Environment) : Except ConfigError Float :=
  match env.get? "PROJIGNORE_HTTP_TIMEOUT" with
  | none => .ok standardTimeout
  | some text =>
      match Decimal.parse? text with
      | none => .error (.timeoutNotNumber text)
      | some d => .ok d.toFloat

/-- The configuration that the environment asks for. -/
def ofEnvironment (env : Environment) : Except ConfigError TemplateConfig :=
  let url := (env.get? "PROJIGNORE_TEMPLATE_URL").getD standardUrl
  let cacheDir :=
    match env.get? "PROJIGNORE_CACHE_DIR" with
    | none => env.tempDir
    | some dir => Path.parse dir
  match timeoutOf env with
  | .error e => .error e
  | .ok timeout => make url cacheDir standardCacheName timeout

/-- The file that keeps a download. -/
def cachePath (c : TemplateConfig) : Path :=
  c.cacheDir.append (Path.parse c.cacheName)

end TemplateConfig

end IgnoreRules
