import FacetedSearch.Json.Access
import FacetedSearch.Settings.Basic
import FacetedSearch.Text.Case
import FacetedSearch.Text.Pieces

/-!
# Settings from the environment

Settings are read from variables.  A variable of the process wins over the file of the installation,
and that one over the local file.  A variable that is set nowhere has a default, which is read in the
same way.

* `Environment` — variables by name, the first value of a name being the one that counts.
* `Variable.integer`, `Variable.truth`, `Variable.items` — the readings of a variable.
* `Settings.ofEnvironment` — all settings.
-/

set_option autoImplicit false

namespace FacetedSearch

/-- Variables by name; the first value of a name counts. -/
abbrev Environment := List (String × String)

namespace Environment

/-- The variables of the process, then those of the file, then those of the local file. -/
def layered (process file localFile : Environment) : Environment := process ++ file ++ localFile

end Environment

namespace Variable

/-- An integer, in the digits of any script. -/
def integer (value : String) : Except Fault Int := (Json.str value).toInteger

/-- The words for true, in any case; every other text is false. -/
def truth (value : String) : Bool :=
  ["true", "1", "yes"].contains (String.ofList (value.toList.map Char.toLower))

/-- The items of a list that is written with commas. -/
def items (value : String) : List String := (Text.items value.toList).map String.ofList

end Variable

/-- Read all settings; a number that does not read as one is refused. -/
def Settings.ofEnvironment (environment : Environment) : Except Fault Settings := do
  let value := fun name default => (environment.lookup name).getD default
  let defaultSize ← Variable.integer (value "QUERYSMITH_DEFAULT_SIZE" "100")
  let fuzziness ← Variable.integer (value "QUERYSMITH_QUERY_FUZZINESS" "2")
  return {
    environment := value "QUERYSMITH_ENV" "dev"
    corsOrigins := Variable.items (value "QUERYSMITH_CORS_ORIGINS" "http://localhost:5173")
    logLevel := Text.upper (value "QUERYSMITH_LOG_LEVEL" "")
    defaultSize := defaultSize
    analyzer := .str (value "QUERYSMITH_QUERY_ANALYZER" "custom_analyzer_combo")
    fuzziness := .int fuzziness
    host := value "OPENSEARCH_HOST" "http://localhost:9200"
    verifyCertificates := Variable.truth (value "OPENSEARCH_VERIFY_SSL" "False")
    username := value "OPENSEARCH_USERNAME" ""
    password := value "OPENSEARCH_PASSWORD" "" }

end FacetedSearch
