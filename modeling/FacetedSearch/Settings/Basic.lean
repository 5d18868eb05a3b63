import FacetedSearch.Json.Basic

/-!
# Settings

What an installation can change: where the engine is, how free text is searched for, how many
records a query returns when it does not say, and how much is logged.  The two settings of free text
are for the engine alone, which has more than one kind of value for each.

* `Settings` — the settings.
* `Settings.standard` — the settings of an installation that changes nothing.
-/

set_option autoImplicit false

namespace FacetedSearch

/-- The settings of an installation. -/
structure Settings where
  /-- the environment that the service runs in -/
  environment : String
  /-- the origins that browsers may call from -/
  corsOrigins : List String
  /-- the name of the least level that is logged; empty leaves it to the environment -/
  logLevel : String
  /-- the number of records returned when a query names none -/
  defaultSize : Int
  /-- the analyzer of free text, as the engine knows it -/
  analyzer : Json
  /-- how far a word may be from a match, as the engine measures it -/
  fuzziness : Json
  /-- the address of the engine -/
  host : String
  /-- whether the certificate of the engine is checked -/
  verifyCertificates : Bool
  /-- the user that the engine knows, if it knows one -/
  username : String
  /-- the password of that user -/
  password : String
  deriving DecidableEq, Repr

/-- The settings of an installation that changes nothing. -/
def Settings.standard : Settings :=
  { environment := "dev"
    corsOrigins := ["http://localhost:5173"]
    logLevel := ""
    defaultSize := 100
    analyzer := .str "custom_analyzer_combo"
    fuzziness := .int 2
    host := "http://localhost:9200"
    verifyCertificates := false
    username := ""
    password := "" }

end FacetedSearch
