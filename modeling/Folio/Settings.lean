/-
# Settings

`PagingSettings` holds what a deployment decides about paging: two sizes and
the default specs, comma separated with blanks around them. `ProjectSettings`
holds the name under which the project logs, and whether debugging is on.

Key definitions: `PagingSettings`, `PagingSettings.load`,
`PagingSettings.specs`, `ProjectSettings`, `ProjectSettings.load`,
`Draft.ofSettings`.
-/
import Folio.Pager.Draft
import Folio.Settings.Sources
import Folio.Text.Separated

namespace Folio

/-- The settings of paging. A size of zero stands for the usual one. -/
structure PagingSettings where
  defaultSize : Int := 10
  maxSize : Int := 50
  defaultSort : String := ""
  deriving DecidableEq, Repr

namespace PagingSettings

/-- A size: a whole number that is not negative. -/
def readSize (v : Value) : Checked Int :=
  match v.readInt with
  | .ok n => if 0 ≤ n then .ok n else Checked.refuse .negativeSize
  | .error issues => .error issues

/-- The settings that some sources give. -/
def load (sources : Sources) : Except Rejection PagingSettings :=
  Checked.titled "PaginationSettings"
    (((sources.read "PAGINATION_DEFAULT_SIZE" 10 readSize).zip
      ((sources.read "PAGINATION_MAX_SIZE" 50 readSize).zip
        (sources.read "PAGINATION_DEFAULT_SORT" "" Value.readText))).map fun r =>
          PagingSettings.mk r.1 r.2.1 r.2.2)

/-- The specs in a comma separated text: its parts without the blanks around
them, those that are empty left out. -/
def specsIn (s : List Char) : List (List Char) :=
  ((Text.parts ',' s).map (Text.trimmed Text.isBlank)).filter (· ≠ [])

/-- The default specs. -/
def specs (s : PagingSettings) : List String :=
  (specsIn s.defaultSort.toList).map String.ofList

end PagingSettings

/-- A draft that starts from the settings. -/
def Draft.ofSettings (s : PagingSettings) : Draft :=
  (((Draft.mk {}).setDefaultSize (.value (.int s.defaultSize))).setMaxSize
    (.value (.int s.maxSize))).setSpecs (s.specs.map .text)

/-- The settings of the whole project. -/
structure ProjectSettings where
  name : String := "pagekit"
  debug : Bool := false
  deriving DecidableEq, Repr

/-- The settings that some sources give. -/
def ProjectSettings.load (sources : Sources) : Except Rejection ProjectSettings :=
  Checked.titled "Settings"
    (((sources.read "PROJECT_NAME" "pagekit" Value.readText).zip
      (sources.read "DEBUG" false Value.readBool)).map fun r => ProjectSettings.mk r.1 r.2)

end Folio
