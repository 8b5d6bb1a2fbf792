/-
Settings of a run, from the environment and a file of variables.

* `Settings`: the settings, with their defaults in `Settings.default`.
* `SettingsFault`: the one setting that is a number may be no number.
* `readNumber?`: blanks around a number are passed over, and single underscores between its digits.
* `Settings.read`: names count in any case of letters, and the environment before the file.
* `Settings.client`: how the store is asked under the settings.
* `Settings.source`: a store that is asked with a limit of time, which the settings may give.
-/
import WidgetContracts.Decimal.Reader
import WidgetContracts.Settings.EnvFile
import WidgetContracts.Store
import WidgetContracts.Text.Casing

namespace WidgetContracts

/-- The settings of a run. -/
structure Settings where
  appName : String
  dataApiBase : String
  dataApiKey : Option String
  siteId : Option String
  configPath : String
  contractsDir : String
  fetchTimeout : Float

/-- The settings when nothing is set. -/
def Settings.default : Settings :=
  { appName := "collection-contracts"
    dataApiBase := "https://www.wixapis.com"
    dataApiKey := none
    siteId := none
    configPath := "collections.config.yaml"
    contractsDir := "contracts"
    fetchTimeout := Float.ofBits 0x4024000000000000 }

/-- What is wrong with settings, or with the use made of them. -/
inductive SettingsFault where
  | timeoutNoNumber
  | noApiKey
  deriving DecidableEq, Repr

/-- The wording of a fault. -/
def SettingsFault.message : SettingsFault → String
  | timeoutNoNumber =>
    "fetch_timeout_seconds: Input should be a valid number, unable to parse string as a number"
  | noApiKey => "data_api_key is not configured"

namespace Settings

/-- Whether a blank may stand around a number: the blanks of Unicode, without the control characters
that separate. -/
def isMargin (c : Char) : Bool := Text.isBlank c && !(0x1c ≤ c.toNat && c.toNat ≤ 0x1f)

/-- The number that a text writes. -/
def readNumber? (cs : List Char) : Option Float :=
  match Decimal.float? (Text.dropEndWhile isMargin (cs.dropWhile isMargin)) with
  | some x => some x
  | none =>
    if cs.contains '_' && Decimal.hasInnerUnderscores cs then Decimal.float? (cs.filter (· != '_'))
    else none

/-- Names in small letters; of names that fall together the last one counts. -/
def smallNames (bs : List EnvFile.Binding) : List EnvFile.Binding :=
  bs.foldl (fun done (name, value) => EnvFile.bind (Text.lower name, value) done) []

/-- The settings under given variables of the environment and the text of a file of variables, if
there is one. -/
def read (environment : List (String × String)) (file : Option String) :
    Except SettingsFault Settings :=
  let outside : List EnvFile.Binding := environment.map fun (n, v) => (n.toList, some v.toList)
  let inside := (file.map fun t => EnvFile.values outside t.toList).getD []
  let find? (name : String) : Option String :=
    let key := name.toList
    (((smallNames outside).lookup key).join.or ((smallNames inside).lookup key).join).map
      String.ofList
  let d := Settings.default
  let timeout := match find? "fetch_timeout_seconds" with
    | none => some d.fetchTimeout
    | some s => readNumber? s.toList
  match timeout with
  | none => .error .timeoutNoNumber
  | some timeout => .ok
    { appName := (find? "app_name").getD d.appName
      dataApiBase := (find? "data_api_base").getD d.dataApiBase
      dataApiKey := find? "data_api_key"
      siteId := find? "site_id"
      configPath := (find? "collections_config_path").getD d.configPath
      contractsDir := (find? "contracts_dir").getD d.contractsDir
      fetchTimeout := timeout }

/-- How the store is asked under the settings; a key is needed. Address and time are those of the
defaults. -/
def client (s : Settings) : Except SettingsFault Client :=
  match given s.dataApiKey with
  | none => .error .noApiKey
  | some key => .ok ⟨key, s.siteId, Settings.default.dataApiBase, Settings.default.fetchTimeout⟩

/-- A store that is asked with a limit of time. Where nothing is said about it, it is that of the
settings; it may also be said that there is none. -/
def source (s : Settings) (store : Store) (client : Client) (timeout : Option (Option Float)) :
    Source :=
  ⟨store, client, timeout.getD (some s.fetchTimeout)⟩

end Settings

end WidgetContracts
