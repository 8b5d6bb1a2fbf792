/-
From a configuration file to the files of its contracts.

* `Batch.descriptors`: the contracts of a batch as text, widget by widget.
* `PublishFault`: why it does not come to any writing.
* `publish`: loads a configuration, generates all contracts and writes their files.
* `publishUnder`: the same where the time for a fetch may be left to the settings.
-/
import WidgetContracts.Configuration
import WidgetContracts.Generate
import WidgetContracts.Output
import WidgetContracts.Settings.Basic

namespace WidgetContracts

/-- The contracts of a batch as text, widget by widget. -/
def Batch.descriptors (b : Batch) : List Descriptor :=
  Widget.all.flatMap fun w => (b w).map Contract.descriptor

/-- Why it does not come to any writing. -/
inductive PublishFault where
  | configuration (fault : ConfigFault)
  | components (fault : NoComponents)
  deriving DecidableEq, Repr

/-- Loads the configuration file at a path, whose bytes are given if there is one, generates all its
contracts, and writes their files to a folder. -/
def publish (source : Source) (path : String) (file : Option (List UInt8)) (folder : Path)
    (t : FileTree) : Traced (Except PublishFault Written) := do
  match ← Configuration.load path file with
  | .error fault => return .error (.configuration fault)
  | .ok es =>
    match ← generateAll source es with
    | .error fault => return .error (.components fault)
    | .ok batch => return .ok (writeContracts folder t batch.descriptors)

/-- Publishes with a limit of time for each fetch; if none is given, it is that of the settings. -/
def publishUnder (settings : Settings) (timeout : Option Float) (store : Store) (client : Client)
    (path : String) (file : Option (List UInt8)) (folder : Path) (t : FileTree) :
    Traced (Except PublishFault Written) :=
  publish (settings.source store client (timeout.map some)) path file folder t

end WidgetContracts
