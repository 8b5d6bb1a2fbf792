/-
Writing contracts to files.

* `contractPath`: the file of a contract in a folder.
* `Written`: the paths written, the tree after that, and the fault that ended the writing early, if
  there was one.
* `writeContracts`: makes the folder, then writes one file for each contract in order; what was
  written before a fault stays.
-/
import WidgetContracts.Contract
import WidgetContracts.FileTree.Basic

namespace WidgetContracts

/-- The end of the name of a contract's file. -/
def contractSuffix : String := ".jay-contract"

/-- The file of a contract in a folder. -/
def contractPath (folder : Path) (d : Descriptor) : Path :=
  folder.join (.ofText (d.name ++ contractSuffix))

/-- The content of a contract's file. -/
def Descriptor.content (d : Descriptor) : String := d.render ++ "\n"

/-- What writing leaves. -/
structure Written where
  paths : List Path
  tree : FileTree
  fault : Option PathFault

/-- Writes the file of each contract, in order. -/
def writeEach (folder : Path) (t : FileTree) : List Descriptor → Written
  | [] => ⟨[], t, none⟩
  | d :: r =>
    let p := contractPath folder d
    match t.write p d.content with
    | .ok t' =>
      let w := writeEach folder t' r
      { w with paths := p :: w.paths }
    | .error fault => ⟨[], t, some fault⟩

/-- Makes the folder with all those above it, then writes the file of each contract, in order. -/
def writeContracts (folder : Path) (t : FileTree) (ds : List Descriptor) : Written :=
  match t.makeFolders folder with
  | (t', none) => writeEach folder t' ds
  | (t', some fault) => ⟨[], t', some fault⟩

end WidgetContracts
