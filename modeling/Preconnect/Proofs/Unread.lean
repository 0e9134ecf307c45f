import Preconnect.Proofs.Retelling

/-!
Nobody reads the log. Whatever stood in it before, a crew and a settlement do the same, and write
the same behind it.
-/
namespace Preconnect

namespace Log

variable {log : Log}

def after (log before : Log) : Log := ⟨before.happenings ++ log.happenings⟩

theorem toList_after (log before : Log) :
    (log.after before).toList = before.toList ++ log.toList := Array.toList_append

theorem empty_after (before : Log) : after {} before = before :=
  congrArg Log.mk Array.append_empty

theorem view_after {α : Type} (log before : Log) (find : Happening → Option α) :
    (log.after before).view find = before.view find ++ log.view find := by
  rw [view, toList_after, List.filterMap_append, view, view]

theorem add_after (log before : Log) (happening : Happening) :
    (log.after before).add happening = (log.add happening).after before :=
  congrArg Log.mk Array.push_append

theorem trace_after (log : Log) (observer : Observer) (before : Log) (record : Record) :
    observer.trace (log.after before) record = (observer.trace log record).after before := by
  unfold Observer.trace
  split
  · exact add_after log before _
  · rfl

theorem emit_after (log : Log) (observer : Observer) (before : Log) (notice : Notice) :
    observer.emit (log.after before) notice = (observer.emit log notice).after before := by
  unfold Observer.emit
  split
  · rw [trace_after]
    exact add_after _ before _
  · rfl

end Log

theorem Observer.retells_after (observer : Observer) (before : Log) :
    observer.Retells observer (·.after before) where
  panics _ := rfl
  add log happening _ := log.add_after before happening
  trace log record _ := log.trace_after observer before record
  emit log notice := log.emit_after observer before notice

open Observer (retells_after)

namespace Crew

variable {observer : Observer} {crew : Crew}

def after (crew : Crew) (before : Log) : Crew := { crew with log := crew.log.after before }

theorem ofCounts_after (target workers : Nat) (log : Log) :
    ofCounts target workers log = (ofCounts target workers {}).after log := by
  rw [after, ofCounts, ofCounts, Log.empty_after]

theorem run_after (observer : Observer) (crew : Crew) (before : Log) (actions : List Action) :
    (crew.after before).run observer actions = (crew.run observer actions).after before :=
  run_retold (observer.retells_after before) crew actions

theorem joined_after (observer : Observer) (crew : Crew) (before : Log) :
    (crew.after before).joined observer = (crew.joined observer).after before :=
  joined_retold (observer.retells_after before) crew

theorem dropped_after (crew : Crew) (before : Log) :
    (crew.after before).dropped = crew.dropped.after before :=
  dropped_retold (retells_after {} before) crew

theorem settle_after (request : Request) (observer : Observer) (crew : Crew) (before : Log)
    (pool : Pool) :
    (crew.after before).settle request observer pool =
      ((crew.settle request observer pool).1.after before,
        (crew.settle request observer pool).2) :=
  settle_retold (observer.retells_after before) request crew pool

end Crew

def Labor.after (labor : Labor) (before : Log) : Labor :=
  { labor with crew := labor.crew.after before }

theorem Crew.labor_after (observer : Observer) (plan : Plan) (crew : Crew) (before : Log)
    (steps : List Step) :
    (crew.after before).labor observer plan steps =
      (crew.labor observer plan steps).after before :=
  labor_retold (observer.retells_after before) crew steps

end Preconnect
