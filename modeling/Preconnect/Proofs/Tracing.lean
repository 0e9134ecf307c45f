import Mathlib.Data.List.Infix
import Preconnect.Proofs.Echo

/-!
Tracing. In enough detail every event has a record, written right before the handler is called and
with the event's own values. The level decides how much of all that is traced is kept, and nothing
else.
-/
namespace Preconnect

namespace Happening

/-- Whether it is an event, or a record of the level that only events have. -/
def isNews : Happening → Bool
  | traced record => record.level = .debug
  | emitted _ => true
  | began .. | finished .. | abandoned .. | neverRun _ | called _ | dropped _ => false

/-- The happening with the record that an event should have, and without those that events have. -/
def mirrored : Happening → List Happening
  | traced record => if record.level = .debug then [] else [traced record]
  | emitted event => [traced event.record, emitted event]
  | deed => [deed]

theorem mirrored_of_deed {happening : Happening} (deed : happening.isTold = false) :
    happening.mirrored = [happening] := by
  cases happening with
  | traced | emitted => cases deed
  | began | finished | abandoned | neverRun | called | dropped => rfl

theorem filterMap_mirrored {α : Type} {find : Happening → Option α} (untraced : Untraced find)
    (happening : Happening) :
    happening.mirrored.filterMap find = (find happening).toList := by
  cases told : happening.isTold with
  | false =>
    rw [mirrored_of_deed told, List.filterMap_cons]
    cases find happening <;> rfl
  | true =>
    cases happening with
    | traced record =>
      by_cases level : record.level = .debug <;> simp [mirrored, level, untraced _]
    | emitted event =>
      rw [mirrored, List.filterMap_cons_none (untraced _), List.filterMap_cons]
      cases find (.emitted event) <;> rfl
    | began | finished | abandoned | neverRun | called | dropped => cases told

theorem filter_mirrored (happening : Happening) :
    happening.mirrored.filter isNews =
      happening.emitted?.toList.flatMap fun event => [.traced event.record, .emitted event] := by
  cases happening with
  | traced record => by_cases level : record.level = .debug <;> simp [mirrored, isNews, level]
  | emitted | began | finished | abandoned | neverRun | called | dropped => rfl

def isNoted (observer : Observer) : Happening → Bool
  | traced record => observer.collects record.level
  | emitted _ => observer.wantsEvents
  | began .. | finished .. | abandoned .. | neverRun _ | called _ | dropped _ => true

theorem isNoted_of_deed (observer : Observer) {happening : Happening}
    (deed : happening.isTold = false) : happening.isNoted observer = true := by
  cases happening with
  | traced | emitted => cases deed
  | began | finished | abandoned | neverRun | called | dropped => rfl

end Happening

namespace Log

abbrev records (log : Log) : List Record := log.view Happening.traced?

theorem eq_of_toList {log log' : Log} (same : log.toList = log'.toList) : log = log' :=
  congrArg Log.mk (Array.toList_inj.1 same)

def mirrored (log : Log) : Log := ⟨(log.toList.flatMap Happening.mirrored).toArray⟩

theorem toList_mirrored (log : Log) :
    log.mirrored.toList = log.toList.flatMap Happening.mirrored := rfl

theorem toList_mirrored_add (log : Log) (happening : Happening) :
    (log.add happening).mirrored.toList = log.mirrored.toList ++ happening.mirrored := by
  simp [toList_mirrored]

theorem view_mirrored {α : Type} {find : Happening → Option α} (untraced : Untraced find)
    (log : Log) : log.mirrored.view find = log.view find := by
  rw [view, toList_mirrored, List.filterMap_flatMap, view, List.filterMap_eq_flatMap_toList]
  exact List.flatMap_congr fun happening _ => happening.filterMap_mirrored untraced

theorem news_mirrored (log : Log) :
    log.mirrored.toList.filter Happening.isNews =
      log.events.flatMap fun event => [.traced event.record, .emitted event] := by
  rw [toList_mirrored, List.filter_flatMap, events, view, List.filterMap_eq_flatMap_toList,
    List.flatMap_assoc]
  exact List.flatMap_congr fun happening _ => happening.filter_mirrored

theorem records_eq_news (log : Log) :
    log.records.filter (·.level = .debug) =
      (log.toList.filter Happening.isNews).filterMap Happening.traced? := by
  rw [records, view, List.filter_filterMap, List.filterMap_filter]
  refine List.filterMap_congr fun happening _ => ?_
  cases happening with
  | traced record => by_cases level : record.level = .debug <;> simp [Happening.isNews, level]
  | emitted | began | finished | abandoned | neverRun | called | dropped => rfl

theorem records_of_mirrored {log : Log} (same : log.mirrored = log) :
    log.records.filter (·.level = .debug) = log.events.map Event.record := by
  have news := log.news_mirrored
  rw [same] at news
  rw [records_eq_news, news, List.filterMap_flatMap, List.map_eq_flatMap]
  rfl

def noted (observer : Observer) (log : Log) : Log :=
  ⟨log.happenings.filter (·.isNoted observer)⟩

theorem toList_noted (observer : Observer) (log : Log) :
    (log.noted observer).toList = log.toList.filter (·.isNoted observer) := Array.toList_filter

theorem noted_add (observer : Observer) (log : Log) (happening : Happening) :
    (log.add happening).noted observer =
      if happening.isNoted observer then (log.noted observer).add happening
      else log.noted observer := by
  apply eq_of_toList
  cases noted : happening.isNoted observer <;> simp [toList_noted, noted]

theorem view_noted {α : Type} {find : Happening → Option α} (observer : Observer)
    (silent : ∀ happening, happening.isNoted observer = false → find happening = none)
    (log : Log) : (log.noted observer).view find = log.view find := by
  rw [view, toList_noted, List.filterMap_filter]
  refine List.filterMap_congr fun happening _ => ?_
  cases noted : happening.isNoted observer with
  | true => rfl
  | false => exact (silent happening noted).symm

theorem events_noted_of_unwanted {observer : Observer} (unwanted : observer.wantsEvents = false)
    (log : Log) : (log.noted observer).events = [] := by
  rw [events, view, toList_noted, List.filterMap_filter, List.filterMap_eq_nil_iff]
  intro happening _
  cases happening with
  | emitted event => simp [Happening.isNoted, unwanted]
  | traced | began | finished | abandoned | neverRun | called | dropped => exact ite_self none

theorem records_noted (observer : Observer) (log : Log) :
    (log.noted observer).records =
      log.records.filter fun record => observer.collects record.level := by
  rw [records, view, toList_noted, List.filterMap_filter, records, view, List.filter_filterMap]
  refine List.filterMap_congr fun happening _ => ?_
  cases happening with
  | traced record =>
    cases collects : observer.collects record.level <;>
      simp [Happening.isNoted, Option.filter, collects]
  | emitted event => exact ite_self none
  | began | finished | abandoned | neverRun | called | dropped => rfl

end Log

namespace Observer

theorem wantsEvents_of_collects {observer : Observer} (debug : observer.collects .debug = true) :
    observer.wantsEvents = true := by
  rw [wantsEvents, debug, Bool.or_true]

theorem echoes_mirrored {observer : Observer} (debug : observer.collects .debug = true) :
    observer.Echoes observer Log.mirrored where
  panics _ := rfl
  add log happening deed := by
    apply Log.eq_of_toList
    rw [Log.toList_mirrored_add, Happening.mirrored_of_deed deed, Log.toList_add]
  trace log record level := by
    unfold trace
    split
    · apply Log.eq_of_toList
      simp [Log.toList_mirrored_add, Happening.mirrored, level]
    · rfl
  emit log notice := by
    have level : (observer.event notice).record.level = .debug := rfl
    apply Log.eq_of_toList
    simp [emit, trace, wantsEvents_of_collects debug, level, debug, Log.toList_mirrored_add,
      Happening.mirrored]
  empty := rfl
  grows log later grows := List.IsPrefix.flatMap grows Happening.mirrored
  events _ log := log.view_mirrored untraced_emitted?

theorem collects_trace (request : Request) (level : Level) :
    (ofRequest request (some .trace)).collects level = true := by
  cases level <;> rfl

theorem trace_noted (request : Request) (level : Option Level) (log : Log) (record : Record) :
    (ofRequest request level).trace (log.noted (ofRequest request level)) record =
      ((ofRequest request (some .trace)).trace log record).noted (ofRequest request level) := by
  rw [trace, trace, if_pos (collects_trace request record.level), Log.noted_add]
  rfl

theorem emit_noted (request : Request) (level : Option Level) (log : Log) (notice : Notice) :
    (ofRequest request level).emit (log.noted (ofRequest request level)) notice =
      ((ofRequest request (some .trace)).emit log notice).noted (ofRequest request level) := by
  have all : (ofRequest request (some .trace)).wantsEvents = true :=
    wantsEvents_of_collects (collects_trace request .debug)
  have same : (ofRequest request (some .trace)).event notice =
      (ofRequest request level).event notice := rfl
  rw [emit, emit, if_pos all, same, Log.noted_add, ← trace_noted, Happening.isNoted]
  cases wants : (ofRequest request level).wantsEvents with
  | true => rfl
  | false =>
    -- Whoever does not want events does not collect their records either.
    have unwanted : (ofRequest request level).collects .debug = false :=
      (Bool.or_eq_false_iff.1 wants).2
    have level' : ((ofRequest request level).event notice).record.level = .debug := rfl
    simp [trace, level', unwanted]

theorem echoes_noted (request : Request) (level : Option Level) :
    (ofRequest request (some .trace)).Echoes (ofRequest request level)
      (Log.noted (ofRequest request level)) where
  panics _ := rfl
  add log happening deed := by
    rw [Log.noted_add, if_pos (Happening.isNoted_of_deed _ deed)]
  trace log record _ := trace_noted request level log record
  emit log notice := emit_noted request level log notice
  empty := rfl
  grows log later grows := by
    rw [Log.Grows, Log.toList_noted, Log.toList_noted]
    exact List.IsPrefix.filter _ grows
  events handled log := by
    have wants : (ofRequest request level).wantsEvents = true :=
      Bool.or_eq_true_iff.2 (.inl handled)
    refine log.view_noted _ fun happening unnoted => ?_
    cases happening with
    | emitted event => cases wants.symm.trans unnoted
    | traced | began | finished | abandoned | neverRun | called | dropped => rfl

end Observer

def Record.value? (record : Record) (name : String) : Option FieldValue :=
  record.fields.lookup name

/-- A record of an event, with all its values. -/
structure Record.Reports (record : Record) (event : Event) : Prop where
  level : record.level = .debug
  unique : (record.fields.map (·.1)).Nodup
  pool : record.value? "poolName" = event.pool.map .text
  reason : record.value? "reason" = event.notice.reason?.map (.text ·.explanation)
  values : match event.notice with
    | .started target workers failFast =>
      record.value? "targetCount" = some (.number target.toNat) ∧
        record.value? "workerCount" = some (.number workers.toNat) ∧
        record.value? "failFast" = some (.flag failFast)
    | .established attempt | .closed attempt =>
      record.value? "attempt" = some (.number attempt)
    | .attemptFailed attempt error =>
      record.value? "attempt" = some (.number attempt) ∧
        record.value? "error" = some (.text error.display)
    | .succeeded established failed =>
      record.value? "established" = some (.number established.toNat) ∧
        record.value? "failed" = some (.number failed.toNat)
    | .failed failure closed =>
      record.value? "failure" = some (.text failure.display) ∧
        record.value? "closed" = some (.number closed.toNat)

theorem Event.reports_record (event : Event) : event.record.Reports event := by
  obtain ⟨pool, notice⟩ := event
  refine ⟨rfl, ?_, ?_, ?_, ?_⟩
  · cases pool <;> cases notice <;> simp [record, poolField, Notice.fields]
  · cases pool <;> cases notice <;> rfl
  · cases pool <;> cases notice <;> rfl
  · cases pool <;> cases notice <;>
      simp [record, poolField, Notice.fields, Record.value?, List.lookup_cons]

def Entry.upTo (level : Option Level) (entry : Entry) : Entry :=
  { entry with traced := entry.traced.filter fun record => level.any (·.admits record.level) }

namespace Run

variable {run : Run}

theorem entry_noted (request : Request) (level : Option Level) (run : Run) (log : Log)
    (response : Response) (grows : log.Grows run.crew.log) :
    (run.retold (.ofRequest request level) (Log.noted (.ofRequest request level))).entry
        (log.noted (.ofRequest request level)).size response =
      (run.entry log.size response).upTo level := by
  have grows' := (Observer.echoes_noted request level).grows _ _ grows
  have deeds {α : Type} {find : Happening → Option α}
      (silent : ∀ happening, happening.isTold = true → find happening = none) :
      ((run.crew.log.noted (.ofRequest request level)).since
          (log.noted (.ofRequest request level)).size).filterMap find =
        (run.crew.log.since log.size).filterMap find := by
    refine Log.since_retold find find id (fun _ _ => rfl) grows grows' fun log => ?_
    refine log.view_noted _ fun happening unnoted => ?_
    cases told : happening.isTold with
    | true => exact silent happening told
    | false => cases unnoted.symm.trans (Happening.isNoted_of_deed _ told)
  have works {α : Type} {find : Happening → Option α} (work : OfWork find) :=
    deeds fun happening told => work happening (Happening.isWork_of_isTold told)
  have began := works ofWork_began?
  have abandoned := works ofWork_abandoned?
  have called : _ = (run.crew.log.since log.size).filterMap Happening.called? :=
    deeds fun happening told => by cases happening <;> first | rfl | cases told
  have dropped : _ = (run.crew.log.since log.size).filterMap Happening.dropped? :=
    deeds fun happening told => by cases happening <;> first | rfl | cases told
  have records := Log.since_retold Happening.traced? Happening.traced? _
    (fun _ _ => List.filter_append ..) grows grows'
    (Log.records_noted (.ofRequest request level))
  simp only [entry, Entry.upTo, retold, Crew.retold, began, abandoned, called, dropped, records]
  rfl

structure Mirrors (run : Run) : Prop where
  debug : run.observer.collects .debug = true
  unheard : run.Unheard
  mirrored : run.crew.log.mirrored = run.crew.log

theorem Mirrors.retold (mirrors : run.Mirrors) : run.retold run.observer Log.mirrored = run := by
  rw [Run.retold, Crew.retold, mirrors.mirrored]

theorem Mirrors.step (mirrors : run.Mirrors) (step : Step) : (run.step step).1.Mirrors where
  debug := by rw [observer_step]; exact mirrors.debug
  unheard := mirrors.unheard.step step
  mirrored := by
    have told := step_retold run (Observer.echoes_mirrored mirrors.debug) mirrors.unheard step
    rw [mirrors.retold] at told
    exact congrArg (·.1.crew.log) told.symm

theorem Mirrors.steps (mirrors : run.Mirrors) (steps : List Step) :
    (run.steps steps).1.Mirrors := by
  induction steps generalizing run with
  | nil => exact mirrors
  | cons step rest ih => exact ih (mirrors.step step)

theorem Mirrors.since (mirrors : run.Mirrors) {log : Log} (same : log.mirrored = log)
    (grows : log.Grows run.crew.log) :
    ((run.crew.log.since log.size).filterMap Happening.traced?).filter (·.level = .debug) =
      (run.emittedSince log.size).map Event.record := by
  have all := Log.records_of_mirrored mirrors.mirrored
  rw [Log.records, Log.events, Log.view_since grows, Log.view_since grows, List.filter_append,
    List.map_append, ← Log.records, ← Log.events, Log.records_of_mirrored same] at all
  exact List.append_cancel_left all

theorem Mirrors.entries (mirrors : run.Mirrors) (called : run.outlet = .callback)
    (steps : List Step) :
    ∀ entry ∈ (run.steps steps).2,
      entry.traced.filter (·.level = .debug) = entry.delivered.map Event.record := by
  induction steps generalizing run with
  | nil => exact fun _ member => by cases member
  | cons step rest ih =>
    have plain : run.outlet.isPlain = true := by rw [called]; rfl
    have next := (outlet_step plain step).trans called
    have moved := (outlet_move plain step).trans called
    rw [entries_cons]
    refine List.forall_mem_cons.2 ⟨?_, ih (mirrors.step step) next⟩
    have delivered : (run.step step).2.delivered =
        (run.step step).1.emittedSince run.crew.log.size := by
      show ((run.move step).1.outlet.deliver _).1 = _
      rw [moved]
      rfl
    show List.filter _ _ = ((run.step step).2.delivered).map Event.record
    rw [delivered]
    exact (mirrors.step step).since mirrors.mirrored (grows_move run step)

section
variable {request : Request} {level : Option Level}
  (debug : (Observer.ofRequest request level).collects .debug = true) (plan : Plan) (pool : Pool)
  (steps : List Step)
include debug

theorem mirrors_opened : (opened request level plan pool).Mirrors where
  debug := by rwa [observer_opened]
  unheard := unheard_opened request level plan pool
  mirrored := by
    have told := opened_retold (Observer.echoes_mirrored debug) plan pool
    exact congrArg (·.crew.log) told.symm

theorem mirrors_start : (start request level plan pool).1.Mirrors where
  debug := (mirrors_opened debug plan pool).debug
  unheard := (mirrors_opened debug plan pool).unheard.deliverSince 0
  mirrored := (mirrors_opened debug plan pool).mirrored

theorem mirrors_play : (play request level plan pool steps).1.Mirrors :=
  (mirrors_start debug plan pool).steps steps

theorem entries_mirrored {panics : Event → Option Payload}
    (handled : request.handler = some (.callback panics)) :
    ∀ entry ∈ (play request level plan pool steps).2,
      entry.traced.filter (·.level = .debug) = entry.delivered.map Event.record := by
  have called : (opened request level plan pool).outlet = .callback := by
    rw [outlet_opened, handled]
    rfl
  have plain : (opened request level plan pool).outlet.isPlain = true := by rw [called]; rfl
  have started : (start request level plan pool).1.outlet = .callback := by
    obtain ⟨-, -, -, deliver⟩ := Outlet.stays_of_plain plain
    exact (deliver _).trans called
  have delivered : (start request level plan pool).2.delivered =
      (opened request level plan pool).emittedSince 0 := by
    show ((opened request level plan pool).outlet.deliver _).1 = _
    rw [called]
    rfl
  refine List.forall_mem_cons.2 ⟨?_, (mirrors_start debug plan pool).entries started steps⟩
  show List.filter _ _ = (start request level plan pool).2.delivered.map Event.record
  rw [delivered]
  exact (mirrors_opened debug plan pool).since rfl (Log.grows_of_empty _)

end

theorem traced_steps (run : Run) (steps : List Step) :
    run.crew.log.records ++ (run.steps steps).2.flatMap (·.traced) =
      (run.steps steps).1.crew.log.records := by
  induction steps generalizing run with
  | nil => exact List.append_nil _
  | cons step rest ih =>
    have split := Log.view_since (grows_move run step) Happening.traced?
    rw [entries_cons, List.flatMap_cons, ← List.append_assoc]
    refine Eq.trans ?_ (ih (run.step step).1)
    exact congrArg (· ++ _) split.symm

theorem traced_play (request : Request) (level : Option Level) (plan : Plan) (pool : Pool)
    (steps : List Step) :
    (play request level plan pool steps).2.flatMap (·.traced) =
      (play request level plan pool steps).1.crew.log.records := by
  refine Eq.trans ?_ (traced_steps (start request level plan pool).1 steps)
  have split := Log.view_since (Log.grows_of_empty (start request level plan pool).1.crew.log)
    Happening.traced?
  exact congrArg (· ++ _) split.symm

/-- A run traced in enough detail has one record for each event and in the order of events, each of
them written right before its event goes to the handler, be it one on which the handler panics. Each
record has the values of its event. A callback has each event in the very step in which its record
is collected. At whatever level the run is collected, all that differs from the run traced in full
is that records of more detail are left out, and where nobody wants events none is made. -/
theorem tracing_mirrors_events (request : Request) (level : Option Level) (plan : Plan)
    (pool : Pool) (steps : List Step) :
    let observer := Observer.ofRequest request level
    let played := play request level plan pool steps
    let full := play request (some .trace) plan pool steps
    (observer.collects .debug = true →
      let log := played.1.crew.log
      log.records.filter (·.level = .debug) = log.events.map Event.record ∧
        log.toList.filter Happening.isNews =
          (log.events.flatMap fun event => [.traced event.record, .emitted event]) ∧
        (∀ event ∈ log.events, event.record.Reports event) ∧
        ∀ panics, request.handler = some (.callback panics) → ∀ entry ∈ played.2,
          entry.traced.filter (·.level = .debug) = entry.delivered.map Event.record) ∧
      played.2.flatMap (·.traced) = played.1.crew.log.records ∧
      played.2 = full.2.map (Entry.upTo level) ∧
      played.1.crew.log.records =
        full.1.crew.log.records.filter (fun record => level.any (·.admits record.level)) ∧
      (request.handler.isSome = true → played.1.crew.log.events = full.1.crew.log.events) ∧
      (observer.collects .debug = false → request.handler = none →
        played.1.crew.log.events = []) := by
  intro observer played full
  have echoes := Observer.echoes_noted request level
  have told := play_retold echoes plan pool steps
  have log : played.1.crew.log = full.1.crew.log.noted observer := congrArg (·.crew.log) told
  refine ⟨fun debug => ?_, traced_play request level plan pool steps,
    accounts_retold echoes plan pool (entry_noted request level) steps, ?_, fun handled => ?_,
    fun unwanted unhandled => ?_⟩
  · have mirrored := (mirrors_play debug plan pool steps).mirrored
    have news := played.1.crew.log.news_mirrored
    rw [mirrored] at news
    exact ⟨Log.records_of_mirrored mirrored, news, fun event _ => event.reports_record,
      fun panics handled => entries_mirrored debug plan pool steps handled⟩
  · rw [log, Log.records_noted]
    rfl
  · rw [log]
    exact echoes.events handled _
  · have unwatched : observer.wantsEvents = false := by
      rw [Observer.wantsEvents, unwanted, Bool.or_false]
      exact congrArg Option.isSome unhandled
    rw [log, Log.events_noted_of_unwanted unwatched]

/-- The handler panics on the first connection, and the pool when it is to close it. The event is
traced like the others, and so is the end of the worker. -/
theorem tracing_mirrors_events_panicking :
    let panics := PanicRule.first? [⟨"ConnectionEstablished", none, none⟩]
    let request : Request := ⟨2, 2, true, some "main", some (.callback panics)⟩
    let steps : List Step :=
      [.finish [(0, .ok "a")], .finishAll fun _ => .fail ⟨.establishment "refused"⟩]
    let played (level : Level) :=
      play request (some level) (fun _ => none) (.recording 0 0 none (some 1)) steps
    let run := (played .debug).1
    run.conclusion = some (.panicked (.text "pool: close")) ∧
      run.crew.log.events.map (·.notice.name) =
        ["WarmupStarted", "ConnectionEstablished", "ConnectionAttemptFailed"] ∧
      run.crew.log.records.map (·.level) = [.debug, .debug, .debug, .warn] ∧
      run.crew.log.records.filter (·.level = .debug) = run.crew.log.events.map Event.record ∧
      (∀ event ∈ run.crew.log.events, event.record.Reports event) ∧
      (∀ entry ∈ (played .debug).2,
        entry.traced.filter (·.level = .debug) = entry.delivered.map Event.record) ∧
      (played .warn).2 = (played .trace).2.map (Entry.upTo (some .warn)) ∧
      (play { request with handler := none } (some .warn) (fun _ => none) .fresh steps
        ).1.crew.log.events = [] := by
  intro panics request steps played run
  obtain ⟨detailed, -⟩ := tracing_mirrors_events request (some .debug) (fun _ => none)
    (.recording 0 0 none (some 1)) steps
  obtain ⟨records, -, reports, entries⟩ := detailed (by decide)
  obtain ⟨-, -, filtered, -⟩ := tracing_mirrors_events request (some .warn) (fun _ => none)
    (.recording 0 0 none (some 1)) steps
  obtain ⟨-, -, -, -, -, nothing⟩ := tracing_mirrors_events { request with handler := none }
    (some .warn) (fun _ => none) .fresh steps
  dsimp only [run, played]
  exact ⟨by decide +kernel, by decide +kernel, by decide +kernel, records, reports,
    entries panics rfl, filtered, nothing (by decide) rfl⟩

end Run

end Preconnect
