import IsaUser.Events.Model

/-!
# Reports on an Event

What the row of an event says about its processing is what the reports say, once every processor
that is to look at it has reported: unless a report overwrites another, or succeeds after another
has failed, or the event is put back to pending.
-/

namespace IsaUser.Events

/-! ### The law -/

section Law

variable (eventId : PyStr) (reports : List Report)

def Reported (processorName : PyStr) : Prop :=
  ∃ r ∈ reports, r.eventId = eventId ∧ r.processorName = processorName
  deriving Decidable

def latest (processorName : PyStr) : Option ProcessingStatus :=
  (reports.find? fun r => r.eventId = eventId ∧ r.processorName = processorName).map Report.status

def Failing : Prop := ∃ r ∈ reports, latest eventId reports r.processorName = some .failed
  deriving Decidable

def failures : ℕ := reports.countP fun r => r.eventId = eventId ∧ r.status = .failed

variable (service : EventService) (event : Event)

def AllReported : Prop :=
  ∀ p ∈ service.processors, Awaits event p → Reported eventId reports p.processorName
  deriving Decidable

structure Truthful : Prop where
  status : event.status = if Failing eventId reports then .failed else .processed
  processors : ∀ name, Reported eventId reports name → name ∈ event.processors
  retryCount : event.retryCount = failures eventId reports

def World.Truthful (w : World) : Prop :=
  ∀ eventId, ∀ event ∈ w.db.store.events eventId, AllReported eventId w.reports service event →
    Events.Truthful eventId w.reports event

end Law

/-! ### The condition -/

def eventAt (eventId : PyStr) (w : World) : Option Event :=
  if w.db.link = .up then w.db.store.events eventId else none

def readBy (eventId : PyStr) : World × Timed Call → Option Event
  | (w, .call (.selectEvent id)) => if id = eventId then eventAt eventId w else none
  | (w, .call (.selectFailed ..)) => eventAt eventId w
  | _ => none

def lastRead (eventId : PyStr) (past : EventPast) : Option Event := past.findSome? (readBy eventId)

def Event.history (event : Event) : List PyStr × ℤ := (event.processors, event.retryCount)

/-- What a write of a row needs: it is executed if it is for a report, and finds the processors and
the count that were read. If it is for a success and completes the reports, no report stands as a
failure; and if it is for none, the reports are not complete. -/
def InTurn (service : EventService) (past : EventPast) (w : World) : Timed Call → Prop
  | .call (.updateEvent eventId _ report) =>
    (report ≠ none → w.db.link ≠ .down) ∧ (w.db.link ≠ .down →
      ∀ row ∈ w.db.store.events eventId,
        (∀ read ∈ lastRead eventId past, row.history = read.history) ∧
        match report with
        | some r => r.status = .success → AllReported eventId (r :: w.reports) service row →
            ¬Failing eventId (r :: w.reports)
        | none => ¬AllReported eventId w.reports service row)
  | _ => True

instance (service : EventService) (past : EventPast) (w : World) :
    DecidablePred (InTurn service past w)
  | .call (.updateEvent eventId _ (some r)) => inferInstanceAs (Decidable
      ((some r ≠ none → w.db.link ≠ .down) ∧ (w.db.link ≠ .down →
        ∀ row ∈ w.db.store.events eventId,
          (∀ read ∈ lastRead eventId past, row.history = read.history) ∧
          (r.status = .success → AllReported eventId (r :: w.reports) service row →
              ¬Failing eventId (r :: w.reports)))))
  | .call (.updateEvent eventId _ none) => inferInstanceAs (Decidable
      (((none : Option Report) ≠ none → w.db.link ≠ .down) ∧ (w.db.link ≠ .down →
        ∀ row ∈ w.db.store.events eventId,
          (∀ read ∈ lastRead eventId past, row.history = read.history) ∧
          ¬AllReported eventId w.reports service row)))
  | .now | .call (.selectEvent _) | .call (.claimPending ..) | .call (.selectFailed ..)
  | .call (.insertResult _) => .isTrue trivial

def Request.Decided : Request → Prop
  | mark _ _ result => result.status = .success ∨ result.status = .failed
  | _ => True

instance : DecidablePred Request.Decided
  | .mark _ _ result => inferInstanceAs (Decidable (result.status = .success ∨ _))
  | .process .. | .poll .. | .retry .. => .isTrue trivial

/-! ### Reports -/

section Reports

variable {eventId name : PyStr} {reports : List Report} {r : Report}

theorem reported_cons : Reported eventId (r :: reports) name ↔
    (r.eventId = eventId ∧ r.processorName = name) ∨ Reported eventId reports name := by
  simp [Reported]

theorem latest_cons_of_ne (h : r.eventId ≠ eventId) :
    latest eventId (r :: reports) name = latest eventId reports name := by
  simp [latest, h]

theorem latest_cons_self (h : r.eventId = eventId) :
    latest eventId (r :: reports) r.processorName = some r.status := by
  simp [latest, h]

theorem failures_cons_of_ne (h : r.eventId ≠ eventId) :
    failures eventId (r :: reports) = failures eventId reports := by
  simp [failures, h]

theorem failures_cons (h : r.eventId = eventId) : failures eventId (r :: reports) =
    failures eventId reports + if r.status = .failed then 1 else 0 := by
  simp [failures, List.countP_cons, h]

theorem latest_eq_none_iff : latest eventId reports name = none ↔
    ¬Reported eventId reports name := by
  simp [latest, Reported]

theorem failing_iff : Failing eventId reports ↔
    ∃ name, latest eventId reports name = some .failed := by
  constructor
  · rintro ⟨r, -, h⟩
    exact ⟨_, h⟩
  · rintro ⟨name, h⟩
    have hreported : Reported eventId reports name := by
      by_contra hnot
      rw [latest_eq_none_iff.mpr hnot] at h
      cases h
    obtain ⟨r, hr, -, rfl⟩ := hreported
    exact ⟨r, hr, h⟩

theorem failing_cons_of_ne (h : r.eventId ≠ eventId) :
    Failing eventId (r :: reports) ↔ Failing eventId reports := by
  simp only [failing_iff, latest_cons_of_ne h]

theorem failing_cons (h : r.eventId = eventId) (hstatus : r.status = .failed) :
    Failing eventId (r :: reports) :=
  failing_iff.mpr ⟨r.processorName, by rw [latest_cons_self h, hstatus]⟩

theorem allReported_cons_of_ne {service : EventService} {event : Event} (h : r.eventId ≠ eventId) :
    AllReported eventId (r :: reports) service event ↔
      AllReported eventId reports service event := by
  simp [AllReported, reported_cons, h]

end Reports

/-! ### What a call keeps -/

section Calls

variable {service : EventService} {eventId : PyStr} {reports : List Report} {r : Report}
  {row read event : Event} {past : EventPast} {w : World} {c : Timed Call}

/-- What a row keeps: those who have reported and the failures, and the status that they make once
the reports are complete. -/
structure Kept (service : EventService) (eventId : PyStr) (reports : List Report) (event : Event) :
    Prop where
  processors : ∀ name, Reported eventId reports name → name ∈ event.processors
  retryCount : event.retryCount = failures eventId reports
  status : AllReported eventId reports service event →
    event.status = if Failing eventId reports then .failed else .processed

def World.Kept (service : EventService) (w : World) : Prop :=
  ∀ eventId, ∀ event ∈ w.db.store.events eventId, Events.Kept service eventId w.reports event

theorem World.Kept.truthful (h : w.Kept service) : w.Truthful service :=
  fun eventId event hevent hall =>
    ⟨(h eventId event hevent).status hall, (h eventId event hevent).processors,
      (h eventId event hevent).retryCount⟩

theorem Kept.other (h : Kept service eventId reports row) (hne : r.eventId ≠ eventId) :
    Kept service eventId (r :: reports) row where
  processors name hname := h.processors name (by
    rcases reported_cons.mp hname with ⟨hid, -⟩ | hname
    · exact absurd hid hne
    · exact hname)
  retryCount := by rw [failures_cons_of_ne hne, h.retryCount]
  status hall := by
    rw [h.status ((allReported_cons_of_ne hne).mp hall)]
    simp only [failing_cons_of_ne hne]

def MadeOf (read : Event) (r : Report) (event : Event) : Prop :=
  (r.status = .success ∧ ∃ time, event = read.succeed r.processorName time) ∨
    (r.status = .failed ∧ ∃ message, event = read.fail r.processorName message)

theorem mem_addProcessor {name name' : PyStr} :
    name ∈ read.addProcessor name' ↔ name ∈ read.processors ∨ name = name' := by
  rw [Event.addProcessor]
  split
  · next h =>
      constructor
      · exact .inl
      · rintro (h' | rfl)
        · exact h'
        · exact h
  · simp

theorem Kept.report (h : Kept service eventId reports row) (hid : r.eventId = eventId)
    (hsame : row.history = read.history) (hmade : MadeOf read r event)
    (hsuccess : r.status = .success → AllReported eventId (r :: reports) service row →
      ¬Failing eventId (r :: reports)) :
    Kept service eventId (r :: reports) (row.overwrite event) := by
  obtain ⟨hprocessors, hcount⟩ := Prod.mk.inj hsame
  have hlist : event.processors = read.addProcessor r.processorName := by
    rcases hmade with ⟨-, time, rfl⟩ | ⟨-, message, rfl⟩ <;> rfl
  refine ⟨fun name hname => ?_, ?_, fun hall => ?_⟩
  · change name ∈ event.processors
    rw [hlist, mem_addProcessor, ← hprocessors]
    rcases reported_cons.mp hname with ⟨-, hname⟩ | hname
    · exact .inr hname.symm
    · exact .inl (h.processors name hname)
  · rw [failures_cons hid]
    have hkept := h.retryCount
    rcases hmade with ⟨hstatus, time, rfl⟩ | ⟨hstatus, message, rfl⟩
    · rw [hstatus, if_neg (by decide)]
      change read.retryCount = _
      omega
    · rw [hstatus, if_pos rfl]
      change read.retryCount + 1 = _
      omega
  · rcases hmade with ⟨hstatus, time, rfl⟩ | ⟨hstatus, message, rfl⟩
    · rw [if_neg (hsuccess hstatus hall)]
      rfl
    · rw [if_pos (failing_cons hid hstatus)]
      rfl

theorem Kept.reopen (h : Kept service eventId reports row) (hsame : row.history = read.history)
    (hopen : ¬AllReported eventId reports service row) :
    Kept service eventId reports (row.overwrite { read with status := .pending }) := by
  obtain ⟨hprocessors, hcount⟩ := Prod.mk.inj hsame
  refine ⟨fun name hname => ?_, ?_, fun hall => absurd hall hopen⟩
  · rw [← hprocessors]
    exact h.processors name hname
  · exact hcount.symm.trans h.retryCount

theorem Kept.claim (h : Kept service eventId reports row) (hpending : row.status = .pending) :
    Kept service eventId reports row.claim := by
  refine ⟨h.processors, h.retryCount, fun hall => ?_⟩
  have hstatus := h.status hall
  rw [hpending] at hstatus
  split at hstatus <;> cases hstatus

def Promise (past : EventPast) (_w : World) : Timed Call → Prop
  | .call (.updateEvent eventId event report) => ∃ read, lastRead eventId past = some read ∧
      match report with
      | some r => r.eventId = eventId ∧ MadeOf read r event
      | none => event = { read with status := .pending }
  | _ => True

theorem handle_kept (hw : w.Kept service) (hturn : InTurn service past w c)
    (hpromise : Promise past w c) : (handle c w).2.Kept service := by
  cases c with
  | now => exact hw
  | call c =>
    cases c with
    | updateEvent id event report =>
      obtain ⟨hexecuted, hfound⟩ := hturn
      obtain ⟨read, hread, hmade⟩ := hpromise
      intro eventId row' hrow'
      rw [handle_store] at hrow'
      cases report with
      | some r =>
        obtain ⟨hid, hmade⟩ := hmade
        rw [if_neg (hexecuted nofun)] at hrow'
        rcases eq_or_ne eventId id with rfl | hne
        · obtain ⟨row, hrow, rfl⟩ := Option.map_eq_some_iff.mp
            ((Function.update_self eventId _ _).symm.trans hrow')
          obtain ⟨hsame, hsuccess⟩ := hfound (hexecuted nofun) row hrow
          exact (hw eventId row hrow).report hid (hsame read hread) hmade hsuccess
        · have hrow : row' ∈ w.db.store.events eventId :=
            (Function.update_of_ne hne _ _).symm.trans hrow'
          exact (hw eventId row' hrow).other (by rw [hid]; exact hne.symm)
      | none =>
        split at hrow'
        · exact hw eventId row' hrow'
        · next hlink =>
            rcases eq_or_ne eventId id with rfl | hne
            · obtain ⟨row, hrow, rfl⟩ := Option.map_eq_some_iff.mp
                ((Function.update_self eventId _ _).symm.trans hrow')
              obtain ⟨hsame, hopen⟩ := hfound hlink row hrow
              rw [show event = _ from hmade]
              exact (hw eventId row hrow).reopen (hsame read hread) hopen
            · exact hw eventId row' ((Function.update_of_ne hne _ _).symm.trans hrow')
    | claimPending limit ids =>
      intro eventId row' hrow'
      rw [handle_store] at hrow'
      split at hrow'
      · exact hw eventId row' hrow'
      · change row' ∈ (if eventId ∈ w.db.store.claimed limit ids then
          (w.db.store.events eventId).map .claim else w.db.store.events eventId) at hrow'
        split at hrow'
        · next hclaimed =>
            obtain ⟨row, hrow, rfl⟩ := Option.map_eq_some_iff.mp hrow'
            have hpending := (List.mem_filter.mp (List.mem_of_mem_take hclaimed)).2
            rw [EventStore.isPending, hrow] at hpending
            exact (hw eventId row hrow).claim (of_decide_eq_true hpending)
        · exact hw eventId row' hrow'
    | selectEvent | selectFailed | insertResult =>
      intro eventId row' hrow'
      rw [handle_store] at hrow'
      split at hrow' <;> exact hw eventId row' hrow'

end Calls

/-! ### Programs -/

section Programs

variable {service : EventService} {α β : Type} {eventId name : PyStr} {past : EventPast} {w : World}
  {service' : EventService} {message : Option PyStr}

/-- A program keeps its promises, as long as its writes are in turn. -/
abbrev EventSound (service : EventService) (p : EventM α) (past : EventPast) (w : World) : Prop :=
  p.Sound (Terms.ofInv (World.Kept service)) handle (InTurn service) Promise (fun _ _ _ => True)
    past w

theorem EventSound.bind {p : EventM α} {f : α → EventM β} (hp : EventSound service p past w)
    (hf : ∀ a past w, EventSound service (f a) past w) : EventSound service (p >>= f) past w :=
  Prog.Sound.bind hp (fun a past w _ => hf a past w) fun _ _ _ _ => trivial

theorem EventSound.tryCatch {p : EventM α} {f : EventError → EventM α}
    (hp : EventSound service p past w) (hf : ∀ e past w, EventSound service (f e) past w) :
    EventSound service (p.tryCatch f) past w :=
  Prog.Sound.tryCatch hp (fun _ _ _ _ => trivial) fun e past w _ => hf e past w

theorem eventSound_ret (a : α) : EventSound service (.ret a) past w := fun _ _ _ => trivial

theorem eventSound_ask {c : Call} (hc : ∀ w, Promise past w (.call c)) :
    EventSound service (ask c) past w :=
  Prog.sound_query (I := EventApi.timed) (c := Timed.call c) fun w' _ _ =>
    ⟨hc w', fun _ _ _ _ => trivial⟩

theorem sound_getEvent {f : Option Event → EventM α}
    (hnone : ∀ past w, EventSound service (f none) past w)
    (hsome : ∀ event past w, lastRead eventId past = some event →
      EventSound service (f (some event)) past w) :
    EventSound service (getEvent eventId >>= f) past w := by
  intro w' _ _
  refine ⟨trivial, fun _ => ?_⟩
  have hf : EventSound service (f (eventAt eventId w'))
      ((w', .call (.selectEvent eventId)) :: past) w' := by
    cases hread : eventAt eventId w' with
    | none => exact hnone _ _
    | some event => exact hsome event _ _ (by simp [lastRead, readBy, hread])
  obtain ⟨⟨store, clock, link⟩, reports⟩ := w'
  cases link <;> exact hf

theorem sound_mark {event : Event} {result : EventProcessingResult} {f : Event → EventM α}
    (hdecided : result.status = .success ∨ result.status = .failed)
    (hread : lastRead eventId past = some event)
    (hf : ∀ marked past w, lastRead eventId past = some event →
      MadeOf event ⟨eventId, name, result.status⟩ marked → EventSound service (f marked) past w) :
    EventSound service (event.mark name result >>= f) past w := by
  rw [Event.mark]
  rcases hdecided with hstatus | hstatus
  · rw [hstatus]
    intro w' _ _
    exact ⟨trivial, fun _ => hf _ _ _ hread (.inl ⟨hstatus, w'.db.clock, rfl⟩)⟩
  · rw [hstatus]
    exact hf _ _ _ hread (.inr ⟨hstatus, result.message, rfl⟩)

theorem updateEvent_sound {event : Event} {report : Option Report}
    (hpromise : ∀ w, Promise past w (.call (.updateEvent eventId event report))) :
    EventSound service (updateEvent eventId event report) past w :=
  EventSound.tryCatch (EventSound.bind (eventSound_ask hpromise) fun _ _ _ => eventSound_ret _)
    fun _ _ _ => eventSound_ret _

theorem markEventProcessed_sound {result : EventProcessingResult}
    (hdecided : result.status = .success ∨ result.status = .failed) :
    EventSound service (markEventProcessed eventId name result) past w := by
  refine sound_getEvent (fun _ _ => eventSound_ret _) fun event past w hread => ?_
  refine sound_mark hdecided hread fun marked past w hread hmade => ?_
  refine EventSound.bind (updateEvent_sound fun _ => ⟨event, hread, rfl, hmade⟩) fun _ past w => ?_
  refine EventSound.bind (EventSound.bind (eventSound_ask fun _ => trivial)
    fun _ _ _ => eventSound_ret _) fun _ _ _ => eventSound_ret _

theorem reportOf_sound {status : ProcessingStatus}
    (hdecided : status = .success ∨ status = .failed) :
    EventSound service (reportOf eventId name status message) past w :=
  fun _ _ _ => ⟨trivial, fun _ => markEventProcessed_sound hdecided⟩

theorem executeProcessors_sound {event : Event} (processors : List EventProcessor) :
    EventSound service (executeProcessors eventId event message processors) past w := by
  induction processors generalizing past w with
  | nil => exact eventSound_ret _
  | cons processor processors ih =>
    rw [executeProcessors]
    split
    · refine EventSound.bind (EventSound.bind (EventSound.tryCatch (reportOf_sound (.inl rfl))
        fun _ _ _ => reportOf_sound (.inr rfl)) fun _ _ _ => eventSound_ret _) fun _ _ _ => ih
    · exact ih

theorem processEvent_sound {event : Event} :
    EventSound service (processEvent service' eventId event message) past w :=
  EventSound.tryCatch (EventSound.bind (EventSound.tryCatch
    (executeProcessors_sound service'.processors) fun _ _ _ => eventSound_ret _)
    fun _ _ _ => reportOf_sound (.inl rfl)) fun _ _ _ => reportOf_sound (.inr rfl)

theorem retryAll_sound {rows : List (PyStr × Event)}
    (hrows : ∀ row ∈ rows, lastRead row.1 past = some row.2) :
    EventSound service (retryAll rows) past w := by
  induction rows generalizing past w with
  | nil => exact eventSound_ret _
  | cons row rows ih =>
    intro w' _ _
    refine ⟨⟨row.2, hrows row List.mem_cons_self, rfl⟩, fun _ => ?_⟩
    have hrest : ∀ w'', EventSound service (retryAll rows)
        ((w', .call (.updateEvent row.1 { row.2 with status := .pending } none)) :: past) w'' :=
      fun w'' => ih fun row' hrow' => hrows row' (List.mem_cons_of_mem _ hrow')
    have hrest := hrest
      (handle (.call (.updateEvent row.1 { row.2 with status := .pending } none)) w').2
    obtain ⟨⟨store, clock, link⟩, reports⟩ := w'
    cases link <;> exact hrest

theorem lastRead_selectFailed {p : Event → Bool} {ids : List PyStr} (hup : w.db.link = .up)
    {row : PyStr × Event} (hrow : row ∈ (w.db.store.rows ids).filter fun row => p row.2) :
    lastRead row.1 ((w, .call (.selectFailed p ids)) :: past) = some row.2 := by
  obtain ⟨id, -, hid⟩ := List.mem_filterMap.mp (List.mem_filter.mp hrow).1
  obtain ⟨event, hevent, rfl⟩ := Option.map_eq_some_iff.mp hid
  have hread : readBy id (w, .call (.selectFailed p ids)) = some event := by
    rw [readBy, eventAt, if_pos hup, hevent]
  simp [lastRead, hread]

theorem retryFailedEvents_sound {maxRetries : ℤ} {ids : List PyStr} :
    EventSound service (retryFailedEvents service' maxRetries ids) past w := by
  rw [retryFailedEvents]
  split
  · exact fun _ _ _ => trivial
  · next p _ =>
      intro w' _ _
      refine ⟨trivial, fun _ => ?_⟩
      have hread : ∀ row ∈ (w'.db.store.rows ids).filter fun row => p maxRetries row.2,
          w'.db.link = .up →
            lastRead row.1 ((w', .call (.selectFailed (p maxRetries) ids)) :: past) = some row.2 :=
        fun row hrow hup => lastRead_selectFailed hup hrow
      obtain ⟨⟨store, clock, link⟩, reports⟩ := w'
      cases link with
      | up =>
        have hretry : ∀ w (n : ℕ), EventSound service (retryAll _ >>= fun _ => .ret n) _ w :=
          fun _ _ => EventSound.bind (retryAll_sound fun row hrow => hread row hrow rfl)
            fun _ _ _ => eventSound_ret _
        exact hretry _ _
      | down => exact fun _ _ _ => trivial
      | lost => exact fun _ _ _ => trivial

theorem serve_sound {request : Request} (hdecided : request.Decided) :
    EventSound service (request.serve service') past w := by
  cases request with
  | mark id name result =>
    exact EventSound.bind (markEventProcessed_sound hdecided) fun _ _ _ => eventSound_ret _
  | process id event message =>
    exact EventSound.bind processEvent_sound fun _ _ _ => eventSound_ret _
  | poll limit ids =>
    exact EventSound.bind (EventSound.tryCatch (eventSound_ask fun _ => trivial)
      fun _ _ _ => eventSound_ret _) fun _ _ _ => eventSound_ret _
  | retry maxRetries ids =>
    exact EventSound.bind retryFailedEvents_sound fun _ _ _ => eventSound_ret _

end Programs

/-! ### Runs -/

theorem kept_of_shifts {service : EventService} (w w' : World) (h : w.Kept service)
    (hs : Shifts w w') : w'.Kept service := by
  intro eventId event hevent
  rw [hs.1.1] at hevent
  rw [hs.2]
  exact h eventId event hevent

theorem kept_start {service : EventService} {w : World} (hnone : w.reports = [])
    (hstored : ∀ eventId, ∀ event ∈ w.db.store.events eventId,
      event.retryCount = 0 ∧ ∃ p ∈ service.processors, Awaits event p) : w.Kept service := by
  intro eventId event hevent
  obtain ⟨hcount, p, hp, hawaits⟩ := hstored eventId event hevent
  rw [hnone]
  have hnobody : ∀ name, ¬Reported eventId [] name :=
    fun _ ⟨_, hr, _⟩ => absurd hr List.not_mem_nil
  exact ⟨fun name h => absurd h (hnobody name), hcount,
    fun hall => absurd (hall p hp hawaits) (hnobody p.processorName)⟩

/-- **Rows tell the truth** about the reports, once they are complete, where writes find the
processors and the count that were read, no success completes reports one of which stands as a
failure, and no event whose reports are complete is put back to pending. -/
theorem statuses_truthful (service : EventService) {ι : Type*} [DecidableEq ι]
    (requests : ι → Request) (hdecided : ∀ i, (requests i).Decided) (w : World)
    (hnone : w.reports = []) (hstored : ∀ eventId, ∀ event ∈ w.db.store.events eventId,
      event.retryCount = 0 ∧ ∃ p ∈ service.processors, Awaits event p) (pool : EventPool ι)
    (hpool : EventRun (InTurn service) (EventPool.start service requests w) pool) :
    pool.state.Truthful service := by
  have hsound : Pool.AllSound (Terms.ofInv (World.Kept service)) handle
      (fun _ => InTurn service) (fun _ => Promise) (fun _ _ _ _ => True) pool :=
    hpool.sound ⟨kept_start hnone hstored, fun i => serve_sound (hdecided i)⟩
      (fun _ _ _ _ h => h) (fun _ _ _ _ hw hturn hG => ⟨handle_kept hw hturn hG, trivial⟩)
      fun w w' hw hs => ⟨kept_of_shifts w w' hw hs, trivial⟩
  exact hsound.1.truthful

/-! ### Two processors -/

def twoProcessors : EventService where
  processors := [{ processorName := ['a'] }, { processorName := ['b'] }]

def oneEvent : World where
  db :=
    { store :=
        { events := fun id =>
            if id = ['e'] then some ⟨['t'], .backend, .pending, none, [], none, 0⟩ else none
          results := [] }
      clock := 0
      link := .up }
  reports := []

def reportBy (name : PyStr) (status : ProcessingStatus) : Request :=
  .mark ['e'] name { eventId := ['e'], processorName := name, status, processedAt := 0 }

def failAndSucceed : Fin 2 → Request
  | 0 => reportBy ['a'] .failed
  | 1 => reportBy ['b'] .success

def oneAfterOther : EventPool (Fin 2) :=
  (EventPool.start twoProcessors failAndSucceed oneEvent).schedule handle [0, 0, 0, 1, 1, 1, 1]

/-- The event is processed, although the report of the first processor is a failure. -/
theorem not_statuses_truthful : EventRun (fun _ _ _ => True)
    (EventPool.start twoProcessors failAndSucceed oneEvent) oneAfterOther ∧
      ¬oneAfterOther.state.Truthful twoProcessors := by
  refine ⟨Pool.Reach.start.schedule (Pool.permitted_anyCall _ _ _), fun h => ?_⟩
  have hfound : ∃ event ∈ oneAfterOther.state.db.store.events ['e'],
      AllReported ['e'] oneAfterOther.state.reports twoProcessors event ∧
        event.status ≠ if Failing ['e'] oneAfterOther.state.reports then .failed
          else .processed := by decide +kernel
  obtain ⟨event, hevent, hall, hstatus⟩ := hfound
  exact hstatus (h ['e'] event hevent hall).status

def succeedAndFail : Fin 3 → Request
  | 0 => reportBy ['a'] .success
  | 1 => .poll 10 [['e']]
  | 2 => reportBy ['b'] .failed

def claimedBetween : EventPool (Fin 3) :=
  (EventPool.start twoProcessors succeedAndFail oneEvent).schedule handle
    [0, 1, 0, 0, 0, 2, 2, 2]

theorem statuses_truthful_claimedBetween : claimedBetween.state.Truthful twoProcessors :=
  statuses_truthful twoProcessors succeedAndFail (by decide) oneEvent rfl
    (fun eventId event hevent => by
      change event ∈ (if eventId = ['e'] then _ else none : Option Event) at hevent
      split at hevent
      · obtain rfl := Option.some.inj hevent
        exact ⟨rfl, by decide⟩
      · cases hevent)
    claimedBetween (Pool.Reach.start.schedule (by decide +kernel))

end IsaUser.Events
