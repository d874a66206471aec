import IsaUser.Events.Delivery
import IsaUser.Lib.Allowance

/-!
# Events Are Handed Out Once

A replica starts a processor on an event only when it was handed the event, and puts an event in its
queue only when it has inserted it. An event is inserted once, so it is in the queues once and is
taken from them once. A poll claims an event that is pending, and nothing puts an event back to
pending, so it is claimed once. What is left is that the two ways know nothing of each other.
-/

open IsaUser.Prog List Function

namespace IsaUser.Events.Delivery

/-! ### What is earned and spent -/

/-- What a replica needs to put an event in its queue, and to start a processor on an event. -/
inductive Token where
  | entry (eventId : PyStr)
  | turn (eventId processorId : PyStr)

def Inserts (eventId : PyStr) : World × Call → Prop
  | (w, .insertEvent eventId' _) => eventId' = eventId ∧ w.base.db.link ≠ .down ∧
      w.base.db.store.events eventId' = none
  | _ => False

instance (eventId : PyStr) : DecidablePred (Inserts eventId)
  | (w, .insertEvent eventId' _) => inferInstanceAs (Decidable (eventId' = eventId ∧
      w.base.db.link ≠ .down ∧ w.base.db.store.events eventId' = none))
  | (_, .stored _) | (_, .put ..) | (_, .get _) | (_, .execute ..) => .isFalse id

def Puts (eventId : PyStr) : Call → Prop
  | .put _ eventId' _ => eventId' = eventId
  | _ => False

instance (eventId : PyStr) : DecidablePred (Puts eventId)
  | .put _ eventId' _ => inferInstanceAs (Decidable (eventId' = eventId))
  | .stored _ | .insertEvent .. | .get _ | .execute .. => .isFalse id

def earns (e : World × Call) : Token → Prop
  | .entry eventId => Inserts eventId e
  | .turn eventId _ => Hands eventId e

instance (e : World × Call) : DecidablePred (earns e)
  | .entry eventId => inferInstanceAs (Decidable (Inserts eventId e))
  | .turn eventId _ => inferInstanceAs (Decidable (Hands eventId e))

def spends (c : Call) : Token → Prop
  | .entry eventId => Puts eventId c
  | .turn eventId processorId => Executes eventId processorId c

instance (c : Call) : DecidablePred (spends c)
  | .entry eventId => inferInstanceAs (Decidable (Puts eventId c))
  | .turn eventId processorId => inferInstanceAs (Decidable (Executes eventId processorId c))

def turns (eventId : PyStr) : Set Token := {k | ∃ processorId, k = .turn eventId processorId}

section Thrifty

variable {α : Type} {left : Set Token} {past : DeliveryPast} {eventId : PyStr} {event : Event}
  {message : Option PyStr} {w : World} {processors : Dict PyStr EventProcessor} {replica : ℕ}

abbrev Left (left : Set Token) (past : DeliveryPast) : Prop := Allowed earns spends left past

abbrev Thrifty (Q : Except DeliveryError α → DeliveryPast → Prop) (p : DeliveryM α)
    (past : DeliveryPast) : Prop :=
  p.Thrifty handle earns spends Q past

theorem thrifty_make {c : Call} {f : c.Reply → DeliveryM α}
    {Q : Except DeliveryError α → DeliveryPast → Prop}
    (h : ∀ w, Affords earns spends past c ∧ Thrifty Q (f (handle c w).1) ((w, c) :: past)) :
    Thrifty Q (make c >>= f) past :=
  Thrifty.call h

theorem thrifty_stored {p : EventM α} (hpast : Left left past) :
    Thrifty (fun _ past => Left left past) (stored p) past := by
  refine Thrifty.of_only (Only.embed (only_of_forall p fun c k => ?_)) hpast
  cases k <;> exact id

theorem spends_execute {eventId processorId : PyStr} (k : Token) :
    spends (.execute eventId processorId) k ↔ k = .turn eventId processorId := by
  cases k with
  | entry id => exact ⟨False.elim, nofun⟩
  | turn id id' =>
    change eventId = id ∧ processorId = id' ↔ _
    rw [Token.turn.injEq, eq_comm, @eq_comm _ processorId]

theorem spends_put (k : Token) : spends (.put replica eventId event) k ↔ k = .entry eventId := by
  cases k with
  | entry id =>
    change eventId = id ↔ _
    rw [Token.entry.injEq, eq_comm]
  | turn id id' => exact ⟨False.elim, nofun⟩

theorem thrifty_executeProcessors {processors : List (PyStr × EventProcessor)}
    (hpast : Left left past) (hleft : ∀ p ∈ processors, Token.turn eventId p.1 ∈ left)
    (hkeys : (processors.map Prod.fst).Nodup) :
    Thrifty (fun _ past => Left (left \ turns eventId) past)
      (executeProcessors eventId event message processors) past := by
  induction processors generalizing left past with
  | nil => exact .ret (hpast.mono Set.sdiff_subset)
  | cons p processors ih =>
    obtain ⟨processorId, processor⟩ := p
    rw [map_cons, nodup_cons] at hkeys
    have htail : ∀ p ∈ processors, Token.turn eventId p.1 ∈ left :=
      fun p hp => hleft p (mem_cons_of_mem _ hp)
    rw [executeProcessors]
    split
    · refine thrifty_make fun w => ?_
      obtain ⟨hafford, hspent⟩ := hpast.spend (s := w) (hleft _ mem_cons_self) spends_execute
      have hturns : left \ turns eventId ⊆ (left \ {.turn eventId processorId}) \ turns eventId :=
        fun k hk => ⟨⟨hk.1, fun h => hk.2 ⟨processorId, h⟩⟩, hk.2⟩
      refine ⟨hafford, (thrifty_stored hspent).bind (fun _ past' hpast' => ?_) ?_⟩
      · refine (ih hpast' (fun p hp => ⟨htail p hp, fun h => ?_⟩) hkeys.2).mono
          fun _ _ h => h.mono hturns
        obtain ⟨-, hid⟩ := Token.turn.inj h
        exact hkeys.1 (hid ▸ mem_map_of_mem hp)
      · exact fun _ _ h => h.mono fun k hk => (hturns hk).1
    · exact ih hpast htail hkeys.2

/-- `_process_event` raises nothing and spends the turns of its event. -/
theorem thrifty_processEventInner (hpast : Left left past) (hleft : turns eventId ⊆ left) :
    Thrifty (fun _ past => Left (left \ turns eventId) past)
      (processEventInner processors eventId event message) past :=
  (thrifty_executeProcessors hpast (fun p _ => hleft ⟨p.1, rfl⟩) processors.unique).tryCatch
    (fun _ _ h => h) fun _ _ h => .ret h

theorem thrifty_reportEvent {status : ProcessingStatus} (hpast : Left left past) :
    Thrifty (fun _ past => Left left past) (reportEvent eventId status message) past :=
  (thrifty_stored hpast).bind (fun _ _ h => .ret h) fun _ _ h => h

theorem thrifty_processEvent (hpast : Left left past) (hleft : turns eventId ⊆ left) :
    Thrifty (fun _ past => Left (left \ turns eventId) past)
      (processEvent processors eventId event message) past := by
  refine Thrifty.tryCatch (Q := fun _ past => Left (left \ turns eventId) past) ?_
    (fun _ _ h => h) fun _ _ h => thrifty_reportEvent h
  exact (thrifty_processEventInner hpast hleft).bind (fun _ _ h => thrifty_reportEvent h)
    fun _ _ h => h

theorem thrifty_processAll {message : PyStr → Option PyStr} {events : List (PyStr × Event)}
    (hpast : Left left past) (hleft : ∀ row ∈ events, turns row.1 ⊆ left)
    (hkeys : (events.map Prod.fst).Nodup) :
    Thrifty (fun _ past => Left ∅ past) (processAll processors message events) past := by
  induction events generalizing left past with
  | nil => exact .ret (hpast.mono (Set.empty_subset _))
  | cons row events ih =>
    obtain ⟨eventId, event⟩ := row
    rw [map_cons, nodup_cons] at hkeys
    have hhead : Thrifty (fun _ past => Left (left \ turns eventId) past)
        ((processEvent processors eventId event (message eventId)).tryCatch fun _ => .ret ())
        past :=
      (thrifty_processEvent hpast (hleft _ mem_cons_self)).tryCatch (fun _ _ h => h)
        fun _ _ h => .ret h
    refine hhead.bind (fun _ past' hpast' => ih hpast' (fun row hrow k hk => ?_) hkeys.2)
      fun _ _ h => h.mono (Set.empty_subset _)
    refine ⟨hleft row (mem_cons_of_mem _ hrow) hk, fun h => ?_⟩
    obtain ⟨processorId, rfl⟩ := hk
    obtain ⟨processorId', hk'⟩ := h
    obtain ⟨hid, -⟩ := Token.turn.inj hk'
    have hmem : row.1 ∈ events.map Prod.fst := mem_map_of_mem hrow
    exact hkeys.1 (hid ▸ hmem)

theorem thrifty_processNext {message : PyStr → Option PyStr} (hpast : Left ∅ past) :
    Thrifty (fun _ past => Left ∅ past) (processNext replica processors message) past := by
  have hfree : ∀ k, ¬spends (.get replica) k := fun k => by cases k <;> exact id
  refine Thrifty.tryCatch (Q := fun _ past => Left ∅ past) (thrifty_make fun w => ?_)
    (fun _ _ h => h) fun _ _ h => .ret h
  have hearned := hpast.earn (s := w) hfree
  refine ⟨fun k hk => (hfree k hk).elim, ?_⟩
  cases hnext : (w.queues replica).head? with
  | none =>
    rw [show (handle (.get replica) w).1 = none from hnext]
    exact .ret (hearned.mono (Set.empty_subset _))
  | some row =>
    rw [show (handle (.get replica) w).1 = some row from hnext]
    refine (thrifty_processEventInner hearned fun k hk => .inr ?_).mono
      fun _ _ h => h.mono (Set.empty_subset _)
    obtain ⟨processorId, rfl⟩ := hk
    exact .inr (show row.1 ∈ (w.queues replica).head?.map Prod.fst by rw [hnext]; rfl)

theorem thrifty_processEventQueue {rounds : List (PyStr → Option PyStr)} (hpast : Left ∅ past) :
    Thrifty (fun _ past => Left ∅ past) (processEventQueue replica processors rounds) past := by
  induction rounds generalizing past with
  | nil => exact .ret hpast
  | cons message rounds ih =>
    exact (thrifty_processNext hpast).bind (fun _ _ h => ih h) fun _ _ h => h

theorem map_fst_rows_sublist (s : EventStore) (ids : List PyStr) :
    ((s.rows ids).map Prod.fst).Sublist ids := by
  induction ids with
  | nil => exact .slnil
  | cons id ids ih =>
    rw [EventStore.rows, filterMap_cons]
    cases s.events id with
    | none => exact ih.cons id
    | some event => exact ih.cons_cons id

theorem thrifty_getUnprocessedEvents {limit : ℕ} {ids : List PyStr} (hpast : Left ∅ past) :
    Thrifty (fun r past => ∃ left, Left left past ∧ ∀ events, r = .ok events →
        (∀ row ∈ events, turns row.1 ⊆ left) ∧ (events.map Prod.fst).Nodup)
      (stored (getUnprocessedEvents limit ids.dedup)) past := by
  have hfree : ∀ k, ¬spends (.stored (.call (.claimPending limit ids.dedup))) k :=
    fun k => by cases k <;> exact id
  refine Thrifty.call fun w => ⟨fun k hk => (hfree k hk).elim, ?_⟩
  have hearned := hpast.earn (s := w) hfree
  cases hreply : (handle (.stored (.call (.claimPending limit ids.dedup))) w).1 with
  | error e => exact .ret ⟨∅, hearned.mono (Set.empty_subset _), by rintro _ ⟨⟩; simp⟩
  | ok events =>
    obtain ⟨hlink, hanswer, -⟩ := Clocked.handle_ok (m := w.base.db) hreply
    obtain rfl := Except.ok.inj hanswer
    refine .ret ⟨_, hearned, ?_⟩
    rintro _ ⟨⟩
    set claimed := w.base.db.store.claimed limit ids.dedup
    have hsub := map_fst_rows_sublist (w.base.db.store.claim claimed) claimed
    refine ⟨fun row hrow k hk => .inr ?_, hsub.nodup ?_⟩
    · obtain ⟨processorId, rfl⟩ := hk
      refine .inl ?_
      rw [claimedBy, if_pos hlink]
      exact hsub.subset (mem_map_of_mem hrow)
    · exact ((take_sublist _ _).trans filter_sublist).nodup (nodup_dedup ids)

theorem thrifty_processBatch {batchSize : ℕ} {round : Round} (hpast : Left ∅ past) :
    Thrifty (fun _ past => Left ∅ past) (processBatch processors batchSize round) past := by
  refine Thrifty.tryCatch (Q := fun _ past => Left ∅ past) ?_ (fun _ _ h => h)
    fun _ _ h => .ret h
  refine (thrifty_getUnprocessedEvents hpast).bind (fun events past' h => ?_) fun _ _ h => ?_
  · obtain ⟨left, hpast', hevents⟩ := h
    obtain ⟨hleft, hkeys⟩ := hevents events rfl
    exact thrifty_processAll hpast' hleft hkeys
  · obtain ⟨left, hpast', -⟩ := h
    exact hpast'.mono (Set.empty_subset _)

theorem thrifty_processPendingEvents {batchSize : ℕ} {rounds : List Round} (hpast : Left ∅ past) :
    Thrifty (fun _ past => Left ∅ past) (processPendingEvents processors batchSize rounds)
      past := by
  induction rounds generalizing past with
  | nil => exact .ret hpast
  | cons round rounds ih =>
    exact (thrifty_processBatch hpast).bind (fun _ _ h => ih h) fun _ _ h => h

theorem inserts_of_ok {count : ℕ}
    (h : (handle (.insertEvent eventId event) w).1 = (.ok count : Except EventError ℕ)) :
    count = 1 ∧ Inserts eventId (w, .insertEvent eventId event) := by
  change (w.base.db.link.pass EventError.unavailable (insertRow eventId event w.base.db.store)
    w.base.db.store).1 = _ at h
  cases hlink : w.base.db.link with
  | up =>
    rw [hlink] at h
    rw [insertRow] at h
    split at h
    · next hnone => exact ⟨(Except.ok.inj h).symm, rfl, by simp [hlink], hnone⟩
    · cases h
  | down =>
    rw [hlink] at h
    cases h
  | lost =>
    rw [hlink] at h
    cases h

theorem thrifty_saveEvent (hpast : Left ∅ past) :
    Thrifty (fun r past => ∃ left, Left left past ∧
        ∀ saved, r = .ok saved → saved.1 = eventId ∧ Token.entry eventId ∈ left)
      (saveEvent eventId event) past := by
  have hfree : ∀ k, ¬spends (.insertEvent eventId event) k := fun k => by cases k <;> exact id
  refine thrifty_make fun w => ⟨fun k hk => (hfree k hk).elim, ?_⟩
  have hearned := hpast.earn (s := w) hfree
  cases hreply : (handle (.insertEvent eventId event) w).1 with
  | error e => exact .raise ⟨_, hearned, nofun⟩
  | ok count =>
    obtain ⟨rfl, hinserts⟩ := inserts_of_ok hreply
    refine .ret ⟨_, hearned, ?_⟩
    rintro _ ⟨⟩
    exact ⟨rfl, .inr hinserts⟩

/-- `create_event` puts the event that it has inserted in the queue. -/
theorem thrifty_createEvent {eventType : PyStr} {eventSource : EventSource} (hpast : Left ∅ past) :
    Thrifty (fun _ past => Left ∅ past) (createEvent replica eventId eventType eventSource)
      past := by
  refine (thrifty_saveEvent hpast).bind (fun saved past' h => ?_) fun _ _ h => ?_
  · obtain ⟨left, hpast', hsaved⟩ := h
    obtain ⟨hid, hleft⟩ := hsaved saved rfl
    refine Thrifty.call fun w => ?_
    rw [hid]
    obtain ⟨hafford, hspent⟩ := hpast'.spend (s := w) hleft spends_put
    exact ⟨hafford, .ret (hspent.mono (Set.empty_subset _))⟩
  · obtain ⟨left, hpast', -⟩ := h
    exact hpast'.mono (Set.empty_subset _)

theorem thrifty_serve {processors : ℕ → Dict PyStr EventProcessor} (request : Request) :
    Thrifty (fun _ _ => True) (request.serve processors) [] := by
  refine Thrifty.mono (Q := fun _ past => Left ∅ past) ?_ fun _ _ _ => trivial
  cases request with
  | create replica eventId eventType eventSource => exact thrifty_createEvent .nil
  | processQueue replica rounds => exact thrifty_processEventQueue .nil
  | processPending replica batchSize rounds => exact thrifty_processPendingEvents .nil
  | retry maxRetries ids =>
    exact (thrifty_stored .nil).bind (fun _ _ h => .ret h) fun _ _ h => h

end Thrifty

/-! ### The table -/

section Rows

variable {eventId : PyStr} {event row : Event} {w : World} {c : Call}

def Present (eventId : PyStr) (w : World) : Prop := ∃ row, w.base.db.store.events eventId = some row

def Settled (eventId : PyStr) (w : World) : Prop :=
  ∃ row, w.base.db.store.events eventId = some row ∧ row.status ≠ .pending

def Settles : Call → Prop
  | .stored (.call (.updateEvent _ event _)) => event.status ≠ .pending
  | _ => True

theorem row_execute {s : EventStore} {c : Events.Call} (hc : Settles (.stored (.call c)))
    (h : s.events eventId = some row) : ∃ row', (Events.execute c s).2.events eventId = some row' ∧
      (row.status ≠ .pending → row'.status ≠ .pending) := by
  cases c with
  | selectEvent id => exact ⟨row, h, fun h => h⟩
  | selectFailed p ids => exact ⟨row, h, fun h => h⟩
  | insertResult result => exact ⟨row, h, fun h => h⟩
  | updateEvent id event report =>
    change ∃ row', update s.events id _ eventId = some row' ∧ _
    rcases eq_or_ne eventId id with rfl | hne
    · rw [update_self, h]
      exact ⟨_, rfl, fun _ => hc⟩
    · rw [update_of_ne hne]
      exact ⟨row, h, fun h => h⟩
  | claimPending limit ids =>
    change ∃ row', (if eventId ∈ s.claimed limit ids then (s.events eventId).map Event.claim
      else s.events eventId) = some row' ∧ _
    split
    · rw [h]
      exact ⟨row.claim, rfl, fun _ => nofun⟩
    · exact ⟨row, h, fun h => h⟩

theorem row_handle (hc : Settles c) (h : w.base.db.store.events eventId = some row) :
    ∃ row', (handle c w).2.base.db.store.events eventId = some row' ∧
      (row.status ≠ .pending → row'.status ≠ .pending) := by
  cases c with
  | put replica id event => exact ⟨row, h, fun h => h⟩
  | get replica => exact ⟨row, h, fun h => h⟩
  | execute id processorId => exact ⟨row, h, fun h => h⟩
  | stored c =>
    cases c with
    | now => exact ⟨row, h, fun h => h⟩
    | call c =>
      change ∃ row', (Events.handle (.call c) w.base).2.db.store.events eventId = some row' ∧ _
      rw [Events.handle_store]
      split
      · exact ⟨row, h, fun h => h⟩
      · exact row_execute hc h
  | insertEvent id event =>
    have hinsert : (insertRow id event w.base.db.store).2.events eventId = some row := by
      rw [insertRow]
      split
      · next hnone =>
          have hne : eventId ≠ id := by
            rintro rfl
            rw [h] at hnone
            cases hnone
          exact (update_of_ne hne _ _).trans h
      · exact h
    change ∃ row', (w.base.db.link.pass EventError.unavailable
      (insertRow id event w.base.db.store) w.base.db.store).2.events eventId = some row' ∧ _
    cases w.base.db.link with
    | down => exact ⟨row, h, fun h => h⟩
    | up => exact ⟨row, hinsert, fun h => h⟩
    | lost => exact ⟨row, hinsert, fun h => h⟩

theorem present_handle (hc : Settles c) (h : Present eventId w) :
    Present eventId (handle c w).2 := by
  obtain ⟨row, hrow⟩ := h
  obtain ⟨row', hrow', -⟩ := row_handle hc hrow
  exact ⟨row', hrow'⟩

theorem settled_handle (hc : Settles c) (h : Settled eventId w) :
    Settled eventId (handle c w).2 := by
  obtain ⟨row, hrow, hstatus⟩ := h
  obtain ⟨row', hrow', hkeeps⟩ := row_handle hc hrow
  exact ⟨row', hrow', hkeeps hstatus⟩

theorem present_of_inserts (h : Inserts eventId (w, c)) :
    ¬Present eventId w ∧ Present eventId (handle c w).2 := by
  cases c with
  | insertEvent id event =>
    obtain ⟨rfl, hlink, hnone⟩ := h
    refine ⟨fun ⟨row, hrow⟩ => ?_, event, ?_⟩
    · rw [hnone] at hrow
      cases hrow
    · have hinsert : (insertRow id event w.base.db.store).2.events id = some event := by
        rw [insertRow, hnone]
        exact update_self id _ _
      change (w.base.db.link.pass EventError.unavailable
        (insertRow id event w.base.db.store) w.base.db.store).2.events id = _
      cases hw : w.base.db.link with
      | down => exact absurd hw hlink
      | up => exact hinsert
      | lost => exact hinsert
  | stored c => exact h.elim
  | put replica id event => exact h.elim
  | get replica => exact h.elim
  | execute id processorId => exact h.elim

theorem settled_of_claims (h : eventId ∈ claimedBy (w, c)) :
    ¬Settled eventId w ∧ Settled eventId (handle c w).2 := by
  rw [claimedBy.eq_def] at h
  split at h
  · next w' limit ids heq =>
      obtain ⟨rfl, rfl⟩ := Prod.mk.inj heq
      split at h
      · next hlink =>
          have hpending := of_mem_filter (mem_of_mem_take h)
          obtain ⟨row, hrow, hstatus⟩ := (Option.any_eq_true ..).mp hpending
          refine ⟨fun ⟨row', hrow', hnot⟩ => ?_, row.claim, ?_, nofun⟩
          · rw [hrow] at hrow'
            obtain rfl := Option.some.inj hrow'
            exact hnot (of_decide_eq_true hstatus)
          · change (Events.handle (.call (.claimPending limit ids)) w.base).2.db.store.events _ = _
            rw [Events.handle_store, if_neg (by simp [hlink])]
            change (if eventId ∈ _ then _ else _) = _
            rw [if_pos h, hrow]
            rfl
      · cases h
  · cases h

end Rows

/-! ### No event is put back -/

section Settle

variable {eventId name : PyStr} {event : Event} {result : EventProcessingResult}
  {status : ProcessingStatus} {message : Option PyStr} {processors : Dict PyStr EventProcessor}

abbrev SettlesRow (c : Timed Events.Call) : Prop := Settles (.stored c)

theorem settles_getEvent : (getEvent eventId).Only SettlesRow :=
  Only.tryCatch (only_query (I := EventApi.timed) trivial) fun _ => trivial

theorem settles_mark (h : result.status = .success ∨ result.status = .failed) :
    (event.mark name result).Obeys SettlesRow
      fun r => ∀ marked, r = .ok marked → marked.status ≠ .pending := by
  rw [Event.mark]
  rcases h with h | h
  · rw [h]
    refine (Only.obeys (only_query (I := EventApi.timed) trivial)).bind
      (fun time _ => ?_) nofun
    rintro _ ⟨⟩
    exact nofun
  · rw [h]
    rintro _ ⟨⟩
    exact nofun

theorem settles_markEventProcessed (h : result.status = .success ∨ result.status = .failed) :
    (markEventProcessed eventId name result).Only SettlesRow := by
  refine settles_getEvent.bind fun found => ?_
  cases found with
  | none => trivial
  | some event =>
    have hrest : ∀ marked : Event, marked.status ≠ .pending →
        (do
          let _ ← updateEvent eventId marked (some ⟨eventId, name, result.status⟩)
          saveProcessingResult result
          return true : EventM Bool).Only SettlesRow := by
      intro marked hmarked
      refine Only.bind (Only.tryCatch (Only.bind
        (only_query (I := EventApi.timed) hmarked) fun _ => trivial) fun _ => trivial)
        fun _ => ?_
      exact Only.bind (Only.bind (only_query (I := EventApi.timed) trivial)
        fun _ => trivial) fun _ => trivial
    refine Obeys.only (Q := fun _ => True) ?_
    exact (settles_mark h).bind (fun marked hmarked => (hrest marked (hmarked marked rfl)).obeys)
      fun _ _ => trivial

theorem settles_reportOf (h : status = .success ∨ status = .failed) :
    (reportOf eventId name status message).Only SettlesRow :=
  Only.bind (only_query (I := EventApi.timed) trivial) fun _ =>
    settles_markEventProcessed h

theorem settles_executeProcessor {processor : EventProcessor} :
    (executeProcessor eventId processor message).Only SettlesRow :=
  Only.bind ((settles_reportOf (.inl rfl)).tryCatch fun _ => settles_reportOf (.inr rfl))
    fun _ => trivial

theorem settles_stored {α : Type} {p : EventM α} (hp : p.Only SettlesRow) :
    (stored p).Only Settles :=
  Only.embed hp

theorem settles_executeProcessors {processors : List (PyStr × EventProcessor)} :
    (executeProcessors eventId event message processors).Only Settles := by
  induction processors with
  | nil => trivial
  | cons p processors ih =>
    rw [executeProcessors]
    split
    · exact ⟨trivial, fun _ => (settles_stored settles_executeProcessor).bind fun _ => ih⟩
    · exact ih

theorem settles_processEventInner :
    (processEventInner processors eventId event message).Only Settles :=
  settles_executeProcessors.tryCatch fun _ => trivial

theorem settles_reportEvent (h : status = .success ∨ status = .failed) :
    (reportEvent eventId status message).Only Settles :=
  (settles_stored (settles_reportOf h)).bind fun _ => trivial

theorem settles_processEvent : (processEvent processors eventId event message).Only Settles :=
  Only.tryCatch (settles_processEventInner.bind fun _ => settles_reportEvent (.inl rfl))
    fun _ => settles_reportEvent (.inr rfl)

theorem settles_processAll {message : PyStr → Option PyStr} {events : List (PyStr × Event)} :
    (processAll processors message events).Only Settles := by
  induction events with
  | nil => trivial
  | cons row events ih =>
    exact Only.bind (Only.tryCatch settles_processEvent fun _ => trivial) fun _ => ih

theorem settles_processNext {replica : ℕ} {message : PyStr → Option PyStr} :
    (processNext replica processors message).Only Settles := by
  refine Only.tryCatch (only_call.mpr ⟨trivial, fun next => ?_⟩) fun _ => trivial
  cases next with
  | none => trivial
  | some row => exact settles_processEventInner

theorem settles_processBatch {batchSize : ℕ} {round : Round} :
    (processBatch processors batchSize round).Only Settles := by
  have hpoll : (getUnprocessedEvents batchSize round.ids.dedup).Only SettlesRow :=
    Only.tryCatch (only_query (I := EventApi.timed) trivial) fun _ => trivial
  exact Only.tryCatch ((settles_stored hpoll).bind fun _ => settles_processAll)
    fun _ => trivial

theorem settles_serve {processors : ℕ → Dict PyStr EventProcessor} (request : Request) :
    (request.serve processors).Only Settles := by
  cases request with
  | create replica eventId eventType eventSource =>
    have hsave : (saveEvent eventId { eventType, eventSource }).Only Settles := by
      refine ⟨trivial, fun reply => ?_⟩
      cases reply with
      | error e => trivial
      | ok count =>
        change (if 0 < count then _ else _ : DeliveryM _).Only Settles
        split
        · trivial
        · refine (settles_stored settles_getEvent).bind fun found => ?_
          cases found <;> trivial
    exact hsave.bind fun saved => ⟨trivial, fun _ => trivial⟩
  | processQueue replica rounds =>
    induction rounds with
    | nil => trivial
    | cons message rounds ih => exact settles_processNext.bind fun _ => ih
  | processPending replica batchSize rounds =>
    induction rounds with
    | nil => trivial
    | cons round rounds ih => exact settles_processBatch.bind fun _ => ih
  | retry maxRetries ids => exact trivial

end Settle

/-! ### The queues -/

section Queues

variable {ι : Type*} {eventId : PyStr} {w : World} {past : ι → DeliveryPast} {c : Call}

def queued (eventId : PyStr) (w : World) (R : Finset ℕ) : ℕ :=
  ∑ replica ∈ R, (w.queues replica).countP fun row => row.1 = eventId

def Supplied (eventId : PyStr) (w : World) (past : ι → DeliveryPast) : Prop :=
  ∀ (R : Finset ℕ) (S : Finset ι), ∃ S', queued eventId w R +
    callsOf past (fun e => eventId ∈ takenBy e) S ≤ callsOf past (fun e => Puts eventId e.2) S'

theorem queues_withQueue_self {replica : ℕ} {queue : List (PyStr × Event)} :
    (w.withQueue replica queue).queues replica = queue :=
  update_self ..

theorem queues_withQueue_of_ne {replica r : ℕ} {queue : List (PyStr × Event)} (h : r ≠ replica) :
    (w.withQueue replica queue).queues r = w.queues r :=
  update_of_ne h ..

theorem queued_withQueue_of_mem {replica : ℕ} {queue : List (PyStr × Event)} {R : Finset ℕ}
    (h : replica ∈ R) : queued eventId (w.withQueue replica queue) R +
        ((w.queues replica).countP fun row => row.1 = eventId) =
      queued eventId w R + queue.countP fun row => row.1 = eventId := by
  have hrest : ∑ r ∈ R.erase replica, ((w.withQueue replica queue).queues r).countP
        (fun row => row.1 = eventId) =
      ∑ r ∈ R.erase replica, (w.queues r).countP fun row => row.1 = eventId :=
    Finset.sum_congr rfl fun r hr => by
      rw [queues_withQueue_of_ne (Finset.ne_of_mem_erase hr)]
  rw [queued, queued, ← Finset.sum_erase_add _ _ h, queues_withQueue_self,
    ← Finset.sum_erase_add R (fun r => (w.queues r).countP fun row => row.1 = eventId) h]
  omega

theorem queued_withQueue_of_notMem {replica : ℕ} {queue : List (PyStr × Event)} {R : Finset ℕ}
    (h : replica ∉ R) : queued eventId (w.withQueue replica queue) R = queued eventId w R :=
  Finset.sum_congr rfl fun r hr => by
    rw [queues_withQueue_of_ne]
    rintro rfl
    exact h hr

theorem queued_withQueue_le {replica : ℕ} {queue : List (PyStr × Event)} {R : Finset ℕ} {n : ℕ}
    (h : (queue.countP fun row => row.1 = eventId) ≤
      ((w.queues replica).countP fun row => row.1 = eventId) + n) :
    queued eventId (w.withQueue replica queue) R ≤ queued eventId w R + n := by
  by_cases hmem : replica ∈ R
  · have hsum : queued eventId (w.withQueue replica queue) R +
          ((w.queues replica).countP fun row => row.1 = eventId) =
        queued eventId w R + queue.countP fun row => row.1 = eventId :=
      queued_withQueue_of_mem hmem
    omega
  · rw [queued_withQueue_of_notMem hmem]
    exact Nat.le_add_right _ _

theorem Supplied.shifts {w' : World} (h : Supplied eventId w past) (hw : Shifts w w') :
    Supplied eventId w' past := by
  intro R S
  obtain ⟨S', hS'⟩ := h R S
  have hqueued : queued eventId w' R ≤ queued eventId w R := by
    refine Finset.sum_le_sum fun replica _ => ?_
    rcases hw.2 replica with h | h
    · rw [h]
    · rw [h]
      exact Nat.zero_le _
  exact ⟨S', by omega⟩

variable [DecidableEq ι]

theorem Supplied.other {i : ι} (h : Supplied eventId w past)
    (hqueued : ∀ R, queued eventId (handle c w).2 R ≤ queued eventId w R)
    (htaken : eventId ∉ takenBy (w, c)) (hput : ¬Puts eventId c) :
    Supplied eventId (handle c w).2 (Function.update past i ((w, c) :: past i)) := by
  intro R S
  obtain ⟨S', hS'⟩ := h R S
  refine ⟨S', ?_⟩
  rw [callsOf_update, callsOf_update, if_neg fun h => htaken h.2, if_neg fun h => hput h.2]
  have := hqueued R
  omega

theorem Supplied.handle {i : ι} (h : Supplied eventId w past) :
    Supplied eventId (handle c w).2 (Function.update past i ((w, c) :: past i)) := by
  cases c with
  | stored c => exact h.other (fun _ => le_rfl) nofun id
  | insertEvent id' event => exact h.other (fun _ => le_rfl) nofun id
  | execute id' processorId => exact h.other (fun _ => le_rfl) nofun id
  | put replica id event =>
    by_cases hid : id = eventId
    · -- The call that is made now is counted among those that put the event.
      intro R S
      obtain ⟨S', hS'⟩ := h R S
      refine ⟨insert i S', ?_⟩
      have hqueued : queued eventId (Delivery.handle (.put replica id event) w).2 R ≤
          queued eventId w R + 1 :=
        queued_withQueue_le (by simp [hid])
      have hmono : callsOf past (fun e => Puts eventId e.2) S' ≤
          callsOf past (fun e => Puts eventId e.2) (insert i S') :=
        callsOf_mono (Finset.subset_insert i S')
      rw [callsOf_update, callsOf_update, if_neg fun h => absurd h.2 nofun,
        if_pos ⟨Finset.mem_insert_self i S', hid⟩]
      omega
    · refine h.other (fun R => ?_) nofun hid
      exact queued_withQueue_le (n := 0) (by simp [hid])
  | get replica =>
    cases hqueue : w.queues replica with
    | nil =>
      refine h.other (fun R => queued_withQueue_le (n := 0) (by simp [hqueue])) ?_ id
      simp [takenBy, hqueue]
    | cons row queue =>
      by_cases hid : row.1 = eventId
      · -- The event was in the queue that it is taken from, whether that is looked at or not.
        intro R S
        obtain ⟨S', hS'⟩ := h (insert replica R) S
        refine ⟨S', ?_⟩
        have hqueued :
            queued eventId (w.withQueue replica (w.queues replica).tail) (insert replica R) +
                ((w.queues replica).countP fun row => row.1 = eventId) =
              queued eventId w (insert replica R) +
                (w.queues replica).tail.countP fun row => row.1 = eventId :=
          queued_withQueue_of_mem (Finset.mem_insert_self replica R)
        have hmono : queued eventId (Delivery.handle (.get replica) w).2 R ≤
            queued eventId (w.withQueue replica (w.queues replica).tail) (insert replica R) :=
          Finset.sum_le_sum_of_subset (Finset.subset_insert replica R)
        have htail : ((w.queues replica).countP fun row => row.1 = eventId) =
            ((w.queues replica).tail.countP fun row => row.1 = eventId) + 1 := by
          simp [hqueue, hid]
        have hput : ¬(i ∈ S' ∧ Puts eventId (.get replica)) := fun h => h.2
        rw [callsOf_update, callsOf_update]
        split <;> omega
      · refine h.other (fun R => queued_withQueue_le (n := 0) (by simp [hqueue, hid])) ?_ id
        simpa [takenBy, hqueue] using hid

end Queues

/-! ### Delivery -/

section Delivery

variable {ι : Type*} [DecidableEq ι] {processors : ℕ → Dict PyStr EventProcessor}
  {requests : ι → Request} {base : Events.World} {pool : DeliveryPool ι} {eventId : PyStr}
  {A : ι → (ι → DeliveryPast) → World → Call → Prop}

theorem inserts_once
    (hpool : Pool.Reach handle Shifts A (DeliveryPool.start processors requests base) pool) :
    CalledOnce pool.past (Inserts eventId) := by
  refine hpool.calledOnce (K := Settles) (fun i => settles_serve (requests i))
    (fun w c h => (present_of_inserts h).1) (fun w c h => (present_of_inserts h).2)
    (fun w c hc h => present_handle hc h) fun w w' hw h => ?_
  obtain ⟨row, hrow⟩ := h
  exact ⟨row, by rw [hw.1.1.1, hrow]⟩

theorem claims_once
    (hpool : Pool.Reach handle Shifts A (DeliveryPool.start processors requests base) pool) :
    CalledOnce pool.past fun e => eventId ∈ claimedBy e := by
  refine hpool.calledOnce (K := Settles) (fun i => settles_serve (requests i))
    (fun w c h => (settled_of_claims h).1) (fun w c h => (settled_of_claims h).2)
    (fun w c hc h => settled_handle hc h) fun w w' hw h => ?_
  obtain ⟨row, hrow, hstatus⟩ := h
  exact ⟨row, by rw [hw.1.1.1, hrow], hstatus⟩

theorem allowed
    (hpool : Pool.Reach handle Shifts A (DeliveryPool.start processors requests base) pool)
    (i : ι) :
    Allowed earns spends ∅ (pool.past i) :=
  hpool.allowed (fun i => thrifty_serve (requests i)) i

theorem takes_once
    (hpool : Pool.Reach handle Shifts A (DeliveryPool.start processors requests base) pool) :
    CalledOnce pool.past fun e => eventId ∈ takenBy e := by
  have hentry : CalledOnce pool.past fun e => earns e (.entry eventId) := inserts_once hpool
  have hputs : CalledOnce pool.past fun e => Puts eventId e.2 := hentry.of_allowed (allowed hpool)
  have hsupplied : Supplied eventId pool.state pool.past := by
    refine hpool.keeps_past (J := Supplied eventId) (fun R S => ⟨∅, ?_⟩)
      (fun w w' past hw h => h.shifts hw) fun i past w c _ h => h.handle
    simp [queued, callsOf, DeliveryPool.start, Pool.start]
  intro S
  obtain ⟨S', hS'⟩ := hsupplied ∅ S
  have hone := hputs S'
  omega

theorem claimedBy_eq_nil {e : World × Call} (h : eventId ∈ takenBy e) : claimedBy e = [] := by
  obtain ⟨w, c⟩ := e
  cases c with
  | get replica => rfl
  | stored c => cases h
  | insertEvent id event => cases h
  | put replica id event => cases h
  | execute id processorId => cases h

theorem DeliveredOnce.one_way (h : DeliveredOnce pool) (hexcused : ¬Excused pool eventId) :
    ¬((∃ i, ∃ e ∈ pool.past i, eventId ∈ claimedBy e) ∧
      ∃ i, ∃ e ∈ pool.past i, eventId ∈ takenBy e) := by
  rintro ⟨⟨i, e, he, hclaims⟩, j, e', he', htakes⟩
  obtain ⟨-, rfl⟩ := (h eventId hexcused).1.eq he he' (.inl hclaims) (.inr htakes)
  rw [claimedBy_eq_nil htakes] at hclaims
  cases hclaims

theorem one_way_of_apart (hpool : ApartRun (DeliveryPool.start processors requests base) pool) :
    (∀ i, ∀ e ∈ pool.past i, eventId ∉ claimedBy e) ∨
      ∀ i, ∀ e ∈ pool.past i, eventId ∉ takenBy e := by
  refine hpool.keeps_past (J := fun _ past => (∀ i, ∀ e ∈ past i, eventId ∉ claimedBy e) ∨
    ∀ i, ∀ e ∈ past i, eventId ∉ takenBy e) (.inl fun _ _ he => absurd he not_mem_nil)
    (fun _ _ _ _ h => h) fun i past w c hapart h => ?_
  by_cases hclaims : eventId ∈ claimedBy (w, c)
  · refine .inr (forall_mem_update (hapart.1 eventId hclaims) fun htakes => ?_)
    rw [claimedBy_eq_nil htakes] at hclaims
    cases hclaims
  · by_cases htakes : eventId ∈ takenBy (w, c)
    · exact .inl (forall_mem_update (hapart.2 eventId htakes) hclaims)
    · exact h.imp (fun h => forall_mem_update h hclaims) fun h => forall_mem_update h htakes

/-- **An event is handed out once**, and executed once by each processor, in every run in which no
event goes both ways. -/
theorem deliveredOnce (hpool : ApartRun (DeliveryPool.start processors requests base) pool) :
    DeliveredOnce pool := by
  intro eventId _
  have hhands : CalledOnce pool.past (Hands eventId) := by
    refine (claims_once hpool).or (takes_once hpool) ?_
    rintro ⟨⟨i, e, he, hclaims⟩, j, e', he', htakes⟩
    have hway : (∀ i, ∀ e ∈ pool.past i, eventId ∉ claimedBy e) ∨
        ∀ i, ∀ e ∈ pool.past i, eventId ∉ takenBy e := one_way_of_apart hpool
    rcases hway with h | h
    · exact h i e he hclaims
    · exact h j e' he' htakes
  refine ⟨hhands, fun processorId => ?_⟩
  have hturn : CalledOnce pool.past fun e => earns e (.turn eventId processorId) := hhands
  exact hturn.of_allowed (allowed hpool)

/-- **In every run an event is claimed by one poll and taken from one queue at most**, so that it is
handed out at most twice. -/
theorem handedOut_le_two
    (hpool : Pool.Reach handle Shifts A (DeliveryPool.start processors requests base) pool)
    (eventId : PyStr) : CalledOnce pool.past (fun e => eventId ∈ claimedBy e) ∧
      CalledOnce pool.past (fun e => eventId ∈ takenBy e) ∧
      ∀ S, callsOf pool.past (Hands eventId) S ≤ 2 :=
  ⟨claims_once hpool, takes_once hpool, fun S =>
    callsOf_or_le.trans (add_le_add (claims_once hpool S) (takes_once hpool S))⟩

end Delivery

/-! ### Two replicas -/

def mailers : ℕ → Dict PyStr EventProcessor :=
  fun _ => Dict.empty.set "proc_1".toList { processorName := "mailer".toList }

def noEvents : Events.World where
  db := { store := ⟨fun _ => none, []⟩, clock := 0, link := .up }
  reports := []

def created : Fin 3 → Request
  | 0 => .create 0 "evt_1".toList "user.signup".toList .backend
  | 1 => .processQueue 0 [fun _ => none]
  | 2 => .processPending 1 100 [⟨["evt_1".toList], fun _ => none⟩]

/-- The queue loop delivers the event, and reports that to the table before the poll. -/
theorem deliveredOnce_created : DeliveredOnce
    ((DeliveryPool.start mailers created noEvents).schedule handle
      [0, 0, 1, 1, 1, 1, 1, 1, 1, 2]) :=
  deliveredOnce (Pool.Reach.start.schedule (by decide +kernel))

theorem handedOut_le_two_created : callsOf
    ((DeliveryPool.start mailers created noEvents).schedule handle [0, 0, 1, 1, 2, 2]).past
      (Hands "evt_1".toList) Finset.univ ≤ 2 :=
  (handedOut_le_two (Pool.Reach.start.schedule (Pool.permitted_anyCall handle _ _)) _).2.2 _

/-- The event is taken from the queue and claimed by the poll, and both execute the processor. -/
theorem not_deliveredOnce : ¬∀ (processors : ℕ → Dict PyStr EventProcessor)
    (requests : Fin 3 → Request) (base : Events.World) (pool : DeliveryPool (Fin 3)),
    Pool.Reach handle Shifts Pool.anyCall (DeliveryPool.start processors requests base) pool →
      DeliveredOnce pool := by
  intro h
  have hreach : Pool.Reach handle Shifts Pool.anyCall (DeliveryPool.start mailers created noEvents)
      ((DeliveryPool.start mailers created noEvents).schedule handle [0, 0, 1, 1, 2, 2]) :=
    Pool.Reach.start.schedule (Pool.permitted_anyCall handle _ _)
  have hexcused : ¬Excused ((DeliveryPool.start mailers created noEvents).schedule handle
      [0, 0, 1, 1, 2, 2]) "evt_1".toList := by
    rintro ⟨⟨r, hr, -⟩, -⟩
    exact absurd hr not_mem_nil
  obtain ⟨-, honce⟩ := h _ _ _ _ hreach "evt_1".toList hexcused
  exact absurd (honce "proc_1".toList Finset.univ) (by decide +kernel)

end IsaUser.Events.Delivery
