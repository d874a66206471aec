import IsaUser.Session.Model
import Mathlib.Algebra.Ring.Rat

/-!
# The Totals of a Session

A session counts its messages, their tokens and their cost. The totals are written as they were read
and added to, so that of two messages added at the same time one is not counted.
-/

open List

namespace IsaUser.Session

/-! ### The law -/

def SessionStore.messagesOf (s : SessionStore) (sessionId : PyStr) : List MessageRow :=
  s.messages.filter fun message => message.sessionId = sessionId

structure Matches (s : SessionStore) (sessionId : PyStr) (row : SessionRow) : Prop where
  messageCount : row.messageCount = (s.messagesOf sessionId).length
  totalTokens : row.totalTokens = ((s.messagesOf sessionId).map MessageRow.tokensUsed).sum
  totalCost : row.totalCost = ((s.messagesOf sessionId).map MessageRow.costUsd).sum

def SessionStore.Matching (s : SessionStore) : Prop :=
  ∀ sessionId, ∀ row ∈ s.sessions sessionId, Matches s sessionId row

def Quiescent {ι : Type*} (pool : SessionPool ι) : Prop := ∀ i, pool.next? i = none

/-! ### The condition -/

def SessionRow.totals (row : SessionRow) : ℤ × ℤ × ℚ :=
  (row.messageCount, row.totalTokens, row.totalCost)

def readBy (sessionId : PyStr) : SessionStore × Call → Option SessionRow
  | (s, .selectSession id) => if id = sessionId then s.sessions sessionId else none
  | _ => none

def lastRead (sessionId : PyStr) (past : SessionPast) : Option SessionRow :=
  past.findSome? (readBy sessionId)

def InTurn (past : SessionPast) (s : SessionStore) : Call → Prop
  | .updateTotals sessionId _ _ _ =>
    (s.sessions sessionId).map SessionRow.totals =
      (lastRead sessionId past).map SessionRow.totals
  | _ => True

instance (past : SessionPast) (s : SessionStore) : DecidablePred (InTurn past s)
  | .updateTotals sessionId _ _ _ => inferInstanceAs (Decidable
      ((s.sessions sessionId).map SessionRow.totals =
        (lastRead sessionId past).map SessionRow.totals))
  | .selectSession _ | .insertMessage _ | .selectMessage _ => .isTrue trivial

/-! ### What is not counted -/

section Owed

variable {s : SessionStore} {sessionId : PyStr} {row : SessionRow} {message : MessageRow}

def MessageRow.share (message : MessageRow) : ℤ × ℤ × ℚ :=
  (1, message.tokensUsed, message.costUsd)

def SessionStore.shares (s : SessionStore) (sessionId : PyStr) : ℤ × ℤ × ℚ :=
  ((s.messagesOf sessionId).map MessageRow.share).sum

def owed (sessionId : PyStr) (s : SessionStore) : ℤ × ℤ × ℚ :=
  s.shares sessionId - (s.sessions sessionId).elim 0 SessionRow.totals

def due (sessionId : PyStr) (e : SessionStore × Call) : ℤ × ℤ × ℚ :=
  owed sessionId (execute e.2 e.1).2 - owed sessionId e.1

theorem shares_eq : s.shares sessionId = (((s.messagesOf sessionId).length : ℤ),
    ((s.messagesOf sessionId).map MessageRow.tokensUsed).sum,
    ((s.messagesOf sessionId).map MessageRow.costUsd).sum) := by
  rw [SessionStore.shares]
  induction s.messagesOf sessionId with
  | nil => rfl
  | cons message messages ih =>
    rw [map_cons, sum_cons, ih, MessageRow.share]
    simp [add_comm]

theorem matches_iff_owed (hrow : s.sessions sessionId = some row) :
    Matches s sessionId row ↔ owed sessionId s = 0 := by
  rw [owed, hrow, sub_eq_zero, Option.elim, shares_eq, SessionRow.totals]
  constructor
  · rintro ⟨hcount, htokens, hcost⟩
    rw [hcount, htokens, hcost]
  · intro h
    obtain ⟨hcount, h⟩ := Prod.mk.inj h
    obtain ⟨htokens, hcost⟩ := Prod.mk.inj h
    exact ⟨hcount.symm, htokens.symm, hcost.symm⟩

theorem due_insertMessage (hfresh : ¬∃ row ∈ s.messages, row.id = message.id) :
    due sessionId (s, .insertMessage message) =
      if message.sessionId = sessionId then message.share else 0 := by
  have hexecute : (execute (.insertMessage message) s).2 =
      { s with messages := message :: s.messages } := by
    rw [execute, if_neg hfresh]
  rw [due, hexecute, owed, owed, sub_sub_sub_cancel_right]
  rw [SessionStore.shares, SessionStore.shares, SessionStore.messagesOf, SessionStore.messagesOf]
  by_cases h : message.sessionId = sessionId
  · rw [if_pos h, filter_cons_of_pos (by simpa using h), map_cons, sum_cons,
      add_sub_cancel_right]
  · rw [if_neg h, filter_cons_of_neg (by simpa using h), sub_self]

theorem due_updateTotals {sessionId' : PyStr} {messageCount totalTokens : ℤ} {totalCost : ℚ}
    (hrow : s.sessions sessionId' = some row) :
    due sessionId (s, .updateTotals sessionId' messageCount totalTokens totalCost) =
      if sessionId' = sessionId then row.totals - (messageCount, totalTokens, totalCost)
      else 0 := by
  rw [due, owed, owed, execute, sub_sub_sub_comm]
  change s.shares sessionId - s.shares sessionId - _ = _
  rw [sub_self, zero_sub, neg_sub, SessionStore.setTotals]
  dsimp only
  by_cases h : sessionId' = sessionId
  · subst h
    rw [if_pos rfl, Function.update_self, hrow]
    rfl
  · rw [if_neg h, Function.update_of_ne (Ne.symm h), sub_self]

end Owed

/-! ### Programs -/

section Programs

def sessionTerms : Terms SessionStore where
  inv _ := True
  rel s s' := (∀ sessionId, (s'.sessions sessionId).isSome = (s.sessions sessionId).isSome) ∧
    ∀ id, (∃ row ∈ s.messages, row.id = id) → ∃ row ∈ s'.messages, row.id = id
  rel_refl _ := ⟨fun _ => rfl, fun _ h => h⟩
  rel_trans h h' := ⟨fun _ => (h'.1 _).trans (h.1 _), fun _ hm => h'.2 _ (h.2 _ hm)⟩

theorem rel_execute (c : Call) (s : SessionStore) : sessionTerms.rel s (execute c s).2 := by
  cases c with
  | selectSession | selectMessage => exact sessionTerms.rel_refl s
  | insertMessage message =>
    rw [execute]
    split
    · exact sessionTerms.rel_refl s
    · refine ⟨fun _ => rfl, fun id h => ?_⟩
      obtain ⟨row, hrow, hid⟩ := h
      exact ⟨row, mem_cons_of_mem _ hrow, hid⟩
  | updateTotals sessionId messageCount totalTokens totalCost =>
    refine ⟨fun sessionId' => ?_, fun _ h => h⟩
    rw [execute, SessionStore.setTotals]
    dsimp only
    rcases eq_or_ne sessionId' sessionId with rfl | hne
    · rw [Function.update_self, Option.isSome_map]
    · rw [Function.update_of_ne hne]

variable {α β : Type} {past : SessionPast} {s : SessionStore} {r : Request}

abbrev SessionSound (Q : SessionPast → Prop) (p : SessionM α) (past : SessionPast)
    (s : SessionStore) : Prop :=
  p.Sound sessionTerms execute InTurn (fun _ _ _ => True) (fun _ past _ => Q past) past s

def Owes (debt : PyStr → ℤ × ℤ × ℚ) (past : SessionPast) : Prop :=
  ∀ sessionId, tally (due sessionId) past = debt sessionId

theorem Owes.cons {debt : PyStr → ℤ × ℤ × ℚ} (h : Owes debt past) {e : SessionStore × Call}
    {debt' : PyStr → ℤ × ℤ × ℚ} (he : ∀ sessionId, due sessionId e + debt sessionId =
      debt' sessionId) : Owes debt' (e :: past) := by
  intro sessionId
  rw [tally_cons, h sessionId]
  exact he sessionId

theorem Owes.read {debt : PyStr → ℤ × ℤ × ℚ} (h : Owes debt past) {c : Call}
    (hc : (execute c s).2 = s) : Owes debt ((s, c) :: past) := by
  refine h.cons fun sessionId => ?_
  rw [due, hc, sub_self, zero_add]

def Request.debt (r : Request) (sessionId : PyStr) : ℤ × ℤ × ℚ :=
  if r.sessionId = sessionId then (1, r.tokensUsed, r.costUsd) else 0

theorem incrementMessageCount_sound (howes : Owes r.debt past)
    (hsession : (s.sessions r.sessionId).isSome) :
    SessionSound (Owes fun _ => 0) (incrementMessageCount r.sessionId r.tokensUsed r.costUsd)
      past s := by
  intro s₁ hs₁ _
  refine ⟨trivial, fun _ => ?_⟩
  obtain ⟨row, hrow⟩ := Option.isSome_iff_exists.mp ((hs₁.1 _).trans hsession)
  have hread : Owes r.debt ((s₁, .selectSession r.sessionId) :: past) := howes.read rfl
  have hlast : lastRead r.sessionId ((s₁, .selectSession r.sessionId) :: past) = some row := by
    have hreadBy : readBy r.sessionId (s₁, .selectSession r.sessionId) = some row := by
      rw [readBy, if_pos rfl, hrow]
    rw [lastRead, findSome?_cons, hreadBy]
  rw [show (execute (.selectSession r.sessionId) s₁).1 = some row from hrow]
  intro s₂ hs₂ _
  refine ⟨trivial, fun hturn _ _ _ => hread.cons fun sessionId => ?_⟩
  have hturn : (s₂.sessions r.sessionId).map SessionRow.totals = some row.totals := by
    have hturn' : (s₂.sessions r.sessionId).map SessionRow.totals =
      (lastRead r.sessionId _).map SessionRow.totals := hturn
    rwa [hlast] at hturn'
  obtain ⟨found, hfound, htotals⟩ := Option.map_eq_some_iff.mp hturn
  rw [due_updateTotals hfound, htotals, Request.debt]
  split
  · simp [SessionRow.totals]
  · exact add_zero 0

theorem createMessage_sound {userId : PyStr} {f : Option MessageRow → SessionM MessageRow}
    (howes : Owes (fun _ => 0) past) (hsession : (s.sessions r.sessionId).isSome)
    (hnone : ∀ past s, Owes (fun _ => 0) past → SessionSound (Owes fun _ => 0) (f none) past s)
    (hsome : ∀ message past s, Owes r.debt past → (s.sessions r.sessionId).isSome →
      SessionSound (Owes fun _ => 0) (f (some message)) past s) :
    SessionSound (Owes fun _ => 0) (createMessage (r.message userId) >>= f) past s := by
  intro s₁ hs₁ _
  refine ⟨trivial, fun _ => ?_⟩
  by_cases htaken : ∃ row ∈ s₁.messages, row.id = (r.message userId).id
  · have hexecute : execute (.insertMessage (r.message userId)) s₁ = (none, s₁) :=
      if_pos htaken
    have hread : Owes (fun _ => 0) ((s₁, .insertMessage (r.message userId)) :: past) :=
      howes.read (congrArg Prod.snd hexecute)
    rw [hexecute]
    exact hnone _ _ hread
  · have hexecute : execute (.insertMessage (r.message userId)) s₁ =
        (some 1, { s₁ with messages := r.message userId :: s₁.messages }) :=
      if_neg htaken
    have hdebt : Owes r.debt ((s₁, .insertMessage (r.message userId)) :: past) := by
      refine howes.cons fun sessionId => ?_
      rw [due_insertMessage htaken, add_zero]
      rfl
    rw [hexecute]
    intro s₂ hs₂ _
    refine ⟨trivial, fun _ => ?_⟩
    obtain ⟨row, hrow, hid⟩ := hs₂.2 r.messageId ⟨_, mem_cons_self, rfl⟩
    have hfound : (s₂.messages.find? fun row => row.id = r.messageId).isSome :=
      find?_isSome.mpr ⟨row, hrow, decide_eq_true hid⟩
    obtain ⟨message, hmessage⟩ := Option.isSome_iff_exists.mp hfound
    rw [show (execute (.selectMessage (r.message userId).id) s₂).1 = some message from hmessage]
    exact hsome message _ _ (hdebt.read rfl) ((hs₂.1 _).trans ((hs₁.1 _).trans hsession))

theorem addMessage_sound (howes : Owes (fun _ => 0) past) :
    SessionSound (Owes fun _ => 0) (addMessage r) past s := by
  intro s₁ hs₁ _
  refine ⟨trivial, fun _ => ?_⟩
  have hread : Owes (fun _ => 0) ((s₁, .selectSession r.sessionId) :: past) := howes.read rfl
  cases hsession : s₁.sessions r.sessionId with
  | none =>
    simp only [Prog.bind, execute, hsession]
    exact fun _ _ _ => hread
  | some session =>
    simp only [Prog.bind, execute, hsession]
    split
    · exact fun _ _ _ => hread
    · split
      · exact fun _ _ _ => hread
      · refine createMessage_sound hread (by rw [hsession]; rfl)
          (fun _ _ howes _ _ _ => howes) fun message past s howes hsession => ?_
        exact Prog.Sound.bind (incrementMessageCount_sound howes hsession)
          (fun _ _ _ h _ _ _ => h) fun _ _ _ h => h

end Programs

/-! ### Runs -/

/-- **The totals of every session are those of its messages** once no call is in progress, where
every update finds the totals that were read. -/
theorem totals_match {ι : Type*} [Fintype ι] [DecidableEq ι] (requests : ι → Request)
    (s : SessionStore) (hmatching : s.Matching) (pool : SessionPool ι)
    (hpool : SessionRun InTurn (SessionPool.start requests s) pool) (hrest : Quiescent pool) :
    pool.state.Matching := by
  have hstart : Pool.AllSound sessionTerms execute (fun _ => InTurn) (fun _ _ _ _ => True)
      (fun _ _ past _ => Owes (fun _ => 0) past) (SessionPool.start requests s) :=
    ⟨trivial, fun _ => addMessage_sound fun _ => rfl⟩
  have hkeeps : ∀ (i : ι) (past : SessionPast) s c, sessionTerms.inv s → InTurn past s c → True →
      sessionTerms.inv (execute c s).2 ∧ sessionTerms.rel s (execute c s).2 :=
    fun _ _ s c _ _ _ => ⟨trivial, rel_execute c s⟩
  have hend := hpool.sound hstart (fun _ _ _ _ h => h) hkeeps fun _ _ _ h => h.elim
  have hlater := hpool.later hstart (fun _ _ _ _ h => h) hkeeps fun _ _ _ h => h.elim
  intro sessionId row hrow
  obtain ⟨row₀, hrow₀⟩ : ∃ row₀, s.sessions sessionId = some row₀ := by
    refine Option.isSome_iff_exists.mp ((hlater.1 sessionId).symm.trans ?_)
    rw [show pool.state.sessions sessionId = some row from hrow]
    rfl
  have howed : owed sessionId pool.state =
      owed sessionId s + ∑ i, tally (due sessionId) (pool.past i) :=
    hpool.measure_eq hstart (fun _ _ _ _ h => h) hkeeps (fun _ _ _ h => h.elim) (owed sessionId)
      (due sessionId) (fun _ _ h => h.elim) fun _ _ _ _ _ _ _ => (add_sub_cancel _ _).symm
  have hsettled : ∑ i, tally (due sessionId) (pool.past i) = 0 := by
    refine Finset.sum_eq_zero fun i _ => ?_
    obtain ⟨-, howes⟩ := hend.of_next? (hrest i)
    exact howes sessionId
  refine (matches_iff_owed hrow).mpr ?_
  rw [howed, hsettled, add_zero]
  exact (matches_iff_owed hrow₀).mp (hmatching sessionId row₀ hrow₀)

/-! ### Two messages -/

def oneSession : SessionStore where
  sessions id := if id = ['s'] then some { userId := ['u'] } else none
  messages := []

theorem matching_oneSession : oneSession.Matching := by
  intro sessionId row hrow
  change row ∈ (if sessionId = ['s'] then _ else none : Option SessionRow) at hrow
  split at hrow
  · obtain rfl := Option.some.inj hrow
    exact ⟨rfl, rfl, rfl⟩
  · cases hrow

def twoMessages (i : Fin 2) : Request :=
  { sessionId := ['s'], role := "user".toList, content := ['c'], tokensUsed := 3, costUsd := 1 / 2,
    messageId := if i = 0 then ['m'] else ['n'] }

def readTogether : SessionPool (Fin 2) :=
  (SessionPool.start twoMessages oneSession).schedule execute [0, 0, 0, 0, 1, 1, 1, 1, 0, 1]

/-- One message is not counted. -/
theorem not_totals_match :
    SessionRun (fun _ _ _ => True) (SessionPool.start twoMessages oneSession) readTogether ∧
      Quiescent readTogether ∧ ¬readTogether.state.Matching := by
  refine ⟨Pool.Reach.start.schedule (Pool.permitted_anyCall _ _ _), ?_, fun h => ?_⟩
  · intro i
    match i with
    | 0 | 1 => rfl
  · have hcount := (h ['s'] _ rfl).messageCount
    exact absurd hcount (by decide +kernel)

def readInTurn : SessionPool (Fin 2) :=
  (SessionPool.start twoMessages oneSession).schedule execute [0, 0, 0, 1, 1, 1, 0, 0, 1, 1]

theorem totals_match_readInTurn : readInTurn.state.Matching := by
  refine totals_match twoMessages oneSession matching_oneSession readInTurn
    (Pool.Reach.start.schedule (by decide +kernel)) fun i => ?_
  match i with
  | 0 | 1 => rfl

end IsaUser.Session
