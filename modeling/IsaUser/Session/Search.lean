import IsaUser.Lib.Paging
import Mathlib.Algebra.Order.Ring.Rat

/-!
# The Search of Messages

The messages of a user that match a query are listed in pages, by rank and then by time, and the
cursor of the next page is the time of the last message. The total counts the messages, and a page
joins them with their sessions.
-/

open List

namespace IsaUser.Session

open Paging

/-! ### The tables -/

/-- The columns of `session.session_messages` that a search reads. -/
structure StoredMessage where
  id : PyStr
  sessionId : PyStr
  userId : PyStr
  role : PyStr
  content : PyStr
  messageType : PyStr
  createdAt : Timestamp
  deriving DecidableEq

/-- The messages, the rows of `session.sessions`, and what the database makes of texts: the two
conditions of a search, the rank, the order in which it finds the messages for the page of a number,
and whether its client takes the text of a cursor for a time. -/
structure SearchStore where
  messages : List StoredMessage
  hasSession : PyStr → Bool
  matchesText : PyStr → PyStr → Bool
  matchesPattern : PyStr → PyStr → Bool
  textRank : PyStr → PyStr → ℚ
  found : ℕ → List StoredMessage → List StoredMessage
  found_perm : ∀ n l, (found n l).Perm l
  takesText : Bool

structure SearchRequest where
  userId : PyStr
  query : PyStr
  limit : ℕ
  limit_pos : 0 < limit
  /-- A blank query is refused. -/
  query_given : query.strip ≠ []

/-- `SearchResultSession`, with its hits. -/
structure SearchResultSession where
  sessionId : PyStr
  hits : List StoredMessage

/-- `SessionSearchResponse`. -/
structure SearchResponse where
  results : List SearchResultSession
  totalHits : ℕ
  nextCursor : Option Timestamp

/-! ### The search -/

def fullText (query : PyStr) : Prop := 3 ≤ query.strip.length

instance (query : PyStr) : Decidable (fullText query) := inferInstanceAs (Decidable (_ ≤ _))

def SearchStore.matching (s : SearchStore) (userId query : PyStr) : List StoredMessage :=
  s.messages.filter fun m => m.userId = userId ∧
    if fullText query then s.matchesText query m.content else s.matchesPattern query m.content

/-- `ORDER BY rank DESC`. -/
def SearchStore.rank (s : SearchStore) (query : PyStr) (m : StoredMessage) : ℚᵒᵈ :=
  OrderDual.toDual (if fullText query then s.textRank query m.content else 1)

def SearchStore.joined (s : SearchStore) (userId query : PyStr) : List StoredMessage :=
  (s.matching userId query).filter fun m => s.hasSession m.sessionId

/-- `search_messages`, for the page of number `n`: the rows and the total. What fails is no row. -/
def SearchStore.searchMessages (s : SearchStore) (userId query : PyStr) (limit n : ℕ)
    (cursor : Option Timestamp) : List StoredMessage × ℕ :=
  if cursor.isSome ∧ s.takesText = false then ([], 0)
  else (page (s.rank query) StoredMessage.createdAt limit s.found (s.joined userId query) n cursor,
    (s.matching userId query).length)

def addHit (m : StoredMessage) : List SearchResultSession → List SearchResultSession
  | [] => [⟨m.sessionId, [m]⟩]
  | r :: rs =>
    if r.sessionId = m.sessionId then { r with hits := r.hits ++ [m] } :: rs else r :: addHit m rs

def SearchStore.searchSessions (s : SearchStore) (r : SearchRequest) (n : ℕ)
    (cursor : Option Timestamp) : Option SearchResponse :=
  if r.query.strip = [] then none
  else
    let (rows, totalHits) := s.searchMessages r.userId r.query.strip r.limit n cursor
    some
      { results := rows.foldl (fun results m => addHit m results) []
        totalHits
        nextCursor := nextCursor StoredMessage.createdAt r.limit rows }

def SearchStore.rows (s : SearchStore) (r : SearchRequest) (n : ℕ) (cursor : Option Timestamp) :
    List StoredMessage :=
  (s.searchMessages r.userId r.query.strip r.limit n cursor).1

/-! ### The law -/

def SearchResponse.hits (response : SearchResponse) : List StoredMessage :=
  response.results.flatMap SearchResultSession.hits

def SearchStore.followPages (s : SearchStore) (r : SearchRequest) :
    ℕ → ℕ → Option Timestamp → Option (List StoredMessage)
  | 0, _, _ => none
  | fuel + 1, n, cursor => do
    let response ← s.searchSessions r n cursor
    match response.nextCursor with
    | none => return response.hits
    | some c => (s.followPages r fuel (n + 1) (some c)).map (response.hits ++ ·)

/-- Following the cursors from the first page ends, and finds each message that matches once, as
many as the total. -/
def FindsAll (s : SearchStore) (r : SearchRequest) : Prop :=
  ∃ fuel first hits, s.searchSessions r 0 none = some first ∧
    s.followPages r fuel 0 none = some hits ∧ hits.Perm (s.matching r.userId r.query.strip) ∧
    hits.length = first.totalHits

/-- All messages have a session; and every cut is clean, or there is one page, where the text of a
cursor is not taken for a time. -/
def Listable (s : SearchStore) (r : SearchRequest) : Prop :=
  (∀ m ∈ s.matching r.userId r.query.strip, s.hasSession m.sessionId = true) ∧
    if s.takesText = true then
      CleanCuts r.limit
        (times (s.rank r.query.strip) StoredMessage.createdAt (s.matching r.userId r.query.strip))
    else (s.matching r.userId r.query.strip).length ≤ r.limit

/-! ### Pages and their messages -/

section Search

variable {s : SearchStore} {r : SearchRequest}

theorem perm_addHit (m : StoredMessage) (results : List SearchResultSession) :
    ((addHit m results).flatMap SearchResultSession.hits).Perm
      (results.flatMap SearchResultSession.hits ++ [m]) := by
  induction results with
  | nil => simp [addHit]
  | cons result results ih =>
    rw [addHit]
    split
    · simpa using (perm_append_singleton m _).symm.append_left result.hits
    · simpa using ih.append_left result.hits

theorem perm_group (rows : List StoredMessage) (results : List SearchResultSession) :
    ((rows.foldl (fun results m => addHit m results) results).flatMap
      SearchResultSession.hits).Perm (results.flatMap SearchResultSession.hits ++ rows) := by
  induction rows generalizing results with
  | nil => simp
  | cons m rows ih =>
    refine (ih (addHit m results)).trans ?_
    simpa using (perm_addHit m results).append_right rows

theorem followPages_rel (fuel n : ℕ) (cursor : Option Timestamp) :
    Option.Rel Perm (s.followPages r fuel n cursor)
      (follow StoredMessage.createdAt r.limit (s.rows r) fuel n cursor) := by
  induction fuel generalizing n cursor with
  | zero => exact .none
  | succ fuel ih =>
    have hhits := perm_group (s.rows r n cursor) []
    rw [SearchStore.followPages, SearchStore.searchSessions, if_neg r.query_given, follow]
    cases hnext : nextCursor StoredMessage.createdAt r.limit (s.rows r n cursor) with
    | none =>
      rw [SearchStore.rows] at hnext
      simp only [Option.bind_eq_bind, Option.bind_some, hnext]
      exact .some hhits
    | some c =>
      rw [SearchStore.rows] at hnext
      simp only [Option.bind_eq_bind, Option.bind_some, hnext]
      have hrest := ih (n + 1) (some c)
      generalize s.followPages r fuel (n + 1) (some c) = left at hrest ⊢
      generalize follow _ _ _ _ _ _ = right at hrest ⊢
      cases hrest with
      | none => exact .none
      | some hrest => exact .some (hhits.append hrest)

theorem exists_follow {fuel : ℕ} (hfuel : (s.joined r.userId r.query.strip).length + 1 < fuel) :
    ∃ hits, follow StoredMessage.createdAt r.limit (s.rows r) fuel 0 none = some hits ∧
      hits ⊆ s.joined r.userId r.query.strip ∧ (hits.Perm (s.joined r.userId r.query.strip) ↔
        if s.takesText = true then CleanCuts r.limit (times (s.rank r.query.strip)
          StoredMessage.createdAt (s.joined r.userId r.query.strip))
        else (s.joined r.userId r.query.strip).length ≤ r.limit) := by
  cases htakes : s.takesText with
  | true =>
    have hrows : s.rows r = page (s.rank r.query.strip) StoredMessage.createdAt r.limit s.found
        (s.joined r.userId r.query.strip) := by
      funext n cursor
      simp [SearchStore.rows, SearchStore.searchMessages, htakes]
    rw [hrows]
    exact follow_perm_iff r.limit_pos s.found_perm (by omega)
  | false =>
    set joined := s.joined r.userId r.query.strip
    set sorted := orderBy (key (s.rank r.query.strip) StoredMessage.createdAt) (s.found 0 joined)
    have hsorted : sorted.Perm joined := (orderBy_perm _ _).trans (s.found_perm 0 joined)
    have hfirst : s.rows r 0 none = sorted.take r.limit := by
      rw [SearchStore.rows, SearchStore.searchMessages, if_neg (by simp)]
      rfl
    have hnone (n : ℕ) (c : Timestamp) : s.rows r n (some c) = [] := by
      simp [SearchStore.rows, SearchStore.searchMessages, htakes]
    refine ⟨sorted.take r.limit, ?_, fun m hm => hsorted.mem_iff.mp (mem_of_mem_take hm), ?_⟩
    · obtain ⟨fuel, rfl⟩ : ∃ n, fuel = n + 2 := ⟨fuel - 2, by omega⟩
      rw [follow, hfirst]
      cases nextCursor StoredMessage.createdAt r.limit (sorted.take r.limit) with
      | none => rfl
      | some c =>
        have hstop : nextCursor StoredMessage.createdAt r.limit [] = none :=
          if_neg r.limit_pos.ne
        simp only [follow, hnone, hstop, Option.map_some, append_nil]
    · rw [if_neg Bool.false_ne_true, ← hsorted.length_eq]
      constructor
      · intro h
        have hlength := h.length_eq.trans hsorted.length_eq.symm
        rw [length_take] at hlength
        omega
      · intro h
        rwa [take_of_length_le h]

theorem joined_eq_iff : s.joined r.userId r.query.strip = s.matching r.userId r.query.strip ↔
    ∀ m ∈ s.matching r.userId r.query.strip, s.hasSession m.sessionId = true :=
  filter_eq_self

theorem listable_of_findsAll (h : FindsAll s r) : Listable s r := by
  obtain ⟨fuel, first, hits, -, hpages, hperm, -⟩ := h
  have hrel := followPages_rel (s := s) (r := r) fuel 0 none
  rw [hpages] at hrel
  generalize hfollow : follow _ _ _ _ _ _ = followed at hrel
  cases hrel with
  | @some _ hits' hsame =>
    obtain ⟨hits₀, hfollow₀, hsub, hiff⟩ := exists_follow (s := s) (r := r)
      (show _ < fuel + ((s.joined r.userId r.query.strip).length + 2) by omega)
    obtain rfl := Option.some.inj ((follow_mono hfollow (Nat.le_add_right _ _)).symm.trans hfollow₀)
    have hall : hits'.Perm (s.matching r.userId r.query.strip) := hsame.symm.trans hperm
    have hsessions : ∀ m ∈ s.matching r.userId r.query.strip, s.hasSession m.sessionId = true :=
      fun m hm => (mem_filter.mp (hsub (hall.mem_iff.mpr hm))).2
    rw [joined_eq_iff.mpr hsessions] at hiff
    exact ⟨hsessions, hiff.mp hall⟩

theorem findsAll_of_listable (h : Listable s r) : FindsAll s r := by
  obtain ⟨hsessions, hcuts⟩ := h
  obtain ⟨hits', hfollow, -, hiff⟩ := exists_follow (s := s) (r := r) (Nat.lt_succ_self _)
  rw [joined_eq_iff.mpr hsessions] at hiff hfollow
  have hrel := followPages_rel (s := s) (r := r)
    ((s.matching r.userId r.query.strip).length + 1 + 1) 0 none
  rw [hfollow] at hrel
  generalize hpages : s.followPages _ _ _ _ = hits at hrel
  cases hrel with
  | @some hits _ hsame =>
    have hall := hsame.trans (hiff.mpr hcuts)
    exact ⟨_, _, hits, if_neg r.query_given, hpages, hall, hall.length_eq⟩

/-- **Paged search returns every hit exactly once**, just if the messages can be listed by their
times. -/
theorem findsAll_iff (s : SearchStore) (r : SearchRequest) : FindsAll s r ↔ Listable s r :=
  ⟨listable_of_findsAll, findsAll_of_listable⟩

end Search

/-! ### An older message that ranks higher -/

def twoStoredMessages : SearchStore where
  messages := [⟨['1'], ['s'], ['u'], [], ['a'], [], 1⟩, ⟨['2'], ['s'], ['u'], [], ['b'], [], 2⟩]
  hasSession _ := true
  matchesText _ _ := true
  matchesPattern _ _ := true
  textRank _ content := if content = ['a'] then 2 else 1
  found _ l := l
  found_perm _ _ := .refl _
  takesText := true

def onePerPage : SearchRequest where
  userId := ['u']
  query := ['a', 'b', 'c']
  limit := 1
  limit_pos := Nat.one_pos
  query_given := by decide

/-- The newer message is never found. -/
theorem not_findsAll_twoMessages : ¬FindsAll twoStoredMessages onePerPage := by
  intro h
  have htimes : times (twoStoredMessages.rank onePerPage.query.strip) StoredMessage.createdAt
      (twoStoredMessages.matching onePerPage.userId onePerPage.query.strip) = [1, 2] := by decide
  have hcuts := (listable_of_findsAll h).2 1
  rw [htimes] at hcuts
  exact absurd ((hcuts (by decide) 1 rfl).2 2 (by decide)) (by decide)

end IsaUser.Session
