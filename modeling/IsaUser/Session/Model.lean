import IsaUser.Lib.Pool
import IsaUser.Lib.Values

/-!
# Sessions and Their Messages

A message is inserted, and then the totals of its session are read, added to, and written back.
-/

namespace IsaUser.Session

/-! ### The tables -/

/-- A row of `session.sessions`: its user and its totals. -/
structure SessionRow where
  userId : PyStr
  messageCount : ℤ := 0
  totalTokens : ℤ := 0
  totalCost : ℚ := 0
  deriving DecidableEq

/-- A row of `session.session_messages`. -/
structure MessageRow where
  id : PyStr
  sessionId : PyStr
  userId : PyStr
  role : PyStr
  content : PyStr
  messageType : PyStr
  tokensUsed : ℤ
  costUsd : ℚ
  deriving DecidableEq

structure SessionStore where
  sessions : PyStr → Option SessionRow
  messages : List MessageRow

inductive Call where
  | selectSession (sessionId : PyStr)
  | insertMessage (message : MessageRow)
  | selectMessage (id : PyStr)
  | updateTotals (sessionId : PyStr) (messageCount totalTokens : ℤ) (totalCost : ℚ)

def Call.Reply : Call → Type
  | selectSession _ => Option SessionRow
  | insertMessage _ => Option ℕ
  | selectMessage _ => Option MessageRow
  | updateTotals _ _ _ _ => ℕ

@[reducible] def SessionApi : Interface := ⟨Call, Call.Reply⟩

def SessionRow.withTotals (row : SessionRow) (messageCount totalTokens : ℤ) (totalCost : ℚ) :
    SessionRow :=
  { row with messageCount, totalTokens, totalCost }

def SessionStore.setTotals (s : SessionStore) (sessionId : PyStr) (messageCount totalTokens : ℤ)
    (totalCost : ℚ) : SessionStore where
  sessions := Function.update s.sessions sessionId
    ((s.sessions sessionId).map (·.withTotals messageCount totalTokens totalCost))
  messages := s.messages

def execute : Handler SessionApi SessionStore
  | .selectSession sessionId, s => (s.sessions sessionId, s)
  | .insertMessage message, s =>
    if ∃ row ∈ s.messages, row.id = message.id then (none, s)
    else (some 1, { s with messages := message :: s.messages })
  | .selectMessage id, s => (s.messages.find? fun row => row.id = id, s)
  | .updateTotals sessionId messageCount totalTokens totalCost, s =>
    ((s.sessions sessionId).toList.length,
      s.setTotals sessionId messageCount totalTokens totalCost)

/-! ### The repositories -/

inductive SessionError where
  /-- "Session not found: …". -/
  | sessionNotFound
  /-- "role is required". -/
  | roleRequired
  /-- "content is required". -/
  | contentRequired
  /-- "role must be one of: user, assistant, system". -/
  | unknownRole
  /-- "Failed to add message: Failed to create message". -/
  | notCreated
  deriving DecidableEq, Repr

abbrev SessionM := Prog SessionApi SessionError

def ask (c : Call) : SessionM c.Reply := Prog.perform (I := SessionApi) c

def getBySessionId (sessionId : PyStr) : SessionM (Option SessionRow) :=
  ask (.selectSession sessionId)

/-- `create_message`: what is refused is no message. -/
def createMessage (message : MessageRow) : SessionM (Option MessageRow) := do
  match (← ask (.insertMessage message) : Option ℕ) with
  | some (_ + 1) => ask (.selectMessage message.id)
  | some 0 | none => return none

def incrementMessageCount (sessionId : PyStr) (tokensUsed : ℤ) (costUsd : ℚ) :
    SessionM Bool := do
  match (← getBySessionId sessionId) with
  | none => return false
  | some session => do
    let count : ℕ ← ask (.updateTotals sessionId (session.messageCount + 1)
      (session.totalTokens + tokensUsed) (session.totalCost + costUsd))
    return decide (0 < count)

/-! ### The service -/

/-- `MessageCreateRequest`, with its session, its user and the id that is drawn. -/
structure Request where
  sessionId : PyStr
  userId : Option PyStr := none
  role : PyStr
  content : PyStr
  messageType : PyStr := "chat".toList
  tokensUsed : ℤ := 0
  costUsd : ℚ := 0
  messageId : PyStr
  deriving DecidableEq

def roles : List PyStr := ["user".toList, "assistant".toList, "system".toList]

/-- `_validate_message_create_request`: why a request is refused. -/
def Request.refused (r : Request) : Option SessionError :=
  if r.role.strip = [] then some .roleRequired
  else if r.content.strip = [] then some .contentRequired
  else if r.role ∉ roles then some .unknownRole
  else none

def Request.message (r : Request) (userId : PyStr) : MessageRow where
  id := r.messageId
  sessionId := r.sessionId
  userId
  role := r.role
  content := r.content
  messageType := r.messageType
  tokensUsed := r.tokensUsed
  costUsd := r.costUsd

def addMessage (r : Request) : SessionM MessageRow := do
  match (← getBySessionId r.sessionId) with
  | none => .raise .sessionNotFound
  | some session =>
    if ∃ userId ∈ given r.userId, session.userId ≠ userId then .raise .sessionNotFound
    else
      match r.refused with
      | some e => .raise e
      | none => do
        match (← createMessage (r.message session.userId)) with
        | none => .raise .notCreated
        | some message => do
          let _ ← incrementMessageCount r.sessionId r.tokensUsed r.costUsd
          return message

/-! ### Requests -/

abbrev SessionPast := Past SessionApi SessionStore

abbrev SessionPool (ι : Type*) := Pool SessionApi SessionError MessageRow ι SessionStore

def SessionPool.start {ι : Type*} (requests : ι → Request) (s : SessionStore) : SessionPool ι :=
  Pool.start s fun i => addMessage (requests i)

abbrev SessionRun {ι : Type*} [DecidableEq ι] (A : SessionPast → SessionStore → Call → Prop) :
    SessionPool ι → SessionPool ι → Prop :=
  Pool.Reach execute (fun _ _ => False) fun i past => A (past i)

end IsaUser.Session
