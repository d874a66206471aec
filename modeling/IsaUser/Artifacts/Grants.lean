import IsaUser.Artifacts.Model
import IsaUser.Lib.Runs

/-!
# Grants for Tool Calls

An artifact calls a tool for a user if the user has allowed it for good. A decision of another kind
(to deny, to allow once, to allow for a session) is written down beside it and has no say in a call:
the table's own comment calls denials advisory.

## Main results

* `invokes_iff`: which calls reach a tool.
* `not_followsLatest`: a denial does not stop the calls that were allowed for good.
-/

open List

namespace IsaUser.Artifacts.Mcp

/-! ### The table -/

inductive MCPGrantDecision where
  | allow
  | deny
  deriving DecidableEq, Repr

inductive MCPGrantScope where
  | once
  | session
  | always
  deriving DecidableEq, Repr

/-- What a decision is about: a tool of a server, for a user of an artifact. -/
structure Subject where
  artifactId : PyStr
  userId : PyStr
  toolName : PyStr
  serverId : PyStr
  deriving DecidableEq

/-- A row of `artifact.artifact_mcp_grants`. -/
structure ArtifactMCPGrant where
  id : PyStr
  subject : Subject
  decision : MCPGrantDecision
  scope : MCPGrantScope
  approvedAt : Timestamp
  expiresAt : Option Timestamp
  lastUsedAt : Option Timestamp := none
  updatedAt : Timestamp

abbrev ArtifactMCPGrant.IsAlways (g : ArtifactMCPGrant) : Prop :=
  g.decision = .allow ∧ g.scope = .always

abbrev Grants := Rows ArtifactMCPGrant.id

/-- A row that takes its times from a newer one: `DO UPDATE SET`. -/
def ArtifactMCPGrant.renew (old g : ArtifactMCPGrant) : ArtifactMCPGrant :=
  { old with approvedAt := g.approvedAt, expiresAt := g.expiresAt, updatedAt := g.updatedAt }

theorem ArtifactMCPGrant.id_renew (old g : ArtifactMCPGrant) : (old.renew g).id = old.id := rfl

def ArtifactMCPGrant.touch (g : ArtifactMCPGrant) (now : Timestamp) : ArtifactMCPGrant :=
  { g with lastUsedAt := some now, updatedAt := now }

theorem ArtifactMCPGrant.id_touch (g : ArtifactMCPGrant) (now : Timestamp) :
    (g.touch now).id = g.id := rfl

def insertGrant (t : Grants) (g : ArtifactMCPGrant) : Option (ArtifactMCPGrant × Grants) :=
  if h : t.get? g.id = none then some (g, t.insert g h) else none

def alwaysRows (t : Grants) (subject : Subject) : List ArtifactMCPGrant :=
  t.rows.filter fun g => g.IsAlways ∧ g.subject = subject

def upsertMcpGrant (t : Grants) (g : ArtifactMCPGrant) : Option (ArtifactMCPGrant × Grants) :=
  if g.IsAlways then
    match (alwaysRows t g.subject).head? with
    | some old => some (old.renew g, t.modify old.id (·.renew g) fun old => old.id_renew g)
    | none => insertGrant t g
  else insertGrant t g

def findAlwaysGrant (t : Grants) (now : Timestamp) (subject : Subject) : Option ArtifactMCPGrant :=
  -- the order of the instants, by the instance that computes
  letI : Preorder Timestamp := Int.instLinearOrder.toPreorder
  ((alwaysRows t subject).filter fun g => ∀ time ∈ g.expiresAt, now < time).argmax
    ArtifactMCPGrant.approvedAt

def touchGrantLastUsed (t : Grants) (now : Timestamp) (id : PyStr) : Grants :=
  t.modify id (·.touch now) fun g => g.id_touch now

/-! ### The service -/

/-- What the service works on: the artifacts, the grants, and the calls that have gone out to
tools, the last one first. -/
structure World where
  artifacts : ArtifactStore
  grants : Grants
  invoked : List (Subject × JsonDict)

/-- `MCPApproveRequest`, with the id that is drawn. -/
structure MCPApproveRequest where
  userId : PyStr
  toolName : PyStr
  serverId : PyStr
  decision : MCPGrantDecision := .allow
  scope : MCPGrantScope := .always
  expiresAt : Option Timestamp := none
  grantId : PyStr

def MCPApproveRequest.grant (r : MCPApproveRequest) (artifactId : PyStr) (now : Timestamp) :
    ArtifactMCPGrant where
  id := r.grantId
  subject := ⟨artifactId, r.userId, r.toolName, r.serverId⟩
  decision := r.decision
  scope := r.scope
  approvedAt := now
  expiresAt := r.expiresAt
  updatedAt := now

structure MCPCallRequest where
  userId : PyStr
  toolName : PyStr
  serverId : PyStr
  args : JsonDict := []

def MCPCallRequest.subject (r : MCPCallRequest) (artifactId : PyStr) : Subject :=
  ⟨artifactId, r.userId, r.toolName, r.serverId⟩

structure MCPCallResponse where
  requiresApproval : Bool := false
  prompt : Option PyStr := none
  toolName : Option PyStr := none
  serverId : Option PyStr := none
  result : Option JsonDict := none
  scopeUsed : Option MCPGrantScope := none

structure Outside where
  /-- The database answers the query for a grant. -/
  answers : Bool := true
  /-- What the tool answers, if it does. -/
  result : Option JsonDict := none

/-- `mcp_approve`. The database refuses what the columns do not take. -/
def mcpApprove (takes : ArtifactMCPGrant → Bool) (w : World) (now : Timestamp) (artifactId : PyStr)
    (r : MCPApproveRequest) : ArtifactM (ArtifactMCPGrant × World) := do
  let _ ← orRaise (w.artifacts.getArtifact artifactId) .notFound
  let grant := r.grant artifactId now
  check (takes grant = true) .service
  let (row, grants) ← orRaise (upsertMcpGrant w.grants grant) .service
  return (row, { w with grants })

def MCPCallRequest.stub (r : MCPCallRequest) : JsonDict :=
  [("stubbed", .bool true), ("tool_name", .str r.toolName), ("server_id", .str r.serverId),
    ("args", .dict r.args)]

def MCPCallRequest.prompt (r : MCPCallRequest) : MCPCallResponse where
  requiresApproval := true
  prompt := some ("Allow ".toList ++ r.toolName ++ " on ".toList ++ r.serverId ++ "?".toList)
  toolName := some r.toolName
  serverId := some r.serverId

/-- `mcp_call`. A query for a grant that fails finds none. -/
def mcpCall (w : World) (now : Timestamp) (o : Outside) (artifactId : PyStr) (r : MCPCallRequest) :
    ArtifactM (MCPCallResponse × World) := do
  let _ ← orRaise (w.artifacts.getArtifact artifactId) .notFound
  let subject := r.subject artifactId
  match if o.answers then findAlwaysGrant w.grants now subject else none with
  | none => return (r.prompt, w)
  | some grant =>
    return ({ result := some (o.result.getD r.stub), scopeUsed := some .always },
      { w with
        grants := touchGrantLastUsed w.grants now grant.id
        invoked := (subject, r.args) :: w.invoked })

/-! ### Histories -/

inductive Request where
  | approve (artifactId : PyStr) (r : MCPApproveRequest)
  | call (artifactId : PyStr) (r : MCPCallRequest) (o : Outside)
  /-- A request about artifacts, which leaves them so. -/
  | other (artifacts : ArtifactStore)

def step (takes : ArtifactMCPGrant → Bool) (w : World) : Timestamp × Request → World
  | (now, .approve artifactId r) => after (mcpApprove takes w now artifactId r)
  | (now, .call artifactId r o) => after (mcpCall w now o artifactId r)
  | (_, .other artifacts) => { w with artifacts }
where
  /-- What is left. -/
  after {α : Type} (result : ArtifactM (α × World)) : World := (result.map Prod.snd).toOption.getD w

def World.start (artifacts : ArtifactStore) : World := ⟨artifacts, Rows.empty, []⟩

structure Decision where
  subject : Subject
  decision : MCPGrantDecision
  scope : MCPGrantScope
  expiresAt : Option Timestamp

abbrev Decision.IsAlways (d : Decision) : Prop := d.decision = .allow ∧ d.scope = .always

def ArtifactMCPGrant.decided (g : ArtifactMCPGrant) : Decision :=
  ⟨g.subject, g.decision, g.scope, g.expiresAt⟩

def decisionOf (takes : ArtifactMCPGrant → Bool) (w : World) : Timestamp × Request → Option Decision
  | (now, .approve artifactId r) =>
    (mcpApprove takes w now artifactId r).toOption.map fun _ => (r.grant artifactId now).decided
  | _ => none

def decisions (takes : ArtifactMCPGrant → Bool) (w : World) :
    List (Timestamp × Request) → List Decision
  | [] => []
  | e :: es => (decisionOf takes w e).toList ++ decisions takes (step takes w e) es

def latest (p : Decision → Prop) [DecidablePred p] (l : List Decision) : Option Decision :=
  l.reverse.find? p

/-! ### The laws -/

def Invokes (w : World) (now : Timestamp) (o : Outside) (artifactId : PyStr)
    (r : MCPCallRequest) : Prop :=
  ∃ answer w', mcpCall w now o artifactId r = .ok (answer, w') ∧ w'.invoked ≠ w.invoked

def FollowsLatest (takes : ArtifactMCPGrant → Bool) (w : World)
    (history : List (Timestamp × Request)) : Prop :=
  ∀ now o artifactId r, Invokes (exec (step takes) w history) now o artifactId r →
    ∃ d ∈ latest (fun d => d.subject = r.subject artifactId) (decisions takes w history),
      d.IsAlways ∧ ∀ time ∈ d.expiresAt, now < time

/-! ### The rows of a subject -/

section Rows

variable {t t' : Grants} {g row : ArtifactMCPGrant} {subject : Subject} {now : Timestamp}

theorem mem_alwaysRows :
    g ∈ alwaysRows t subject ↔ g ∈ t.rows ∧ g.IsAlways ∧ g.subject = subject := by
  simp [alwaysRows]

theorem alwaysRows_modify {id : PyStr} {f : ArtifactMCPGrant → ArtifactMCPGrant}
    (hid : ∀ g, (f g).id = g.id)
    (hf : ∀ g, (f g).subject = g.subject ∧ ((f g).IsAlways ↔ g.IsAlways)) :
    alwaysRows (t.modify id f hid) subject =
      (alwaysRows t subject).map fun g => if g.id = id then f g else g := by
  have hkept : ((fun g : ArtifactMCPGrant => decide (g.IsAlways ∧ g.subject = subject)) ∘
      fun g => if g.id = id then f g else g) =
      fun g => decide (g.IsAlways ∧ g.subject = subject) := by
    funext g
    rw [Function.comp_apply]
    split
    · rw [decide_eq_decide, (hf g).1]
      exact and_congr_left fun _ => (hf g).2
    · rfl
  rw [alwaysRows, Rows.modify, List.filter_map, hkept]
  rfl

def expiries (t : Grants) (subject : Subject) : List (Option Timestamp) :=
  (alwaysRows t subject).map ArtifactMCPGrant.expiresAt

theorem expiries_touchGrantLastUsed {id : PyStr} :
    expiries (touchGrantLastUsed t now id) subject = expiries t subject := by
  rw [expiries, touchGrantLastUsed,
    alwaysRows_modify (fun g => g.id_touch now) fun _ => ⟨rfl, Iff.rfl⟩, List.map_map]
  refine map_congr_left fun g _ => ?_
  rw [Function.comp_apply]
  split <;> rfl

theorem expiries_insertGrant (h : insertGrant t g = some (row, t')) :
    expiries t' subject =
      expiries t subject ++ if g.IsAlways ∧ g.subject = subject then [g.expiresAt] else [] := by
  rw [insertGrant] at h
  split at h
  · cases h
    rw [expiries, alwaysRows, Rows.insert, filter_append, map_append]
    congr 1
    by_cases hg : g.IsAlways ∧ g.subject = subject
    · simp [hg]
    · simp [hg]
  · cases h

/-- **The index.** An upsert replaces the one row of its subject, or adds one that is not in the
index. -/
theorem expiries_upsertMcpGrant (hone : (expiries t g.subject).length ≤ 1)
    (h : upsertMcpGrant t g = some (row, t')) :
    expiries t' subject =
      if g.IsAlways ∧ g.subject = subject then [g.expiresAt] else expiries t subject := by
  rw [upsertMcpGrant] at h
  split at h
  · next halways =>
      cases hold : (alwaysRows t g.subject).head? with
      | none =>
        rw [hold] at h
        rw [expiries_insertGrant h]
        by_cases hg : g.IsAlways ∧ g.subject = subject
        · rw [if_pos hg, if_pos hg, expiries, ← hg.2, head?_eq_none_iff.mp hold]
          rfl
        · rw [if_neg hg, if_neg hg, append_nil]
      | some old =>
        rw [hold] at h
        cases h
        have hmem : old ∈ alwaysRows t g.subject := mem_of_head? hold
        rw [expiries, alwaysRows_modify (fun old => old.id_renew g) fun _ => ⟨rfl, Iff.rfl⟩,
          List.map_map]
        by_cases hsubject : g.subject = subject
        · subst hsubject
          rw [expiries, length_map] at hone
          obtain ⟨only, honly⟩ :=
            length_eq_one_iff.mp (le_antisymm hone (length_pos_of_mem hmem))
          rw [honly] at hmem ⊢
          cases mem_singleton.mp hmem
          rw [if_pos ⟨halways, rfl⟩, map_singleton, Function.comp_apply, if_pos rfl]
          rfl
        · rw [if_neg fun hg => hsubject hg.2]
          refine map_congr_left fun g' hg' => ?_
          have hne : g'.id ≠ old.id := by
            intro hid
            have hsame := inj_on_of_nodup_map t.unique (mem_alwaysRows.mp hg').1
              (mem_alwaysRows.mp hmem).1 hid
            exact hsubject ((mem_alwaysRows.mp hmem).2.2.symm.trans
              (hsame ▸ (mem_alwaysRows.mp hg').2.2))
          rw [Function.comp_apply, if_neg hne]
  · next halways =>
      rw [expiries_insertGrant h, if_neg fun hg => halways hg.1, if_neg fun hg => halways hg.1,
        append_nil]

theorem isSome_findAlwaysGrant :
    (findAlwaysGrant t now subject).isSome ↔
      ∃ expiry ∈ expiries t subject, ∀ time ∈ expiry, now < time := by
  rw [findAlwaysGrant, Option.isSome_iff_ne_none]
  simp [expiries]

end Rows

/-! ### Histories, step by step -/

section Histories

variable {takes : ArtifactMCPGrant → Bool} {w w' : World} {now : Timestamp} {artifactId : PyStr}
  {subject : Subject}

theorem mcpApprove_eq_ok {r : MCPApproveRequest} {row : ArtifactMCPGrant}
    (h : mcpApprove takes w now artifactId r = .ok (row, w')) :
    w'.invoked = w.invoked ∧
      upsertMcpGrant w.grants (r.grant artifactId now) = some (row, w'.grants) := by
  simp only [mcpApprove, bind_eq_ok_iff, orRaise_eq_ok_iff, pure_eq_ok_iff] at h
  obtain ⟨_, _, _, _, ⟨row', grants⟩, hupsert, heq⟩ := h
  obtain ⟨rfl, rfl⟩ := Prod.mk.inj heq
  exact ⟨rfl, hupsert⟩

theorem mcpCall_eq_ok {o : Outside} {r : MCPCallRequest} {answer : MCPCallResponse}
    (h : mcpCall w now o artifactId r = .ok (answer, w')) :
    (w.artifacts.getArtifact artifactId).isSome ∧
      (w' = w ∧ ¬(o.answers ∧ (findAlwaysGrant w.grants now (r.subject artifactId)).isSome) ∨
        (o.answers ∧ (findAlwaysGrant w.grants now (r.subject artifactId)).isSome) ∧
          w'.invoked = (r.subject artifactId, r.args) :: w.invoked ∧
          ∃ id, w'.grants = touchGrantLastUsed w.grants now id) := by
  simp only [mcpCall, bind_eq_ok_iff, orRaise_eq_ok_iff] at h
  obtain ⟨found, hfound, h⟩ := h
  refine ⟨by rw [hfound]; rfl, ?_⟩
  cases hanswers : o.answers with
  | false =>
    rw [hanswers] at h
    obtain ⟨-, rfl⟩ := Prod.mk.inj (pure_eq_ok_iff.mp h)
    exact .inl ⟨rfl, fun hgrant => Bool.false_ne_true hgrant.1⟩
  | true =>
    rw [hanswers] at h
    cases hgrant : findAlwaysGrant w.grants now (r.subject artifactId) with
    | none =>
      rw [hgrant] at h
      obtain ⟨-, rfl⟩ := Prod.mk.inj (pure_eq_ok_iff.mp h)
      exact .inl ⟨rfl, fun hgrant => Bool.false_ne_true hgrant.2⟩
    | some grant =>
      rw [hgrant] at h
      obtain ⟨-, rfl⟩ := Prod.mk.inj (pure_eq_ok_iff.mp h)
      exact .inr ⟨⟨rfl, rfl⟩, rfl, grant.id, rfl⟩

theorem mcpCall_of_grant {o : Outside} {r : MCPCallRequest} {view : ArtifactView}
    {grant : ArtifactMCPGrant} (hview : w.artifacts.getArtifact artifactId = some view)
    (hanswers : o.answers = true)
    (hgrant : findAlwaysGrant w.grants now (r.subject artifactId) = some grant) :
    mcpCall w now o artifactId r =
      .ok ({ result := some (o.result.getD r.stub), scopeUsed := some .always },
        { w with
          grants := touchGrantLastUsed w.grants now grant.id
          invoked := (r.subject artifactId, r.args) :: w.invoked }) := by
  simp only [mcpCall, hview, hanswers, hgrant]
  rfl

theorem decisions_append (es es' : List (Timestamp × Request)) :
    decisions takes w (es ++ es') =
      decisions takes w es ++ decisions takes (exec (step takes) w es) es' := by
  induction es generalizing w with
  | nil => rfl
  | cons e es ih => rw [cons_append, decisions, ih, ← append_assoc]; rfl

theorem latest_append {p : Decision → Prop} [DecidablePred p] (l : List Decision)
    (d : Option Decision) :
    latest p (l ++ d.toList) = (d.filter fun d => p d).or (latest p l) := by
  cases d with
  | none => simp [latest]
  | some d =>
    by_cases hd : p d
    · simp [latest, Option.filter, hd]
    · simp [latest, Option.filter, hd]

/-- The table has, of each subject, the last decision that allows the calls for good. -/
def Tracks (grants : Grants) (l : List Decision) : Prop :=
  ∀ subject, expiries grants subject =
    ((latest (fun d => d.IsAlways ∧ d.subject = subject) l).map Decision.expiresAt).toList

theorem Tracks.one {l : List Decision} (h : Tracks w.grants l) :
    (expiries w.grants subject).length ≤ 1 := by
  rw [h subject]
  cases Option.map Decision.expiresAt _ <;> simp

theorem expiries_step (hone : ∀ subject, (expiries w.grants subject).length ≤ 1)
    (e : Timestamp × Request) (subject : Subject) :
    expiries (step takes w e).grants subject =
      (((decisionOf takes w e).filter fun d => d.IsAlways ∧ d.subject = subject).map fun d =>
        [d.expiresAt]).getD (expiries w.grants subject) := by
  obtain ⟨now, r⟩ := e
  cases r with
  | other artifacts => rfl
  | approve artifactId r =>
    rw [step, decisionOf]
    cases h : mcpApprove takes w now artifactId r with
    | error e => rfl
    | ok result =>
      obtain ⟨row, w'⟩ := result
      obtain ⟨-, hupsert⟩ := mcpApprove_eq_ok h
      change expiries w'.grants subject = _
      rw [expiries_upsertMcpGrant (hone _) hupsert]
      by_cases hg :
        (r.grant artifactId now).IsAlways ∧ (r.grant artifactId now).subject = subject
      · simp [Except.toOption, ArtifactMCPGrant.decided, Option.filter, hg]
      · simp [Except.toOption, ArtifactMCPGrant.decided, Option.filter, hg]
  | call artifactId r o =>
    rw [step]
    cases h : mcpCall w now o artifactId r with
    | error e => rfl
    | ok result =>
      obtain ⟨answer, w'⟩ := result
      change expiries w'.grants subject = expiries w.grants subject
      obtain ⟨-, ⟨rfl, -⟩ | ⟨-, -, id, hgrants⟩⟩ := mcpCall_eq_ok h
      · rfl
      · rw [hgrants, expiries_touchGrantLastUsed]

theorem tracks_exec (artifacts : ArtifactStore) (history : List (Timestamp × Request)) :
    Tracks (exec (step takes) (World.start artifacts) history).grants
      (decisions takes (World.start artifacts) history) := by
  induction history using reverseRecOn with
  | nil => exact fun _ => rfl
  | append_singleton es e ih =>
    intro subject
    rw [exec_append, decisions_append, exec_cons, exec_nil,
      expiries_step (fun _ => ih.one) e subject, decisions, decisions, append_nil,
      latest_append]
    cases (decisionOf takes _ e).filter _ with
    | none => exact ih subject
    | some d => rfl

/-- **Which calls reach a tool.** In every history a call reaches its tool just if the last
decision of the user that allows it for good has not expired, and neither the artifact is gone nor
the query for the grant fails. Decisions to deny, or to allow once or for a session, change nothing
of this. -/
theorem invokes_iff (takes : ArtifactMCPGrant → Bool) (artifacts : ArtifactStore)
    (history : List (Timestamp × Request)) (now : Timestamp) (o : Outside) (artifactId : PyStr)
    (r : MCPCallRequest) :
    Invokes (exec (step takes) (World.start artifacts) history) now o artifactId r ↔
      o.answers ∧
        ((exec (step takes) (World.start artifacts) history).artifacts.getArtifact
          artifactId).isSome ∧
        ∃ d ∈ latest (fun d => d.IsAlways ∧ d.subject = r.subject artifactId)
            (decisions takes (World.start artifacts) history),
          ∀ time ∈ d.expiresAt, now < time := by
  set w := exec (step takes) (World.start artifacts) history
  have hgrant : (findAlwaysGrant w.grants now (r.subject artifactId)).isSome ↔ _ :=
    isSome_findAlwaysGrant
  rw [tracks_exec artifacts history (r.subject artifactId)] at hgrant
  simp only [Option.mem_toList, Option.map_eq_some_iff] at hgrant
  constructor
  · rintro ⟨answer, w', h, hne⟩
    obtain ⟨hartifact, ⟨rfl, -⟩ | ⟨⟨hanswers, hfound⟩, -⟩⟩ := mcpCall_eq_ok h
    · exact absurd rfl hne
    · obtain ⟨_, ⟨d, hd, rfl⟩, hlater⟩ := hgrant.mp hfound
      exact ⟨hanswers, hartifact, d, hd, hlater⟩
  · rintro ⟨hanswers, hartifact, d, hd, hlater⟩
    obtain ⟨grant, hfound⟩ := Option.isSome_iff_exists.mp (hgrant.mpr ⟨_, ⟨d, hd, rfl⟩, hlater⟩)
    obtain ⟨view, hview⟩ := Option.isSome_iff_exists.mp hartifact
    exact ⟨_, _, mcpCall_of_grant hview hanswers hfound, cons_ne_self _ _⟩

end Histories

/-! ### A denial -/

def deniedHistory : List (Timestamp × Request) :=
  [(0, .other { ArtifactStore.empty with artifacts := soleArtifact }),
    (1, .approve ['a'] { userId := ['u'], toolName := ['t'], serverId := ['s'], grantId := ['g'] }),
    (2, .approve ['a']
      { userId := ['u'], toolName := ['t'], serverId := ['s'], decision := .deny
        grantId := ['h'] })]

/-- The tool is called all the same. -/
theorem not_followsLatest :
    ¬FollowsLatest (fun _ => true) (World.start ArtifactStore.empty) deniedHistory := by
  intro h
  obtain ⟨d, hd, hdecision, -⟩ := h 3 {} ['a']
    { userId := ['u'], toolName := ['t'], serverId := ['s'] } ⟨_, _, rfl, cons_ne_self _ _⟩
  cases hd
  exact absurd hdecision (by decide)

end IsaUser.Artifacts.Mcp
