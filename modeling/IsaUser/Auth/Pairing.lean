import IsaUser.Lib.Faults
import IsaUser.Lib.OneTime
import IsaUser.Lib.Values

/-!
# Pairing Tokens

A device asks for a pairing token, and the user who presents it is told to own the device.
`verify_pairing_token` looks the token up, checks that it has not been used and has not expired,
and marks it as used, without another look and without looking at what came of it.
-/

open IsaUser.Prog

namespace IsaUser.Auth.Pairing

/-! ### The store -/

/-- A row of `auth.device_pairing_tokens`. -/
structure PairingToken where
  deviceId : PyStr
  expiresAt : Timestamp
  createdAt : Timestamp
  used : Bool := false
  usedAt : Option Timestamp := none
  userId : Option PyStr := none
  deriving DecidableEq

abbrev PairingStore := PyStr → Option PairingToken

/-- The store, the clock, and how the next call fares. -/
structure Moment where
  tokens : PairingStore
  clock : Timestamp
  link : Link

inductive PairingEvent where
  | tokenGenerated (deviceId pairingToken : PyStr) (expiresAt : Timestamp)
  | tokenVerified (deviceId userId pairingToken : PyStr)
  deriving DecidableEq

inductive Call where
  | now
  | insertToken (pairingToken : PyStr) (row : PairingToken)
  | selectToken (pairingToken : PyStr)
  | markUsed (pairingToken userId : PyStr) (now : Timestamp)
  | publish (event : PairingEvent)

def Call.Reply : Call → Type
  | now => Timestamp
  | insertToken _ _ => Unit
  | selectToken _ => Option PairingToken
  | markUsed _ _ _ => ℕ
  | publish _ => Unit

@[reducible] def PairingApi : Interface := ⟨Call, Call.Reply⟩

inductive PairingError where
  | unavailable
  | uniqueViolation
  deriving DecidableEq, Repr

def PairingToken.mark (userId : PyStr) (now : Timestamp) (row : PairingToken) : PairingToken :=
  { row with used := true, usedAt := some now, userId := some userId }

def execute : Handler (PairingApi.fallible PairingError) (PairingStore × Timestamp)
  | .now, s => (.ok s.2, s)
  | .insertToken token row, s =>
    if (s.1 token).isSome then (.error .uniqueViolation, s)
    else (.ok (), Function.update s.1 token (some row), s.2)
  | .selectToken token, s => (.ok (s.1 token), s)
  | .markUsed token userId now, s =>
    (.ok (s.1 token).toList.length,
      Function.update s.1 token ((s.1 token).map (·.mark userId now)), s.2)
  | .publish _, s => (.ok (), s)

def handle : Handler (PairingApi.fallible PairingError) Moment
  | .now, m => (.ok m.clock, m)
  | c, m =>
    let answer := m.link.pass .unavailable (execute c (m.tokens, m.clock)) (m.tokens, m.clock)
    (answer.1, { m with tokens := answer.2.1 })

/-! ### The methods -/

abbrev PairingM := Prog (PairingApi.fallible PairingError) PairingError

def ask (c : Call) : PairingM c.Reply := query (I := PairingApi) id c

def createPairingToken (deviceId pairingToken : PyStr) (expiresAt : Timestamp) :
    PairingM Unit := do
  let now : Timestamp ← ask .now
  ask (.insertToken pairingToken { deviceId, expiresAt, createdAt := now })

/-- `get_pairing_token`. What fails is no token. -/
def getPairingToken (pairingToken : PyStr) : PairingM (Option PairingToken) :=
  (ask (.selectToken pairingToken) : PairingM (Option PairingToken)).tryCatch fun _ => return none

/-- `mark_pairing_token_used`. What fails is no mark. -/
def markPairingTokenUsed (pairingToken userId : PyStr) : PairingM Bool :=
  Prog.tryCatch (ε := PairingError) (do
    let now : Timestamp ← ask .now
    let count : ℕ ← ask (.markUsed pairingToken userId now)
    return decide (0 < count)) fun _ => return false

inductive Response where
  | generated (pairingToken : PyStr) (expiresAt : Timestamp)
  | valid (deviceId userId : PyStr)
  /-- "Invalid pairing token". -/
  | invalidToken
  /-- "Token does not match device". -/
  | otherDevice
  /-- "Token has already been used". -/
  | alreadyUsed
  /-- "Token has expired". -/
  | expired
  | failed (e : PairingError)
  deriving DecidableEq

def responding (p : PairingM Response) : PairingM Response := p.tryCatch fun e => return .failed e

/-- `generate_pairing_token`, with the token that is drawn: it is good for five minutes. -/
def generatePairingToken (deviceId pairingToken : PyStr) : PairingM Response :=
  responding do
    let now : Timestamp ← ask .now
    let expiresAt := now + seconds 300
    createPairingToken deviceId pairingToken expiresAt
    let _ : Unit ← ask (.publish (.tokenGenerated deviceId pairingToken expiresAt))
    return .generated pairingToken expiresAt

/-- The end of `verify_pairing_token`: the token is marked and the event published. -/
def acceptPairing (deviceId pairingToken userId : PyStr) : PairingM Response := do
  let _ ← markPairingTokenUsed pairingToken userId
  let _ : Unit ← ask (.publish (.tokenVerified deviceId userId pairingToken))
  return .valid deviceId userId

def verifyPairingToken (deviceId pairingToken userId : PyStr) : PairingM Response :=
  responding do
    match ← getPairingToken pairingToken with
    | none => return .invalidToken
    | some row =>
      if row.deviceId ≠ deviceId then return .otherDevice
      else if row.used then return .alreadyUsed
      else do
        let now : Timestamp ← ask .now
        if row.expiresAt < now then return .expired
        else acceptPairing deviceId pairingToken userId

inductive Request where
  | generate (deviceId pairingToken : PyStr)
  | verify (deviceId pairingToken userId : PyStr)

def Request.serve : Request → PairingM Response
  | generate deviceId token => generatePairingToken deviceId token
  | verify deviceId token userId => verifyPairingToken deviceId token userId

/-! ### The law -/

abbrev PairingPast := Past (PairingApi.fallible PairingError) Moment

abbrev PairingPool (ι : Type*) :=
  Pool (PairingApi.fallible PairingError) PairingError Response ι Moment

def PairingPool.start {ι : Type*} (m : Moment) (requests : ι → Request) : PairingPool ι :=
  Pool.start m fun i => (requests i).serve

def Accepted {ι : Type*} (requests : ι → Request) (pool : PairingPool ι) (i : ι)
    (pairingToken : PyStr) : Prop :=
  ∃ deviceId userId, requests i = .verify deviceId pairingToken userId ∧
    pool.progs i = .ret (.valid deviceId userId)

def Unexpired (pairingToken : PyStr) : Moment × Call → Prop
  | (m, .now) => ∃ row ∈ m.tokens pairingToken, m.clock ≤ row.expiresAt
  | _ => False

/-- A token is accepted once at most, and by a call that has looked at the clock before the token
expired. -/
structure Pairs {ι : Type*} (requests : ι → Request) (pool : PairingPool ι) : Prop where
  once : ∀ token i j, Accepted requests pool i token → Accepted requests pool j token → i = j
  unexpired : ∀ token i, Accepted requests pool i token → ∃ e ∈ pool.past i, Unexpired token e

/-! ### The condition -/

def FindsUnused (m : Moment) : Call → Prop
  | .markUsed token _ _ => m.link ≠ .down ∧ ∃ row ∈ m.tokens token, row.used = false
  | _ => True

instance (m : Moment) : DecidablePred (FindsUnused m)
  | .markUsed token _ _ =>
    inferInstanceAs (Decidable (_ ∧ ∃ row ∈ m.tokens token, row.used = false))
  | .now | .insertToken _ _ | .selectToken _ | .publish _ => .isTrue trivial

def Shifts (m m' : Moment) : Prop := m'.tokens = m.tokens ∧ m.clock ≤ m'.clock

abbrev PairingRun {ι : Type*} [DecidableEq ι] : PairingPool ι → PairingPool ι → Prop :=
  Pool.Reach handle Shifts fun _ _ => FindsUnused

/-! ### What a call does -/

section Calls

variable {m m' : Moment} {c : Call} {past : PairingPast} {token : PyStr}

def Used (m : Moment) (token : PyStr) : Prop := ∃ row ∈ m.tokens token, row.used = true

def Wins : Moment × Call → PyStr → Prop
  | (m, .markUsed t _ _), token => t = token ∧ m.link ≠ .down ∧
      ∃ row ∈ m.tokens token, row.used = false
  | _, _ => False

/-- Tokens stay, with their expiry, and what has been used stays used. -/
def Later (m m' : Moment) : Prop := ∀ token, ∀ row ∈ m.tokens token, ∃ row' ∈ m'.tokens token,
  row'.expiresAt = row.expiresAt ∧ (row.used = true → row'.used = true)

theorem Later.refl (m : Moment) : Later m m := fun _ row hrow => ⟨row, hrow, rfl, fun h => h⟩

theorem Later.trans {m'' : Moment} (h : Later m m') (h' : Later m' m'') : Later m m'' := by
  intro token row hrow
  obtain ⟨row', hrow', hexpires, hused⟩ := h token row hrow
  obtain ⟨row'', hrow'', hexpires', hused'⟩ := h' token row' hrow'
  exact ⟨row'', hrow'', hexpires'.trans hexpires, fun hr => hused' (hused hr)⟩

theorem Later.of_eq (h : m'.tokens = m.tokens) : Later m m' := by
  intro token row hrow
  exact ⟨row, h ▸ hrow, rfl, fun hused => hused⟩

def pairingTerms : Terms Moment where
  inv _ := True
  rel := Later
  rel_refl := Later.refl
  rel_trans := Later.trans

theorem later_mark (m : Moment) (token userId : PyStr) (now : Timestamp) :
    Later m { m with
      tokens := Function.update m.tokens token ((m.tokens token).map (·.mark userId now)) } := by
  intro token' row hrow
  rcases eq_or_ne token' token with rfl | hne
  · refine ⟨row.mark userId now, ?_, rfl, fun _ => rfl⟩
    dsimp only
    rw [Function.update_self, Option.mem_def.mp hrow]
    rfl
  · refine ⟨row, ?_, rfl, fun h => h⟩
    dsimp only
    rwa [Function.update_of_ne hne]

theorem later_insert {row : PairingToken} (hnew : m.tokens token = none) :
    Later m { m with tokens := Function.update m.tokens token (some row) } := by
  intro token' old hold
  rcases eq_or_ne token' token with rfl | hne
  · rw [hnew] at hold
    cases hold
  · refine ⟨old, ?_, rfl, fun h => h⟩
    dsimp only
    rwa [Function.update_of_ne hne]

theorem later_pass {ρ : Type} {executed : Except PairingError ρ × PairingStore × Timestamp}
    (h : Later m { m with tokens := executed.2.1 }) :
    Later m { m with
      tokens := (m.link.pass PairingError.unavailable executed (m.tokens, m.clock)).2.1 } := by
  cases m.link with
  | down => exact Later.refl m
  | _ => exact h

theorem later_handle (c : Call) (m : Moment) : Later m (handle c m).2 := by
  cases c with
  | now => exact Later.refl m
  | selectToken token => exact later_pass (Later.refl m)
  | publish event => exact later_pass (Later.refl m)
  | insertToken token row =>
    refine later_pass ?_
    rw [execute]
    split
    · exact Later.refl m
    · next h => exact later_insert (Option.not_isSome_iff_eq_none.mp h)
  | markUsed token userId now => exact later_pass (later_mark m token userId now)

theorem Used.later (h : Used m token) (hm : Later m m') : Used m' token := by
  obtain ⟨row, hrow, hused⟩ := h
  obtain ⟨row', hrow', -, hused'⟩ := hm token row hrow
  exact ⟨row', hrow', hused' hused⟩

theorem oneTime : OneTime handle Used Wins where
  unused {m c token} hwins hused := by
    obtain ⟨row, hrow, htrue⟩ := hused
    cases c with
    | markUsed t userId now =>
      obtain ⟨rfl, -, row', hrow', hfalse⟩ := hwins
      obtain rfl := Option.mem_unique hrow hrow'
      rw [hfalse] at htrue
      cases htrue
    | _ => exact hwins
  marks {m c token} hwins := by
    cases c with
    | markUsed t userId now =>
      obtain ⟨rfl, hlink, row, hrow, -⟩ := hwins
      refine ⟨row.mark userId now, ?_, rfl⟩
      have hmarked : Function.update m.tokens t ((m.tokens t).map (·.mark userId now)) t =
          some (row.mark userId now) := by
        rw [Function.update_self, Option.mem_def.mp hrow]
        rfl
      simp only [handle]
      cases hm : m.link with
      | down => exact absurd hm hlink
      | _ => exact hmarked
    | _ => exact hwins.elim
  keeps {m c token} hused := hused.later (later_handle c m)

/-- A call has marked the token, after a look at the clock before it expired. -/
def Paired (token : PyStr) (past : PairingPast) : Prop :=
  (∃ e ∈ past, Wins e token) ∧ ∃ e ∈ past, Unexpired token e

/-- A program under interference, which ends as `Q` says. -/
abbrev PairingSound {α : Type} (Q : Except PairingError α → PairingPast → Moment → Prop)
    (p : PairingM α) : PairingPast → Moment → Prop :=
  p.Sound pairingTerms handle (fun _ => FindsUnused) (fun _ _ _ => True) Q

theorem ask_sound {K : PairingPast → Prop} {c : Call}
    (hc : ∀ m, FindsUnused m c → K ((m, c) :: past)) :
    PairingSound (fun _ past _ => K past) (ask c) past m :=
  sound_query (I := PairingApi) (c := c) fun m' _ _ =>
    ⟨trivial, fun hfinds _ _ _ => hc m' hfinds⟩

theorem now_bind_sound {α : Type} {f : Timestamp → PairingM α}
    {Q : Except PairingError α → PairingPast → Moment → Prop}
    (h : ∀ m', Later m m' → PairingSound Q (f m'.clock) ((m', .now) :: past) m') :
    PairingSound Q ((ask .now : PairingM Timestamp) >>= f) past m :=
  fun m' hm _ => ⟨trivial, fun _ => h m' hm⟩

theorem markPairingTokenUsed_sound {userId : PyStr} (h : ∃ e ∈ past, Unexpired token e) :
    PairingSound (fun _ past _ => Paired token past) (markPairingTokenUsed token userId) past m := by
  have hcons : ∀ {past : PairingPast} (e : Moment × Call), (∃ e ∈ past, Unexpired token e) →
      ∃ e' ∈ e :: past, Unexpired token e' := by
    intro past e h
    obtain ⟨e', he', hunexpired⟩ := h
    exact ⟨e', List.mem_cons_of_mem e he', hunexpired⟩
  refine Sound.tryCatch (Q := fun _ past _ => Paired token past) ?_ (fun _ _ _ h => h)
    fun _ _ _ h _ _ _ => h
  refine now_bind_sound fun m' _ => Sound.bind (Q := fun _ past _ => Paired token past) ?_
    (fun _ _ _ h _ _ _ => h) fun _ _ _ h => h
  refine ask_sound fun m'' hfinds => ⟨⟨_, List.mem_cons_self, rfl, hfinds⟩, ?_⟩
  exact hcons _ (hcons _ h)

theorem verifyPairingToken_sound (deviceId userId : PyStr) :
    PairingSound (fun r past _ => ∀ d u, r = .ok (.valid d u) → Paired token past)
      (verifyPairingToken deviceId token userId) [] m := by
  have hrefused : ∀ {r : Response} {past : PairingPast} {m : Moment}, (∀ d u, r ≠ .valid d u) →
      PairingSound (fun r past _ => ∀ d u, r = .ok (.valid d u) → Paired token past)
        (ret r) past m :=
    fun h _ _ _ d u hr => absurd (Except.ok.inj hr) (h d u)
  refine Sound.tryCatch
    (Q := fun r past _ => ∀ d u, r = .ok (.valid d u) → Paired token past) ?_
    (fun _ _ _ h => h) fun _ _ _ _ => hrefused nofun
  -- What was read is stored now, with the expiry that it has.
  refine Sound.bind (Q := fun r _ m => ∀ row, r = .ok (some row) →
    ∃ row' ∈ m.tokens token, row'.expiresAt = row.expiresAt) ?_ ?_ fun _ _ _ _ _ _ h => by cases h
  · refine Sound.tryCatch (Q := fun r _ m => ∀ row, r = .ok (some row) →
      ∃ row' ∈ m.tokens token, row'.expiresAt = row.expiresAt) ?_ (fun _ _ _ h => h)
      fun _ _ _ _ _ _ _ _ h => by cases h
    refine sound_query (I := PairingApi) (c := Call.selectToken token) fun m' _ _ =>
      ⟨trivial, fun _ m'' hm'' _ row hrow => ?_⟩
    have hstored : m'.tokens token = some row := by
      simp only [handle] at hrow
      cases hlink : m'.link with
      | up => rw [hlink] at hrow; exact Except.ok.inj hrow
      | down => rw [hlink] at hrow; cases hrow
      | lost => rw [hlink] at hrow; cases hrow
    obtain ⟨row', hrow', hexpires, -⟩ :=
      (later_handle (.selectToken token) m').trans hm'' token row hstored
    exact ⟨row', hrow', hexpires⟩
  · intro found past m hfound
    cases found with
    | none => exact hrefused nofun
    | some row =>
      dsimp only
      split
      · exact hrefused nofun
      · split
        · exact hrefused nofun
        · refine now_bind_sound fun m' hm' => ?_
          split
          · exact hrefused nofun
          · next hclock =>
              obtain ⟨row', hrow', hexpires⟩ := hfound row rfl
              obtain ⟨row'', hrow'', hexpires', -⟩ := hm' token row' hrow'
              have hunexpired : Unexpired token (m', .now) := by
                refine ⟨row'', hrow'', ?_⟩
                rw [hexpires', hexpires]
                exact not_lt.mp hclock
              refine (markPairingTokenUsed_sound ⟨_, List.mem_cons_self, hunexpired⟩).bind
                (fun _ past m h => ?_) fun _ _ _ h _ _ hr => by cases hr
              refine Sound.bind (Q := fun _ past _ => Paired token past) ?_
                (fun _ _ _ h _ _ _ _ _ _ => h) fun _ _ _ h _ _ hr => by cases hr
              refine ask_sound fun m'' _ => ⟨?_, ?_⟩
              · obtain ⟨e, he, hwins⟩ := h.1
                exact ⟨e, List.mem_cons_of_mem _ he, hwins⟩
              · obtain ⟨e, he, hbefore⟩ := h.2
                exact ⟨e, List.mem_cons_of_mem _ he, hbefore⟩

end Calls

/-! ### Runs -/

def shown : Moment :=
  { tokens := fun token => if token = ['t'] then
      some { deviceId := ['d'], expiresAt := seconds 300, createdAt := 0 } else none
    clock := 0
    link := .up }

def twoUsers (i : Fin 2) : Request := .verify ['d'] ['t'] (if i = 0 then ['a'] else ['b'])

def bothLook : PairingPool (Fin 2) :=
  (PairingPool.start shown twoUsers).schedule handle [0, 1, 0, 0, 0, 0, 1, 1, 1, 1]

def inTurn : PairingPool (Fin 2) :=
  (PairingPool.start shown twoUsers).schedule handle [0, 0, 0, 0, 0, 1]

end IsaUser.Auth.Pairing
