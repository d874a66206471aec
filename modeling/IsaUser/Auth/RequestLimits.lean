import IsaUser.Core.RateLimiter

/-!
# Rate Limits of API Keys

`merge_rate_limits` and `RequestRateLimiter.enforce` of `rate_limit_state.py`, over the backend in
memory. A call goes through the windows, from the shortest to the longest, and is recorded in each
one that has a limit in force, until one refuses it.
-/

open List

namespace IsaUser.Auth.RequestLimits

open IsaUser.Core

/-! ### The limiter -/

/-- `RATE_LIMIT_FIELDS`. -/
inductive RateLimitField where
  | requestsPerSecond
  | requestsPerMinute
  | requestsPerDay
  | tokensPerDay
  deriving DecidableEq

def RateLimitField.name : RateLimitField → PyStr
  | requestsPerSecond => "requests_per_second".toList
  | requestsPerMinute => "requests_per_minute".toList
  | requestsPerDay => "requests_per_day".toList
  | tokensPerDay => "tokens_per_day".toList

def requestRateWindows : List (RateLimitField × ℤ) :=
  [(.requestsPerSecond, 1), (.requestsPerMinute, 60), (.requestsPerDay, 86400)]

/-- The limits of a key or of an organization: a field is absent, null or a number. -/
abbrev RateLimits := RateLimitField → Option (Option ℤ)

inductive Source where
  | apiKey
  | organization
  | unset
  deriving DecidableEq

/-- `merge_rate_limits`: the effective limit of a field, and its source. -/
def mergeRateLimits (orgLimits keyLimits : RateLimits) (field : RateLimitField) :
    Option ℤ × Source :=
  match keyLimits field, orgLimits field with
  | some limit, _ => (limit, .apiKey)
  | none, some limit => (limit, .organization)
  | none, none => (none, .unset)

structure RequestRateLimitExceeded where
  field : RateLimitField
  limit : ℤ
  retryAfter : ℤ
  source : Source
  scopeId : PyStr

/-- A call of `enforce` with merged limits, and the clock when a field is counted. -/
structure Call where
  organizationId : PyStr
  keyId : PyStr
  orgLimits : RateLimits
  keyLimits : RateLimits
  time : RateLimitField → ℚ

def rateKey (field : RateLimitField) (source : Source) (organizationId keyId : PyStr) : PyStr :=
  let scope := if source = .apiKey then ['k', 'e', 'y', ':'] ++ keyId
    else ['o', 'r', 'g', ':'] ++ organizationId
  "auth_rate_limit:".toList ++ (field.name ++ ':' :: scope)

/-- `enforce`, from some window on: what it raises, and the backend that it leaves. -/
def Call.enforce (c : Call) : List (RateLimitField × ℤ) → InMemoryBackend →
    Option RequestRateLimitExceeded × InMemoryBackend
  | [], backend => (none, backend)
  | (field, window) :: windows, backend =>
    match mergeRateLimits c.orgLimits c.keyLimits field with
    | (none, _) => c.enforce windows backend
    | (some limit, source) =>
      if source = .unset then c.enforce windows backend
      else
        let counted := backend.increment (c.time field)
          (rateKey field source c.organizationId c.keyId) window
        let answer := RateLimitConfig.answer ⟨limit, window⟩ counted.1
        if answer.1 then c.enforce windows counted.2
        else
          let scopeId := if source = .apiKey then c.keyId else c.organizationId
          (some ⟨field, limit, answer.2.retryAfter, source, scopeId⟩, counted.2)

structure Answered where
  call : Call
  raised : Option RequestRateLimitExceeded

def enforceAll : List Call → InMemoryBackend × List Answered
  | [] => (fun _ => [], [])
  | c :: past =>
    let enforced := c.enforce requestRateWindows (enforceAll past).1
    (enforced.2, ⟨c, enforced.1⟩ :: (enforceAll past).2)

/-! ### The law -/

inductive Scope where
  | key (id : PyStr)
  | organization (id : PyStr)
  deriving DecidableEq

def Call.inForce (c : Call) (field : RateLimitField) : Option (ℤ × Scope) :=
  match c.keyLimits field with
  | some limit => limit.map (·, .key c.keyId)
  | none => (c.orgLimits field).join.map (·, .organization c.organizationId)

/-- A call is recorded in a window with a limit in force, up to the one that refuses it. -/
def Answered.Counts (a : Answered) (w : RateLimitField × ℤ) (scope : Scope) : Prop :=
  (a.call.inForce w.1).map Prod.snd = some scope ∧ ∀ e ∈ a.raised, w.2 ≤ e.retryAfter
  deriving Decidable

def recorded (answers : List Answered) (w : RateLimitField × ℤ) (scope : Scope) : List ℚ :=
  (answers.filter fun a => a.Counts w scope).map fun a => a.call.time w.1

def Call.full (c : Call) (times : RateLimitField × ℤ → Scope → List ℚ) (w : RateLimitField × ℤ) :
    Bool :=
  (c.inForce w.1).any fun limit =>
    limit.1 ≤ ((recent (w.2 : ℚ) (c.time w.1) (times w limit.2)).length : ℤ)

def Scope.rateKey (field : RateLimitField) : Scope → PyStr
  | key id => RequestLimits.rateKey field .apiKey [] id
  | organization id => RequestLimits.rateKey field .organization id []

/-! ### One call -/

theorem name_inj {field field' : RateLimitField} (h : field.name = field'.name) :
    field = field' := by
  cases field <;> cases field' <;> first | rfl | exact absurd h (by decide +kernel)

theorem rateKey_inj {field field' : RateLimitField} {scope scope' : Scope}
    (h : scope.rateKey field = scope'.rateKey field') : field = field' ∧ scope = scope' := by
  have hname : ∀ (field : RateLimitField) (rest : PyStr),
      (field.name ++ ':' :: rest).takeWhile (· ≠ ':') = field.name := by
    intro field rest
    have hcolon : (field.name.all fun char => char ≠ ':') = true := by
      cases field <;> decide +kernel
    rw [takeWhile_append_of_pos (all_eq_true.mp hcolon)]
    simp
  cases scope <;> cases scope' <;>
    have h := append_cancel_left h <;>
    obtain rfl := name_inj ((hname field _).symm.trans ((congrArg _ h).trans (hname field' _))) <;>
    simpa using append_cancel_left h

theorem merge_cases (c : Call) (field : RateLimitField) :
    (c.inForce field = none ∧ (mergeRateLimits c.orgLimits c.keyLimits field).1 = none) ∨
      ∃ limit source scope, c.inForce field = some (limit, scope) ∧
        mergeRateLimits c.orgLimits c.keyLimits field = (some limit, source) ∧
        source ≠ .unset ∧ rateKey field source c.organizationId c.keyId = scope.rateKey field := by
  rw [Call.inForce, mergeRateLimits]
  rcases c.keyLimits field with _ | _ | limit
  · rcases c.orgLimits field with _ | _ | limit
    · exact .inl ⟨rfl, rfl⟩
    · exact .inl ⟨rfl, rfl⟩
    · exact .inr ⟨limit, .organization, .organization c.organizationId, rfl, rfl, nofun, rfl⟩
  · exact .inl ⟨rfl, rfl⟩
  · exact .inr ⟨limit, .apiKey, .key c.keyId, rfl, rfl, nofun, rfl⟩

theorem enforce_of_none {c : Call} {w : RateLimitField × ℤ} (h : c.inForce w.1 = none)
    (ws : List (RateLimitField × ℤ)) (backend : InMemoryBackend) :
    c.enforce (w :: ws) backend = c.enforce ws backend := by
  obtain ⟨-, hmerge⟩ | ⟨_, _, _, hforce, -⟩ := merge_cases c w.1
  · obtain ⟨field, window⟩ := w
    rw [Call.enforce]
    cases hmerged : mergeRateLimits c.orgLimits c.keyLimits field with
    | mk limit source =>
      rw [hmerged] at hmerge
      obtain rfl : limit = none := hmerge
      rfl
  · cases h.symm.trans hforce

theorem enforce_of_some {c : Call} {w : RateLimitField × ℤ} {limit : ℤ} {scope : Scope}
    (h : c.inForce w.1 = some (limit, scope)) (ws : List (RateLimitField × ℤ))
    (backend : InMemoryBackend) :
    let counted := backend.increment (c.time w.1) (scope.rateKey w.1) w.2
    (counted.1 ≤ limit → c.enforce (w :: ws) backend = c.enforce ws counted.2) ∧
      (¬counted.1 ≤ limit → ∃ e, c.enforce (w :: ws) backend = (some e, counted.2) ∧
        (e.field, e.retryAfter) = w) := by
  obtain ⟨hnone, -⟩ | ⟨limit', source, scope', hforce, hmerge, hset, hkey⟩ := merge_cases c w.1
  · cases h.symm.trans hnone
  · obtain ⟨rfl, rfl⟩ : limit = limit' ∧ scope = scope' := by simpa [h] using hforce
    obtain ⟨field, window⟩ := w
    rw [Call.enforce, hmerge]
    simp only [if_neg hset, hkey, RateLimitConfig.answer, decide_eq_true_eq]
    refine ⟨fun hle => if_pos hle, fun hgt => ?_⟩
    rw [if_neg hgt]
    exact ⟨_, rfl, congrArg (field, ·) (if_neg (by simpa using hgt))⟩

theorem enforce_spec {c : Call} {times : RateLimitField × ℤ → Scope → List ℚ}
    {ws : List (RateLimitField × ℤ)} {backend : InMemoryBackend}
    {enforced : Option RequestRateLimitExceeded × InMemoryBackend}
    (henforced : c.enforce ws backend = enforced)
    (hws : ws.Pairwise fun w w' => w.1 ≠ w'.1 ∧ w.2 < w'.2)
    (h : ∀ w ∈ ws, ∀ scope, Remembers (w.2 : ℚ) (c.time w.1)
      (fun _ => backend (scope.rateKey w.1)) (times w scope)) :
    enforced.1.map (fun e => (e.field, e.retryAfter)) = ws.find? (c.full times) ∧
      (∀ w ∈ ws, ∀ scope, Remembers (w.2 : ℚ) (c.time w.1)
        (fun _ => enforced.2 (scope.rateKey w.1))
        (if Answered.Counts ⟨c, enforced.1⟩ w scope then c.time w.1 :: times w scope
          else times w scope)) ∧
      ∀ field ∉ ws.map Prod.fst, ∀ scope : Scope,
        enforced.2 (scope.rateKey field) = backend (scope.rateKey field) := by
  induction ws generalizing backend with
  | nil =>
    subst henforced
    exact ⟨rfl, nofun, fun _ _ _ => rfl⟩
  | cons w ws ih =>
    obtain ⟨hw, hws⟩ := pairwise_cons.mp hws
    obtain ⟨hself, h⟩ := forall_mem_cons.mp h
    have hnew : w.1 ∉ ws.map Prod.fst := by
      intro hmem
      obtain ⟨w', hw', heq⟩ := mem_map.mp hmem
      exact (hw w' hw').1 heq.symm
    cases hforce : c.inForce w.1 with
    | none =>
      rw [enforce_of_none hforce] at henforced
      obtain ⟨hrefused, hcounts, hothers⟩ := ih henforced hws h
      have hfull : ¬c.full times w = true := by
        rw [Call.full, hforce]
        nofun
      refine ⟨by rw [find?_cons_of_neg hfull, hrefused],
        forall_mem_cons.mpr ⟨fun scope => ?_, hcounts⟩,
        fun field hfield => hothers field fun hmem => hfield (mem_cons_of_mem _ hmem)⟩
      rw [hothers _ hnew, if_neg fun hcount => by simpa [hforce] using hcount.1]
      exact hself scope
    | some force =>
      obtain ⟨limit, scope⟩ := force
      obtain ⟨hcount, hmine, hkeep⟩ := inMemory_increment (hself scope)
      have hcounted : ∀ scope', Remembers (w.2 : ℚ) (c.time w.1)
          (fun _ => (backend.increment (c.time w.1) (scope.rateKey w.1) w.2).2
            (scope'.rateKey w.1))
          (if scope = scope' then c.time w.1 :: times w scope' else times w scope') := by
        intro scope'
        split_ifs with hscope
        · subst hscope
          exact hmine
        · rw [hkeep _ fun hkey => hscope (rateKey_inj hkey).2.symm]
          exact hself scope'
      have hfields : ∀ field ≠ w.1, ∀ scope' : Scope,
          (backend.increment (c.time w.1) (scope.rateKey w.1) w.2).2 (scope'.rateKey field) =
            backend (scope'.rateKey field) :=
        fun field hfield scope' => hkeep _ fun hkey => hfield (rateKey_inj hkey).1
      have hfull : c.full times w = decide (¬((backend.increment (c.time w.1)
          (scope.rateKey w.1) w.2).1 : ℤ) ≤ limit) := by
        rw [Call.full, hforce, hcount]
        simp [Int.add_one_le_iff]
      obtain ⟨hallowed, hrefuses⟩ := enforce_of_some hforce ws backend
      by_cases hle : ((backend.increment (c.time w.1) (scope.rateKey w.1) w.2).1 : ℤ) ≤ limit
      · rw [hallowed hle] at henforced
        obtain ⟨hrefused, hcounts, hothers⟩ := ih henforced hws fun w' hw' scope' => by
          rw [hfields _ (hw w' hw').1.symm]
          exact h w' hw' scope'
        have hlonger : ∀ e ∈ enforced.1, w.2 ≤ e.retryAfter := fun e he => by
          rw [he] at hrefused
          exact (hw _ (mem_of_find?_eq_some hrefused.symm)).2.le
        refine ⟨by rw [find?_cons_of_neg (by simpa [hfull] using hle), hrefused],
          forall_mem_cons.mpr ⟨fun scope' => ?_, hcounts⟩, fun field hfield scope' => ?_⟩
        · have hiff : Answered.Counts ⟨c, enforced.1⟩ w scope' ↔ scope = scope' := by
            simpa [Answered.Counts, hforce] using fun _ => hlonger
          rw [hothers _ hnew, if_congr hiff rfl rfl]
          exact hcounted scope'
        · rw [map_cons, mem_cons, not_or] at hfield
          rw [hothers field hfield.2, hfields field hfield.1]
      · obtain ⟨e, heq, he⟩ := hrefuses hle
        obtain rfl := heq.symm.trans henforced
        have hseconds : e.retryAfter = w.2 := congrArg Prod.snd he
        refine ⟨by rw [find?_cons_of_pos (by simpa [hfull] using hle)]; exact congrArg some he,
          forall_mem_cons.mpr ⟨fun scope' => ?_, fun w' hw' scope' => ?_⟩,
          fun field hfield scope' => hfields field (fun h => hfield (h ▸ mem_cons_self)) scope'⟩
        · have hiff : Answered.Counts ⟨c, some e⟩ w scope' ↔ scope = scope' := by
            simp [Answered.Counts, hforce, hseconds]
          rw [if_congr hiff rfl rfl]
          exact hcounted scope'
        · have hshort : ¬w'.2 ≤ e.retryAfter := by
            rw [hseconds]
            exact (hw w' hw').2.not_ge
          rw [if_neg fun hcount => hshort (hcount.2 e rfl), hfields _ (hw w' hw').1.symm]
          exact h w' hw' scope'

/-! ### Every run -/

def InOrder (calls : List Call) : Prop :=
  calls.Pairwise fun later earlier => ∀ field, earlier.time field ≤ later.time field

theorem enforceAll_remembers {calls : List Call} (h : InOrder calls) {now : RateLimitField → ℚ}
    (hnow : ∀ c ∈ calls, ∀ field, c.time field ≤ now field) :
    ∀ w ∈ requestRateWindows, ∀ scope, Remembers (w.2 : ℚ) (now w.1)
      (fun _ => (enforceAll calls).1 (scope.rateKey w.1))
      (recorded (enforceAll calls).2 w scope) := by
  induction calls generalizing now with
  | nil => exact fun _ _ _ _ _ _ _ => rfl
  | cons c past ih =>
    obtain ⟨hc, hpast⟩ := pairwise_cons.mp h
    intro w hw scope
    obtain ⟨-, hcounts, -⟩ := enforce_spec rfl (by decide) (ih hpast hc)
    have hlater := (hcounts w hw scope).later (hnow c mem_cons_self w.1)
    rw [enforceAll, recorded, filter_cons]
    simp only [decide_eq_true_eq]
    split_ifs at hlater ⊢ with hcount
    · exact hlater
    · exact hlater

/-- **A call is refused if and only if the records of a window with a limit in force have reached
it**, by the first such window; and the counts that the backend reports from then on are those of
what is recorded. -/
theorem enforce_records (c : Call) (past : List Call) (h : InOrder (c :: past)) :
    let before := enforceAll past
    let raised := (c.enforce requestRateWindows before.1).1
    let after := enforceAll (c :: past)
    (raised.isSome ↔ ∃ w ∈ requestRateWindows, c.full (recorded before.2) w) ∧
      raised.map (fun e => (e.field, e.retryAfter)) =
        requestRateWindows.find? (c.full (recorded before.2)) ∧
      ∀ w ∈ requestRateWindows, ∀ scope : Scope, ∀ later ≥ c.time w.1,
        after.1.getCount later (scope.rateKey w.1) w.2 =
          (recent (w.2 : ℚ) later (recorded after.2 w scope)).length := by
  obtain ⟨hc, hpast⟩ := pairwise_cons.mp h
  obtain ⟨hraised, -⟩ := enforce_spec rfl (by decide) (enforceAll_remembers hpast hc)
  refine ⟨?_, hraised, fun w hw scope later hlater => ?_⟩
  · rw [← Option.isSome_map (f := fun e => (e.field, e.retryAfter)), hraised, find?_isSome]
  · have hnow : ∀ call ∈ c :: past, ∀ field, call.time field ≤ c.time field :=
      forall_mem_cons.mpr ⟨fun _ => le_rfl, hc⟩
    exact enforceAll_remembers h hnow w hw scope later later hlater le_rfl

/-! ### Refused calls -/

section Charges

-- Which calls are of a scope: those that its limit counts, say, or all of an organization.
variable (inScope : Scope → Call → RateLimitField → Bool)

def called (calls : List Call) (w : RateLimitField × ℤ) (scope : Scope) : List ℚ :=
  (calls.filter fun c => inScope scope c w.1).map fun c => c.time w.1

def accepted (answers : List Answered) : List Call :=
  (answers.filter fun a => a.raised.isNone).map Answered.call

/-- Only accepted calls count against a limit, and a refused call changes no count. -/
def Uncharged (past : List Call) (c : Call) : Prop :=
  let before := enforceAll past
  let enforced := c.enforce requestRateWindows before.1
  (enforced.1.isSome ↔
    ∃ w ∈ requestRateWindows, c.full (called inScope (accepted before.2)) w) ∧
  (enforced.1.isSome → ∀ w ∈ requestRateWindows, ∀ scope : Scope, ∀ later ≥ c.time w.1,
    enforced.2.getCount later (scope.rateKey w.1) w.2 =
      before.1.getCount later (scope.rateKey w.1) w.2)

def Fits (past : List Call) (c : Call) : Prop :=
  ∀ w ∈ requestRateWindows, ¬c.full (called inScope past) w

variable {inScope} {c : Call} {past : List Call}

theorem full_inForce {times : RateLimitField × ℤ → Scope → List ℚ} {w : RateLimitField × ℤ}
    (h : c.full times w) : ∃ force, c.inForce w.1 = some force := by
  cases hforce : c.inForce w.1 with
  | none => simp [Call.full, hforce] at h
  | some force => exact ⟨force, rfl⟩

theorem full_mono {times times' : RateLimitField × ℤ → Scope → List ℚ} {w : RateLimitField × ℤ}
    (hsub : ∀ force, c.inForce w.1 = some force →
      (times w force.2).Sublist (times' w force.2))
    (h : c.full times w) : c.full times' w := by
  obtain ⟨force, hforce⟩ := full_inForce h
  simp only [Call.full, hforce, Option.any_some, decide_eq_true_eq] at h ⊢
  have hlength := ((hsub force hforce).filter fun t => c.time w.1 - w.2 < t).length_le
  exact h.trans (by exact_mod_cast hlength)

theorem enforceAll_calls (calls : List Call) : (enforceAll calls).2.map Answered.call = calls := by
  induction calls with
  | nil => rfl
  | cons c past ih => rw [enforceAll, map_cons, ih]

theorem recorded_sublist
    (hscope : ∀ (c : Call) field force, c.inForce field = some force → inScope force.2 c field)
    (past : List Call) (w : RateLimitField × ℤ) (scope : Scope) :
    (recorded (enforceAll past).2 w scope).Sublist (called inScope past w scope) := by
  have hcalls : called inScope past w scope = ((enforceAll past).2.filter fun a =>
      inScope scope a.call w.1).map fun a => a.call.time w.1 := by
    conv_lhs => rw [← enforceAll_calls past, called, filter_map, map_map]
    rfl
  rw [hcalls, recorded]
  refine (monotone_filter_right _ fun a ha => ?_).map _
  obtain ⟨force, hforce, rfl⟩ := Option.map_eq_some_iff.mp (of_decide_eq_true ha).1
  exact hscope _ _ _ hforce

theorem refused_charges (h : InOrder (c :: past))
    (hraised : (c.enforce requestRateWindows (enforceAll past).1).1.isSome) :
    ∃ w ∈ requestRateWindows, ∃ scope : Scope,
      (enforceAll (c :: past)).1.getCount (c.time w.1) (scope.rateKey w.1) w.2 =
        (enforceAll past).1.getCount (c.time w.1) (scope.rateKey w.1) w.2 + 1 := by
  obtain ⟨hc, hpast⟩ := pairwise_cons.mp h
  obtain ⟨-, hfind, hcount⟩ := enforce_records c past h
  obtain ⟨e, he⟩ := Option.isSome_iff_exists.mp hraised
  rw [he] at hfind
  have hw := mem_of_find?_eq_some hfind.symm
  obtain ⟨⟨limit, scope⟩, hforce⟩ := full_inForce (find?_some hfind.symm)
  refine ⟨_, hw, scope, ?_⟩
  have hbefore : (enforceAll past).1.getCount (c.time e.field) (scope.rateKey e.field) e.retryAfter =
      (recent (e.retryAfter : ℚ) (c.time e.field)
        (recorded (enforceAll past).2 (e.field, e.retryAfter) scope)).length :=
    enforceAll_remembers hpast hc _ hw scope _ _ le_rfl le_rfl
  have hpos : (0 : ℚ) < e.retryAfter := by
    have hlarge : ∀ w ∈ requestRateWindows, 0 < w.2 := by decide
    exact_mod_cast hlarge _ hw
  have hself : Answered.Counts ⟨c, some e⟩ (e.field, e.retryAfter) scope := by
    simp [Answered.Counts, hforce]
  rw [hcount _ hw scope _ le_rfl, hbefore, enforceAll, he, recorded, filter_cons,
    if_pos (by simpa using hself), map_cons, recent_cons, if_pos (by simpa using hpos)]
  rfl

theorem accepted_of_fits
    (hscope : ∀ (c : Call) field force, c.inForce field = some force → inScope force.2 c field)
    (h : InOrder (c :: past)) (hfits : Fits inScope past c) :
    (c.enforce requestRateWindows (enforceAll past).1).1 = none := by
  obtain ⟨hraised, -⟩ := enforce_records c past h
  refine Option.not_isSome_iff_eq_none.mp fun hsome => ?_
  obtain ⟨w, hw, hfull⟩ := hraised.mp hsome
  exact hfits w hw (full_mono (fun force _ => recorded_sublist hscope past w force.2) hfull)

theorem accepted_eq {calls : List Call} (h : ∀ c past, c :: past <:+ calls →
    (c.enforce requestRateWindows (enforceAll past).1).1 = none) :
    accepted (enforceAll calls).2 = calls := by
  induction calls with
  | nil => rfl
  | cons c past ih =>
    have hpast := ih fun c' past' hsuffix => h c' past' (hsuffix.trans (suffix_cons c past))
    have hnone := h c past suffix_rfl
    rw [enforceAll, accepted, hnone, filter_cons_of_pos rfl, map_cons]
    exact congrArg (c :: ·) hpast

/-- **Refused calls are not charged in a run exactly if none of its calls is refused**, that is,
if no call finds a limit in force that the calls of its scope have reached. -/
theorem uncharged_iff {calls : List Call}
    (hscope : ∀ (c : Call) field force, c.inForce field = some force → inScope force.2 c field)
    (h : InOrder calls) :
    (∀ c past, c :: past <:+ calls → Uncharged inScope past c) ↔
      ∀ c past, c :: past <:+ calls → Fits inScope past c := by
  have horder : ∀ {c past}, c :: past <:+ calls → InOrder (c :: past) :=
    fun hsuffix => h.sublist hsuffix.sublist
  constructor
  · intro huncharged
    have hnone : ∀ c past, c :: past <:+ calls →
        (c.enforce requestRateWindows (enforceAll past).1).1 = none := by
      intro c past hsuffix
      refine Option.not_isSome_iff_eq_none.mp fun hraised => ?_
      obtain ⟨w, hw, scope, hcharged⟩ := refused_charges (horder hsuffix) hraised
      have hsame := (huncharged c past hsuffix).2 hraised w hw scope _ le_rfl
      exact Nat.succ_ne_self _ (hcharged.symm.trans hsame)
    intro c past hsuffix w hw hfull
    have hpast := accepted_eq fun c' past' hsuffix' =>
      hnone c' past' (hsuffix'.trans ((suffix_cons c past).trans hsuffix))
    have hraised := (huncharged c past hsuffix).1.mpr ⟨w, hw, by rwa [hpast]⟩
    simp [hnone c past hsuffix] at hraised
  · intro hfits c past hsuffix
    have hnone : ∀ c past, c :: past <:+ calls →
        (c.enforce requestRateWindows (enforceAll past).1).1 = none :=
      fun c past hsuffix => accepted_of_fits hscope (horder hsuffix) (hfits c past hsuffix)
    have hpast := accepted_eq fun c' past' hsuffix' =>
      hnone c' past' (hsuffix'.trans ((suffix_cons c past).trans hsuffix))
    simp only [Uncharged, hnone c past hsuffix, hpast]
    refine ⟨⟨fun hsome => by simp at hsome, fun ⟨w, hw, hfull⟩ => ?_⟩, fun hsome => by simp at hsome⟩
    exact absurd hfull (hfits c past hsuffix w hw)

end Charges

/-! ### The limit -/

def Answered.Accepts (a : Answered) (w : RateLimitField × ℤ) (scope : Scope) (e : ℚ) : Prop :=
  a.raised.isNone ∧ (a.call.inForce w.1).map Prod.snd = some scope ∧
    InWindow (w.2 : ℚ) e (a.call.time w.1)
  deriving Decidable

def minuteCall (time : ℚ) : Call where
  organizationId := ['o']
  keyId := ['k']
  orgLimits _ := none
  keyLimits field := if field = .requestsPerMinute then some (some 1) else none
  time _ := time

theorem inOrder_minuteCall : InOrder [minuteCall 70, minuteCall 50, minuteCall 0] := by
  norm_num [InOrder, minuteCall]

def byOwner (scope : Scope) (c : Call) (_ : RateLimitField) : Bool :=
  scope = .key c.keyId ∨ scope = .organization c.organizationId

theorem byOwner_inForce (c : Call) (field : RateLimitField) (force : ℤ × Scope)
    (h : c.inForce field = some force) : byOwner force.2 c field := by
  rw [Call.inForce] at h
  split at h
  · obtain ⟨limit, -, rfl⟩ := Option.map_eq_some_iff.mp h
    simp [byOwner]
  · obtain ⟨limit, -, rfl⟩ := Option.map_eq_some_iff.mp h
    simp [byOwner]

theorem uncharged_iff_minutes :
    (∀ c past, c :: past <:+ [minuteCall 70, minuteCall 0] → Uncharged byOwner past c) ↔
      ∀ c past, c :: past <:+ [minuteCall 70, minuteCall 0] → Fits byOwner past c :=
  uncharged_iff byOwner_inForce (by norm_num [InOrder, minuteCall])

/-- The call at 70 is refused, for the one at 50 that has been refused: no call has been accepted
in the last minute. -/
theorem not_uncharged_refused : InOrder [minuteCall 70, minuteCall 50, minuteCall 0] ∧
    ¬∃ inScope, Uncharged inScope [minuteCall 50, minuteCall 0] (minuteCall 70) := by
  refine ⟨inOrder_minuteCall, ?_⟩
  intro ⟨inScope, h⟩
  have hraised : ((minuteCall 70).enforce requestRateWindows
      (enforceAll [minuteCall 50, minuteCall 0]).1).1.isSome := by decide +kernel
  obtain ⟨w, hw, scope, hcharged⟩ := refused_charges inOrder_minuteCall hraised
  have hsame := h.2 hraised w hw scope _ le_rfl
  exact Nat.succ_ne_self _ (hcharged.symm.trans hsame)

end IsaUser.Auth.RequestLimits
