import IsaUser.Credit.Concurrent

/-!
# Allocations from One Campaign at the Same Time

An allocation from a campaign is checked against the budget and against the allocations
of its user, then written, and only then recorded in `allocated_amount`. The last update is
guarded, but by then the credits are given out, and its answer is not looked at. Nothing
ties the two checks to the write.
-/

open IsaUser.Prog Option

namespace IsaUser.Credit

open CreditService World Store

/-! ### The law -/

/-- What the allocations of campaign `k` add up to. -/
def World.allocatedSum (w : World) (k : ℕ) : ℤ :=
  w.store.allocations.sumBy fun a => if a.campaignId = some k then a.amount else 0

/-- The law of campaign `k`, when `x` of the credits given out are still to be recorded:
what is given out is what is recorded and those `x`, it is within the budget, and no user
has more allocations than allowed. -/
def World.KeepsCampaign (w : World) (k : ℕ) (x : ℤ) : Prop :=
  ∃ c, w.store.campaigns.get? k = some c ∧ w.allocatedSum k = c.allocatedAmount + x ∧
    w.allocatedSum k ≤ c.totalBudget ∧
    ∀ u, w.store.getUserCampaignAllocationsCount u k ≤ c.maxAllocationsPerUser

/-- The request allocates from campaign `k`. -/
def CreditService.Request.allocatesFrom (k : ℕ) : Request → Bool
  | allocateCredits request => request.campaignId = some k
  | allocateFromCampaign _ c => c = k
  | _ => false

def Call.allocation? : Call → Option Allocation
  | createAllocation data => some data
  | _ => none

/-- An allocation from campaign `k` is written only while the budget, less what is given
out, has its amount and its user has not reached the limit. -/
def CampaignHasRoom (k : ℕ) (w : World) (c : Call) : Prop :=
  ∀ data ∈ c.allocation?, data.campaignId = some k → ∀ campaign ∈ w.store.campaigns.get? k,
    w.allocatedSum k + data.amount ≤ campaign.totalBudget ∧
      w.store.getUserCampaignAllocationsCount data.userId k < campaign.maxAllocationsPerUser
  deriving Decidable

/-- What a call gives out of campaign `k`. -/
def Call.given (k : ℕ) (c : Call) : ℤ :=
  (c.allocation?.map fun a => if a.campaignId = some k then a.amount else 0).getD 0

/-- What a call asks to record in the budget of campaign `k`. -/
def Call.recorded (k : ℕ) : Call → ℤ
  | updateCampaignBudget j x => if j = k then x else 0
  | _ => 0

/-- What the requests of a pool are about to record in the budget of campaign `k`. -/
def underWay {ι : Type} [Fintype ι] (k : ℕ) (pool : CreditPool ι) : ℤ :=
  ∑ i, ((pool.next? i).map (Call.recorded k)).getD 0

/-! ### One request -/

def unrecorded (k : ℕ) (e : World × Call) : ℤ := e.2.given k - e.2.recorded k

/-- The promise of an allocation from campaign `k`: it gives out credits once, and then
records what it gave out. -/
def Recording (k : ℕ) (past : Past CreditApi World) (_ : World) : Call → Prop
  | .createAllocation data =>
    data.campaignId = some k ∧ 0 ≤ data.amount ∧ tally (unrecorded k) past = 0
  | .updateCampaignBudget j x => j = k ∧ 0 ≤ x ∧ tally (unrecorded k) past = x
  | .createCampaign _ => False
  | _ => tally (unrecorded k) past = 0

def Call.OffCampaign : Call → Prop
  | createAllocation _ => False
  | updateCampaignBudget _ _ => False
  | createCampaign _ => False
  | _ => True

theorem Call.offCampaign_of_isRead {c : Call} (hc : c.IsRead) : c.OffCampaign := by
  cases c <;> trivial

section Recording

variable {A : Past CreditApi World → World → Call → Prop} {T : Terms World} {k : ℕ}
  {past : Past CreditApi World} {w : World}

theorem unrecorded_of_offCampaign {c : Call} (hc : c.OffCampaign) :
    unrecorded k (w, c) = 0 := by
  cases c <;> first | rfl | exact absurd hc id

theorem offCampaign_keeps {c : Call} (hc : c.OffCampaign) (past : Past CreditApi World)
    (w : World) (hpast : tally (unrecorded k) past = 0) :
    Recording k past w c ∧ tally (unrecorded k) ((w, c) :: past) = 0 := by
  constructor
  · cases c <;> first | exact hpast | exact absurd hc id
  · rw [tally_cons, unrecorded_of_offCampaign hc, hpast, add_zero]

theorem sound_ask_offCampaign {α : Type} {c : Call} {f : c.Reply → CreditM α}
    {Q : Except CreditError α → Past CreditApi World → World → Prop} (hc : c.OffCampaign)
    (hpast : tally (unrecorded k) past = 0)
    (h : ∀ w', tally (unrecorded k) ((w', c) :: past) = 0 →
      (f (handle c w').1).Sound T handle A (Recording k) Q ((w', c) :: past) (handle c w').2) :
    (ask c >>= f).Sound T handle A (Recording k) Q past w := by
  refine sound_ask fun w' _ _ => ?_
  obtain ⟨hG, hnext⟩ := offCampaign_keeps hc past w' hpast
  exact ⟨hG, fun _ => h w' hnext⟩

theorem createAccount_offCampaign (u : PyStr) (t : CreditType) (p : ExpirationPolicy)
    (d : ℤ) : (createAccount u t p d).Only Call.OffCampaign := by
  refine Only.bind only_require fun _ => ?_
  refine Only.bind only_require fun _ => ?_
  refine Only.bind only_require fun _ => ?_
  refine Only.bind only_require fun _ => ?_
  refine only_ask_bind trivial fun found => ?_
  cases found with
  | some row => trivial
  | none =>
    refine only_ask_bind trivial fun created => ?_
    cases created <;> trivial

theorem getOrCreateAccount_offCampaign (u : PyStr) (t : CreditType) :
    (getOrCreateAccount u t).Only Call.OffCampaign := by
  refine only_ask_bind trivial fun found => ?_
  cases found with
  | some row => trivial
  | none => exact createAccount_offCampaign _ _ _ _

theorem writeAllocation_sound {request : AllocateRequest} {account : Row Account}
    {expiresAt : Option Timestamp} (hk : request.campaignId = some k)
    (hx : 0 < request.amount) (hpast : tally (unrecorded k) past = 0) :
    (writeAllocation request account expiresAt).Sound T handle A (Recording k)
      (fun _ past _ => tally (unrecorded k) past = 0) past w := by
  obtain ⟨u, x, t, campaignId, e⟩ := request
  obtain rfl : campaignId = some k := hk
  refine sound_ask_offCampaign trivial hpast fun w₁ hpast₁ => ?_
  refine sound_ask_offCampaign trivial hpast₁ fun w₂ hpast₂ => ?_
  refine sound_require_bind (fun _ => ?_) fun _ _ _ _ => hpast₂
  refine sound_ask fun w₃ _ _ => ⟨⟨rfl, hx.le, hpast₂⟩, fun _ => ?_⟩
  refine sound_ask fun w₄ _ _ => ⟨⟨rfl, hx.le, ?_⟩, fun _ => sound_ret fun _ _ _ => ?_⟩
  · rw [tally_cons, hpast₂, add_zero]
    exact (sub_zero _).trans (if_pos rfl)
  · rw [tally_cons, tally_cons, hpast₂]
    simp [unrecorded, Call.given, Call.recorded, Call.allocation?]

theorem allocateCredits_sound (self : CreditService) {request : AllocateRequest}
    (hk : request.campaignId = some k) (hpast : tally (unrecorded k) past = 0) :
    (self.allocateCredits request).Sound T handle A (Recording k)
      (fun _ past _ => tally (unrecorded k) past = 0) past w := by
  have hreads : ∀ c : Call, c.IsRead → ∀ past w, tally (unrecorded k) past = 0 →
      Recording k past w c ∧ tally (unrecorded k) ((w, c) :: past) = 0 :=
    fun c hc => offCampaign_keeps (Call.offCampaign_of_isRead hc)
  refine sound_require_bind (fun hx => ?_) fun _ _ _ _ => hpast
  refine sound_require_bind (fun _ => ?_) fun _ _ _ _ => hpast
  refine (getOrCreateAccount_offCampaign _ _).sound_bind hpast
    (fun _ hc => offCampaign_keeps hc) (fun account past w hpast => ?_) fun _ _ _ h => h
  refine sound_require_bind (fun _ => ?_) fun _ _ _ _ => hpast
  refine (campaignOf_isRead _ _).sound_bind hpast hreads (fun campaign past w hpast => ?_)
    fun _ _ _ h => h
  refine (expiryOf_isRead _ _ _).sound_bind hpast hreads (fun expiresAt past w hpast => ?_)
    fun _ _ _ h => h
  exact (writeAllocation_sound hk hx hpast).tryCatch (fun _ _ _ h => h)
    fun _ _ _ h => sound_raise fun _ _ _ => h

theorem allocateFromCampaign_sound (self : CreditService) (u : PyStr) :
    (self.allocateFromCampaign u k).Sound T handle A (Recording k)
      (fun _ past _ => tally (unrecorded k) past = 0) [] w := by
  have hreads : ∀ c : Call, c.IsRead → ∀ past w, tally (unrecorded k) past = 0 →
      Recording k past w c ∧ tally (unrecorded k) ((w, c) :: past) = 0 :=
    fun c hc => offCampaign_keeps (Call.offCampaign_of_isRead hc)
  refine (validateCampaignForAllocation_isRead _ _ _ _).sound_bind (tally_nil _) hreads
    (fun campaign past w hpast => ?_) fun _ _ _ h => h
  refine sound_require_bind (fun _ => ?_) fun _ _ _ _ => hpast
  refine (checkEligibility_isRead _ _ _).sound_bind hpast hreads (fun _ past w hpast => ?_)
    fun _ _ _ h => h
  refine sound_ask_offCampaign trivial hpast fun w₁ hpast₁ => ?_
  exact allocateCredits_sound self rfl hpast₁

/-- **An allocation records what it gives out**, whatever others do in between. -/
theorem allocation_sound (self : CreditService) {r : Request} (hr : r.allocatesFrom k) :
    (r.prog self).Sound T handle A (Recording k)
      (fun _ past _ => tally (unrecorded k) past = 0) [] w := by
  cases r with
  | allocateCredits request =>
    exact sound_void (allocateCredits_sound self (of_decide_eq_true hr) (tally_nil _))
  | allocateFromCampaign u c =>
    obtain rfl : c = k := of_decide_eq_true hr
    exact sound_void (allocateFromCampaign_sound self u)
  | _ => cases hr

end Recording

/-! ### One call -/

/-- The budget of campaign `k` and the limits of its users are kept. -/
def World.WithinLimits (w : World) (k : ℕ) : Prop :=
  ∃ c, w.store.campaigns.get? k = some c ∧ w.allocatedSum k ≤ c.totalBudget ∧
    ∀ u, w.store.getUserCampaignAllocationsCount u k ≤ c.maxAllocationsPerUser

/-- What is given out of campaign `k` and not recorded, by the books. -/
def World.openBudget (w : World) (k : ℕ) : ℤ :=
  w.allocatedSum k - ((w.store.campaigns.get? k).map (·.allocatedAmount)).getD 0

section OneCall

variable {k : ℕ} {w : World} {c : Call} {past : Past CreditApi World}

theorem sumBy_allocations_handle {g : Allocation → ℤ}
    (hcreated : ∀ a t, g { a with createdAt := t } = g a)
    (hconsumed : ∀ a x, g { a with consumedAmount := x } = g a)
    (hexpired : ∀ a x, g { a with expiredAmount := x } = g a) (c : Call) (w : World) :
    (handle c w).2.store.allocations.sumBy g =
      w.store.allocations.sumBy g + (c.allocation?.map g).getD 0 := by
  cases c with
  | createAllocation data =>
    simp [handle, createAllocation, Call.allocation?, hcreated]
  | createAccount data =>
    simp only [handle, Store.createAccount]
    split <;> exact (add_zero _).symm
  | updateAccountBalance i δ =>
    simp only [handle, Store.updateAccountBalance]
    split
    · split <;> exact (add_zero _).symm
    · exact (add_zero _).symm
  | updateAllocationConsumed j x =>
    simp only [handle, updateAllocationConsumed]
    split
    · simp [Table.sumBy_modify_of_eq, hconsumed, Call.allocation?]
    · exact (add_zero _).symm
  | updateAllocationExpired j x =>
    simp only [handle, updateAllocationExpired]
    split
    · simp [Table.sumBy_modify_of_eq, hexpired, Call.allocation?]
    · exact (add_zero _).symm
  | updateCampaignBudget j x =>
    simp only [handle, updateCampaignBudget]
    split
    · split <;> exact (add_zero _).symm
    · exact (add_zero _).symm
  | _ => exact (add_zero _).symm

theorem allocatedSum_handle : (handle c w).2.allocatedSum k = w.allocatedSum k + c.given k :=
  sumBy_allocations_handle (fun _ _ => rfl) (fun _ _ => rfl) (fun _ _ => rfl) c w

theorem getUserCampaignAllocationsCount_eq (s : Store) (u : PyStr) :
    s.getUserCampaignAllocationsCount u k =
      s.allocations.sumBy fun a => if a.userId = u ∧ a.campaignId = some k then 1 else 0 := by
  have h := Table.sumBy_select s.allocations
    (fun a => decide (a.userId = u ∧ a.campaignId = some k)) fun _ => (1 : ℤ)
  simp only [decide_eq_true_eq] at h
  rw [← h, getUserCampaignAllocationsCount]
  simp

theorem count_handle (u : PyStr) :
    (handle c w).2.store.getUserCampaignAllocationsCount u k =
      w.store.getUserCampaignAllocationsCount u k + (c.allocation?.map fun a =>
        if a.userId = u ∧ a.campaignId = some k then 1 else 0).getD 0 := by
  rw [getUserCampaignAllocationsCount_eq, getUserCampaignAllocationsCount_eq]
  exact sumBy_allocations_handle (fun _ _ => rfl) (fun _ _ => rfl) (fun _ _ => rfl) c w

theorem get?_campaigns_handle {campaign : Campaign} (hk : w.store.campaigns.get? k = some campaign)
    (hc : Recording k past w c) :
    ∃ x, (handle c w).2.store.campaigns.get? k =
        some { campaign with allocatedAmount := campaign.allocatedAmount + x } ∧
      (campaign.allocatedAmount + c.recorded k ≤ campaign.totalBudget → x = c.recorded k) := by
  cases c with
  | updateCampaignBudget j x =>
    obtain ⟨rfl, -⟩ := hc
    simp only [handle, updateCampaignBudget, hk, Call.recorded]
    split
    · exact ⟨x, by simp [Table.get?_modify_self hk], fun _ => rfl⟩
    · next hx => exact ⟨0, by simpa using hk, fun h => absurd h hx⟩
  | createCampaign data => exact absurd hc id
  | createAccount data =>
    refine ⟨0, ?_, fun _ => rfl⟩
    simp only [handle, Store.createAccount]
    split <;> simpa using hk
  | updateAccountBalance i δ =>
    refine ⟨0, ?_, fun _ => rfl⟩
    simp only [handle, Store.updateAccountBalance]
    split
    · split <;> simpa using hk
    · simpa using hk
  | updateAllocationConsumed j x =>
    refine ⟨0, ?_, fun _ => rfl⟩
    simp only [handle, updateAllocationConsumed]
    split <;> simpa using hk
  | updateAllocationExpired j x =>
    refine ⟨0, ?_, fun _ => rfl⟩
    simp only [handle, updateAllocationExpired]
    split <;> simpa using hk
  | _ => exact ⟨0, by simpa [handle, createTransaction, createAllocation] using hk,
      fun _ => rfl⟩

theorem withinLimits_handle (hw : w.WithinLimits k) (hroom : CampaignHasRoom k w c)
    (hc : Recording k past w c) : (handle c w).2.WithinLimits k := by
  obtain ⟨campaign, hk, hbudget, hcap⟩ := hw
  obtain ⟨x, hk', -⟩ := get?_campaigns_handle hk hc
  refine ⟨_, hk', ?_, fun u => ?_⟩
  · rw [allocatedSum_handle, Call.given]
    cases hdata : c.allocation? with
    | none => simpa using hbudget
    | some data =>
      by_cases hcampaign : data.campaignId = some k
      · simpa [hcampaign] using (hroom data hdata hcampaign campaign hk).1
      · simpa [hcampaign] using hbudget
  · rw [count_handle]
    cases hdata : c.allocation? with
    | none => simpa using hcap u
    | some data =>
      by_cases huser : data.userId = u ∧ data.campaignId = some k
      · have hlt := (hroom data hdata huser.2 campaign hk).2
        rw [huser.1] at hlt
        rw [map_some, if_pos huser]
        exact hlt
      · simpa [huser] using hcap u

theorem recorded_eq (hc : Recording k past w c) : c.recorded k = tally (unrecorded k) past := by
  cases c with
  | updateCampaignBudget j x =>
    obtain ⟨rfl, -, hpast⟩ := hc
    exact (if_pos rfl).trans hpast.symm
  | createAllocation data => exact hc.2.2.symm
  | createCampaign data => exact absurd hc id
  | _ => exact Eq.symm hc

theorem tally_unrecorded_cons (hc : Recording k past w c) :
    tally (unrecorded k) ((w, c) :: past) = c.given k := by
  rw [tally_cons, unrecorded, recorded_eq hc, sub_add_cancel]

theorem given_nonneg (hc : Recording k past w c) : 0 ≤ c.given k := by
  cases c with
  | createAllocation data =>
    obtain ⟨hk, hx, -⟩ := hc
    simpa [Call.given, Call.allocation?, hk] using hx
  | _ => exact le_rfl

theorem openBudget_handle (hw : w.WithinLimits k) (hc : Recording k past w c)
    (hopen : c.recorded k ≤ w.openBudget k) :
    (handle c w).2.openBudget k = w.openBudget k + unrecorded k (w, c) := by
  obtain ⟨campaign, hk, hbudget, -⟩ := hw
  obtain ⟨x, hk', hx⟩ := get?_campaigns_handle hk hc
  simp only [openBudget, hk, map_some, getD_some] at hopen
  simp only [openBudget, hk, hk', allocatedSum_handle, unrecorded, map_some,
    getD_some]
  omega

theorem keepsCampaign_of_fresh {c : Campaign} (hempty : w.store.allocations = .empty)
    (hk : w.store.campaigns.get? k = some c) (hzero : c.allocatedAmount = 0)
    (hbudget : 0 ≤ c.totalBudget) (hcap : 0 ≤ c.maxAllocationsPerUser) :
    w.KeepsCampaign k 0 := by
  have hsum : w.allocatedSum k = 0 := by rw [allocatedSum, hempty, Table.sumBy_empty]
  refine ⟨c, hk, by omega, by omega, fun u => ?_⟩
  rw [getUserCampaignAllocationsCount_eq, hempty]
  exact hcap

end OneCall

/-! ### Runs -/

section Runs

variable {ι : Type} {self : CreditService} {requests : ι → Request} {k : ℕ}

theorem underWay_eq [Fintype ι] {T : Terms World}
    {A : ι → Past CreditApi World → World → Call → Prop}
    {pool : CreditPool ι}
    (hpool : Pool.AllSound T handle A (fun _ => Recording k)
      (fun _ _ past _ => tally (unrecorded k) past = 0) pool) :
    underWay k pool = ∑ i, tally (unrecorded k) (pool.past i) := by
  refine Finset.sum_congr rfl fun i _ => ?_
  rw [Pool.next?]
  split
  · next a ha => exact (hpool.of_ret ha).symm
  · next e he => exact (hpool.of_raise he).symm
  · next c f hc => exact recorded_eq (hpool.of_call hc)

/-- **Campaign budget and limits under concurrency.** Any number of allocations from one
campaign run at the same time, in any order of their calls and with time passing in
between. If the campaign has room for every allocation when it is written, then in every
state what is given out is what is recorded and what is about to be recorded, the budget
is kept, and so is the limit of every user. -/
theorem keepsCampaign_of_room [Fintype ι] [DecidableEq ι] {w : World}
    (hw : w.KeepsCampaign k 0) (hrequests : ∀ i, (requests i).allocatesFrom k)
    {pool : CreditPool ι}
    (hpool : Pool.Reach handle Surroundings (fun _ _ w c => CampaignHasRoom k w c)
      (CreditPool.start self w requests) pool) :
    pool.state.KeepsCampaign k (underWay k pool) := by
  obtain ⟨c, hk, hrecorded, hlimits⟩ := hw
  have hall : Pool.AllSound (Terms.ofInv (WithinLimits · k)) handle
      (fun _ _ w c => CampaignHasRoom k w c) (fun _ => Recording k)
      (fun _ _ past _ => tally (unrecorded k) past = 0) (CreditPool.start self w requests) :=
    ⟨⟨c, hk, hlimits⟩, fun i => allocation_sound self (hrequests i)⟩
  have hkeeps : ∀ (i : ι) (past : Past CreditApi World) (w : World) (c : Call),
      w.WithinLimits k → CampaignHasRoom k w c → Recording k past w c →
      (handle c w).2.WithinLimits k ∧ True :=
    fun _ _ _ _ hw hroom hc => ⟨withinLimits_handle hw hroom hc, trivial⟩
  have henv : ∀ w w' : World, w.WithinLimits k → Surroundings w w' →
      w'.WithinLimits k ∧ True := by
    intro w w' hw hstore
    rw [WithinLimits, allocatedSum, show w'.store = w.store from hstore]
    exact ⟨hw, trivial⟩
  have hopen := hpool.invariant hall (fun _ _ _ _ h => h) hkeeps henv
    (fun w past => w.openBudget k = ∑ i, tally (unrecorded k) (past i) ∧
      ∀ i, 0 ≤ tally (unrecorded k) (past i)) ?_ ?_ ?_
  · have hend := hpool.sound hall (fun _ _ _ _ h => h) hkeeps henv
    have hunder := underWay_eq hend
    obtain ⟨c, hk, hbudget, hcap⟩ := hend.1
    refine ⟨c, hk, ?_, hbudget, hcap⟩
    have h := hopen.1
    simp only [openBudget, hk, map_some, getD_some] at h
    omega
  · refine ⟨?_, fun _ => le_rfl⟩
    have hzero : w.openBudget k = 0 := by simp [openBudget, hk, hrecorded]
    exact hzero.trans (Finset.sum_eq_zero fun _ _ => rfl).symm
  · rintro w w' past hstore ⟨hsum, hnonneg⟩
    refine ⟨?_, hnonneg⟩
    rw [openBudget, allocatedSum, show w'.store = w.store from hstore]
    exact hsum
  · rintro i past w c hw - hc ⟨hsum, hnonneg⟩
    constructor
    · rw [sum_tally_update, ← hsum]
      refine openBudget_handle hw hc ?_
      rw [recorded_eq hc, hsum]
      exact Finset.single_le_sum (fun j _ => hnonneg j) (Finset.mem_univ i)
    · intro j
      rcases eq_or_ne j i with rfl | hj
      · rw [Function.update_self, tally_unrecorded_cons hc]
        exact given_nonneg hc
      · rw [Function.update_of_ne hj]
        exact hnonneg j

end Runs

/-! ### A race -/

def campaignWorld (totalBudget maxAllocationsPerUser : ℤ) : World :=
  exec (Step.run ⟨false⟩) (start 0 fun _ => none)
    [.request (.createCampaign
        { name := ['c'], creditType := .bonus, creditAmount := 10, totalBudget,
          startDate := 0, endDate := 100, userTiers := [], maxAllocationsPerUser }),
      .request (.createAccount ['a'] .bonus .fixedDays 90)]

def askTwice (_ : Fin 2) : Request := .allocateFromCampaign ['a'] 0

def checkedFirst : List (Fin 2) :=
  List.replicate 8 0 ++ List.replicate 8 1 ++ List.replicate 4 0 ++ List.replicate 4 1

def checkedFirstPool (totalBudget maxAllocationsPerUser : ℤ) : CreditPool (Fin 2) :=
  (CreditPool.start ⟨false⟩ (campaignWorld totalBudget maxAllocationsPerUser)
    askTwice).schedule handle checkedFirst

/-- The campaign has 10 credits, for one allocation of each user. Both requests have ended,
and Alice has 20 credits in two allocations; 10 are recorded. -/
theorem not_keepsCampaign_twice :
    (campaignWorld 10 1).KeepsCampaign 0 0 ∧
      Pool.Reach handle Surroundings Pool.anyCall
        (CreditPool.start ⟨false⟩ (campaignWorld 10 1) askTwice) (checkedFirstPool 10 1) ∧
      (∀ i, ((checkedFirstPool 10 1).progs i).Ended) ∧
      ¬(checkedFirstPool 10 1).state.KeepsCampaign 0 (underWay 0 (checkedFirstPool 10 1)) := by
  refine ⟨keepsCampaign_of_fresh rfl rfl rfl (by decide) (by decide),
    Pool.Reach.start.schedule (Pool.permitted_anyCall _ _ _), by decide, ?_⟩
  rintro ⟨c, hc, -, hbudget, -⟩
  obtain rfl := some.inj (hc.symm.trans rfl)
  exact absurd hbudget (by decide)

/-- With 20 credits, for two allocations of each user, there is room for both. -/
theorem keepsCampaign_enough :
    (checkedFirstPool 20 2).state.KeepsCampaign 0 (underWay 0 (checkedFirstPool 20 2)) :=
  keepsCampaign_of_room (keepsCampaign_of_fresh rfl rfl rfl (by decide) (by decide))
    (by decide) (Pool.Reach.start.schedule (by decide))

end IsaUser.Credit
